import CommandShell.Proofs.Json.Skip
import Mathlib.Data.List.Forall2

/-!
# Readers of single values and of lists

`Reads` says that a reader reads a text as a value, whatever white space is before it and whatever
is behind it, as long as that does not go on with the value. The texts are those that
`IsString`, `IsBoolean`, `IsNatural`, `IsOptional` and `IsList` tell, and `read_document` takes a
reader to a whole text.
-/

namespace CommandShell.Json

variable {α : Type}

/-! ## What a text tells -/

/-- **IsString** — a text that spells a string. -/
def IsString (s : String) (t : List Char) : Prop := ∃ c, Spells c s.toList ∧ t = quoted c

/-- The text of a truth value. -/
def IsBoolean (b : Bool) (t : List Char) : Prop := t = (toString b).toList

/-- The text of a natural number. -/
def IsNatural (n : Nat) (t : List Char) : Prop := t = (toString n).toList

/-- The text of a value that may be absent. -/
def IsOptional (IsText : α → List Char → Prop) : Option α → List Char → Prop
  | none, t => t = ['n', 'u', 'l', 'l']
  | some x, t => IsText x t

/-- **IsList** — the text of a list. -/
def IsList (IsText : α → List Char → Prop) (xs : List α) (t : List Char) : Prop :=
  ∃ vs t', List.Forall₂ IsText xs vs ∧ Separated vs t' ∧ t = '[' :: (t' ++ [']'])

/-- **IsDocument** — a text with white space around it. -/
def IsDocument (IsText : List Char → Prop) (t : List Char) : Prop :=
  ∃ (w w' : Gap) (v : List Char), IsText v ∧ t = w.text ++ (v ++ w'.text)

theorem isDocument_of_text {IsText : List Char → Prop} {t : List Char} (h : IsText t) :
    IsDocument IsText t :=
  ⟨Gap.none, Gap.none, t, h, by simp [Gap.none]⟩

/-- Each element of the left list has its partner in the right one. -/
theorem exists_partner {β : Type} {R : α → β → Prop} {xs : List α} {ys : List β}
    (h : List.Forall₂ R xs ys) {x : α} (hx : x ∈ xs) : ∃ y ∈ ys, R x y := by
  induction h with
  | nil => exact absurd hx List.not_mem_nil
  | @cons x' y xs ys one others ih =>
    rcases List.mem_cons.mp hx with rfl | hx
    · exact ⟨y, List.mem_cons_self, one⟩
    · obtain ⟨z, hz, related⟩ := ih hx
      exact ⟨z, List.mem_cons_of_mem y hz, related⟩

/-! ## Single values -/

/-- **Reads** — a reader reads a text as a value, whatever white space is before it. -/
def Reads (r : Reader α) (t : List Char) (x : α) : Prop :=
  ∀ (size : Nat) (w : Gap) (rest : List Char), t.length ≤ size → Ends rest →
    Yields (r size) (w.text ++ t) rest x

theorem IsString.begins {s : String} {t : List Char} (h : IsString s t) :
    ∃ t', t = '"' :: t' := by
  obtain ⟨c, -, rfl⟩ := h
  exact ⟨_, rfl⟩

theorem reads_text {s : String} {t : List Char} (h : IsString s t) (expected : String) :
    Reads (.text expected) t s := by
  obtain ⟨c, spells, rfl⟩ := h
  intro size w rest hsize _ o
  have hsize : c.length < size := by simp [quoted] at hsize; omega
  obtain ⟨o₁, space⟩ := Cursor.skipSpace_of_begins (quoted_begins c) w rest o
  obtain ⟨o', read⟩ := Cursor.string_spells spells hsize rest (o₁ + Char.utf8Size '"')
  rw [String.ofList_toList] at read
  refine ⟨o', ?_⟩
  simp only [List.append_assoc, Reader.text, space]
  exact read

theorem reads_truth {b : Bool} {t : List Char} (h : IsBoolean b t) : Reads .truth t b := by
  obtain rfl := h
  intro size w rest _ _ o
  cases b with
  | false =>
    obtain ⟨o₁, space⟩ := Cursor.skipSpace_of_begins IsValue.false.begins w rest o
    rw [List.append_assoc, show (toString false).toList = ['f', 'a', 'l', 's', 'e'] by decide]
    simp only [Reader.truth, space]
    exact ⟨_, rfl⟩
  | true =>
    obtain ⟨o₁, space⟩ := Cursor.skipSpace_of_begins IsValue.true.begins w rest o
    rw [List.append_assoc, show (toString true).toList = ['t', 'r', 'u', 'e'] by decide]
    simp only [Reader.truth, space]
    exact ⟨_, rfl⟩

/-- The text of a natural number begins with a digit. -/
theorem IsNatural.begins {n : Nat} {t : List Char} (h : IsNatural n t) :
    t = Nat.toDigits 10 n ∧ ∃ x t', t = x :: t' ∧ x.isDigit = true := by
  have text : t = Nat.toDigits 10 n := by
    rw [h, Nat.toString_eq_repr, Nat.repr_eq_ofList_toDigits, String.toList_ofList]
  refine ⟨text, ?_⟩
  obtain ⟨x, t', digits⟩ := List.exists_cons_of_ne_nil (Nat.toDigits_ne_nil (n := n) (b := 10))
  refine ⟨x, t', text.trans digits, ?_⟩
  exact Nat.isDigit_of_mem_toDigits (by omega) (by omega) (digits ▸ List.mem_cons_self)

theorem reads_count {n : Nat} (hn : n ≤ significandLimit) {t : List Char} (h : IsNatural n t) :
    Reads .count t n := by
  obtain ⟨text, x, t', cons, digit⟩ := h.begins
  intro size w rest _ ends o
  have begins : Begins t := ⟨x, t', cons, isDigit_begins digit⟩
  obtain ⟨o₁, space⟩ := Cursor.skipSpace_of_begins begins w rest o
  obtain ⟨o', read⟩ := Cursor.number_toDigits hn ends o₁
  refine ⟨o', ?_⟩
  rw [← text, cons] at read
  dsimp only at read
  rw [cons] at space ⊢
  rw [List.cons_append] at space
  simp only [List.append_assoc, List.cons_append, Reader.count, space]
  have noSign : x ≠ '-' := Cursor.isDigit_ne digit (by decide)
  split
  · next he => exact absurd he (by simp)
  · next he => exact absurd (List.cons.inj he).1 noSign
  · next y _ _ he =>
    obtain rfl := (List.cons.inj he).1
    rw [if_pos digit]
    show (Cursor.number ⟨x :: t' ++ rest, o₁⟩ false >>= _) = _
    rw [read]
    rfl

theorem reads_optional {r : Reader α} {IsText : α → List Char → Prop} {x : Option α}
    {t : List Char} (reads : ∀ y ∈ x, IsText y t → Reads r t y)
    (begins : ∀ y ∈ x, IsText y t → ∃ c t', t = c :: t' ∧ Cursor.isSpace c = false ∧ c ≠ 'n')
    (h : IsOptional IsText x t) : Reads (.optional r) t x := by
  intro size w rest hsize ends o
  cases x with
  | none =>
    obtain rfl := h
    obtain ⟨o₁, space⟩ := Cursor.skipSpace_of_begins IsValue.null.begins w rest o
    simp only [List.append_assoc, Reader.optional, space]
    exact ⟨_, rfl⟩
  | some x =>
    obtain ⟨c, t', rfl, noSpace, notNull⟩ := begins x rfl h
    obtain ⟨o₁, space⟩ := Cursor.skipSpace_gap w noSpace (t' ++ rest) o
    obtain ⟨o', read⟩ := reads x rfl h size Gap.none rest hsize ends o₁
    refine ⟨o', ?_⟩
    simp only [List.append_assoc, List.cons_append, Reader.optional, space]
    split
    · next he => exact absurd (List.cons.inj he).1 notNull
    · show (r size ⟨Gap.none.text ++ c :: t' ++ rest, o₁⟩ >>= _) = _
      rw [read]
      rfl

/-! ## Lists -/

namespace Reader

/-- At the closing bracket the list ends. -/
theorem element_end (first : Bool) (w : Gap) (rest : List Char) (o : Nat) :
    ∃ o', Cursor.element first ⟨w.text ++ ']' :: rest, o⟩ = .ok (false, ⟨']' :: rest, o'⟩) := by
  obtain ⟨o₁, space⟩ := Cursor.skipSpace_gap w (show Cursor.isSpace ']' = false by rfl) rest o
  exact ⟨o₁, by simp only [Cursor.element, space]⟩

/-- At the beginning the first element follows. -/
theorem element_first {v : List Char} (begins : Begins v) (w : Gap) (rest : List Char) (o : Nat) :
    ∃ o', Cursor.element true ⟨w.text ++ (v ++ rest), o⟩ = .ok (true, ⟨v ++ rest, o'⟩) := by
  obtain ⟨x, v, rfl, noSpace, noBracket⟩ := begins
  obtain ⟨o₁, space⟩ := Cursor.skipSpace_gap w noSpace (v ++ rest) o
  refine ⟨o₁, ?_⟩
  simp only [List.cons_append, Cursor.element, space]
  split
  · next he => exact absurd he (by simp)
  · next he => exact absurd ((List.cons.inj he).1 ▸ noBracket) (by simp)
  · next he => exact absurd ((List.cons.inj he).1 ▸ noBracket) (by simp)
  · rfl

/-- Behind a comma another element follows. -/
theorem element_comma {v : List Char} (begins : Begins v) (w w' : Gap) (rest : List Char)
    (o : Nat) :
    ∃ o', Cursor.element false ⟨w.text ++ ',' :: (w'.text ++ (v ++ rest)), o⟩ =
      .ok (true, ⟨v ++ rest, o'⟩) := by
  obtain ⟨x, v, rfl, noSpace, noBracket⟩ := begins
  obtain ⟨o₁, space⟩ := Cursor.skipSpace_gap w (show Cursor.isSpace ',' = false by rfl)
    (w'.text ++ x :: (v ++ rest)) o
  obtain ⟨o₂, space'⟩ := Cursor.skipSpace_gap w' noSpace (v ++ rest) (o₁ + Char.utf8Size ',')
  refine ⟨o₂, ?_⟩
  simp only [List.cons_append, Cursor.element, space, Bool.false_eq_true, if_false, Cursor.next,
    space']
  split
  · next he => exact absurd he (by simp)
  · next he => exact absurd ((List.cons.inj he).1 ▸ noBracket) (by simp)
  · rfl

variable {r : Reader α} {size : Nat}

/-- One turn reads one element. -/
theorem elementsFrom_turn {v : List Char} {x : α} (reads : Reads r v x) (hsize : v.length ≤ size)
    {rest : List Char} (ends : Ends rest) (got : List α) {c : Cursor} {o : Nat}
    (follows : c.element got.isEmpty = .ok (true, ⟨v ++ rest, o⟩)) :
    ∃ o', ∀ fuel, elementsFrom r size (fuel + 1) got c =
      elementsFrom r size fuel (x :: got) ⟨rest, o'⟩ := by
  obtain ⟨o', read⟩ := reads size Gap.none rest hsize ends o
  refine ⟨o', fun fuel => ?_⟩
  rw [elementsFrom, follows]
  show (r size ⟨Gap.none.text ++ v ++ rest, o⟩ >>= _) = _
  rw [read]
  rfl

/-- The last turn finds the closing bracket. -/
theorem elementsFrom_end {rest : List Char} {got : List α} {c : Cursor} {o : Nat}
    (ended : c.element got.isEmpty = .ok (false, ⟨']' :: rest, o⟩)) (fuel : Nat) :
    elementsFrom r size (fuel + 1) got c = .ok (got.reverse, ⟨']' :: rest, o⟩) := by
  rw [elementsFrom, ended]
  rfl

/-- The elements that follow are read one after the other. -/
theorem elementsFrom_following {vs : List (List Char)} {t : List Char} (layout : Following vs t)
    {xs : List α} (reads : List.Forall₂ (fun x v => Begins v ∧ Reads r v x) xs vs)
    (hsize : t.length ≤ size) (rest : List Char) {fuel : Nat} (hfuel : t.length < fuel) (x : α)
    (got : List α) :
    Yields (elementsFrom r size fuel (x :: got)) t (']' :: rest) ((x :: got).reverse ++ xs) := by
  induction layout generalizing xs x got fuel with
  | none w =>
    obtain rfl := List.forall₂_nil_right_iff.mp reads
    intro o
    obtain ⟨fuel, rfl⟩ := Nat.exists_eq_add_one.mpr (Nat.zero_lt_of_lt hfuel)
    obtain ⟨o', ended⟩ := element_end (x :: got).isEmpty w rest o
    exact ⟨o', by rw [elementsFrom_end ended, List.append_nil]⟩
  | @more w w' v t vs layout ih =>
    obtain ⟨y, ys, ⟨begins, one⟩, others, rfl⟩ := List.forall₂_cons_right_iff.mp reads
    intro o
    simp only [List.length_append, List.length_cons] at hsize hfuel
    obtain ⟨fuel, rfl⟩ := Nat.exists_eq_add_one.mpr (show 0 < fuel by omega)
    obtain ⟨o₁, follows⟩ := element_comma begins w w' (t ++ ']' :: rest) o
    obtain ⟨o₂, turn⟩ := elementsFrom_turn one (show v.length ≤ size by omega)
      (layout.ends (by simp) rest) (x :: got) follows
    obtain ⟨o', read⟩ :=
      ih others (by omega) (show t.length < fuel by omega) y (x :: got) o₂
    refine ⟨o', ?_⟩
    have whole : w.text ++ ',' :: (w'.text ++ (v ++ t)) ++ ']' :: rest =
        w.text ++ ',' :: (w'.text ++ (v ++ (t ++ ']' :: rest))) := by simp
    rw [whole, turn, read, List.reverse_cons, List.append_assoc]
    rfl

/-- The elements between the brackets are read one after the other. -/
theorem elementsFrom_separated {vs : List (List Char)} {t : List Char} (layout : Separated vs t)
    {xs : List α} (reads : List.Forall₂ (fun x v => Begins v ∧ Reads r v x) xs vs)
    (hsize : t.length ≤ size) (rest : List Char) {fuel : Nat} (hfuel : t.length < fuel) :
    Yields (elementsFrom r size fuel []) t (']' :: rest) xs := by
  intro o
  obtain ⟨fuel, rfl⟩ := Nat.exists_eq_add_one.mpr (Nat.zero_lt_of_lt hfuel)
  cases layout with
  | none w =>
    obtain rfl := List.forall₂_nil_right_iff.mp reads
    obtain ⟨o', ended⟩ := element_end ([] : List α).isEmpty w rest o
    exact ⟨o', elementsFrom_end ended fuel⟩
  | @first w v t vs layout =>
    obtain ⟨x, xs, ⟨begins, one⟩, others, rfl⟩ := List.forall₂_cons_right_iff.mp reads
    simp only [List.length_append] at hsize hfuel
    have nonempty : 0 < v.length := by
      obtain ⟨y, v', rfl, -⟩ := begins
      exact Nat.succ_pos _
    obtain ⟨o₁, follows⟩ := element_first begins w (t ++ ']' :: rest) o
    obtain ⟨o₂, turn⟩ := elementsFrom_turn one (show v.length ≤ size by omega)
      (layout.ends (by simp) rest) [] follows
    obtain ⟨o', read⟩ :=
      elementsFrom_following layout others (show t.length ≤ size by omega) rest
        (show t.length < fuel by omega) x [] o₂
    refine ⟨o', ?_⟩
    have whole : w.text ++ (v ++ t) ++ ']' :: rest = w.text ++ (v ++ (t ++ ']' :: rest)) := by simp
    rw [whole, turn, read]
    rfl

end Reader

theorem IsList.begins {IsText : α → List Char → Prop} {xs : List α} {t : List Char}
    (h : IsList IsText xs t) : Begins t := by
  obtain ⟨vs, t', -, -, rfl⟩ := h
  exact ⟨'[', _, rfl, by decide, by decide⟩

theorem reads_list {r : Reader α} {IsText : α → List Char → Prop}
    (reads : ∀ x t, IsText x t → Begins t ∧ Reads r t x) {xs : List α} {t : List Char}
    (h : IsList IsText xs t) : Reads (.list r) t xs := by
  have begins := h.begins
  obtain ⟨vs, t, texts, layout, rfl⟩ := h
  intro size w rest hsize _ o
  simp only [List.length_cons, List.length_append, List.length_nil] at hsize
  obtain ⟨o₁, space⟩ := Cursor.skipSpace_of_begins begins w rest o
  obtain ⟨o₂, read⟩ := Reader.elementsFrom_separated layout (texts.imp reads)
    (show t.length ≤ size by omega) rest (show t.length < size by omega) (o₁ + Char.utf8Size '[')
  refine ⟨o₂ + Char.utf8Size ']', ?_⟩
  simp only [List.append_assoc, Reader.list, space]
  have whole : '[' :: (t ++ [']']) ++ rest = '[' :: (t ++ ']' :: rest) := by simp
  rw [whole]
  show (Reader.elementsFrom r size size [] ⟨t ++ ']' :: rest, o₁ + Char.utf8Size '['⟩ >>= _) = _
  rw [read]
  rfl

/-! ## Whole texts -/

/-- A text with white space around what a reader reads is read. -/
theorem read_document {r : Reader α} {IsText : List Char → Prop} {x : α}
    (reads : ∀ t, IsText t → Reads r t x) {source : String}
    (h : IsDocument IsText source.toList) : read r source = .ok x := by
  obtain ⟨w, w', t, text, whole⟩ := h
  have ends : Ends w'.text := by
    intro x hx
    exact .inl (w'.blank x (List.mem_of_mem_head? hx))
  obtain ⟨o', answer⟩ := reads t text (source.toList.length + 1) w w'.text
    (by rw [whole]; simp; omega) ends 0
  have start : Cursor.start source = ⟨w.text ++ t ++ w'.text, 0⟩ := by
    rw [Cursor.start, whole, List.append_assoc]
  have size : (Cursor.start source).rest.length = source.toList.length := rfl
  simp only [read, size]
  rw [start, answer]
  show (if (Cursor.skipSpace ⟨w'.text, o'⟩).rest.isEmpty then _ else _) = _
  rw [Cursor.skipSpace_end w' o']
  rfl

end CommandShell.Json
