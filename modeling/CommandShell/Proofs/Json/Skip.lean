import CommandShell.Proofs.Json.Numbers

/-!
# Values that nobody needs are passed over

`skipFrom` walks over a value with the open brackets in a list, so the lemmas tell from which stage
to which stage it comes, with any brackets open. Its fuel is measured along: a text costs at most
two turns for each of its characters (`Costs`), and the fuel that `skipValue` starts with is enough.

The induction is over the derivation of the value. A list and an object go through the same lemma:
what differs is the way to the value of an item, which is over the key and the colon in an object.
-/

namespace CommandShell.Json

namespace Cursor

variable {size : Nat}

/-- **Costs** — with any fuel that allows it, the walk comes from one place to another in at most
`n` turns. -/
def Costs (size n : Nat) (start : Nat → Except Failure Cursor) (stage : Stage)
    (frames : List Frame) (rest : List Char) : Prop :=
  ∀ fuel, n ≤ fuel → ∃ fuel' o', fuel ≤ fuel' + n ∧
    start fuel = skipFrom size fuel' stage frames ⟨rest, o'⟩

section Costs

variable {n n' : Nat} {start start' : Nat → Except Failure Cursor} {stage stage' : Stage}
  {frames frames' : List Frame} {rest rest' : List Char}

theorem Costs.here (o : Nat) :
    Costs size 0 (fun fuel => skipFrom size fuel stage frames ⟨rest, o⟩) stage frames rest :=
  fun fuel _ => ⟨fuel, o, Nat.le_refl fuel, rfl⟩

/-- One more turn at the start. -/
theorem Costs.turn (h : Costs size n start stage frames rest)
    (step : ∀ fuel, start' (fuel + 1) = start fuel) :
    Costs size (n + 1) start' stage frames rest := by
  intro fuel hfuel
  obtain ⟨fuel, rfl⟩ := Nat.exists_eq_add_one.mpr (show 0 < fuel by omega)
  obtain ⟨fuel', o', spent, h⟩ := h fuel (by omega)
  exact ⟨fuel', o', by omega, (step fuel).trans h⟩

theorem Costs.trans (h : Costs size n start stage frames rest)
    (h' : ∀ o, Costs size n' (fun fuel => skipFrom size fuel stage frames ⟨rest, o⟩) stage' frames'
      rest') :
    Costs size (n + n') start stage' frames' rest' := by
  intro fuel hfuel
  obtain ⟨fuel₁, o₁, spent, h⟩ := h fuel (by omega)
  obtain ⟨fuel₂, o₂, spent', h'⟩ := h' o₁ fuel₁ (by omega)
  exact ⟨fuel₂, o₂, by omega, h.trans h'⟩

theorem Costs.mono (h : Costs size n start stage frames rest) (le : n ≤ n') :
    Costs size n' start stage frames rest := by
  intro fuel hfuel
  obtain ⟨fuel', o', spent, h⟩ := h fuel (by omega)
  exact ⟨fuel', o', by omega, h⟩

end Costs

/-- **Passed** — the walk comes from before a value to behind it. -/
def Passed (t : List Char) : Prop :=
  ∀ (size : Nat) (frames : List Frame) (w : Gap) (rest : List Char) (o : Nat), t.length ≤ size →
    Ends rest →
      Costs size (2 * t.length)
        (fun fuel => skipFrom size fuel .value frames ⟨w.text ++ (t ++ rest), o⟩)
        .valued frames rest

/-- **PassedIn** — the walk comes from before an item of a bracket to behind it. -/
def PassedIn (frame : Frame) (t : List Char) : Prop :=
  ∀ (size : Nat) (frames : List Frame) (w : Gap) (rest : List Char) (o : Nat), t.length ≤ size →
    Ends rest →
      Costs size (2 * t.length)
        (fun fuel => skipToValue size frame ⟨w.text ++ (t ++ rest), o⟩ >>=
          skipFrom size fuel .value (frame :: frames))
        .valued (frame :: frames) rest

/-! ## Values that are no brackets -/

theorem passed_scalar {t : List Char} (begins : Begins t)
    (noBracket : ∀ x ∈ t.head?, x ≠ '[' ∧ x ≠ '\x7b')
    (passes : ∀ {size : Nat} {rest : List Char}, t.length ≤ size → Ends rest →
      Passes (skipScalar size) t rest) : Passed t := by
  intro size frames w rest o hsize ends
  obtain ⟨o₁, space⟩ := skipSpace_of_begins begins w rest o
  obtain ⟨o', passes⟩ := passes hsize ends o₁
  obtain ⟨x, t, rfl, -⟩ := begins
  obtain ⟨noList, noObject⟩ := noBracket x rfl
  have looked : peek? ⟨x :: t ++ rest, o₁⟩ = some x := rfl
  -- One turn is enough, and the text is not empty.
  have cheap : 0 + 1 ≤ 2 * (x :: t).length := by
    simp only [List.length_cons]
    omega
  refine ((Costs.here o').turn fun fuel => ?_).mono cheap
  simp only [skipFrom, space, looked]
  split
  · next h => exact absurd (Option.some.inj h) noList
  · next h => exact absurd (Option.some.inj h) noObject
  · rw [passes]
    rfl

theorem passes_unsigned {t : List Char} (h : IsUnsigned t) {rest : List Char} (ends : Ends rest) :
    Passes (skipScalar size) t rest := by
  intro o
  obtain ⟨o', skipped⟩ := skipNumber_unsigned h ends o
  obtain ⟨x, t, rfl, digit⟩ := h.begins
  refine ⟨o', ?_⟩
  -- Each of the other scalars begins with something that is no digit.
  have other : ∀ y : Char, y.isDigit = false → x ≠ y := fun y => isDigit_ne digit
  rw [← skipped]
  unfold skipScalar
  split
  · next he => exact absurd he (by simp)
  · next he => exact absurd (List.cons.inj he).1 (other 'n' (by decide))
  · next he => exact absurd (List.cons.inj he).1 (other 't' (by decide))
  · next he => exact absurd (List.cons.inj he).1 (other 'f' (by decide))
  · next he => exact absurd (List.cons.inj he).1 (other '-' (by decide))
  · next he => exact absurd (List.cons.inj he).1 (other '"' (by decide))
  · next y _ _ _ _ _ _ he =>
    obtain rfl := (List.cons.inj he).1
    rw [if_pos digit]

theorem passed_unsigned {t : List Char} (h : IsUnsigned t) : Passed t := by
  have begins := (IsValue.number h).begins
  obtain ⟨x, t', rfl, digit⟩ := h.begins
  refine passed_scalar begins ?_ fun _ ends => passes_unsigned h ends
  intro y hy
  obtain rfl := Option.some.inj hy
  exact ⟨isDigit_ne digit (by decide), isDigit_ne digit (by decide)⟩

theorem passed_negative {t : List Char} (h : IsUnsigned t) : Passed ('-' :: t) := by
  refine passed_scalar (IsValue.negative h).begins (by simp) ?_
  intro size rest _ ends o
  exact skipNumber_unsigned h ends (o + Char.utf8Size '-')

theorem passed_string {t : List Char} (h : IsContent t) : Passed (quoted t) := by
  refine passed_scalar (quoted_begins t) (by simp [quoted]) ?_
  intro size rest hsize _ o
  have hsize : t.length < size := by simp [quoted] at hsize; omega
  exact skipString_content h hsize rest (o + Char.utf8Size '"')

theorem passed_null : Passed ['n', 'u', 'l', 'l'] :=
  passed_scalar IsValue.null.begins (by simp)
    fun _ _ o => ⟨_, by simp [skipScalar, word, next]; rfl⟩

theorem passed_true : Passed ['t', 'r', 'u', 'e'] :=
  passed_scalar IsValue.true.begins (by simp)
    fun _ _ o => ⟨_, by simp [skipScalar, word, next]; rfl⟩

theorem passed_false : Passed ['f', 'a', 'l', 's', 'e'] :=
  passed_scalar IsValue.false.begins (by simp)
    fun _ _ o => ⟨_, by simp [skipScalar, word, next]; rfl⟩

/-! ## Brackets -/

theorem closer_mem (frame : Frame) : frame.closer ∈ [']', '\x7d'] := by
  cases frame <;> decide

theorem closer_isSpace (frame : Frame) : isSpace frame.closer = false := by
  cases frame <;> rfl

theorem closer_ne_comma (frame : Frame) : frame.closer ≠ ',' := by
  cases frame <;> decide

/-- One turn at a closing bracket leaves it behind. -/
theorem turn_closer (size : Nat) (frame : Frame) (frames : List Frame) {stage : Stage}
    (between : stage = .opened ∨ stage = .valued) (w : Gap) (rest : List Char) (o : Nat) :
    ∃ o', ∀ fuel, skipFrom size (fuel + 1) stage (frame :: frames)
      ⟨w.text ++ frame.closer :: rest, o⟩ = skipFrom size fuel .valued frames ⟨rest, o'⟩ := by
  obtain ⟨o₁, space⟩ := skipSpace_gap w (closer_isSpace frame) rest o
  refine ⟨o₁ + frame.closer.utf8Size, fun fuel => ?_⟩
  rcases between with rfl | rfl
  · simp only [skipFrom, space]
    show (if frame.closer = frame.closer then _ else _) = _
    rw [if_pos rfl]
    rfl
  · simp only [skipFrom, space]
    show (if frame.closer = ',' then _ else if frame.closer = frame.closer then _ else _) = _
    rw [if_neg (closer_ne_comma frame), if_pos rfl]
    rfl

/-- One turn at a comma leads to the next item. -/
theorem turn_comma (size : Nat) (frame : Frame) (frames : List Frame) (w : Gap) (rest : List Char)
    (o : Nat) :
    ∃ o', ∀ fuel, skipFrom size (fuel + 1) .valued (frame :: frames) ⟨w.text ++ ',' :: rest, o⟩ =
      (skipToValue size frame ⟨rest, o'⟩ >>= skipFrom size fuel .value (frame :: frames)) := by
  obtain ⟨o₁, space⟩ := skipSpace_gap w (show isSpace ',' = false by rfl) rest o
  refine ⟨o₁ + Char.utf8Size ',', fun fuel => ?_⟩
  simp only [skipFrom, space]
  rfl

/-- One turn behind an opening bracket leads to the first item. -/
theorem turn_first (size : Nat) (frame : Frame) (frames : List Frame) (w : Gap) {v : List Char}
    (begins : Begins v) (rest : List Char) (o : Nat) :
    ∃ o', ∀ fuel, skipFrom size (fuel + 1) .opened (frame :: frames) ⟨w.text ++ (v ++ rest), o⟩ =
      (skipToValue size frame ⟨v ++ rest, o'⟩ >>= skipFrom size fuel .value (frame :: frames)) := by
  obtain ⟨o₁, space⟩ := skipSpace_of_begins begins w rest o
  obtain ⟨x, v, rfl, -, noBracket⟩ := begins
  have notCloser : x ≠ frame.closer := by
    rintro rfl
    exact noBracket (List.mem_cons_of_mem _ (closer_mem frame))
  refine ⟨o₁, fun fuel => ?_⟩
  simp only [skipFrom, space]
  show (if x = frame.closer then _ else _) = _
  rw [if_neg notCloser]

/-- Behind an item the walk comes over the other items and the closing bracket. -/
theorem costs_following {frame : Frame} {vs : List (List Char)} {t : List Char}
    (layout : Following vs t) (items : ∀ v ∈ vs, PassedIn frame v) (frames : List Frame)
    (rest : List Char) (hsize : t.length ≤ size) (o : Nat) :
    Costs size (2 * t.length + 1)
      (fun fuel => skipFrom size fuel .valued (frame :: frames) ⟨t ++ frame.closer :: rest, o⟩)
      .valued frames rest := by
  induction layout generalizing o with
  | none w =>
    obtain ⟨o', step⟩ := turn_closer size frame frames (.inr rfl) w rest o
    exact ((Costs.here o').turn step).mono (by omega)
  | @more w w' v t vs layout ih =>
    simp only [List.length_append, List.length_cons] at hsize ⊢
    obtain ⟨o₁, step⟩ :=
      turn_comma size frame frames w (w'.text ++ (v ++ (t ++ frame.closer :: rest))) o
    have item := items v (by simp) size frames w' (t ++ frame.closer :: rest) o₁ (by omega)
      (layout.ends (closer_mem frame) rest)
    have others := ih (fun v hv => items v (List.mem_cons_of_mem _ hv)) (by omega)
    have whole : w.text ++ ',' :: (w'.text ++ (v ++ t)) ++ frame.closer :: rest =
        w.text ++ ',' :: (w'.text ++ (v ++ (t ++ frame.closer :: rest))) := by simp
    rw [whole]
    -- The turn before the item is paid for by the comma.
    exact ((item.turn step).trans others).mono (by omega)

/-- Behind an opening bracket the walk comes over the items and the closing bracket. -/
theorem costs_separated {frame : Frame} {vs : List (List Char)} {t : List Char}
    (layout : Separated vs t) (begins : ∀ v ∈ vs, Begins v) (items : ∀ v ∈ vs, PassedIn frame v)
    (frames : List Frame) (rest : List Char) (hsize : t.length ≤ size) (o : Nat) :
    Costs size (2 * t.length + 2)
      (fun fuel => skipFrom size fuel .opened (frame :: frames) ⟨t ++ frame.closer :: rest, o⟩)
      .valued frames rest := by
  cases layout with
  | none w =>
    obtain ⟨o', step⟩ := turn_closer size frame frames (.inl rfl) w rest o
    exact ((Costs.here o').turn step).mono (by omega)
  | @first w v t vs layout =>
    simp only [List.length_append] at hsize ⊢
    obtain ⟨o₁, step⟩ :=
      turn_first size frame frames w (begins v (by simp)) (t ++ frame.closer :: rest) o
    have item := items v (by simp) size frames Gap.none (t ++ frame.closer :: rest) o₁ (by omega)
      (layout.ends (closer_mem frame) rest)
    have others := costs_following layout (fun v hv => items v (List.mem_cons_of_mem _ hv)) frames
      rest (show t.length ≤ size by omega)
    have whole : w.text ++ (v ++ t) ++ frame.closer :: rest =
        w.text ++ (v ++ (t ++ frame.closer :: rest)) := by simp
    rw [whole]
    -- No comma pays for the turn before the first item: this is one of the two turns more.
    exact ((item.turn step).trans others).mono (by omega)

/-- Elements are passed over as the values that they are. -/
theorem passedIn_list {t : List Char} (h : Passed t) : PassedIn .list t :=
  fun size frames w rest o hsize ends => h size (.list :: frames) w rest o hsize ends

/-- A key and its colon are passed over up to the gap before the value. -/
theorem skipKey_member {m : Member} (key : IsContent m.key) (hsize : m.key.length < size) (w : Gap)
    (rest : List Char) (o : Nat) :
    ∃ o', skipKey size ⟨w.text ++ (m.text ++ rest), o⟩ =
      .ok ⟨m.after.text ++ (m.value ++ rest), o'⟩ := by
  obtain ⟨o₁, space⟩ := skipSpace_of_begins m.begins w rest o
  obtain ⟨o₂, skipped⟩ := skipString_content key hsize
    (m.before.text ++ ':' :: (m.after.text ++ (m.value ++ rest))) (o₁ + Char.utf8Size '"')
  obtain ⟨o₃, colon⟩ := skipSpace_gap m.before (show isSpace ':' = false by rfl)
    (m.after.text ++ (m.value ++ rest)) o₂
  refine ⟨o₃ + Char.utf8Size ':', ?_⟩
  have whole : m.text ++ rest = '"' :: (m.key ++ ['"'] ++
      (m.before.text ++ ':' :: (m.after.text ++ (m.value ++ rest)))) := by
    simp [Member.text, quoted]
  rw [whole] at space ⊢
  have behindKey : skipString size (next ⟨'"' :: (m.key ++ ['"'] ++
      (m.before.text ++ ':' :: (m.after.text ++ (m.value ++ rest)))), o₁⟩) =
      .ok ⟨m.before.text ++ ':' :: (m.after.text ++ (m.value ++ rest)), o₂⟩ := skipped
  simp only [skipKey, space, behindKey, bind, Except.bind, colon]
  rfl

theorem passedIn_object {m : Member} (key : IsContent m.key) (value : Passed m.value) :
    PassedIn .object m.text := by
  intro size frames w rest o hsize ends
  have length : m.text.length = m.key.length + 3 + m.before.text.length + m.after.text.length +
      m.value.length := by
    simp [Member.text, quoted]
    omega
  obtain ⟨o₁, skipped⟩ := skipKey_member key (show m.key.length < size by omega) w rest o
  have passed := value size (.object :: frames) m.after rest o₁ (by omega) ends
  have step : skipToValue size .object ⟨w.text ++ (m.text ++ rest), o⟩ =
      .ok ⟨m.after.text ++ (m.value ++ rest), o₁⟩ := skipped
  simp only [step]
  exact passed.mono (by omega)

/-- From before a bracket the walk comes to behind it. -/
theorem passed_bracket {frame : Frame} {opener : Char} {vs : List (List Char)} {t : List Char}
    (opens : ∀ size frames (w : Gap) rest o, ∃ o', ∀ fuel,
      skipFrom size (fuel + 1) .value frames ⟨w.text ++ opener :: rest, o⟩ =
        skipFrom size fuel .opened (frame :: frames) ⟨rest, o'⟩)
    (layout : Separated vs t) (begins : ∀ v ∈ vs, Begins v) (items : ∀ v ∈ vs, PassedIn frame v) :
    Passed (opener :: (t ++ [frame.closer])) := by
  intro size frames w rest o hsize _
  simp only [List.length_cons, List.length_append, List.length_nil] at hsize ⊢
  obtain ⟨o₁, opened⟩ := opens size frames w (t ++ frame.closer :: rest) o
  have passed := costs_separated layout begins items frames rest (show t.length ≤ size by omega) o₁
  have whole : opener :: (t ++ [frame.closer]) ++ rest = opener :: (t ++ frame.closer :: rest) := by
    simp
  rw [whole]
  exact (passed.turn opened).mono (by omega)

/-- One turn at an opening bracket. -/
theorem turn_list (size : Nat) (frames : List Frame) (w : Gap) (rest : List Char) (o : Nat) :
    ∃ o', ∀ fuel, skipFrom size (fuel + 1) .value frames ⟨w.text ++ '[' :: rest, o⟩ =
      skipFrom size fuel .opened (.list :: frames) ⟨rest, o'⟩ := by
  obtain ⟨o₁, space⟩ := skipSpace_gap w (show isSpace '[' = false by rfl) rest o
  refine ⟨o₁ + Char.utf8Size '[', fun fuel => ?_⟩
  simp only [skipFrom, space]
  rfl

/-- One turn at an opening brace. -/
theorem turn_object (size : Nat) (frames : List Frame) (w : Gap) (rest : List Char) (o : Nat) :
    ∃ o', ∀ fuel, skipFrom size (fuel + 1) .value frames ⟨w.text ++ '\x7b' :: rest, o⟩ =
      skipFrom size fuel .opened (.object :: frames) ⟨rest, o'⟩ := by
  obtain ⟨o₁, space⟩ := skipSpace_gap w (show isSpace '\x7b' = false by rfl) rest o
  refine ⟨o₁ + Char.utf8Size '\x7b', fun fuel => ?_⟩
  simp only [skipFrom, space]
  rfl

/-! ## All values -/

theorem passed_value {t : List Char} (h : IsValue t) : Passed t := by
  induction h with
  | null => exact passed_null
  | true => exact passed_true
  | false => exact passed_false
  | number unsigned => exact passed_unsigned unsigned
  | negative unsigned => exact passed_negative unsigned
  | string content => exact passed_string content
  | list values layout ih =>
    exact passed_bracket turn_list layout (fun v hv => (values v hv).begins)
      fun v hv => passedIn_list (ih v hv)
  | object keys values layout ih =>
    refine passed_bracket turn_object layout ?_ ?_
    · intro v hv
      obtain ⟨m, -, rfl⟩ := List.mem_map.mp hv
      exact m.begins
    · intro v hv
      obtain ⟨m, hm, rfl⟩ := List.mem_map.mp hv
      exact passedIn_object (keys m hm) (ih m hm)

/-- **skipValue_value** — a value of any depth is passed over. -/
theorem skipValue_value {t : List Char} (h : IsValue t) (w : Gap) {rest : List Char}
    (hsize : t.length ≤ size) (ends : Ends rest) :
    Passes (skipValue size) (w.text ++ t) rest := by
  intro o
  obtain ⟨fuel, o', spent, passed⟩ :=
    passed_value h size [] w rest o hsize ends (2 * size + 2) (by omega)
  obtain ⟨fuel, rfl⟩ := Nat.exists_eq_add_one.mpr (show 0 < fuel by omega)
  refine ⟨o', ?_⟩
  rw [skipValue, List.append_assoc]
  exact passed

end Cursor

end CommandShell.Json
