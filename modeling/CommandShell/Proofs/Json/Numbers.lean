import CommandShell.Proofs.Json.Strings

/-!
# Numbers in a JSON text

A number is read up to a character that does not go on with it, so these lemmas ask that the text
behind it `Ends` the value. A number that nobody needs is passed over with its fraction and its
exponent (`skipNumber_unsigned`). The digits of a natural number of at most 64 bits are gathered
into that number (`number_toDigits`).
-/

namespace CommandShell.Json

namespace Cursor

/-! ## Digits -/

/-- A text that begins with no digit. -/
def NoDigit (rest : List Char) : Prop := ∀ x ∈ rest.head?, x.isDigit = false

theorem takeWhile_isDigit {t rest : List Char} (ht : ∀ x ∈ t, x.isDigit = true)
    (hr : NoDigit rest) : (t ++ rest).takeWhile Char.isDigit = t := by
  rw [List.takeWhile_append_of_pos ht]
  cases rest with
  | nil => simp
  | cons x rest => simp [hr x rfl]

theorem skip_digitCount {t rest : List Char} (ht : ∀ x ∈ t, x.isDigit = true) (hr : NoDigit rest)
    (o : Nat) :
    skip ⟨t ++ rest, o⟩ (digitCount ⟨t ++ rest, o⟩) = ⟨rest, o + t.length⟩ := by
  simp only [digitCount, takeWhile_isDigit ht hr, skip, List.drop_left]

theorem atDigit_eq_false {rest : List Char} (h : NoDigit rest) (o : Nat) :
    atDigit ⟨rest, o⟩ = false := by
  cases rest with
  | nil => rfl
  | cons x rest => exact h x rfl

theorem isDigit_ne {x y : Char} (hx : x.isDigit = true) (hy : y.isDigit = false) : x ≠ y := by
  rintro rfl
  exact absurd (hx.symm.trans hy) (by decide)

/-! ## Numbers that nobody needs -/

/-- A text that begins with no mark of an exponent. -/
def NoExponent (rest : List Char) : Prop := ∀ x ∈ rest.head?, x ∉ ['e', 'E']

theorem atExponent_eq_false {rest : List Char} (h : NoExponent rest) (o : Nat) :
    atExponent ⟨rest, o⟩ = false := by
  cases rest with
  | nil => rfl
  | cons x rest =>
    have hx := h x rfl
    simp only [List.mem_cons, List.not_mem_nil, or_false, not_or] at hx
    simp [atExponent, peek?, hx.1, hx.2]

end Cursor

theorem Ends.head {rest : List Char} (h : Ends rest) {x : Char} (hx : x ∈ rest.head?) :
    x ∈ [' ', '\n', '\t', '\r', ',', ']', '\x7d'] := by
  rcases h x hx with space | bracket
  · simp only [Cursor.isSpace, Bool.or_eq_true, beq_iff_eq] at space
    rcases space with ((rfl | rfl) | rfl) | rfl <;> decide
  · exact List.mem_append_right [' ', '\n', '\t', '\r'] bracket

theorem Ends.noDigit {rest : List Char} (h : Ends rest) : Cursor.NoDigit rest := by
  intro x hx
  have none : [' ', '\n', '\t', '\r', ',', ']', '\x7d'].all (!·.isDigit) = true := by decide
  simpa using List.all_eq_true.mp none x (h.head hx)

theorem Ends.noExponent {rest : List Char} (h : Ends rest) : Cursor.NoExponent rest := by
  intro x hx
  have none : [' ', '\n', '\t', '\r', ',', ']', '\x7d'].all
      (fun x => x != 'e' && x != 'E') = true := by decide
  simpa using List.all_eq_true.mp none x (h.head hx)

theorem Ends.noPoint {rest : List Char} (h : Ends rest) : rest.head? ≠ some '.' := fun hx =>
  (by decide : '.' ∉ [' ', '\n', '\t', '\r', ',', ']', '\x7d']) (h.head hx)

namespace Cursor

theorem skipExponent_digits {mark : Char} {sign t : List Char}
    (sign_mem : sign ∈ [[], ['+'], ['-']]) (digits : IsDigits t) {rest : List Char}
    (h : NoDigit rest) :
    Passes skipExponent (mark :: (sign ++ t)) rest := by
  intro o
  obtain ⟨x, t, rfl⟩ := List.exists_cons_of_ne_nil digits.1
  have hx : x.isDigit = true := digits.2 x (by simp)
  have signed : ∃ o₁, (exponentSign ⟨mark :: (sign ++ x :: t) ++ rest, o⟩).2 =
      ⟨x :: t ++ rest, o₁⟩ := by
    simp only [List.mem_cons, List.not_mem_nil, or_false] at sign_mem
    rcases sign_mem with rfl | rfl | rfl
    · refine ⟨o + mark.utf8Size, ?_⟩
      have plus := isDigit_ne hx (show '+'.isDigit = false by decide)
      have minus := isDigit_ne hx (show '-'.isDigit = false by decide)
      simp [exponentSign, next, peek?, plus, minus]
    · exact ⟨_, rfl⟩
    · exact ⟨_, rfl⟩
  obtain ⟨o₁, signed⟩ := signed
  refine ⟨o₁ + (x :: t).length, ?_⟩
  simp only [skipExponent, signed]
  show (if x.isDigit then _ else _) = _
  rw [if_pos hx, skip_digitCount digits.2 h]

theorem skipFraction_exponent {e : List Char} (exponent : IsExponent e) {rest : List Char}
    (h : Ends rest) (o : Nat) :
    ∃ o', (if atExponent ⟨e ++ rest, o⟩ then skipExponent ⟨e ++ rest, o⟩ else .ok ⟨e ++ rest, o⟩) =
      .ok ⟨rest, o'⟩ := by
  cases exponent with
  | absent => exact ⟨o, by rw [List.nil_append, atExponent_eq_false h.noExponent, if_neg (by simp)]⟩
  | @digits mark sign t mark_mem sign_mem digits =>
    have at_mark : atExponent ⟨mark :: (sign ++ t) ++ rest, o⟩ = true := by
      simp only [List.mem_cons, List.not_mem_nil, or_false] at mark_mem
      rcases mark_mem with rfl | rfl <;> rfl
    rw [if_pos at_mark]
    exact skipExponent_digits sign_mem digits h.noDigit o

theorem IsExponent.head_not_digit {e : List Char} (exponent : IsExponent e) {rest : List Char}
    (h : Ends rest) : NoDigit (e ++ rest) := by
  cases exponent with
  | absent => exact h.noDigit
  | digits mark_mem =>
    intro x hx
    obtain rfl : _ = x := by simpa using hx
    simp only [List.mem_cons, List.not_mem_nil, or_false] at mark_mem
    rcases mark_mem with rfl | rfl <;> rfl

theorem IsExponent.head_ne_point {e : List Char} (exponent : IsExponent e) {rest : List Char}
    (h : Ends rest) : (e ++ rest).head? ≠ some '.' := by
  cases exponent with
  | absent => exact h.noPoint
  | digits mark_mem =>
    intro hx
    obtain rfl : _ = '.' := by simpa using hx
    exact absurd mark_mem (by decide)

theorem skipFraction_spec {f e : List Char} (fraction : IsFraction f) (exponent : IsExponent e)
    {rest : List Char} (h : Ends rest) : Passes skipFraction (f ++ e) rest := by
  intro o
  cases fraction with
  | absent =>
    have no_point : peek? ⟨e ++ rest, o⟩ ≠ some '.' := IsExponent.head_ne_point exponent h
    obtain ⟨o', skipped⟩ := skipFraction_exponent exponent h o
    refine ⟨o', ?_⟩
    rw [List.nil_append, skipFraction, if_neg no_point]
    exact skipped
  | @digits t digits =>
    obtain ⟨o', skipped⟩ :=
      skipFraction_exponent exponent h (o + Char.utf8Size '.' + t.length)
    refine ⟨o', ?_⟩
    have at_digit : atDigit ⟨t ++ (e ++ rest), o + Char.utf8Size '.'⟩ = true := by
      obtain ⟨x, t, rfl⟩ := List.exists_cons_of_ne_nil digits.1
      exact digits.2 x (by simp)
    unfold skipFraction
    rw [if_pos (show peek? ⟨'.' :: t ++ e ++ rest, o⟩ = some '.' from rfl)]
    have next_eq : next ⟨'.' :: t ++ e ++ rest, o⟩ = ⟨t ++ (e ++ rest), o + Char.utf8Size '.'⟩ := by
      simp [next]
    simp only [next_eq, at_digit, Bool.not_true, Bool.false_eq_true, if_false,
      skip_digitCount digits.2 (IsExponent.head_not_digit exponent h), skipped]

theorem skipNumber_unsigned {t : List Char} (h : IsUnsigned t) {rest : List Char}
    (ends : Ends rest) : Passes skipNumber t rest := by
  intro o
  obtain @⟨i, f, e, integral, fraction, exponent⟩ := h
  have no_digit : NoDigit (f ++ e ++ rest) := by
    cases fraction with
    | absent => exact IsExponent.head_not_digit exponent ends
    | digits => simp [NoDigit]
  have whole : i ++ (f ++ e) ++ rest = i ++ (f ++ e ++ rest) := by simp only [List.append_assoc]
  rw [whole]
  cases integral with
  | zero =>
    obtain ⟨o', skipped⟩ := skipFraction_spec fraction exponent ends (o + Char.utf8Size '0')
    refine ⟨o', ?_⟩
    show (if atDigit ⟨f ++ e ++ rest, o + Char.utf8Size '0'⟩ then _ else _) = _
    rw [if_neg (by rw [atDigit_eq_false no_digit]; exact Bool.false_ne_true)]
    exact skipped
  | @digits x t digits nonzero =>
    obtain ⟨o', skipped⟩ := skipFraction_spec fraction exponent ends (o + (x :: t).length)
    refine ⟨o', ?_⟩
    have hx : x.isDigit = true := digits.2 x (by simp)
    show (if x = '0' then _ else if x.isDigit then _ else _) = _
    rw [if_neg nonzero, if_pos hx, skip_digitCount digits.2 no_digit]
    exact skipped

/-! ## Natural numbers -/

/-- The number that digits stand for after those of `n`. -/
theorem ofDigitChars_cons (n : Nat) (x : Char) (t : List Char) :
    Nat.ofDigitChars 10 (x :: t) n = Nat.ofDigitChars 10 t (n * 10 + digitValue x) := by
  rw [Nat.ofDigitChars_cons, Nat.mul_comm 10 n]
  rfl

theorem le_ofDigitChars (t : List Char) (n : Nat) : n ≤ Nat.ofDigitChars 10 t n := by
  induction t generalizing n with
  | nil => exact Nat.le_refl n
  | cons x t ih =>
    rw [ofDigitChars_cons]
    exact Nat.le_trans (by omega) (ih _)

/-- All digits are gathered if the number stays within the limit. -/
theorem gather_digits {limit : Nat} {t rest : List Char} (ht : ∀ x ∈ t, x.isDigit = true)
    (hr : NoDigit rest) (n count : Nat) (within : Nat.ofDigitChars 10 t n ≤ limit) :
    gather limit n count (t ++ rest) = ⟨Nat.ofDigitChars 10 t n, count + t.length, rest⟩ := by
  induction t generalizing n count with
  | nil =>
    cases rest with
    | nil => rfl
    | cons x rest =>
      have hx : x.isDigit = false := hr x rfl
      show gather limit n count (x :: rest) = _
      rw [gather, if_neg (by rw [hx]; simp)]
      rfl
  | cons x t ih =>
    have hx : x.isDigit = true := ht x (by simp)
    rw [ofDigitChars_cons] at within ⊢
    -- What is gathered so far is no more than what is gathered in the end.
    have small := Nat.le_trans (le_ofDigitChars t _) within
    rw [List.cons_append, gather, if_pos ⟨hx, small⟩,
      ih (fun y hy => ht y (List.mem_cons_of_mem x hy)) _ _ within, List.length_cons]
    congr 1
    omega

/-- The text of a number above zero does not begin with a zero. -/
theorem toDigits_head {n : Nat} (hn : 0 < n) : (Nat.toDigits 10 n).head? ≠ some '0' := by
  induction n using Nat.strongRecOn with
  | ind n ih =>
    rcases Nat.lt_or_ge n 10 with small | large
    · rw [Nat.toDigits_of_lt_base small]
      have : ∀ n < 10, 0 < n → [n.digitChar].head? ≠ some '0' := by decide
      exact this n small hn
    · have shorter := ih (n / 10) (by omega) (by omega)
      obtain ⟨x, t, text⟩ :=
        List.exists_cons_of_ne_nil (Nat.toDigits_ne_nil (n := n / 10) (b := 10))
      rw [Nat.toDigits_of_base_le (by omega) large, text]
      rwa [text] at shorter

theorem afterIntegral_natural {rest : List Char} (ends : Ends rest) (n o : Nat) :
    afterIntegral ⟨rest, o⟩ false n 0 = .ok (.natural n, ⟨rest, o⟩) := by
  have no_point : peek? ⟨rest, o⟩ ≠ some '.' := ends.noPoint
  rw [afterIntegral, if_neg no_point, atExponent_eq_false ends.noExponent]
  rfl

/-- A natural number of at most 64 bits is read from its digits. -/
theorem number_toDigits {n : Nat} (hn : n ≤ significandLimit) {rest : List Char}
    (ends : Ends rest) : Yields (number · false) (Nat.toDigits 10 n) rest (.natural n) := by
  intro o
  rcases Nat.eq_zero_or_pos n with rfl | positive
  · -- Behind a zero no digit may follow, so it is read apart.
    refine ⟨o + Char.utf8Size '0', ?_⟩
    show (if atDigit ⟨rest, o + Char.utf8Size '0'⟩ then _ else _) = _
    rw [if_neg (by rw [atDigit_eq_false ends.noDigit]; exact Bool.false_ne_true)]
    exact afterIntegral_natural ends 0 _
  · have digits : ∀ x ∈ Nat.toDigits 10 n, x.isDigit = true := fun x hx =>
      Nat.isDigit_of_mem_toDigits (by omega) (by omega) hx
    have value : Nat.ofDigitChars 10 (Nat.toDigits 10 n) 0 = n :=
      Nat.ofDigitChars_toDigits (by omega) (by omega)
    have gathered := gather_digits digits ends.noDigit 0 0 (value.symm ▸ hn)
    have nonzero := toDigits_head positive
    rw [value, Nat.zero_add] at gathered
    obtain ⟨x, t, text⟩ := List.exists_cons_of_ne_nil (Nat.toDigits_ne_nil (n := n) (b := 10))
    rw [text] at digits gathered nonzero ⊢
    have hx : x.isDigit = true := digits x (by simp)
    have skipped : skip ⟨x :: t ++ rest, o⟩ (x :: t).length = ⟨rest, o + (x :: t).length⟩ := by
      simp only [skip, List.drop_left]
    have none_left : digitCount ⟨rest, o + (x :: t).length⟩ = 0 := by
      have taken := takeWhile_isDigit (t := []) (by simp) ends.noDigit
      rw [List.nil_append] at taken
      rw [digitCount, taken, List.length_nil]
    refine ⟨o + (x :: t).length, ?_⟩
    have nonzero : x ≠ '0' := fun hx => nonzero (congrArg some hx)
    show (if x = '0' then _ else if !x.isDigit then _ else _) = _
    rw [if_neg nonzero, if_neg (by rw [hx]; exact Bool.false_ne_true)]
    simp only [gathered, skipped, none_left]
    exact afterIntegral_natural ends n _

end Cursor

end CommandShell.Json
