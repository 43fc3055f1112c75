import CommandShell.Proofs.Json.Grammar
import Mathlib.Data.List.TakeWhile

/-!
# Strings are read as what they spell

What the reader does at a token depends on the text of the token alone. `Passes` says so of a step
that only moves on, and `Yields` of one that answers something; neither tells the offset, which
nothing but a fault shows.

Two loops go over the text of a string: one gathers what it spells, and the other passes over it
where nobody needs the string. A turn of either takes one character of the string off its text,
whichever way that is spelled, so both consume the whole text (`Consumes`). A string is read as what
its text spells (`string_spells`), and any content is passed over (`skipString_content`).
-/

namespace CommandShell.Json

variable {α β : Type}

/-- **Passes** — a step passes over the text `t` before `rest`. -/
def Passes (step : Cursor → Except Failure Cursor) (t rest : List Char) : Prop :=
  ∀ o, ∃ o', step ⟨t ++ rest, o⟩ = .ok ⟨rest, o'⟩

/-- **Yields** — a step passes over the text `t` before `rest` and answers `x`. -/
def Yields {ε : Type} (step : Cursor → Except ε (α × Cursor)) (t rest : List Char) (x : α) : Prop :=
  ∀ o, ∃ o', step ⟨t ++ rest, o⟩ = .ok (x, ⟨rest, o'⟩)

theorem Yields.map {step : Cursor → Except Failure (α × Cursor)} {t rest : List Char} {x : α}
    (h : Yields step t rest x) (f : α → β) :
    Yields (fun c => (step c).map fun (x, c) => (f x, c)) t rest (f x) := by
  intro o
  obtain ⟨o', h⟩ := h o
  exact ⟨o', by simp only [h]; rfl⟩

namespace Cursor

/-! ## White space -/

/-- White space is skipped up to a character that is none. -/
theorem skipSpace_gap (w : Gap) {x : Char} (hx : isSpace x = false) (rest : List Char) (o : Nat) :
    ∃ o', skipSpace ⟨w.text ++ x :: rest, o⟩ = ⟨x :: rest, o'⟩ := by
  have taken : (w.text ++ x :: rest).takeWhile isSpace = w.text := by
    rw [List.takeWhile_append_of_pos w.blank]
    simp [hx]
  refine ⟨o + w.text.length, ?_⟩
  simp only [skipSpace, skip, taken, List.drop_left]

theorem skipSpace_of_begins {t : List Char} (h : Begins t) (w : Gap) (rest : List Char) (o : Nat) :
    ∃ o', skipSpace ⟨w.text ++ (t ++ rest), o⟩ = ⟨t ++ rest, o'⟩ := by
  obtain ⟨x, t', rfl, hx, -⟩ := h
  exact skipSpace_gap w hx (t' ++ rest) o

/-- At the end nothing is left after white space. -/
theorem skipSpace_end (w : Gap) (o : Nat) : (skipSpace ⟨w.text, o⟩).rest = [] := by
  have taken : w.text.takeWhile isSpace = w.text := List.takeWhile_eq_self_iff.mpr w.blank
  simp only [skipSpace, skip, taken, List.drop_length]

/-! ## Loops over the text of a string -/

/-- **Consumes** — a loop takes a text off what is left, in at most one turn for each of its
characters, and comes from one state to another. -/
def Consumes {ρ τ : Type} (loop : Nat → τ → Cursor → ρ) (t : List Char) (s s' : τ) : Prop :=
  ∀ (fuel : Nat) (rest : List Char) (o : Nat), t.length ≤ fuel →
    ∃ fuel' o', fuel ≤ fuel' + t.length ∧ loop fuel s ⟨t ++ rest, o⟩ = loop fuel' s' ⟨rest, o'⟩

section Consumes

variable {ρ τ : Type} {loop : Nat → τ → Cursor → ρ} {t : List Char} {s s₁ s' : τ}

theorem Consumes.nil : Consumes loop [] s s := fun fuel _ o _ => ⟨fuel, o, Nat.le_refl fuel, rfl⟩

/-- One turn takes off some characters, and the others the rest. -/
theorem Consumes.turn (p : List Char) (nonempty : 0 < p.length)
    (turn : ∀ fuel rest o, ∃ o', loop (fuel + 1) s ⟨p ++ rest, o⟩ = loop fuel s₁ ⟨rest, o'⟩)
    (h : Consumes loop t s₁ s') : Consumes loop (p ++ t) s s' := by
  intro fuel rest o hfuel
  rw [List.length_append] at hfuel ⊢
  obtain ⟨fuel, rfl⟩ := Nat.exists_eq_add_one.mpr (show 0 < fuel by omega)
  obtain ⟨o₁, turn⟩ := turn fuel (t ++ rest) o
  obtain ⟨fuel', o', spent, others⟩ := h fuel rest o₁ (by omega)
  refine ⟨fuel', o', by omega, ?_⟩
  rw [List.append_assoc, turn, others]

end Consumes

/-! ## Strings -/

theorem fourHex_unit {h : List Char} {n : Nat} (hex : HexUnit h n) (rest : List Char) :
    Yields fourHex h rest n := by
  intro o
  obtain ⟨hw, hx, hy, hz⟩ := hex
  exact ⟨o + 4, by simp [fourHex, hw, hx, hy, hz, skip]⟩

theorem escapedChar_ne_u {x y : Char} (h : escapedChar? x = some y) : x ≠ 'u' := by
  rintro rfl
  simp [escapedChar?] at h

/-- The letter of an escape decides the way it is read. -/
theorem escape_letter {x y : Char} (h : escapedChar? x = some y) (rest : List Char) :
    Yields escape [x] rest y := by
  intro o
  have hu := escapedChar_ne_u h
  refine ⟨o + x.utf8Size, ?_⟩
  unfold escape
  split
  · next he => exact absurd he (by simp)
  · next he => exact absurd (List.cons.inj he).1 hu
  · next z _ _ he =>
    obtain rfl := (List.cons.inj he).1
    simp [h, next]

theorem escape_unit {h : List Char} {n : Nat} (hex : HexUnit h n)
    (notHigh : isHighSurrogate n = false) (notLow : isLowSurrogate n = false) (rest : List Char) :
    Yields escape ('u' :: h) rest (Char.ofNat n) := by
  intro o
  obtain ⟨o', read⟩ := fourHex_unit hex rest (o + Char.utf8Size 'u')
  refine ⟨o', ?_⟩
  show unicodeEscape ⟨h ++ rest, o + Char.utf8Size 'u'⟩ = _
  simp [unicodeEscape, read, notHigh, notLow, bind, Except.bind]

theorem escape_pair {h l : List Char} {n m : Nat} (hexHigh : HexUnit h n)
    (high : isHighSurrogate n = true) (hexLow : HexUnit l m) (low : isLowSurrogate m = true)
    (rest : List Char) :
    Yields escape ('u' :: (h ++ '\\' :: 'u' :: l)) rest (pairedChar n m) := by
  intro o
  obtain ⟨o₁, readHigh⟩ := fourHex_unit hexHigh ('\\' :: 'u' :: (l ++ rest)) (o + Char.utf8Size 'u')
  obtain ⟨o₂, readLow⟩ :=
    fourHex_unit hexLow rest (o₁ + Char.utf8Size '\\' + Char.utf8Size 'u')
  have notLow : isLowSurrogate n = false := by
    simp only [isHighSurrogate, isLowSurrogate, Bool.and_eq_true, decide_eq_true_eq,
      Bool.and_eq_false_iff, decide_eq_false_iff_not] at high ⊢
    omega
  refine ⟨o₂, ?_⟩
  have whole : 'u' :: (h ++ '\\' :: 'u' :: l) ++ rest =
      'u' :: (h ++ '\\' :: 'u' :: (l ++ rest)) := by simp
  rw [whole]
  show unicodeEscape ⟨h ++ '\\' :: 'u' :: (l ++ rest), o + Char.utf8Size 'u'⟩ = _
  simp [unicodeEscape, readHigh, notLow, high, pairMark, next, readLow, low, bind, Except.bind]

/-- A plain character is neither of the two that mean something in a string. -/
theorem stringFrom_plain {x : Char} (h : IsPlain x) (got : List Char) (fuel : Nat)
    (rest : List Char) (o : Nat) :
    ∃ o', stringFrom (fuel + 1) got ⟨[x] ++ rest, o⟩ = stringFrom fuel (x :: got) ⟨rest, o'⟩ := by
  obtain ⟨low, noQuote, noSlash⟩ := h
  refine ⟨o + x.utf8Size, ?_⟩
  rw [stringFrom]
  split
  · next he => exact absurd he (by simp)
  · next he => exact absurd (List.cons.inj he).1 noQuote
  · next he => exact absurd (List.cons.inj he).1 noSlash
  · next y _ _ _ he =>
    obtain rfl := (List.cons.inj he).1
    rw [if_neg (by omega)]
    rfl

theorem stringFrom_escape {t : List Char} {x : Char} (h : ∀ rest, Yields escape t rest x)
    (got : List Char) (fuel : Nat) (rest : List Char) (o : Nat) :
    ∃ o', stringFrom (fuel + 1) got ⟨('\\' :: t) ++ rest, o⟩ =
      stringFrom fuel (x :: got) ⟨rest, o'⟩ := by
  obtain ⟨o', read⟩ := h rest (o + Char.utf8Size '\\')
  refine ⟨o', ?_⟩
  show (escape ⟨t ++ rest, o + Char.utf8Size '\\'⟩ >>=
    fun p => stringFrom fuel (p.1 :: got) p.2) = _
  rw [read]
  rfl

theorem consumes_spells {t s : List Char} (h : Spells t s) (got : List Char) :
    Consumes stringFrom t got (s.reverse ++ got) := by
  induction h generalizing got with
  | nil => exact .nil
  | plain plain _ ih =>
    rw [List.reverse_cons, List.append_assoc]
    exact .turn [_] (Nat.succ_pos _) (stringFrom_plain plain got) (ih _)
  | letter stands _ ih =>
    rw [List.reverse_cons, List.append_assoc]
    exact .turn ['\\', _] (Nat.succ_pos _) (stringFrom_escape (escape_letter stands) got) (ih _)
  | unit hex notHigh notLow _ ih =>
    rw [List.reverse_cons, List.append_assoc]
    exact .turn ('\\' :: 'u' :: _) (Nat.succ_pos _)
      (stringFrom_escape (escape_unit hex notHigh notLow) got) (ih _)
  | @pair h l n m t s hexHigh high hexLow low _ ih =>
    have whole : '\\' :: 'u' :: (h ++ '\\' :: 'u' :: (l ++ t)) =
        ('\\' :: 'u' :: (h ++ '\\' :: 'u' :: l)) ++ t := by simp
    rw [whole, List.reverse_cons, List.append_assoc]
    exact .turn _ (Nat.succ_pos _) (stringFrom_escape (escape_pair hexHigh high hexLow low) got)
      (ih _)

/-- A string is read as what its text spells. -/
theorem string_spells {t s : List Char} (h : Spells t s) {fuel : Nat} (hfuel : t.length < fuel)
    (rest : List Char) : Yields (string fuel) (t ++ ['"']) rest (String.ofList s) := by
  intro o
  obtain ⟨fuel', o', spent, read⟩ := consumes_spells h [] fuel ('"' :: rest) o (by omega)
  obtain ⟨fuel', rfl⟩ := Nat.exists_eq_add_one.mpr (show 0 < fuel' by omega)
  refine ⟨o' + Char.utf8Size '"', ?_⟩
  rw [string, List.append_assoc, List.singleton_append, read]
  simp [stringFrom, next]

/-! ## Strings that nobody needs -/

theorem skipEscape_letter {x y : Char} (h : escapedChar? x = some y) (rest : List Char) :
    Passes skipEscape [x] rest := by
  intro o
  have hu := escapedChar_ne_u h
  refine ⟨o + x.utf8Size, ?_⟩
  unfold skipEscape
  split
  · next he => exact absurd he (by simp)
  · next he => exact absurd (List.cons.inj he).1 hu
  · next z _ _ he =>
    obtain rfl := (List.cons.inj he).1
    simp [h, next]

theorem skipEscape_unit {h : List Char} {n : Nat} (hex : HexUnit h n) (rest : List Char) :
    Passes skipEscape ('u' :: h) rest := by
  intro o
  obtain ⟨o', read⟩ := fourHex_unit hex rest (o + Char.utf8Size 'u')
  refine ⟨o', ?_⟩
  show (fourHex ⟨h ++ rest, o + Char.utf8Size 'u'⟩).map (·.2) = _
  rw [read]
  rfl

theorem skipString_plain {x : Char} (h : IsPlain x) (fuel : Nat) (rest : List Char) (o : Nat) :
    ∃ o', skipString (fuel + 1) ⟨[x] ++ rest, o⟩ = skipString fuel ⟨rest, o'⟩ := by
  obtain ⟨low, noQuote, noSlash⟩ := h
  refine ⟨o + x.utf8Size, ?_⟩
  rw [skipString]
  split
  · next he => exact absurd he (by simp)
  · next he => exact absurd (List.cons.inj he).1 noQuote
  · next he => exact absurd (List.cons.inj he).1 noSlash
  · next y _ _ _ he =>
    obtain rfl := (List.cons.inj he).1
    rw [if_neg (by omega)]
    rfl

theorem skipString_escape {t : List Char} (h : ∀ rest, Passes skipEscape t rest) (fuel : Nat)
    (rest : List Char) (o : Nat) :
    ∃ o', skipString (fuel + 1) ⟨('\\' :: t) ++ rest, o⟩ = skipString fuel ⟨rest, o'⟩ := by
  obtain ⟨o', read⟩ := h rest (o + Char.utf8Size '\\')
  refine ⟨o', ?_⟩
  show (skipEscape ⟨t ++ rest, o + Char.utf8Size '\\'⟩ >>= skipString fuel) = _
  rw [read]
  rfl

theorem consumes_content {t : List Char} (h : IsContent t) :
    Consumes (fun fuel (_ : Unit) => skipString fuel) t () () := by
  induction h with
  | nil => exact .nil
  | plain plain _ ih => exact .turn [_] (Nat.succ_pos _) (skipString_plain plain) ih
  | letter stands _ ih =>
    exact .turn ['\\', _] (Nat.succ_pos _) (skipString_escape (skipEscape_letter stands)) ih
  | unit hex _ ih =>
    exact .turn ('\\' :: 'u' :: _) (Nat.succ_pos _) (skipString_escape (skipEscape_unit hex)) ih

/-- A string is passed over, whatever it stands for. -/
theorem skipString_content {t : List Char} (h : IsContent t) {fuel : Nat} (hfuel : t.length < fuel)
    (rest : List Char) : Passes (skipString fuel) (t ++ ['"']) rest := by
  intro o
  obtain ⟨fuel', o', spent, skipped⟩ := consumes_content h fuel ('"' :: rest) o (by omega)
  obtain ⟨fuel', rfl⟩ := Nat.exists_eq_add_one.mpr (show 0 < fuel' by omega)
  refine ⟨o' + Char.utf8Size '"', ?_⟩
  rw [List.append_assoc, List.singleton_append]
  calc skipString fuel ⟨t ++ '"' :: rest, o⟩
    _ = skipString (fuel' + 1) ⟨'"' :: rest, o'⟩ := skipped
    _ = .ok ⟨rest, o' + Char.utf8Size '"'⟩ := by simp [skipString, next]

end Cursor

end CommandShell.Json
