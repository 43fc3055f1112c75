import CommandShell.Command.Table

/-!
# Words and names

The parts of a text between blanks are words: they are not empty and hold no blank
(`isWord_of_mem_words`). Put together with one space between neighbours, words are found again as
they were (`words_unwords`).

So the key of a name says the same as the list of its words: two names have one key if they have the
same words (`keyOf_eq_iff`), the key of a key is the key itself (`words_keyOf`), and it is empty
only if the name is blank throughout (`keyOf_eq_empty_iff`, `words_eq_nil_iff`).
-/

namespace CommandShell

namespace Text

/-! ## Splitting at separators -/

section Splitting

variable {α : Type} {p : α → Bool} {x : α} {xs ys : List α}

theorem splitOn_ne_nil (xs : List α) : splitOn p xs ≠ [] := by
  unfold splitOn
  cases xs with
  | nil => exact List.cons_ne_nil _ _
  | cons x xs =>
      rw [List.foldr_cons]
      split
      · exact List.cons_ne_nil _ _
      · split <;> exact List.cons_ne_nil _ _

theorem splitOn_cons_of_pos (h : p x = true) (xs : List α) :
    splitOn p (x :: xs) = [] :: splitOn p xs := by
  unfold splitOn
  rw [List.foldr_cons, if_pos h]

theorem splitOn_cons_of_neg (h : p x = false) {part : List α} {rest : List (List α)}
    (hsplit : splitOn p xs = part :: rest) : splitOn p (x :: xs) = (x :: part) :: rest := by
  unfold splitOn at hsplit ⊢
  rw [List.foldr_cons, hsplit, if_neg (by rw [h]; exact Bool.false_ne_true)]

/-- No part holds a separator. -/
theorem not_of_mem_splitOn :
    ∀ {xs : List α} {part : List α}, part ∈ splitOn p xs → ∀ x ∈ part, p x = false := by
  intro xs
  induction xs with
  | nil =>
      intro part hpart x hx
      rw [show part = [] from List.mem_singleton.mp hpart] at hx
      cases hx
  | cons y ys ih =>
      intro part hpart
      cases hy : p y with
      | true =>
          rw [splitOn_cons_of_pos hy] at hpart
          obtain rfl | hpart := List.mem_cons.mp hpart
          · intro x hx
            cases hx
          · exact ih hpart
      | false =>
          obtain ⟨first, rest, hsplit⟩ := List.exists_cons_of_ne_nil (splitOn_ne_nil (p := p) ys)
          rw [splitOn_cons_of_neg hy hsplit] at hpart
          obtain rfl | hpart := List.mem_cons.mp hpart
          · intro x hx
            obtain rfl | hx := List.mem_cons.mp hx
            · exact hy
            · exact ih (hsplit ▸ List.mem_cons_self) x hx
          · exact ih (hsplit ▸ List.mem_cons_of_mem _ hpart)

/-- What stands before the first separator is the first part. -/
theorem splitOn_append_cons (hxs : ∀ x ∈ xs, p x = false) {s : α} (hs : p s = true) (ys : List α) :
    splitOn p (xs ++ s :: ys) = xs :: splitOn p ys := by
  induction xs with
  | nil => exact splitOn_cons_of_pos hs ys
  | cons x xs ih =>
      have hrest := ih fun y hy => hxs y (List.mem_cons_of_mem _ hy)
      exact splitOn_cons_of_neg (hxs x List.mem_cons_self) hrest

/-- A separator cuts, wherever it stands. -/
theorem splitOn_append_of_pos {s : α} (hs : p s = true) (xs ys : List α) :
    splitOn p (xs ++ s :: ys) = splitOn p xs ++ splitOn p ys := by
  induction xs with
  | nil => exact splitOn_cons_of_pos hs ys
  | cons x xs ih =>
      rw [List.cons_append]
      cases hx : p x with
      | true => rw [splitOn_cons_of_pos hx, splitOn_cons_of_pos hx, ih, List.cons_append]
      | false =>
          obtain ⟨part, rest, hsplit⟩ := List.exists_cons_of_ne_nil (splitOn_ne_nil (p := p) xs)
          rw [splitOn_cons_of_neg hx hsplit]
          apply splitOn_cons_of_neg hx
          rw [ih, hsplit]
          rfl

theorem splitOn_of_none (hxs : ∀ x ∈ xs, p x = false) : splitOn p xs = [xs] := by
  induction xs with
  | nil => rfl
  | cons x xs ih =>
      have hrest := ih fun y hy => hxs y (List.mem_cons_of_mem _ hy)
      exact splitOn_cons_of_neg (hxs x List.mem_cons_self) hrest

end Splitting

/-! ## Words -/

/-- **IsWord** — a text that is a word: it is not empty and no character of it is a blank. -/
def IsWord (w : String) : Prop := w ≠ "" ∧ ∀ c ∈ w.toList, isBlank c = false

theorem isWord_of_mem_words {s w : String} (h : w ∈ words s) : IsWord w := by
  obtain ⟨cs, hcs, rfl⟩ := List.mem_map.mp h
  obtain ⟨hpart, hne⟩ := List.mem_filter.mp hcs
  constructor
  · intro hempty
    rw [show cs = [] from by simpa using hempty] at hne
    cases hne
  · rw [String.toList_ofList]
    exact not_of_mem_splitOn hpart

theorem wordChars_cons_of_blank {c : Char} (hc : isBlank c = true) (cs : List Char) :
    wordChars (c :: cs) = wordChars cs := by
  unfold wordChars
  rw [splitOn_cons_of_pos hc]
  rfl

/-- A text is without words if and only if there is nothing but blanks in it. -/
theorem words_eq_nil_iff {s : String} : words s = [] ↔ ∀ c ∈ s.toList, isBlank c = true := by
  unfold words
  rw [List.map_eq_nil_iff]
  induction s.toList with
  | nil =>
      constructor
      · intro _ c hc
        cases hc
      · intro _
        rfl
  | cons c cs ih =>
      cases hc : isBlank c with
      | true =>
          rw [wordChars_cons_of_blank hc, ih, List.forall_mem_cons]
          exact ⟨fun h => ⟨hc, h⟩, fun h => h.2⟩
      | false =>
          obtain ⟨part, rest, hsplit⟩ :=
            List.exists_cons_of_ne_nil (splitOn_ne_nil (p := isBlank) cs)
          constructor
          · intro h
            unfold wordChars at h
            rw [splitOn_cons_of_neg hc hsplit] at h
            cases h
          · intro h
            have hblank := h c List.mem_cons_self
            rw [hc] at hblank
            cases hblank

theorem words_ne_nil_iff {s : String} : words s ≠ [] ↔ ∃ c ∈ s.toList, isBlank c = false := by
  rw [Ne, words_eq_nil_iff]
  simp

private theorem wordChars_intercalate {ws : List (List Char)}
    (h : ∀ w ∈ ws, w ≠ [] ∧ ∀ c ∈ w, isBlank c = false) :
    wordChars ([' '].intercalate ws) = ws := by
  have hkeep : ∀ {w : List Char}, w ≠ [] → ∀ rest : List (List Char),
      (w :: rest).filter (!·.isEmpty) = w :: rest.filter (!·.isEmpty) := by
    intro w hw rest
    exact List.filter_cons_of_pos (by simpa using hw)
  induction ws with
  | nil => rfl
  | cons w ws ih =>
      obtain ⟨hw, hws⟩ := List.forall_mem_cons.mp h
      unfold wordChars at ih ⊢
      cases ws with
      | nil =>
          rw [List.intercalate_singleton, splitOn_of_none hw.2, hkeep hw.1]
          rfl
      | cons w' ws =>
          rw [List.intercalate_cons_cons, List.append_assoc, List.singleton_append,
            splitOn_append_cons hw.2 (by decide), hkeep hw.1, ih hws]

/-- **words_unwords** — words that are put together are found again. -/
theorem words_unwords {ws : List String} (h : ∀ w ∈ ws, IsWord w) : words (unwords ws) = ws := by
  have hchars : ∀ cs ∈ ws.map String.toList, cs ≠ [] ∧ ∀ c ∈ cs, isBlank c = false := by
    intro cs hcs
    obtain ⟨w, hw, rfl⟩ := List.mem_map.mp hcs
    refine ⟨?_, (h w hw).2⟩
    intro hnil
    exact (h w hw).1 (String.toList_eq_nil_iff.mp hnil)
  have hlist : (unwords ws).toList = [' '].intercalate (ws.map String.toList) :=
    String.toList_intercalate
  unfold words
  rw [hlist, wordChars_intercalate hchars, List.map_map]
  exact (List.map_congr_left fun w _ => String.ofList_toList).trans (List.map_id ws)

theorem words_unwords_words (text : String) : words (unwords (words text)) = words text :=
  words_unwords fun _ hw => isWord_of_mem_words hw

end Text

/-! ## Keys -/

open Text

/-- The words of the key of a name are the words of the name. -/
theorem Definition.words_keyOf (name : String) : words (keyOf name) = words name :=
  words_unwords_words name

theorem Definition.keyOf_eq_iff {a b : String} : keyOf a = keyOf b ↔ words a = words b := by
  constructor
  · intro h
    rw [← words_keyOf a, h, words_keyOf]
  · intro h
    show unwords (words a) = unwords (words b)
    rw [h]

theorem Definition.keyOf_eq_empty_iff {name : String} : keyOf name = "" ↔ words name = [] := by
  constructor
  · intro h
    rw [← words_keyOf name, h]
    rfl
  · intro h
    show unwords (words name) = ""
    rw [h]
    rfl

end CommandShell
