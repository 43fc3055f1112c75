import CommandShell.Proofs.Text.Trim
import CommandShell.Proofs.Text.Words

/-!
# Words typed in any spacing

A text is **spaced** by words if it is these words in order with blanks before, between and behind
them, as many as one likes, but at least one between neighbours. The words of a text are the only
list that spaces it (`words_eq_iff`).

The first word, the head of the text, is found in two ways: as the first of the words
(`Headed.words_eq`), and by trimming the text and cutting it at its first blank
(`Headed.cutWord_trim`). Both give the same word, and trimming keeps the words (`words_trim`).
-/

namespace CommandShell.Text

/-- **Spaced** — the text is these words with blanks around them. -/
inductive Spaced : List String → List Char → Prop
  | blanks {cs : List Char} (blank : ∀ c ∈ cs, isBlank c = true) : Spaced [] cs
  | word {before rest : List Char} {w : String} {ws : List String}
      (blank : ∀ c ∈ before, isBlank c = true) (isWord : IsWord w)
      (apart : ∀ c, rest.head? = some c → isBlank c = true) (others : Spaced ws rest) :
      Spaced (w :: ws) (before ++ w.toList ++ rest)

variable {cs rest : List Char} {ws : List String}

/-! ## The words of a spaced text -/

theorem wordChars_append_of_blank {before : List Char} (h : ∀ c ∈ before, isBlank c = true)
    (cs : List Char) : wordChars (before ++ cs) = wordChars cs := by
  induction before with
  | nil => rfl
  | cons c before ih =>
      obtain ⟨hc, hbefore⟩ := List.forall_mem_cons.mp h
      rw [List.cons_append, wordChars_cons_of_blank hc, ih hbefore]

/-- A word that something else than a word goes on from is found first. -/
theorem wordChars_append {w : List Char} (hne : w ≠ []) (hw : ∀ c ∈ w, isBlank c = false)
    (apart : ∀ c, rest.head? = some c → isBlank c = true) :
    wordChars (w ++ rest) = w :: wordChars rest := by
  have hkeep : ∀ parts : List (List Char),
      (w :: parts).filter (!·.isEmpty) = w :: parts.filter (!·.isEmpty) :=
    fun parts => List.filter_cons_of_pos (by simpa using hne)
  cases rest with
  | nil =>
      unfold wordChars
      rw [List.append_nil, splitOn_of_none hw, hkeep]
      rfl
  | cons b rest =>
      have hb : isBlank b = true := apart b rfl
      rw [wordChars_cons_of_blank hb]
      unfold wordChars
      rw [splitOn_append_cons hw hb, hkeep]

theorem Spaced.words_eq {s : String} (h : Spaced ws s.toList) : words s = ws := by
  unfold words
  generalize s.toList = cs at h
  induction h with
  | blanks blank =>
      have hnone := wordChars_append_of_blank blank []
      rw [List.append_nil] at hnone
      rw [hnone]
      rfl
  | @word before rest w ws blank isWord apart _ ih =>
      have hne : w.toList ≠ [] := fun hnil => isWord.1 (String.toList_eq_nil_iff.mp hnil)
      rw [List.append_assoc, wordChars_append_of_blank blank, wordChars_append hne isWord.2 apart,
        List.map_cons, ih, String.ofList_toList]

/-! ## Every text is spaced -/

/-- The part of a text up to its first word, the word, and what follows it. -/
theorem exists_first_word (h : ∃ c ∈ cs, isBlank c = false) :
    ∃ before w rest, cs = before ++ w ++ rest ∧ (∀ c ∈ before, isBlank c = true) ∧ w ≠ [] ∧
      (∀ c ∈ w, isBlank c = false) ∧ ∀ c, rest.head? = some c → isBlank c = true := by
  refine ⟨cs.takeWhile isBlank, (cs.dropWhile isBlank).takeWhile (!isBlank ·),
    (cs.dropWhile isBlank).dropWhile (!isBlank ·), ?_, ?_, ?_, ?_, ?_⟩
  · rw [List.append_assoc, List.takeWhile_append_dropWhile, List.takeWhile_append_dropWhile]
  · exact fun c hc => List.mem_takeWhile_imp hc
  · obtain ⟨c, hc, hblank⟩ := h
    cases hdrop : cs.dropWhile isBlank with
    | nil =>
        have hall := List.dropWhile_eq_nil_iff.mp hdrop c hc
        rw [hblank] at hall
        cases hall
    | cons first more =>
        rw [List.takeWhile_cons_of_pos (by simp [of_dropWhile_eq_cons hdrop])]
        exact List.cons_ne_nil _ _
  · intro c hc
    simpa using List.mem_takeWhile_imp hc
  · intro c hc
    have hhead := List.head?_dropWhile_not (!isBlank ·) (cs.dropWhile isBlank)
    rw [hc] at hhead
    simpa using hhead

theorem spaced_wordChars (cs : List Char) : Spaced ((wordChars cs).map String.ofList) cs := by
  induction hlength : cs.length using Nat.strongRecOn generalizing cs with
  | ind n ih =>
      by_cases h : ∃ c ∈ cs, isBlank c = false
      · obtain ⟨before, w, rest, rfl, hbefore, hne, hw, hrest⟩ := exists_first_word h
        have hlt : rest.length < n := by
          have hpos := List.length_pos_iff.mpr hne
          rw [List.length_append, List.length_append] at hlength
          omega
        have hword : IsWord (String.ofList w) := by
          refine ⟨fun hempty => hne ?_, ?_⟩
          · exact String.ofList_eq_empty_iff.mp hempty
          · rw [String.toList_ofList]
            exact hw
        have hspaced := Spaced.word hbefore hword hrest (ih _ hlt rest rfl)
        rw [String.toList_ofList] at hspaced
        rw [List.append_assoc, wordChars_append_of_blank hbefore, wordChars_append hne hw hrest,
          ← List.append_assoc]
        exact hspaced
      · have hblank : ∀ c ∈ cs, isBlank c = true := by simpa using h
        have hnone := wordChars_append_of_blank hblank []
        rw [List.append_nil] at hnone
        rw [hnone]
        exact .blanks hblank

/-- **words_eq_iff** — the words of a text are those that it is spaced by. -/
theorem words_eq_iff {s : String} : words s = ws ↔ Spaced ws s.toList := by
  constructor
  · rintro rfl
    exact spaced_wordChars s.toList
  · exact Spaced.words_eq

theorem Spaced.append_before {before : List Char} (hbefore : ∀ c ∈ before, isBlank c = true)
    (h : Spaced ws cs) : Spaced ws (before ++ cs) := by
  cases h with
  | blanks blank => exact .blanks (List.forall_mem_append.mpr ⟨hbefore, blank⟩)
  | word blank isWord apart others =>
      rw [← List.append_assoc, ← List.append_assoc]
      exact .word (List.forall_mem_append.mpr ⟨hbefore, blank⟩) isWord apart others

theorem Spaced.append_after {after : List Char} (hafter : ∀ c ∈ after, isBlank c = true)
    (h : Spaced ws cs) : Spaced ws (cs ++ after) := by
  induction h with
  | blanks blank => exact .blanks (List.forall_mem_append.mpr ⟨blank, hafter⟩)
  | @word before rest w ws blank isWord apart others ih =>
      rw [List.append_assoc]
      refine .word blank isWord ?_ ih
      intro c hc
      cases rest with
      | nil => exact hafter c (List.mem_of_head? hc)
      | cons b rest => exact apart c hc

/-- Trimming keeps the words. -/
theorem words_trim (s : String) : words (trim s) = words s := by
  obtain ⟨before, after, hs, hblank⟩ := exists_around_trimChars s.toList
  obtain ⟨hbefore, hafter⟩ := List.forall_mem_append.mp hblank
  have hspaced :=
    ((spaced_wordChars (trimChars s.toList)).append_before hbefore).append_after hafter
  rw [← hs] at hspaced
  rw [hspaced.words_eq, words, trim, String.toList_ofList]

/-! ## The first word and what follows it -/

/-- **Headed** — the text is a word, the head, and what follows it, with blanks around both. -/
def Headed (cs : List Char) (w text : String) : Prop :=
  ∃ before gap after, cs = before ++ w.toList ++ gap ++ text.toList ++ after ∧
    (∀ c ∈ before ++ gap ++ after, isBlank c = true) ∧ IsWord w ∧ IsTrimmed text.toList ∧
    (text ≠ "" → gap ≠ [])

/-- A text that is not blank throughout has a head. -/
theorem exists_headed (h : ∃ c ∈ cs, isBlank c = false) : ∃ w text, Headed cs w text := by
  obtain ⟨before, w, rest, rfl, hbefore, hne, hw, hrest⟩ := exists_first_word h
  obtain ⟨gap, after, hsplit, hblank⟩ := exists_around_trimChars rest
  have htrimmed := isTrimmed_trimChars rest
  obtain ⟨hgap, hafter⟩ := List.forall_mem_append.mp hblank
  refine ⟨String.ofList w, String.ofList (trimChars rest), before, gap, after, ?_, ?_, ⟨?_, ?_⟩, ?_,
    ?_⟩
  · rw [String.toList_ofList, String.toList_ofList]
    conv_lhs => rw [hsplit]
    simp only [List.append_assoc]
  · exact List.forall_mem_append.mpr ⟨List.forall_mem_append.mpr ⟨hbefore, hgap⟩, hafter⟩
  · exact fun hempty => hne (String.ofList_eq_empty_iff.mp hempty)
  · rw [String.toList_ofList]
    exact hw
  · rw [String.toList_ofList]
    exact htrimmed
  · -- What follows a word begins with a blank, and what is trimmed does not.
    rintro hne' rfl
    obtain ⟨c, more, hc⟩ := List.exists_cons_of_ne_nil
      fun hnil => hne' (String.ofList_eq_empty_iff.mpr hnil)
    have hblank := hrest c (by rw [hsplit, hc]; rfl)
    rw [htrimmed c (.inl (by rw [hc]; rfl))] at hblank
    cases hblank

theorem isTrimmed_word {w : String} (h : IsWord w) : IsTrimmed w.toList := by
  rintro c (hc | hc)
  · exact h.2 c (List.mem_of_head? hc)
  · exact h.2 c (List.mem_of_getLast? hc)

/-- A word and what follows it, cut apart again. -/
theorem cutWord_append {w text : String} {gap : List Char} (hw : IsWord w)
    (hgap : ∀ c ∈ gap, isBlank c = true) (htext : IsTrimmed text.toList)
    (hne : text ≠ "" → gap ≠ []) :
    cutWord (String.ofList (w.toList ++ (gap ++ text.toList))) = (w, text) := by
  have hword : ∀ c ∈ w.toList, (!isBlank c) = true := fun c hc => by rw [hw.2 c hc]; rfl
  -- What follows the word begins with a blank, or nothing follows it.
  have hstop : (gap ++ text.toList).takeWhile (!isBlank ·) = [] ∧
      (gap ++ text.toList).dropWhile (!isBlank ·) = gap ++ text.toList := by
    cases gap with
    | nil =>
        have hempty : text = "" := not_imp_comm.mp hne (not_not_intro rfl)
        rw [hempty]
        exact ⟨rfl, rfl⟩
    | cons b gap =>
        have hb : ¬(!isBlank b) = true := by simp [hgap b List.mem_cons_self]
        exact ⟨List.takeWhile_cons_of_neg hb, List.dropWhile_cons_of_neg hb⟩
  have htrim : trimChars (gap ++ text.toList) = text.toList := by
    have haround : trimChars (gap ++ text.toList ++ []) = text.toList :=
      trimChars_around (by simpa using hgap) htext
    rwa [List.append_nil] at haround
  rw [cutWord, String.toList_ofList, List.takeWhile_append_of_pos hword,
    List.dropWhile_append_of_pos hword, hstop.1, hstop.2, htrim, List.append_nil,
    String.ofList_toList, String.ofList_toList]

/-- What is left of a text with a head when it is trimmed: the head, blanks, and what follows. -/
theorem Headed.exists_trim {s w text : String} (h : Headed s.toList w text) :
    ∃ gap : List Char, trim s = String.ofList (w.toList ++ (gap ++ text.toList)) ∧
      (∀ c ∈ gap, isBlank c = true) ∧ (text ≠ "" → gap ≠ []) := by
  obtain ⟨before, gap, after, hs, hblank, hw, htext, hne⟩ := h
  simp only [List.forall_mem_append] at hblank
  obtain ⟨⟨hbefore, hgap⟩, hafter⟩ := hblank
  rw [trim, hs]
  by_cases hempty : text = ""
  · -- The blanks behind the word are at the end of the text.
    refine ⟨[], ?_, List.forall_mem_nil _, fun hne' => absurd hempty hne'⟩
    have haround : trimChars (before ++ w.toList ++ (gap ++ after)) = w.toList := by
      refine trimChars_around ?_ (isTrimmed_word hw)
      simpa only [List.forall_mem_append] using ⟨hbefore, hgap, hafter⟩
    rw [hempty, String.toList_empty, List.append_nil, List.append_nil, List.append_nil,
      List.append_assoc, haround]
  · refine ⟨gap, ?_, hgap, fun _ => hne hempty⟩
    have hcore : IsTrimmed (w.toList ++ (gap ++ text.toList)) := by
      have hwNil : w.toList ≠ [] := fun hnil => hw.1 (String.toList_eq_nil_iff.mp hnil)
      have htextNil : text.toList ≠ [] := fun hnil => hempty (String.toList_eq_nil_iff.mp hnil)
      rintro c (hc | hc)
      · rw [List.head?_append_of_ne_nil _ hwNil] at hc
        exact isTrimmed_word hw c (.inl hc)
      · rw [← List.append_assoc, List.getLast?_append_of_ne_nil _ htextNil] at hc
        exact htext c (.inr hc)
    have haround : trimChars (before ++ (w.toList ++ (gap ++ text.toList)) ++ after)
        = w.toList ++ (gap ++ text.toList) := by
      refine trimChars_around ?_ hcore
      simpa only [List.forall_mem_append] using ⟨hbefore, hafter⟩
    rw [← haround]
    simp only [List.append_assoc]

/-- **cutWord_trim** — a text is cut behind its head. -/
theorem Headed.cutWord_trim {s w text : String} (h : Headed s.toList w text) :
    cutWord (trim s) = (w, text) := by
  obtain ⟨gap, htrim, hgap, hne⟩ := h.exists_trim
  obtain ⟨-, -, -, -, -, hw, htext, -⟩ := h
  rw [htrim, cutWord_append hw hgap htext hne]

/-- The head is the first of the words, and the others are those of what follows it. -/
theorem Headed.words_eq {s w text : String} (h : Headed s.toList w text) :
    words s = w :: words text := by
  obtain ⟨gap, htrim, hgap, hne⟩ := h.exists_trim
  obtain ⟨-, -, -, -, -, hw, htext, -⟩ := h
  have hothers : Spaced (words text) (gap ++ text.toList) :=
    (words_eq_iff.mp rfl).append_before hgap
  have hspaced : Spaced (w :: words text) (trim s).toList := by
    rw [htrim, String.toList_ofList]
    show Spaced _ ([] ++ w.toList ++ (gap ++ text.toList))
    refine .word (List.forall_mem_nil _) hw ?_ hothers
    intro c hc
    cases gap with
    | nil =>
        rw [not_imp_comm.mp hne (not_not_intro rfl)] at hc
        cases hc
    | cons b gap => exact hgap c (List.mem_of_head? hc)
  rw [← words_trim, hspaced.words_eq]

/-- The trimmed text begins as the head does. -/
theorem Headed.head?_trim {s w text : String} (h : Headed s.toList w text) :
    (trim s).toList.head? = w.toList.head? := by
  obtain ⟨gap, htrim, -, -⟩ := h.exists_trim
  obtain ⟨-, -, -, -, -, hw, -, -⟩ := h
  rw [htrim, String.toList_ofList,
    List.head?_append_of_ne_nil _ fun hnil => hw.1 (String.toList_eq_nil_iff.mp hnil)]

end CommandShell.Text
