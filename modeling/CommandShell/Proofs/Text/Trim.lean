import CommandShell.Text.Blank
import Mathlib.Data.List.DropRight

/-!
# Trimming

What trimming does to a text that is put together from parts: blanks at the end of the last part go,
and if it holds nothing else, those of the part before it go too (`dropEndWhile_append_of_all`,
`dropEndWhile_append_of_exists`).

A text is what trimming leaves of it with blanks around (`exists_around_trimChars`), and there is
one text only that neither begins nor ends with a blank and has blanks around it
(`trimChars_around`).
-/

namespace CommandShell.Text

variable {p : Char → Bool} {bs : List Char}

theorem dropEndWhile_append_of_all (as : List Char) (h : ∀ c ∈ bs, p c = true) :
    dropEndWhile p (as ++ bs) = dropEndWhile p as := by
  have hall : ∀ c ∈ bs.reverse, p c = true := fun c hc => h c (List.mem_reverse.mp hc)
  rw [dropEndWhile, dropEndWhile, List.reverse_append, List.dropWhile_append_of_pos hall]

theorem dropEndWhile_append_of_exists (as : List Char) (h : ∃ c ∈ bs, p c = false) :
    dropEndWhile p (as ++ bs) = as ++ dropEndWhile p bs := by
  obtain ⟨c, hc, hp⟩ := h
  have hne : bs.reverse.dropWhile p ≠ [] := by
    intro hnil
    have hall := List.dropWhile_eq_nil_iff.mp hnil c (List.mem_reverse.mpr hc)
    rw [hp] at hall
    cases hall
  rw [dropEndWhile, dropEndWhile, List.reverse_append, List.dropWhile_append,
    if_neg (by simpa using hne), List.reverse_append, List.reverse_reverse]

theorem of_dropWhile_eq_cons {c : Char} {cs rest : List Char} (h : cs.dropWhile p = c :: rest) :
    p c = false := by
  have hhead := List.head?_dropWhile_not p cs
  rw [h] at hhead
  simpa using hhead

/-- What a text begins with, once a character is dropped in front, is another one. -/
theorem head?_dropWhile_ne (c : Char) (cs : List Char) :
    (cs.dropWhile (· = c)).head? ≠ some c := by
  intro hhead
  have hnot := List.head?_dropWhile_not (· = c) cs
  rw [hhead] at hnot
  simp at hnot

/-- A text that begins with something else than a blank keeps it. -/
theorem dropEndWhile_cons_of_neg {c : Char} (hc : p c = false) (cs : List Char) :
    dropEndWhile p (c :: cs) = c :: dropEndWhile p cs := by
  by_cases h : ∃ c' ∈ cs, p c' = false
  · exact dropEndWhile_append_of_exists [c] h
  · have hall : ∀ c' ∈ cs, p c' = true := fun c' hc' => by
      cases hp : p c' with
      | true => rfl
      | false => exact absurd ⟨c', hc', hp⟩ h
    have hrest : dropEndWhile p cs = [] := by
      have hnil := dropEndWhile_append_of_all [] hall
      rwa [List.nil_append] at hnil
    have hcons := dropEndWhile_append_of_all [c] hall
    rw [List.singleton_append] at hcons
    rw [hcons, hrest]
    simp [dropEndWhile, hc]

/-- Nothing is left of a text if and only if there is nothing but blanks in it. -/
theorem trimChars_eq_nil_iff {cs : List Char} : trimChars cs = [] ↔ ∀ c ∈ cs, isBlank c = true := by
  rw [trimChars]
  constructor
  · intro h
    apply List.dropWhile_eq_nil_iff.mp
    cases hrest : cs.dropWhile isBlank with
    | nil => rfl
    | cons c rest =>
        rw [hrest, dropEndWhile_cons_of_neg (of_dropWhile_eq_cons hrest)] at h
        cases h
  · intro h
    rw [List.dropWhile_eq_nil_iff.mpr h]
    rfl

theorem trim_eq_empty_iff {s : String} : trim s = "" ↔ ∀ c ∈ s.toList, isBlank c = true := by
  rw [trim, ← String.toList_eq_nil_iff, String.toList_ofList, trimChars_eq_nil_iff]

/-! ## What trimming leaves -/

/-- **IsTrimmed** — a text that neither begins nor ends with a blank. -/
def IsTrimmed (cs : List Char) : Prop :=
  ∀ c, cs.head? = some c ∨ cs.getLast? = some c → isBlank c = false

theorem isTrimmed_trimChars (cs : List Char) : IsTrimmed (trimChars cs) := by
  rw [trimChars]
  cases hrest : cs.dropWhile isBlank with
  | nil =>
      intro c hc
      rcases hc with hc | hc <;> cases hc
  | cons b rest =>
      have hb : isBlank b = false := of_dropWhile_eq_cons hrest
      intro c hc
      rcases hc with hc | hc
      · rw [dropEndWhile_cons_of_neg hb] at hc
        obtain rfl := Option.some.inj hc
        exact hb
      · obtain ⟨hne, rfl⟩ := List.mem_getLast?_eq_getLast hc
        exact Bool.eq_false_iff.mpr (List.rdropWhile_last_not isBlank _ hne)

/-- Trimming takes blanks away at the two ends, and nothing else. -/
theorem exists_around_trimChars (cs : List Char) :
    ∃ before after, cs = before ++ trimChars cs ++ after ∧
      ∀ c ∈ before ++ after, isBlank c = true := by
  refine ⟨cs.takeWhile isBlank, (cs.dropWhile isBlank).rtakeWhile isBlank, ?_, ?_⟩
  · rw [List.append_assoc]
    calc cs
      _ = cs.takeWhile isBlank ++ cs.dropWhile isBlank := List.takeWhile_append_dropWhile.symm
      _ = _ := congrArg _ List.rdropWhile_append_rtakeWhile.symm
  · intro c hc
    rcases List.mem_append.mp hc with hc | hc
    · exact List.mem_takeWhile_imp hc
    · exact List.mem_rtakeWhile_imp hc

/-- What has blanks around it is found by trimming. -/
theorem trimChars_around {before cs after : List Char}
    (hblank : ∀ c ∈ before ++ after, isBlank c = true) (h : IsTrimmed cs) :
    trimChars (before ++ cs ++ after) = cs := by
  obtain ⟨hbefore, hafter⟩ := List.forall_mem_append.mp hblank
  rw [trimChars, List.append_assoc, List.dropWhile_append_of_pos hbefore]
  cases cs with
  | nil =>
      rw [List.nil_append, List.dropWhile_eq_nil_iff.mpr hafter]
      rfl
  | cons c cs =>
      have hc : isBlank c = false := h c (.inl rfl)
      rw [List.cons_append, List.dropWhile_cons_of_neg (by simp [hc]), ← List.cons_append,
        dropEndWhile_append_of_all _ hafter]
      apply List.rdropWhile_eq_self_iff.mpr
      intro hne
      rw [h _ (.inr (List.getLast?_eq_some_getLast hne))]
      exact Bool.false_ne_true

end CommandShell.Text
