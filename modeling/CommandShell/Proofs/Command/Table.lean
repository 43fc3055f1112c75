import CommandShell.Command.Table
import CommandShell.Proofs.Text.Words
import Mathlib.Data.List.Induction

/-!
# What the table holds after commands are registered

The entries of a table stand in strictly ascending order of their keys, and putting a definition
keeps this order (`ascending_put`). What a key stands for afterwards is said in one line: the
entries are the one that was put and those before it with another key (`mem_put_iff`).

Hence the entries after a list of definitions has been registered are found without going through
the registrations: a key stands for the last definition with its words (`mem_entriesOf_iff`). A list
is registered as a whole or not at all, because the only error that a registration can meet is
looked for before the first one (`registerAll_of_words`, `registerAll_of_blank`).
-/

namespace CommandShell

open CommandShell.Text

namespace Table

/-! ## One definition -/

/-- **Ascending** — the keys of the entries ascend strictly. -/
def Ascending (entries : List (String × Definition)) : Prop :=
  entries.Pairwise fun e e' => e.1 < e'.1

variable {key : String} {d : Definition} {e : String × Definition}
  {entries : List (String × Definition)}

theorem key_ne_of_lt {a b : String} (h : a < b) : a ≠ b := by
  intro heq
  rw [heq] at h
  exact String.lt_irrefl b h

/-- **mem_put_iff** — the entries afterwards are the new one and those before with another key. -/
theorem mem_put_iff (h : Ascending entries) :
    e ∈ put key d entries ↔ e = (key, d) ∨ e ∈ entries ∧ e.1 ≠ key := by
  induction entries with
  | nil => simp [put]
  | cons first rest ih =>
      obtain ⟨hfirst, hrest⟩ := List.pairwise_cons.mp h
      unfold put
      split_ifs with hlt heq
      · -- All keys are greater than the new one.
        have hother : ∀ e ∈ first :: rest, e.1 ≠ key := by
          intro e he
          obtain rfl | he := List.mem_cons.mp he
          · exact (key_ne_of_lt hlt).symm
          · exact (key_ne_of_lt (String.lt_trans hlt (hfirst e he))).symm
        rw [List.mem_cons]
        exact or_congr_right ⟨fun he => ⟨he, hother e he⟩, fun he => he.1⟩
      · -- The first entry is the one that goes.
        have hother : e ∈ rest → e.1 ≠ key := by
          intro he
          rw [heq]
          exact (key_ne_of_lt (hfirst e he)).symm
        rw [List.mem_cons, List.mem_cons]
        constructor
        · rintro (he | he)
          · exact .inl he
          · exact .inr ⟨.inr he, hother he⟩
        · rintro (he | ⟨rfl | he, hne⟩)
          · exact .inl he
          · exact absurd heq.symm hne
          · exact .inr he
      · rw [List.mem_cons, List.mem_cons, ih hrest]
        constructor
        · rintro (rfl | he | ⟨he, hne⟩)
          · exact .inr ⟨.inl rfl, fun h => heq h.symm⟩
          · exact .inl he
          · exact .inr ⟨.inr he, hne⟩
        · rintro (he | ⟨he | he, hne⟩)
          · exact .inr (.inl he)
          · exact .inl he
          · exact .inr (.inr ⟨he, hne⟩)

theorem ascending_put (h : Ascending entries) : Ascending (put key d entries) := by
  induction entries with
  | nil => exact List.pairwise_singleton _ _
  | cons first rest ih =>
      obtain ⟨hfirst, hrest⟩ := List.pairwise_cons.mp h
      unfold put
      split_ifs with hlt heq
      · refine List.pairwise_cons.mpr ⟨?_, h⟩
        intro e he
        obtain rfl | he := List.mem_cons.mp he
        · exact hlt
        · exact String.lt_trans hlt (hfirst e he)
      · refine List.pairwise_cons.mpr ⟨?_, hrest⟩
        intro e he
        show key < e.1
        rw [heq]
        exact hfirst e he
      · refine List.pairwise_cons.mpr ⟨?_, ih hrest⟩
        intro e he
        obtain rfl | ⟨he, -⟩ := (mem_put_iff hrest).mp he
        · -- The new key is neither smaller than the first one nor the same.
          by_contra hnot
          exact heq (String.le_antisymm (String.not_lt.mp hnot) (String.not_lt.mp hlt))
        · exact hfirst e he

/-! ## A list of definitions -/

/-- **lastNamed** — the last of the definitions whose names have these words. -/
def lastNamed (ds : List Definition) (ws : List String) : Option Definition :=
  (ds.filter fun d => words d.name = ws).getLast?

theorem lastNamed_concat (ds : List Definition) (d : Definition) (ws : List String) :
    lastNamed (ds ++ [d]) ws = if words d.name = ws then some d else lastNamed ds ws := by
  unfold lastNamed
  rw [List.filter_append]
  by_cases h : words d.name = ws
  · rw [if_pos h, List.filter_cons_of_pos (by simpa using h), List.filter_nil,
      List.getLast?_concat]
  · rw [if_neg h, List.filter_cons_of_neg (by simpa using h), List.filter_nil, List.append_nil]

theorem words_of_lastNamed {ds : List Definition} {ws : List String}
    (h : lastNamed ds ws = some d) :
    d ∈ ds ∧ words d.name = ws := by
  have hmem := List.mem_of_getLast? h
  obtain ⟨hd, hws⟩ := List.mem_filter.mp hmem
  exact ⟨hd, by simpa using hws⟩

/-- There is a last definition with the words of any of the names. -/
theorem exists_lastNamed {ds : List Definition} (h : d ∈ ds) :
    ∃ d', lastNamed ds (words d.name) = some d' := by
  have hmem : d ∈ ds.filter fun d' => words d'.name = words d.name :=
    List.mem_filter.mpr ⟨h, by simp⟩
  exact Option.ne_none_iff_exists'.mp fun hnone =>
    List.ne_nil_of_mem hmem (List.getLast?_eq_none_iff.mp hnone)

/-- The entries after definitions have been put into an empty table, one after the other. -/
def entriesOf (ds : List Definition) : List (String × Definition) :=
  ds.foldl (fun entries d => put d.key d entries) []

theorem entriesOf_concat (ds : List Definition) (d : Definition) :
    entriesOf (ds ++ [d]) = put d.key d (entriesOf ds) := by
  unfold entriesOf
  rw [List.foldl_append]
  rfl

theorem ascending_entriesOf (ds : List Definition) : Ascending (entriesOf ds) := by
  induction ds using List.reverseRecOn with
  | nil => exact List.Pairwise.nil
  | append_singleton ds d ih =>
      rw [entriesOf_concat]
      exact ascending_put ih

/-- **mem_entriesOf_iff** — a list of words stands for the last definition whose name has them. -/
theorem mem_entriesOf_iff (ds : List Definition) :
    e ∈ entriesOf ds ↔ ∃ ws, e.1 = unwords ws ∧ lastNamed ds ws = some e.2 := by
  induction ds using List.reverseRecOn generalizing e with
  | nil =>
      constructor
      · intro h
        cases h
      · rintro ⟨ws, -, hlast⟩
        cases hlast
  | append_singleton ds d ih =>
      rw [entriesOf_concat, mem_put_iff (ascending_entriesOf ds), ih]
      constructor
      · rintro (rfl | ⟨⟨ws, hkey, hlast⟩, hne⟩)
        · exact ⟨words d.name, rfl, by rw [lastNamed_concat, if_pos rfl]⟩
        · refine ⟨ws, hkey, ?_⟩
          rw [lastNamed_concat, if_neg, hlast]
          intro hws
          rw [← hws] at hkey
          exact hne hkey
      · rintro ⟨ws, hkey, hlast⟩
        rw [lastNamed_concat] at hlast
        split_ifs at hlast with hws
        · obtain rfl := Option.some.inj hlast
          exact .inl (Prod.ext (by rw [hkey, ← hws]; rfl) rfl)
        · refine .inr ⟨⟨ws, hkey, hlast⟩, ?_⟩
          -- The words of the key are those of a name, so the key tells them apart.
          intro hsame
          obtain ⟨-, hlastWords⟩ := words_of_lastNamed hlast
          rw [hkey, ← hlastWords] at hsame
          exact hws ((Definition.keyOf_eq_iff.mp hsame).symm.trans hlastWords)

/-! ## Registering -/

variable {t : Table} {ds : List Definition}

theorem register_of_words (t : Table) (h : words d.name ≠ []) :
    t.register d = (.ok (), ⟨put d.key d t.entries⟩) :=
  if_neg fun hkey => h (Definition.keyOf_eq_empty_iff.mp hkey)

theorem register_of_blank (t : Table) (h : words d.name = []) :
    t.register d = (.error emptyName, t) :=
  if_pos (Definition.keyOf_eq_empty_iff.mpr h)

/-- Definitions that all have words are all registered. -/
theorem registerEach_of_words (h : ∀ d ∈ ds, words d.name ≠ []) :
    t.registerEach ds = (.ok (), ⟨ds.foldl (fun entries d => put d.key d entries) t.entries⟩) := by
  induction ds generalizing t with
  | nil => rfl
  | cons d ds ih =>
      obtain ⟨hd, hds⟩ := List.forall_mem_cons.mp h
      unfold registerEach
      rw [register_of_words t hd]
      exact ih hds

theorem any_blank_iff : (ds.any fun d => d.key = "") = true ↔ ∃ d ∈ ds, words d.name = [] := by
  rw [List.any_eq_true]
  refine exists_congr fun d => and_congr_right fun _ => ?_
  rw [decide_eq_true_eq]
  exact Definition.keyOf_eq_empty_iff

/-- **registerAll_of_words** — if every name has words, all definitions are registered. -/
theorem registerAll_of_words (t : Table) (h : ∀ d ∈ ds, words d.name ≠ []) :
    t.registerAll ds = (.ok (), ⟨ds.foldl (fun entries d => put d.key d entries) t.entries⟩) := by
  unfold registerAll
  rw [if_neg, registerEach_of_words h]
  intro hany
  obtain ⟨d, hd, hblank⟩ := any_blank_iff.mp hany
  exact h d hd hblank

/-- **registerAll_of_blank** — if one name has none, nothing is registered. -/
theorem registerAll_of_blank (t : Table) (h : ∃ d ∈ ds, words d.name = []) :
    t.registerAll ds = (.error emptyName, t) :=
  if_pos (any_blank_iff.mpr h)

end Table

end CommandShell
