import CommandShell.Proofs.Command.Changes
import CommandShell.Proofs.Command.Lookup
import CommandShell.Proofs.Text.Spacing

/-!
# The longest registered name

What `Table.lookup` answers, said with the names in the table and the words of the line alone: the
definition with the longest name that the line begins with, and the remaining words; nothing, if the
line begins with none of the names (`lookup_after`). It holds of every table that changes have
built, whichever names are the beginnings of others.

How the words are spaced does not matter, and a new definition is found for those lines only that
begin with its name and with no longer one. For all other lines the answer is the old one.

The entries are the last definitions of their names, so the search is compared with `lastNamed`
(`longestStanding_entriesOf`); a name is registered if some definition is the last with its words
(`exists_lastNamed_iff`).
-/

namespace CommandShell

open CommandShell.Text

namespace Table

/-- **Holds** — the definition stands in the table under its name. -/
def Holds (t : Table) (d : Definition) : Prop := (d.key, d) ∈ t.entries

/-- **NoLonger** — of the names with which the line begins, none has more words than these. -/
def NoLonger (t : Table) (line : String) (ws : List String) : Prop :=
  ∀ name ∈ t.names, words name <+: words line → (words name).length ≤ ws.length

/-- **Respaced** — two lines with the same words, with blanks around them in any number. -/
def Respaced (line line' : String) : Prop :=
  ∃ ws, Spaced ws line.toList ∧ Spaced ws line'.toList

/-- **FindsLongest** — a line is looked up in a table by the longest name that it begins with. -/
structure FindsLongest (t : Table) (line : String) : Prop where
  /-- Nothing is found if and only if no non-empty beginning of the line is a registered name. -/
  eq_none_iff : t.lookup line = none ↔
    ∀ first rest, words line = first ++ rest → first ≠ [] → ∀ name ∈ t.names, words name ≠ first
  /-- What is found is the definition with the longest name, and the words behind the name. -/
  eq_some_iff : ∀ d args, t.lookup line = some (d, args) ↔
    t.Holds d ∧ words d.name ++ args = words line ∧ t.NoLonger line (words d.name)
  /-- Blanks do not matter. -/
  respaced : ∀ line', Respaced line line' → t.lookup line' = t.lookup line
  /-- A new definition is found if the line begins with its name and with no longer one. -/
  found_after_register : ∀ d args, words d.name ≠ [] → words d.name ++ args = words line →
    t.NoLonger line (words d.name) → (t.register d).2.lookup line = some (d, args)
  /-- It makes a difference to no other lines. -/
  changed_by_register : ∀ d, (t.register d).2.lookup line ≠ t.lookup line →
    words d.name ≠ [] ∧ words d.name <+: words line ∧ t.NoLonger line (words d.name)

variable {ds : List Definition} {d : Definition} {ws : List String}

/-! ## Names and last definitions -/

/-- A list of words is a registered name if and only if there is a last definition with it. -/
theorem exists_lastNamed_iff :
    (∃ d, lastNamed ds ws = some d) ↔ ∃ name ∈ names ⟨entriesOf ds⟩, words name = ws := by
  constructor
  · rintro ⟨d, hlast⟩
    obtain ⟨hd, rfl⟩ := words_of_lastNamed hlast
    exact ⟨_, mem_names_entriesOf_iff.mpr ⟨d, hd, rfl⟩, words_unwords_words d.name⟩
  · rintro ⟨name, hname, rfl⟩
    obtain ⟨d, hd, rfl⟩ := mem_names_entriesOf_iff.mp hname
    rw [words_unwords_words]
    exact exists_lastNamed hd

theorem holds_entriesOf_iff : Holds ⟨entriesOf ds⟩ d ↔ lastNamed ds (words d.name) = some d := by
  unfold Holds
  rw [mem_entriesOf_iff]
  constructor
  · rintro ⟨ws, -, hlast⟩
    obtain ⟨-, rfl⟩ := words_of_lastNamed hlast
    exact hlast
  · intro hlast
    exact ⟨_, rfl, hlast⟩

/-- No beginning of the line that has more words is a name. -/
theorem noLonger_entriesOf_iff {line : String} :
    NoLonger ⟨entriesOf ds⟩ line ws ↔ ∀ longer rest d, words line = longer ++ rest →
      ws.length < longer.length → lastNamed ds longer ≠ some d := by
  constructor
  · intro h longer rest d hsplit hlt hlast
    obtain ⟨name, hname, rfl⟩ := exists_lastNamed_iff.mp ⟨d, hlast⟩
    exact Nat.not_lt.mpr (h name hname ⟨rest, hsplit.symm⟩) hlt
  · rintro h name hname ⟨rest, hsplit⟩
    obtain ⟨d, hlast⟩ := exists_lastNamed_iff.mpr ⟨name, hname, rfl⟩
    by_contra hlt
    exact h _ rest d hsplit.symm (Nat.not_le.mp hlt) hlast

/-! ## What the search finds -/

theorem longestStanding_entriesOf (ds : List Definition) (line : String) :
    LongestStanding (fun ws d => lastNamed ds ws = some d) (words line)
      (lookup ⟨entriesOf ds⟩ line) := by
  apply lookup_longest
  intro ws hws d
  rw [get?_entriesOf hws]

theorem lookup_entriesOf_eq_none_iff {line : String} :
    lookup ⟨entriesOf ds⟩ line = none ↔ ∀ first rest, words line = first ++ rest → first ≠ [] →
      ∀ name ∈ names ⟨entriesOf ds⟩, words name ≠ first := by
  have hlongest := longestStanding_entriesOf ds line
  constructor
  · intro hnone first rest hsplit hne name hname hwords
    rw [hnone] at hlongest
    cases hlongest with
    | nothing unknown =>
        obtain ⟨d, hlast⟩ := exists_lastNamed_iff.mpr ⟨name, hname, hwords⟩
        exact unknown first rest d hsplit hne hlast
  · intro hunknown
    generalize lookup ⟨entriesOf ds⟩ line = answer at hlongest
    cases hlongest with
    | nothing => rfl
    | found split nonempty here =>
        obtain ⟨name, hname, hwords⟩ := exists_lastNamed_iff.mp ⟨_, here⟩
        exact absurd hwords (hunknown _ _ split nonempty name hname)

theorem lookup_entriesOf_eq_some_iff (hnamed : ∀ d ∈ ds, words d.name ≠ []) {line : String}
    {args : List String} :
    lookup ⟨entriesOf ds⟩ line = some (d, args) ↔
      Holds ⟨entriesOf ds⟩ d ∧ words d.name ++ args = words line ∧
        NoLonger ⟨entriesOf ds⟩ line (words d.name) := by
  have hlongest := longestStanding_entriesOf ds line
  rw [holds_entriesOf_iff, noLonger_entriesOf_iff]
  constructor
  · intro hsome
    rw [hsome] at hlongest
    cases hlongest with
    | found split nonempty here longest =>
        obtain ⟨-, rfl⟩ := words_of_lastNamed here
        exact ⟨here, split.symm, longest⟩
  · rintro ⟨here, split, longest⟩
    have hd := (words_of_lastNamed here).1
    refine hlongest.unique ?_ (.found split.symm (hnamed d hd) here longest)
    intro first d d' h h'
    exact Option.some.inj (h.symm.trans h')

/-! ## One more definition -/

theorem register_entriesOf (hd : words d.name ≠ []) :
    (register ⟨entriesOf ds⟩ d).2 = ⟨entriesOf (ds ++ [d])⟩ := by
  rw [register_of_words _ hd, entriesOf_concat]

/-- A definition is found that was added last, if the line begins with no longer name. -/
theorem lookup_entriesOf_concat_of_noLonger {line : String} {args : List String}
    (hd : words d.name ≠ []) (hsplit : words d.name ++ args = words line)
    (hlonger : NoLonger ⟨entriesOf ds⟩ line (words d.name)) :
    lookup ⟨entriesOf (ds ++ [d])⟩ line = some (d, args) := by
  refine (longestStanding_entriesOf (ds ++ [d]) line).unique ?_ (.found hsplit.symm hd ?_ ?_)
  · intro first d d' h h'
    exact Option.some.inj (h.symm.trans h')
  · exact (lastNamed_concat ds d _).trans (if_pos rfl)
  · intro longer rest d' hsplit' hlt hlast
    rw [lastNamed_concat, if_neg fun heq => Nat.lt_irrefl _ (heq ▸ hlt)] at hlast
    exact noLonger_entriesOf_iff.mp hlonger longer rest d' hsplit' hlt hlast

/-- Any other line is answered as before. -/
theorem lookup_entriesOf_concat_of_not {line : String}
    (h : ¬(words d.name <+: words line ∧ NoLonger ⟨entriesOf ds⟩ line (words d.name))) :
    lookup ⟨entriesOf (ds ++ [d])⟩ line = lookup ⟨entriesOf ds⟩ line := by
  have hold := longestStanding_entriesOf ds line
  have hnew := longestStanding_entriesOf (ds ++ [d]) line
  refine hnew.unique (fun first d d' h h' => Option.some.inj (h.symm.trans h')) ?_
  -- The new name is no beginning of the line, or one that is shorter than the answer's.
  have hother : ∀ first rest d', words line = first ++ rest →
      (∀ longer rest' d', words line = longer ++ rest' → first.length < longer.length →
        lastNamed ds longer ≠ some d') →
      (lastNamed (ds ++ [d]) first = some d' ↔ lastNamed ds first = some d') := by
    intro first rest d' hsplit hlonger
    rw [lastNamed_concat, if_neg]
    rintro rfl
    exact h ⟨⟨rest, hsplit.symm⟩, noLonger_entriesOf_iff.mpr hlonger⟩
  generalize lookup ⟨entriesOf ds⟩ line = answer at hold
  cases hold with
  | nothing unknown =>
      refine .nothing fun first rest d' hsplit hne hlast => ?_
      refine unknown first rest d' hsplit hne ((hother first rest d' hsplit ?_).mp hlast)
      intro longer rest' d' hsplit' hlt
      exact unknown longer rest' d' hsplit' (List.ne_nil_of_length_pos (Nat.zero_lt_of_lt hlt))
  | @found first rest d' split nonempty here longest =>
      refine .found split nonempty ((hother first rest d' split longest).mpr here) ?_
      intro longer rest' d'' hsplit' hlt hlast
      refine longest longer rest' d'' hsplit' hlt ((hother longer rest' d'' hsplit' ?_).mp hlast)
      intro longest' rest'' e hsplit'' hlt'
      exact longest longest' rest'' e hsplit'' (Nat.lt_trans hlt hlt')

/-! ## Tables that changes have built -/

theorem lookup_respaced (t : Table) {line line' : String} (h : Respaced line line') :
    t.lookup line' = t.lookup line := by
  obtain ⟨ws, hline, hline'⟩ := h
  unfold lookup
  rw [hline.words_eq, hline'.words_eq]

/-- **lookup_after** — whatever changes have built a table, a line is looked up by the longest name
that it begins with. -/
theorem lookup_after (cs : List Change) (line : String) : (after cs).FindsLongest line := by
  obtain ⟨hnamed, hentries⟩ := registered_spec cs empty [] rfl
  have htable : after cs = ⟨entriesOf (registered empty cs)⟩ := congrArg Table.mk hentries
  rw [htable]
  refine ⟨lookup_entriesOf_eq_none_iff, fun d args => lookup_entriesOf_eq_some_iff hnamed,
    fun line' h => lookup_respaced _ h, ?_, ?_⟩
  · intro d args hd hsplit hlonger
    rw [register_entriesOf hd, lookup_entriesOf_concat_of_noLonger hd hsplit hlonger]
  · intro d hchanged
    by_cases hd : words d.name = []
    · rw [register_of_blank _ hd] at hchanged
      exact absurd rfl hchanged
    · rw [register_entriesOf hd] at hchanged
      exact ⟨hd, not_not.mp (mt lookup_entriesOf_concat_of_not hchanged)⟩

end Table

end CommandShell
