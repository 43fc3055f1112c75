import CommandShell.Proofs.Text.Words
import Mathlib.Tactic.Common

/-!
# Looking up a line

A line is looked up by its words. Let some lists of words stand for definitions: the answer is the
definition of the longest beginning of the line that stands for one, with the words behind it, and
there is none if no beginning does (`LongestStanding`).

The search goes from the whole line down, so the first list that is found is the longest
(`lookupFirst_longest`). It compares keys, that is words put together; as the words of a line are
words, it is enough to know what the table has under the keys of such lists (`lookup_longest`).
-/

namespace CommandShell

open CommandShell.Text

namespace Table

/-- **LongestStanding** — the answer for a line with the words `ws`, where a list of words may stand
for a definition. The empty beginning of the line does not count. -/
inductive LongestStanding (stands : List String → Definition → Prop) (ws : List String) :
    Option (Definition × List String) → Prop
  /-- No beginning of the line stands for anything. -/
  | nothing (unknown : ∀ first rest d, ws = first ++ rest → first ≠ [] → ¬stands first d) :
      LongestStanding stands ws none
  /-- A beginning of the line stands for a definition, and no longer one does. -/
  | found {first rest : List String} {d : Definition} (split : ws = first ++ rest)
      (nonempty : first ≠ []) (here : stands first d)
      (longest : ∀ longer rest' d', ws = longer ++ rest' → first.length < longer.length →
        ¬stands longer d') : LongestStanding stands ws (some (d, rest))

variable {stands : List String → Definition → Prop} {ws : List String} {t : Table}

/-- There is one answer at most, if no list of words stands for two definitions. -/
theorem LongestStanding.unique {answer answer' : Option (Definition × List String)}
    (hone : ∀ first d d', stands first d → stands first d' → d = d')
    (h : LongestStanding stands ws answer) (h' : LongestStanding stands ws answer') :
    answer = answer' := by
  rcases h with unknown | ⟨split, hne, here, longest⟩
  · rcases h' with - | ⟨split', hne', here', -⟩
    · rfl
    · exact absurd here' (unknown _ _ _ split' hne')
  · rcases h' with unknown' | ⟨split', hne', here', longest'⟩
    · exact absurd here (unknown' _ _ _ split hne)
    · have hlength := Nat.le_antisymm
        (Nat.le_of_not_lt fun hlt => longest' _ _ _ split hlt here)
        (Nat.le_of_not_lt fun hlt => longest _ _ _ split' hlt here')
      obtain ⟨rfl, rfl⟩ := List.append_inj (split.symm.trans split') hlength
      rw [hone _ _ _ here here']

/-- **lookupFirst_longest** — going down from the first `n` words, the search finds the longest list
that is a key, if the lists that are longer are none. -/
theorem lookupFirst_longest (n : Nat) (hn : n ≤ ws.length)
    (hget : ∀ first rest d, ws = first ++ rest →
      (t.get? (unwords first) = some d ↔ stands first d))
    (hlonger : ∀ longer rest d, ws = longer ++ rest → n < longer.length → ¬stands longer d) :
    LongestStanding stands ws (t.lookupFirst ws n) := by
  induction n with
  | zero =>
      apply LongestStanding.nothing
      intro first rest d split hne
      exact hlonger first rest d split (List.length_pos_iff.mpr hne)
  | succ n ih =>
      have hsplit : ws = ws.take (n + 1) ++ ws.drop (n + 1) := (List.take_append_drop _ _).symm
      have hlength : (ws.take (n + 1)).length = n + 1 := List.length_take_of_le hn
      unfold lookupFirst
      cases hkey : t.get? (unwords (ws.take (n + 1))) with
      | some d =>
          apply LongestStanding.found hsplit
          · exact List.ne_nil_of_length_eq_add_one hlength
          · exact (hget _ _ d hsplit).mp hkey
          · intro longer rest d' split hlt
            exact hlonger longer rest d' split (hlength ▸ hlt)
      | none =>
          apply ih (by omega)
          intro longer rest d split hlt hstands
          rcases Nat.lt_or_ge (n + 1) longer.length with hlt' | hge
          · exact hlonger longer rest d split hlt' hstands
          · -- A list of this length is the one that was looked for.
            have hsame : longer = ws.take (n + 1) := by
              rw [split, List.take_left' (by omega)]
            rw [hsame] at hstands
            have hsome := (hget _ _ d hsplit).mpr hstands
            rw [hkey] at hsome
            cases hsome

/-- **lookup_longest** — a line is looked up by its longest beginning that is a key. -/
theorem lookup_longest
    (hget : ∀ ws, (∀ w ∈ ws, IsWord w) → ∀ d, t.get? (unwords ws) = some d ↔ stands ws d)
    (line : String) : LongestStanding stands (words line) (t.lookup line) := by
  apply lookupFirst_longest _ (Nat.le_refl _)
  · intro first rest d split
    apply hget
    intro w hw
    apply isWord_of_mem_words (s := line)
    rw [split]
    exact List.mem_append_left rest hw
  · intro longer rest d split hlt
    have hlength := congrArg List.length split
    rw [List.length_append] at hlength
    omega

end Table

end CommandShell
