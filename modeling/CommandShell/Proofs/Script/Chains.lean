import CommandShell.Proofs.Script.Commands
import Mathlib.Data.Nat.Find
import Mathlib.Order.Bounds.Basic
import Mathlib.Order.WellFounded

/-!
# Chains of scripts

A chain of scripts begins with one that a line of some list asks for, and each of the others is
asked for by a line of the one before. Where no chain is endless, scripts nest only so many levels
deep (`exists_nests`): the lines of a script are finitely many, and so are the scripts that they ask
for. How deep they nest is the length of a longest chain (`nests_iff`, `exists_isGreatest_chain`).
-/

namespace CommandShell.Builtins

variable {b : Builtins} {line : String} {lines : List String} {source : Source} {k : Nat}

/-- **Asks** — one of the lines asks for the script, and it can be opened. -/
def Asks (b : Builtins) (lines : List String) (source : Source) : Prop :=
  ∃ line ∈ lines, b.script? line = some source

/-- **Chain** — one of the lines asks for the first script, and a line of each script for the next
one. -/
def Chain (b : Builtins) : List String → List Source → Prop
  | _, [] => True
  | lines, source :: chain => b.Asks lines source ∧ Chain b source.stream.lines chain

/-- **Nests** — the scripts that the lines ask for nest at most so deep. -/
def Nests (b : Builtins) : Nat → List String → Prop
  | 0, lines => ∀ source, ¬b.Asks lines source
  | k + 1, lines => ∀ source, b.Asks lines source → Nests b k source.stream.lines

/-! ## Levels -/

theorem nests_zero_iff :
    b.Nests 0 lines ↔ ∀ line ∈ lines, ∀ source ∈ b.script? line, False := by
  constructor
  · intro h line hline source hs
    exact h source ⟨line, hline, hs⟩
  · rintro h source ⟨line, hline, hs⟩
    exact h line hline source hs

theorem nests_succ_iff : b.Nests (k + 1) lines ↔
    ∀ line ∈ lines, ∀ source ∈ b.script? line, b.Nests k source.stream.lines := by
  constructor
  · intro h line hline source hs
    exact h source ⟨line, hline, hs⟩
  · rintro h source ⟨line, hline, hs⟩
    exact h line hline source hs

/-- How deep scripts nest can be found out by reading them. -/
instance decidableNests (b : Builtins) : (k : Nat) → (lines : List String) →
    Decidable (b.Nests k lines)
  | 0, _ => decidable_of_iff _ nests_zero_iff.symm
  | k + 1, lines =>
    have : ∀ source : Source, Decidable (b.Nests k source.stream.lines) := fun source =>
      decidableNests b k source.stream.lines
    decidable_of_iff (∀ line ∈ lines, ∀ source ∈ b.script? line, b.Nests k source.stream.lines)
      nests_succ_iff.symm

theorem nests_of_subset {lines' : List String} (h : b.Nests k lines)
    (hsub : ∀ line ∈ lines', line ∈ lines) : b.Nests k lines' := by
  have hasks : ∀ source, b.Asks lines' source → b.Asks lines source := by
    rintro source ⟨line, hline, hscript⟩
    exact ⟨line, hsub line hline, hscript⟩
  cases k with
  | zero => exact fun source hs => h source (hasks source hs)
  | succ k => exact fun source hs => h source (hasks source hs)

theorem nests_nil (b : Builtins) (k : Nat) : b.Nests k [] := by
  have hnone : ∀ source, ¬b.Asks [] source := by
    rintro source ⟨line, hline, -⟩
    cases hline
  cases k with
  | zero => exact hnone
  | succ k => exact fun source hs => absurd hs (hnone source)

/-- Scripts nest at most so deep exactly if no chain is longer. -/
theorem nests_iff : b.Nests k lines ↔ ∀ chain, b.Chain lines chain → chain.length ≤ k := by
  -- The first script of a chain takes a level, and the rest is a chain of that script.
  induction k generalizing lines with
  | zero =>
      constructor
      · intro h chain hchain
        cases chain with
        | nil => exact Nat.le_refl 0
        | cons source chain => exact absurd hchain.1 (h source)
      · intro h source hs
        have hlen := h [source] ⟨hs, trivial⟩
        cases hlen
  | succ k ih =>
      constructor
      · intro h chain hchain
        cases chain with
        | nil => exact Nat.zero_le _
        | cons source chain =>
            exact Nat.succ_le_succ (ih.mp (h source hchain.1) chain hchain.2)
      · intro h source hs
        refine ih.mpr fun chain hchain => ?_
        exact Nat.le_of_succ_le_succ (h (source :: chain) ⟨hs, hchain⟩)

theorem nests_of_le {m : Nat} (h : b.Nests k lines) (hm : k ≤ m) : b.Nests m lines :=
  nests_iff.mpr fun chain hchain => (nests_iff.mp h chain hchain).trans hm

/-- What one line asks for and what the others ask for is what all of them ask for. -/
theorem asks_cons : b.Asks (line :: lines) source ↔
    b.script? line = some source ∨ b.Asks lines source := by
  simp [Asks]

/-! ## Longest chains -/

/-- Finitely many lines nest if the scripts that they ask for do. -/
theorem exists_nests_of_scripts
    (h : ∀ source, b.Asks lines source → ∃ k, b.Nests k source.stream.lines) :
    ∃ k, b.Nests k lines := by
  induction lines with
  | nil => exact ⟨0, nests_nil b 0⟩
  | cons line lines ih =>
      obtain ⟨k, hk⟩ := ih fun source hs => h source (asks_cons.mpr (.inr hs))
      -- The script of the first line adds a level to its own ones.
      have hfirst :
          ∃ m, ∀ source, b.script? line = some source → b.Nests m source.stream.lines := by
        cases hscript : b.script? line with
        | none => exact ⟨0, by simp⟩
        | some source =>
            obtain ⟨m, hm⟩ := h source (asks_cons.mpr (.inl hscript))
            exact ⟨m, fun source' hs' => Option.some.inj hs' ▸ hm⟩
      obtain ⟨m, hm⟩ := hfirst
      refine ⟨max k m + 1, fun source hs => ?_⟩
      rcases asks_cons.mp hs with hs | hs
      · exact nests_of_le (hm source hs) (Nat.le_max_right k m)
      · have hmore : b.Nests (max k m + 1) lines :=
          nests_of_le hk ((Nat.le_max_left k m).trans (Nat.le_succ _))
        exact hmore source hs

/-- Lines that stand in a script which others ask for. -/
def Below (b : Builtins) (lower upper : List String) : Prop :=
  ∃ source, b.Asks upper source ∧ lower = source.stream.lines

/-- **Where no chain is endless, scripts nest at most so deep.** -/
theorem exists_nests (h : ¬∃ chain : ℕ → Source, b.Asks lines (chain 0) ∧
      ∀ i, b.Asks (chain i).stream.lines (chain (i + 1))) : ∃ k, b.Nests k lines := by
  have hacc : Acc b.Below lines := by
    by_contra hnot
    -- The scripts of an endless descent are an endless chain.
    obtain ⟨f, rfl, hf⟩ := not_acc_iff_exists_descending_chain.mp hnot
    choose chain hasks hlines using hf
    refine h ⟨chain, hasks 0, fun i => ?_⟩
    rw [← hlines i]
    exact hasks (i + 1)
  clear h
  induction hacc with
  | intro lines _ ih =>
      exact exists_nests_of_scripts fun source hs => ih source.stream.lines ⟨source, hs, rfl⟩

/-- Where scripts nest at most so deep, no chain is endless. -/
theorem not_endless_of_nests (h : b.Nests k lines) :
    ¬∃ chain : ℕ → Source, b.Asks lines (chain 0) ∧
      ∀ i, b.Asks (chain i).stream.lines (chain (i + 1)) := by
  rintro ⟨chain, hfirst, hnext⟩
  -- The later scripts of an endless chain are an endless chain too, one level deeper.
  induction k generalizing lines chain with
  | zero => exact h (chain 0) hfirst
  | succ k ih =>
      exact ih (h (chain 0) hfirst) (fun i => chain (i + 1)) (hnext 0) fun i => hnext (i + 1)

/-- Scripts nest no deeper than the longest chain is long. -/
theorem nests_of_isGreatest
    (h : IsGreatest {n | ∃ chain, b.Chain lines chain ∧ chain.length = n} k) : b.Nests k lines :=
  nests_iff.mpr fun chain hchain => h.2 ⟨chain, hchain, rfl⟩

/-- Where scripts nest at most so deep, there is a longest chain. -/
theorem exists_isGreatest_chain (h : ∃ k, b.Nests k lines) :
    ∃ k, IsGreatest {n | ∃ chain, b.Chain lines chain ∧ chain.length = n} k := by
  classical
  have hk : b.Nests (Nat.find h) lines := Nat.find_spec h
  refine ⟨Nat.find h, ?_, ?_⟩
  · cases hfind : Nat.find h with
    | zero => exact ⟨[], trivial, rfl⟩
    | succ m =>
        -- One level less is not enough, so some chain is longer than that.
        have hnot : ¬b.Nests m lines := Nat.find_min h (by omega)
        rw [nests_iff] at hnot
        push Not at hnot
        obtain ⟨chain, hchain, hlong⟩ := hnot
        have hle := nests_iff.mp hk chain hchain
        exact ⟨chain, hchain, by omega⟩
  · rintro n ⟨chain, hchain, rfl⟩
    exact nests_iff.mp hk chain hchain

end CommandShell.Builtins
