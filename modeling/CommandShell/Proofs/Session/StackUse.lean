import CommandShell.Proofs.Session.Acts
import Mathlib.Data.List.Forall2
import Mathlib.Data.List.Perm.Basic
import Mathlib.Data.List.Induction

/-!
# The contract of the stack

A caller pushes sources, pops them and clears the stack, in any order, and drops the stack at the
end, which is one more clearing. Whatever he does, the stack keeps its contract (`contract`).

One use releases some sources of the top, top first, and puts at most one on it (`use_spec`). To say
which of the pushed sources those are, they are numbered in the order of the pushes: a **tally**
holds the numbers of the sources on the stack, the latest first, and those of the sources that were
released, in the order of their release. Every use keeps the tally (`Tally.use`), so every number
is in one of the two lists, and the first on the stack is the latest that is not among the released
ones.

Pops are counted against pushes in the same way: as long as there were never more of them, there are
at most as many sources on the stack as pushes without a pop of their own (`length_add_pops_le`).
-/

namespace CommandShell.Stack

/-! ## Uses -/

/-- **Use** — what a caller can do with a stack. -/
inductive Use
  | push (source : Source) (primordial : Bool)
  | pop
  | clear
  deriving DecidableEq

/-- The source that a use pushes, as it stands on the stack. -/
def Use.pushed : Use → List Source
  | push source primordial => [{ source with primordial }]
  | pop | clear => []

/-- **use** — the stack after a use, and the events. -/
def use (s : Stack) : Use → Stack × List Event
  | .push source primordial => s.push source primordial
  | .pop => (s.pop.1, s.pop.2.2)
  | .clear => s.clear

/-- **run** — uses one after the other, from the empty stack on. -/
def run (us : List Use) : Stack × List Event :=
  us.foldl (fun done u => ((done.1.use u).1, done.2 ++ (done.1.use u).2)) (empty, [])

/-- The stack after some uses. -/
def after (us : List Use) : Stack := (run us).1

/-- The sources that uses have released, the first one first. -/
def released (us : List Use) : List Source := releases (run us).2

/-- The sources that uses have pushed, the first one first. -/
def pushed (us : List Use) : List Source := us.flatMap Use.pushed

variable {us : List Use} {u : Use} {s : Stack}

theorem after_concat (us : List Use) (u : Use) : after (us ++ [u]) = ((after us).use u).1 := by
  unfold after run
  rw [List.foldl_append]
  rfl

theorem released_concat (us : List Use) (u : Use) :
    released (us ++ [u]) = released us ++ releases ((after us).use u).2 := by
  unfold released after run
  rw [List.foldl_append]
  exact releases_append _ _

theorem pushed_concat (us : List Use) (u : Use) : pushed (us ++ [u]) = pushed us ++ u.pushed := by
  unfold pushed
  rw [List.flatMap_append, List.flatMap_singleton]

/-! ## One use -/

/-- **use_spec** — a use releases some sources of the top, top first, and leaves the others, with
what it pushes on top of them. -/
theorem use_spec (s : Stack) (u : Use) : ∃ k, releases (s.use u).2 = s.sources.take k ∧
    (s.use u).1.sources = u.pushed ++ s.sources.drop k := by
  cases u with
  | push source primordial => exact ⟨0, rfl, rfl⟩
  | pop => exact s.pop_spec
  | clear =>
      refine ⟨s.sources.length, ?_, ?_⟩
      · rw [List.take_length]
        exact releases_releaseAll s.sources
      · rw [List.drop_length]
        rfl

/-- A pop tells whether something is left. -/
theorem pop_answer_iff (s : Stack) : s.pop.2.1 = true ↔ s.pop.1 ≠ empty := by
  have hempty : s.pop.1 ≠ empty ↔ s.pop.1.sources ≠ [] :=
    not_congr ⟨fun h => congrArg sources h, fun h => Stack.ext h⟩
  rw [hempty]
  cases hs : s.sources with
  | nil =>
      obtain ⟨hleft, hanswer⟩ := pop_of_nil hs
      rw [hleft, hanswer]
      exact iff_of_false Bool.false_ne_true (not_not_intro rfl)
  | cons top rest =>
      obtain ⟨hleft, hanswer⟩ := pop_of_cons hs
      rw [hleft, hanswer]
      cases top.primordial with
      | false => cases rest <;> simp
      | true => simp

theorem pop_of_primordial {top : Source} (htop : s.current? = some top)
    (hprimordial : top.primordial = true) : s.pop.1 = empty ∧ s.pop.2.1 = false := by
  obtain ⟨rest, hs⟩ := current?_eq_some_iff.mp htop
  obtain ⟨hleft, hanswer⟩ := pop_of_cons hs
  rw [hprimordial] at hleft hanswer
  exact ⟨Stack.ext hleft, hanswer⟩

/-- A pop of a stack with sources takes one at least. -/
theorem length_pop (s : Stack) : s.pop.1.sources.length ≤ s.sources.length - 1 := by
  cases hs : s.sources with
  | nil =>
      rw [(pop_of_nil hs).1]
      exact Nat.le_refl 0
  | cons top rest =>
      rw [(pop_of_cons hs).1]
      split
      · exact Nat.zero_le _
      · exact Nat.le_refl _

/-! ## The tally -/

/-- **Numbered** — the sources are those that were pushed with these numbers. -/
def Numbered (all : List Source) (numbers : List Nat) (sources : List Source) : Prop :=
  List.Forall₂ (fun n source => all[n]? = some source) numbers sources

/-- What is pushed later does not matter. -/
theorem Numbered.append_pushed {all sources : List Source} {numbers : List Nat}
    (h : Numbered all numbers sources) (more : List Source) :
    Numbered (all ++ more) numbers sources := by
  refine h.imp fun n source hn => ?_
  rw [List.getElem?_append_left (List.getElem?_eq_some_iff.mp hn).1, hn]

/-- **Tally** — the numbers of the sources on the stack, the latest first, and of those that were
released. -/
structure Tally (us : List Use) (held gone : List Nat) : Prop where
  latest_first : held.Pairwise (· > ·)
  /-- Every number is in one of the lists, once. -/
  once : (held ++ gone).Perm (List.range (pushed us).length)
  stands : Numbered (pushed us) held (after us).sources
  released : Numbered (pushed us) gone (released us)

variable {held gone : List Nat}

theorem tally_nil : Tally [] [] [] where
  latest_first := .nil
  once := .refl _
  stands := .nil
  released := .nil

theorem Tally.lt_of_mem (h : Tally us held gone) {n : Nat} (hn : n ∈ held) :
    n < (pushed us).length :=
  List.mem_range.mp (h.once.mem_iff.mp (List.mem_append_left gone hn))

/-- **Tally.use** — the next use moves the numbers of the sources that it releases, and begins with
a new number if it pushes one. -/
theorem Tally.use (h : Tally us held gone) (u : Use) :
    ∃ held' k, Tally (us ++ [u]) held' (gone ++ held.take k) := by
  obtain ⟨k, hreleased, hleft⟩ := (after us).use_spec u
  rw [← after_concat] at hleft
  have hgone : Numbered (pushed (us ++ [u])) (gone ++ held.take k)
      (Stack.released (us ++ [u])) := by
    rw [pushed_concat, released_concat, hreleased]
    exact Numbered.append_pushed (List.rel_append h.released (List.forall₂_take k h.stands)) _
  have hkept : Numbered (pushed (us ++ [u])) (held.drop k) ((after us).sources.drop k) := by
    rw [pushed_concat]
    exact Numbered.append_pushed (List.forall₂_drop k h.stands) _
  have hlatest : (held.drop k).Pairwise (· > ·) := h.latest_first.sublist (List.drop_sublist k held)
  -- The numbers are those from before, in another order.
  have honce : (held.drop k ++ (gone ++ held.take k)).Perm (List.range (pushed us).length) := by
    refine List.Perm.trans ?_ h.once
    calc (held.drop k ++ (gone ++ held.take k))
      _ |>.Perm (gone ++ held.take k ++ held.drop k) := List.perm_append_comm
      _ |>.Perm (gone ++ held) := by rw [List.append_assoc, List.take_append_drop]
      _ |>.Perm (held ++ gone) := List.perm_append_comm
  have hpushed := pushed_concat us u
  cases hu : u.pushed with
  | nil =>
      rw [hu, List.append_nil] at hpushed
      refine ⟨held.drop k, k, hlatest, ?_, ?_, hgone⟩
      · rw [hpushed]
        exact honce
      · rw [hleft, hu]
        exact hkept
  | cons source more =>
      obtain rfl : more = [] := by
        cases u with
        | push => exact (List.cons.inj hu).2.symm
        | pop => cases hu
        | clear => cases hu
      have hnew : (pushed (us ++ [u]))[(pushed us).length]? = some source := by
        rw [hpushed, hu, List.getElem?_concat_length]
      refine ⟨(pushed us).length :: held.drop k, k, ?_, ?_, ?_, hgone⟩
      · refine List.pairwise_cons.mpr ⟨fun n hn => ?_, hlatest⟩
        exact h.lt_of_mem (List.mem_of_mem_drop hn)
      · rw [hpushed, hu, List.length_append, List.length_singleton, List.range_succ,
          List.cons_append]
        exact (honce.cons _).trans (List.perm_append_singleton _ _).symm
      · rw [hleft, hu]
        exact .cons hnew hkept

/-- There is one order of release for a sequence, and the uses up to any moment have released the
first part of it. -/
theorem exists_tally (us : List Use) : ∃ held order, Tally us held order ∧
    ∀ before rest, us = before ++ rest →
      ∃ held', Tally before held' (order.take (released before).length) := by
  induction us using List.reverseRecOn with
  | nil =>
      refine ⟨[], [], tally_nil, fun before rest heq => ?_⟩
      obtain ⟨rfl, rfl⟩ := List.append_eq_nil_iff.mp heq.symm
      exact ⟨[], tally_nil⟩
  | append_singleton us u ih =>
      obtain ⟨held, order, htally, hparts⟩ := ih
      obtain ⟨held', k, hnext⟩ := htally.use u
      refine ⟨held', order ++ held.take k, hnext, fun before rest heq => ?_⟩
      rcases List.eq_nil_or_concat' rest with rfl | ⟨rest, u', rfl⟩
      · -- All of the uses have released all of it.
        rw [List.append_nil] at heq
        subst heq
        rw [← hnext.released.length_eq, List.take_length]
        exact ⟨held', hnext⟩
      · rw [← List.append_assoc] at heq
        obtain ⟨held'', hpart⟩ := hparts before rest (List.append_inj_left' heq rfl)
        have hlength := hpart.released.length_eq
        rw [List.length_take] at hlength
        rw [List.take_append_of_le_length (by omega)]
        exact ⟨held'', hpart⟩

/-- **standing** — of the first numbers those that are not among some others, the latest first. -/
def standing (count : Nat) (gone : List Nat) : List Nat :=
  (List.range count).reverse.filter (· ∉ gone)

/-- On the stack are the numbers that were not released. -/
theorem Tally.held_eq (h : Tally us held gone) : held = standing (pushed us).length gone := by
  have hnodup : (held ++ gone).Nodup := h.once.nodup_iff.mpr List.nodup_range
  have hstanding : (standing (pushed us).length gone).Pairwise (· > ·) :=
    (List.pairwise_reverse.mpr List.pairwise_lt_range).filter _
  refine List.Perm.eq_of_pairwise (fun a b _ _ hab hba => absurd hab (Nat.lt_asymm hba))
    h.latest_first hstanding ?_
  refine (List.perm_ext_iff_of_nodup (h.latest_first.imp Nat.ne_of_gt)
    (hstanding.imp Nat.ne_of_gt)).mpr fun n => ?_
  have hmem := h.once.mem_iff (a := n)
  rw [List.mem_append, List.mem_range] at hmem
  unfold standing
  rw [List.mem_filter, List.mem_reverse, List.mem_range, decide_eq_true_eq, ← hmem]
  constructor
  · intro hn
    exact ⟨.inl hn, fun hgone => (List.nodup_append.mp hnodup).2.2 n hn n hgone rfl⟩
  · rintro ⟨hn | hn, hnot⟩
    · exact hn
    · exact absurd hn hnot

/-! ## Pops and pushes -/

/-- **NeverAhead** — up to any moment there were at most as many pops as pushes. -/
def NeverAhead (us : List Use) : Prop :=
  ∀ before rest, us = before ++ rest → before.count .pop ≤ (pushed before).length

/-- **length_add_pops_le** — what is on the stack and what was popped is at most what was pushed. -/
theorem length_add_pops_le (h : NeverAhead us) :
    (after us).sources.length + us.count .pop ≤ (pushed us).length := by
  induction us using List.reverseRecOn with
  | nil => exact Nat.le_refl 0
  | append_singleton us u ih =>
      have hwhole := h (us ++ [u]) [] (List.append_nil _).symm
      have hbefore := ih fun before rest heq =>
        h before (rest ++ [u]) (by rw [heq, List.append_assoc])
      rw [after_concat]
      rw [List.count_append, pushed_concat, List.length_append] at hwhole ⊢
      cases u with
      | push source primordial =>
          have hlength : ((after us).use (.push source primordial)).1.sources.length
              = (after us).sources.length + 1 := rfl
          have hcount : [Use.push source primordial].count .pop = 0 := rfl
          have hpushed : (Use.push source primordial).pushed.length = 1 := rfl
          omega
      | pop =>
          -- If nothing was on the stack, the bound on the pops is what counts.
          have hlength : ((after us).use .pop).1.sources.length ≤ (after us).sources.length - 1 :=
            (after us).length_pop
          have hcount : [Use.pop].count .pop = 1 := rfl
          have hpushed : Use.pop.pushed.length = 0 := rfl
          omega
      | clear =>
          have hlength : ((after us).use .clear).1.sources.length = 0 := rfl
          have hcount : [Use.clear].count .pop = 0 := rfl
          have hpushed : Use.clear.pushed.length = 0 := rfl
          omega

/-- **Balanced** — as many pops as pushes, and never more of them before. -/
structure Balanced (us : List Use) : Prop where
  never_ahead : NeverAhead us
  even : us.count .pop = (pushed us).length

theorem Balanced.after_eq (h : Balanced us) : after us = empty := by
  have hle := length_add_pops_le h.never_ahead
  have heven := h.even
  exact Stack.ext (List.eq_nil_of_length_eq_zero (by omega))

/-- The last pop finds nothing to go on with: only clearing can follow it. -/
theorem Balanced.last_pop {before rest : List Use} (h : Balanced us)
    (hus : us = before ++ .pop :: rest) (hlast : .pop ∉ rest) : (after before).pop.2.1 = false := by
  have hsplit : us = (before ++ [.pop]) ++ rest := by rw [hus, List.append_assoc]; rfl
  have hahead : NeverAhead (before ++ [.pop]) := fun first more heq =>
    h.never_ahead first (more ++ rest) (by rw [hsplit, heq, List.append_assoc])
  have hle := length_add_pops_le hahead
  have heven := h.even
  have hcount : us.count Use.pop = (before ++ [Use.pop]).count Use.pop := by
    rw [hsplit, List.count_append, List.count_eq_zero.mpr hlast, Nat.add_zero]
  have hpushed : (pushed us).length
      = (pushed (before ++ [.pop])).length + (pushed rest).length := by
    rw [hsplit]
    unfold pushed
    rw [List.flatMap_append, List.length_append]
  have hempty : (after before).pop.1 = empty := by
    have hnil : (after (before ++ [.pop])).sources = [] :=
      List.eq_nil_of_length_eq_zero (by omega)
    rw [after_concat] at hnil
    exact Stack.ext hnil
  rw [Bool.eq_false_iff, Ne, pop_answer_iff]
  exact not_not_intro hempty

/-! ## The contract -/

/-- **KeepsContract** — what a caller can rely on, after some uses and then at the end. -/
structure KeepsContract (us : List Use) : Prop where
  /-- A pop tells whether the stack has a source afterwards. -/
  answer : (after us).pop.2.1 = true ↔ (after us).pop.1 ≠ empty
  /-- To pop the first source of a run empties the stack, and there is nothing to go on with. -/
  primordial : ∀ top, (after us).current? = some top → top.primordial = true →
    (after us).pop.1 = empty ∧ (after us).pop.2.1 = false
  /-- Whatever the next use is, it releases sources of the top, top first, and leaves the others. -/
  top_first : ∀ u, ∃ k, releases ((after us).use u).2 = (after us).sources.take k ∧
    ((after us).use u).1.sources = u.pushed ++ (after us).sources.drop k
  /-- Every source that was pushed is released once by the end, in an order such that at any moment
  the sources on the stack are those that were not released, the latest first. -/
  once : ∃ order, order.Perm (List.range (pushed us).length) ∧
    Numbered (pushed us) order (released (us ++ [.clear])) ∧
    ∀ before rest, us = before ++ rest →
      Numbered (pushed us)
        (standing (pushed before).length (order.take (released before).length))
        (after before).sources ∧
      (after before).current? =
        (standing (pushed before).length (order.take (released before).length)).head?.bind
          fun n => (pushed us)[n]?
  /-- As many pops as pushes leave nothing, and the last of them says so. -/
  balanced : Balanced us → after us = empty ∧
    ∀ before rest, us = before ++ .pop :: rest → .pop ∉ rest → (after before).pop.2.1 = false

/-- What is on top has the first of the numbers. -/
theorem Numbered.head?_eq {all sources : List Source} {numbers : List Nat}
    (h : Numbered all numbers sources) :
    sources.head? = numbers.head?.bind fun n => all[n]? := by
  cases h with
  | nil => rfl
  | cons hn _ => exact hn.symm

/-- **contract** — the stack keeps its contract, whatever it is used for. -/
theorem contract (us : List Use) : KeepsContract us where
  answer := (after us).pop_answer_iff
  primordial := fun _ => pop_of_primordial
  top_first := (after us).use_spec
  once := by
    obtain ⟨held, order, htally, hparts⟩ := exists_tally (us ++ [.clear])
    have hpushed : pushed (us ++ [.clear]) = pushed us := by
      rw [pushed_concat]
      exact List.append_nil _
    -- Nothing is left on the stack at the end, so every number is among the released ones.
    have hheld : held = [] := by
      have hstands := htally.stands
      rw [after_concat] at hstands
      exact List.forall₂_nil_right_iff.mp hstands
    subst hheld
    refine ⟨order, hpushed ▸ htally.once, hpushed ▸ htally.released, fun before rest heq => ?_⟩
    obtain ⟨held, hpart⟩ := hparts before (rest ++ [.clear]) (by rw [heq, List.append_assoc])
    have hstands : Numbered (pushed us) held (after before).sources := by
      rw [heq, pushed, List.flatMap_append]
      exact hpart.stands.append_pushed _
    rw [hpart.held_eq] at hstands
    exact ⟨hstands, hstands.head?_eq⟩
  balanced := fun h => ⟨h.after_eq, fun _ _ => h.last_pop⟩

end CommandShell.Stack
