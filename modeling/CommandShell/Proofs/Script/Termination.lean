import CommandShell.Files.Snapshot
import CommandShell.Proofs.Script.Agenda
import CommandShell.Proofs.Script.Chains
import CommandShell.Proofs.Session.Effects
import CommandShell.Proofs.Session.Release

/-!
# Scripts without cycles come to an end

Where no chain of scripts is endless, a run ends, and its stack is never deeper than a longest chain
and the first source together (`runAsked_ends`). It may be asked to stop at any time, and a person
may type the lines of the first source.

While a run is under way, each list of the agenda asks for scripts that nest only as deep as is left
to it by those below (`Within`), which bounds the depth of the stack. The turns that are left are
counted by what the agenda still takes (`toilOf`): a line takes three, and so does the end of a
source, and a line that asks for a script takes as many more as the script. Every turn that goes on
takes one away (`Advances.within`).
-/

namespace CommandShell

open CommandShell.Text
open CommandShell.Files

/-! ## How deep the stack was -/

/-- The depth of the stack after a push, if the event is one. -/
def Event.pushDepth? : Event → Option Nat
  | .logged (.sourcePushed _ _ _ depth) => some depth
  | _ => none

/-- **pushDepths** — how deep the stack was after each push among events. -/
def pushDepths (es : List Event) : List Nat := es.filterMap Event.pushDepth?

@[simp] theorem pushDepths_nil : pushDepths [] = [] := rfl

@[simp] theorem pushDepths_append (as bs : List Event) :
    pushDepths (as ++ bs) = pushDepths as ++ pushDepths bs :=
  List.filterMap_append ..

@[simp] theorem pushDepths_cons (e : Event) (es : List Event) :
    pushDepths (e :: es) = e.pushDepth?.toList ++ pushDepths es := by
  rw [pushDepths, List.filterMap_cons]
  cases e.pushDepth? <;> rfl

/-- Pushes are among the effects. -/
theorem pushDepths_effects (es : List Event) : pushDepths (effects es) = pushDepths es := by
  rw [pushDepths, pushDepths, effects, List.filterMap_filter]
  refine List.filterMap_congr fun e _ => ?_
  unfold Event.isEffect Event.pushDepth?
  split <;> simp

/-- Notes are no pushes. -/
theorem pushDepths_noted (notes : List Note) : pushDepths (notes.map .noted) = [] := by
  rw [pushDepths, List.filterMap_map]
  exact List.filterMap_eq_nil_iff.mpr fun _ _ => rfl

namespace Loop

variable {ε : Type} {h : Host ε} {l : Loop ε} {d : Nat}

/-- No request makes the stack less deep. -/
theorem depth_le_carryOutAll (l : Loop ε) (rs : List Request) :
    l.stack.depth ≤ (l.carryOutAll rs).1.stack.depth := by
  rw [carryOutAll_loop]
  exact Nat.le_add_left l.stack.depth _

/-- Each push makes the stack deeper, so it is deepest after the last one. -/
theorem le_depth_of_carryOutAll {rs : List Request} (hd : d ∈ pushDepths (l.carryOutAll rs).2) :
    d ≤ (l.carryOutAll rs).1.stack.depth := by
  induction rs generalizing l with
  | nil => cases hd
  | cons request rs ih =>
      rw [carryOutAll, pushDepths_append] at hd
      rcases List.mem_append.mp hd with hd | hd
      · rw [← pushDepths_effects, effects_carryOut] at hd
        cases request with
        | push source =>
            have hlater := depth_le_carryOutAll (l.carryOut (.push source)).1 rs
            have hdepth : d = l.stack.depth + 1 := by simpa [Event.pushDepth?] using hd
            rw [hdepth]
            exact hlater
        | close => cases hd
        | cancel => cases hd
        | note n => simp [Event.pushDepth?] at hd
      · exact ih hd

/-- Only a line that is carried out makes the stack deeper, and it is deepest afterwards. -/
theorem le_depth_of_step (hd : d ∈ pushDepths (l.step h).events) :
    l.next = .dispatch ∧ d ≤ (l.carried h).1.stack.depth := by
  rw [← pushDepths_effects, effects_step] at hd
  split at hd
  · rw [pushDepths_noted] at hd
    cases hd
  · rename_i hn
    rw [pushDepths_effects] at hd
    exact ⟨hn, le_depth_of_carryOutAll hd⟩
  · cases hd

end Loop

/-! ## What lines take -/

namespace Builtins

variable {b : Builtins} {line : String} {lines : List String} {rest : List (List String)}
  {k : Nat} {pushed : List Source}

/-- **toil** — how many turns a line takes, if the scripts that it asks for nest at most so deep. -/
def toil (b : Builtins) : Nat → String → Nat
  | 0, _ => 3
  | k + 1, line =>
    match b.script? line with
    | none => 3
    | some source => 3 + ((source.stream.lines.map (toil b k)).sum + 3)

/-- **toilOf** — how many turns an agenda takes, if its scripts nest at most so deep. -/
def toilOf (b : Builtins) (k : Nat) : List (List String) → Nat
  | [] => 0
  | lines :: rest => (lines.map (b.toil (k - rest.length))).sum + 3 + toilOf b k rest

/-- **Within** — the lists of an agenda ask for scripts that nest at most so deep, where every list
below another one counts as a level. -/
def Within (b : Builtins) (k : Nat) : List (List String) → Prop
  | [] => True
  | lines :: rest => rest.length ≤ k ∧ b.Nests (k - rest.length) lines ∧ Within b k rest

theorem Within.length_le {agenda : List (List String)} (h : b.Within k agenda) :
    agenda.length ≤ 1 + k := by
  cases agenda with
  | nil => exact Nat.zero_le _
  | cons lines rest =>
      have hle := h.1
      rw [List.length_cons]
      omega

theorem three_le_toil (b : Builtins) (k : Nat) (line : String) : 3 ≤ b.toil k line := by
  cases k with
  | zero => exact Nat.le_refl 3
  | succ k =>
      rw [toil]
      split
      · exact Nat.le_refl 3
      · exact Nat.le_add_right 3 _

/-- Where no line is left, the end of the source still takes some turns. -/
theorem toilOf_ended (b : Builtins) (k : Nat) (rest : List (List String)) :
    b.toilOf k ([] :: rest) = b.toilOf k rest + 3 := by
  rw [toilOf, List.map_nil, List.sum_nil]
  omega

/-- A source that is left unread takes no more than before. -/
theorem within_unread (h : b.Within k (lines :: rest)) :
    b.Within k ([] :: rest) ∧ b.toilOf k ([] :: rest) ≤ b.toilOf k (lines :: rest) := by
  refine ⟨⟨h.1, nests_nil b _, h.2.2⟩, ?_⟩
  rw [toilOf_ended, toilOf]
  omega

/-- A line that is carried out makes room for the script that it pushes. -/
theorem within_carried
    (hp : pushed = [] ∨ ∃ source, b.script? line = some source ∧ pushed = [source])
    (h : b.Within k ((line :: lines) :: rest)) :
    ∃ top others, pushed.reverse.map (·.stream.lines) ++ lines :: rest = top :: others ∧
      b.Within k (top :: others) ∧
      b.toilOf k (top :: others) + 3 ≤ b.toilOf k ((line :: lines) :: rest) := by
  obtain ⟨hlen, hnests, hrest⟩ := h
  have hlines : b.Nests (k - rest.length) lines :=
    nests_of_subset hnests fun _ => List.mem_cons_of_mem line
  rcases hp with rfl | ⟨source, hscript, rfl⟩
  · have hthree := b.three_le_toil (k - rest.length) line
    refine ⟨lines, rest, rfl, ⟨hlen, hlines, hrest⟩, ?_⟩
    rw [toilOf, toilOf, List.map_cons, List.sum_cons]
    omega
  · -- The line asks for a script, so there is a level left for it.
    have hasks : b.Asks (line :: lines) source := asks_cons.mpr (.inl hscript)
    cases hlevel : k - rest.length with
    | zero =>
        rw [hlevel] at hnests
        exact absurd hasks (hnests source)
    | succ m =>
        have hm : k - (lines :: rest).length = m := by
          rw [List.length_cons]
          omega
        rw [hlevel] at hnests
        have hsource : b.Nests m source.stream.lines := hnests source hasks
        refine ⟨source.stream.lines, lines :: rest, rfl,
          ⟨?_, hm ▸ hsource, hlen, hlines, hrest⟩, ?_⟩
        · rw [List.length_cons]
          omega
        · rw [toilOf, toilOf, toilOf, hm, hlevel, List.map_cons, List.sum_cons, toil, hscript]
          simp only
          omega

end Builtins

namespace Loop

variable {r : LineReader} {terminals : List String} {b : Builtins} {l : Loop Console}
  {first : Source} {k : Nat}

/-- **Every advance keeps an agenda within its levels and takes something of it.** -/
theorem Advances.within {c : Course} {line : String} {pushed : List Source} {move move' : Move}
    {agenda agenda' : List (List String)} (h : Advances c line pushed move agenda move' agenda')
    (hp : pushed = [] ∨ ∃ source, b.script? line = some source ∧ pushed = [source])
    (hw : b.Within k agenda) :
    b.Within k agenda' ∧ b.toilOf k agenda' + move'.pace < b.toilOf k agenda + move.pace := by
  -- A line and the end of a source are worth one more than the longest way to the next of them.
  cases h with
  | begins => exact ⟨hw, by simp [Move.pace]⟩
  | skips =>
      obtain ⟨hw', hle⟩ := Builtins.within_unread hw
      refine ⟨hw', ?_⟩
      simp only [Move.pace]
      omega
  | reads => exact ⟨hw, by simp [Move.pace]⟩
  | ends => exact ⟨hw, by simp [Move.pace]⟩
  | carries =>
      obtain ⟨top, others, heq, hw', hle⟩ := Builtins.within_carried hp hw
      rw [heq]
      refine ⟨hw', ?_⟩
      simp only [Move.pace]
      omega
  | closes =>
      obtain ⟨top, others, heq, hw', hle⟩ := Builtins.within_carried hp hw
      obtain ⟨hw'', hle'⟩ := Builtins.within_unread hw'
      rw [heq, List.tail_cons]
      refine ⟨hw'', ?_⟩
      simp only [Move.pace]
      omega
  | leaves =>
      refine ⟨hw.2.2, ?_⟩
      rw [Builtins.toilOf_ended]
      simp only [Move.pace]
      omega
  | drops =>
      obtain ⟨hw', hle⟩ := Builtins.within_unread hw.2.2
      refine ⟨hw', ?_⟩
      rw [Builtins.toilOf_ended b k (_ :: _)]
      simp only [Move.pace]
      omega
  | finishes => exact ⟨trivial, by simp [Move.pace, Builtins.toilOf]⟩

/-! ## Confined loops -/

/-- **Confined** — a sound loop whose scripts nest only so deep. -/
structure Confined (r : LineReader) (b : Builtins) (first : Source) (k : Nat)
    (l : Loop Console) : Prop where
  sound : l.Sound first []
  scripted : l.Scripted r
  within : b.Within k l.agenda

/-- What a run still takes at most. -/
def toil (b : Builtins) (k : Nat) (l : Loop Console) : Nat := b.toilOf k l.agenda + l.next.pace

namespace Confined

theorem depth_le (hl : l.Confined r b first k) : l.stack.depth ≤ 1 + k := by
  rw [← l.agenda_length]
  exact hl.within.length_le

/-- A request to cancel changes nothing of this. -/
theorem askCancel (n : Nat) (hl : l.Confined r b first k) :
    (l.askCancel n).1.Confined r b first k ∧ (l.askCancel n).1.toil b k = l.toil b k := by
  have hsound := hl.sound.askCancel n
  rw [askCancel_loop] at hsound ⊢
  exact ⟨⟨hsound, hl.scripted, hl.within⟩, rfl⟩

/-- Every turn that goes on keeps a loop confined, and takes something of what is left. -/
theorem step (hl : l.Confined r b first k)
    (he : (l.step (r.host terminals b.execute)).exit = none) :
    (l.step (r.host terminals b.execute)).loop.Confined r b first k ∧
      (l.step (r.host terminals b.execute)).loop.toil b k < l.toil b k := by
  have hp := b.pushes_execute l.env l.line l.stack.depth
  rw [← reaction_host r terminals] at hp
  obtain ⟨hwithin, hlt⟩ := (advances_step hl.sound hl.scripted he).within hp hl.within
  have hsound := hl.sound.step (r.host_consumes terminals b.execute) he
  exact ⟨⟨hsound, hl.scripted.step he, hwithin⟩, hlt⟩

/-- **A confined loop comes to an outcome.** -/
theorem ends (terminals : List String) (hl : l.Confined r b first k) (asks : Nat → Nat) :
    ∃ n o, (followAsked (r.host terminals b.execute) asks n l).exit = some (.outcome o) := by
  -- A request to cancel adds nothing to what is left, so the induction is on that.
  induction ht : l.toil b k using Nat.strong_induction_on generalizing l asks with
  | _ t ih =>
      obtain ⟨hasked, htoil⟩ := hl.askCancel (asks 0)
      cases he : ((l.askCancel (asks 0)).1.step (r.host terminals b.execute)).exit with
      | some e =>
          obtain ⟨o, rfl⟩ := outcome_of_exit hasked.scripted he
          exact ⟨1, o, by simp [followAsked, he]⟩
      | none =>
          obtain ⟨hlater, hlt⟩ := hasked.step he
          rw [htoil, ht] at hlt
          obtain ⟨n, o, hn⟩ := ih _ hlt hlater (fun i => asks (i + 1)) rfl
          exact ⟨n + 1, o, by simpa [followAsked, he] using hn⟩

/-- **The stack of a confined loop is never deeper than its levels and one more.** -/
theorem shallow {past : List Event} (hl : l.Confined r b first k) (asks : Nat → Nat) (n : Nat)
    (hpast : ∀ d ∈ pushDepths past, d ≤ 1 + k) :
    (followAsked (r.host terminals b.execute) asks n l).loop.stack.depth ≤ 1 + k ∧
      ∀ d ∈ pushDepths (past ++ (followAsked (r.host terminals b.execute) asks n l).events),
        d ≤ 1 + k := by
  -- No push so far has made the stack deeper than a confined one.
  have hrun := @followAsked_induction _ (r.host terminals b.execute) _
    (fun _ past l => l.Confined r b first k ∧ ∀ d ∈ pushDepths past, d ≤ 1 + k)
    (fun _ past l _ => l.stack.depth ≤ 1 + k ∧ ∀ d ∈ pushDepths past, d ≤ 1 + k)
    ?ask ?goOn ?leave [] past ⟨hl, hpast⟩ asks n
  case ask =>
    rintro _ past l n ⟨hl, hpast⟩
    refine ⟨(hl.askCancel n).1, ?_⟩
    rw [← pushDepths_effects, effects_append, effects_askCancel, List.append_nil,
      pushDepths_effects]
    exact hpast
  case goOn =>
    rintro _ past l ⟨hl, hpast⟩ he
    have hlater := (hl.step he).1
    refine ⟨hlater, fun d hd => ?_⟩
    rw [pushDepths_append] at hd
    rcases List.mem_append.mp hd with hd | hd
    · exact hpast d hd
    · obtain ⟨hn, hle⟩ := le_depth_of_step hd
      rw [← (step_of_dispatch r terminals b hn).2] at hle
      exact hle.trans hlater.depth_le
  case leave =>
    rintro _ past l e ⟨hl, hpast⟩ he
    rw [stack_of_exit he]
    refine ⟨Nat.zero_le _, fun d hd => ?_⟩
    rw [pushDepths_append] at hd
    rcases List.mem_append.mp hd with hd | hd
    · exact hpast d hd
    · obtain ⟨hn, -⟩ := le_depth_of_step hd
      rw [(step_of_dispatch r terminals b hn).1] at he
      cases he
  split at hrun
  · exact ⟨hrun.1.depth_le, hrun.2⟩
  · exact hrun

end Confined

end Loop

/-! ## Runs without endless chains -/

namespace Session

open Loop

variable {r : LineReader} {terminals : List String} {b : Builtins} {s : Session Console}
  {lines : List String} {k : Nat}

/-- A new run is confined if the scripts that its first source asks for nest only so deep. -/
theorem confined_enter (terminals : List String) (hr : r.kind = .plain) (c : Bool)
    (hopen : s.state ≠ .closing) (hs : s.stack = .empty)
    (hlines : r.Yields s.env (s.firstSource (r.host terminals b.execute)) lines)
    (hk : b.Nests k lines) :
    (s.enter (r.host terminals b.execute) c).1.Confined r b
      (s.root (r.host terminals b.execute)) k := by
  have hsound := enter_sound (r.host terminals b.execute) c hopen
  have hsources := enter_sources (r.host terminals b.execute) c s
  rw [hs, Stack.sources_empty] at hsound hsources
  refine ⟨hsound, ?_, ?_⟩
  · intro source hsource
    rw [hsources] at hsource
    obtain rfl := List.mem_singleton.mp hsource
    exact ⟨.inl hr, fun hp => by cases hp⟩
  · rw [(LineReader.yields_iff (.inl hr)).mp hlines] at hk
    rw [agenda_of_begin rfl, hsources]
    exact ⟨Nat.zero_le k, hk, trivial⟩

/-- **Scripts without endless chains come to an end, on a bounded stack.** Lines are read from the
streams of their sources, and those of the first source are the given ones. If no chain of scripts
that begins with one that these lines ask for is endless, there is a longest one. Whenever the run
is asked to stop, it ends with an outcome, and at no time is its stack deeper than the longest chain
and the first source together. -/
theorem runAsked_ends (b : Builtins) (hr : r.kind = .plain) (terminals : List String)
    (asks : Nat → Nat) (c : Bool) (hs : s.stack = .empty)
    (hlines : r.Yields s.env (s.firstSource (r.host terminals b.execute)) lines)
    (hchains : ¬∃ chain : ℕ → Source, b.Asks lines (chain 0) ∧
      ∀ i, b.Asks (chain i).stream.lines (chain (i + 1))) :
    ∃ k, IsGreatest {n | ∃ chain, b.Chain lines chain ∧ chain.length = n} k ∧
      (∃ n o, (s.runAsked (r.host terminals b.execute) asks n c).exit = some (.outcome o)) ∧
      ∀ n, (s.runAsked (r.host terminals b.execute) asks n c).session.stack.depth ≤ 1 + k ∧
        ∀ d ∈ pushDepths (s.runAsked (r.host terminals b.execute) asks n c).events, d ≤ 1 + k := by
  obtain ⟨k, hk⟩ := Builtins.exists_isGreatest_chain (Builtins.exists_nests hchains)
  have hnests := Builtins.nests_of_isGreatest hk
  refine ⟨k, hk, ?_⟩
  by_cases hopen : s.state = .closing
  · simp [runAsked_of_closing _ asks _ c hopen, hs, Event.pushDepth?, Stack.empty]
  · have hconfined := confined_enter terminals hr c hopen hs hlines hnests
    constructor
    · obtain ⟨n, o, hn⟩ := hconfined.ends terminals asks
      exact ⟨n, o, by rw [runAsked_of_open _ asks n c hopen]; exact hn⟩
    · intro n
      rw [runAsked_of_open _ asks n c hopen]
      refine hconfined.shallow asks n ?_
      have hdepth : s.stack.depth = 0 := by rw [hs]; rfl
      rw [← pushDepths_effects]
      simp [enter, Stack.push, Event.isEffect, Event.pushDepth?, hdepth]

/-- The file `outer` asks for `inner`, whose only line fails. -/
def nestedScripts : Builtins where
  files := Snapshot.system { contents :=
    [(.ofString "outer", .ok (.file (encode "echo outer\nsource inner\n"))),
      (.ofString "inner", .ok (.file (encode "fail\n")))] }
  table := .empty

/-- A person types a line that asks for `outer`, and another one. -/
def typedInclude : Session Console :=
  { number := 0, env := {}, primary := some (.ofText "tty" true "source outer\necho done\n") }

theorem typedInclude_ends :
    nestedScripts.Nests 2 ["source outer", "echo done"] ∧
      (∃ n o, (typedInclude.runAsked (LineReader.host {} [] nestedScripts.execute) (fun _ => 0) n
        false).exit = some (.outcome o)) ∧
      ∀ n, (typedInclude.runAsked (LineReader.host {} [] nestedScripts.execute) (fun _ => 0) n
        false).session.stack.depth ≤ 3 := by
  have hnests : nestedScripts.Nests 2 ["source outer", "echo done"] := by decide +kernel
  obtain ⟨k, hk, hends, hdepth⟩ := runAsked_ends (r := {}) (s := typedInclude) nestedScripts rfl []
    (fun _ => 0) false rfl
    ((LineReader.yields_iff (.inl rfl)).mpr
      (by decide +kernel : ["source outer", "echo done"] = _))
    (Builtins.not_endless_of_nests hnests)
  obtain ⟨chain, hchain, rfl⟩ := hk.1
  have hlen := Builtins.nests_iff.mp hnests chain hchain
  exact ⟨hnests, hends, fun n => (hdepth n).1.trans (Nat.add_le_add_left hlen 1)⟩

end Session

end CommandShell
