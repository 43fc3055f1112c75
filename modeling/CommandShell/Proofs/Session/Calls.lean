import CommandShell.Proofs.Session.Sound

/-!
# Collaborators are called only in a sound state

What a collaborator sees of a session when it is called depends on the turn in which the loop calls
it. A host that keeps a record of its calls (`Host.recording`) tells which calls a turn makes
(`Loop.calls`): one read of the top source, or one line carried out, or none.

`runAsked_calls`: whenever a collaborator is called, the session is ready, there is a source, and
what is read from is the top one; a loop always has a source to begin with and to read from, and a
line is carried out right after it was read. If the reader leaves the sources in their places, the
stack stands on its only primordial source, and nothing is below that one when it is left. A reader
that puts another source there can take the first one away (`taking_calls`).

All of it follows from what holds before every turn (`Loop.Steady`, `Loop.Sound`); only the line
read last has to be remembered from one turn to the next (`Loop.Heard`).
-/

namespace CommandShell

/-! ## Calls -/

/-- **Call** — a call of a collaborator. -/
inductive Call
  /-- The reader is asked for a line of the source, and finds something. -/
  | read (source : Source) (found : Except Panic LineResult)
  /-- The dispatcher is given a line and the depth of the stack. -/
  | execute (line : String) (depth : Nat)

/-- **Echoes** — every line that is carried out is the one that was read right before. -/
def Echoes (calls : List Call) : Prop :=
  ∀ i line depth, calls[i]? = some (.execute line depth) →
    ∃ j source, i = j + 1 ∧ calls[j]? = some (.read source (.ok (.line line)))

/-- A call more: if a line is carried out, the call before it has read the line. -/
theorem Echoes.snoc {calls : List Call} {call : Call} (he : Echoes calls)
    (hcall : ∀ line depth, call = .execute line depth →
      ∃ source, calls.getLast? = some (.read source (.ok (.line line)))) :
    Echoes (calls ++ [call]) := by
  intro i line depth hi
  have hlt : i < (calls ++ [call]).length := (List.getElem?_eq_some_iff.mp hi).1
  rw [List.length_append, List.length_singleton] at hlt
  rcases Nat.lt_succ_iff_lt_or_eq.mp hlt with hlt | rfl
  · -- The line was carried out earlier.
    rw [List.getElem?_append_left hlt] at hi
    obtain ⟨j, source, rfl, hj⟩ := he i line depth hi
    exact ⟨j, source, rfl, by rw [List.getElem?_append_left (by omega), hj]⟩
  · rw [List.getElem?_concat_length, Option.some.injEq] at hi
    obtain ⟨source, hlast⟩ := hcall line depth hi
    rw [List.getLast?_eq_getElem?] at hlast
    have hpos := (List.getElem?_eq_some_iff.mp hlast).1
    exact ⟨calls.length - 1, source, by omega, by rw [List.getElem?_append_left hpos, hlast]⟩

variable {ε : Type}

/-- **recording** — the host, which keeps a record of the calls that it gets. -/
def Host.recording (h : Host ε) : Host (ε × List Call) where
  standardInput := h.standardInput
  interactive env source :=
    let inspection := h.interactive env.1 source
    { inspection with env := (inspection.env, env.2) }
  read env source :=
    let reading := h.read env.1 source
    { reading with env := (reading.env, env.2 ++ [.read source reading.result]) }
  execute env line depth :=
    let reaction := h.execute env.1 line depth
    { reaction with env := (reaction.env, env.2 ++ [.execute line depth]) }

namespace Stack

/-- **Founded** — the stack has a lowest source, which is its only primordial one. -/
def Founded (s : Stack) : Prop :=
  ∃ nested root, s.sources = nested ++ [root] ∧ root.primordial = true ∧
    ∀ source ∈ nested, source.primordial = false

end Stack

/-- The sources of a run that began on an empty stack are founded on the first one. -/
theorem Rooted.founded {first : Source} {s : Stack} (hr : Rooted first [] s.sources)
    (hf : first.primordial = true) : s.Founded := by
  obtain ⟨nested, root, hsources, hroot, hnested⟩ := hr
  exact ⟨nested, root, hsources, hroot.primordial_eq.trans hf, hnested⟩

namespace Loop

variable {h : Host ε} {l : Loop ε} {first : Source}

/-! ## The calls of a turn -/

/-- The loop with nothing on the record of its host. -/
def unrecorded (l : Loop ε) : Loop (ε × List Call) := { l with env := (l.env, []) }

/-- **calls** — the calls that the next turn makes, as its host records them. -/
def calls (h : Host ε) (l : Loop ε) : List Call := (l.unrecorded.step h.recording).loop.env.2

/-- Where a line is to be read, the reader is asked for one of the top source. -/
theorem calls_of_read {s : Source} {rest : List Source} (hn : l.next = .read)
    (hs : l.stack.sources = s :: rest) :
    l.calls h = [.read s (h.read l.env s).result] := by
  have hnext : l.unrecorded.next = .read := hn
  have hsources : l.unrecorded.stack.sources = s :: rest := hs
  rw [calls]
  have w := way_step h.recording l.unrecorded
  generalize l.unrecorded.step h.recording = turn at w
  cases w <;> simp_all [received_loop, Host.recording, unrecorded]

/-- Where a line is to be dispatched, the dispatcher is given that line. -/
theorem calls_of_dispatch (hn : l.next = .dispatch) :
    l.calls h = [.execute l.line l.stack.depth] := by
  have hnext : l.unrecorded.next = .dispatch := hn
  rw [calls]
  have w := way_step h.recording l.unrecorded
  generalize l.unrecorded.step h.recording = turn at w
  cases w <;> simp_all [carried_loop, reaction, Host.recording, unrecorded]

/-- No other turn calls the reader for a line, or the dispatcher. -/
theorem calls_of_other (hread : l.next ≠ .read) (hdispatch : l.next ≠ .dispatch) :
    l.calls h = [] := by
  have hread' : l.unrecorded.next ≠ .read := hread
  have hdispatch' : l.unrecorded.next ≠ .dispatch := hdispatch
  rw [calls]
  have w := way_step h.recording l.unrecorded
  generalize l.unrecorded.step h.recording = turn at w
  cases w <;> simp_all [finish, unwind, inspected, Host.recording, unrecorded]

/-- A steady loop calls a collaborator only when it is ready, and reads from its top source. -/
theorem Steady.of_mem_calls {call : Call} (hl : l.Steady) (hmem : call ∈ l.calls h) :
    l.state = .ready ∧ l.stack.current? ≠ none ∧
      ∀ source found, call = .read source found → l.stack.current? = some source := by
  by_cases hread : l.next = .read
  · obtain ⟨s, rest, hs⟩ := hl.exists_top (by simp [hread])
    have hcurrent : l.stack.current? = some s := Stack.current?_eq_some_iff.mpr ⟨rest, hs⟩
    rw [calls_of_read hread hs, List.mem_singleton] at hmem
    subst hmem
    refine ⟨hl.lines (.inl hread), by simp [hcurrent], ?_⟩
    intro source found hcall
    obtain ⟨rfl, -⟩ := Call.read.inj hcall
    exact hcurrent
  · by_cases hdispatch : l.next = .dispatch
    · obtain ⟨s, rest, hs⟩ := hl.exists_top (by simp [hdispatch])
      have hcurrent : l.stack.current? = some s := Stack.current?_eq_some_iff.mpr ⟨rest, hs⟩
      rw [calls_of_dispatch hdispatch, List.mem_singleton] at hmem
      subst hmem
      exact ⟨hl.lines (.inr hdispatch), by simp [hcurrent], by simp⟩
    · rw [calls_of_other hread hdispatch] at hmem
      cases hmem

/-- A steady loop has a source to begin with and to read from. -/
theorem Steady.current?_ne_none (hl : l.Steady) (hn : l.next = .begin ∨ l.next = .read) :
    l.stack.current? ≠ none := by
  have hs := hl.occupied (by rcases hn with hn | hn <;> simp [hn])
  exact fun hnone => hs (Stack.current?_eq_none_iff.mp hnone)

/-- A loop that calls a collaborator is not over. -/
theorem next_of_mem_calls {call : Call} (hmem : call ∈ l.calls h) : l.next ≠ .stop := by
  intro hn
  rw [calls_of_other (by simp [hn]) (by simp [hn])] at hmem
  cases hmem

/-- Where a sound loop leaves its first source, no source is left with it. -/
theorem Sound.below_eq (hl : l.Sound first []) (hn : l.next = .unwind) {top : Source}
    (htop : l.stack.current? = some top) (hp : top.primordial = true) :
    l.stack.below = .empty := by
  have hr := hl.rooted (by simp [hn])
  obtain ⟨rest, hs⟩ := Stack.current?_eq_some_iff.mp htop
  rw [hs] at hr
  exact Stack.ext (by rw [Stack.sources_below, hs, List.tail_cons, (hr.rest_eq hp).1]; rfl)

/-! ## The line read last -/

/-- **Heard** — if a line is to be carried out, the last of the calls so far has read it. -/
def Heard (calls : List Call) (l : Loop ε) : Prop :=
  l.next = .dispatch → ∃ source, calls.getLast? = some (.read source (.ok (.line l.line)))

/-- Only after a line was read is one carried out. -/
theorem respond_dispatch {st : State} {e : Signal} (h : (st.respond e).2 = .dispatch) :
    e = .gotLine := by
  cases st <;> rcases e with (_ | _) | _ | _ | _ | _ | _ | (_ | _) <;> simp_all [State.respond]

/-- What was read is remembered until it is carried out. -/
theorem Heard.step {past : List Call} (he : (l.step h).exit = none) :
    (l.step h).loop.Heard (past ++ l.calls h) := by
  intro hnext
  have w := way_step h l
  generalize l.step h = turn at he hnext w ⊢
  cases w with
  | honours => cases he
  | lacksSource => cases he
  | askPanics => cases he
  | begins => cases respond_dispatch hnext
  | lacksInput => cases he
  | readPanics => cases he
  | @reads s rest text hn hs hr =>
      rw [calls_of_read hn hs, hr]
      exact ⟨s, by simp⟩
  | ends => cases respond_dispatch hnext
  | fails => cases respond_dispatch hnext
  | dispatchPanics => cases he
  | @dispatches v =>
      have hsignal : v.signal = .gotLine := respond_dispatch hnext
      cases v <;> cases hsignal
  | leaves => cases respond_dispatch hnext
  | stops => cases he

/-- The calls of a turn come after those before it. -/
theorem Heard.echoes {past : List Call} (hl : l.Steady) (hh : l.Heard past)
    (he : Echoes past) : Echoes (past ++ l.calls h) := by
  by_cases hread : l.next = .read
  · obtain ⟨s, rest, hs⟩ := hl.exists_top (by simp [hread])
    rw [calls_of_read hread hs]
    exact he.snoc (by simp)
  · by_cases hdispatch : l.next = .dispatch
    · rw [calls_of_dispatch hdispatch]
      refine he.snoc ?_
      intro line depth hcall
      obtain ⟨rfl, -⟩ := Call.execute.inj hcall
      exact hh hdispatch
    · rw [calls_of_other hread hdispatch, List.append_nil]
      exact he

end Loop

/-! ## The calls of a run -/

namespace Session

open Loop

/-- **moments** — the loops in which the turns of a run are taken. A closing session takes none. -/
def moments (h : Host ε) (asks : Nat → Nat) (n : Nat) (c : Bool) (s : Session ε) :
    List (Loop ε) :=
  if s.state = .closing then [] else Loop.visits h asks n (s.enter h c).1

/-- **calls** — the calls of a run, in order. -/
def calls (h : Host ε) (asks : Nat → Nat) (n : Nat) (c : Bool) (s : Session ε) : List Call :=
  (s.moments h asks n c).flatMap (Loop.calls h)

/-- Every turn of a run is taken in a steady loop, and lines are carried out right after they were
read. -/
theorem steady_of_mem_moments (h : Host ε) (asks : Nat → Nat) (n : Nat) (c : Bool)
    (s : Session ε) :
    (∀ l ∈ s.moments h asks n c, l.Steady) ∧ Echoes (s.calls h asks n c) := by
  rw [calls, moments]
  split
  · exact ⟨by simp, fun i line depth hi => by simp at hi⟩
  · rename_i hopen
    -- What the turns seen so far have called is carried along, as the next turn may look back at
    -- it.
    have hrun := @followAsked_induction _ h _
      (fun seen _ l => (∀ l' ∈ seen, l'.Steady) ∧ l.Steady ∧
        Echoes (seen.flatMap (Loop.calls h)) ∧ l.Heard (seen.flatMap (Loop.calls h)))
      (fun seen _ _ _ => (∀ l' ∈ seen, l'.Steady) ∧ Echoes (seen.flatMap (Loop.calls h)))
      ?ask ?goOn ?leave [] [] ⟨by simp, enter_steady h c hopen,
        fun i line depth hi => by simp at hi, fun hn => by simp [enter] at hn⟩ asks n
    case ask =>
      rintro seen _ l k ⟨hseen, hl, hechoes, hheard⟩
      refine ⟨hseen, hl.askCancel k, hechoes, ?_⟩
      rw [askCancel_loop]
      exact hheard
    case goOn =>
      rintro seen _ l ⟨hseen, hl, hechoes, hheard⟩ hexit
      rw [List.flatMap_append, List.flatMap_singleton]
      refine ⟨?_, hl.step hexit, hheard.echoes hl hechoes, Heard.step hexit⟩
      simpa [or_imp, forall_and] using ⟨hseen, hl⟩
    case leave =>
      rintro seen _ l e ⟨hseen, hl, hechoes, hheard⟩ hexit
      rw [List.flatMap_append, List.flatMap_singleton]
      refine ⟨?_, hheard.echoes hl hechoes⟩
      simpa [or_imp, forall_and] using ⟨hseen, hl⟩
    rw [List.nil_append] at hrun
    split at hrun
    · exact ⟨hrun.1, hrun.2.2.1⟩
    · exact hrun

/-- Every turn of a run that began on an empty stack is taken in a sound loop, if the reader leaves
the sources in their places. -/
theorem sound_of_mem_moments {h : Host ε} (hc : h.Consumes) (asks : Nat → Nat) (n : Nat) (c : Bool)
    {s : Session ε} (hs : s.stack = .empty) :
    ∀ l ∈ s.moments h asks n c, l.Sound (s.root h) [] := by
  rw [moments]
  split
  · simp
  · rename_i hopen
    have hsound := enter_sound h c hopen
    rw [hs] at hsound
    have hrun := @followAsked_induction _ h _
      (fun seen _ l => (∀ l' ∈ seen, l'.Sound (s.root h) []) ∧ l.Sound (s.root h) [])
      (fun seen _ _ _ => ∀ l' ∈ seen, l'.Sound (s.root h) [])
      (fun _ _ _ k ⟨hseen, hl⟩ => ⟨hseen, hl.askCancel k⟩)
      (fun _ _ _ ⟨hseen, hl⟩ hexit =>
        ⟨by simpa [or_imp, forall_and] using ⟨hseen, hl⟩, hl.step hc hexit⟩)
      (fun _ _ _ _ ⟨hseen, hl⟩ _ => by simpa [or_imp, forall_and] using ⟨hseen, hl⟩)
      [] [] ⟨by simp, hsound⟩ asks n
    rw [List.nil_append] at hrun
    split at hrun
    · exact hrun.1
    · exact hrun

/-- **Collaborators are called only in a sound state.** Whatever panics and whenever a run is asked
to stop: at every call the session is ready, there is a source, and what is read from is the top
one. There is a source wherever an iteration begins or a line is to be read, and every line that is
carried out is the one that was read right before. If the reader leaves the sources in their places,
then at every call the stack has a lowest source, which is its only primordial one, and none is
below a first source that is left. -/
theorem runAsked_calls (h : Host ε) (asks : Nat → Nat) (n : Nat) (c : Bool) (s : Session ε)
    (hs : s.stack = .empty) :
    (∀ l ∈ s.moments h asks n c,
      (∀ call ∈ l.calls h, l.state = .ready ∧ l.stack.current? ≠ none ∧
        ∀ source found, call = .read source found → l.stack.current? = some source) ∧
      (l.next = .begin ∨ l.next = .read → l.stack.current? ≠ none)) ∧
    Echoes (s.calls h asks n c) ∧
    (h.Consumes → ∀ l ∈ s.moments h asks n c,
      (∀ call ∈ l.calls h, l.stack.Founded) ∧
      (l.next = .unwind → ∀ top, l.stack.current? = some top → top.primordial = true →
        l.stack.below = .empty)) := by
  obtain ⟨hsteady, hechoes⟩ := steady_of_mem_moments h asks n c s
  refine ⟨fun l hl => ⟨?_, ?_⟩, hechoes, fun hc l hl => ?_⟩
  · exact fun call hcall => (hsteady l hl).of_mem_calls hcall
  · exact (hsteady l hl).current?_ne_none
  · have hsound := sound_of_mem_moments hc asks n c hs l hl
    refine ⟨fun call hcall => ?_, fun hn top htop hp => hsound.below_eq hn htop hp⟩
    exact (hsound.rooted (next_of_mem_calls hcall)).founded hsound.primordial

/-- A person types `a`, which reads the script `x`, whose line fails, and then `b`. -/
def interruptedScript : Session Console :=
  { number := 0, env := {}, state := .scriptError, primary := some (.ofText "tty" true "a\nb\n") }

/-- What the lines of `interruptedScript` do. -/
def interruptedScriptHost : Host Console :=
  Playbook.host [
    ("a", { deeds := [.push (.ofText "x" false "c\nd\n")] }), ("c", { verdict := .scriptError })]

theorem interruptedScript_calls :
    interruptedScript.stack = .empty ∧
      ((interruptedScript.calls interruptedScriptHost (fun _ => 0) 30 false).map fun
        | .read source _ => (source.name, source.linesRead)
        | .execute line depth => (line, depth)) =
        [("tty", 0), ("a", 1), ("x", 0), ("c", 2), ("tty", 1), ("b", 1), ("tty", 2)] ∧
      (∀ l ∈ interruptedScript.moments interruptedScriptHost (fun _ => 0) 30 false,
        ∀ call ∈ l.calls interruptedScriptHost, l.state = .ready ∧ l.stack.Founded) ∧
      Echoes (interruptedScript.calls interruptedScriptHost (fun _ => 0) 30 false) := by
  obtain ⟨hcalls, hechoes, hconsumes⟩ :=
    runAsked_calls interruptedScriptHost (fun _ => 0) 30 false interruptedScript rfl
  refine ⟨rfl, by decide, fun l hl call hcall => ⟨?_, ?_⟩, hechoes⟩
  · exact ((hcalls l hl).1 call hcall).1
  · exact (hconsumes (Playbook.host_consumes _) l hl).1 call hcall

/-- The reader puts a source of its own in the place of the first one, and there the line is carried
out. -/
theorem taking_calls :
    (create 0 [] : Session (List Source)).stack = .empty ∧
      ∃ l ∈ (create 0 []).moments Host.taking (fun _ => 0) 3 false,
        ∃ call ∈ l.calls Host.taking, ¬l.stack.Founded := by
  refine ⟨rfl, _, List.mem_of_getElem? (i := 2) rfl, .execute "a" 1,
    List.mem_of_getElem? (i := 0) rfl, ?_⟩
  rintro ⟨nested, root, hsources, hroot, -⟩
  have hlast := congrArg List.getLast? hsources
  rw [List.getLast?_append] at hlast
  obtain rfl := Option.some.inj hlast
  cases hroot

end Session

end CommandShell
