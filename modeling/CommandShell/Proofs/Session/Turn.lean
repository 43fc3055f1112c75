import CommandShell.Session.Basic

/-!
# What one turn of the loop can do

`Way h l t` lists every way in which a turn of the loop `l` can go: what has to hold for it, and the
turn `t` that it gives. The list is complete (`way_step`) and exact (`Way.step_eq`), so whatever is
said of all runs is proved once for each way.

A turn either signals what happened and goes on (`goOn`) or leaves the loop (`leave`); the lemmas of
the first section read off what these two do. The second section does the same for what a
collaborator may do in between: `inspected` is the loop after the reader was asked who types the
lines, `received` the loop after a read, `carried` the loop after a dispatch.

Each part of a turn has events of a few kinds only. That a part has none of a kind is said once for
whatever kind (`Lacks`), and every question about the events of a run makes use of it.
-/

namespace CommandShell

open CommandShell.Log

/-! ## The requests of a dispatcher -/

/-- The source that a request puts on the stack, as it stands there. -/
def Request.pushed? : Request → Option Source
  | .push source => some { source with primordial := false }
  | _ => none

/-- **pushes** — the sources that requests put on the stack, the first one first. -/
def pushes (rs : List Request) : List Source := rs.filterMap Request.pushed?

@[simp] theorem pushes_nil : pushes [] = [] := rfl

@[simp] theorem pushes_push (s : Source) (rs : List Request) :
    pushes (.push s :: rs) = { s with primordial := false } :: pushes rs := rfl

@[simp] theorem pushes_close (rs : List Request) : pushes (.close :: rs) = pushes rs := rfl

@[simp] theorem pushes_cancel (rs : List Request) : pushes (.cancel :: rs) = pushes rs := rfl

@[simp] theorem pushes_note (n : Note) (rs : List Request) :
    pushes (.note n :: rs) = pushes rs := rfl

theorem primordial_of_mem_pushes {rs : List Request} {s : Source} (hs : s ∈ pushes rs) :
    s.primordial = false := by
  obtain ⟨r, _, hr⟩ := List.mem_filterMap.mp hs
  cases r with
  | push source =>
      cases hr
      rfl
  | close => cases hr
  | cancel => cases hr
  | note n => cases hr

namespace Stack

@[simp] theorem sources_empty : Stack.empty.sources = [] := rfl

theorem current?_eq_some_iff {s : Stack} {top : Source} :
    s.current? = some top ↔ ∃ rest, s.sources = top :: rest := by
  unfold current?
  cases s.sources with
  | nil => simp
  | cons a as => simp [eq_comm]

theorem current?_eq_none_iff {s : Stack} : s.current? = none ↔ s.sources = [] := by
  unfold current?
  cases s.sources <;> simp

theorem isEmpty_iff {s : Stack} : s.isEmpty = true ↔ s = .empty := by
  rw [isEmpty, List.isEmpty_iff]
  exact ⟨fun h => Stack.ext h, fun h => by rw [h]; rfl⟩

/-- What leaving the top source leaves on the stack, and whether that is anything. -/
theorem pop_of_cons {s : Stack} {top : Source} {rest : List Source} (hs : s.sources = top :: rest) :
    s.pop.1.sources = (if top.primordial then [] else rest) ∧
      s.pop.2.1 = (!top.primordial && !rest.isEmpty) := by
  have hc : s.current? = some top := current?_eq_some_iff.mpr ⟨rest, hs⟩
  cases hp : top.primordial with
  | false => simp [pop, hc, hp, hs, isEmpty]
  | true => simp [pop, hc, hp]

theorem pop_of_nil {s : Stack} (hs : s.sources = []) :
    s.pop.1.sources = [] ∧ s.pop.2.1 = false := by
  rw [pop, current?, hs]
  exact ⟨hs, rfl⟩

/-- **pushAll** — the stack with sources put on top, the last one topmost. -/
def pushAll (s : Stack) (sources : List Source) : Stack :=
  ⟨sources.reverse ++ s.sources, sources.length + s.depth, by simp [s.depth_eq]⟩

@[simp] theorem sources_pushAll (s : Stack) (sources : List Source) :
    (s.pushAll sources).sources = sources.reverse ++ s.sources := rfl

end Stack

/-- What stands in the place of a source that was only consumed. -/
theorem Host.Consumes.source_eq {ε : Type} {h : Host ε} (hc : h.Consumes) (env : ε) (s : Source) :
    (h.read env s).source = { s with stream := (h.read env s).stream } := by
  obtain ⟨stream, hs⟩ := hc env s
  rw [Reading.stream, hs]

namespace Loop

variable {ε : Type}

/-! ## Going on and leaving -/

@[simp] theorem goOn_exit (l : Loop ε) (es : List Event) (e : Signal) : (l.goOn es e).exit = none :=
  rfl

@[simp] theorem goOn_loop (l : Loop ε) (es : List Event) (e : Signal) :
    (l.goOn es e).loop =
      { l with state := (l.state.respond e).1, next := (l.state.respond e).2 } := rfl

@[simp] theorem goOn_events (l : Loop ε) (es : List Event) (e : Signal) :
    (l.goOn es e).events = es ++ transition l.state (l.state.respond e).1 := rfl

@[simp] theorem leave_exit (l : Loop ε) (es : List Event) (e : Exit) :
    (l.leave es e).exit = some e := rfl

@[simp] theorem leave_loop (l : Loop ε) (es : List Event) (e : Exit) :
    (l.leave es e).loop = { l with stack := .empty } := by
  by_cases h : l.stack.isEmpty
  · have hs : l.stack = .empty := Stack.isEmpty_iff.mp h
    simp only [leave, release, h, if_true, ← hs]
  · simp only [leave, release, h, if_false, Stack.clear, Bool.false_eq_true]

@[simp] theorem leave_events (l : Loop ε) (es : List Event) (e : Exit) :
    (l.leave es e).events = es ++ l.release.2 := rfl

/-- What is left is released top first, after a record if there is anything. -/
theorem release_events (l : Loop ε) :
    l.release.2 =
      if l.stack.isEmpty then []
      else .logged (.releasingRest l.session l.stack.depth)
        :: Stack.releaseAll l.stack.sources := by
  by_cases h : l.stack.isEmpty <;> simp [release, h, Stack.clear]

/-! ## What collaborators do -/

/-- **inspected** — the loop after the reader was asked who types the lines of the source. -/
def inspected (h : Host ε) (l : Loop ε) (source : Source) : Loop ε :=
  { l with env := (h.interactive l.env source).env }

/-- **received** — the loop after the reader was called for the source, and the events of the
call. -/
def received (h : Host ε) (l : Loop ε) (source : Source) : Loop ε × List Event :=
  let reading := h.read l.env source
  let (l, asked) := { l with
    stack := l.stack.mapCurrent fun _ => reading.source
    env := reading.env }.askCancel reading.cancels
  (l, reading.notes.map Event.noted ++ asked)

/-- **reaction** — the answer of the dispatcher to the line read last. -/
def reaction (h : Host ε) (l : Loop ε) : Reaction ε := h.execute l.env l.line l.stack.depth

/-- **carried** — the loop after all that the dispatcher asked for was done, and the events of
that. -/
def carried (h : Host ε) (l : Loop ε) : Loop ε × List Event :=
  { l with env := (l.reaction h).env }.carryOutAll (l.reaction h).requests

theorem askCancel_loop (l : Loop ε) (times : Nat) :
    (l.askCancel times).1 =
      { l with cancelled := l.cancelled || (l.cancellable && decide (0 < times)) } := by
  obtain ⟨_, _, _, _, _, _, _, cancellable, _⟩ := l
  cases cancellable <;> simp [askCancel]

/-- A loop that takes no requests to cancel does not see them. -/
theorem askCancel_deaf {l : Loop ε} {n : Nat} (hd : l.cancellable = false) :
    l.askCancel n = (l, []) := by
  simp [askCancel, hd]

/-- A read changes the current source, the host, and whether a request to cancel was taken. -/
theorem received_loop (h : Host ε) (l : Loop ε) (source : Source) :
    (l.received h source).1 =
      { l with
        stack := l.stack.mapCurrent fun _ => (h.read l.env source).source
        env := (h.read l.env source).env
        cancelled :=
          l.cancelled || (l.cancellable && decide (0 < (h.read l.env source).cancels)) } := by
  simp [received, askCancel_loop]

/-- Requests put sources on the stack, close the session or ask to cancel; nothing else changes. -/
theorem carryOutAll_loop (l : Loop ε) (rs : List Request) :
    (l.carryOutAll rs).1 =
      { l with
        stack := l.stack.pushAll (pushes rs)
        state := if .close ∈ rs then .closing else l.state
        cancelled := l.cancelled || (l.cancellable && decide (.cancel ∈ rs)) } := by
  induction rs generalizing l with
  | nil =>
      have hs : l.stack.pushAll [] = l.stack := Stack.ext (by simp)
      simp [carryOutAll, hs]
  | cons r rs ih =>
      cases r with
      | push source =>
          have hs : (l.stack.push source false).1.pushAll (pushes rs) =
              l.stack.pushAll (pushes (.push source :: rs)) := Stack.ext (by simp)
          simpa [carryOutAll, carryOut, ih] using hs
      | close => simp [carryOutAll, carryOut, ih, State.close]
      | cancel =>
          cases hd : l.cancelled <;> cases hc : l.cancellable <;>
            simp [carryOutAll, carryOut, ih, askCancel_loop, hd, hc]
      | note n => simp [carryOutAll, carryOut, ih]

/-- The stack after a read. -/
theorem received_sources {l : Loop ε} (h : Host ε) {s : Source} {rest : List Source}
    (hs : l.stack.sources = s :: rest) :
    (l.received h s).1.stack.sources = (h.read l.env s).source :: rest := by
  rw [received_loop, Stack.sources_mapCurrent, hs, List.modifyHead_cons]

theorem carried_loop (h : Host ε) (l : Loop ε) :
    (l.carried h).1 =
      { l with
        env := (l.reaction h).env
        stack := l.stack.pushAll (pushes (l.reaction h).requests)
        state := if .close ∈ (l.reaction h).requests then .closing else l.state
        cancelled :=
          l.cancelled || (l.cancellable && decide (.cancel ∈ (l.reaction h).requests)) } := by
  simp [carried, carryOutAll_loop]

/-! ## Leaving a source -/

/-- Leaving a source of a nested script: the one below it goes on. -/
theorem unwind_nested {l : Loop ε} {s : Source} {rest : List Source}
    (hs : l.stack.sources = s :: rest) (hp : s.primordial = false) (hr : rest ≠ []) :
    l.unwind = goOn { l with stack := l.stack.below }
      [.logged (.sourcePopped s.name s.linesRead rest.length), .released s] (.sourceLeft true) := by
  have hd : l.stack.below.depth = rest.length := by
    rw [l.stack.below.depth_eq, Stack.sources_below, hs, List.tail_cons]
  have hb : l.stack.below.isEmpty = false := by
    simp [Stack.isEmpty, hs, hr]
  have hc : l.stack.current? = some s := Stack.current?_eq_some_iff.mpr ⟨rest, hs⟩
  simp [unwind, Stack.pop, hc, hp, hd, hb]

/-- Leaving the first source of a run: whatever is below it goes with it. -/
theorem unwind_primordial {l : Loop ε} {s : Source} {rest : List Source}
    (hs : l.stack.sources = s :: rest) (hp : s.primordial = true) :
    l.unwind = goOn { l with stack := .empty }
      ([.logged (.sourcePopped s.name s.linesRead rest.length), .released s]
        ++ Stack.releaseAll rest) (.sourceLeft false) := by
  have hd : l.stack.below.depth = rest.length := by
    rw [l.stack.below.depth_eq, Stack.sources_below, hs, List.tail_cons]
  have hc : l.stack.current? = some s := Stack.current?_eq_some_iff.mpr ⟨rest, hs⟩
  simp [unwind, Stack.pop, hc, hp, hd, hs]

/-- The loop after a line with a verdict. -/
def judged (l : Loop ε) : Verdict → Loop ε
  | .fatal => { l with fatal := true }
  | .ok | .scriptError => l

@[simp] theorem judged_stack (l : Loop ε) (v : Verdict) : (l.judged v).stack = l.stack := by
  cases v <;> rfl

@[simp] theorem judged_state (l : Loop ε) (v : Verdict) : (l.judged v).state = l.state := by
  cases v <;> rfl

@[simp] theorem judged_env (l : Loop ε) (v : Verdict) : (l.judged v).env = l.env := by
  cases v <;> rfl

@[simp] theorem judged_cancellable (l : Loop ε) (v : Verdict) :
    (l.judged v).cancellable = l.cancellable := by
  cases v <;> rfl

@[simp] theorem judged_cancelled (l : Loop ε) (v : Verdict) :
    (l.judged v).cancelled = l.cancelled := by
  cases v <;> rfl

@[simp] theorem judged_fatal (l : Loop ε) (v : Verdict) :
    (l.judged v).fatal = true ↔ l.fatal = true ∨ v = .fatal := by
  cases v <;> simp [judged]

end Loop

/-- What a verdict signals. -/
def Verdict.signal : Verdict → Signal
  | .ok => .lineDone
  | .scriptError => .lineFailed
  | .fatal => .closeAsked

/-- The records of a verdict, on the loop as the line left it. -/
def Verdict.records {ε : Type} (l : Loop ε) : Verdict → List Event
  | .ok => []
  | .scriptError => Loop.scriptErrorRecord l.stack
  | .fatal => [.logged (.fatalLine l.session)]

namespace Loop

variable {ε : Type}

/-! ## Which events there can be -/

theorem eq_of_mem_transition {a b : State} {e : Event} (he : e ∈ transition a b) :
    e = .logged (.stateChanged a b) := by
  unfold transition at he
  split at he
  · cases he
  · exact List.mem_singleton.mp he

theorem eq_of_mem_askCancel {l : Loop ε} {n : Nat} {e : Event} (he : e ∈ (l.askCancel n).2) :
    e = .cancelAsked := by
  unfold askCancel at he
  split at he
  · exact (List.mem_replicate.mp he).2
  · cases he

/-- A read gives notes and requests to cancel. -/
theorem mem_received {h : Host ε} {l : Loop ε} {s : Source} {e : Event}
    (he : e ∈ (l.received h s).2) : (∃ n, e = .noted n) ∨ e = .cancelAsked := by
  rcases List.mem_append.mp he with he | he
  · obtain ⟨n, _, rfl⟩ := List.mem_map.mp he
    exact .inl ⟨n, rfl⟩
  · exact .inr (eq_of_mem_askCancel he)

/-- A dispatch gives pushes and a change of state besides. -/
theorem mem_carryOutAll {l : Loop ε} {rs : List Request} {e : Event}
    (he : e ∈ (l.carryOutAll rs).2) :
    ((∃ n, e = .noted n) ∨ e = .cancelAsked) ∨
      (∃ name i d, e = .logged (.sourcePushed name false i d)) ∨
        ∃ a b, e = .logged (.stateChanged a b) := by
  induction rs generalizing l with
  | nil => cases he
  | cons r rs ih =>
      rcases List.mem_append.mp he with he | he
      · cases r with
        | push source => exact .inr (.inl ⟨_, _, _, List.mem_singleton.mp he⟩)
        | close => exact .inr (.inr ⟨_, _, eq_of_mem_transition he⟩)
        | cancel => exact .inl (.inr (eq_of_mem_askCancel he))
        | note n => exact .inl (.inl ⟨n, List.mem_singleton.mp he⟩)
      · exact ih he

/-- A verdict gives at most a record of its own. -/
theorem mem_records {l : Loop ε} {v : Verdict} {e : Event} (he : e ∈ v.records l) :
    (∃ name n, e = .logged (.scriptError name n)) ∨ e = .logged (.fatalLine l.session) := by
  cases v with
  | ok => cases he
  | scriptError =>
      simp only [Verdict.records, scriptErrorRecord] at he
      split at he
      · cases he
      · exact .inl ⟨_, _, List.mem_singleton.mp he⟩
  | fatal => exact .inr (List.mem_singleton.mp he)

theorem mem_releaseAll {ss : List Source} {e : Event} (he : e ∈ Stack.releaseAll ss) :
    ∃ s ∈ ss, e = .logged (.sourceReleased s.name) ∨ e = .released s := by
  obtain ⟨s, hs, he⟩ := List.mem_flatMap.mp he
  exact ⟨s, hs, by simpa using he⟩

/-- Leaving the loop gives releases and their records. -/
theorem mem_release {l : Loop ε} {e : Event} (he : e ∈ l.release.2) :
    (∃ n d, e = .logged (.releasingRest n d)) ∨
      ∃ s, e = .logged (.sourceReleased s.name) ∨ e = .released s := by
  rw [release_events] at he
  split at he
  · cases he
  · rcases List.mem_cons.mp he with rfl | he
    · exact .inl ⟨_, _, rfl⟩
    · obtain ⟨s, _, hs⟩ := mem_releaseAll he
      exact .inr ⟨s, hs⟩

/-- **Lacks** — none of the events is of the kind. -/
def Lacks (k : Event → Bool) (es : List Event) : Prop := ∀ e ∈ es, k e = false

section Lacks

variable {k : Event → Bool} {es : List Event}

theorem Lacks.filter_eq_nil (hes : Lacks k es) : es.filter k = [] := by
  rw [List.filter_eq_nil_iff]
  intro e he
  simp [hes e he]

theorem Lacks.filterMap_eq_nil {α : Type} {p : Event → Option α}
    (hes : Lacks (fun e => (p e).isSome) es) : es.filterMap p = [] := by
  rw [List.filterMap_eq_nil_iff]
  intro e he
  exact Option.not_isSome_iff_eq_none.mp (by simp [hes e he])

theorem lacks_transition (hk : ∀ a b, k (.logged (.stateChanged a b)) = false) (a b : State) :
    Lacks k (transition a b) := by
  intro e he
  rw [eq_of_mem_transition he, hk]

theorem lacks_askCancel (hk : k .cancelAsked = false) (l : Loop ε) (n : Nat) :
    Lacks k (l.askCancel n).2 := by
  intro e he
  rw [eq_of_mem_askCancel he, hk]

theorem lacks_received (hn : ∀ n, k (.noted n) = false) (hc : k .cancelAsked = false) (h : Host ε)
    (l : Loop ε) (s : Source) : Lacks k (l.received h s).2 := by
  intro e he
  obtain ⟨n, rfl⟩ | rfl := mem_received he
  · exact hn n
  · exact hc

theorem lacks_carried (hn : ∀ n, k (.noted n) = false) (hc : k .cancelAsked = false)
    (hp : ∀ name i d, k (.logged (.sourcePushed name false i d)) = false)
    (ht : ∀ a b, k (.logged (.stateChanged a b)) = false) (h : Host ε) (l : Loop ε) :
    Lacks k (l.carried h).2 := by
  intro e he
  obtain (⟨n, rfl⟩ | rfl) | ⟨name, i, d, rfl⟩ | ⟨a, b, rfl⟩ := mem_carryOutAll he
  · exact hn n
  · exact hc
  · exact hp name i d
  · exact ht a b

theorem lacks_records (he : ∀ name n, k (.logged (.scriptError name n)) = false)
    (hf : ∀ n, k (.logged (.fatalLine n)) = false) (l : Loop ε) (v : Verdict) :
    Lacks k (v.records l) := by
  intro e hmem
  obtain ⟨name, n, rfl⟩ | rfl := mem_records hmem
  · exact he name n
  · exact hf l.session

theorem lacks_releaseAll (hr : ∀ name, k (.logged (.sourceReleased name)) = false)
    (hs : ∀ s, k (.released s) = false) (ss : List Source) : Lacks k (Stack.releaseAll ss) := by
  intro e he
  obtain ⟨s, -, rfl | rfl⟩ := mem_releaseAll he
  · exact hr s.name
  · exact hs s

theorem lacks_release (hd : ∀ n d, k (.logged (.releasingRest n d)) = false)
    (hr : ∀ name, k (.logged (.sourceReleased name)) = false) (hs : ∀ s, k (.released s) = false)
    (l : Loop ε) : Lacks k l.release.2 := by
  intro e he
  obtain ⟨n, d, rfl⟩ | ⟨s, rfl | rfl⟩ := mem_release he
  · exact hd n d
  · exact hr s.name
  · exact hs s

theorem lacks_pop (hp : ∀ name n d, k (.logged (.sourcePopped name n d)) = false)
    (hr : ∀ name, k (.logged (.sourceReleased name)) = false) (hs : ∀ s, k (.released s) = false)
    (st : Stack) : Lacks k st.pop.2.2 := by
  intro e he
  unfold Stack.pop at he
  split at he
  · cases he
  · rename_i top _
    have hleft : ∀ e ∈ [Event.logged (.sourcePopped top.name top.linesRead st.below.depth),
        .released top], k e = false := by
      simp [hp, hs]
    split at he
    · rcases List.mem_append.mp he with he | he
      · exact hleft e he
      · exact lacks_releaseAll hr hs _ e he
    · exact hleft e he

end Lacks

/-! ## The ways of a turn -/

/-- **Way** — the ways in which a turn can go. -/
inductive Way (h : Host ε) (l : Loop ε) : Turn ε → Prop
  /-- A request to cancel is honoured. -/
  | honours : l.next = .begin → l.cancelled = true →
      Way h l (l.leave [.logged (.cancellationHonoured l.session)] (.outcome .cancelled))
  /-- There is no source to begin with. -/
  | lacksSource : l.next = .begin → l.cancelled = false → l.stack.sources = [] → Way h l l.finish
  /-- The reader panics when it is asked who types the lines. -/
  | askPanics {s rest p} : l.next = .begin → l.cancelled = false → l.stack.sources = s :: rest →
      (h.interactive l.env s).result = .error p →
      Way h l ((l.inspected h s).leave [] (.panicked p))
  /-- An iteration begins. -/
  | begins {s rest b} : l.next = .begin → l.cancelled = false → l.stack.sources = s :: rest →
      (h.interactive l.env s).result = .ok b →
      Way h l ((l.inspected h s).goOn [.started s.name b] (.iteration b))
  /-- There is no source to read. -/
  | lacksInput : l.next = .read → l.stack.sources = [] → Way h l l.finish
  /-- The reader panics. -/
  | readPanics {s rest p} : l.next = .read → l.stack.sources = s :: rest →
      (h.read l.env s).result = .error p →
      Way h l ((l.received h s).1.leave (l.received h s).2 (.panicked p))
  /-- A line is read. -/
  | reads {s rest text} : l.next = .read → l.stack.sources = s :: rest →
      (h.read l.env s).result = .ok (.line text) →
      Way h l (goOn { (l.received h s).1 with
          stack := (l.received h s).1.stack.mapCurrent Source.countLine, line := text }
        ((l.received h s).2 ++ [.lineRead s.name s.linesRead (some text)]) .gotLine)
  /-- The source is at its end. -/
  | ends {s rest} : l.next = .read → l.stack.sources = s :: rest →
      (h.read l.env s).result = .ok .endOfInput →
      Way h l ((l.received h s).1.goOn
        ((l.received h s).2 ++ [.lineRead s.name s.linesRead none]) .noLine)
  /-- The source cannot be read. -/
  | fails {s rest reason} : l.next = .read → l.stack.sources = s :: rest →
      (h.read l.env s).result = .ok (.failed reason) →
      Way h l ((l.received h s).1.goOn
        ((l.received h s).2 ++ [.readFailed s.name s.linesRead reason.message,
          .logged (.readFailed (h.read l.env s).source.name reason.message)]) .noLine)
  /-- The dispatcher panics. -/
  | dispatchPanics {p} : l.next = .dispatch → (l.reaction h).result = .error p →
      Way h l ((l.carried h).1.leave (l.carried h).2 (.panicked p))
  /-- A line is carried out. -/
  | dispatches {v} : l.next = .dispatch → (l.reaction h).result = .ok v →
      Way h l (((l.carried h).1.judged v).goOn
        ((l.carried h).2 ++ .dispatched l.line v (l.carried h).1.stack.depth
          :: v.records (l.carried h).1) v.signal)
  /-- The current source is left. -/
  | leaves : l.next = .unwind → Way h l l.unwind
  /-- The run is over. -/
  | stops : l.next = .stop → Way h l l.finish

variable {h : Host ε} {l : Loop ε} {t : Turn ε}

/-- The list of ways is exact: each gives the turn that the loop takes. -/
theorem Way.step_eq (w : Way h l t) : l.step h = t := by
  cases w with
  | honours hn hc => simp [step, hn, begin, hc]
  | lacksSource hn hc hs => simp [step, hn, begin, hc, Stack.current?_eq_none_iff.mpr hs]
  | askPanics hn hc hs hi => simp [step, hn, begin, hc, Stack.current?, hs, hi, inspected]
  | begins hn hc hs hi => simp [step, hn, begin, hc, Stack.current?, hs, hi, inspected]
  | lacksInput hn hs => simp [step, hn, readLine, Stack.current?_eq_none_iff.mpr hs]
  | readPanics hn hs hr => simp [step, hn, readLine, Stack.current?, hs, hr, received]
  | reads hn hs hr => simp [step, hn, readLine, Stack.current?, hs, hr, received]
  | ends hn hs hr => simp [step, hn, readLine, Stack.current?, hs, hr, received]
  | fails hn hs hr => simp [step, hn, readLine, Stack.current?, hs, hr, received]
  | dispatchPanics hn hr =>
      unfold reaction at hr
      simp [step, hn, dispatch, hr, carried, reaction]
  | @dispatches v hn hr =>
      unfold reaction at hr
      cases v <;> simp [step, hn, dispatch, hr, carried, reaction, judged, Verdict.signal,
        Verdict.records, goOn]
  | leaves hn => simp [step, hn]
  | stops hn => simp [step, hn]

/-- The list of ways is complete: every turn goes one of them. -/
theorem way_step (h : Host ε) (l : Loop ε) : Way h l (l.step h) := by
  -- The list is exact, so a way to some turn is a way to the one that is taken.
  suffices ∃ t, Way h l t by
    obtain ⟨t, w⟩ := this
    rw [w.step_eq]
    exact w
  cases hn : l.next with
  | begin =>
      cases hc : l.cancelled with
      | true => exact ⟨_, .honours hn hc⟩
      | false =>
          cases hs : l.stack.sources with
          | nil => exact ⟨_, .lacksSource hn hc hs⟩
          | cons s rest =>
              cases hi : (h.interactive l.env s).result with
              | error p => exact ⟨_, .askPanics hn hc hs hi⟩
              | ok b => exact ⟨_, .begins hn hc hs hi⟩
  | read =>
      cases hs : l.stack.sources with
      | nil => exact ⟨_, .lacksInput hn hs⟩
      | cons s rest =>
          cases hr : (h.read l.env s).result with
          | error p => exact ⟨_, .readPanics hn hs hr⟩
          | ok found =>
              cases found with
              | line text => exact ⟨_, .reads hn hs hr⟩
              | endOfInput => exact ⟨_, .ends hn hs hr⟩
              | failed reason => exact ⟨_, .fails hn hs hr⟩
  | dispatch =>
      cases hr : (l.reaction h).result with
      | error p => exact ⟨_, .dispatchPanics hn hr⟩
      | ok v => exact ⟨_, .dispatches hn hr⟩
  | unwind => exact ⟨_, .leaves hn⟩
  | stop => exact ⟨_, .stops hn⟩

/-- Whether requests to cancel are taken never changes. -/
theorem step_cancellable (h : Host ε) (l : Loop ε) :
    (l.step h).loop.cancellable = l.cancellable := by
  have w := way_step h l
  generalize l.step h = t at w
  cases w <;> simp [finish, unwind, inspected, received_loop, carried_loop]

/-- A loop that takes no requests to cancel is never cancelled. -/
theorem step_cancelled (hc : l.cancellable = false) : (l.step h).loop.cancelled = l.cancelled := by
  have w := way_step h l
  generalize l.step h = t at w
  cases w <;> simp [finish, unwind, inspected, received_loop, carried_loop, hc]

end Loop

end CommandShell
