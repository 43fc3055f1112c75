import CommandShell.Proofs.Session.Acts
import CommandShell.Proofs.Session.Lockstep
import Mathlib.Data.Nat.Find

/-!
# Cancellation only truncates, and only between iterations

`runAsked_cancels` compares a worker that is asked to stop at any moments, from outside or by its
own collaborators, with the same session run on the thread of the caller. What the worker does is a
prefix of what the other run does. After a request it reads at most one more line and dispatches at
most one more. If the other run begins an iteration after a request, the worker honours it there; if
not, the two runs are the same.

The prefix and the last two statements come from running in step (`shadows_followAsked`). The bound
after a request holds because only a new iteration leads to a new read: `Move.readsLeft` and
`Move.dispatchesLeft` say what can still come before one.
-/

namespace CommandShell

open CommandShell.Log

/-! ## Doings -/

/-- Whether an event is a read, a dispatched line, a push, or output of a collaborator. -/
def Event.isDoing : Event → Bool
  | .lineRead .. | .readFailed .. | .dispatched .. | .noted _ | .logged (.sourcePushed ..) => true
  | _ => false

/-- **doings** — the reads, dispatched lines, pushes and outputs among events, in order. -/
def doings (es : List Event) : List Event := es.filter Event.isDoing

theorem doings_append (es es' : List Event) : doings (es ++ es') = doings es ++ doings es' :=
  List.filter_append ..

/-- No doing is a request to cancel. -/
theorem doings_plain (es : List Event) : doings (plain es) = doings es := by
  rw [doings, plain, List.filter_filter]
  refine List.filter_congr fun e _ => ?_
  cases e <;> simp [Event.isDoing]

/-- Neither a request to cancel nor its honouring nor the release of what is left is a doing. -/
theorem doings_honouring {ε : Type} (l : Loop ε) (n : Nat) :
    doings (List.replicate n .cancelAsked ++
      .logged (.cancellationHonoured l.session) :: l.release.2) = [] := by
  rw [doings, List.filter_eq_nil_iff]
  intro e he
  rcases List.mem_append.mp he with he | he
  · rw [List.eq_of_mem_replicate he]
    simp [Event.isDoing]
  · rcases List.mem_cons.mp he with rfl | he
    · simp [Event.isDoing]
    · obtain ⟨_, _, rfl⟩ | ⟨_, rfl | rfl⟩ := Loop.mem_release he <;> simp [Event.isDoing]

/-! ## Reads and dispatches -/

/-- Whether an event is a read. -/
def Event.isRead : Event → Bool
  | .lineRead .. | .readFailed .. => true
  | _ => false

/-- How many reads there are among events. -/
def reads (es : List Event) : Nat := es.countP Event.isRead

/-- How many lines are dispatched among events. -/
def dispatches (es : List Event) : Nat := es.countP Event.isDispatch

@[simp] theorem reads_append (es es' : List Event) : reads (es ++ es') = reads es + reads es' :=
  List.countP_append

@[simp] theorem dispatches_append (es es' : List Event) :
    dispatches (es ++ es') = dispatches es + dispatches es' :=
  List.countP_append

/-- Reads are acts. -/
theorem reads_acts (es : List Event) : reads (acts es) = reads es := by
  rw [reads, acts, List.countP_filter]
  refine List.countP_congr fun e _ => ?_
  cases e <;> simp [Event.isRead, Event.isAct]

/-- Dispatched lines are acts. -/
theorem dispatches_acts (es : List Event) : dispatches (acts es) = dispatches es := by
  rw [dispatches, acts, List.countP_filter]
  refine List.countP_congr fun e _ => ?_
  cases e <;> simp [Event.isDispatch, Event.isAct]

namespace Move

/-- How many reads a move leads to before an iteration begins. -/
def readsLeft : Move → Nat
  | .read => 1
  | _ => 0

/-- How many lines a move leads to being dispatched before an iteration begins. -/
def dispatchesLeft : Move → Nat
  | .read | .dispatch => 1
  | _ => 0

@[simp] theorem readsLeft_read : read.readsLeft = 1 := rfl

@[simp] theorem dispatchesLeft_read : read.dispatchesLeft = 1 := rfl

@[simp] theorem dispatchesLeft_dispatch : dispatch.dispatchesLeft = 1 := rfl

theorem readsLeft_le (m : Move) : m.readsLeft ≤ 1 := by
  cases m <;> decide

theorem dispatchesLeft_le (m : Move) : m.dispatchesLeft ≤ 1 := by
  cases m <;> decide

end Move

/-- After anything but the beginning of an iteration and a line there is no line to be read or
dispatched. -/
theorem State.respond_work (st : State) {e : Signal} (hi : ∀ b, e ≠ .iteration b)
    (hg : e ≠ .gotLine) :
    (st.respond e).2.readsLeft = 0 ∧ (st.respond e).2.dispatchesLeft = 0 := by
  cases st <;> rcases e with (_ | _) | _ | _ | _ | _ | _ | (_ | _) <;>
    simp_all [respond, Move.readsLeft, Move.dispatchesLeft]

/-- A line is dispatched at most, and no other is read. -/
theorem State.respond_gotLine (st : State) :
    (st.respond .gotLine).2.readsLeft = 0 ∧ (st.respond .gotLine).2.dispatchesLeft ≤ 1 := by
  cases st <;> simp [respond, Move.readsLeft, Move.dispatchesLeft]

namespace Loop

variable {ε : Type} {h : Host ε} {l : Loop ε}

/-- A turn that begins no iteration does what its move leads to, and leaves no more than that. -/
theorem step_work (hb : l.next = .begin → l.cancelled = true) :
    reads (l.step h).events + (l.step h).loop.next.readsLeft ≤ l.next.readsLeft ∧
      dispatches (l.step h).events + (l.step h).loop.next.dispatchesLeft
        ≤ l.next.dispatchesLeft := by
  rw [← reads_acts, ← dispatches_acts]
  have w := way_step h l
  generalize l.step h = turn at w
  cases w with
  | honours => simp [Event.isAct, reads, dispatches]
  | lacksSource => simp [finish, Event.isAct, reads, dispatches]
  | askPanics => simp [inspected, reads, dispatches]
  | begins hn hc =>
      rw [hb hn] at hc
      cases hc
  | lacksInput => simp [finish, Event.isAct, reads, dispatches]
  | readPanics => simp [received_loop, reads, dispatches]
  | reads hn =>
      obtain ⟨hr, hd⟩ := State.respond_gotLine l.state
      simp [received_loop, Event.isAct, reads, dispatches, Event.isRead, Event.isDispatch, hn, hr,
        hd]
  | ends hn =>
      obtain ⟨hr, hd⟩ := State.respond_work l.state (e := .noLine) (by simp) (by simp)
      simp [received_loop, Event.isAct, reads, dispatches, Event.isRead, Event.isDispatch, hn, hr,
        hd]
  | fails hn =>
      obtain ⟨hr, hd⟩ := State.respond_work l.state (e := .noLine) (by simp) (by simp)
      simp [received_loop, Event.isAct, reads, dispatches, Event.isRead, Event.isDispatch, hn, hr,
        hd]
  | dispatchPanics => simp [carried_loop, reads, dispatches]
  | @dispatches v hn =>
      obtain ⟨hr, hd⟩ := State.respond_work (l.carried h).1.state (e := v.signal)
        (by cases v <;> simp [Verdict.signal]) (by cases v <;> simp [Verdict.signal])
      simp [Event.isAct, reads, dispatches, Event.isRead, Event.isDispatch, hn, hr, hd]
  | leaves =>
      obtain ⟨hr, hd⟩ := State.respond_work l.state (e := .sourceLeft l.stack.pop.2.1)
        (by simp) (by simp)
      simp [reads, dispatches, unwind, Event.isRead, Event.isDispatch, hr, hd, Function.comp_def]
  | stops hn => simp [finish, Event.isAct, reads, dispatches]

/-! ## After a request -/

theorem askCancel_cancelled (l : Loop ε) (n : Nat) :
    (l.askCancel n).1.cancelled = (l.cancelled || asked (l.askCancel n).2) := by
  cases hc : l.cancellable
  · simp [askCancel, hc]
  · simp [askCancel, hc, asked_replicate]

theorem received_cancelled (h : Host ε) (l : Loop ε) (s : Source) :
    (l.received h s).1.cancelled = (l.cancelled || asked (l.received h s).2) := by
  have hcall := askCancel_cancelled { l with
    stack := l.stack.mapCurrent fun _ => (h.read l.env s).source
    env := (h.read l.env s).env } (h.read l.env s).cancels
  rw [received, asked_append, asked_notes, Bool.false_or]
  exact hcall

theorem carryOutAll_cancelled (l : Loop ε) (rs : List Request) :
    (l.carryOutAll rs).1.cancelled = (l.cancelled || asked (l.carryOutAll rs).2) := by
  induction rs generalizing l with
  | nil => simp [carryOutAll]
  | cons r rs ih =>
      have hone : (l.carryOut r).1.cancelled = (l.cancelled || asked (l.carryOut r).2) := by
        cases r with
        | push source => exact (Bool.or_false _).symm
        | close => rw [carryOut, asked_transition, Bool.or_false]
        | cancel => exact askCancel_cancelled l 1
        | note n => exact (Bool.or_false _).symm
      simp [carryOutAll, ih, hone, Bool.or_assoc]

theorem carried_cancelled (h : Host ε) (l : Loop ε) :
    (l.carried h).1.cancelled = (l.cancelled || asked (l.carried h).2) :=
  carryOutAll_cancelled { l with env := (l.reaction h).env } _

/-- A worker was asked to stop exactly if a request is among its events. -/
theorem step_cancelled_eq (h : Host ε) (l : Loop ε) :
    (l.step h).loop.cancelled = (l.cancelled || asked (l.step h).events) := by
  have w := way_step h l
  generalize l.step h = turn at w
  cases w <;>
    simp [finish, unwind, inspected, asked_transition, asked_release, asked_records, asked_pop,
      received_cancelled, carried_cancelled, asked_cons_of_ne]

/-- The beginning of an iteration asks for nothing. -/
theorem asked_begin (h : Host ε) (l : Loop ε) : asked (l.begin h).events = false := by
  rw [begin]
  split
  · simp [asked_release, asked_cons_of_ne]
  · split
    · simp [finish, asked_release, asked_cons_of_ne]
    · dsimp only
      split
      · simp [asked_release]
      · simp [asked_transition, asked_cons_of_ne]

/-- A list that holds an entry and goes on holds it in one of its parts. -/
theorem append_eq_append_cons {α : Type} {past es before after : List α} {x : α}
    (h : past ++ es = before ++ x :: after) :
    (∃ after', past = before ++ x :: after' ∧ after = after' ++ es) ∨
      ∃ before', es = before' ++ x :: after := by
  rcases List.append_eq_append_iff.mp h with ⟨before', _, hes⟩ | ⟨tail, hpast, hcons⟩
  · exact .inr ⟨before', hes⟩
  · cases tail with
    | nil => exact .inr ⟨[], hcons.symm⟩
    | cons y tail =>
        obtain ⟨rfl, rfl⟩ := List.cons.inj hcons
        exact .inl ⟨tail, hpast, rfl⟩

/-- **Bounded** — after a request, at most one read and one dispatch were made or are left. -/
def Bounded (past : List Event) (l : Loop ε) : Prop :=
  ∀ before after, past = before ++ .cancelAsked :: after → l.cancelled = true ∧
    reads after + l.next.readsLeft ≤ 1 ∧ dispatches after + l.next.dispatchesLeft ≤ 1

/-- Events that do no more than what was left keep the bound. -/
theorem Bounded.append {past es : List Event} {l' : Loop ε} (hp : l.Bounded past)
    (hc : l'.cancelled = (l.cancelled || asked es))
    (hwork : l.cancelled = true ∨ asked es = true →
      reads es + l'.next.readsLeft ≤ l.next.readsLeft ∧
        dispatches es + l'.next.dispatchesLeft ≤ l.next.dispatchesLeft) :
    l'.Bounded (past ++ es) := by
  intro before after heq
  rcases append_eq_append_cons heq with ⟨after', hpast, rfl⟩ | ⟨before', hes⟩
  · -- The request is an earlier one.
    obtain ⟨hcancelled, hr, hd⟩ := hp before after' hpast
    obtain ⟨hr', hd'⟩ := hwork (.inl hcancelled)
    refine ⟨by rw [hc, hcancelled, Bool.true_or], ?_, ?_⟩
    · rw [reads_append]
      omega
    · rw [dispatches_append]
      omega
  · -- The request is new, and what follows it is a part of the new events.
    have hasked : asked es = true := asked_iff.mpr (by rw [hes]; simp)
    obtain ⟨hr', hd'⟩ := hwork (.inr hasked)
    have hreads := l.next.readsLeft_le
    have hdispatches := l.next.dispatchesLeft_le
    have hsplit : es = (before' ++ [.cancelAsked]) ++ after := by simp [hes]
    rw [hsplit, reads_append] at hr'
    rw [hsplit, dispatches_append] at hd'
    exact ⟨by rw [hc, hasked, Bool.or_true], by omega, by omega⟩

theorem Bounded.askCancel {past : List Event} (n : Nat) (hp : l.Bounded past) :
    (l.askCancel n).1.Bounded (past ++ (l.askCancel n).2) := by
  have hnone : reads (l.askCancel n).2 = 0 ∧ dispatches (l.askCancel n).2 = 0 := by
    unfold Loop.askCancel
    split <;> simp [reads, dispatches, List.countP_replicate, Event.isRead, Event.isDispatch]
  refine hp.append (askCancel_cancelled l n) fun _ => ?_
  rw [hnone.1, hnone.2, askCancel_loop]
  simp

theorem Bounded.step {past : List Event} (hp : l.Bounded past) :
    (l.step h).loop.Bounded (past ++ (l.step h).events) := by
  refine hp.append (step_cancelled_eq h l) fun hc => step_work fun hn => ?_
  have hstep : l.step h = l.begin h := by rw [Loop.step, hn]
  rw [hstep, asked_begin] at hc
  simpa using hc

/-- **After a request a run makes at most one read and at most one dispatch.** -/
theorem bounded_followAsked {past : List Event} (hp : l.Bounded past) (asks : Nat → Nat) (n : Nat) :
    (followAsked h asks n l).loop.Bounded (past ++ (followAsked h asks n l).events) := by
  have hrun := followAsked_induction (h := h) (fun _ past l => l.Bounded past)
    (fun _ past l _ => l.Bounded past) (fun _ _ _ n hp => hp.askCancel n)
    (fun _ _ _ hp _ => hp.step) (fun _ _ _ _ hp _ => hp.step) [] hp asks n
  cases he : (followAsked h asks n l).exit with
  | none =>
      rw [he] at hrun
      exact hrun
  | some e =>
      rw [he] at hrun
      exact hrun

/-- More turns do no less. -/
theorem doings_follow_prefix {j n : Nat} (hjn : j ≤ n) :
    doings (follow h j l).events <+: doings (follow h n l).events := by
  obtain ⟨k, rfl⟩ := Nat.exists_eq_add_of_le hjn
  cases he : (follow h j l).exit with
  | some e =>
      rewrite [follow_over k he]
      exact List.prefix_rfl
  | none =>
      rw [follow_add k he, doings_append]
      exact List.prefix_append _ _

end Loop

/-! ## Sessions -/

namespace Session

open Loop

variable {ε : Type} {h : Host ε} {asks : Nat → Nat} {n j : Nat} {s : Session ε}

/-- **BeginsAt** — the session, run on the thread of the caller, begins an iteration after its first
`j` turns. -/
def BeginsAt (h : Host ε) (s : Session ε) (j : Nat) : Prop :=
  s.state ≠ .closing ∧ (s.enter h false).1.Checkpoint h j

/-- **AskedBy** — the worker that runs the session was asked to stop before turn `j`. -/
def AskedBy (h : Host ε) (asks : Nat → Nat) (s : Session ε) (j : Nat) : Prop :=
  .cancelAsked ∈ (s.runAsked h asks j true).events ∨ 0 < asks j

theorem enter_asWorker (h : Host ε) (s : Session ε) :
    s.enter h true = ((s.enter h false).1.asWorker false, (s.enter h false).2) := rfl

/-- Nothing is asked before the first turn. -/
theorem asked_enter (h : Host ε) (c : Bool) (s : Session ε) : asked (s.enter h c).2 = false := by
  simp [enter, Stack.push, asked_transition, asked_cons_of_ne]

theorem askedBy_iff (hs : s.state ≠ .closing) :
    s.AskedBy h asks j ↔ ((s.enter h false).1.asWorker false).AskedBy h asks j := by
  rw [AskedBy, Loop.AskedBy, ← asked_iff, runAsked_of_open h asks j true hs, enter_asWorker,
    asked_append, asked_enter, Bool.false_or]

/-- A worker that begins no iteration after a request runs like the session on the thread of the
caller. -/
theorem runAsked_same (hs : s.state ≠ .closing)
    (hquiet : ∀ j < n, s.BeginsAt h j → ¬s.AskedBy h asks j) :
    { s.runAsked h asks n true with events := plain (s.runAsked h asks n true).events }
      = s.run h n false := by
  obtain ⟨hexit, hshadows⟩ := shadows_followAsked asks n (enter_inline h hs)
    fun j hj hcheck hasked => hquiet j hj ⟨hs, hcheck⟩ ((askedBy_iff hs).mpr hasked)
  rw [runAsked_of_open h asks n true hs, run_of_open h n false hs, enter_asWorker, plain_append,
    plain_of_unasked (asked_enter h false s), hshadows.events, hexit, hshadows.loop]
  rfl

/-- A worker that would begin an iteration after a request honours the request instead. -/
theorem runAsked_honours (hbegins : s.BeginsAt h j) (hasked : s.AskedBy h asks j)
    (hquiet : ∀ i < j, s.BeginsAt h i → ¬s.AskedBy h asks i) (hjn : j < n) :
    (s.runAsked h asks n true).exit = some (.outcome .cancelled) ∧
      (s.runAsked h asks n true).session.state ≠ .closing ∧
      doings (s.runAsked h asks n true).events = doings (s.run h j false).events ∧
      .cancelAsked ∈ (s.runAsked h asks n true).events := by
  obtain ⟨hs, hcheck⟩ := hbegins
  have hloop := (askedBy_iff hs).mp hasked
  have hquiet' : ∀ i < j, (s.enter h false).1.Checkpoint h i →
      ¬((s.enter h false).1.asWorker false).AskedBy h asks i :=
    fun i hi hcheck hasked => hquiet i hi ⟨hs, hcheck⟩ ((askedBy_iff hs).mpr hasked)
  obtain ⟨hexit, hstate, hevents⟩ := followAsked_honours (enter_inline h hs) hquiet' hcheck hloop
  obtain ⟨-, hshadows⟩ := shadows_followAsked asks j (enter_inline h hs) hquiet'
  obtain ⟨k, rfl⟩ := Nat.exists_eq_add_of_lt hjn
  have hover : followAsked h asks (j + k + 1) ((s.enter h false).1.asWorker false) =
      followAsked h asks (j + 1) ((s.enter h false).1.asWorker false) := by
    rw [Nat.add_right_comm, followAsked_over k hexit]
  rw [runAsked_of_open h asks _ true hs, run_of_open h j false hs, enter_asWorker, hover]
  refine ⟨hexit, hstate, ?_, ?_⟩
  · rw [doings_append, doings_append, hevents, List.append_assoc, doings_append, doings_honouring,
      List.append_nil, ← doings_plain (followAsked h asks j _).events, hshadows.events]
  · rw [← asked_iff, asked_append, hevents, asked_append, asked_append, asked_replicate]
    rcases hloop with hloop | hloop
    · simp [hloop]
    · simp [hloop]

/-- A closing session runs on a worker as it does on the thread of the caller. -/
theorem runAsked_of_closing_same (hs : s.state = .closing) :
    s.runAsked h asks n true = s.run h n false := by
  rw [runAsked_of_closing h asks n true hs, run, if_pos hs]

/-- If there is an iteration that begins after a request, there is a first one. -/
theorem exists_first (hex : ∃ j < n, s.BeginsAt h j ∧ s.AskedBy h asks j) :
    ∃ j < n, s.BeginsAt h j ∧ s.AskedBy h asks j ∧
      ∀ i < j, s.BeginsAt h i → ¬s.AskedBy h asks i := by
  classical
  obtain ⟨hlt, hbegins, hasked⟩ := Nat.find_spec hex
  refine ⟨Nat.find hex, hlt, hbegins, hasked, fun i hi hbegins' hasked' => ?_⟩
  exact Nat.find_min hex hi ⟨Nat.lt_trans hi hlt, hbegins', hasked'⟩

/-- A run makes at most one read and one dispatch after a request. -/
theorem runAsked_bounded (h : Host ε) (asks : Nat → Nat) (n : Nat) {before after : List Event}
    (heq : (s.runAsked h asks n true).events = before ++ .cancelAsked :: after) :
    reads after ≤ 1 ∧ dispatches after ≤ 1 := by
  by_cases hs : s.state = .closing
  · have hmem : .cancelAsked ∈ (s.runAsked h asks n true).events := by
      rw [heq]
      simp
    rw [runAsked_of_closing h asks n true hs] at hmem
    cases List.mem_singleton.mp hmem
  · rw [runAsked_of_open h asks n true hs] at heq
    have hstart : (s.enter h true).1.Bounded (s.enter h true).2 := by
      intro before' after' heq'
      have hmem : asked (s.enter h true).2 = true := asked_iff.mpr (by rw [heq']; simp)
      rw [asked_enter] at hmem
      cases hmem
    obtain ⟨-, hr, hd⟩ := bounded_followAsked hstart asks n before after heq
    exact ⟨Nat.le_of_add_right_le hr, Nat.le_of_add_right_le hd⟩

/-- **Cancellation only truncates, and only between iterations.** What a worker does is a prefix of
what the session does on the thread of the caller. After a request it reads at most once and
dispatches at most once. If the other run begins an iteration after a request, the worker is
cancelled and its session is not closing; if not, and in particular if no request is made, the two
runs are the same. -/
theorem runAsked_cancels (h : Host ε) (asks : Nat → Nat) (n : Nat) (s : Session ε) :
    doings (s.runAsked h asks n true).events <+: doings (s.run h n false).events ∧
      (∀ before after, (s.runAsked h asks n true).events = before ++ .cancelAsked :: after →
        reads after ≤ 1 ∧ dispatches after ≤ 1) ∧
      ((∃ j < n, s.BeginsAt h j ∧ s.AskedBy h asks j) →
        (s.runAsked h asks n true).exit = some (.outcome .cancelled) ∧
          (s.runAsked h asks n true).session.state ≠ .closing) ∧
      ((¬∃ j < n, s.BeginsAt h j ∧ s.AskedBy h asks j) →
        { s.runAsked h asks n true with events := plain (s.runAsked h asks n true).events }
          = s.run h n false) ∧
      (.cancelAsked ∉ (s.runAsked h asks n true).events →
        s.runAsked h asks n true = s.run h n false) := by
  have hsame : (¬∃ j < n, s.BeginsAt h j ∧ s.AskedBy h asks j) →
      { s.runAsked h asks n true with events := plain (s.runAsked h asks n true).events }
        = s.run h n false := by
    intro hnot
    by_cases hs : s.state = .closing
    · rw [runAsked_of_closing_same hs, run, if_pos hs]
      rfl
    · exact runAsked_same hs fun j hj hbegins hasked => hnot ⟨j, hj, hbegins, hasked⟩
  refine ⟨?_, fun _ _ heq => runAsked_bounded h asks n heq, ?_, hsame, ?_⟩
  · by_cases hex : ∃ j < n, s.BeginsAt h j ∧ s.AskedBy h asks j
    · obtain ⟨j, hj, hbegins, hasked, hquiet⟩ := exists_first hex
      obtain ⟨-, -, hdoings, -⟩ := runAsked_honours hbegins hasked hquiet hj
      rw [hdoings, run_of_open h j false hbegins.1, run_of_open h n false hbegins.1, doings_append,
        doings_append, List.prefix_append_right_inj]
      exact doings_follow_prefix (Nat.le_of_lt hj)
    · rewrite [← hsame hex, doings_plain]
      exact List.prefix_rfl
  · intro hex
    obtain ⟨j, hj, hbegins, hasked, hquiet⟩ := exists_first hex
    obtain ⟨hexit, hstate, -, -⟩ := runAsked_honours hbegins hasked hquiet hj
    exact ⟨hexit, hstate⟩
  · intro hunasked
    have hnot : ¬∃ j < n, s.BeginsAt h j ∧ s.AskedBy h asks j := by
      intro hex
      obtain ⟨j, hj, hbegins, hasked, hquiet⟩ := exists_first hex
      exact hunasked (runAsked_honours hbegins hasked hquiet hj).2.2.2
    have hplain : asked (s.runAsked h asks n true).events = false := by
      rw [Bool.eq_false_iff, ne_eq, asked_iff]
      exact hunasked
    rw [← hsame hnot, plain_of_unasked hplain]

/-- A person types `a` and `b`. -/
def twoLines : Session Console :=
  { number := 0, env := {}, primary := some (.ofText "tty" true "a\nb\n") }

/-- The line `a` asks for the worker to be cancelled. -/
def cancellingHost : Host Console := Playbook.host [("a", { deeds := [.cancel] })]

theorem twoLines_cancelled :
    (∃ j < 20, twoLines.BeginsAt cancellingHost j ∧
        twoLines.AskedBy cancellingHost (fun _ => 0) j) ∧
      (twoLines.runAsked cancellingHost (fun _ => 0) 20 true).exit = some (.outcome .cancelled) ∧
      doings (twoLines.runAsked cancellingHost (fun _ => 0) 20 true).events <+:
        doings (twoLines.run cancellingHost 20 false).events := by
  have hasked : ∃ j < 20, twoLines.BeginsAt cancellingHost j ∧
      twoLines.AskedBy cancellingHost (fun _ => 0) j :=
    ⟨3, by decide, ⟨by decide, by decide, by decide⟩, .inl (by decide)⟩
  obtain ⟨htruncated, _, hcancelled, _⟩ := runAsked_cancels cancellingHost (fun _ => 0) 20 twoLines
  exact ⟨hasked, (hcancelled hasked).1, htruncated⟩

end Session

end CommandShell
