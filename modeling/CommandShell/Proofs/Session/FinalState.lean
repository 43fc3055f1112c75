import CommandShell.Proofs.Session.Acts
import CommandShell.Proofs.Session.Sound

/-!
# Why a run ended

`runAsked_outcome`: the outcome of a run and the state it leaves its session in say what its last
line did. A run is stopped on an error exactly if that line was fatal, or failed where no source on
the stack was interactive; the session is closing exactly if some line closed it or was fatal.

The state of a loop remembers the last line (`Loop.Recalls`): it is reset where an interactive
source is met, and otherwise every source left since is known not to be interactive. No line follows
one that closed the session.
-/

namespace CommandShell

open CommandShell.Log

/-! ## Lines that were carried out -/

/-- **DoneLine** — a line that was carried out, and how things stood then. -/
structure DoneLine (ε : Type) where
  line : String
  verdict : Verdict
  /-- Whether shutdown was asked for. -/
  closed : Bool
  /-- The sources on the stack, those that the line pushed among them. -/
  sources : List Source
  env : ε

namespace DoneLine

variable {ε : Type}

/-- The event of the line. -/
def event (d : DoneLine ε) : Event := .dispatched d.line d.verdict d.sources.length

/-- **Closes** — the line closed the session or was fatal. -/
def Closes (d : DoneLine ε) : Prop := d.closed = true ∨ d.verdict = .fatal

/-- **FailsThrough** — the line failed without closing the session, and no source on the stack was
interactive when they were asked for, the top one first. -/
def FailsThrough (h : Host ε) (d : DoneLine ε) : Prop :=
  d.verdict = .scriptError ∧ d.closed = false ∧ ∃ env, h.Passes d.sources d.env env

theorem FailsThrough.not_closes {h : Host ε} {d : DoneLine ε} (hd : d.FailsThrough h) :
    ¬d.Closes := by
  obtain ⟨hv, hc, _⟩ := hd
  simp [Closes, hv, hc]

end DoneLine

namespace Loop

variable {ε : Type} {h : Host ε} {l : Loop ε}

/-- The line that the next turn carries out, if it carries one out. -/
def doneLine? (h : Host ε) (l : Loop ε) : Option (DoneLine ε) :=
  match l.next, (l.reaction h).result with
  | .dispatch, .ok v => some
    { line := l.line, verdict := v, closed := decide (.close ∈ (l.reaction h).requests),
      sources := (l.carried h).1.stack.sources, env := (l.reaction h).env }
  | _, _ => none

/-- **doneLines** — the lines that are carried out in the turns of some loops. -/
def doneLines (h : Host ε) (seen : List (Loop ε)) : List (DoneLine ε) :=
  seen.filterMap (doneLine? h)

theorem doneLines_snoc (h : Host ε) (seen : List (Loop ε)) (l : Loop ε) :
    doneLines h (seen ++ [l]) = doneLines h seen ++ (l.doneLine? h).toList := by
  rw [doneLines, List.filterMap_append, doneLines]
  cases hd : l.doneLine? h <;> simp [hd]

theorem doneLine?_of_next (hn : l.next ≠ .dispatch) : l.doneLine? h = none := by
  unfold doneLine?
  split
  · rename_i hdispatch _
    exact absurd hdispatch hn
  · rfl

theorem doneLine?_of_dispatch {v : Verdict} (hn : l.next = .dispatch)
    (hr : (l.reaction h).result = .ok v) :
    l.doneLine? h = some
      { line := l.line, verdict := v, closed := decide (.close ∈ (l.reaction h).requests),
        sources := (l.carried h).1.stack.sources, env := (l.reaction h).env } := by
  simp [doneLine?, hn, hr]

/-- The lines carried out are those that are dispatched. -/
theorem dispatched_step (h : Host ε) (l : Loop ε) :
    dispatched (l.step h).events = (l.doneLine? h).toList.map DoneLine.event := by
  rw [← dispatched_acts]
  have hnone : l.next ≠ .dispatch → (l.doneLine? h).toList.map DoneLine.event = [] := by
    intro hn
    rw [doneLine?_of_next hn]
    rfl
  have w := way_step h l
  generalize l.step h = turn at w
  cases w with
  | @dispatches v hn hr =>
      simp [doneLine?, hn, hr, Event.isAct, Event.isDispatch, dispatched, DoneLine.event,
        Stack.depth_eq]
  | dispatchPanics hn hr => simp [doneLine?, hn, hr, dispatched]
  | honours hn => simp [hnone, hn, Event.isAct, dispatched]
  | lacksSource hn => simp [hnone, hn, finish, Event.isAct, dispatched]
  | askPanics hn => simp [hnone, hn, dispatched]
  | begins hn => simp [hnone, hn, Event.isAct, dispatched]
  | lacksInput hn => simp [hnone, hn, finish, Event.isAct, dispatched]
  | readPanics hn => simp [hnone, hn, dispatched]
  | reads hn => simp [hnone, hn, Event.isAct, Event.isDispatch, dispatched]
  | ends hn => simp [hnone, hn, Event.isAct, Event.isDispatch, dispatched]
  | fails hn => simp [hnone, hn, Event.isAct, Event.isDispatch, dispatched]
  | leaves hn => simp [hnone, hn, unwind, Event.isDispatch, dispatched]
  | stops hn => simp [hnone, hn, finish, Event.isAct, dispatched]

/-! ## What the state remembers -/

/-- The current source, if it was asked for and is to be left. -/
def dismissed (l : Loop ε) : List Source := if l.next = .unwind then l.stack.sources.take 1 else []

theorem dismissed_of_next (hn : l.next ≠ .unwind) : l.dismissed = [] := if_neg hn

/-- **Recalls** — what the state of a loop says of the last line that was carried out. -/
inductive Recalls (h : Host ε) (l : Loop ε) : Option (DoneLine ε) → Prop
  /-- No line was carried out. -/
  | fresh : l.state = .ready → l.fatal = false → Recalls h l none
  /-- The line closed the session or was fatal. -/
  | closes {d : DoneLine ε} : d.Closes → l.state = .closing →
      (l.fatal = true ↔ d.verdict = .fatal) → Recalls h l (some d)
  /-- The line did not fail, or an interactive source was met since. -/
  | recovered {d : DoneLine ε} : ¬d.Closes → ¬d.FailsThrough h → l.state = .ready →
      l.fatal = false → Recalls h l (some d)
  /-- The line failed, and no source asked for since was interactive. -/
  | failed {d : DoneLine ε} {popped : List Source} : d.verdict = .scriptError → d.closed = false →
      l.state = .scriptError → l.fatal = false → d.sources = popped ++ l.stack.sources →
      h.Passes (popped ++ l.dismissed) d.env l.env → Recalls h l (some d)

namespace Recalls

variable {d? : Option (DoneLine ε)} {l' : Loop ε}

/-- In a ready session only the state counts. -/
theorem of_ready (hr : l.Recalls h d?) (hs : l.state = .ready) (hs' : l'.state = .ready)
    (hf : l'.fatal = l.fatal) : l'.Recalls h d? := by
  cases hr with
  | fresh _ hfatal => exact .fresh hs' (hf.trans hfatal)
  | closes _ hclosing => simp [hs] at hclosing
  | recovered hc ht _ hfatal => exact .recovered hc ht hs' (hf.trans hfatal)
  | failed _ _ hstate => simp [hs] at hstate

/-- In a session that is not closing the line has not closed it. -/
theorem not_closes {d : DoneLine ε} (hr : l.Recalls h (some d)) (hs : l.state ≠ .closing) :
    ¬d.Closes := by
  cases hr with
  | closes _ hclosing => exact absurd hclosing hs
  | recovered hc => exact hc
  | failed hv hc => simp [DoneLine.Closes, hv, hc]

/-- Where an iteration begins, an interactive source ends the unwinding. -/
theorem begins {s : Source} {rest : List Source} {b : Bool} {es : List Event}
    (hr : l.Recalls h d?) (hn : l.next = .begin) (hclosing : l.state ≠ .closing)
    (hs : l.stack.sources = s :: rest) (hi : (h.interactive l.env s).result = .ok b) :
    ((l.inspected h s).goOn es (.iteration b)).loop.Recalls h d? := by
  cases hr with
  | fresh hstate hfatal => exact .fresh (by simp [inspected, hstate, State.respond]) hfatal
  | closes _ hstate => exact absurd hstate hclosing
  | recovered hc ht hstate hfatal =>
      exact .recovered hc ht (by simp [inspected, hstate, State.respond]) hfatal
  | @failed d popped hv hc hstate hfatal hsources hpassed =>
      rw [dismissed_of_next (by simp [hn]), List.append_nil] at hpassed
      cases b with
      | true =>
          -- The source was on the stack when the line failed, which thus met an interactive one.
          refine .recovered (by simp [DoneLine.Closes, hv, hc]) ?_
            (by simp [inspected, hstate, State.respond]) hfatal
          rintro ⟨_, _, env, hall⟩
          rw [hsources, hs] at hall
          rw [hall.next hpassed] at hi
          cases hi
      | false =>
          have hnext : ((l.inspected h s).goOn es (.iteration false)).loop.next = .unwind := by
            simp [inspected, hstate, State.respond]
          refine .failed hv hc (by simp [inspected, hstate, State.respond]) hfatal hsources ?_
          rw [dismissed, if_pos hnext]
          show h.Passes (popped ++ l.stack.sources.take 1) d.env _
          rw [hs]
          exact hpassed.snoc hi

/-- Leaving a source does not change the state; after a failure it was not interactive. -/
theorem leaves {s : Source} {b : Bool} {es : List Event} {stack : Stack} (hr : l.Recalls h d?)
    (hn : l.next = .unwind) (hs : l.stack.sources = s :: stack.sources) :
    (goOn { l with stack } es (.sourceLeft b)).loop.Recalls h d? := by
  cases hr with
  | fresh hstate hfatal => exact .fresh (by simp [hstate]) hfatal
  | closes hd hstate hfatal => exact .closes hd (by simp [hstate]) hfatal
  | recovered hc ht hstate hfatal => exact .recovered hc ht (by simp [hstate]) hfatal
  | @failed d popped hv hc hstate hfatal hsources hpassed =>
      have hsources' : d.sources = (popped ++ [s]) ++ stack.sources := by
        rw [hsources, hs, List.append_assoc, List.singleton_append]
      have hnext : (goOn { l with stack } es (.sourceLeft b)).loop.next ≠ .unwind := by
        cases b <;> simp [hstate, State.respond]
      refine .failed hv hc (by simp [hstate]) hfatal hsources' ?_
      rw [dismissed, if_pos hn, hs] at hpassed
      rw [dismissed_of_next hnext, List.append_nil]
      exact hpassed

/-- A request to cancel changes nothing that counts. -/
theorem askCancel (n : Nat) (hr : l.Recalls h d?) : (l.askCancel n).1.Recalls h d? := by
  rw [askCancel_loop]
  cases hr with
  | fresh hstate hfatal => exact .fresh hstate hfatal
  | closes hd hstate hfatal => exact .closes hd hstate hfatal
  | recovered hc ht hstate hfatal => exact .recovered hc ht hstate hfatal
  | failed hv hc hstate hfatal hsources hpassed =>
      exact .failed hv hc hstate hfatal hsources hpassed

/-- After a line the state is what its verdict and its requests make of it. -/
theorem dispatches {v : Verdict} (es : List Event) (hs : l.state = .ready) (hf : l.fatal = false)
    (hn : l.next = .dispatch) (hr : (l.reaction h).result = .ok v) :
    (((l.carried h).1.judged v).goOn es v.signal).loop.Recalls h (l.doneLine? h) := by
  rw [doneLine?_of_dispatch hn hr]
  by_cases hc : .close ∈ (l.reaction h).requests
  · refine .closes (.inl (by simpa using hc)) ?_ ?_
    · cases v <;> simp [carried_loop, hc, State.respond, Verdict.signal]
    · simp [carried_loop, hf]
  · cases v with
    | ok =>
        refine .recovered (by simp [DoneLine.Closes, hc]) (by simp [DoneLine.FailsThrough]) ?_ ?_
        · simp [carried_loop, judged, hc, hs, State.respond, Verdict.signal]
        · simp [carried_loop, judged, hf]
    | scriptError =>
        have hsources : (l.carried h).1.stack.sources = [] ++ (l.carried h).1.stack.sources := rfl
        refine .failed rfl (by simpa using hc) ?_ ?_ hsources ?_
        · simp [carried_loop, judged, hc, hs, State.respond, Verdict.signal]
        · simp [carried_loop, judged, hf]
        · rw [dismissed_of_next (by
            simp [carried_loop, judged, hc, hs, State.respond, Verdict.signal])]
          have henv : (((l.carried h).1.judged .scriptError).goOn es
              Verdict.scriptError.signal).loop.env = (l.reaction h).env := by
            simp [carried_loop, judged]
          rw [henv]
          exact .nil
    | fatal =>
        refine .closes (.inr rfl) ?_ (by simp)
        simp [carried_loop, judged, hc, hs, State.respond, Verdict.signal]

end Recalls

/-- **Remembers** — no line but the last one can have closed the session, and the state says what
the last one did. -/
structure Remembers (h : Host ε) (first : Source) (ds : List (DoneLine ε)) (l : Loop ε) : Prop where
  earlier : ∀ d ∈ ds.dropLast, ¬d.Closes
  last : l.Recalls h ds.getLast?
  /-- The first source was there whenever a line was carried out. -/
  rooted : ∀ d ∈ ds, ∃ s ∈ d.sources, s.IsLater first

namespace Remembers

variable {first : Source} {ds : List (DoneLine ε)}

/-- In a session that is not closing no line has closed it. -/
theorem not_closes (hr : l.Remembers h first ds) (hs : l.state ≠ .closing) :
    ∀ d ∈ ds, ¬d.Closes := by
  intro d hd
  obtain ⟨earlier, d', rfl⟩ := List.eq_nil_or_concat ds |>.resolve_left (List.ne_nil_of_mem hd)
  have hearlier := hr.earlier
  have hlast := hr.last
  rw [List.concat_eq_append] at hd
  rw [List.concat_eq_append, List.dropLast_concat] at hearlier
  rw [List.concat_eq_append, List.getLast?_concat] at hlast
  rcases List.mem_append.mp hd with hd | hd
  · exact hearlier d hd
  · rw [List.mem_singleton.mp hd]
    exact hlast.not_closes hs

/-- A turn that carries out no line leaves the lines as they are. -/
theorem of_recalls {l' : Loop ε} (hr : l.Remembers h first ds) (hn : l.next ≠ .dispatch)
    (hl' : l'.Recalls h ds.getLast?) :
    l'.Remembers h first (ds ++ (l.doneLine? h).toList) := by
  rw [doneLine?_of_next hn]
  simpa using (⟨hr.earlier, hl', hr.rooted⟩ : l'.Remembers h first ds)

theorem step (hl : l.Sound first []) (hr : l.Remembers h first ds)
    (he : (l.step h).exit = none) :
    (l.step h).loop.Remembers h first (ds ++ (l.doneLine? h).toList) := by
  have hrooted := hl.rooted
  have w := way_step h l
  generalize l.step h = turn at he w
  cases w with
  | honours => cases he
  | lacksSource => cases he
  | askPanics => cases he
  | begins hn _ hs hi =>
      exact hr.of_recalls (by simp [hn]) (hr.last.begins hn (hl.begins hn) hs hi)
  | lacksInput => cases he
  | readPanics => cases he
  | reads hn =>
      have hs := hl.lines (.inl hn)
      refine hr.of_recalls (by simp [hn]) (hr.last.of_ready hs ?_ ?_)
      · simp [received_loop, hs, State.respond]
      · simp [received_loop]
  | ends hn =>
      have hs := hl.lines (.inl hn)
      refine hr.of_recalls (by simp [hn]) (hr.last.of_ready hs ?_ ?_)
      · simp [received_loop, hs, State.respond]
      · simp [received_loop]
  | fails hn =>
      have hs := hl.lines (.inl hn)
      refine hr.of_recalls (by simp [hn]) (hr.last.of_ready hs ?_ ?_)
      · simp [received_loop, hs, State.respond]
      · simp [received_loop]
  | dispatchPanics => cases he
  | @dispatches v hn hv =>
      have hs := hl.lines (.inr hn)
      have hf : l.fatal = false := by simpa using hl.not_fatal (by simp [hn]) (by simp [hn])
      have hrecalls := Recalls.dispatches ((l.carried h).2 ++
        .dispatched l.line v (l.carried h).1.stack.depth :: v.records (l.carried h).1) hs hf hn hv
      have hclosed := hr.not_closes (by simp [hs])
      rw [doneLine?_of_dispatch hn hv] at hrecalls ⊢
      rw [Option.toList_some]
      refine ⟨?_, ?_, ?_⟩
      · rw [List.dropLast_concat]
        exact hclosed
      · rw [List.getLast?_concat]
        exact hrecalls
      · intro d hd
        rcases List.mem_append.mp hd with hd | hd
        · exact hr.rooted d hd
        · obtain ⟨nested, root, hsources, hroot, _⟩ := hrooted (by simp [hn])
          rw [List.mem_singleton.mp hd]
          refine ⟨root, ?_, hroot⟩
          simp [carried_loop, hsources]
  | leaves hn =>
      obtain ⟨s, rest, hs⟩ := List.exists_cons_of_ne_nil (hrooted (by simp [hn])).ne_nil
      have hroot : Rooted first [] (s :: rest) := hs ▸ hrooted (by simp [hn])
      refine hr.of_recalls (by simp [hn]) ?_
      cases hp : s.primordial with
      | false =>
          rw [unwind_nested hs hp (hroot.pop hl.primordial hp).ne_nil]
          exact hr.last.leaves hn (by rw [Stack.sources_below, hs, List.tail_cons])
      | true =>
          obtain ⟨rfl, -⟩ := hroot.rest_eq hp
          rw [unwind_primordial hs hp]
          exact hr.last.leaves hn hs
  | stops => cases he

/-- The session is closing exactly if a line has closed it or was fatal. -/
theorem closing_iff (hr : l.Remembers h first ds) : l.state = .closing ↔ ∃ d ∈ ds, d.Closes := by
  constructor
  · intro hs
    have hmem : ∀ d, ds.getLast? = some d → d ∈ ds := fun d => List.mem_of_getLast?
    have hlast := hr.last
    generalize ds.getLast? = d? at hmem hlast
    cases hlast with
    | fresh hstate => simp [hs] at hstate
    | closes hd => exact ⟨_, hmem _ rfl, hd⟩
    | recovered _ _ hstate => simp [hs] at hstate
    | failed _ _ hstate => simp [hs] at hstate
  · rintro ⟨d, hd, hcloses⟩
    by_cases hs : l.state = .closing
    · exact hs
    · exact absurd hcloses (hr.not_closes hs d hd)

/-- The last line was fatal exactly if the loop says so. -/
theorem fatal_iff (hr : l.Remembers h first ds) :
    l.fatal = true ↔ ∃ d, ds.getLast? = some d ∧ d.verdict = .fatal := by
  have hlast := hr.last
  generalize ds.getLast? = d? at hlast
  cases hlast with
  | fresh _ hfatal => simp [hfatal]
  | closes _ _ hfatal => simpa using hfatal
  | recovered hc _ _ hfatal =>
      have hverdict := not_or.mp hc
      simpa [hfatal] using hverdict.2
  | failed hv _ _ hfatal => simp [hfatal, hv]

/-- At the end a session is in the state of a script error exactly if its last line failed where no
source was interactive. -/
theorem scriptError_iff (hr : l.Remembers h first ds) (hempty : l.stack.sources = []) :
    l.state = .scriptError ↔ ∃ d, ds.getLast? = some d ∧ d.FailsThrough h := by
  have hlast := hr.last
  generalize ds.getLast? = d? at hlast
  cases hlast with
  | fresh hstate => simp [hstate]
  | @closes d hd hstate =>
      have hnot : ¬d.FailsThrough h := fun ht => ht.not_closes hd
      simpa [hstate] using hnot
  | recovered _ ht hstate => simpa [hstate] using ht
  | @failed d popped hv hc hstate _ hsources hpassed =>
      have hnone : l.dismissed = [] := by
        rw [dismissed, hempty, List.take_nil, ite_self]
      rw [hempty, List.append_nil] at hsources
      rw [hnone, List.append_nil] at hpassed
      have ht : d.FailsThrough h := ⟨hv, hc, _, hsources ▸ hpassed⟩
      simp [hstate, ht]

end Remembers

theorem outcome_eq_stopped_iff (l : Loop ε) :
    l.outcome = .stoppedOnError ↔ l.fatal = true ∨ l.state = .scriptError := by
  cases hf : l.fatal <;> simp [outcome, hf]

end Loop

/-! ## Runs of a session -/

namespace Session

open Loop

variable {ε : Type} {h : Host ε} {s : Session ε}

/-- **doneLines** — the lines that are carried out in a run. -/
def doneLines (h : Host ε) (asks : Nat → Nat) (n : Nat) (c : Bool) (s : Session ε) :
    List (DoneLine ε) :=
  if s.state = .closing then [] else Loop.doneLines h (visits h asks n (s.enter h c).1)

/-- At the end of a run without cancellation the loop remembers its lines. -/
theorem remembers_runAsked (hc : h.Consumes) {asks : Nat → Nat} {n : Nat} {c : Bool} {o : Outcome}
    (hs : s.state ≠ .closing) (hstack : s.stack = .empty)
    (he : (s.runAsked h asks n c).exit = some (.outcome o)) (ho : o ≠ .cancelled) :
    ∃ l : Loop ε, l.Remembers h (s.root h) (s.doneLines h asks n c) ∧ l.stack.sources = [] ∧
      o = l.outcome ∧ (s.runAsked h asks n c).session.state = l.state ∧
      dispatched (s.runAsked h asks n c).events =
        (s.doneLines h asks n c).map DoneLine.event := by
  rw [runAsked_of_open h asks n c hs] at he ⊢
  rw [doneLines, if_neg hs]
  have hsound := enter_sound h c hs
  rw [hstack] at hsound
  have hstart : (s.enter h c).1.Remembers h (s.root h) (Loop.doneLines h []) :=
    ⟨by simp [Loop.doneLines], .fresh (recover_of_open hs) rfl, by simp [Loop.doneLines]⟩
  have hnone : dispatched (s.enter h c).2 = (Loop.doneLines h []).map DoneLine.event := by
    rw [← dispatched_acts, acts_enter]
    rfl
  refine followAsked_exit
    (fun seen past l => l.Sound (s.root h) [] ∧ l.Remembers h (s.root h) (Loop.doneLines h seen) ∧
      dispatched past = (Loop.doneLines h seen).map DoneLine.event)
    (fun seen past l' e => ∀ o, e = .outcome o → o ≠ .cancelled → ∃ l : Loop ε,
      l.Remembers h (s.root h) (Loop.doneLines h seen) ∧ l.stack.sources = [] ∧ o = l.outcome ∧
      l'.state = l.state ∧ dispatched past = (Loop.doneLines h seen).map DoneLine.event)
    ?_ ?_ ?_ _ ⟨hsound, hstart, hnone⟩ he o rfl ho
  · rintro seen past l k ⟨hl, hr, hd⟩
    refine ⟨hl.askCancel k, ⟨hr.earlier, hr.last.askCancel k, hr.rooted⟩, ?_⟩
    rw [dispatched_append, hd, ← dispatched_acts (l.askCancel k).2, acts_askCancel]
    exact List.append_nil _
  · rintro seen past l ⟨hl, hr, hd⟩ hexit
    rw [doneLines_snoc]
    refine ⟨hl.step hc hexit, hr.step hl hexit, ?_⟩
    rw [dispatched_append, dispatched_step, hd, List.map_append]
  · rintro seen past l e ⟨hl, hr, hd⟩ hexit o rfl ho
    rcases hl.ends hexit with ⟨hcancelled, -⟩ | ⟨hn, hfinish, houtcome⟩
    · exact absurd hcancelled ho
    · have hline : l.doneLine? h = none := doneLine?_of_next (by simp [hn])
      rw [dispatched_append, dispatched_step, doneLines_snoc, hline, hd, hfinish]
      exact ⟨l, by simpa using hr, hl.finished hn, houtcome, by simp [finish], by simp⟩

/-- **The outcome and the final state say why a run ended**, if the reader leaves the sources in
their places. -/
theorem runAsked_outcome (h : Host ε) (hc : h.Consumes) (asks : Nat → Nat) (n : Nat) (c : Bool)
    (s : Session ε)
    (hs : s.state ≠ .closing) (hstack : s.stack = .empty) (o : Outcome)
    (he : (s.runAsked h asks n c).exit = some (.outcome o)) (ho : o ≠ .cancelled) :
    dispatched (s.runAsked h asks n c).events = (s.doneLines h asks n c).map DoneLine.event ∧
      (o = .stoppedOnError ↔ ∃ d, (s.doneLines h asks n c).getLast? = some d ∧
        (d.verdict = .fatal ∨ d.FailsThrough h)) ∧
      (o = .completed ↔ ¬∃ d, (s.doneLines h asks n c).getLast? = some d ∧
        (d.verdict = .fatal ∨ d.FailsThrough h)) ∧
      ((s.runAsked h asks n c).session.state = .closing ↔
        ∃ d ∈ s.doneLines h asks n c, d.closed = true ∨ d.verdict = .fatal) ∧
      ((s.runAsked h asks n c).session.state = .scriptError ↔
        ∃ d, (s.doneLines h asks n c).getLast? = some d ∧ d.FailsThrough h) ∧
      ((s.runAsked h asks n c).session.state = .ready ↔
        (¬∃ d ∈ s.doneLines h asks n c, d.closed = true ∨ d.verdict = .fatal) ∧
          ¬∃ d, (s.doneLines h asks n c).getLast? = some d ∧ d.FailsThrough h) ∧
      ((∀ env source, source.IsLater (s.root h) →
          (h.interactive env source).result = .ok true) →
        o = .stoppedOnError → ∃ d ∈ s.doneLines h asks n c, d.verdict = .fatal) := by
  obtain ⟨l, hr, hempty, rfl, hstate, hdispatched⟩ := remembers_runAsked hc hs hstack he ho
  have hclosing := hr.closing_iff
  have hfailed := hr.scriptError_iff hempty
  have hstopped : l.outcome = .stoppedOnError ↔
      ∃ d, (s.doneLines h asks n c).getLast? = some d ∧
        (d.verdict = .fatal ∨ d.FailsThrough h) := by
    rw [outcome_eq_stopped_iff, hr.fatal_iff, hfailed]
    constructor
    · rintro (⟨d, hd, hv⟩ | ⟨d, hd, ht⟩)
      · exact ⟨d, hd, .inl hv⟩
      · exact ⟨d, hd, .inr ht⟩
    · rintro ⟨d, hd, hv | ht⟩
      · exact .inl ⟨d, hd, hv⟩
      · exact .inr ⟨d, hd, ht⟩
  refine ⟨hdispatched, hstopped, ?_, hstate ▸ hclosing, hstate ▸ hfailed, ?_, ?_⟩
  · rw [← hstopped]
    cases hl : l.outcome with
    | completed => simp
    | stoppedOnError => simp
    | cancelled => exact absurd hl ho
  · have hready : l.state = .ready ↔ ¬l.state = .closing ∧ ¬l.state = .scriptError := by
      cases l.state <;> simp
    rw [hstate, hready, hclosing, hfailed]
    exact Iff.rfl
  · -- An interactive first source is on the stack after every line.
    intro hroot hstop
    obtain ⟨d, hd, hv | ht⟩ := hstopped.mp hstop
    · exact ⟨d, List.mem_of_getLast? hd, hv⟩
    · obtain ⟨source, hsource, hlater⟩ := hr.rooted d (List.mem_of_getLast? hd)
      obtain ⟨-, -, _, hpassed⟩ := ht
      obtain ⟨env, hi⟩ := hpassed.of_mem hsource
      rw [hroot env source hlater] at hi
      cases hi

/-- A script that reads another one, whose line fails. -/
def failingScript : Session Console :=
  { number := 0, env := {}, primary := some (.ofText "main" false "a\nb\n") }

/-- What the lines of `failingScript` do. -/
def failingScriptHost : Host Console :=
  Playbook.host [
    ("a", { deeds := [.push (.ofText "x" false "c\n")] }), ("c", { verdict := .scriptError })]

theorem failingScript_outcome :
    failingScriptHost.Consumes ∧
      (failingScript.runAsked failingScriptHost (fun _ => 0) 20 false).exit
        = some (.outcome .stoppedOnError) ∧
      ∃ d, (failingScript.doneLines failingScriptHost (fun _ => 0) 20 false).getLast? = some d ∧
        (d.verdict = .fatal ∨ d.FailsThrough failingScriptHost) := by
  have hexit : (failingScript.runAsked failingScriptHost (fun _ => 0) 20 false).exit
      = some (.outcome .stoppedOnError) := by decide
  obtain ⟨_, hstopped, _⟩ := runAsked_outcome failingScriptHost (Playbook.host_consumes _)
    (fun _ => 0) 20 false failingScript (by decide) rfl _ hexit (by decide)
  exact ⟨Playbook.host_consumes _, hexit, hstopped.mp rfl⟩

end Session

end CommandShell
