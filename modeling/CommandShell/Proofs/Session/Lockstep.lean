import CommandShell.Proofs.Session.Sound

/-!
# A worker runs in step with the same run on the thread of the caller

Requests to cancel are looked at only where an iteration begins. Until a worker begins one after it
was asked to stop, it does therefore what the loop does that takes no such requests: turn by turn it
has the same exit, the same loop and, the requests themselves apart, the same events
(`shadows_followAsked`). Where it does begin an iteration after a request, the request is honoured
(`followAsked_honours`).
-/

namespace CommandShell

open CommandShell.Log

/-! ## Events apart from requests to cancel -/

/-- **plain** — the events without the requests to cancel. -/
def plain (es : List Event) : List Event := es.filter (· ≠ .cancelAsked)

/-- **asked** — whether a request to cancel is among the events. -/
def asked (es : List Event) : Bool := es.contains .cancelAsked

@[simp] theorem plain_append (es es' : List Event) : plain (es ++ es') = plain es ++ plain es' :=
  List.filter_append ..

@[simp] theorem asked_nil : asked [] = false := rfl

@[simp] theorem asked_append (es es' : List Event) : asked (es ++ es') = (asked es || asked es') :=
  List.contains_append

theorem asked_cons_of_ne {e : Event} (he : e ≠ .cancelAsked) (es : List Event) :
    asked (e :: es) = asked es := by
  simp [asked, he.symm]

theorem asked_iff {es : List Event} : asked es = true ↔ .cancelAsked ∈ es := List.contains_iff_mem

/-- Whether an event is a request to cancel. -/
def Event.isRequest : Event → Bool
  | .cancelAsked => true
  | _ => false

theorem unasked_of_lacks {es : List Event} (h : Loop.Lacks Event.isRequest es) :
    asked es = false := by
  rw [Bool.eq_false_iff, ne_eq, asked_iff]
  intro hmem
  cases h _ hmem

theorem plain_of_unasked {es : List Event} (h : asked es = false) : plain es = es := by
  rw [plain, List.filter_eq_self]
  intro e he
  simp only [decide_eq_true_eq]
  rintro rfl
  rw [asked_iff.mpr he] at h
  cases h

theorem asked_replicate (n : Nat) : asked (List.replicate n .cancelAsked) = decide (0 < n) := by
  cases n <;> simp [asked, List.replicate_succ]

theorem plain_replicate (n : Nat) : plain (List.replicate n .cancelAsked) = [] := by
  simp [plain]

namespace Loop

variable {ε : Type} {h : Host ε} {l l' : Loop ε} {c : Bool} {es es' ws ws' : List Event}

/-! ## Shadows -/

/-- **asWorker** — the loop as a worker runs it, which may have been asked to stop. -/
def asWorker (l : Loop ε) (c : Bool) : Loop ε := { l with cancellable := true, cancelled := c }

/-- **Shadows** — a worker came to a loop and to events as another loop came to its own: apart from
requests to cancel, they are the same. -/
structure Shadows (c : Bool) (l : Loop ε) (es : List Event) (w : Loop ε) (ws : List Event) : Prop
    where
  loop : w = l.asWorker (c || asked ws)
  events : plain ws = es

theorem Shadows.append {w w' : Loop ε} (h : Shadows c l es w ws)
    (h' : Shadows (c || asked ws) l' es' w' ws') : Shadows c l' (es ++ es') w' (ws ++ ws') where
  loop := by rw [h'.loop, asked_append, Bool.or_assoc]
  events := by rw [plain_append, h.events, h'.events]

/-- Events without requests to cancel are the same for a worker. -/
theorem shadows_of_unasked (he : asked es = false) : Shadows c l es (l.asWorker c) es where
  loop := by rw [he, Bool.or_false]
  events := plain_of_unasked he

theorem asked_transition (st st' : State) : asked (transition st st') = false :=
  unasked_of_lacks (lacks_transition (fun _ _ => rfl) st st')

theorem asked_records (l : Loop ε) (v : Verdict) : asked (v.records l) = false :=
  unasked_of_lacks (lacks_records (fun _ _ => rfl) (fun _ => rfl) l v)

theorem asked_release (l : Loop ε) : asked l.release.2 = false :=
  unasked_of_lacks (lacks_release (fun _ _ => rfl) (fun _ => rfl) (fun _ => rfl) l)

theorem asked_pop (st : Stack) : asked st.pop.2.2 = false :=
  unasked_of_lacks (lacks_pop (fun _ _ _ => rfl) (fun _ => rfl) (fun _ => rfl) st)

theorem shadows_goOn {w : Loop ε} {e : Signal} (hw : Shadows c l es w ws) :
    Shadows c (l.goOn es e).loop (l.goOn es e).events (w.goOn ws e).loop (w.goOn ws e).events := by
  obtain ⟨rfl, hevents⟩ := hw
  refine ⟨?_, ?_⟩ <;> rw [goOn_events]
  · rw [asked_append, asked_transition, Bool.or_false]
    rfl
  · rw [goOn_events, plain_append, hevents, plain_of_unasked (asked_transition _ _)]
    rfl

theorem shadows_leave {w : Loop ε} {e : Exit} (hw : Shadows c l es w ws) :
    Shadows c (l.leave es e).loop (l.leave es e).events (w.leave ws e).loop
      (w.leave ws e).events := by
  obtain ⟨rfl, hevents⟩ := hw
  refine ⟨?_, ?_⟩ <;> rw [leave_events]
  · rw [asked_append, asked_release, Bool.or_false, leave_loop, leave_loop]
    rfl
  · rw [leave_events, plain_append, hevents, plain_of_unasked (asked_release _), release_events,
      release_events]
    rfl

/-! ## Collaborators -/

theorem askCancel_asWorker (l : Loop ε) (c : Bool) (n : Nat) :
    ((l.asWorker c).askCancel n).2 = List.replicate n .cancelAsked := rfl

/-- Requests to cancel are taken by the worker and not by the other. -/
theorem shadows_askCancel (hd : l.cancellable = false) (n : Nat) :
    Shadows c (l.askCancel n).1 (l.askCancel n).2 ((l.asWorker c).askCancel n).1
      ((l.asWorker c).askCancel n).2 := by
  simp only [askCancel, hd, asWorker, if_true, Bool.false_eq_true, if_false]
  exact ⟨by rw [asked_replicate]; rfl, plain_replicate n⟩

/-- The notes of a reader are no requests. -/
theorem asked_notes (notes : List Note) : asked (notes.map Event.noted) = false := by
  rw [Bool.eq_false_iff, ne_eq, asked_iff]
  simp

theorem shadows_received (hd : l.cancellable = false) (s : Source) :
    Shadows c (l.received h s).1 (l.received h s).2 ((l.asWorker c).received h s).1
      ((l.asWorker c).received h s).2 := by
  have hnotes := asked_notes (h.read l.env s).notes
  have hcall := shadows_askCancel (c := c) (l := { l with
    stack := l.stack.mapCurrent fun _ => (h.read l.env s).source
    env := (h.read l.env s).env }) hd (h.read l.env s).cancels
  refine (shadows_of_unasked (l := l) hnotes).append ?_
  rw [hnotes, Bool.or_false]
  exact hcall

theorem shadows_carryOutAll (hd : l.cancellable = false) (rs : List Request) :
    Shadows c (l.carryOutAll rs).1 (l.carryOutAll rs).2 ((l.asWorker c).carryOutAll rs).1
      ((l.asWorker c).carryOutAll rs).2 := by
  induction rs generalizing l c with
  | nil => exact shadows_of_unasked rfl
  | cons r rs ih =>
      have hone : Shadows c (l.carryOut r).1 (l.carryOut r).2 ((l.asWorker c).carryOut r).1
          ((l.asWorker c).carryOut r).2 := by
        cases r with
        | push source => exact shadows_of_unasked rfl
        | close => exact shadows_of_unasked (asked_transition _ _)
        | cancel => exact shadows_askCancel hd 1
        | note n => exact shadows_of_unasked rfl
      have hd' : (l.carryOut r).1.cancellable = false := by
        cases r <;> simp [carryOut, askCancel_loop, hd]
      have hrest := ih (c := c || asked ((l.asWorker c).carryOut r).2) hd'
      rw [← hone.loop] at hrest
      exact hone.append hrest

theorem shadows_carried (hd : l.cancellable = false) :
    Shadows c (l.carried h).1 (l.carried h).2 ((l.asWorker c).carried h).1
      ((l.asWorker c).carried h).2 :=
  shadows_carryOutAll (l := { l with env := (l.reaction h).env }) hd _

/-! ## Turns -/

theorem shadows_countLine {w : Loop ε} {text : String} (hw : Shadows c l es w ws) :
    Shadows c { l with stack := l.stack.mapCurrent Source.countLine, line := text } es
      { w with stack := w.stack.mapCurrent Source.countLine, line := text } ws := by
  obtain ⟨rfl, hevents⟩ := hw
  exact ⟨rfl, hevents⟩

theorem shadows_judged {w : Loop ε} (v : Verdict) (hw : Shadows c l es w ws) :
    Shadows c (l.judged v) es (w.judged v) ws := by
  obtain ⟨rfl, hevents⟩ := hw
  exact ⟨by cases v <;> rfl, hevents⟩

/-- Events that are the same for both come after those so far. -/
theorem Shadows.also {w : Loop ε} (hw : Shadows c l es w ws) {more : List Event}
    (hm : asked more = false) : Shadows c l (es ++ more) w (ws ++ more) where
  loop := by rw [hw.loop, asked_append, hm, Bool.or_false]
  events := by rw [plain_append, hw.events, plain_of_unasked hm]

/-- The turns of a worker and of the other loop. -/
def Turn.Shadows (c : Bool) (turn wturn : Turn ε) : Prop :=
  wturn.exit = turn.exit ∧ Loop.Shadows c turn.loop turn.events wturn.loop wturn.events

/-- **A worker that begins no iteration after a request takes the same turn.** -/
theorem shadows_step (hd : l.cancellable = false) (hu : l.cancelled = false)
    (hc : l.next = .begin → c = false) :
    Turn.Shadows c (l.step h) ((l.asWorker c).step h) := by
  have hfinish : Turn.Shadows c l.finish (l.asWorker c).finish :=
    ⟨rfl, shadows_leave (shadows_of_unasked rfl)⟩
  have hread := fun s => shadows_received (c := c) (h := h) hd s
  have hcarried := shadows_carried (c := c) (h := h) hd
  have w := way_step h l
  generalize l.step h = turn at w
  cases w with
  | honours _ hcancelled =>
      rw [hu] at hcancelled
      cases hcancelled
  | lacksSource hn _ hs =>
      have w' : Way h (l.asWorker c) _ := .lacksSource hn (hc hn) hs
      rw [w'.step_eq]
      exact hfinish
  | askPanics hn _ hs hi =>
      have w' : Way h (l.asWorker c) _ := .askPanics hn (hc hn) hs hi
      rw [w'.step_eq]
      exact ⟨rfl, shadows_leave (l := l.inspected h _) (shadows_of_unasked rfl)⟩
  | begins hn _ hs hi =>
      have w' : Way h (l.asWorker c) _ := .begins hn (hc hn) hs hi
      rw [w'.step_eq]
      exact ⟨rfl, shadows_goOn (l := l.inspected h _) (shadows_of_unasked rfl)⟩
  | lacksInput hn hs =>
      have w' : Way h (l.asWorker c) _ := .lacksInput hn hs
      rw [w'.step_eq]
      exact hfinish
  | readPanics hn hs hr =>
      have w' : Way h (l.asWorker c) _ := .readPanics hn hs hr
      rw [w'.step_eq]
      exact ⟨rfl, shadows_leave (hread _)⟩
  | reads hn hs hr =>
      have w' : Way h (l.asWorker c) _ := .reads hn hs hr
      rw [w'.step_eq]
      exact ⟨rfl, shadows_goOn (shadows_countLine ((hread _).also rfl))⟩
  | ends hn hs hr =>
      have w' : Way h (l.asWorker c) _ := .ends hn hs hr
      rw [w'.step_eq]
      exact ⟨rfl, shadows_goOn ((hread _).also rfl)⟩
  | fails hn hs hr =>
      have w' : Way h (l.asWorker c) _ := .fails hn hs hr
      rw [w'.step_eq]
      exact ⟨rfl, shadows_goOn ((hread _).also rfl)⟩
  | dispatchPanics hn hr =>
      have w' : Way h (l.asWorker c) _ := .dispatchPanics hn hr
      rw [w'.step_eq]
      exact ⟨rfl, shadows_leave hcarried⟩
  | @dispatches v hn hr =>
      have w' : Way h (l.asWorker c) _ := .dispatches hn hr
      rw [w'.step_eq]
      have hsame : Event.dispatched (l.asWorker c).line v ((l.asWorker c).carried h).1.stack.depth
          :: v.records ((l.asWorker c).carried h).1
          = .dispatched l.line v (l.carried h).1.stack.depth :: v.records (l.carried h).1 := by
        rw [hcarried.loop]
        cases v <;> rfl
      have hmore : asked (.dispatched l.line v (l.carried h).1.stack.depth
          :: v.records (l.carried h).1) = false := asked_records (l.carried h).1 v
      rw [hsame]
      exact ⟨rfl, shadows_goOn (shadows_judged v (hcarried.also hmore))⟩
  | leaves hn =>
      have w' : Way h (l.asWorker c) _ := .leaves hn
      rw [w'.step_eq]
      exact ⟨rfl, shadows_goOn (l := { l with stack := l.stack.pop.1 })
        (shadows_of_unasked (asked_pop l.stack))⟩
  | stops hn =>
      have w' : Way h (l.asWorker c) _ := .stops hn
      rw [w'.step_eq]
      exact hfinish

/-! ## Runs -/

/-- **Checkpoint** — the loop begins an iteration after its first `j` turns. -/
def Checkpoint (h : Host ε) (l : Loop ε) (j : Nat) : Prop :=
  (follow h j l).exit = none ∧ (follow h j l).loop.next = .begin

/-- **AskedBy** — a worker was asked to stop before turn `j`. -/
def AskedBy (h : Host ε) (asks : Nat → Nat) (l : Loop ε) (j : Nat) : Prop :=
  asked (followAsked h asks j l).events = true ∨ 0 < asks j

/-- **A worker runs in step with the other loop** as long as it begins no iteration after a
request. -/
theorem shadows_followAsked (asks : Nat → Nat) (n : Nat) (hl : l.Inline)
    (hquiet : ∀ j < n, l.Checkpoint h j → ¬(l.asWorker false).AskedBy h asks j) :
    Turn.Shadows false (follow h n l) (followAsked h asks n (l.asWorker false)) := by
  induction n with
  | zero => exact ⟨rfl, shadows_of_unasked rfl⟩
  | succ n ih =>
      obtain ⟨hexit, hshadows⟩ := ih fun j hj => hquiet j (Nat.lt_succ_of_lt hj)
      cases he : (follow h n l).exit with
      | some e =>
          rw [follow_over 1 he, followAsked_over 1 (hexit.trans he)]
          exact ⟨hexit, hshadows⟩
      | none =>
          -- The worker is asked from outside before its turn; then both take the turn.
          have hlast := hl.follow he
          have hquietNow := hquiet n (Nat.lt_succ_self n)
          generalize hW : followAsked h asks n (l.asWorker false) = W at hexit hshadows
          have hloop : W.loop = (follow h n l).loop.asWorker (asked W.events) := by
            rw [hshadows.loop, Bool.false_or]
          have hcall : Shadows (asked W.events) (follow h n l).loop []
              (W.loop.askCancel (asks n)).1 (W.loop.askCancel (asks n)).2 := by
            have hcall := shadows_askCancel (c := asked W.events) hlast.deaf (asks n)
            rw [askCancel_deaf hlast.deaf, ← hloop] at hcall
            exact hcall
          have hbegin : (follow h n l).loop.next = .begin →
              (asked W.events || asked (W.loop.askCancel (asks n)).2) = false := by
            -- An iteration begins, so by assumption nothing was asked so far.
            intro hn
            have hunasked := hquietNow ⟨he, hn⟩
            rw [AskedBy, hW, not_or, Bool.not_eq_true] at hunasked
            rw [hloop, askCancel_asWorker, asked_replicate, hunasked.1]
            simpa using hunasked.2
          have hstep := shadows_step (h := h) hlast.deaf hlast.uncancelled hbegin
          rw [← hcall.loop] at hstep
          have hW' := followAsked_turn (hW ▸ hexit.trans he)
          rw [hW] at hW'
          rw [follow_turn he, hW']
          refine ⟨hstep.1, ?_⟩
          have hturn := hcall.append hstep.2
          rw [← Bool.false_or (asked W.events)] at hturn
          have hall := hshadows.append hturn
          rw [List.nil_append, ← List.append_assoc] at hall
          exact hall

/-- **The first iteration after a request is not begun.** The request is honoured instead. -/
theorem followAsked_honours {asks : Nat → Nat} {j : Nat} (hl : l.Inline)
    (hquiet : ∀ i < j, l.Checkpoint h i → ¬(l.asWorker false).AskedBy h asks i)
    (hcheck : l.Checkpoint h j) (hasked : (l.asWorker false).AskedBy h asks j) :
    (followAsked h asks (j + 1) (l.asWorker false)).exit = some (.outcome .cancelled) ∧
      (followAsked h asks (j + 1) (l.asWorker false)).loop.state ≠ .closing ∧
      (followAsked h asks (j + 1) (l.asWorker false)).events =
        (followAsked h asks j (l.asWorker false)).events ++ List.replicate (asks j) .cancelAsked ++
          .logged (.cancellationHonoured (follow h j l).loop.session) ::
            (follow h j l).loop.release.2 := by
  obtain ⟨he, hn⟩ := hcheck
  obtain ⟨hexit, hshadows⟩ := shadows_followAsked asks j hl hquiet
  have hlast := hl.follow he
  rw [AskedBy] at hasked
  generalize hW : followAsked h asks j (l.asWorker false) = W at hexit hshadows hasked
  have hloop : W.loop = (follow h j l).loop.asWorker (asked W.events) := by
    rw [hshadows.loop, Bool.false_or]
  have hcancelled : (W.loop.askCancel (asks j)).1.cancelled = true := by
    rw [hloop, askCancel_loop]
    simpa [asWorker] using hasked
  have hnext : (W.loop.askCancel (asks j)).1.next = .begin := by
    rw [hloop, askCancel_loop]
    exact hn
  have w : Way h (W.loop.askCancel (asks j)).1 _ := .honours hnext hcancelled
  have hturn := followAsked_turn (hW ▸ hexit.trans he)
  rw [hW, w.step_eq] at hturn
  rw [hturn]
  refine ⟨rfl, ?_, ?_⟩
  · rw [leave_loop, askCancel_loop, hloop]
    exact hlast.begins hn
  · rw [leave_events, release_events, release_events, askCancel_loop, hloop, askCancel_asWorker]
    rfl

end Loop

end CommandShell
