import CommandShell.Proofs.Session.Turn

/-!
# What collaborators do to a run

The **effects** of a run are the notes of its collaborators and the sources that they push. Only
reads and dispatched lines have any (`effects_step`); what else there is among the events of a turn,
the session does itself. So what is said of notes and of pushes need not look at the other events.
-/

namespace CommandShell

open CommandShell.Log

/-- **isEffect** — whether an event is a note or the push of a source. -/
def Event.isEffect : Event → Bool
  | .noted _ | .logged (.sourcePushed ..) => true
  | _ => false

/-- **effects** — the notes and the pushes among events, in order. -/
def effects (es : List Event) : List Event := es.filter Event.isEffect

@[simp] theorem effects_nil : effects [] = [] := rfl

@[simp] theorem effects_cons (e : Event) (es : List Event) :
    effects (e :: es) = if e.isEffect then e :: effects es else effects es :=
  List.filter_cons

@[simp] theorem effects_append (as bs : List Event) :
    effects (as ++ bs) = effects as ++ effects bs :=
  List.filter_append ..

theorem effects_eq_nil {es : List Event} (h : Loop.Lacks Event.isEffect es) : effects es = [] :=
  h.filter_eq_nil

@[simp] theorem effects_noted (notes : List Note) :
    effects (notes.map .noted) = notes.map .noted := by
  refine List.filter_eq_self.mpr fun e he => ?_
  obtain ⟨n, _, rfl⟩ := List.mem_map.mp he
  rfl

@[simp] theorem effects_releaseAll (ss : List Source) : effects (Stack.releaseAll ss) = [] :=
  effects_eq_nil (Loop.lacks_releaseAll (fun _ => rfl) (fun _ => rfl) ss)

@[simp] theorem effects_pop (st : Stack) : effects st.pop.2.2 = [] :=
  effects_eq_nil (Loop.lacks_pop (fun _ _ _ => rfl) (fun _ => rfl) (fun _ => rfl) st)

namespace Loop

variable {ε : Type}

@[simp] theorem effects_transition (x y : State) : effects (transition x y) = [] :=
  effects_eq_nil (lacks_transition (fun _ _ => rfl) x y)

@[simp] theorem effects_askCancel (l : Loop ε) (n : Nat) : effects (l.askCancel n).2 = [] :=
  effects_eq_nil (lacks_askCancel rfl l n)

@[simp] theorem effects_records (l : Loop ε) (v : Verdict) : effects (v.records l) = [] :=
  effects_eq_nil (lacks_records (fun _ _ => rfl) (fun _ => rfl) l v)

@[simp] theorem effects_release (l : Loop ε) : effects l.release.2 = [] :=
  effects_eq_nil (lacks_release (fun _ _ => rfl) (fun _ => rfl) (fun _ => rfl) l)

/-- A read notes what the reader says. -/
@[simp] theorem effects_received (h : Host ε) (l : Loop ε) (s : Source) :
    effects (l.received h s).2 = (h.read l.env s).notes.map .noted := by
  simp [received]

/-- A request is a note or a push, or it has no effect. -/
@[simp] theorem effects_carryOut (l : Loop ε) (request : Request) :
    effects (l.carryOut request).2 =
      match request with
      | .push source => [.logged (.sourcePushed source.name false source.interactive
          (l.stack.depth + 1))]
      | .note n => [.noted n]
      | .close | .cancel => [] := by
  cases request with
  | push source => rfl
  | close => exact effects_transition ..
  | cancel => exact effects_askCancel ..
  | note n => rfl

/-- **Only reads and dispatched lines have effects.** -/
theorem effects_step (h : Host ε) (l : Loop ε) :
    effects (l.step h).events =
      match l.next, l.stack.sources with
      | .read, s :: _ => (h.read l.env s).notes.map .noted
      | .dispatch, _ => effects (l.carried h).2
      | _, _ => [] := by
  have w := way_step h l
  generalize l.step h = turn at w ⊢
  cases w with
  | honours hn => simp [hn, Event.isEffect]
  | lacksSource hn => simp [hn, finish, Event.isEffect]
  | askPanics hn => simp [hn]
  | begins hn => simp [hn, Event.isEffect]
  | lacksInput hn hs => simp [hn, hs, finish, Event.isEffect]
  | readPanics hn hs => simp [hn, hs]
  | reads hn hs => simp [hn, hs, Event.isEffect]
  | ends hn hs => simp [hn, hs, Event.isEffect]
  | fails hn hs => simp [hn, hs, Event.isEffect]
  | dispatchPanics hn => simp [hn]
  | dispatches hn => simp [hn, Event.isEffect]
  | leaves hn => simp [hn, unwind]
  | stops hn => simp [hn, finish, Event.isEffect]

end Loop

end CommandShell
