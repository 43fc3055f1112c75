import CommandShell.Proofs.Session.Turn

/-!
# What a run does to its sources

The **acts** of a run are the reads, the dispatched lines and the sources that are left. Everything
else among its events accompanies them; the simp lemmas here take the events of a turn down to its
acts. The sources that are released among the events are taken out in the same way.
-/

namespace CommandShell

open CommandShell.Log

/-- **isAct** — whether an event is a read, a dispatched line or a source that is left. -/
def Event.isAct : Event → Bool
  | .lineRead .. | .readFailed .. | .dispatched .. | .logged (.sourcePopped ..) => true
  | _ => false

/-- **acts** — the reads, dispatched lines and sources left among events, in order. -/
def acts (es : List Event) : List Event := es.filter Event.isAct

/-- Whether an event is a dispatched line. -/
def Event.isDispatch : Event → Bool
  | .dispatched .. => true
  | _ => false

/-- **dispatched** — the dispatched lines among events, in order. -/
def dispatched (es : List Event) : List Event := es.filter Event.isDispatch

variable {ε : Type}

/-! ## The acts of a turn -/

@[simp] theorem acts_nil : acts [] = [] := rfl

@[simp] theorem acts_cons (e : Event) (es : List Event) :
    acts (e :: es) = if e.isAct then e :: acts es else acts es :=
  List.filter_cons

@[simp] theorem acts_append (as bs : List Event) : acts (as ++ bs) = acts as ++ acts bs :=
  List.filter_append ..

theorem acts_eq_nil {es : List Event} (h : Loop.Lacks Event.isAct es) : acts es = [] :=
  h.filter_eq_nil

theorem dispatched_append (es es' : List Event) :
    dispatched (es ++ es') = dispatched es ++ dispatched es' :=
  List.filter_append ..

/-- Dispatched lines are acts. -/
theorem dispatched_acts (es : List Event) : dispatched (acts es) = dispatched es := by
  rw [dispatched, dispatched, acts, List.filter_filter]
  refine List.filter_congr fun e _ => ?_
  cases e <;> simp [Event.isDispatch, Event.isAct]

@[simp] theorem acts_transition (a b : State) : acts (Loop.transition a b) = [] :=
  acts_eq_nil (Loop.lacks_transition (fun _ _ => rfl) a b)

@[simp] theorem acts_releaseAll (ss : List Source) : acts (Stack.releaseAll ss) = [] :=
  acts_eq_nil (Loop.lacks_releaseAll (fun _ => rfl) (fun _ => rfl) ss)

/-- Leaving the top source is one act, whatever goes with it. -/
@[simp] theorem acts_pop (st : Stack) :
    acts st.pop.2.2 = st.current?.toList.map fun s =>
      .logged (.sourcePopped s.name s.linesRead st.below.depth) := by
  unfold Stack.pop
  split
  · rename_i hs
    rw [hs]
    rfl
  · rename_i top hs
    rw [hs]
    split <;> simp [Event.isAct]

@[simp] theorem acts_release (l : Loop ε) : acts l.release.2 = [] :=
  acts_eq_nil (Loop.lacks_release (fun _ _ => rfl) (fun _ => rfl) (fun _ => rfl) l)

@[simp] theorem acts_askCancel (l : Loop ε) (n : Nat) : acts (l.askCancel n).2 = [] :=
  acts_eq_nil (Loop.lacks_askCancel rfl l n)

@[simp] theorem acts_received (h : Host ε) (l : Loop ε) (s : Source) :
    acts (l.received h s).2 = [] :=
  acts_eq_nil (Loop.lacks_received (fun _ => rfl) rfl h l s)

@[simp] theorem acts_carried (h : Host ε) (l : Loop ε) : acts (l.carried h).2 = [] :=
  acts_eq_nil (Loop.lacks_carried (fun _ => rfl) rfl (fun _ _ _ => rfl) (fun _ _ => rfl) h l)

@[simp] theorem acts_records (l : Loop ε) (v : Verdict) : acts (v.records l) = [] :=
  acts_eq_nil (Loop.lacks_records (fun _ _ => rfl) (fun _ => rfl) l v)

/-- Nothing is done before the first turn. -/
theorem Session.acts_enter (h : Host ε) (c : Bool) (s : Session ε) : acts (s.enter h c).2 = [] := by
  simp [Session.enter, Stack.push, Event.isAct]

/-! ## Sources that are asked for -/

/-- **Passes** — the sources are asked for one after the other, from one state of the host to
another, and a person types the lines of none. -/
inductive Host.Passes (h : Host ε) : List Source → ε → ε → Prop
  | nil {env} : Passes h [] env env
  | cons {s rest env env'} : (h.interactive env s).result = .ok false →
      Passes h rest (h.interactive env s).env env' → Passes h (s :: rest) env env'

namespace Host.Passes

variable {h : Host ε} {s : Source} {asked rest : List Source} {env env' env'' : ε}

/-- One more source is asked for. -/
theorem snoc (ha : h.Passes asked env env') (hi : (h.interactive env' s).result = .ok false) :
    h.Passes (asked ++ [s]) env (h.interactive env' s).env := by
  induction ha with
  | nil => exact .cons hi .nil
  | cons hi' _ ih => exact .cons hi' (ih hi)

/-- The source that is asked for after some others. -/
theorem next (hall : h.Passes (asked ++ s :: rest) env env'') (ha : h.Passes asked env env') :
    (h.interactive env' s).result = .ok false := by
  induction ha with
  | nil =>
      cases hall with
      | cons hi _ => exact hi
  | cons _ _ ih =>
      cases hall with
      | cons _ hall => exact ih hall

/-- A person types the lines of none of them. -/
theorem of_mem (ha : h.Passes asked env env') (hs : s ∈ asked) :
    ∃ env, (h.interactive env s).result = .ok false := by
  induction ha with
  | nil => cases hs
  | cons hi _ ih =>
      rcases List.mem_cons.mp hs with rfl | hs
      · exact ⟨_, hi⟩
      · exact ih hs

end Host.Passes

/-! ## Sources that are released -/

theorem releases_append (es es' : List Event) :
    releases (es ++ es') = releases es ++ releases es' :=
  List.filterMap_append ..

/-- Whether an event is the release of a source. -/
def Event.isRelease : Event → Bool
  | .released _ => true
  | _ => false

theorem releases_eq_nil {es : List Event} (h : Loop.Lacks Event.isRelease es) :
    releases es = [] := by
  refine Loop.Lacks.filterMap_eq_nil fun e he => ?_
  have hnot := h e he
  cases e <;> first | rfl | cases hnot

@[simp] theorem releases_transition (a b : State) : releases (Loop.transition a b) = [] :=
  releases_eq_nil (Loop.lacks_transition (fun _ _ => rfl) a b)

@[simp] theorem releases_askCancel (l : Loop ε) (n : Nat) : releases (l.askCancel n).2 = [] :=
  releases_eq_nil (Loop.lacks_askCancel rfl l n)

@[simp] theorem releases_received (h : Host ε) (l : Loop ε) (s : Source) :
    releases (l.received h s).2 = [] :=
  releases_eq_nil (Loop.lacks_received (fun _ => rfl) rfl h l s)

@[simp] theorem releases_carried (h : Host ε) (l : Loop ε) : releases (l.carried h).2 = [] :=
  releases_eq_nil (Loop.lacks_carried (fun _ => rfl) rfl (fun _ _ _ => rfl) (fun _ _ => rfl) h l)

@[simp] theorem releases_records (l : Loop ε) (v : Verdict) : releases (v.records l) = [] :=
  releases_eq_nil (Loop.lacks_records (fun _ _ => rfl) (fun _ => rfl) l v)

@[simp] theorem releases_releaseAll (ss : List Source) : releases (Stack.releaseAll ss) = ss := by
  induction ss with
  | nil => rfl
  | cons s ss ih => exact congrArg (s :: ·) ih

/-- **Stack.pop_spec** — to pop a stack releases some sources of the top, top first, and leaves the
others. -/
theorem Stack.pop_spec (s : Stack) :
    ∃ k, releases s.pop.2.2 = s.sources.take k ∧ s.pop.1.sources = s.sources.drop k := by
  unfold pop
  cases hs : s.sources with
  | nil =>
      rw [current?_eq_none_iff.mpr hs]
      exact ⟨0, rfl, hs⟩
  | cons top rest =>
      rw [current?_eq_some_iff.mpr ⟨rest, hs⟩]
      dsimp only
      split
      · refine ⟨(top :: rest).length, ?_, ?_⟩
        · rw [releases_append, releases_releaseAll, sources_below, hs, List.take_length]
          rfl
        · rw [List.drop_length]
          rfl
      · exact ⟨1, rfl, congrArg List.tail hs⟩

/-- Leaving the loop releases what is on the stack. -/
@[simp] theorem releases_release (l : Loop ε) : releases l.release.2 = l.stack.sources := by
  rw [Loop.release_events]
  split
  · rename_i hs
    rw [Stack.isEmpty_iff.mp hs]
    rfl
  · exact releases_releaseAll _

end CommandShell
