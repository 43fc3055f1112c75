import CommandShell.Proofs.Session.Sound

/-!
# What the log says of a session

Someone who reads only the log can keep a list of names and a state. A push puts a name on the list,
a pop or a release takes the top one away, and a transition changes the state. `View.read` reads one
record and refuses those that do not fit what was read before: a name that is not on top, a depth
that is not that of the list, a transition from another state, to the same state or from the closing
one. What is seen of a name is `f` of it, which may be all of it or nothing.

Whatever a session does to its sources and its state is told so that reading the records of it leads
from the one view of the session to the other (`View.Reads`). That is said of each operation on
stacks and states, and put together to a turn (`reads_step`); the state and the stack of a loop need
not be sound for that. Only what is seen of a name must not change while its source is read
(`Host.Keeps`).
-/

namespace CommandShell

open CommandShell.Log

/-- **View** — the names of the sources on the stack, the current one first, and the state. -/
structure View where
  names : List String := []
  state : State := .ready
  deriving DecidableEq, Repr

namespace View

/-- **read** — the view after a record, if the record fits. -/
def read (f : String → String) (v : View) : Record → Option View
  | .sourcePushed name _ _ depth =>
    if depth = v.names.length + 1 then some { v with names := f name :: v.names } else none
  | .sourcePopped name _ depth =>
    match v.names with
    | [] => none
    | top :: rest =>
      if f name = top ∧ depth = rest.length then some { v with names := rest } else none
  | .sourceReleased name =>
    match v.names with
    | [] => none
    | top :: rest => if f name = top then some { v with names := rest } else none
  | .releasingRest _ depth => if depth = v.names.length then some v else none
  | .stateChanged before after =>
    if before = v.state ∧ before ≠ after ∧ before ≠ .closing then some { v with state := after }
    else none
  | _ => some v

/-- Reads records one after the other. -/
def readAll (f : String → String) (v : View) (rs : List Record) : Option View :=
  rs.foldlM (read f) v

/-- **Reads** — reading the records among events leads from one view to another. -/
def Reads (f : String → String) (v : View) (es : List Event) (v' : View) : Prop :=
  v.readAll f (records es) = some v'

/-- Whether a record tells of sources or of the state. -/
def tells : Record → Bool
  | .sourcePushed .. | .sourcePopped .. | .sourceReleased _ | .releasingRest .. => true
  | .stateChanged .. => true
  | _ => false

variable {f : String → String}

theorem read_of_not_tells {r : Record} (h : tells r = false) (v : View) : v.read f r = some v := by
  cases r with
  | sourcePushed source primordial interactive depth => cases h
  | sourcePopped source lines depth => cases h
  | sourceReleased source => cases h
  | releasingRest session depth => cases h
  | stateChanged before after => cases h
  | _ => rfl

/-- Only records that tell of sources or of the state are read. -/
theorem readAll_filter (v : View) (rs : List Record) :
    v.readAll f (rs.filter tells) = v.readAll f rs := by
  induction rs generalizing v with
  | nil => rfl
  | cons r rs ih =>
      cases hr : tells r with
      | true =>
          rw [List.filter_cons_of_pos hr]
          show (v.read f r).bind (readAll f · (rs.filter tells)) =
            (v.read f r).bind (readAll f · rs)
          simp only [ih]
      | false =>
          rw [List.filter_cons_of_neg (by simp [hr]), ih]
          show _ = (v.read f r).bind (readAll f · rs)
          rw [read_of_not_tells hr]
          rfl

end View

/-- **tidings** — the records among events that tell of sources or of the state. -/
def tidings (es : List Event) : List Record := (records es).filter View.tells

@[simp] theorem tidings_append (es es' : List Event) :
    tidings (es ++ es') = tidings es ++ tidings es' := by
  unfold tidings records
  rw [List.filterMap_append, List.filter_append]

/-- Whether the record of an event tells of sources or of the state. -/
def Event.isTiding (e : Event) : Bool := e.record?.any View.tells

theorem tidings_eq_nil {es : List Event} (h : Loop.Lacks Event.isTiding es) : tidings es = [] := by
  unfold tidings records
  rw [List.filter_eq_nil_iff]
  intro r hr
  obtain ⟨e, he, hrecord⟩ := List.mem_filterMap.mp hr
  have hnot := h e he
  rw [Event.isTiding, hrecord] at hnot
  exact ne_true_of_eq_false hnot

theorem isTiding_noted (n : Note) : Event.isTiding (.noted n) = false := by
  cases n <;> rfl

namespace View

/-! ## Reading events -/

variable {f : String → String} {v v' v'' : View} {es es' : List Event}

theorem Reads.append (h : v.Reads f es v') (h' : v'.Reads f es' v'') :
    v.Reads f (es ++ es') v'' := by
  unfold Reads readAll records at h h' ⊢
  rw [List.filterMap_append, List.foldlM_append, h]
  exact h'

/-- Events with the same tidings are read alike. -/
theorem Reads.congr (h : v.Reads f es v') (hsame : tidings es' = tidings es) :
    v.Reads f es' v' := by
  unfold Reads at h ⊢
  rw [← readAll_filter] at h ⊢
  exact (congrArg (v.readAll f) hsame).trans h

/-- Events without tidings are passed over. -/
theorem reads_of_none (v : View) (h : tidings es = []) : v.Reads f es v := by
  have hnil : v.Reads f [] v := rfl
  exact hnil.congr h

/-- A transition is read, unless it leads out of the closing state. -/
theorem reads_transition (names : List String) {a b : State} (h : a = .closing → b = .closing) :
    Reads f ⟨names, a⟩ (Loop.transition a b) ⟨names, b⟩ := by
  unfold Loop.transition
  by_cases hab : a = b
  · subst hab
    rw [if_pos rfl]
    rfl
  · have hopen : a ≠ .closing := fun ha => hab (ha.trans (h ha).symm)
    rw [if_neg hab]
    show (View.read f ⟨names, a⟩ (.stateChanged a b)).bind some = _
    simp [View.read, hab, hopen]

end View

/-! ## Stacks -/

namespace Stack

variable {f : String → String}

/-- What is seen of the names of the sources on a stack. -/
def names (f : String → String) (s : Stack) : List String :=
  s.sources.map fun source => f source.name

theorem length_names (s : Stack) : (s.names f).length = s.depth := by
  rw [names, List.length_map, s.depth_eq]

theorem reads_push (s : Stack) (source : Source) (primordial : Bool) (st : State) :
    View.Reads f ⟨s.names f, st⟩ (s.push source primordial).2
      ⟨(s.push source primordial).1.names f, st⟩ := by
  show (View.read f ⟨s.names f, st⟩ (.sourcePushed source.name primordial source.interactive
    (s.depth + 1))).bind some = some ⟨f source.name :: s.names f, st⟩
  simp [View.read, length_names]

/-- Releases take one name after the other away. -/
theorem reads_releaseAll (ss : List Source) (st : State) :
    View.Reads f ⟨ss.map fun source => f source.name, st⟩ (releaseAll ss) ⟨[], st⟩ := by
  induction ss with
  | nil => rfl
  | cons s ss ih =>
      have hone : View.Reads f ⟨f s.name :: ss.map fun source => f source.name, st⟩
          [.logged (.sourceReleased s.name), .released s]
          ⟨ss.map fun source => f source.name, st⟩ := by
        show (View.read f ⟨f s.name :: ss.map fun source => f source.name, st⟩
          (.sourceReleased s.name)).bind some = _
        simp [View.read]
      exact hone.append ih

theorem reads_pop (s : Stack) (st : State) :
    View.Reads f ⟨s.names f, st⟩ s.pop.2.2 ⟨s.pop.1.names f, st⟩ := by
  unfold pop
  cases hs : s.current? with
  | none => exact View.reads_of_none _ rfl
  | some top =>
      obtain ⟨rest, hsources⟩ := current?_eq_some_iff.mp hs
      have hdepth : s.below.depth = rest.length := by
        rw [s.below.depth_eq, sources_below, hsources, List.tail_cons]
      have hleft : View.Reads f ⟨s.names f, st⟩
          [.logged (.sourcePopped top.name top.linesRead s.below.depth), .released top]
          ⟨s.below.names f, st⟩ := by
        show (View.read f _ (.sourcePopped top.name top.linesRead s.below.depth)).bind some = _
        simp [View.read, names, hsources, hdepth]
      cases hp : top.primordial with
      | true =>
          simp only [hp, if_true]
          exact hleft.append (reads_releaseAll s.below.sources st)
      | false =>
          simp only [hp, if_false, Bool.false_eq_true]
          exact hleft

end Stack

/-- **Keeps** — what is seen of a name stays the same while its source is read. -/
def Host.Keeps {ε : Type} (f : String → String) (h : Host ε) : Prop :=
  ∀ env source, f (h.read env source).source.name = f source.name

/-- A reader that only consumes keeps the names. -/
theorem Host.Consumes.keeps {ε : Type} {h : Host ε} (hc : h.Consumes) (f : String → String) :
    h.Keeps f := by
  intro env source
  rw [hc.source_eq]

/-- Someone who sees nothing of the names misses no change of them. -/
theorem Host.keeps_const {ε : Type} (h : Host ε) (name : String) : h.Keeps fun _ => name :=
  fun _ _ => rfl

/-! ## Turns -/

namespace Loop

variable {ε : Type}

/-- The view of a run under way. -/
def view (f : String → String) (l : Loop ε) : View := ⟨l.stack.names f, l.state⟩

variable {f : String → String} {h : Host ε} {l : Loop ε}

@[simp] theorem tidings_askCancel (l : Loop ε) (n : Nat) : tidings (l.askCancel n).2 = [] :=
  tidings_eq_nil (lacks_askCancel rfl l n)

theorem tidings_received (h : Host ε) (l : Loop ε) (s : Source) : tidings (l.received h s).2 = [] :=
  tidings_eq_nil (lacks_received isTiding_noted rfl h l s)

theorem tidings_records (l : Loop ε) (v : Verdict) : tidings (v.records l) = [] :=
  tidings_eq_nil (lacks_records (fun _ _ => rfl) (fun _ => rfl) l v)

theorem reads_askCancel (l : Loop ε) (n : Nat) :
    (l.view f).Reads f (l.askCancel n).2 ((l.askCancel n).1.view f) := by
  rw [askCancel_loop]
  exact View.reads_of_none _ (tidings_askCancel l n)

/-- Going on after events that are read. -/
theorem reads_goOn {v : View} {es : List Event} (hes : v.Reads f es (l.view f)) (e : Signal) :
    v.Reads f (l.goOn es e).events ((l.goOn es e).loop.view f) := by
  have hstays : l.state = .closing → (l.state.respond e).1 = .closing := by
    intro hclosing
    rw [hclosing, State.respond_closing]
  exact hes.append (View.reads_transition (l.stack.names f) hstays)

/-- Leaving the loop after events that are read. -/
theorem reads_leave {v : View} {es : List Event} (hes : v.Reads f es (l.view f)) (e : Exit) :
    v.Reads f (l.leave es e).events ((l.leave es e).loop.view f) := by
  rw [leave_events, leave_loop, release_events]
  apply hes.append
  by_cases hempty : l.stack.isEmpty
  · rw [if_pos hempty]
    have hstack : l.stack = .empty := Stack.isEmpty_iff.mp hempty
    show View.Reads f ⟨l.stack.names f, l.state⟩ [] _
    rw [hstack]
    rfl
  · rw [if_neg hempty]
    have hrest :
        (l.view f).Reads f [.logged (.releasingRest l.session l.stack.depth)] (l.view f) := by
      show (View.read f (l.view f) (.releasingRest l.session l.stack.depth)).bind some = _
      simp [View.read, Stack.length_names, view]
    exact hrest.append (Stack.reads_releaseAll l.stack.sources l.state)

/-- What a dispatcher asks for is told when it is done. -/
theorem reads_carryOut (l : Loop ε) (r : Request) :
    (l.view f).Reads f (l.carryOut r).2 ((l.carryOut r).1.view f) := by
  cases r with
  | push source => exact l.stack.reads_push source false l.state
  | close => exact View.reads_transition _ fun _ => rfl
  | cancel => exact l.reads_askCancel 1
  | note n =>
      apply View.reads_of_none
      cases n <;> rfl

theorem reads_carryOutAll (l : Loop ε) (rs : List Request) :
    (l.view f).Reads f (l.carryOutAll rs).2 ((l.carryOutAll rs).1.view f) := by
  induction rs generalizing l with
  | nil => rfl
  | cons r rs ih => exact (l.reads_carryOut r).append (ih (l.carryOut r).1)

theorem reads_carried (h : Host ε) (l : Loop ε) :
    (l.view f).Reads f (l.carried h).2 ((l.carried h).1.view f) :=
  reads_carryOutAll { l with env := (l.reaction h).env } _

/-- A change of the current source that keeps its name changes no name. -/
theorem names_mapCurrent {s : Stack} {g : Source → Source}
    (hg : ∀ top, s.current? = some top → f (g top).name = f top.name) :
    (s.mapCurrent g).names f = s.names f := by
  unfold Stack.names
  unfold Stack.current? at hg
  rw [Stack.sources_mapCurrent]
  cases hs : s.sources with
  | nil => rfl
  | cons top rest => simp [hg top (by rw [hs]; rfl)]

theorem view_received (hk : h.Keeps f) {s : Source} {rest : List Source}
    (hs : l.stack.sources = s :: rest) : (l.received h s).1.view f = l.view f := by
  rw [received_loop]
  refine congrArg (View.mk · l.state) (names_mapCurrent fun top htop => ?_)
  obtain rfl : s = top := by
    rw [Stack.current?, hs] at htop
    exact Option.some.inj htop
  exact hk l.env s

/-- What a read tells nothing of may stand behind its events. -/
theorem reads_received (hk : h.Keeps f) {s : Source} {rest : List Source}
    (hs : l.stack.sources = s :: rest) {es : List Event} (hes : tidings es = []) :
    (l.view f).Reads f ((l.received h s).2 ++ es) ((l.received h s).1.view f) := by
  rw [view_received hk hs]
  apply View.reads_of_none
  rw [tidings_append, tidings_received, hes]
  rfl

/-- **reads_step** — whatever a turn does to the stack and the state is told. -/
theorem reads_step (hk : h.Keeps f) (l : Loop ε) :
    (l.view f).Reads f (l.step h).events ((l.step h).loop.view f) := by
  have w := way_step h l
  generalize l.step h = t at w
  cases w with
  | honours => exact reads_leave (View.reads_of_none _ rfl) _
  | lacksSource => exact reads_leave (View.reads_of_none _ rfl) _
  | @askPanics s => exact reads_leave (l := l.inspected h s) (View.reads_of_none _ rfl) _
  | @begins s => exact reads_goOn (l := l.inspected h s) (View.reads_of_none _ rfl) _
  | lacksInput => exact reads_leave (View.reads_of_none _ rfl) _
  | readPanics _ hs =>
      apply reads_leave
      rw [view_received hk hs]
      exact View.reads_of_none _ (tidings_received h l _)
  | @reads s rest text _ hs =>
      apply reads_goOn
      have hview : View.mk (((l.received h s).1.stack.mapCurrent Source.countLine).names f)
          (l.received h s).1.state = (l.received h s).1.view f :=
        congrArg (View.mk · (l.received h s).1.state) (names_mapCurrent fun _ _ => rfl)
      show (l.view f).Reads f _ (View.mk _ _)
      rw [hview]
      exact reads_received hk hs rfl
  | ends _ hs => exact reads_goOn (reads_received hk hs rfl) _
  | fails _ hs => exact reads_goOn (reads_received hk hs rfl) _
  | dispatchPanics => exact reads_leave (reads_carried h l) _
  | @dispatches v =>
      apply reads_goOn
      have hview : ((l.carried h).1.judged v).view f = (l.carried h).1.view f := by
        unfold view
        rw [judged_stack, judged_state]
      rw [hview]
      apply (reads_carried h l).append
      apply View.reads_of_none
      exact tidings_records (l.carried h).1 v
  | leaves => exact reads_goOn (l.stack.reads_pop l.state) _
  | stops => exact reads_leave (View.reads_of_none _ rfl) _

end Loop

end CommandShell
