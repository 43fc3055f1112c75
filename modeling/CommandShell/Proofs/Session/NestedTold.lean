import CommandShell.Proofs.Session.Nested
import CommandShell.Proofs.Session.Sound

/-!
# Every run is told by `Nested`

Every number of turns gives a telling of the run (`goes_follow`). In the midst of a run the pending
move says which task is under way with the top source, and the sources below wait for it; `Goes`
puts the two together. Each turn that goes on gives a step of the telling (`goes_of_step`), so that
the telling of the turns to come becomes one of all the turns, by induction on their number.
-/

namespace CommandShell

open CommandShell.Log

variable {ε : Type}

/-! ## One source after the other -/

/-- **Through** — a task with the top source, and then the sources that wait below it. -/
def Through (h : Host ε) (below : Nat) (task : Task) (rest : List Source) (env : ε)
    (t : List Event) (r : Fate ε) : Prop :=
  (∃ t₁ c env' t₂, Nested h (below + rest.length) task env t₁ (.done c env') ∧
      Nested h below (.all c rest) env' t₂ r ∧ t = t₁ ++ t₂) ∨
    (Nested h (below + rest.length) task env t .cut ∧ r = .cut)

namespace Through

variable {h : Host ε} {below : Nat} {task task' : Task} {s : Source} {rest : List Source}
  {env env' : ε} {t : List Event} {r : Fate ε} {c : Course}

/-- A task may begin with acts before those of another. -/
theorem prepend (es : List Event)
    (hstep : ∀ t r, Nested h (below + rest.length) task env t r →
      Nested h (below + rest.length) task' env' (es ++ t) r)
    (ht : Through h below task rest env t r) : Through h below task' rest env' (es ++ t) r := by
  rcases ht with ⟨t₁, c, env'', t₂, htask, hrest, rfl⟩ | ⟨htask, rfl⟩
  · refine .inl ⟨es ++ t₁, c, env'', t₂, hstep _ _ htask, hrest, ?_⟩
    rw [List.append_assoc]
  · exact .inr ⟨hstep _ _ htask, rfl⟩

/-- The turn comes to the top source of several. -/
theorem all (ht : Through h below (.enter c s) rest env t r) :
    Nested h below (.all c (s :: rest)) env t r := by
  rcases ht with ⟨t₁, c', env', t₂, htask, hrest, rfl⟩ | ⟨htask, rfl⟩
  · exact .first htask hrest
  · exact .firstCut htask

/-- Sources that are run one after the other are run in two parts. -/
theorem of_append {ss : List Source} (hall : Nested h below (.all c (ss ++ rest)) env t r) :
    Through h below (.all c ss) rest env t r := by
  -- The sources before `rest` are run on top of it, so its length counts for each of them.
  induction ss generalizing c env t with
  | nil => exact .inl ⟨[], c, env, t, .none, hall, rfl⟩
  | cons s ss ih =>
      have hlen : below + (ss ++ rest).length = below + rest.length + ss.length := by
        rw [List.length_append]
        omega
      rw [List.cons_append] at hall
      cases hall with
      | cut => exact .inr ⟨.cut, rfl⟩
      | @first _ _ _ _ _ t₁ c' env' t₂ _ hs hall =>
          rw [hlen] at hs
          rcases ih hall with ⟨u₁, c'', env'', u₂, hss, hrest, rfl⟩ | ⟨hss, rfl⟩
          · exact .inl ⟨t₁ ++ u₁, c'', env'', u₂, .first hs hss, hrest, by rw [List.append_assoc]⟩
          · exact .inr ⟨.first hs hss, rfl⟩
      | firstCut hs =>
          rw [hlen] at hs
          exact .inr ⟨.firstCut hs, rfl⟩

/-- With no source below, the task alone is told. -/
theorem alone (ht : Through h below task [] env t r) :
    ∃ r', Nested h below task env t r' ∧ (r = .cut ∨ r = r') := by
  rcases ht with ⟨t₁, c, env', t₂, htask, hrest, rfl⟩ | ⟨htask, rfl⟩
  · cases hrest with
    | cut => exact ⟨_, by simpa using htask, .inl rfl⟩
    | none => exact ⟨_, by simpa using htask, .inr rfl⟩
  · exact ⟨_, htask, .inl rfl⟩

end Through

namespace Loop

/-! ## From the loop to the telling -/

/-- The course of a run under way. -/
def course (l : Loop ε) : Course :=
  match l.state with
  | .ready => .onward
  | .scriptError => .failed
  | .closing => .closing l.fatal

/-- **Arrives** — the turn comes to the top source; a closing session leaves it at once. -/
def Arrives (l : Loop ε) : Prop := l.next = .begin ∨ l.state = .closing ∧ l.next = .unwind

/-- The task that is under way with the top source. -/
def task (l : Loop ε) (s : Source) : Task :=
  match l.next with
  | .begin => .enter l.course s
  | .read => .next s
  | .dispatch => .line s l.line
  | .unwind => .leave l.course s
  | .stop => .all l.course []

/-- **Goes** — a run under way leads to the acts and the fate: its task is done with the top one of
its sources, and then the others are run. -/
def Goes (h : Host ε) (below : Nat) (l : Loop ε) :
    List Source → List Event → Fate ε → Prop
  | [], t, r => Nested h below (.all l.course []) l.env t r
  | s :: rest, t, r => Through h below (l.task s) rest l.env t r

/-- The fate of a run after some turns. -/
def fate (turn : Turn ε) : Fate ε :=
  match turn.exit with
  | some (.outcome _) => .done turn.loop.course turn.loop.env
  | _ => .cut

variable {h : Host ε} {l : Loop ε} {first s : Source} {below rest st : List Source}
  {t : List Event} {r : Fate ε}

theorem goes_cut (h : Host ε) (l : Loop ε) (d : Nat) (st : List Source) :
    l.Goes h d st [] .cut := by
  cases st with
  | nil => exact .cut
  | cons s rest => exact .inr ⟨.cut, rfl⟩

theorem course_of_ready (hs : l.state = .ready) : l.course = .onward := by
  rw [course, hs]

theorem course_of_scriptError (hs : l.state = .scriptError) : l.course = .failed := by
  rw [course, hs]

theorem course_of_closing (hs : l.state = .closing) : l.course = .closing l.fatal := by
  rw [course, hs]

/-- Where the turn comes to the top source, all the sources are told. -/
theorem Goes.all {d : Nat} (hg : l.Goes h d st t r) (hn : l.Arrives) :
    Nested h d (.all l.course st) l.env t r := by
  cases st with
  | nil => exact hg
  | cons s rest =>
      rcases hn with hn | ⟨hs, hn⟩
      · rw [Goes, task, hn] at hg
        exact hg.all
      · rw [Goes, task, hn, course_of_closing hs] at hg
        have henter : Through h d (.enter (.closing l.fatal) s) rest l.env t r :=
          hg.prepend [] fun _ _ => .closes
        rw [course_of_closing hs]
        exact henter.all

/-- An iteration begins: the source goes on, or it is left after a script error. -/
theorem goes_of_begins {d : Nat} {es : List Event} {b : Bool} (hn : l.next = .begin)
    (hs : l.state ≠ .closing) (hi : (h.interactive l.env s).result = .ok b)
    (hg : ((l.inspected h s).goOn es (.iteration b)).loop.Goes h d (s :: rest) t r) :
    l.Goes h d (s :: rest) t r := by
  cases hstate : l.state with
  | ready =>
      simp only [Goes, task, goOn_loop, inspected, hstate, State.respond] at hg
      rw [Goes, task, hn, course_of_ready hstate]
      exact hg.prepend [] fun _ _ => .goesOn hi
  | scriptError =>
      rw [Goes, task, hn, course_of_scriptError hstate]
      cases b with
      | true =>
          simp only [Goes, task, goOn_loop, inspected, hstate, State.respond] at hg
          exact hg.prepend [] fun _ _ => .recovers hi
      | false =>
          simp only [Goes, task, goOn_loop, inspected, hstate, State.respond, course] at hg
          exact hg.prepend [] fun _ _ => .failsToo hi
  | closing => exact absurd hstate hs

/-- A line is read, and then it is carried out. -/
theorem goes_of_reads {d : Nat} {es : List Event} {text : String} {stack : Stack}
    (hn : l.next = .read) (hs : l.state = .ready)
    (hr : (h.read l.env s).result = .ok (.line text))
    (hg : (goOn { (l.received h s).1 with stack, line := text } es .gotLine).loop.Goes h d
      ((s.readBy h l.env).countLine :: rest) t r) :
    l.Goes h d (s :: rest) (.lineRead s.name s.linesRead (some text) :: t) r := by
  simp only [Goes, task, goOn_loop, received_loop, hs, State.respond] at hg
  rw [Goes, task, hn]
  exact hg.prepend [_] fun _ _ => .reads hr

/-- No line is read, and the source is left. -/
theorem goes_of_noLine {d : Nat} {es : List Event} {act : Event} (hn : l.next = .read)
    (hs : l.state = .ready)
    (hact : ∀ t r,
      Nested h (d + rest.length) (.leave .onward (s.readBy h l.env)) (h.read l.env s).env t r →
        Nested h (d + rest.length) (.next s) l.env (act :: t) r)
    (hg : ((l.received h s).1.goOn es .noLine).loop.Goes h d (s.readBy h l.env :: rest) t r) :
    l.Goes h d (s :: rest) (act :: t) r := by
  simp only [Goes, task, goOn_loop, received_loop, hs, State.respond, course] at hg
  rw [Goes, task, hn]
  exact hg.prepend [_] hact

/-- After a line the course is that of its verdict and of the requests. -/
theorem course_of_dispatches {es : List Event} {v : Verdict} (hs : l.state = .ready)
    (hf : l.fatal = false) :
    (((l.carried h).1.judged v).goOn es v.signal).loop.course
      = .after v (.close ∈ (l.reaction h).requests) := by
  by_cases hc : .close ∈ (l.reaction h).requests <;>
    cases v <;>
    simp [course, carried_loop, judged, Verdict.signal, hc, hs, hf, State.respond, Course.after]

/-- After a line the turn comes to what is on top. -/
theorem arrives_of_dispatches {es : List Event} {v : Verdict} (hs : l.state = .ready) :
    (((l.carried h).1.judged v).goOn es v.signal).loop.Arrives := by
  by_cases hc : .close ∈ (l.reaction h).requests <;>
    cases v <;>
    simp [Arrives, carried_loop, judged, Verdict.signal, hc, hs, State.respond]

/-- A line is carried out, and then the sources that it pushed are run before the others. -/
theorem goes_of_dispatches {d : Nat} {es : List Event} {v : Verdict} (hn : l.next = .dispatch)
    (hs : l.state = .ready) (hf : l.fatal = false) (hr : (l.reaction h).result = .ok v)
    (hd : l.stack.depth = d + rest.length + 1)
    (hg : (((l.carried h).1.judged v).goOn es v.signal).loop.Goes h d
      ((pushes (l.reaction h).requests).reverse ++ s :: rest) t r) :
    l.Goes h d (s :: rest) (.dispatched l.line v (l.carried h).1.stack.depth :: t) r := by
  have hall := hg.all (arrives_of_dispatches hs)
  rw [course_of_dispatches hs hf] at hall
  have hdepth : (l.carried h).1.stack.depth =
      d + rest.length + 1 + (pushes (l.reaction h).requests).length := by
    rw [carried_loop, ← hd]
    exact Nat.add_comm _ _
  have henv : (((l.carried h).1.judged v).goOn es v.signal).loop.env = (l.reaction h).env := by
    simp [carried_loop]
  have hreaction : h.execute l.env l.line (d + rest.length + 1) = l.reaction h := by
    rw [reaction, hd]
  rw [henv] at hall
  rw [Goes, task, hn, hdepth]
  -- The sources that were pushed come first; then the turn comes to the source of the line.
  rcases Through.of_append hall with ⟨t₁, c, env', t₂, hpushed, hrest, rfl⟩ | ⟨hpushed, rfl⟩
  · cases hrest with
    | cut =>
        have hline := Nested.carries (s := s) hreaction hr hpushed .cut
        rw [List.append_nil] at hline ⊢
        exact .inr ⟨hline, rfl⟩
    | @first _ _ _ _ _ u₁ c' env'' u₂ _ hs' hrest =>
        refine .inl ⟨_, c', env'', u₂, .carries hreaction hr hpushed hs', hrest, by simp⟩
    | firstCut hs' => exact .inr ⟨.carries hreaction hr hpushed hs', rfl⟩
  · exact .inr ⟨.carriesCut hreaction hr hpushed, rfl⟩

@[simp] theorem course_sourceLeft (l : Loop ε) (es : List Event) (b : Bool) :
    (l.goOn es (.sourceLeft b)).loop.course = l.course := by
  rw [goOn_loop, course, State.respond_sourceLeft]
  rfl

/-- After a source the turn comes to the one below it. -/
theorem arrives_sourceLeft (l : Loop ε) (es : List Event) :
    (l.goOn es (.sourceLeft true)).loop.Arrives := by
  cases hs : l.state <;> simp [Arrives, hs, State.respond]

/-- A source is left, and then the others are run. -/
theorem goes_of_leaves {d : Nat} (hn : l.next = .unwind)
    (hall : Nested h d (.all l.course rest) l.env t r) :
    l.Goes h d (s :: rest) (s.leaving (d + rest.length) :: t) r := by
  rw [Goes, task, hn]
  exact .inl ⟨[_], l.course, l.env, t, .leaves, hall, rfl⟩

/-- **Stands** — the sources of the run that are on the stack. -/
def Stands (below st : List Source) (l : Loop ε) : Prop :=
  if l.next = .stop then st = [] else l.stack.sources = st ++ below

/-- A run that is not over stands on a source. -/
theorem Stands.cons (hst : l.Stands below st) (hl : l.Sound first below) (hn : l.next ≠ .stop) :
    ∃ s rest, st = s :: rest ∧ l.stack.sources = s :: (rest ++ below) := by
  rw [Stands, if_neg hn] at hst
  obtain ⟨nested, root, hsources, _, _⟩ := hl.rooted hn
  have hcons : st = nested ++ [root] := by
    apply (List.append_left_inj below).mp
    rw [← hst, hsources, List.append_assoc, List.singleton_append]
  obtain ⟨s, rest, rfl⟩ := List.exists_cons_of_ne_nil (l := st) (by simp [hcons])
  exact ⟨s, rest, rfl, hst⟩

/-- Going on with sources above those that were there before. -/
theorem stands_goOn {es : List Event} {e : Signal} (he : e ≠ .sourceLeft false)
    (hs : l.stack.sources = st ++ below) : (l.goOn es e).loop.Stands below st := by
  have hn : ¬(l.goOn es e).loop.next = .stop := fun hn => he (State.respond_stop_iff.mp hn)
  rw [Stands, if_neg hn]
  exact hs

/-- A turn that goes on is a step of the telling. -/
theorem goes_of_step (hl : l.SoundInline first below) (hst : l.Stands below st)
    (he : (l.step h).exit = none) :
    ∃ st', (l.step h).loop.Stands below st' ∧ ∀ t r, (l.step h).loop.Goes h below.length st' t r →
      l.Goes h below.length st (acts (l.step h).events ++ t) r := by
  have hcons : l.next ≠ .stop → _ := hst.cons hl.toSound
  have hfatal := hl.not_fatal
  have w := way_step h l
  generalize l.step h = turn at he w
  cases w with
  | honours => cases he
  | lacksSource => cases he
  | askPanics => cases he
  | @begins s _ b hn _ hs hi =>
      -- The source on top of the stack is the first of those of the run.
      obtain ⟨s', rest, rfl, hs'⟩ := hcons (by simp [hn])
      obtain ⟨rfl, rfl⟩ := List.cons.inj (hs.symm.trans hs')
      refine ⟨s :: rest, stands_goOn (by simp) hs', fun t r hg => ?_⟩
      have hg' := goes_of_begins hn (hl.begins hn) hi hg
      simpa [Event.isAct] using hg'
  | lacksInput => cases he
  | readPanics => cases he
  | @reads s _ text hn hs hr =>
      obtain ⟨s', rest, rfl, hs'⟩ := hcons (by simp [hn])
      obtain ⟨rfl, rfl⟩ := List.cons.inj (hs.symm.trans hs')
      have hafter := received_sources h hs
      refine ⟨(s.readBy h l.env).countLine :: rest, stands_goOn (by simp) ?_, fun t r hg => ?_⟩
      · rw [Stack.sources_mapCurrent, hafter]
        rfl
      · have hg' := goes_of_reads hn (hl.lines (.inl hn)) hr hg
        simpa [Event.isAct] using hg'
  | @ends s _ hn hs hr =>
      obtain ⟨s', rest, rfl, hs'⟩ := hcons (by simp [hn])
      obtain ⟨rfl, rfl⟩ := List.cons.inj (hs.symm.trans hs')
      have hafter := received_sources h hs
      refine ⟨s.readBy h l.env :: rest, stands_goOn (by simp) hafter, fun t r hg => ?_⟩
      have hg' := goes_of_noLine hn (hl.lines (.inl hn)) (fun _ _ => .ends hr) hg
      simpa [Event.isAct] using hg'
  | @fails s _ reason hn hs hr =>
      obtain ⟨s', rest, rfl, hs'⟩ := hcons (by simp [hn])
      obtain ⟨rfl, rfl⟩ := List.cons.inj (hs.symm.trans hs')
      have hafter := received_sources h hs
      refine ⟨s.readBy h l.env :: rest, stands_goOn (by simp) hafter, fun t r hg => ?_⟩
      have hg' := goes_of_noLine hn (hl.lines (.inl hn)) (fun _ _ => .fails hr) hg
      simpa [Event.isAct] using hg'
  | dispatchPanics => cases he
  | @dispatches v hn hr =>
      -- What was pushed stands above the sources of the run, the last one first.
      obtain ⟨s, rest, rfl, hs⟩ := hcons (by simp [hn])
      have hdepth : l.stack.depth = below.length + rest.length + 1 := by
        rw [l.stack.depth_eq, hs]
        simp [Nat.add_comm]
      have hf : l.fatal = false := by
        simpa using hfatal (by simp [hn]) (by simp [hn])
      refine ⟨(pushes (l.reaction h).requests).reverse ++ s :: rest, ?_, fun t r hg => ?_⟩
      · refine stands_goOn (by cases v <;> simp [Verdict.signal]) ?_
        rw [judged_stack, carried_loop, Stack.sources_pushAll, hs]
        simp
      · have hg' := goes_of_dispatches hn (hl.lines (.inr hn)) hf hr hdepth hg
        simpa [Event.isAct] using hg'
  | leaves hn =>
      obtain ⟨s, rest, rfl, hs⟩ := hcons (by simp [hn])
      have hr : Rooted first below (s :: (rest ++ below)) := hs ▸ hl.rooted (by simp [hn])
      cases hp : s.primordial with
      | false =>
          have hnil : rest ++ below ≠ [] := (hr.pop hl.primordial hp).ne_nil
          rw [unwind_nested hs hp hnil]
          refine ⟨rest, stands_goOn (by simp) (by rw [Stack.sources_below, hs, List.tail_cons]), ?_⟩
          intro t r hg
          have hall := hg.all (arrives_sourceLeft _ _)
          rw [course_sourceLeft] at hall
          have hg' := goes_of_leaves (s := s) hn hall
          simpa [Event.isAct, Source.leaving, Nat.add_comm] using hg'
      | true =>
          obtain ⟨hrest, -⟩ := hr.rest_eq hp
          obtain rfl : rest = [] := by simpa using hrest
          rw [unwind_primordial hs hp]
          refine ⟨[], by simp [Stands, State.respond_stop_iff], fun t r hall => ?_⟩
          rw [Goes, course_sourceLeft] at hall
          have hg' := goes_of_leaves (s := s) hn hall
          simpa [Event.isAct, Source.leaving] using hg'
  | stops => cases he

/-- Where a run ends of itself the telling is done; where a collaborator panics it is cut short. -/
theorem goes_of_exit {e : Exit} (hl : l.SoundInline first below) (hst : l.Stands below st)
    (he : (l.step h).exit = some e) :
    l.Goes h below.length st (acts (l.step h).events) (fate (l.step h)) := by
  have hsource : l.next ≠ .stop → ¬l.stack.sources = [] := fun hn => (hl.rooted hn).ne_nil
  have hcut := goes_cut h l below.length st
  have w := way_step h l
  generalize l.step h = turn at he w ⊢
  cases w with
  | honours _ hc =>
      rw [hl.uncancelled] at hc
      cases hc
  | lacksSource hn _ hs => exact absurd hs (hsource (by simp [hn]))
  | askPanics => simpa [fate] using hcut
  | begins => cases he
  | lacksInput hn hs => exact absurd hs (hsource (by simp [hn]))
  | readPanics => simpa [fate] using hcut
  | reads => cases he
  | ends => cases he
  | fails => cases he
  | dispatchPanics => simpa [fate] using hcut
  | dispatches => cases he
  | leaves => cases he
  | stops hn =>
      rw [Stands, if_pos hn] at hst
      subst hst
      have hnone : l.Goes h below.length [] [] (.done l.course l.env) := .none
      simpa [finish, fate, Event.isAct, course] using hnone

/-- **Every number of turns gives a telling.** -/
theorem goes_follow (hc : h.Consumes) (hl : l.SoundInline first below) (hst : l.Stands below st)
    (n : Nat) :
    l.Goes h below.length st (acts (follow h n l).events) (fate (follow h n l)) := by
  induction n generalizing l st with
  | zero => exact goes_cut h l below.length st
  | succ n ih =>
      cases he : (l.step h).exit with
      | some e =>
          rw [follow_of_leaves n he, ← he]
          exact goes_of_exit hl hst he
      | none =>
          obtain ⟨st', hst', hstep⟩ := goes_of_step hl hst he
          have hlater := hstep _ _ (ih (hl.step hc he) hst')
          rw [follow_of_goesOn n he, acts_append]
          exact hlater

end Loop

end CommandShell
