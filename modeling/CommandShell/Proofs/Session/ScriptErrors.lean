import CommandShell.Proofs.Session.AccountsRun
import CommandShell.Proofs.Session.FinalState

/-!
# Where a script error is reported

Each line that fails is reported once, and the report names a source and a line of it. The books of
a run tell from which source the line came and which of its lines it is (`FailedLine`). The report
is made after the line was carried out, and says what is on top of the stack then: a line that
pushed nothing is reported where it stands, but one that pushed sources before it failed is reported
as the last line read of the last of these, although nobody has read of it yet
(`runAsked_scriptErrors`).

What carries this through the turns is that the books follow the stack (`Books.Follow`): for each
source there is the account of what it was when it was pushed, with as many lines as have been
counted since. Of the reader only has to be known that it leaves the sources in their places.
-/

namespace CommandShell

open CommandShell.Log

variable {ε : Type}

/-! ## Reports -/

/-- **scriptErrors** — the sources and lines that the reports of script errors name. -/
def scriptErrors (es : List Event) : List (String × Nat) :=
  es.filterMap fun
    | .logged (.scriptError name line) => some (name, line)
    | _ => none

/-- **failingLines** — the lines that were carried out and failed. -/
def failingLines (es : List Event) : List String :=
  es.filterMap fun
    | .dispatched line .scriptError _ => some line
    | _ => none

@[simp] theorem scriptErrors_append (es es' : List Event) :
    scriptErrors (es ++ es') = scriptErrors es ++ scriptErrors es' :=
  List.filterMap_append ..

theorem failingLines_append (es es' : List Event) :
    failingLines (es ++ es') = failingLines es ++ failingLines es' :=
  List.filterMap_append ..

/-- Whether an event reports a script error. -/
def Event.isReport : Event → Bool
  | .logged (.scriptError ..) => true
  | _ => false

theorem scriptErrors_eq_nil {es : List Event} (h : Loop.Lacks Event.isReport es) :
    scriptErrors es = [] := by
  rw [scriptErrors, List.filterMap_eq_nil_iff]
  intro e he
  split
  · exact absurd (h _ he) (by simp [Event.isReport])
  · rfl

@[simp] theorem scriptErrors_transition (a b : State) :
    scriptErrors (Loop.transition a b) = [] :=
  scriptErrors_eq_nil (Loop.lacks_transition (fun _ _ => rfl) a b)

@[simp] theorem scriptErrors_askCancel (l : Loop ε) (n : Nat) :
    scriptErrors (l.askCancel n).2 = [] :=
  scriptErrors_eq_nil (Loop.lacks_askCancel rfl l n)

@[simp] theorem scriptErrors_pop (st : Stack) : scriptErrors st.pop.2.2 = [] :=
  scriptErrors_eq_nil (Loop.lacks_pop (fun _ _ _ => rfl) (fun _ => rfl) (fun _ => rfl) st)

@[simp] theorem scriptErrors_release (l : Loop ε) : scriptErrors l.release.2 = [] :=
  scriptErrors_eq_nil (Loop.lacks_release (fun _ _ => rfl) (fun _ => rfl) (fun _ => rfl) l)

@[simp] theorem scriptErrors_received (h : Host ε) (l : Loop ε) (s : Source) :
    scriptErrors (l.received h s).2 = [] :=
  scriptErrors_eq_nil (Loop.lacks_received (fun _ => rfl) rfl h l s)

@[simp] theorem scriptErrors_carried (h : Host ε) (l : Loop ε) :
    scriptErrors (l.carried h).2 = [] :=
  scriptErrors_eq_nil
    (Loop.lacks_carried (fun _ => rfl) rfl (fun _ _ _ => rfl) (fun _ _ => rfl) h l)

/-- Whether a line failed is seen where it is dispatched. -/
theorem failingLines_dispatched (es : List Event) :
    failingLines (dispatched es) = failingLines es := by
  unfold failingLines dispatched
  rw [List.filterMap_filter]
  apply List.filterMap_congr
  intro e _
  cases e <;> rfl

/-- The report of a line that was carried out: if it failed, what is on top of the stack. -/
def DoneLine.reports (d : DoneLine ε) : List (String × Nat) :=
  if d.verdict = .scriptError then d.sources.head?.toList.map fun s => (s.name, s.linesRead) else []

/-- The line, if it failed. -/
def DoneLine.failed? (d : DoneLine ε) : Option String :=
  if d.verdict = .scriptError then some d.line else none

namespace Loop

variable {h : Host ε} {l : Loop ε}

theorem failingLines_step (h : Host ε) (l : Loop ε) :
    failingLines (l.step h).events = (l.doneLine? h).toList.filterMap DoneLine.failed? := by
  rw [← failingLines_dispatched, dispatched_step]
  cases l.doneLine? h with
  | none => rfl
  | some d =>
      obtain ⟨line, verdict, closed, sources, env⟩ := d
      cases verdict <;> rfl

theorem scriptErrors_records (l : Loop ε) (v : Verdict) :
    scriptErrors (v.records l) =
      if v = .scriptError then
        l.stack.sources.head?.toList.map fun s => (s.name, s.linesRead) else [] := by
  cases v with
  | ok => rfl
  | fatal => rfl
  | scriptError =>
      rw [Verdict.records, scriptErrorRecord, Stack.current?]
      cases l.stack.sources <;> rfl

/-- Going on reports nothing of its own, as it adds a transition only. -/
theorem scriptErrors_goOn (l : Loop ε) (es : List Event) (e : Signal) :
    scriptErrors (l.goOn es e).events = scriptErrors es := by
  rw [goOn_events, scriptErrors_append, scriptErrors_transition, List.append_nil]

/-- Neither does leaving the loop, as it adds releases only. -/
theorem scriptErrors_leave (l : Loop ε) (es : List Event) (e : Exit) :
    scriptErrors (l.leave es e).events = scriptErrors es := by
  rw [leave_events, scriptErrors_append, scriptErrors_release, List.append_nil]

/-- A turn reports the line that it carries out, if that fails. -/
theorem scriptErrors_step (h : Host ε) (l : Loop ε) :
    scriptErrors (l.step h).events = (l.doneLine? h).toList.flatMap DoneLine.reports := by
  have hnone : l.next ≠ .dispatch → (l.doneLine? h).toList.flatMap DoneLine.reports = [] := by
    intro hn
    rw [doneLine?_of_next hn]
    rfl
  have w := way_step h l
  generalize l.step h = turn at w
  cases w with
  | @dispatches v hn hr =>
      rw [doneLine?_of_dispatch hn hr, scriptErrors_goOn, scriptErrors_append,
        scriptErrors_carried, List.nil_append]
      show scriptErrors (v.records (l.carried h).1) = _
      rw [scriptErrors_records]
      simp [DoneLine.reports]
  | dispatchPanics hn hr => simp [doneLine?, hn, hr]
  | honours hn =>
      rw [hnone (by simp [hn]), scriptErrors_leave]
      rfl
  | lacksSource hn =>
      rw [hnone (by simp [hn]), finish, scriptErrors_leave]
      rfl
  | askPanics hn => simp [hnone, hn]
  | begins hn =>
      rw [hnone (by simp [hn]), scriptErrors_goOn]
      rfl
  | lacksInput hn =>
      rw [hnone (by simp [hn]), finish, scriptErrors_leave]
      rfl
  | readPanics hn => simp [hnone, hn]
  | reads hn =>
      rw [hnone (by simp [hn]), scriptErrors_goOn, scriptErrors_append, scriptErrors_received]
      rfl
  | ends hn =>
      rw [hnone (by simp [hn]), scriptErrors_goOn, scriptErrors_append, scriptErrors_received]
      rfl
  | fails hn =>
      rw [hnone (by simp [hn]), scriptErrors_goOn, scriptErrors_append, scriptErrors_received]
      rfl
  | leaves hn => rw [hnone (by simp [hn]), unwind, scriptErrors_goOn, scriptErrors_pop]
  | stops hn =>
      rw [hnone (by simp [hn]), finish, scriptErrors_leave]
      rfl

end Loop

/-! ## The books follow the stack -/

/-- **Matches** — the account is that of the source, and has the lines that were counted of it. -/
structure Account.Matches (a : Account) (s : Source) : Prop where
  later : s.IsLater a.pushed
  count : s.linesRead = a.pushed.linesRead + a.lines.length

namespace Books

/-- The books with the line that waits to be dispatched. -/
def heard (b : Books) (l : Loop ε) : Books := if l.next = .dispatch then b.enter l.line else b

/-- **Follow** — for each source on the stack there is its account. -/
def Follow (b : Books) (l : Loop ε) : Prop :=
  List.Forall₂ Account.Matches (b.heard l).running l.stack.sources

namespace Follow

open Loop

variable {h : Host ε} {b : Books} {l : Loop ε} {first : Source}

theorem of_next (hf : b.Follow l) (hn : l.next ≠ .dispatch) :
    List.Forall₂ Account.Matches b.running l.stack.sources := by
  unfold Follow heard at hf
  rw [if_neg hn] at hf
  exact hf

theorem of_dispatch (hf : b.Follow l) (hn : l.next = .dispatch) :
    List.Forall₂ Account.Matches (b.enter l.line).running l.stack.sources := by
  unfold Follow heard at hf
  rw [if_pos hn] at hf
  exact hf

/-- Going on without a line. -/
theorem goOn {es : List Event} {e : Signal} (he : e ≠ .gotLine)
    (hf : List.Forall₂ Account.Matches b.running l.stack.sources) :
    b.Follow (l.goOn es e).loop := by
  have hnext : (l.goOn es e).loop.next ≠ .dispatch := fun hn => he (respond_dispatch hn)
  unfold Follow heard
  rw [if_neg hnext]
  exact hf

theorem askCancel (n : Nat) (hf : b.Follow l) : b.Follow (l.askCancel n).1 := by
  rw [askCancel_loop]
  exact hf

/-- A source that gives no line is the same source. -/
theorem line_missing (hc : h.Consumes) (hf : b.Follow l) (hn : l.next = .read) {s : Source}
    {rest : List Source}
    (hs : l.stack.sources = s :: rest) (es : List Event) :
    b.Follow ((l.received h s).1.goOn es .noLine).loop := by
  have hbefore := hf.of_next (by simp [hn])
  rw [hs] at hbefore
  obtain ⟨a, as, ha, hbelow, hb⟩ := List.forall₂_cons_right_iff.mp hbefore
  apply goOn Signal.noConfusion
  rw [received_sources h hs, hc.source_eq, hb]
  exact .cons ⟨ha.later.advance _ s.linesRead, ha.count⟩ hbelow

/-- A line that is read waits in the account of its source. -/
theorem line_read (hc : h.Consumes) (hf : b.Follow l) (hl : l.Sound first []) (hn : l.next = .read)
    {s : Source} {rest : List Source} (hs : l.stack.sources = s :: rest) (text : String)
    (es : List Event) :
    b.Follow (Loop.goOn { (l.received h s).1 with
      stack := (l.received h s).1.stack.mapCurrent Source.countLine, line := text } es
      .gotLine).loop := by
  have hbefore := hf.of_next (by simp [hn])
  rw [hs] at hbefore
  obtain ⟨a, as, ha, hbelow, hb⟩ := List.forall₂_cons_right_iff.mp hbefore
  have hnext : (Loop.goOn { (l.received h s).1 with
      stack := (l.received h s).1.stack.mapCurrent Source.countLine, line := text } es
      .gotLine).loop.next = .dispatch := by
    rw [goOn_loop, received_loop]
    show (l.state.respond .gotLine).2 = .dispatch
    rw [hl.lines (.inl hn)]
    rfl
  unfold Follow heard
  rw [if_pos hnext]
  show List.Forall₂ Account.Matches (b.running.modifyHead _)
    ((l.received h s).1.stack.mapCurrent Source.countLine).sources
  rw [Stack.sources_mapCurrent, received_sources h hs, hc.source_eq, hb]
  refine .cons ⟨ha.later.advance _ (s.linesRead + 1), ?_⟩ hbelow
  show s.linesRead + 1 = a.pushed.linesRead + (a.lines ++ [text]).length
  rw [ha.count, List.length_append]
  rfl

/-- Each source that is pushed gets an account of its own. -/
theorem line_dispatched (hf : b.Follow l) (hn : l.next = .dispatch) (v : Verdict)
    (es : List Event) :
    ((b.enter l.line).push (l.pushed h)).Follow
      (((l.carried h).1.judged v).goOn es v.signal).loop := by
  apply goOn (by cases v <;> exact Signal.noConfusion)
  show List.Forall₂ Account.Matches (_ ++ (b.enter l.line).running) _
  rw [judged_stack, carried_loop, Stack.sources_pushAll, Loop.pushed, if_pos hn]
  apply List.rel_append _ (hf.of_dispatch hn)
  rw [List.forall₂_map_left_iff, List.forall₂_same]
  intro s _
  exact ⟨.refl s, rfl⟩

/-- The account of a source that is left is closed. -/
theorem source_left (hf : b.Follow l) (hl : l.Sound first []) (hn : l.next = .unwind) :
    (b.leave l.stack.sources).Follow l.unwind.loop := by
  have hbefore := hf.of_next (by simp [hn])
  have hr := hl.rooted (by simp [hn])
  obtain ⟨s, rest, hs⟩ := List.exists_cons_of_ne_nil hr.ne_nil
  rw [hs] at hr hbefore
  obtain ⟨a, as, -, hbelow, hb⟩ := List.forall₂_cons_right_iff.mp hbefore
  cases hp : s.primordial with
  | false =>
      rw [unwind_nested hs hp (hr.pop hl.primordial hp).ne_nil]
      apply goOn Signal.noConfusion
      show List.Forall₂ _ (b.running.drop (leaving l.stack.sources)) l.stack.below.sources
      rw [Stack.sources_below, hs, leaving, if_neg (by simp [hp]), hb]
      exact hbelow
  | true =>
      obtain ⟨rfl, -⟩ := hr.rest_eq hp
      rw [unwind_primordial hs hp]
      apply goOn Signal.noConfusion
      show List.Forall₂ _ (b.running.drop (leaving l.stack.sources)) []
      rw [hs, leaving, if_pos hp, hb]
      exact hbelow

/-- **Follow.step** — the books follow the stack through every turn that goes on. -/
theorem step (hc : h.Consumes) (hf : b.Follow l) (hl : l.Sound first [])
    (he : (l.step h).exit = none) : (b.turn h l).Follow (l.step h).loop := by
  have w := way_step h l
  generalize l.step h = t at he w
  unfold Books.turn
  cases w with
  | honours => cases he
  | lacksSource => cases he
  | askPanics => cases he
  | begins hn =>
      rw [hn]
      exact goOn Signal.noConfusion (hf.of_next (by simp [hn]))
  | lacksInput => cases he
  | readPanics => cases he
  | @reads s rest text hn hs =>
      rw [hn]
      exact hf.line_read hc hl hn hs text _
  | ends hn hs =>
      rw [hn]
      exact hf.line_missing hc hn hs _
  | fails hn hs =>
      rw [hn]
      exact hf.line_missing hc hn hs _
  | dispatchPanics => cases he
  | @dispatches v hn =>
      rw [hn]
      exact hf.line_dispatched hn v _
  | leaves hn =>
      rw [hn]
      exact hf.source_left hl hn
  | stops => cases he

end Follow

end Books

/-! ## Lines that failed -/

/-- **FailedLine** — a line that failed: the account of the source from which it came, as it was
before the line, and the sources that the line has pushed, the first one first. -/
structure FailedLine where
  line : String
  account : Account
  pushed : List Source

namespace FailedLine

/-- **place** — the source of the line, and which of its lines it is, the first one being 1. -/
def place (f : FailedLine) : String × Nat :=
  (f.account.pushed.name, f.account.pushed.linesRead + f.account.lines.length + 1)

/-- **Reported** — what the report of the line says. -/
structure Reported (f : FailedLine) (report : String × Nat) : Prop where
  /-- A line that pushed nothing is reported at its place. -/
  found : f.pushed = [] → report = f.place
  /-- One that pushed sources is reported at the last of them, with the count of that one. -/
  astray : ∀ s, f.pushed.getLast? = some s → report = (s.name, s.linesRead)

end FailedLine

/-- The line that the next turn carries out, if that fails. -/
def Loop.failedLine? (h : Host ε) (b : Books) (l : Loop ε) : Option FailedLine :=
  (l.doneLine? h).bind fun d =>
    if d.verdict = .scriptError then
      b.running.head?.map fun a => { line := d.line, account := a, pushed := l.pushed h }
    else none

/-- The lines that fail in the turns of some loops, with the books kept from then on. -/
def Books.failedLines (h : Host ε) : Books → List (Loop ε) → List FailedLine
  | _, [] => []
  | b, l :: turns => (l.failedLine? h b).toList ++ failedLines h (b.turn h l) turns

/-- **failedLines** — the lines of a run that failed, in order. -/
def Session.failedLines (h : Host ε) (s : Session ε) (turns : List (Loop ε)) : List FailedLine :=
  Books.failedLines h { running := [{ pushed := s.root h }] } turns

theorem Books.failedLines_append (h : Host ε) (b : Books) (turns turns' : List (Loop ε)) :
    b.failedLines h (turns ++ turns') =
      b.failedLines h turns ++ (turns.foldl (Books.turn h) b).failedLines h turns' := by
  induction turns generalizing b with
  | nil => rfl
  | cons l turns ih =>
      rw [List.cons_append, failedLines, failedLines, ih, List.append_assoc]
      rfl

namespace Loop

variable {h : Host ε} {b : Books} {l : Loop ε} {first : Source}

/-- A line that fails comes from the source on top, and has an account there. -/
theorem exists_failedLine (hl : l.Sound first []) (hf : b.Follow l) (hn : l.next = .dispatch)
    (hr : (l.reaction h).result = .ok .scriptError) :
    ∃ a s rest, l.failedLine? h b = some { line := l.line, account := a, pushed := l.pushed h } ∧
      l.stack.sources = s :: rest ∧ s.name = a.pushed.name ∧
      s.linesRead = a.pushed.linesRead + a.lines.length + 1 := by
  have hmatches := hf.of_dispatch hn
  obtain ⟨s, rest, hs⟩ := hl.exists_top (by simp [hn])
  rw [hs] at hmatches
  obtain ⟨a', as, ha', -, hrunning⟩ := List.forall₂_cons_right_iff.mp hmatches
  cases hb : b.running with
  | nil =>
      rw [Books.enter, hb] at hrunning
      cases hrunning
  | cons a as' =>
      rw [Books.enter, hb] at hrunning
      obtain ⟨rfl, -⟩ := List.cons.inj hrunning
      refine ⟨a, s, rest, ?_, hs, ?_, ?_⟩
      · rw [failedLine?, doneLine?_of_dispatch hn hr, hb]
        rfl
      · rw [ha'.later]
      · rw [ha'.count, List.length_append]
        rfl

/-- The report of a line that fails says what `FailedLine.Reported` tells. -/
theorem reported_of_fails (hl : l.Sound first []) (hf : b.Follow l) (hn : l.next = .dispatch)
    (hr : (l.reaction h).result = .ok .scriptError) :
    ∃ f report, l.failedLine? h b = some f ∧ scriptErrors (l.step h).events = [report] ∧
      failingLines (l.step h).events = [f.line] ∧ f.Reported report := by
  obtain ⟨a, s, rest, hfailed, hs, hname, hcount⟩ := exists_failedLine hl hf hn hr
  have hpushed : l.pushed h = pushes (l.reaction h).requests := if_pos hn
  have hreports : scriptErrors (l.step h).events =
      ((pushes (l.reaction h).requests).getLast?.or (some s)).toList.map
        fun s => (s.name, s.linesRead) := by
    rw [scriptErrors_step, doneLine?_of_dispatch hn hr]
    show (((l.carried h).1.stack.sources.head?.toList.map fun s => (s.name, s.linesRead)) ++ []) = _
    rw [List.append_nil, carried_loop, Stack.sources_pushAll, hs, List.head?_append,
      List.head?_reverse]
    rfl
  have hlines : failingLines (l.step h).events = [l.line] := by
    rw [failingLines_step, doneLine?_of_dispatch hn hr]
    rfl
  -- What stands on top is the last source that was pushed, if any was.
  cases hlast : (pushes (l.reaction h).requests).getLast? with
  | none =>
      rw [hlast] at hreports
      refine ⟨_, _, hfailed, hreports, hlines, fun _ => Prod.ext hname hcount, ?_⟩
      intro top htop
      rw [← hpushed] at hlast
      cases hlast.symm.trans htop
  | some top =>
      rw [hlast] at hreports
      refine ⟨_, _, hfailed, hreports, hlines, ?_, ?_⟩
      · intro hempty
        rw [← hpushed, show l.pushed h = [] from hempty] at hlast
        cases hlast
      · intro top' htop'
        rw [← hpushed] at hlast
        obtain rfl := Option.some.inj (hlast.symm.trans htop')
        rfl

/-- In any other turn there is nothing to report. -/
theorem unreported_of_not_fails (b : Books)
    (hok : l.next = .dispatch → (l.reaction h).result ≠ .ok .scriptError) :
    l.failedLine? h b = none ∧ scriptErrors (l.step h).events = [] ∧
      failingLines (l.step h).events = [] := by
  rw [scriptErrors_step, failingLines_step, failedLine?]
  cases hdone : l.doneLine? h with
  | none => exact ⟨rfl, rfl, rfl⟩
  | some d =>
      have hv : d.verdict ≠ .scriptError := by
        unfold doneLine? at hdone
        split at hdone
        · rename_i v hn hr
          obtain rfl := Option.some.inj hdone
          rintro rfl
          exact hok hn hr
        · cases hdone
      simp [DoneLine.reports, DoneLine.failed?, hv]

/-- A turn reports the line that it carries out, if that fails, and nothing else. -/
theorem reported_step (hl : l.Sound first []) (hf : b.Follow l) :
    List.Forall₂ FailedLine.Reported (l.failedLine? h b).toList (scriptErrors (l.step h).events) ∧
      (l.failedLine? h b).toList.map FailedLine.line = failingLines (l.step h).events := by
  by_cases hfails : l.next = .dispatch ∧ (l.reaction h).result = .ok .scriptError
  · obtain ⟨f, report, hfailed, hreports, hlines, hreported⟩ :=
      reported_of_fails hl hf hfails.1 hfails.2
    rw [hfailed, hreports, hlines]
    exact ⟨.cons hreported .nil, rfl⟩
  · obtain ⟨hfailed, hreports, hlines⟩ := unreported_of_not_fails (h := h) b (not_and.mp hfails)
    rw [hfailed, hreports, hlines]
    exact ⟨.nil, rfl⟩

end Loop

/-! ## Runs -/

namespace Session

open Loop

variable {h : Host ε} {s : Session ε}

/-- **Told** — the reports among events are those of the lines that failed in the turns seen. -/
structure Told (h : Host ε) (s : Session ε) (seen : List (Loop ε)) (es : List Event) : Prop where
  reports : List.Forall₂ FailedLine.Reported (s.failedLines h seen) (scriptErrors es)
  lines : (s.failedLines h seen).map FailedLine.line = failingLines es

theorem failedLines_concat (h : Host ε) (s : Session ε) (seen : List (Loop ε)) (l : Loop ε) :
    s.failedLines h (seen ++ [l]) =
      s.failedLines h seen ++ (l.failedLine? h (s.books h seen)).toList := by
  rw [failedLines, Books.failedLines_append]
  show _ ++ (_ ++ []) = _
  rw [List.append_nil]
  rfl

/-- Before the first turn nothing failed. -/
theorem told_enter (h : Host ε) (c : Bool) (s : Session ε) : s.Told h [] (s.enter h c).2 where
  reports := by
    show List.Forall₂ _ [] (scriptErrors (transition _ _ ++ _))
    rw [scriptErrors_append, scriptErrors_transition]
    exact .nil
  lines := by
    show [] = failingLines (s.enter h c).2
    rw [← failingLines_dispatched, ← dispatched_acts, acts_enter]
    rfl

theorem Told.askCancel {seen : List (Loop ε)} {past : List Event} (ht : s.Told h seen past)
    (l : Loop ε) (n : Nat) : s.Told h seen (past ++ (l.askCancel n).2) where
  reports := by
    rw [scriptErrors_append, scriptErrors_askCancel, List.append_nil]
    exact ht.reports
  lines := by
    rw [failingLines_append, ← failingLines_dispatched (l.askCancel n).2, ← dispatched_acts,
      acts_askCancel, ht.lines]
    exact (List.append_nil _).symm

/-- Every turn tells of the line that fails in it. -/
theorem Told.step {seen : List (Loop ε)} {past : List Event} {l : Loop ε}
    (ht : s.Told h seen past) (hl : l.Sound (s.root h) []) (hf : (s.books h seen).Follow l) :
    s.Told h (seen ++ [l]) (past ++ (l.step h).events) := by
  obtain ⟨hreports, hlines⟩ := reported_step (h := h) hl hf
  constructor
  · rw [failedLines_concat, scriptErrors_append]
    exact List.rel_append ht.reports hreports
  · rw [failedLines_concat, failingLines_append, List.map_append, ht.lines, hlines]

/-- The books follow the stack of a new run. -/
theorem follow_enter (h : Host ε) (c : Bool) (hs : s.stack = .empty) :
    (s.books h []).Follow (s.enter h c).1 := by
  show List.Forall₂ Account.Matches [{ pushed := s.root h }] (s.enter h c).1.stack.sources
  rw [enter_sources, hs]
  exact .cons ⟨.refl _, rfl⟩ .nil

/-- **Every line that fails is reported once**, in the order in which they fail. The report of a
line that pushed no source names the source from which the line came, and which of its lines it is,
if the reader only consumes the sources that it is handed. If the line has pushed sources, the
report names the last of them instead, and how many lines were read of that one before it was
pushed. -/
theorem runAsked_scriptErrors (h : Host ε) (hc : h.Consumes) (asks : Nat → Nat) (n : Nat) (c : Bool)
    (s : Session ε) (hs : s.stack = .empty) :
    List.Forall₂ FailedLine.Reported (s.failedLines h (s.moments h asks n c))
        (scriptErrors (s.runAsked h asks n c).events) ∧
      (s.failedLines h (s.moments h asks n c)).map FailedLine.line =
        failingLines (s.runAsked h asks n c).events := by
  by_cases hopen : s.state = .closing
  · rw [runAsked_of_closing h asks n c hopen, moments, if_pos hopen]
    exact ⟨.nil, rfl⟩
  · rw [runAsked_of_open h asks n c hopen, moments, if_neg hopen]
    have hsound := enter_sound h c hopen
    rw [hs] at hsound
    have hrun := @followAsked_induction _ h _
      (fun seen past l => l.Sound (s.root h) [] ∧ (s.books h seen).Follow l ∧ s.Told h seen past)
      (fun seen past _ _ => s.Told h seen past)
      ?ask ?goOn ?leave [] _ ⟨hsound, follow_enter h c hs, told_enter h c s⟩ asks n
    case ask =>
      rintro seen past l k ⟨hl, hf, ht⟩
      exact ⟨hl.askCancel k, hf.askCancel k, ht.askCancel l k⟩
    case goOn =>
      rintro seen past l ⟨hl, hf, ht⟩ hexit
      refine ⟨hl.step hc hexit, ?_, ht.step hl hf⟩
      rw [books_concat]
      exact hf.step hc hl hexit
    case leave =>
      rintro seen past l e ⟨hl, hf, ht⟩ -
      exact ht.step hl hf
    have htold : s.Told h (visits h asks n (s.enter h c).1)
        ((s.enter h c).2 ++ (followAsked h asks n (s.enter h c).1).events) := by
      rw [List.nil_append] at hrun
      split at hrun
      · exact hrun.2.2
      · exact hrun
    exact ⟨htold.reports, htold.lines⟩

/-- A script that reads another one. -/
def readsAnother : Session Console :=
  { number := 0, env := {}, primary := some (.ofText "main" false "a\nb\n") }

/-- The second line of the script that is read fails. -/
def failsInside : Host Console :=
  Playbook.host [
    ("a", { deeds := [.push (.ofText "x" false "c\nd\n")] }), ("d", { verdict := .scriptError })]

/-- The line that reads a script fails itself, after it has done so. -/
def failsAfterPush : Host Console :=
  Playbook.host [
    ("a", { deeds := [.push (.ofText "x" false "c\nd\n")], verdict := .scriptError })]

theorem failsInside_reported :
    failsInside.Consumes ∧ readsAnother.stack = .empty ∧
      scriptErrors (readsAnother.runAsked failsInside (fun _ => 0) 30 false).events = [("x", 2)] ∧
      (readsAnother.failedLines failsInside
        (readsAnother.moments failsInside (fun _ => 0) 30 false)).map FailedLine.place =
          [("x", 2)] ∧
      List.Forall₂ FailedLine.Reported
        (readsAnother.failedLines failsInside
          (readsAnother.moments failsInside (fun _ => 0) 30 false))
        (scriptErrors (readsAnother.runAsked failsInside (fun _ => 0) 30 false).events) :=
  ⟨Playbook.host_consumes _, rfl, by decide, by decide,
    (runAsked_scriptErrors failsInside (Playbook.host_consumes _) (fun _ => 0) 30 false
      readsAnother rfl).1⟩

/-- The first line of `main` fails, and what is reported is a line of `x` that does not exist. -/
theorem failsAfterPush_misreported :
    (readsAnother.entered failsAfterPush
        (readsAnother.moments failsAfterPush (fun _ => 0) 30 false)).map Source.linesRead =
        [0, 0] ∧
      (readsAnother.failedLines failsAfterPush
        (readsAnother.moments failsAfterPush (fun _ => 0) 30 false)).map FailedLine.place =
          [("main", 1)] ∧
      scriptErrors (readsAnother.runAsked failsAfterPush (fun _ => 0) 30 false).events =
        [("x", 0)] :=
  ⟨by decide, by decide, by decide⟩

end Session

end CommandShell
