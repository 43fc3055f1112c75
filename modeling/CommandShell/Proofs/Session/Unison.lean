import CommandShell.Proofs.Session.Matching

/-!
# Runs on sources that match do the same

A run sees of its sources no more than their lines. Let two sessions start on sources that match,
and let their dispatchers push sources that match. Then the runs do the same, turn by turn, but that
one of them may fail to read where the other finds the end of a source (`Session.Matches.agrees`).

What carries this through the turns is that the two loops stay in **unison**: they are the same but
for the streams of their sources and for the consoles, and those sources that may still be read
match. A source that gave no line is left before anything else is read of it, so that it is not one
of these (`wanted`).
-/

namespace CommandShell

open CommandShell.Log

variable {r : LineReader} {sameInput : Prop} {δ : Type}

/-! ## What is told of sources that are alike -/

section Alike

variable {s s' : Source} {ss ss' : List Source}

theorem told_releaseAll (h : List.Forall₂ Source.Alike ss ss') :
    told (Stack.releaseAll ss') = told (Stack.releaseAll ss) := by
  induction h with
  | nil => rfl
  | @cons s s' ss ss' hs _ ih =>
      have hone : told [.logged (.sourceReleased s'.name), .released s'] =
          told [.logged (.sourceReleased s.name), .released s] := by
        obtain ⟨stream, rfl⟩ := hs.exists_eq
        rfl
      show told ([_, _] ++ Stack.releaseAll ss') = told ([_, _] ++ Stack.releaseAll ss)
      rw [told_append, told_append, hone, ih]

theorem Stack.depth_alike {st st' : Stack} (h : List.Forall₂ Source.Alike st.sources st'.sources) :
    st'.depth = st.depth := by
  rw [st.depth_eq, st'.depth_eq, h.length_eq]

theorem isEmpty_alike (h : List.Forall₂ Source.Alike ss ss') : ss'.isEmpty = ss.isEmpty := by
  cases h <;> rfl

/-- Leaving the top sources tells the same, and leaves sources that are alike. -/
theorem Stack.pop_alike {st st' : Stack} (h : List.Forall₂ Source.Alike st.sources st'.sources) :
    told st'.pop.2.2 = told st.pop.2.2 ∧ st'.pop.2.1 = st.pop.2.1 ∧
      List.Forall₂ Source.Alike st.pop.1.sources st'.pop.1.sources := by
  obtain ⟨ss, depth, hdepth⟩ := st
  obtain ⟨ss', depth', hdepth'⟩ := st'
  dsimp only at h
  subst hdepth hdepth'
  cases h with
  | nil => exact ⟨rfl, rfl, .nil⟩
  | @cons s s' rest rest' hs hrest =>
      obtain ⟨stream, rfl⟩ := hs.exists_eq
      have hleft : told [.logged (.sourcePopped s.name s.linesRead rest'.length),
            .released { s with stream }] =
          told [.logged (.sourcePopped s.name s.linesRead rest.length), .released s] := by
        rw [hrest.length_eq]
        rfl
      cases hp : s.primordial with
      | true =>
          simp only [pop, current?, below, List.head?_cons, hp, if_true, List.length_cons,
            Nat.add_sub_cancel, List.tail_cons, told_append, told_releaseAll hrest]
          rw [hp] at hleft
          exact ⟨congrArg (· ++ _) hleft, trivial, .nil⟩
      | false =>
          simp only [pop, current?, below, isEmpty, List.head?_cons, hp, Bool.false_eq_true,
            if_false, List.length_cons, Nat.add_sub_cancel, List.tail_cons, isEmpty_alike hrest]
          rw [hp] at hleft
          exact ⟨hleft, trivial, hrest⟩

end Alike

namespace Loop

variable {l l' : Loop (Console × δ)} {es es' : List Event}

/-! ## Loops in unison -/

/-- **Paired** — the loops are the same but for the streams of their sources, and for standard input
if that is not the same. -/
structure Paired (sameInput : Prop) (l l' : Loop (Console × δ)) : Prop where
  same : l' = { l with stack := l'.stack, env := l'.env }
  sources : List.Forall₂ Source.Alike l.stack.sources l'.stack.sources
  dispatcher : l'.env.2 = l.env.2
  console : Console.Matches sameInput l.env.1 l'.env.1

theorem Paired.exists_eq (hp : Paired sameInput l l') :
    ∃ stack env, l' = { l with stack, env } :=
  ⟨_, _, hp.same⟩

/-- **Matches** — the loops are paired, and all the sources on their stacks match. -/
structure Matches (r : LineReader) (sameInput : Prop) (l l' : Loop (Console × δ)) : Prop extends
    Paired sameInput l l' where
  matched : Matched r sameInput Stream.SameLines l.env.1 l'.env.1 l.stack.sources l'.stack.sources

/-- The sources that may still be read. The top one is not if it is to be left. -/
def wanted (l : Loop (Console × δ)) : List Source :=
  if l.next = .unwind then l.stack.sources.tail else l.stack.sources

/-- **Unison** — the loops are paired, and the sources that may still be read match. -/
structure Unison (r : LineReader) (sameInput : Prop) (l l' : Loop (Console × δ)) : Prop extends
    Paired sameInput l l' where
  wanted : Matched r sameInput Stream.SameLines l.env.1 l'.env.1 l.wanted l'.wanted

theorem Unison.matches (hu : Unison r sameInput l l') (hn : l.next ≠ .unwind) :
    Matches r sameInput l l' := by
  have hnext : l'.next = l.next := by rw [hu.same]
  have hm := hu.wanted
  rw [Loop.wanted, Loop.wanted, hnext, if_neg hn, if_neg hn] at hm
  exact ⟨hu.toPaired, hm⟩

/-- Below the top, everything matches in any case. -/
theorem Unison.tail (hu : Unison r sameInput l l') :
    Matched r sameInput Stream.SameLines l.env.1 l'.env.1 l.stack.sources.tail
      l'.stack.sources.tail := by
  have hnext : l'.next = l.next := by rw [hu.same]
  have hm := hu.wanted
  rw [Loop.wanted, Loop.wanted, hnext] at hm
  split at hm
  · exact hm
  · exact hm.tail

/-! ## Going on and leaving -/

/-- Two turns agree: they tell the same and leave in the same way, and the loops are in unison if
the run goes on. -/
structure TurnsAgree (r : LineReader) (sameInput : Prop) (t t' : Turn (Console × δ)) : Prop where
  told : told t'.events = told t.events
  exit : t'.exit = t.exit
  paired : Paired sameInput t.loop t'.loop
  unison : t.exit = none → Unison r sameInput t.loop t'.loop

/-- Events that are told alike come after those so far. -/
theorem told_append_congr {fs fs' : List Event} (he : told es' = told es)
    (hf : told fs' = told fs) : told (es' ++ fs') = told (es ++ fs) := by
  rw [told_append, told_append, he, hf]

theorem Paired.withState (hp : Paired sameInput l l') (state : State) (next : Move) :
    Paired sameInput { l with state, next } { l' with state, next } := by
  obtain ⟨stack, env, rfl⟩ := hp.exists_eq
  exact ⟨rfl, hp.sources, hp.dispatcher, hp.console⟩

theorem leave_agree (hp : Paired sameInput l l') (he : told es' = told es) (e : Exit) :
    TurnsAgree r sameInput (l.leave es e) (l'.leave es' e) := by
  obtain ⟨stack, env, rfl⟩ := hp.exists_eq
  have hrelease : told ({ l with stack, env } : Loop (Console × δ)).release.2 =
      told l.release.2 := by
    rw [release_events, release_events, Stack.depth_alike hp.sources, Stack.isEmpty,
      isEmpty_alike hp.sources, Stack.isEmpty]
    split
    · rfl
    · show told ([_] ++ _) = told ([_] ++ _)
      exact told_append_congr rfl (told_releaseAll hp.sources)
  refine ⟨told_append_congr he hrelease, rfl, ?_, fun h => absurd h (Option.some_ne_none e)⟩
  rw [leave_loop, leave_loop]
  exact ⟨rfl, .nil, hp.dispatcher, hp.console⟩

/-- The run goes on, and all that is on the stacks matches. -/
theorem goOn_agree (hm : Matches r sameInput l l') (he : told es' = told es) (e : Signal) :
    TurnsAgree r sameInput (l.goOn es e) (l'.goOn es' e) := by
  have hstate : l'.state = l.state := by rw [hm.same]
  have hpaired : Paired sameInput (l.goOn es e).loop (l'.goOn es' e).loop := by
    rw [goOn_loop, goOn_loop, hstate]
    exact hm.withState ..
  refine ⟨?_, rfl, hpaired, fun _ => ⟨hpaired, ?_⟩⟩
  · rw [goOn_events, goOn_events, hstate]
    exact told_append_congr he rfl
  · rw [wanted, wanted, goOn_loop, goOn_loop, hstate]
    dsimp only
    split
    · exact hm.matched.tail
    · exact hm.matched

/-- The sources that gave no line are left, and those below them match. -/
theorem goOn_noLine_agree (hp : Paired sameInput l l')
    (hm : Matched r sameInput Stream.SameLines l.env.1 l'.env.1 l.stack.sources.tail
      l'.stack.sources.tail)
    (he : told es' = told es) :
    TurnsAgree r sameInput (l.goOn es .noLine) (l'.goOn es' .noLine) := by
  have hstate : l'.state = l.state := by rw [hp.same]
  have hunwind : (l.state.respond .noLine).2 = .unwind := by cases l.state <;> rfl
  have hpaired : Paired sameInput (l.goOn es .noLine).loop (l'.goOn es' .noLine).loop := by
    rw [goOn_loop, goOn_loop, hstate]
    exact hp.withState ..
  refine ⟨?_, rfl, hpaired, fun _ => ⟨hpaired, ?_⟩⟩
  · rw [goOn_events, goOn_events, hstate]
    exact told_append_congr he rfl
  · rw [wanted, wanted, goOn_loop, goOn_loop, hstate, if_pos hunwind, if_pos hunwind]
    exact hm

/-! ## What collaborators do -/

/-- Requests to cancel do the same to both loops. -/
theorem askCancel_agree (hp : Paired sameInput l l') (n : Nat) :
    Paired sameInput (l.askCancel n).1 (l'.askCancel n).1 ∧
      (l'.askCancel n).2 = (l.askCancel n).2 := by
  obtain ⟨stack, env, rfl⟩ := hp.exists_eq
  refine ⟨?_, by unfold askCancel; split <;> rfl⟩
  rw [askCancel_loop, askCancel_loop]
  exact ⟨rfl, hp.sources, hp.dispatcher, hp.console⟩

theorem Unison.askCancel (hu : Unison r sameInput l l') (n : Nat) :
    Unison r sameInput (l.askCancel n).1 (l'.askCancel n).1 := by
  refine ⟨(askCancel_agree hu.toPaired n).1, ?_⟩
  rw [askCancel_loop, askCancel_loop]
  exact hu.wanted

variable {tty : Bool} {d d' : Dispatcher δ} {s : Source} {rest : List Source}

/-- What is read of two sources agrees, and so do the loops afterwards. -/
structure ReadsAgree (r : LineReader) (sameInput : Prop) (h h' : Host (Console × δ))
    (l l' : Loop (Console × δ)) (s s' : Source) : Prop where
  alike : s.Alike s'
  result : LineResult.Agree (h.read l.env s).result (h'.read l'.env s').result
  events : (l'.received h' s').2 = (l.received h s).2
  paired : Paired sameInput (l.received h s).1 (l'.received h' s').1
  below : Matched r sameInput Stream.SameLines (l.received h s).1.env.1 (l'.received h' s').1.env.1
    (l.received h s).1.stack.sources.tail (l'.received h' s').1.stack.sources.tail
  again : ∀ text, (h.read l.env s).result = .ok (.line text) →
    Matches r sameInput (l.received h s).1 (l'.received h' s').1

theorem Matches.received (tty : Bool) (d d' : Dispatcher δ) (hm : Matches r sameInput l l')
    (hs : l.stack.sources = s :: rest) :
    ∃ s' rest', l'.stack.sources = s' :: rest' ∧
      ReadsAgree r sameInput (r.beside tty d) (r.beside tty d') l l' s s' := by
  have hmatched := hm.matched
  have halike := hm.sources
  rw [hs] at hmatched halike
  obtain ⟨s', rest', hone, hrest, hs'⟩ := List.forall₂_cons_left_iff.mp halike
  rw [hs'] at hmatched
  have hread := hmatched.read hm.console
  have hsources := received_sources (r.beside tty d) hs
  have hsources' := received_sources (r.beside tty d') hs'
  rw [(r.beside_consumes tty d).source_eq] at hsources
  rw [(r.beside_consumes tty d').source_eq] at hsources'
  -- The loops are paired before the requests to cancel are taken.
  have hbefore : Paired sameInput
      { l with
        stack := l.stack.mapCurrent fun _ => (r.read l.env.1 s).source
        env := ((r.read l.env.1 s).env, l.env.2) }
      { l' with
        stack := l'.stack.mapCurrent fun _ => (r.read l'.env.1 s').source
        env := ((r.read l'.env.1 s').env, l'.env.2) } := by
    obtain ⟨stack, env, rfl⟩ := hm.exists_eq
    refine ⟨rfl, ?_, hm.dispatcher, hread.console⟩
    rw [Stack.sources_mapCurrent, Stack.sources_mapCurrent, hs, hs', List.modifyHead_cons,
      List.modifyHead_cons]
    refine .cons ?_ hrest
    rw [r.read_source, r.read_source, show s' = { s with stream := s'.stream } from hone]
    rfl
  obtain ⟨hasked, hevents⟩ := askCancel_agree hbefore (r.read l.env.1 s).cancels
  have hpaired : Paired sameInput (l.received (r.beside tty d) s).1
      (l'.received (r.beside tty d') s').1 := by
    show Paired sameInput _ (Loop.askCancel _ (r.read l'.env.1 s').cancels).1
    rw [hread.cancels]
    exact hasked
  refine ⟨s', rest', hs', hone, hread.result, ?_, hpaired, ?_, fun text hr => ⟨hpaired, ?_⟩⟩
  · show (r.read l'.env.1 s').notes.map Event.noted ++
      (Loop.askCancel _ (r.read l'.env.1 s').cancels).2 = _
    rw [hread.cancels, hread.notes]
    exact congrArg (_ ++ ·) hevents
  · rw [hsources, hsources', received_loop, received_loop]
    exact hread.below
  · rw [hsources, hsources', received_loop, received_loop]
    exact hread.again text hr

/-- Counting the line keeps the stacks matching. -/
theorem Matches.countLine (hm : Matches r sameInput l l') (line : String) :
    Matches r sameInput { l with stack := l.stack.mapCurrent Source.countLine, line }
      { l' with stack := l'.stack.mapCurrent Source.countLine, line } := by
  have hmatched : Matched r sameInput Stream.SameLines l.env.1 l'.env.1
      (l.stack.mapCurrent Source.countLine).sources
      (l'.stack.mapCurrent Source.countLine).sources := by
    have hmatched := hm.matched
    rw [Stack.sources_mapCurrent, Stack.sources_mapCurrent]
    cases hs : l.stack.sources with
    | nil =>
        have halike := hm.sources
        rw [hs] at halike hmatched
        rw [List.forall₂_nil_left_iff.mp halike]
        exact .none
    | cons s rest =>
        have halike := hm.sources
        rw [hs] at halike hmatched
        obtain ⟨s', rest', -, -, hs'⟩ := List.forall₂_cons_left_iff.mp halike
        rw [hs'] at hmatched ⊢
        exact hmatched.countLine
  obtain ⟨stack, env, rfl⟩ := hm.exists_eq
  exact ⟨⟨rfl, hmatched.alike, hm.dispatcher, hm.console⟩, hmatched⟩

/-- Requests that match do the same. -/
theorem Matches.carryOut {q q' : Request} (hm : Matches r sameInput l l')
    (hq : Request.Matches r sameInput Stream.SameLines q q') :
    Matches r sameInput (l.carryOut q).1 (l'.carryOut q').1 ∧
      (l'.carryOut q').2 = (l.carryOut q).2 := by
  cases hq with
  | @push s s' hs =>
      have hmatched : Matched r sameInput Stream.SameLines l.env.1 l'.env.1
          (l.stack.push s false).1.sources (l'.stack.push s' false).1.sources :=
        .next (hs.primordial false) hm.matched
      have hdepth := Stack.depth_alike hm.sources
      obtain ⟨stack, env, rfl⟩ := hm.exists_eq
      refine ⟨⟨⟨rfl, hmatched.alike, hm.dispatcher, hm.console⟩, hmatched⟩, ?_⟩
      show [Event.logged (.sourcePushed s'.name false s'.interactive (stack.depth + 1))] =
        [.logged (.sourcePushed s.name false s.interactive (l.stack.depth + 1))]
      rw [show stack.depth = l.stack.depth from hdepth, hs.alike.name_eq,
        hs.alike.interactive_eq]
  | close =>
      obtain ⟨stack, env, rfl⟩ := hm.exists_eq
      exact ⟨⟨⟨rfl, hm.sources, hm.dispatcher, hm.console⟩, hm.matched⟩, rfl⟩
  | cancel =>
      obtain ⟨hp, hevents⟩ := askCancel_agree hm.toPaired 1
      refine ⟨⟨hp, ?_⟩, hevents⟩
      show Matched r sameInput _ (l.askCancel 1).1.env.1 (l'.askCancel 1).1.env.1
        (l.askCancel 1).1.stack.sources (l'.askCancel 1).1.stack.sources
      rw [askCancel_loop, askCancel_loop]
      exact hm.matched
  | note n => exact ⟨hm, rfl⟩

theorem Matches.carryOutAll {qs qs' : List Request} (hm : Matches r sameInput l l')
    (hqs : List.Forall₂ (Request.Matches r sameInput Stream.SameLines) qs qs') :
    Matches r sameInput (l.carryOutAll qs).1 (l'.carryOutAll qs').1 ∧
      (l'.carryOutAll qs').2 = (l.carryOutAll qs).2 := by
  induction hqs generalizing l l' with
  | nil => exact ⟨hm, rfl⟩
  | cons hq _ ih =>
      obtain ⟨hone, hevents⟩ := hm.carryOut hq
      obtain ⟨hall, hmore⟩ := ih hone
      refine ⟨hall, ?_⟩
      unfold Loop.carryOutAll
      dsimp only
      rw [hevents, hmore]

/-- What dispatchers that match do with a line. -/
theorem Matches.carried (tty : Bool) (hm : Matches r sameInput l l')
    (hd : Dispatcher.Matches r sameInput Stream.SameLines d d') :
    (l'.reaction (r.beside tty d')).result = (l.reaction (r.beside tty d)).result ∧
      Matches r sameInput (l.carried (r.beside tty d)).1 (l'.carried (r.beside tty d')).1 ∧
      (l'.carried (r.beside tty d')).2 = (l.carried (r.beside tty d)).2 := by
  have hreaction : Reaction.Matches r sameInput Stream.SameLines l.env.1 l'.env.1
      (l.reaction (r.beside tty d)) (l'.reaction (r.beside tty d')) := by
    have hone := hd l.env.1 l'.env.1 l.env.2 l.line l.stack.depth hm.console
    have hline : l'.line = l.line := by rw [hm.same]
    have henv : l'.env = (l'.env.1, l.env.2) := by rw [← hm.dispatcher]
    unfold reaction
    rw [hline, Stack.depth_alike hm.sources, henv]
    exact hone
  have hmatched := hm.matched.atConsoles hreaction.kept
  have hbefore : Matches r sameInput { l with env := (l.reaction (r.beside tty d)).env }
      { l' with env := (l'.reaction (r.beside tty d')).env } := by
    obtain ⟨stack, env, rfl⟩ := hm.exists_eq
    exact ⟨⟨rfl, hm.sources, hreaction.dispatcher, hreaction.console⟩, hmatched⟩
  exact ⟨hreaction.result, hbefore.carryOutAll hreaction.requests⟩

/-- The records of a verdict name the sources, and not their streams. -/
theorem records_agree (hp : Paired sameInput l l') (v : Verdict) : v.records l' = v.records l := by
  cases v with
  | ok => rfl
  | scriptError =>
      have halike := hp.sources
      unfold Verdict.records scriptErrorRecord Stack.current?
      dsimp only
      cases hs : l.stack.sources with
      | nil =>
          rw [hs] at halike
          rw [List.forall₂_nil_left_iff.mp halike]
      | cons s rest =>
          obtain ⟨s', rest', hone, -, hs'⟩ := List.forall₂_cons_left_iff.mp (hs ▸ halike)
          rw [hs', List.head?_cons, List.head?_cons]
          dsimp only
          rw [hone.name_eq, hone.linesRead_eq]
  | fatal =>
      rw [hp.same]
      rfl

theorem Matches.judged (hm : Matches r sameInput l l') (v : Verdict) :
    Matches r sameInput (l.judged v) (l'.judged v) := by
  obtain ⟨stack, env, rfl⟩ := hm.exists_eq
  cases v with
  | ok => exact hm
  | scriptError => exact hm
  | fatal => exact ⟨⟨rfl, hm.sources, hm.dispatcher, hm.console⟩, hm.matched⟩

/-- Leaving the sources that are to be left. -/
theorem Unison.unwind (hu : Unison r sameInput l l') :
    TurnsAgree r sameInput l.unwind l'.unwind := by
  obtain ⟨htold, hremaining, hsources⟩ := Stack.pop_alike hu.sources
  have hbelow : Matched r sameInput Stream.SameLines l.env.1 l'.env.1 l.stack.pop.1.sources
      l'.stack.pop.1.sources := by
    have htail := hu.tail
    cases hs : l.stack.sources with
    | nil =>
        have halike := hu.sources
        rw [hs] at halike
        have hs' := List.forall₂_nil_left_iff.mp halike
        rw [(Stack.pop_of_nil hs).1, (Stack.pop_of_nil hs').1]
        exact .none
    | cons s rest =>
        have halike := hu.sources
        rw [hs] at halike htail
        obtain ⟨s', rest', hone, -, hs'⟩ := List.forall₂_cons_left_iff.mp halike
        rw [hs'] at htail
        rw [(Stack.pop_of_cons hs).1, (Stack.pop_of_cons hs').1, hone.primordial_eq]
        split
        · exact .none
        · exact htail
  have hpopped : Matches r sameInput { l with stack := l.stack.pop.1 }
      { l' with stack := l'.stack.pop.1 } := by
    obtain ⟨stack, env, rfl⟩ := hu.exists_eq
    exact ⟨⟨rfl, hsources, hu.dispatcher, hu.console⟩, hbelow⟩
  unfold Loop.unwind
  dsimp only
  rw [hremaining]
  exact goOn_agree hpopped htold _

/-! ## Turns -/

theorem finish_agree (hp : Paired sameInput l l') : TurnsAgree r sameInput l.finish l'.finish := by
  have hsame : l'.outcome = l.outcome ∧ l'.session = l.session := by
    rw [hp.same]
    exact ⟨rfl, rfl⟩
  unfold finish
  rw [hsame.1, hsame.2]
  exact leave_agree hp rfl _

/-- A source without a line is to be left, whether it is at its end or cannot be read. -/
theorem step_noLine {ε : Type} {h : Host ε} {l : Loop ε} {found : LineResult}
    (hn : l.next = .read) (hs : l.stack.sources = s :: rest)
    (hr : (h.read l.env s).result = .ok found) (hf : found.line? = none) :
    ∃ es, l.step h = (l.received h s).1.goOn ((l.received h s).2 ++ es) .noLine ∧
      told es = [.lineRead s.name s.linesRead none] := by
  cases found with
  | line text => cases hf
  | endOfInput =>
      have w : Way h l _ := .ends hn hs hr
      exact ⟨_, w.step_eq, rfl⟩
  | failed reason =>
      have w : Way h l _ := .fails hn hs hr
      exact ⟨_, w.step_eq, rfl⟩

/-- Reading the top sources. -/
theorem Unison.step_read (hu : Unison r sameInput l l') (hn : l.next = .read)
    (hs : l.stack.sources = s :: rest) :
    TurnsAgree r sameInput (l.step (r.beside tty d)) (l'.step (r.beside tty d')) := by
  have hn' : l'.next = .read := by rw [hu.same, hn]
  obtain ⟨s', rest', hs', hread⟩ :=
    (hu.matches (by rw [hn]; decide)).received tty d d' hs
  have hagree := hread.result
  generalize hr : ((r.beside tty d).read l.env s).result = found at hagree
  generalize hr' : ((r.beside tty d').read l'.env s').result = found' at hagree
  cases hagree with
  | panicked p =>
      have w : Way (r.beside tty d) l _ := .readPanics hn hs hr
      have w' : Way (r.beside tty d') l' _ := .readPanics hn' hs' hr'
      rw [w.step_eq, w'.step_eq, hread.events]
      exact leave_agree hread.paired rfl _
  | line text =>
      have w : Way (r.beside tty d) l _ := .reads hn hs hr
      have w' : Way (r.beside tty d') l' _ := .reads hn' hs' hr'
      rw [w.step_eq, w'.step_eq, hread.events, hread.alike.name_eq, hread.alike.linesRead_eq]
      exact goOn_agree ((hread.again text hr).countLine text) rfl _
  | noLine hf hf' =>
      obtain ⟨es, hstep, htold⟩ := step_noLine hn hs hr hf
      obtain ⟨es', hstep', htold'⟩ := step_noLine hn' hs' hr' hf'
      rw [hread.alike.name_eq, hread.alike.linesRead_eq] at htold'
      rw [hstep, hstep', hread.events]
      exact goOn_noLine_agree hread.paired hread.below
        (told_append_congr rfl (htold'.trans htold.symm))

/-- **Loops in unison take turns that agree.** -/
theorem Unison.step (tty : Bool) (hu : Unison r sameInput l l')
    (hd : Dispatcher.Matches r sameInput Stream.SameLines d d') :
    TurnsAgree r sameInput (l.step (r.beside tty d)) (l'.step (r.beside tty d')) := by
  have hnext : l'.next = l.next := by rw [hu.same]
  have hcancelled : l'.cancelled = l.cancelled := by rw [hu.same]
  have w := way_step (r.beside tty d) l
  generalize hturn : l.step (r.beside tty d) = turn at w
  cases w with
  | honours hn hc =>
      have w' : Way (r.beside tty d') l' _ := .honours (hnext.trans hn) (hcancelled.trans hc)
      rw [w'.step_eq, show l'.session = l.session by rw [hu.same]]
      exact leave_agree hu.toPaired rfl _
  | lacksSource hn hc hs =>
      have hs' := List.forall₂_nil_left_iff.mp (hs ▸ hu.sources)
      have w' : Way (r.beside tty d') l' _ :=
        .lacksSource (hnext.trans hn) (hcancelled.trans hc) hs'
      rw [w'.step_eq]
      exact finish_agree hu.toPaired
  | askPanics hn hc hs hi => cases hi
  | begins hn hc hs hi =>
      obtain ⟨s', rest', hone, -, hs'⟩ := List.forall₂_cons_left_iff.mp (hs ▸ hu.sources)
      cases hi
      have w' : Way (r.beside tty d') l' _ :=
        .begins (hnext.trans hn) (hcancelled.trans hc) hs' rfl
      rw [w'.step_eq, hone.name_eq, hone.interactive_eq]
      exact goOn_agree (hu.matches (by rw [hn]; decide)) rfl _
  | lacksInput hn hs =>
      have hs' := List.forall₂_nil_left_iff.mp (hs ▸ hu.sources)
      have w' : Way (r.beside tty d') l' _ := .lacksInput (hnext.trans hn) hs'
      rw [w'.step_eq]
      exact finish_agree hu.toPaired
  | readPanics hn hs =>
      rw [← hturn]
      exact hu.step_read hn hs
  | reads hn hs =>
      rw [← hturn]
      exact hu.step_read hn hs
  | ends hn hs =>
      rw [← hturn]
      exact hu.step_read hn hs
  | fails hn hs =>
      rw [← hturn]
      exact hu.step_read hn hs
  | dispatchPanics hn hr =>
      obtain ⟨hresult, hcarried, hevents⟩ :=
        (hu.matches (by rw [hn]; decide)).carried tty hd
      have w' : Way (r.beside tty d') l' _ :=
        .dispatchPanics (hnext.trans hn) (hresult.trans hr)
      rw [w'.step_eq, hevents]
      exact leave_agree hcarried.toPaired rfl _
  | @dispatches v hn hr =>
      obtain ⟨hresult, hcarried, hevents⟩ :=
        (hu.matches (by rw [hn]; decide)).carried tty hd
      have w' : Way (r.beside tty d') l' _ := .dispatches (hnext.trans hn) (hresult.trans hr)
      rw [w'.step_eq, hevents, show l'.line = l.line by rw [hu.same],
        Stack.depth_alike hcarried.sources, records_agree hcarried.toPaired v]
      exact goOn_agree (hcarried.judged v) rfl _
  | leaves hn =>
      have w' : Way (r.beside tty d') l' _ := .leaves (hnext.trans hn)
      rw [w'.step_eq]
      exact hu.unwind
  | stops hn =>
      have w' : Way (r.beside tty d') l' _ := .stops (hnext.trans hn)
      rw [w'.step_eq]
      exact finish_agree hu.toPaired

/-! ## Runs -/

/-- **Loops in unison do the same for ever.** -/
theorem Unison.followAsked (tty : Bool) (hu : Unison r sameInput l l')
    (hd : Dispatcher.Matches r sameInput Stream.SameLines d d') (asks : Nat → Nat) (n : Nat) :
    told (followAsked (r.beside tty d') asks n l').events =
        told (followAsked (r.beside tty d) asks n l).events ∧
      (followAsked (r.beside tty d') asks n l').exit =
        (followAsked (r.beside tty d) asks n l).exit ∧
      Paired sameInput (followAsked (r.beside tty d) asks n l).loop
        (followAsked (r.beside tty d') asks n l').loop := by
  induction n generalizing asks l l' with
  | zero => exact ⟨rfl, rfl, hu.toPaired⟩
  | succ n ih =>
      have hasked := (askCancel_agree hu.toPaired (asks 0)).2
      have hstep := (hu.askCancel (asks 0)).step tty hd
      unfold Loop.followAsked
      dsimp only
      rw [hstep.exit, hasked]
      cases hexit : ((l.askCancel (asks 0)).1.step (r.beside tty d)).exit with
      | some e => exact ⟨told_append_congr rfl hstep.told, rfl, hstep.paired⟩
      | none =>
          obtain ⟨htold, hlast, hpaired⟩ := ih (hstep.unison hexit) fun i => asks (i + 1)
          exact ⟨told_append_congr (told_append_congr rfl hstep.told) htold, hlast, hpaired⟩

end Loop

/-- **Runs on sources that match do the same.** -/
theorem Session.Matches.agrees {R : Stream → Stream → Prop} {tty : Bool} {d d' : Dispatcher δ}
    {s s' : Session (Console × δ)} (hs : Session.Matches r sameInput R tty s s')
    (hd : Dispatcher.Matches r sameInput R d d') (hR : ∀ t t', R t t' → t.SameLines t')
    (asks : Nat → Nat) (n : Nat) (cancellable : Bool) :
    Run.Agrees sameInput (s.runAsked (r.beside tty d) asks n cancellable)
      (s'.runAsked (r.beside tty d') asks n cancellable) := by
  have hs := hs.mono hR
  by_cases hopen : s.state = .closing
  · rw [runAsked_of_closing _ _ _ _ hopen, runAsked_of_closing _ _ _ _ (hs.state.trans hopen),
      hs.number]
    refine ⟨rfl, rfl, hs.number, hs.state, ?_, hs.dispatcher, hs.console⟩
    rw [hs.stack.1, hs.stack.2]
    exact .nil
  · have hopen' : s'.state ≠ .closing := hs.state ▸ hopen
    have hu : Loop.Unison r sameInput (s.enter (r.beside tty d) cancellable).1
        (s'.enter (r.beside tty d') cancellable).1 := by
      have hmatched : Matched r sameInput Stream.SameLines s.env.1 s'.env.1
          (s.stack.push (s.firstSource (r.beside tty d)) true).1.sources
          (s'.stack.push (s'.firstSource (r.beside tty d')) true).1.sources := by
        rw [Stack.sources_push, Stack.sources_push, hs.stack.1, hs.stack.2]
        exact hs.first.primordial true
      have hpaired : Loop.Paired sameInput (s.enter (r.beside tty d) cancellable).1
          (s'.enter (r.beside tty d') cancellable).1 := by
        refine ⟨?_, hmatched.alike, hs.dispatcher, hs.console⟩
        unfold enter
        rw [hs.number, hs.state]
      exact ⟨hpaired, hmatched⟩
    have henter : (s'.enter (r.beside tty d') cancellable).2 =
        (s.enter (r.beside tty d) cancellable).2 := by
      obtain ⟨hfirst, -⟩ := List.forall₂_cons.mp hs.first.alike
      unfold enter Stack.push firstSource
      dsimp only [LineReader.beside]
      rw [hs.state, hs.stack.1, hs.stack.2, hfirst.name_eq, hfirst.interactive_eq]
    obtain ⟨htold, hexit, hpaired⟩ := hu.followAsked tty (hd.mono hR) asks n
    rw [runAsked_of_open _ _ _ _ hopen, runAsked_of_open _ _ _ _ hopen']
    refine ⟨?_, hexit, ?_, ?_, hpaired.sources, hpaired.dispatcher, hpaired.console⟩
    · rw [henter]
      exact Loop.told_append_congr rfl htold
    · show Loop.session _ = Loop.session _
      rw [hpaired.same]
    · show Loop.state _ = Loop.state _
      rw [hpaired.same]

end CommandShell
