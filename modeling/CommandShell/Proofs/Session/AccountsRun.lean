import CommandShell.Proofs.Session.Accounts

/-!
# The accounts of a whole run

`runAsked_accounts` says of every moment of a run that the books are balanced, and of a run that
ended with an outcome that as many lines were read of all its sources together as were dispatched.

The first part carries the books (`Books.Keeps`) through the turns. The second one does not need
them. It is enough to add up the counts of the sources that were released and of those that are
still on the stack: a read adds one and leaves a line waiting, a dispatch takes it away, and
whatever leaves the stack is released (`Tallied.step`).
-/

namespace CommandShell

open CommandShell.Log

variable {ε : Type}

/-! ## Totals -/

/-- How many lines were read of the sources. -/
def totalRead (ss : List Source) : Nat := (ss.map Source.linesRead).sum

@[simp] theorem totalRead_nil : totalRead [] = 0 := rfl

@[simp] theorem totalRead_cons (s : Source) (ss : List Source) :
    totalRead (s :: ss) = s.linesRead + totalRead ss := rfl

@[simp] theorem totalRead_append (ss ss' : List Source) :
    totalRead (ss ++ ss') = totalRead ss + totalRead ss' := by
  simp [totalRead]

theorem totalRead_reverse (ss : List Source) : totalRead ss.reverse = totalRead ss := by
  rw [totalRead, List.map_reverse, List.sum_reverse]
  rfl

/-- Nothing was read of fresh sources. -/
theorem totalRead_fresh {ss : List Source} (h : ∀ s ∈ ss, s.linesRead = 0) : totalRead ss = 0 := by
  induction ss with
  | nil => rfl
  | cons s ss ih =>
      rw [totalRead_cons, h s (List.mem_cons_self ..),
        ih fun s' hs' => h s' (List.mem_cons_of_mem s hs')]

namespace Loop

/-- **Tallied** — every line that was read was dispatched or waits to be. -/
def Tallied (past : List Event) (l : Loop ε) : Prop :=
  totalRead (releases past) + totalRead l.stack.sources = dispatches past + l.waiting.length

variable {h : Host ε} {l : Loop ε} {first : Source} {past : List Event}

/-- A line waits only where it is to be dispatched. -/
theorem waiting_eq_nil (hn : l.next ≠ .dispatch) : l.waiting = [] := if_neg hn

theorem Tallied.askCancel (n : Nat) (ht : l.Tallied past) :
    (l.askCancel n).1.Tallied (past ++ (l.askCancel n).2) := by
  have hnone : dispatches (l.askCancel n).2 = 0 := by rw [← dispatches_acts, acts_askCancel]; rfl
  rw [Tallied, releases_append, releases_askCancel, List.append_nil, dispatches_append, hnone,
    askCancel_loop]
  exact ht

/-- Events that balance what happens to the stack and to the line that waits. -/
theorem Tallied.append {es : List Event} {l' : Loop ε} (ht : l.Tallied past)
    (hes : totalRead (releases es) + totalRead l'.stack.sources + l.waiting.length =
      totalRead l.stack.sources + dispatches es + l'.waiting.length) :
    l'.Tallied (past ++ es) := by
  rw [Tallied] at ht ⊢
  rw [releases_append, totalRead_append, dispatches_append]
  omega

/-- A run that ends where no line waits releases what is on the stack. -/
theorem Tallied.leave {e : Exit} (ht : l.Tallied past) (hn : l.next ≠ .dispatch) (record : Record) :
    (l.leave [.logged record] e).loop.Tallied (past ++ (l.leave [.logged record] e).events) := by
  refine ht.append ?_
  have hd : dispatches (l.leave [.logged record] e).events = 0 := by
    rw [leave_events, dispatches_append, ← dispatches_acts l.release.2, acts_release]
    rfl
  rw [hd, waiting_eq_nil hn, waiting_eq_nil (by rw [leave_loop]; exact hn), leave_events,
    releases_append, releases_release, leave_loop]
  rfl

/-- A turn that goes on without a line, where none waited. -/
theorem Tallied.goOn {l' : Loop ε} {es : List Event} {e : Signal} (ht : l.Tallied past)
    (hn : l.next ≠ .dispatch) (he : e ≠ .gotLine) (hd : dispatches es = 0)
    (hr : totalRead (releases es) + totalRead l'.stack.sources = totalRead l.stack.sources) :
    (l'.goOn es e).loop.Tallied (past ++ (l'.goOn es e).events) := by
  refine ht.append ?_
  have hd' : dispatches (l'.goOn es e).events = 0 := by
    rw [goOn_events, dispatches_append, hd, ← dispatches_acts, acts_transition]
    rfl
  rw [hd', waiting_eq_nil hn, waiting_eq_nil fun hn' => he (respond_dispatch hn'), goOn_events,
    releases_append, releases_transition, List.append_nil]
  exact congrArg (· + 0) hr

/-- A read by itself counts no line. -/
theorem totalRead_received (hc : h.Consumes) {s : Source} {rest : List Source}
    (hs : l.stack.sources = s :: rest) :
    totalRead (l.received h s).1.stack.sources = totalRead l.stack.sources := by
  rw [received_sources h hs, hc.source_eq, hs]
  rfl

/-- A read dispatches nothing. -/
theorem dispatches_received (s : Source) : dispatches (l.received h s).2 = 0 := by
  rw [← dispatches_acts, acts_received]
  rfl

/-- What leaves the stack is released. -/
theorem totalRead_pop (s : Stack) :
    totalRead (releases s.pop.2.2) + totalRead s.pop.1.sources = totalRead s.sources := by
  obtain ⟨k, hreleased, hleft⟩ := s.pop_spec
  rw [hreleased, hleft, ← totalRead_append, List.take_append_drop]

/-- Leaving a source dispatches nothing. -/
theorem dispatches_pop (s : Stack) : dispatches s.pop.2.2 = 0 := by
  rw [← dispatches_acts, acts_pop]
  cases s.current? <;> rfl

/-- A line is read, and waits since the session is ready. -/
theorem Tallied.line_read (hc : h.Consumes) (ht : l.Tallied past) (hn : l.next = .read)
    (hready : l.state = .ready) {s : Source} {rest : List Source}
    (hs : l.stack.sources = s :: rest) (text : String) :
    let turn := Loop.goOn { (l.received h s).1 with
        stack := (l.received h s).1.stack.mapCurrent Source.countLine, line := text }
      ((l.received h s).2 ++ [.lineRead s.name s.linesRead (some text)]) .gotLine
    turn.loop.Tallied (past ++ turn.events) := by
  intro turn
  have hsources : turn.loop.stack.sources =
      { s with stream := (h.read l.env s).stream, linesRead := s.linesRead + 1 } :: rest := by
    show (Stack.mapCurrent _ _).sources = _
    rw [Stack.sources_mapCurrent, received_sources h hs, hc.source_eq]
    rfl
  have hwaiting : turn.loop.waiting = [text] :=
    if_pos (by simp [turn, received_loop, hready, State.respond])
  have hreleases : releases turn.events = [] := by
    rw [goOn_events, releases_append, releases_append, releases_received, releases_transition]
    rfl
  have hdispatches : dispatches turn.events = 0 := by
    rw [← dispatches_acts, goOn_events, acts_append, acts_append, acts_received, acts_transition]
    rfl
  refine ht.append ?_
  rw [hsources, hwaiting, hreleases, hdispatches, hs, waiting_eq_nil (by simp [hn]), totalRead_cons,
    totalRead_cons, totalRead_nil, List.length_nil, List.length_singleton]
  dsimp only
  omega

/-- There is no line to read. -/
theorem Tallied.line_missing (hc : h.Consumes) (ht : l.Tallied past) (hn : l.next = .read)
    {s : Source} {rest : List Source} (hs : l.stack.sources = s :: rest) {es : List Event}
    (hd : dispatches es = 0) (hr : releases es = []) :
    let turn := (l.received h s).1.goOn ((l.received h s).2 ++ es) .noLine
    turn.loop.Tallied (past ++ turn.events) := by
  refine ht.goOn (by simp [hn]) Signal.noConfusion ?_ ?_
  · rw [dispatches_append, dispatches_received, hd]
  · rw [totalRead_received hc hs, releases_append, releases_received, hr]
    exact Nat.zero_add _

/-- The line that waits is dispatched, and the sources that it pushes are fresh. -/
theorem Tallied.line_dispatched (ht : l.Tallied past) (hn : l.next = .dispatch)
    (hfresh : totalRead (l.pushed h) = 0) (v : Verdict) :
    let turn := ((l.carried h).1.judged v).goOn ((l.carried h).2 ++
      .dispatched l.line v (l.carried h).1.stack.depth :: v.records (l.carried h).1) v.signal
    turn.loop.Tallied (past ++ turn.events) := by
  intro turn
  have hsources : totalRead turn.loop.stack.sources = totalRead l.stack.sources := by
    rw [Loop.pushed, if_pos hn] at hfresh
    show totalRead ((l.carried h).1.judged v).stack.sources = _
    rw [judged_stack, carried_loop, Stack.sources_pushAll, totalRead_append, totalRead_reverse,
      hfresh, Nat.zero_add]
  have hwaiting : turn.loop.waiting = [] :=
    waiting_eq_nil fun hn' => by cases v <;> cases respond_dispatch hn'
  have hreleases : releases turn.events = [] := by
    rw [goOn_events, releases_append, releases_append, releases_carried, releases_transition]
    exact congrArg (· ++ []) (releases_records _ v)
  have hdispatches : dispatches turn.events = 1 := by
    rw [← dispatches_acts, goOn_events, acts_append, acts_append, acts_carried, acts_cons,
      acts_records, acts_transition]
    rfl
  refine ht.append ?_
  rw [hsources, hwaiting, hreleases, hdispatches, Loop.waiting, if_pos hn, totalRead_nil,
    List.length_nil, List.length_singleton, Nat.zero_add, Nat.add_zero]

/-- **Tallied.step** — every turn that no panic breaks off keeps the tally, if the sources that it
pushes are fresh. -/
theorem Tallied.step (hc : h.Consumes) (ht : l.Tallied past) (hl : l.Steady)
    (hfresh : totalRead (l.pushed h) = 0) (he : ∀ p, (l.step h).exit ≠ some (.panicked p)) :
    (l.step h).loop.Tallied (past ++ (l.step h).events) := by
  have w := way_step h l
  generalize l.step h = t at he w
  cases w with
  | honours hn => exact ht.leave (by simp [hn]) _
  | lacksSource hn => exact ht.leave (by simp [hn]) _
  | @askPanics s rest p => exact absurd rfl (he p)
  | begins hn => exact ht.goOn (by simp [hn]) Signal.noConfusion rfl (Nat.zero_add _)
  | lacksInput hn => exact ht.leave (by simp [hn]) _
  | @readPanics s rest p => exact absurd rfl (he p)
  | @reads s rest text hn hs => exact ht.line_read hc hn (hl.lines (.inl hn)) hs text
  | ends hn hs => exact ht.line_missing hc hn hs rfl rfl
  | fails hn hs => exact ht.line_missing hc hn hs rfl rfl
  | @dispatchPanics p => exact absurd rfl (he p)
  | @dispatches v hn => exact ht.line_dispatched hn hfresh v
  | leaves hn =>
      exact ht.goOn (by simp [hn]) Signal.noConfusion (dispatches_pop l.stack)
        (totalRead_pop l.stack)
  | stops hn => exact ht.leave (by simp [hn]) _

/-- A run that ends with an outcome leaves no source and no line behind. -/
theorem nothing_left {o : Outcome} (he : (l.step h).exit = some (.outcome o)) :
    (l.step h).loop.stack = .empty ∧ (l.step h).loop.waiting = [] := by
  have w := way_step h l
  generalize l.step h = t at he w
  cases w with
  | honours hn => exact ⟨by simp, waiting_eq_nil (by simp [hn])⟩
  | lacksSource hn => exact ⟨by simp [finish], waiting_eq_nil (by simp [finish, hn])⟩
  | askPanics => cases he
  | begins => cases he
  | lacksInput hn => exact ⟨by simp [finish], waiting_eq_nil (by simp [finish, hn])⟩
  | readPanics => cases he
  | reads => cases he
  | ends => cases he
  | fails => cases he
  | dispatchPanics => cases he
  | dispatches => cases he
  | leaves => cases he
  | stops hn => exact ⟨by simp [finish], waiting_eq_nil (by simp [finish, hn])⟩

end Loop

/-! ## Runs -/

/-- Where each of more sources owns its data, each of the earlier ones does. -/
theorem Host.EachOwns.of_append {h : Host ε} {r : LineReader} {console : ε → Console}
    {sources more : List Source} (ho : h.EachOwns r console (sources ++ more)) :
    h.EachOwns r console sources where
  plainly := fun s hs => ho.plainly s (List.mem_append_left _ hs)
  alone := by
    have halone := ho.alone
    rw [List.countP_append] at halone
    omega
  kept := by
    intro hpos
    refine ho.kept ?_
    rw [List.countP_append]
    omega

namespace Session

open Loop

variable {r : LineReader} {h : Host ε} {console : ε → Console} {s : Session ε}

theorem entered_concat (h : Host ε) (s : Session ε) (turns : List (Loop ε)) (l : Loop ε) :
    s.entered h (turns ++ [l]) = s.entered h turns ++ l.pushed h := by
  rw [entered, entered, List.flatMap_append, List.flatMap_singleton, List.cons_append]

theorem books_concat (h : Host ε) (s : Session ε) (turns : List (Loop ε)) (l : Loop ε) :
    s.books h (turns ++ [l]) = (s.books h turns).turn h l := by
  rw [books, books, List.foldl_append]
  rfl

/-- **Kept** — the books of a run are kept, and were balanced before every turn that was taken. -/
structure Kept (r : LineReader) (console : ε → Console) (h : Host ε) (s : Session ε)
    (seen : List (Loop ε)) (l : Loop ε) : Prop where
  keeps : (s.books h seen).Keeps r console (console s.env) l
  undisturbed : l.Undisturbed h console (console s.env) (s.entered h seen)
  balanced : ∀ i l', seen[i]? = some l' →
    (s.books h (seen.take i)).Balanced r (console s.env) h l'

/-- A run begins with the account of its first source. -/
theorem kept_enter (c : Bool) (hs : s.stack = .empty) (hp : r.Plainly (s.root h)) :
    s.Kept r console h [] (s.enter h c).1 where
  keeps :=
    { running := fun _ => ⟨{ pushed := s.root h }, [], s.root h, [], _, rfl,
        by rw [enter_sources, hs]; rfl, .fresh hp, fun _ => rfl, .nil⟩
      stopped := fun hn => Move.noConfusion hn
      closed := fun p hp => absurd hp List.not_mem_nil }
  undisturbed :=
    { counted := by
        rw [enter_sources, hs]
        exact Nat.le_refl _
      untouched := fun _ _ => rfl }
  balanced := fun i l' hi => by simp at hi

/-- One more turn is taken where the books are balanced. -/
theorem Kept.balanced_concat {seen : List (Loop ε)} {l : Loop ε} (hk : s.Kept r console h seen l)
    (hl : l.Sound (s.root h) []) (i : Nat) (l' : Loop ε) (hi : (seen ++ [l])[i]? = some l') :
    (s.books h ((seen ++ [l]).take i)).Balanced r (console s.env) h l' := by
  have hlt := (List.getElem?_eq_some_iff.mp hi).1
  rw [List.length_append, List.length_singleton] at hlt
  rcases Nat.lt_succ_iff_lt_or_eq.mp hlt with hlt | rfl
  · rw [List.getElem?_append_left hlt] at hi
    rw [List.take_append_of_le_length (Nat.le_of_lt hlt)]
    exact hk.balanced i l' hi
  · rw [List.getElem?_concat_length, Option.some.injEq] at hi
    subst hi
    rw [List.take_left]
    exact hk.keeps.balanced hl

/-- Every turn that goes on keeps the books of the run. -/
theorem Kept.step {seen : List (Loop ε)} {l : Loop ε} (hk : s.Kept r console h seen l)
    (hl : l.Sound (s.root h) []) (hreads : h.ReadsWith r console)
    (howns : h.EachOwns r console (s.entered h (seen ++ [l]))) (he : (l.step h).exit = none) :
    s.Kept r console h (seen ++ [l]) (l.step h).loop := by
  rw [entered_concat] at howns
  have hgoes : l.next ≠ .stop := by
    intro hn
    rw [Loop.step, hn] at he
    cases he
  refine ⟨?_, ?_, hk.balanced_concat hl⟩
  · rw [books_concat]
    exact hk.keeps.step hl hk.undisturbed hreads howns he
  · rw [entered_concat]
    exact hk.undisturbed.step hreads (hk.keeps.plainly hgoes) he

/-- The books are balanced before every turn of a run. -/
theorem balanced_of_moment {asks : Nat → Nat} {n : Nat} {c : Bool} (hs : s.stack = .empty)
    (hreads : h.ReadsWith r console)
    (howns : h.EachOwns r console (s.entered h (s.moments h asks n c))) (i : Nat) (l : Loop ε)
    (hi : (s.moments h asks n c)[i]? = some l) :
    (s.books h ((s.moments h asks n c).take i)).Balanced r (console s.env) h l := by
  rw [moments] at howns hi ⊢
  split at hi
  · cases hi
  · rename_i hopen
    rw [if_neg hopen] at howns ⊢
    have hsound := enter_sound h c hopen
    rw [hs] at hsound
    -- The books are kept as long as the sources entered so far own their data.
    have hrun := @followAsked_induction _ h _
      (fun seen _ l => l.Sound (s.root h) [] ∧
        (h.EachOwns r console (s.entered h seen) → s.Kept r console h seen l))
      (fun seen _ _ _ => h.EachOwns r console (s.entered h seen) →
        ∀ i l, seen[i]? = some l → (s.books h (seen.take i)).Balanced r (console s.env) h l)
      ?ask ?goOn ?leave [] []
      ⟨hsound, fun ho => kept_enter c hs (ho.plainly _ (List.mem_singleton_self _))⟩ asks n
    case ask =>
      rintro seen _ l k ⟨hl, hkept⟩
      refine ⟨hl.askCancel k, fun ho => ?_⟩
      exact ⟨(hkept ho).keeps.askCancel k, (hkept ho).undisturbed.askCancel k, (hkept ho).balanced⟩
    case goOn =>
      rintro seen _ l ⟨hl, hkept⟩ hexit
      refine ⟨hl.step hreads.consumes hexit, fun ho => ?_⟩
      have hbefore := entered_concat h s seen l ▸ ho
      exact (hkept hbefore.of_append).step hl hreads ho hexit
    case leave =>
      rintro seen _ l e ⟨hl, hkept⟩ - ho
      have hbefore := entered_concat h s seen l ▸ ho
      exact (hkept hbefore.of_append).balanced_concat hl
    rw [List.nil_append] at hrun
    split at hrun
    · exact (hrun.2 howns).balanced i l hi
    · exact hrun howns i l hi

/-- A run begins with a fresh source. -/
theorem tallied_enter (c : Bool) (hs : s.stack = .empty) (hf : (s.root h).linesRead = 0) :
    (s.enter h c).1.Tallied (s.enter h c).2 := by
  have hreleases : releases (s.enter h c).2 = [] := by
    show releases (transition _ _ ++ _) = _
    rw [releases_append, releases_transition]
    rfl
  have hdispatches : dispatches (s.enter h c).2 = 0 := by
    rw [← dispatches_acts, acts_enter]
    rfl
  rw [Tallied, hreleases, hdispatches, enter_sources, hs, totalRead_cons, hf]
  rfl

/-- A run that ended with an outcome dispatched as many lines as were read of all its sources. -/
theorem totalRead_of_ended (hc : h.Consumes) {asks : Nat → Nat} {n : Nat} {c : Bool}
    (hs : s.stack = .empty) {o : Outcome} (he : (s.runAsked h asks n c).exit = some (.outcome o))
    (hfresh : ∀ source ∈ s.entered h (s.moments h asks n c), source.linesRead = 0) :
    totalRead (releases (s.runAsked h asks n c).events) =
      dispatches (s.runAsked h asks n c).events := by
  by_cases hopen : s.state = .closing
  · rw [runAsked_of_closing h asks n c hopen]
    rfl
  · rw [moments, if_neg hopen] at hfresh
    rw [runAsked_of_open h asks n c hopen] at he ⊢
    have hsteady := enter_steady h c hopen
    have hrun := @followAsked_exit _ h _
      (fun seen past l => l.Steady ∧
        ((∀ source ∈ s.entered h seen, source.linesRead = 0) → l.Tallied past))
      (fun seen past l e => ∀ o, e = .outcome o →
        (∀ source ∈ s.entered h seen, source.linesRead = 0) →
        l.stack = .empty ∧ l.waiting = [] ∧ l.Tallied past)
      ?ask ?goOn ?leave (s.enter h c).2 ⟨hsteady, ?start⟩ asks n _ he
    case start =>
      intro hf
      exact tallied_enter c hs (hf _ (List.mem_singleton_self _))
    case ask =>
      rintro seen past l k ⟨hl, htally⟩
      exact ⟨hl.askCancel k, fun hf => (htally hf).askCancel k⟩
    case goOn =>
      rintro seen past l ⟨hl, htally⟩ hexit
      refine ⟨hl.step hexit, fun hf => ?_⟩
      rw [entered_concat, List.forall_mem_append] at hf
      exact (htally hf.1).step hc hl (totalRead_fresh hf.2) (by simp [hexit])
    case leave =>
      rintro seen past l e ⟨hl, htally⟩ hexit o rfl hf
      rw [entered_concat, List.forall_mem_append] at hf
      obtain ⟨hstack, hwaiting⟩ := nothing_left hexit
      exact ⟨hstack, hwaiting, (htally hf.1).step hc hl (totalRead_fresh hf.2) (by simp [hexit])⟩
    obtain ⟨hstack, hwaiting, htally⟩ := hrun o rfl hfresh
    rw [Tallied, hstack, hwaiting] at htally
    exact htally

/-- **No line is lost, repeated or miscounted.** At every moment of a run, the lines that were
dispatched of a source and the one that waits to be dispatched are the first lines that the reader
gets of the source alone, as many as the count of the source went up since it was pushed; and the
record of a source that is left has its count. If a run ends with an outcome, the counts of all its
sources add up to the number of dispatches. -/
theorem runAsked_accounts (r : LineReader) (h : Host ε) (console : ε → Console) (asks : Nat → Nat)
    (n : Nat) (c : Bool) (s : Session ε) (hs : s.stack = .empty) (hreads : h.ReadsWith r console)
    (howns : h.EachOwns r console (s.entered h (s.moments h asks n c))) :
    (∀ i l, (s.moments h asks n c)[i]? = some l →
      (s.books h ((s.moments h asks n c).take i)).Balanced r (console s.env) h l) ∧
    ∀ o, (s.runAsked h asks n c).exit = some (.outcome o) →
      (∀ source ∈ s.entered h (s.moments h asks n c), source.linesRead = 0) →
      totalRead (releases (s.runAsked h asks n c).events) =
        dispatches (s.runAsked h asks n c).events := by
  exact ⟨balanced_of_moment hs hreads howns,
    fun o he hfresh => totalRead_of_ended hreads.consumes hs he hfresh⟩

/-- The lines `a` and `b` stand on standard input, which nobody types. -/
def pipedLines : Session Console :=
  { number := 0, env := { unread := .ofBytes (Text.encode "a\nb\n") } }

/-- The line `a` reads the script `x`, whose first line fails. -/
def pipedLinesHost : Host Console :=
  Playbook.host [
    ("a", { deeds := [.push (.ofText "x" false "c\nd\n")] }), ("c", { verdict := .scriptError })]

/-- The loops of the turns, of which the sixth one dispatches `c`. -/
def pipedMoments : List (Loop Console) := pipedLines.moments pipedLinesHost (fun _ => 0) 30 false

theorem pipedLines_accounts :
    pipedLinesHost.ReadsWith {} id ∧
      pipedLinesHost.EachOwns {} id (pipedLines.entered pipedLinesHost pipedMoments) ∧
      (pipedMoments[5]?.map Loop.waiting = some ["c"] ∧
        (pipedLines.books pipedLinesHost (pipedMoments.take 5)).running.map Account.lines =
          [[], ["a"]]) ∧
      (∀ i l, pipedMoments[i]? = some l →
        (pipedLines.books pipedLinesHost (pipedMoments.take i)).Balanced {} pipedLines.env
          pipedLinesHost l) ∧
      dispatches (pipedLines.runAsked pipedLinesHost (fun _ => 0) 30 false).events = 2 ∧
      totalRead (releases (pipedLines.runAsked pipedLinesHost (fun _ => 0) 30 false).events) =
        dispatches (pipedLines.runAsked pipedLinesHost (fun _ => 0) 30 false).events := by
  have hreads : pipedLinesHost.ReadsWith {} id :=
    ⟨Playbook.host_consumes _, fun _ _ => rfl, fun _ _ _ => rfl, fun _ _ _ => rfl, fun _ _ _ => rfl⟩
  have howns : pipedLinesHost.EachOwns {} id
      (pipedLines.entered pipedLinesHost pipedMoments) := by
    refine ⟨fun _ _ => .inl rfl, by decide, fun _ env line depth => ?_⟩
    show (Playbook.execute _ env line depth).env.unread = env.unread
    unfold Playbook.execute
    split <;> rfl
  obtain ⟨hbalanced, htotal⟩ := runAsked_accounts {} pipedLinesHost id (fun _ => 0) 30 false
    pipedLines rfl hreads howns
  exact ⟨hreads, howns, ⟨by decide, by decide⟩, hbalanced, by decide,
    htotal .stoppedOnError (by decide) (by decide)⟩

end Session

end CommandShell
