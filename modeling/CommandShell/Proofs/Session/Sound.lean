import CommandShell.Proofs.Session.Turns

/-!
# What holds before every turn

The pending move, the state and the stack of a loop belong together. `Loop.Steady` says what holds
whatever the collaborators do: an iteration begins only in a session that is not closing; a line is
read and dispatched only in a ready one; a fatal line has closed the session; and there are sources
until the run is over, and none then. Every turn that goes on keeps this (`Steady.step`).

A reader that puts other sources in the place of those that it is handed may put a primordial source
anywhere, and take the first one away. If it only consumes them, the sources of a run stand on the
first one, which is the only primordial source among them, until it is left and the run is over
(`Loop.Sound`, `Sound.step`).
-/

namespace CommandShell

/-! ## Sources of a run -/

/-- **IsLater** — the source is `first`, perhaps read from since. -/
def Source.IsLater (s first : Source) : Prop :=
  s = { first with stream := s.stream, linesRead := s.linesRead }

namespace Source.IsLater

theorem refl (s : Source) : s.IsLater s := rfl

theorem primordial_eq {s first : Source} (h : s.IsLater first) :
    s.primordial = first.primordial := by
  rw [h]

/-- Reading from a source and counting a line makes it a later one. -/
theorem advance {s first : Source} (h : s.IsLater first) (stream : Stream) (n : Nat) :
    ({ s with stream, linesRead := n } : Source).IsLater first := by
  rw [h]
  rfl

end Source.IsLater

/-- **Rooted** — the sources of a run stand on its first source, which stands on what was there
before, and no other of them is primordial. -/
def Rooted (first : Source) (below sources : List Source) : Prop :=
  ∃ nested root, sources = nested ++ root :: below ∧ root.IsLater first ∧
    ∀ s ∈ nested, s.primordial = false

namespace Rooted

variable {first s : Source} {below rest sources : List Source}

theorem ne_nil (h : Rooted first below sources) : sources ≠ [] := by
  obtain ⟨nested, root, rfl, _, _⟩ := h
  simp

theorem push (h : Rooted first below sources) {ss : List Source}
    (hss : ∀ s ∈ ss, s.primordial = false) : Rooted first below (ss ++ sources) := by
  obtain ⟨nested, root, rfl, hroot, hnested⟩ := h
  refine ⟨ss ++ nested, root, by rw [List.append_assoc], hroot, ?_⟩
  intro s hs
  rcases List.mem_append.mp hs with hs | hs
  · exact hss s hs
  · exact hnested s hs

/-- Reading from the top source changes nothing else. -/
theorem advance (h : Rooted first below (s :: rest)) (stream : Stream) (n : Nat) :
    Rooted first below ({ s with stream, linesRead := n } :: rest) := by
  obtain ⟨nested, root, heq, hroot, hnested⟩ := h
  cases nested with
  | nil =>
      obtain ⟨rfl, rfl⟩ := List.cons.inj heq
      exact ⟨[], _, rfl, hroot.advance stream n, by simp⟩
  | cons s' nested =>
      obtain ⟨rfl, rfl⟩ := List.cons.inj heq
      refine ⟨{ s with stream, linesRead := n } :: nested, root, rfl, hroot, ?_⟩
      intro s' hs'
      rcases List.mem_cons.mp hs' with rfl | hs'
      · exact hnested s (by simp)
      · exact hnested s' (List.mem_cons_of_mem s hs')

theorem pop (h : Rooted first below (s :: rest)) (hf : first.primordial = true)
    (hs : s.primordial = false) : Rooted first below rest := by
  obtain ⟨nested, root, heq, hroot, hnested⟩ := h
  cases nested with
  | nil =>
      -- The top source would be the first one, which is primordial.
      obtain ⟨rfl, rfl⟩ := List.cons.inj heq
      rw [hroot.primordial_eq, hf] at hs
      cases hs
  | cons s' nested =>
      obtain ⟨rfl, rfl⟩ := List.cons.inj heq
      exact ⟨nested, root, rfl, hroot, fun s' hs' => hnested s' (List.mem_cons_of_mem s hs')⟩

/-- Below a primordial source of the run there is nothing of the run. -/
theorem rest_eq (h : Rooted first below (s :: rest)) (hs : s.primordial = true) :
    rest = below ∧ s.IsLater first := by
  obtain ⟨nested, root, heq, hroot, hnested⟩ := h
  cases nested with
  | nil =>
      obtain ⟨rfl, rfl⟩ := List.cons.inj heq
      exact ⟨rfl, hroot⟩
  | cons s' nested =>
      obtain ⟨rfl, rfl⟩ := List.cons.inj heq
      rw [hnested s (by simp)] at hs
      cases hs

end Rooted

/-! ## The table of moves -/

namespace State

theorem respond_begin {st : State} {e : Signal} (h : (st.respond e).2 = .begin) :
    (st.respond e).1 ≠ .closing := by
  cases st <;> rcases e with (_ | _) | _ | _ | _ | _ | _ | (_ | _) <;> simp_all [respond]

theorem respond_line {st : State} {e : Signal} (he : e = .gotLine → st = .ready)
    (h : (st.respond e).2 = .read ∨ (st.respond e).2 = .dispatch) : (st.respond e).1 = .ready := by
  cases st <;> rcases e with (_ | _) | _ | _ | _ | _ | _ | (_ | _) <;> simp_all [respond]

theorem respond_stop_iff {st : State} {e : Signal} :
    (st.respond e).2 = .stop ↔ e = .sourceLeft false := by
  cases st <;> rcases e with (_ | _) | _ | _ | _ | _ | _ | (_ | _) <;> simp [respond]

/-- A closing session stays so, whatever happens. -/
theorem respond_closing (e : Signal) : (State.closing.respond e).1 = .closing := by
  rcases e with (_ | _) | _ | _ | _ | _ | _ | (_ | _) <;> rfl

/-- Leaving a source does not change the state. -/
@[simp] theorem respond_sourceLeft (st : State) (b : Bool) :
    (st.respond (.sourceLeft b)).1 = st := by
  cases st <;> cases b <;> rfl

theorem respond_closeAsked (st : State) : (st.respond .closeAsked).1 = .closing := by
  cases st <;> rfl

end State

/-! ## Steady loops -/

namespace Loop

variable {ε : Type}

/-- **Steady** — the pending move and the state of a loop belong together, and sources are there
until the run is over. -/
structure Steady (l : Loop ε) : Prop where
  /-- An iteration begins only in a session that is not closing. -/
  begins : l.next = .begin → l.state ≠ .closing
  /-- Lines are read and dispatched only in a ready session. -/
  lines : l.next = .read ∨ l.next = .dispatch → l.state = .ready
  /-- A fatal line has closed the session. -/
  closed : l.fatal = true → l.state = .closing
  /-- There is a source to go on with … -/
  occupied : l.next ≠ .stop → l.stack.sources ≠ []
  /-- … until the run is over. -/
  finished : l.next = .stop → l.stack.sources = []

namespace Steady

variable {h : Host ε} {l : Loop ε}

/-- Until the run is over there is a top source. -/
theorem exists_top (hl : l.Steady) (hn : l.next ≠ .stop) : ∃ s rest, l.stack.sources = s :: rest :=
  List.exists_cons_of_ne_nil (hl.occupied hn)

/-- Going on after a signal keeps a loop steady if there are sources; a line may be signalled only
to a ready session. -/
theorem goOn {es : List Event} {e : Signal} (he : e = .gotLine → l.state = .ready)
    (hl : e ≠ .sourceLeft false) (hc : l.fatal = true → l.state = .closing ∨ e = .closeAsked)
    (hs : l.stack.sources ≠ []) : (l.goOn es e).loop.Steady where
  begins := State.respond_begin
  lines := State.respond_line he
  closed := by
    intro hfatal
    rcases hc hfatal with hs | rfl
    · show (l.state.respond e).1 = .closing
      rw [hs, State.respond_closing]
    · exact State.respond_closeAsked l.state
  occupied := fun _ => hs
  finished := fun hn => absurd (State.respond_stop_iff.mp hn) hl

/-- A run whose last source was left is over. -/
theorem goOn_over {es : List Event} (hc : l.fatal = true → l.state = .closing)
    (hs : l.stack.sources = []) : (l.goOn es (.sourceLeft false)).loop.Steady where
  begins := State.respond_begin
  lines := State.respond_line (by simp)
  closed := by
    intro hfatal
    show (l.state.respond _).1 = .closing
    rw [hc hfatal, State.respond_closing]
  occupied := fun hn => absurd (State.respond_stop_iff.mpr rfl) hn
  finished := fun _ => hs

/-- Only a source that is being left may follow a fatal line. -/
theorem not_fatal (hl : l.Steady) (hu : l.next ≠ .unwind) (hs : l.next ≠ .stop) :
    ¬l.fatal = true := by
  intro hfatal
  -- A closing session neither begins an iteration nor reads nor dispatches.
  have hc := hl.closed hfatal
  cases hn : l.next with
  | begin => exact hl.begins hn hc
  | read =>
      rw [hl.lines (.inl hn)] at hc
      cases hc
  | dispatch =>
      rw [hl.lines (.inr hn)] at hc
      cases hc
  | unwind => exact hu hn
  | stop => exact hs hn

/-- Leaving a source keeps a loop steady: it goes on with the source below, or it is over. -/
theorem unwind (hl : l.Steady) (hn : l.next = .unwind) : l.unwind.loop.Steady := by
  obtain ⟨s, rest, hs⟩ := hl.exists_top (by simp [hn])
  obtain ⟨hpop, hmore⟩ := Stack.pop_of_cons hs
  show (Loop.goOn { l with stack := l.stack.pop.1 } _ (.sourceLeft l.stack.pop.2.1)).loop.Steady
  cases hleft : l.stack.pop.2.1 with
  | false =>
      refine goOn_over hl.closed ?_
      rw [hmore] at hleft
      rw [hpop]
      cases hp : s.primordial with
      | true => rfl
      | false => simpa [hp] using hleft
  | true =>
      refine goOn (by simp) (by simp) (fun hf => .inl (hl.closed hf)) ?_
      rw [hmore, Bool.and_eq_true, Bool.not_eq_true', Bool.not_eq_true'] at hleft
      rw [hpop, hleft.1]
      exact List.isEmpty_eq_false_iff.mp hleft.2

/-- **Every turn that goes on keeps a loop steady**, whatever the collaborators do. -/
theorem step (hl : l.Steady) (he : (l.step h).exit = none) : (l.step h).loop.Steady := by
  have hnot : l.next ≠ .unwind → l.next ≠ .stop → ¬l.fatal = true := hl.not_fatal
  have w := way_step h l
  generalize l.step h = t at he w
  cases w with
  | honours => cases he
  | lacksSource => cases he
  | askPanics => cases he
  | begins hn =>
      exact goOn (by simp) (by simp) (by simp [inspected, hnot, hn]) (hl.occupied (by simp [hn]))
  | lacksInput => cases he
  | readPanics => cases he
  | @reads s rest text hn hs =>
      have hready := hl.lines (.inl hn)
      refine goOn ?_ (by simp) ?_ ?_
      · simp [received_loop, hready]
      · simp [received_loop, hnot, hn]
      · rw [Stack.sources_mapCurrent, received_sources h hs]
        exact List.cons_ne_nil _ _
  | @ends s rest hn hs =>
      refine goOn (by simp) (by simp) ?_ ?_
      · simp [received_loop, hnot, hn]
      · rw [received_sources h hs]
        exact List.cons_ne_nil _ _
  | @fails s rest reason hn hs =>
      refine goOn (by simp) (by simp) ?_ ?_
      · simp [received_loop, hnot, hn]
      · rw [received_sources h hs]
        exact List.cons_ne_nil _ _
  | dispatchPanics => cases he
  | @dispatches v hn =>
      refine goOn (by cases v <;> simp [Verdict.signal])
        (by cases v <;> simp [Verdict.signal]) ?_ ?_
      · rw [judged_fatal]
        rintro (hf | rfl)
        · simp [carried_loop, hnot, hn] at hf
        · exact .inr rfl
      · rw [judged_stack, carried_loop, Stack.sources_pushAll]
        exact List.append_ne_nil_of_right_ne_nil _ (hl.occupied (by simp [hn]))
  | leaves hn => exact hl.unwind hn
  | stops => cases he

/-- A run that ends with an outcome honours a request to cancel, or it ends of itself after its last
source was left. -/
theorem ends {o : Outcome} (hl : l.Steady) (he : (l.step h).exit = some (.outcome o)) :
    (o = .cancelled ∧ l.cancelled = true) ∨
      (l.next = .stop ∧ l.step h = l.finish ∧ o = l.outcome) := by
  have w := way_step h l
  generalize l.step h = turn at he w ⊢
  cases w with
  | honours _ hc =>
      cases he
      exact .inl ⟨rfl, hc⟩
  | lacksSource hn _ hs => exact absurd hs (hl.occupied (by simp [hn]))
  | askPanics => cases he
  | begins => cases he
  | lacksInput hn hs => exact absurd hs (hl.occupied (by simp [hn]))
  | readPanics => cases he
  | reads => cases he
  | ends => cases he
  | fails => cases he
  | dispatchPanics => cases he
  | dispatches => cases he
  | leaves => cases he
  | stops hn =>
      cases he
      exact .inr ⟨hn, rfl, rfl⟩

/-- A request to cancel leaves a loop steady. -/
theorem askCancel (n : Nat) (hl : l.Steady) : (l.askCancel n).1.Steady := by
  rw [askCancel_loop]
  exact ⟨hl.begins, hl.lines, hl.closed, hl.occupied, hl.finished⟩

end Steady

/-- **Inline** — a steady loop that takes no requests to cancel. -/
structure Inline (l : Loop ε) : Prop extends Steady l where
  deaf : l.cancellable = false
  uncancelled : l.cancelled = false

theorem Inline.step {h : Host ε} {l : Loop ε} (hl : l.Inline) (he : (l.step h).exit = none) :
    (l.step h).loop.Inline where
  toSteady := hl.toSteady.step he
  deaf := by rw [step_cancellable, hl.deaf]
  uncancelled := by rw [step_cancelled hl.deaf, hl.uncancelled]

/-- A loop that takes no requests to cancel stays so for any number of turns. -/
theorem Inline.follow {h : Host ε} {l : Loop ε} {n : Nat} (hl : l.Inline)
    (he : (follow h n l).exit = none) : (follow h n l).loop.Inline := by
  induction n generalizing l with
  | zero => exact hl
  | succ n ih =>
      cases hs : (l.step h).exit with
      | some e =>
          rw [follow_of_leaves n hs] at he
          cases he
      | none =>
          rw [follow_of_goesOn n hs] at he ⊢
          exact ih (hl.step hs) he

/-! ## Sound loops -/

/-- **Sound** — a steady loop whose sources stand on the first one of its run. -/
structure Sound (first : Source) (below : List Source) (l : Loop ε) : Prop extends Steady l where
  /-- The first source of the run is marked as such. -/
  primordial : first.primordial = true
  /-- The sources of the run stand on the first one until the run is over. -/
  rooted : l.next ≠ .stop → Rooted first below l.stack.sources

namespace Sound

variable {h : Host ε} {l : Loop ε} {first : Source} {below : List Source}

/-- Reading from the top source leaves the sources on the first one. -/
theorem rooted_received (hc : h.Consumes) (hl : l.Sound first below) (hn : l.next = .read)
    {s : Source} {rest : List Source} (hs : l.stack.sources = s :: rest) (n : Nat) :
    Rooted first below ({ (h.read l.env s).source with linesRead := n } :: rest) := by
  rw [hc.source_eq]
  exact (hs ▸ hl.rooted (by simp [hn]) : Rooted first below (s :: rest)).advance _ n

/-- Leaving a source leaves the others on the first one, unless the first one was left. -/
theorem rooted_unwind (hl : l.Sound first below) (hn : l.next = .unwind)
    (hgoes : l.unwind.loop.next ≠ .stop) : Rooted first below l.unwind.loop.stack.sources := by
  have hr := hl.rooted (by simp [hn])
  obtain ⟨s, rest, hs⟩ := List.exists_cons_of_ne_nil hr.ne_nil
  rw [hs] at hr
  cases hp : s.primordial with
  | false =>
      have hrest := hr.pop hl.primordial hp
      rw [unwind_nested hs hp hrest.ne_nil, goOn_loop]
      show Rooted first below l.stack.below.sources
      rw [Stack.sources_below, hs]
      exact hrest
  | true =>
      rw [unwind_primordial hs hp] at hgoes
      exact absurd (State.respond_stop_iff.mpr rfl) hgoes

/-- **Every turn that goes on keeps a loop sound**, if the reader only consumes. -/
theorem step (hc : h.Consumes) (hl : l.Sound first below) (he : (l.step h).exit = none) :
    (l.step h).loop.Sound first below := by
  refine ⟨hl.toSteady.step he, hl.primordial, ?_⟩
  have w := way_step h l
  generalize l.step h = t at he w
  cases w with
  | honours => cases he
  | lacksSource => cases he
  | askPanics => cases he
  | begins hn => exact fun _ => hl.rooted (by simp [hn])
  | lacksInput => cases he
  | readPanics => cases he
  | @reads s rest text hn hs =>
      intro _
      show Rooted first below ((l.received h s).1.stack.mapCurrent Source.countLine).sources
      rw [Stack.sources_mapCurrent, received_sources h hs]
      exact hl.rooted_received hc hn hs _
  | @ends s rest hn hs =>
      intro _
      rw [goOn_loop, received_sources h hs]
      exact hl.rooted_received hc hn hs (h.read l.env s).source.linesRead
  | @fails s rest reason hn hs =>
      intro _
      rw [goOn_loop, received_sources h hs]
      exact hl.rooted_received hc hn hs (h.read l.env s).source.linesRead
  | dispatchPanics => cases he
  | @dispatches v hn =>
      intro _
      rw [goOn_loop, judged_stack, carried_loop, Stack.sources_pushAll]
      exact (hl.rooted (by simp [hn])).push fun s hs =>
        primordial_of_mem_pushes (List.mem_reverse.mp hs)
  | leaves hn => exact hl.rooted_unwind hn
  | stops => cases he

/-- A request to cancel leaves a loop sound. -/
theorem askCancel (n : Nat) (hl : l.Sound first below) : (l.askCancel n).1.Sound first below where
  toSteady := hl.toSteady.askCancel n
  primordial := hl.primordial
  rooted := by
    rw [askCancel_loop]
    exact hl.rooted

end Sound

/-- **SoundInline** — a sound loop that takes no requests to cancel. -/
structure SoundInline (first : Source) (below : List Source) (l : Loop ε) : Prop
    extends Sound first below l, Inline l

theorem SoundInline.step {h : Host ε} {l : Loop ε} {first : Source} {below : List Source}
    (hc : h.Consumes) (hl : l.SoundInline first below) (he : (l.step h).exit = none) :
    (l.step h).loop.SoundInline first below where
  toSound := hl.toSound.step hc he
  deaf := (hl.toInline.step he).deaf
  uncancelled := (hl.toInline.step he).uncancelled

end Loop

/-! ## The loop of a new run -/

namespace Session

variable {ε : Type}

/-- **root** — the first source of a run, as it stands on the stack. -/
def root (h : Host ε) (s : Session ε) : Source := { s.firstSource h with primordial := true }

/-- A run starts in a ready session. -/
theorem recover_of_open {st : State} (hs : st ≠ .closing) : st.recover = .ready := by
  cases st with
  | ready => rfl
  | scriptError => rfl
  | closing => exact absurd rfl hs

/-- A run begins on its first source, above what was on the stack. -/
theorem enter_sources (h : Host ε) (c : Bool) (s : Session ε) :
    (s.enter h c).1.stack.sources = s.root h :: s.stack.sources := rfl

theorem enter_steady (h : Host ε) (c : Bool) {s : Session ε} (hs : s.state ≠ .closing) :
    (s.enter h c).1.Steady where
  begins := by
    intro _
    show s.state.recover ≠ .closing
    simp [recover_of_open hs]
  lines := by simp [enter]
  closed := by simp [enter]
  occupied := fun _ => List.cons_ne_nil _ _
  finished := by simp [enter]

theorem enter_sound (h : Host ε) (c : Bool) {s : Session ε} (hs : s.state ≠ .closing) :
    (s.enter h c).1.Sound (s.root h) s.stack.sources where
  toSteady := enter_steady h c hs
  primordial := rfl
  rooted := fun _ => ⟨[], s.root h, rfl, .refl _, by simp⟩

theorem enter_inline (h : Host ε) {s : Session ε} (hs : s.state ≠ .closing) :
    (s.enter h false).1.Inline where
  toSteady := enter_steady h false hs
  deaf := rfl
  uncancelled := rfl

theorem enter_soundInline (h : Host ε) {s : Session ε} (hs : s.state ≠ .closing) :
    (s.enter h false).1.SoundInline (s.root h) s.stack.sources where
  toSound := enter_sound h false hs
  deaf := rfl
  uncancelled := rfl

end Session

end CommandShell
