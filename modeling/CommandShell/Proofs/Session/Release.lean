import CommandShell.Proofs.Session.Sound

/-!
# Every source is released once, the latest first

A **ledger** is kept of the events of a run: it numbers the sources that are pushed, in order, and
notes which of them are held and which were released. `Entered` enters events one by one, and it has
no entry for the release of any source but the one that was pushed last of those still held.

`runAsked_releases`: however a run is left, nothing is on the stack any more. If its reader leaves
the sources in their places, its events can be entered, and then no source is held: whatever panics
and whenever it is asked to stop, each source was released exactly once, and the first source was
released last. What carries this through the turns is that the ledger tracks the stack
(`Ledger.Tracks`). A source that a reader takes away is not released by the run (`taking_keeps`).
-/

namespace CommandShell

open CommandShell.Log

/-! ## The ledger -/

/-- **Label** — what is known of a source when it is pushed, and again when it is released. -/
structure Label where
  name : String
  interactive : Bool
  primordial : Bool
  deriving DecidableEq, Repr

/-- The label of a source. -/
def Source.label (s : Source) : Label := ⟨s.name, s.interactive, s.primordial⟩

/-- **Ledger** — the sources of a run, by the number of pushes before theirs. -/
structure Ledger where
  /-- The sources that were pushed, the first one first. -/
  pushed : List Label := []
  /-- Those that were not released yet, the last one first. -/
  held : List Nat := []
  /-- Those that were released, in the order of their release. -/
  released : List Nat := []
  deriving DecidableEq, Repr

/-- Whether an event is the push or the release of a source. -/
def Event.isTrade : Event → Bool
  | .logged (.sourcePushed ..) | .released _ => true
  | _ => false

namespace Ledger

/-- The ledger after a push. -/
def push (b : Ledger) (label : Label) : Ledger :=
  { b with pushed := b.pushed ++ [label], held := b.pushed.length :: b.held }

/-- **Entered** — entering the events in the first ledger gives the second one. -/
inductive Entered : Ledger → List Event → Ledger → Prop
  | nil {b} : Entered b [] b
  | push {b name primordial interactive depth es b'} :
      Entered (b.push ⟨name, interactive, primordial⟩) es b' →
      Entered b (.logged (.sourcePushed name primordial interactive depth) :: es) b'
  /-- Of the sources that are held, the one that was pushed last is released. -/
  | release {b n held source es b'} : b.held = n :: held → b.pushed[n]? = some source.label →
      Entered { b with held, released := b.released ++ [n] } es b' →
      Entered b (.released source :: es) b'
  | other {b e es b'} : e.isTrade = false → Entered b es b' → Entered b (e :: es) b'

theorem Entered.append {b b' b'' : Ledger} {es es' : List Event} (h : Entered b es b')
    (h' : Entered b' es' b'') : Entered b (es ++ es') b'' := by
  induction h with
  | nil => exact h'
  | push _ ih => exact .push (ih h')
  | release hheld hlabel _ ih => exact .release hheld hlabel (ih h')
  | other he _ ih => exact .other he (ih h')

/-- What is entered can be entered in two parts. -/
theorem Entered.split {b b'' : Ledger} {es es' : List Event} (h : Entered b (es ++ es') b'') :
    ∃ b', Entered b es b' ∧ Entered b' es' b'' := by
  induction es generalizing b with
  | nil => exact ⟨b, .nil, h⟩
  | cons e es ih =>
      cases h with
      | push h =>
          obtain ⟨b', hes, hes'⟩ := ih h
          exact ⟨b', .push hes, hes'⟩
      | release hheld hlabel h =>
          obtain ⟨b', hes, hes'⟩ := ih h
          exact ⟨b', .release hheld hlabel hes, hes'⟩
      | other he h =>
          obtain ⟨b', hes, hes'⟩ := ih h
          exact ⟨b', .other he hes, hes'⟩

/-- What is held stands in the order of the pushes, the last one first. -/
def Ordered (b : Ledger) : Prop :=
  b.held.Pairwise (· > ·) ∧ ∀ n ∈ b.held, n < b.pushed.length

theorem Entered.ordered {b b' : Ledger} {es : List Event} (h : Entered b es b')
    (hb : b.Ordered) : b'.Ordered := by
  induction h with
  | nil => exact hb
  | @push b name primordial interactive depth es b' _ ih =>
      obtain ⟨hpairwise, hlt⟩ := hb
      refine ih ⟨List.pairwise_cons.mpr ⟨fun n hn => hlt n hn, hpairwise⟩, ?_⟩
      intro n hn
      have hlength : (b.push ⟨name, interactive, primordial⟩).pushed.length =
          b.pushed.length + 1 := List.length_append
      rcases List.mem_cons.mp hn with rfl | hn
      · omega
      · have hold := hlt n hn
        omega
  | @release b n held source es b' hheld _ _ ih =>
      obtain ⟨hpairwise, hlt⟩ := hb
      rw [hheld] at hpairwise hlt
      exact ih ⟨hpairwise.of_cons, fun m hm => hlt m (List.mem_cons_of_mem n hm)⟩
  | other _ _ ih => exact ih hb

/-- Wherever a source is released, it is the one pushed last of those still held. -/
theorem Entered.release_latest {b : Ledger} {before after : List Event} {source : Source}
    (h : Entered {} (before ++ .released source :: after) b) :
    ∃ b' n, Entered {} before b' ∧ n ∈ b'.held ∧ b'.pushed[n]? = some source.label ∧
      ∀ m ∈ b'.held, m ≤ n := by
  obtain ⟨b', hbefore, hafter⟩ := h.split
  have hordered : b'.Ordered := hbefore.ordered ⟨.nil, by simp⟩
  cases hafter with
  | @release _ n held _ _ _ hheld hlabel _ =>
      refine ⟨b', n, hbefore, by simp [hheld], hlabel, ?_⟩
      intro m hm
      rw [hheld] at hm
      rcases List.mem_cons.mp hm with rfl | hm
      · exact Nat.le_refl m
      · have hpairwise := hordered.1
        rw [hheld] at hpairwise
        exact Nat.le_of_lt (List.rel_of_pairwise_cons hpairwise hm)
  | other he _ => cases he

/-- Events without pushes and releases leave the ledger as it is. -/
theorem entered_of_noTrade {b : Ledger} {es : List Event} (h : Loop.Lacks Event.isTrade es) :
    Entered b es b := by
  induction es with
  | nil => exact .nil
  | cons e es ih =>
      refine .other (h e (by simp)) (ih fun e' he' => h e' (List.mem_cons_of_mem e he'))

/-- **Tracks** — the sources that a ledger holds are those on the stack, and the first source of all
is the last one to be released. -/
structure Tracks (b : Ledger) (root : Label) (sources : List Source) : Prop where
  /-- The sources held are those on the stack. -/
  labels : b.held.map (b.pushed[·]?) = sources.map (some ·.label)
  /-- Every source pushed is either held or was released once. -/
  once : (b.released ++ b.held).Perm (List.range b.pushed.length)
  /-- If what is held is released, the last one first, the first source is the last one. -/
  last : (b.released ++ b.held).getLast? = some 0
  /-- No source after the first one is a first source. -/
  nested : ∃ nested, b.pushed = root :: nested ∧ ∀ label ∈ nested, label.primordial = false

namespace Tracks

variable {b : Ledger} {root : Label} {sources rest : List Source} {s : Source}

/-- The first source is pushed on an empty stack. -/
theorem start (root : Label) (s : Source) (hs : s.label = root) :
    (Ledger.push {} root).Tracks root [s] where
  labels := by simp [push, hs]
  once := by simp [push]
  last := rfl
  nested := ⟨[], by simp [push], by simp⟩

/-- A nested source is pushed on sources that are held. -/
theorem push (h : b.Tracks root sources) (hs : s.primordial = false) (hne : sources ≠ []) :
    (b.push s.label).Tracks root (s :: sources) where
  labels := by
    -- The numbers held are those of earlier pushes, whose labels stay where they are.
    have hheld : ∀ n ∈ b.held, (b.pushed ++ [s.label])[n]? = b.pushed[n]? := by
      intro n hn
      have hmem : n ∈ List.range b.pushed.length :=
        h.once.mem_iff.mp (List.mem_append_right b.released hn)
      exact List.getElem?_append_left (List.mem_range.mp hmem)
    rw [Ledger.push, List.map_cons, List.map_cons, List.map_congr_left hheld, h.labels]
    simp
  once := by
    have hmove : (b.released ++ b.pushed.length :: b.held).Perm
        (b.pushed.length :: (b.released ++ b.held)) := List.perm_middle
    refine hmove.trans ?_
    rw [Ledger.push, List.length_append, List.length_singleton, List.range_succ]
    exact (h.once.cons _).trans (List.perm_append_singleton _ _).symm
  last := by
    -- Something is held below the new source, so the new one is not the last to be released.
    have hheld : b.held ≠ [] := by
      intro hnil
      have hlabels := h.labels
      rw [hnil] at hlabels
      exact hne (by simpa using hlabels.symm)
    obtain ⟨n, held, hcons⟩ := List.exists_cons_of_ne_nil hheld
    have hlast := h.last
    simp only [Ledger.push, hcons] at hlast ⊢
    simpa [List.getLast?_append] using hlast
  nested := by
    obtain ⟨nested, hpushed, hnested⟩ := h.nested
    refine ⟨nested ++ [s.label], by simp [Ledger.push, hpushed], ?_⟩
    intro label hlabel
    rcases List.mem_append.mp hlabel with hlabel | hlabel
    · exact hnested label hlabel
    · rw [List.mem_singleton.mp hlabel]
      exact hs

/-- The top source is released. -/
theorem release (h : b.Tracks root (s :: rest)) :
    ∃ b', Entered b [.released s] b' ∧ b'.Tracks root rest := by
  obtain ⟨n, held, hheld⟩ : ∃ n held, b.held = n :: held := by
    apply List.exists_cons_of_ne_nil
    intro hnil
    have hlabels := h.labels
    rw [hnil] at hlabels
    cases hlabels
  have hlabels := h.labels
  rw [hheld, List.map_cons, List.map_cons] at hlabels
  obtain ⟨hlabel, hrest⟩ := List.cons.inj hlabels
  have hmove : b.released ++ b.held = b.released ++ [n] ++ held := by
    rw [hheld, List.append_assoc, List.singleton_append]
  refine ⟨_, .release hheld hlabel .nil, hrest, ?_, ?_, h.nested⟩
  · rw [← hmove]
    exact h.once
  · rw [← hmove]
    exact h.last

/-- What is on the stack is released, top first. -/
theorem releaseAll (h : b.Tracks root sources) :
    ∃ b', Entered b (Stack.releaseAll sources) b' ∧ b'.Tracks root [] := by
  induction sources generalizing b with
  | nil => exact ⟨b, .nil, h⟩
  | cons s rest ih =>
      obtain ⟨b', hentered, htracks⟩ := h.release
      obtain ⟨b'', hentered', htracks'⟩ := ih htracks
      exact ⟨b'', .other rfl (hentered.append hentered'), htracks'⟩

end Tracks

end Ledger

/-! ## The ledger of a turn -/

namespace Loop

open Ledger

variable {ε : Type} {h : Host ε} {l : Loop ε} {b₀ b : Ledger} {root : Label} {es : List Event}

/-- Whatever the session itself changes is no trade. -/
theorem entered_transition (b : Ledger) (st st' : State) : Entered b (transition st st') b :=
  entered_of_noTrade (lacks_transition (fun _ _ => rfl) st st')

theorem entered_askCancel (b : Ledger) (l : Loop ε) (n : Nat) : Entered b (l.askCancel n).2 b :=
  entered_of_noTrade (lacks_askCancel rfl l n)

theorem entered_received (b : Ledger) (h : Host ε) (l : Loop ε) (s : Source) :
    Entered b (l.received h s).2 b :=
  entered_of_noTrade (lacks_received (fun _ => rfl) rfl h l s)

theorem entered_records (b : Ledger) (l : Loop ε) (v : Verdict) : Entered b (v.records l) b :=
  entered_of_noTrade (lacks_records (fun _ _ => rfl) (fun _ => rfl) l v)

theorem entered_goOn {e : Signal} (he : Entered b₀ es b) (hb : b.Tracks root l.stack.sources) :
    ∃ b', Entered b₀ (l.goOn es e).events b' ∧
      b'.Tracks root (l.goOn es e).loop.stack.sources := by
  refine ⟨b, ?_, hb⟩
  rw [goOn_events]
  exact he.append (entered_transition b _ _)

/-- Leaving the loop releases what is left. -/
theorem entered_leave {e : Exit} (he : Entered b₀ es b) (hb : b.Tracks root l.stack.sources) :
    ∃ b', Entered b₀ (l.leave es e).events b' ∧
      b'.Tracks root (l.leave es e).loop.stack.sources := by
  rw [leave_events, leave_loop, release_events]
  by_cases hempty : l.stack.isEmpty
  · rw [if_pos hempty, List.append_nil]
    rw [Stack.isEmpty_iff.mp hempty] at hb
    exact ⟨b, he, hb⟩
  · rw [if_neg hempty]
    obtain ⟨b', hentered, htracks⟩ := hb.releaseAll
    exact ⟨b', he.append (.other rfl hentered), htracks⟩

/-- A read that leaves the source in its place changes no label. -/
theorem tracks_received (hc : h.Consumes) {s : Source} {rest : List Source}
    (hs : l.stack.sources = s :: rest) (hb : b.Tracks root l.stack.sources) :
    b.Tracks root (l.received h s).1.stack.sources := by
  rw [received_sources h hs, hc.source_eq]
  rw [hs] at hb
  exact ⟨hb.labels, hb.once, hb.last, hb.nested⟩

/-- Requests push sources on top of one another. -/
theorem entered_carryOutAll {rs : List Request} (hne : l.stack.sources ≠ [])
    (hb : b.Tracks root l.stack.sources) :
    ∃ b', Entered b (l.carryOutAll rs).2 b' ∧
      b'.Tracks root (l.carryOutAll rs).1.stack.sources := by
  induction rs generalizing l b with
  | nil => exact ⟨b, .nil, hb⟩
  | cons r rs ih =>
      -- The stack stays occupied, so that no request pushes a first source.
      suffices ∃ b', Entered b (l.carryOut r).2 b' ∧ (l.carryOut r).1.stack.sources ≠ [] ∧
          b'.Tracks root (l.carryOut r).1.stack.sources by
        obtain ⟨b', hentered, hne', htracks⟩ := this
        obtain ⟨b'', hentered', htracks'⟩ := ih hne' htracks
        exact ⟨b'', hentered.append hentered', htracks'⟩
      cases r with
      | push source =>
          have hpush := hb.push (s := { source with primordial := false }) rfl hne
          exact ⟨_, .push .nil, by simp [carryOut], hpush⟩
      | close => exact ⟨b, entered_transition b _ _, hne, hb⟩
      | cancel =>
          refine ⟨b, entered_askCancel b l 1, ?_⟩
          rw [carryOut, askCancel_loop]
          exact ⟨hne, hb⟩
      | note n => exact ⟨b, .other rfl .nil, hne, hb⟩

theorem entered_carried (hne : l.stack.sources ≠ []) (hb : b.Tracks root l.stack.sources) :
    ∃ b', Entered b (l.carried h).2 b' ∧ b'.Tracks root (l.carried h).1.stack.sources :=
  entered_carryOutAll (l := { l with env := (l.reaction h).env }) hne hb

/-- A source is left; the first one takes along what is below it. -/
theorem entered_unwind {s : Source} {rest : List Source} (hs : l.stack.sources = s :: rest)
    (hr : s.primordial = false → rest ≠ []) (hb : b.Tracks root l.stack.sources) :
    ∃ b', Entered b l.unwind.events b' ∧ b'.Tracks root l.unwind.loop.stack.sources := by
  rw [hs] at hb
  obtain ⟨b', hentered, htracks⟩ := hb.release
  cases hp : s.primordial with
  | false =>
      rw [unwind_nested hs hp (hr hp)]
      refine entered_goOn (.other rfl hentered) ?_
      rw [Stack.sources_below, hs]
      exact htracks
  | true =>
      obtain ⟨b'', hentered', htracks'⟩ := htracks.releaseAll
      rw [unwind_primordial hs hp]
      exact entered_goOn (.other rfl (hentered.append hentered')) htracks'

/-- **Every turn keeps the ledger in step with the stack**, whether it goes on or leaves. -/
theorem entered_step (hc : h.Consumes) {first : Source} {below : List Source}
    (hl : l.Sound first below) (hb : b.Tracks root l.stack.sources) :
    ∃ b', Entered b (l.step h).events b' ∧ b'.Tracks root (l.step h).loop.stack.sources := by
  have hread := fun s => entered_received b h l s
  have hfinish : ∃ b', Entered b l.finish.events b' ∧ b'.Tracks root l.finish.loop.stack.sources :=
    entered_leave (.other rfl .nil) hb
  have w := way_step h l
  generalize l.step h = turn at w
  cases w with
  | honours => exact entered_leave (.other rfl .nil) hb
  | lacksSource => exact hfinish
  | @askPanics s => exact entered_leave (l := l.inspected h s) .nil hb
  | @begins s => exact entered_goOn (l := l.inspected h s) (.other rfl .nil) hb
  | lacksInput => exact hfinish
  | @readPanics s _ _ _ hs => exact entered_leave (hread s) (tracks_received hc hs hb)
  | @reads s rest text _ hs =>
      refine entered_goOn ((hread s).append (.other rfl .nil)) ?_
      have htracks := tracks_received hc hs hb
      rw [received_sources h hs] at htracks
      rw [Stack.sources_mapCurrent, received_sources h hs]
      exact ⟨htracks.labels, htracks.once, htracks.last, htracks.nested⟩
  | @ends s _ _ hs =>
      exact entered_goOn ((hread s).append (.other rfl .nil)) (tracks_received hc hs hb)
  | @fails s _ _ _ hs =>
      exact entered_goOn ((hread s).append (.other rfl (.other rfl .nil)))
        (tracks_received hc hs hb)
  | dispatchPanics hn =>
      obtain ⟨b', hentered, htracks⟩ :=
        entered_carried (h := h) (hl.rooted (by simp [hn])).ne_nil hb
      exact entered_leave hentered htracks
  | @dispatches v hn =>
      obtain ⟨b', hentered, htracks⟩ :=
        entered_carried (h := h) (hl.rooted (by simp [hn])).ne_nil hb
      have hrecords := entered_records b' (l.carried h).1 v
      refine entered_goOn (hentered.append (.other rfl hrecords)) ?_
      rw [judged_stack]
      exact htracks
  | leaves hn =>
      have hr := hl.rooted (by simp [hn])
      obtain ⟨s, rest, hs⟩ := List.exists_cons_of_ne_nil hr.ne_nil
      rw [hs] at hr
      exact entered_unwind hs (fun hp => (hr.pop hl.primordial hp).ne_nil) hb
  | stops => exact hfinish

/-- **Accounted** — the events so far can be entered in a ledger that tracks the stack. -/
def Accounted (root : Label) (past : List Event) (l : Loop ε) : Prop :=
  ∃ b, Entered {} past b ∧ b.Tracks root l.stack.sources

theorem Accounted.askCancel {past : List Event} (n : Nat) (hp : l.Accounted root past) :
    (l.askCancel n).1.Accounted root (past ++ (l.askCancel n).2) := by
  obtain ⟨b, hentered, htracks⟩ := hp
  refine ⟨b, hentered.append (entered_askCancel b l n), ?_⟩
  rw [askCancel_loop]
  exact htracks

theorem Accounted.step (hc : h.Consumes) {first : Source} {below : List Source} {past : List Event}
    (hl : l.Sound first below) (hp : l.Accounted root past) :
    (l.step h).loop.Accounted root (past ++ (l.step h).events) := by
  obtain ⟨b, hentered, htracks⟩ := hp
  obtain ⟨b', hentered', htracks'⟩ := entered_step hc hl htracks
  exact ⟨b', hentered.append hentered', htracks'⟩

/-- A turn that leaves the loop leaves nothing on the stack. -/
theorem stack_of_exit {e : Exit} (he : (l.step h).exit = some e) :
    (l.step h).loop.stack = .empty := by
  have w := way_step h l
  generalize l.step h = turn at he w ⊢
  cases w with
  | honours => simp
  | lacksSource => simp [finish]
  | askPanics => simp
  | begins => cases he
  | lacksInput => simp [finish]
  | readPanics => simp
  | reads => cases he
  | ends => cases he
  | fails => cases he
  | dispatchPanics => simp
  | dispatches => cases he
  | leaves => cases he
  | stops => simp [finish]

end Loop

/-! ## The ledger of a run -/

namespace Session

open Ledger

variable {ε : Type} {s : Session ε} {e : Exit}

/-- A new run starts with the push of its first source. -/
theorem accounted_enter (h : Host ε) (c : Bool) (hs : s.stack = .empty) :
    (s.enter h c).1.Accounted (s.root h).label (s.enter h c).2 := by
  refine ⟨_, (Loop.entered_transition {} _ _).append (.push .nil), ?_⟩
  rw [enter_sources, hs]
  exact .start _ _ rfl

/-- A run that is over leaves nothing on the stack if nothing was there before. -/
theorem stack_of_runAsked (h : Host ε) (asks : Nat → Nat) (n : Nat) (c : Bool)
    (hs : s.stack = .empty) (he : (s.runAsked h asks n c).exit = some e) :
    (s.runAsked h asks n c).session.stack = .empty := by
  by_cases hopen : s.state = .closing
  · rw [runAsked_of_closing h asks n c hopen]
    exact hs
  · rw [runAsked_of_open h asks n c hopen] at he ⊢
    exact Loop.followAsked_exit (fun _ _ _ => True) (fun _ _ l _ => l.stack = .empty)
      (fun _ _ _ _ _ => trivial) (fun _ _ _ _ _ => trivial)
      (fun _ _ _ _ _ hexit => Loop.stack_of_exit hexit) [] trivial he

/-- The ledger of the events of a run that is over tracks that nothing is on the stack. -/
theorem accounted_runAsked {h : Host ε} (hc : h.Consumes) (asks : Nat → Nat) (n : Nat) (c : Bool)
    (hopen : s.state ≠ .closing) (hs : s.stack = .empty)
    (he : (s.runAsked h asks n c).exit = some e) :
    ∃ b, Entered {} (s.runAsked h asks n c).events b ∧ b.Tracks (s.root h).label [] := by
  have hempty := stack_of_runAsked h asks n c hs he
  rw [runAsked_of_open h asks n c hopen] at he hempty ⊢
  have hsound := enter_sound h c hopen
  obtain ⟨b, hentered, htracks⟩ := Loop.followAsked_exit
    (fun _ past l => l.Sound (s.root h) s.stack.sources ∧ l.Accounted (s.root h).label past)
    (fun _ past l _ => l.Accounted (s.root h).label past)
    (fun _ _ _ n ⟨hl, hp⟩ => ⟨hl.askCancel n, hp.askCancel n⟩)
    (fun _ _ _ ⟨hl, hp⟩ hexit => ⟨hl.step hc hexit, hp.step hc hl⟩)
    (fun _ _ _ _ ⟨hl, hp⟩ _ => hp.step hc hl)
    _ ⟨hsound, accounted_enter h c hs⟩ he
  have hnone : (Loop.followAsked h asks n (s.enter h c).1).loop.stack = .empty := hempty
  rw [hnone] at htracks
  exact ⟨b, hentered, htracks⟩

/-- **Every source is released once, the latest first.** However a run is left, and whenever it is
asked to stop, nothing is on the stack in the end. If the reader leaves the sources in their places,
the events can be entered in a ledger, and nothing is held in the end. Wherever a source is
released, no source pushed after it is held. A session that is not closing pushes its first source
before all others and releases it after them. -/
theorem runAsked_releases (h : Host ε) (asks : Nat → Nat) (n : Nat) (c : Bool) (s : Session ε)
    (hs : s.stack = .empty) (e : Exit) (he : (s.runAsked h asks n c).exit = some e) :
    (s.runAsked h asks n c).session.stack = .empty ∧
      (h.Consumes →
        (∃ b, Entered {} (s.runAsked h asks n c).events b ∧ b.held = [] ∧
          b.released.Perm (List.range b.pushed.length) ∧
          (∀ label ∈ b.pushed.tail, label.primordial = false) ∧
          (s.state ≠ .closing →
            b.pushed.head? = some (s.root h).label ∧ b.released.getLast? = some 0)) ∧
        ∀ before source after,
          (s.runAsked h asks n c).events = before ++ .released source :: after →
            ∃ b n, Entered {} before b ∧ n ∈ b.held ∧ b.pushed[n]? = some source.label ∧
              ∀ m ∈ b.held, m ≤ n) := by
  refine ⟨stack_of_runAsked h asks n c hs he, fun hc => ?_⟩
  have hlatest : ∀ b, Entered {} (s.runAsked h asks n c).events b → ∀ before source after,
      (s.runAsked h asks n c).events = before ++ .released source :: after → _ :=
    fun b hentered before source after heq => (heq ▸ hentered).release_latest
  by_cases hopen : s.state = .closing
  · have hrun := runAsked_of_closing h asks n c hopen
    have hentered : Entered {} (s.runAsked h asks n c).events {} := by
      rw [hrun]
      exact .other rfl .nil
    exact ⟨⟨{}, hentered, rfl, by simp, by simp, fun hnot => absurd hopen hnot⟩,
      hlatest _ hentered⟩
  · obtain ⟨b, hentered, htracks⟩ := accounted_runAsked hc asks n c hopen hs he
    have hheld : b.held = [] := by simpa using htracks.labels
    have honce := htracks.once
    have hlast := htracks.last
    rw [hheld, List.append_nil] at honce hlast
    obtain ⟨nested, hpushed, hnested⟩ := htracks.nested
    refine ⟨⟨b, hentered, hheld, honce, ?_, fun _ => ⟨?_, hlast⟩⟩, hlatest b hentered⟩
    · rw [hpushed]
      exact hnested
    · rw [hpushed]
      rfl

/-- A person types `a`, which reads the scripts `x` and `y`. -/
def panickingInclude : Session Console :=
  { number := 0, env := {}, primary := some (.ofText "tty" true "a\n") }

/-- The line of `y` panics after it has pushed another source. -/
def panickingIncludeHost : Host Console :=
  Playbook.host [
    ("a", { deeds := [.push (.ofText "x" false "c\n"), .push (.ofText "y" false "d\n")] }),
    ("d", { deeds := [.push (.ofText "z" true ""), .panic] })]

theorem panickingInclude_releases :
    panickingInclude.stack = .empty ∧
      (panickingInclude.runAsked panickingIncludeHost (fun i => i % 2) 30 false).exit
        = some (.panicked ⟨"dispatcher panic on d"⟩) ∧
      (panickingInclude.runAsked panickingIncludeHost (fun i => i % 2) 30 false).session.stack
        = .empty ∧
      ∃ b, Entered {}
        (panickingInclude.runAsked panickingIncludeHost (fun i => i % 2) 30 false).events b ∧
        b.held = [] ∧ b.released.Perm (List.range b.pushed.length) := by
  have hexit : (panickingInclude.runAsked panickingIncludeHost (fun i => i % 2) 30 false).exit
      = some (.panicked ⟨"dispatcher panic on d"⟩) := by decide
  obtain ⟨hstack, hconsumes⟩ :=
    runAsked_releases panickingIncludeHost (fun i => i % 2) 30 false panickingInclude rfl _ hexit
  obtain ⟨⟨b, hentered, hheld, honce, _⟩, _⟩ := hconsumes (Playbook.host_consumes _)
  exact ⟨rfl, hexit, hstack, b, hentered, hheld, honce⟩

/-- The reader takes the first source away: the run has pushed it and never releases it, and the
reader still has it when the run has completed. -/
theorem taking_keeps :
    (create 0 [] : Session (List Source)).stack = .empty ∧
      ((create 0 []).runAsked Host.taking (fun _ => 0) 10 false).exit
        = some (.outcome .completed) ∧
      .logged (.sourcePushed "main" true false 1) ∈
        ((create 0 []).runAsked Host.taking (fun _ => 0) 10 false).events ∧
      (∀ source ∈ releases ((create 0 []).runAsked Host.taking (fun _ => 0) 10 false).events,
        source.name ≠ "main") ∧
      ((create 0 []).runAsked Host.taking (fun _ => 0) 10 false).session.env.map Source.name
        = ["main", "other"] := by
  decide

end Session

end CommandShell
