import CommandShell.Proofs.Script.Lines
import CommandShell.Proofs.Session.Turns
import Mathlib.Data.List.Forall2

/-!
# Sources that stand for others

Two streams may differ in their bytes and in the way in which these come, and one may fail where the
other is at its end, and a reader gets the same lines of both all the same (`Stream.SameLines`). A
source then stands for another one that has another stream (`Source.Matches`). The sources on two
stacks may match one by one; if the runs find different standard inputs, only the first source of
each may read it (`Matched`). What a reader gets of the top sources agrees, and the stacks match
again (`Matched.read`), until there is no line: nothing is known then of the streams of the top
sources, and nothing needs to be, since they are left before anything else is read of them.

`told` is what two runs on such stacks have in common.
-/

namespace CommandShell

open CommandShell.Files
open CommandShell.Log

/-! ## What is told of a run -/

/-- The event with a failed read told as an end of input, and a stream that is closed not looked at.
-/
def Event.told? : Event → Option Event
  | .readFailed source before _ => some (.lineRead source before none)
  | .logged (.readFailed ..) => none
  | .released s => some (.released { s with stream := ⟨[], none⟩ })
  | e => some e

/-- **told** — the events, with failed reads told as ends of input. Only the records of the failures
are left out, and what was left in the streams that were closed. -/
def told (es : List Event) : List Event := es.filterMap Event.told?

@[simp] theorem told_append (es es' : List Event) : told (es ++ es') = told es ++ told es' :=
  List.filterMap_append

/-- The line that an event dispatches. -/
def Event.dispatched? : Event → Option String
  | .dispatched line .. => some line
  | _ => none

/-- **dispatchedLines** — the lines that were dispatched, in order. -/
def dispatchedLines (es : List Event) : List String := es.filterMap Event.dispatched?

/-- What is told determines the lines that were dispatched … -/
theorem dispatchedLines_told (es : List Event) :
    dispatchedLines (told es) = dispatchedLines es := by
  unfold dispatchedLines told
  rw [List.filterMap_filterMap]
  refine congrArg (es.filterMap ·) (funext fun e => ?_)
  cases e with
  | logged record => cases record <;> rfl
  | _ => rfl

/-- … and what was written. -/
theorem written_told (channel : Channel) (es : List Event) :
    written channel (told es) = written channel es := by
  have hone : ∀ e : Event, written channel (told [e]) = e.bytesOn channel := by
    intro e
    cases e with
    | logged record => cases record <;> rfl
    | noted n => exact List.append_nil _
    | _ => rfl
  induction es with
  | nil => rfl
  | cons e es ih =>
      show written channel (told ([e] ++ es)) = _
      rw [told_append]
      unfold written at hone ih ⊢
      rw [List.flatMap_append, hone, ih, List.flatMap_cons]

/-! ## Streams with the same lines -/

/-- The line that a reader found. -/
def LineResult.line? : LineResult → Option String
  | .line text => some text
  | .endOfInput | .failed _ => none

/-- **Agree** — two readers found the same, but for the reason why there is no line. -/
inductive LineResult.Agree : Except Panic LineResult → Except Panic LineResult → Prop
  | panicked (p : Panic) : Agree (.error p) (.error p)
  | line (text : String) : Agree (.ok (.line text)) (.ok (.line text))
  | noLine {found found' : LineResult} : found.line? = none → found'.line? = none →
      Agree (.ok found) (.ok found')

theorem LineResult.Agree.refl (found : Except Panic LineResult) : Agree found found := by
  rcases found with p | text | _ | reason
  · exact .panicked p
  · exact .line text
  · exact .noLine rfl rfl
  · exact .noLine rfl rfl

namespace Stream

/-- **SameLines** — who reads the streams again and again gets the same lines of both, and is asked
as often to cancel, until there is no line. One stream may be at its end where the other one fails.
-/
inductive SameLines : Stream → Stream → Prop
  | line {s s' : Stream} {text : String} : LineResult.ofTaken s.takeLine.result = .line text →
      LineResult.ofTaken s'.takeLine.result = .line text →
      s'.takeLine.cancels = s.takeLine.cancels → SameLines s.takeLine.rest s'.takeLine.rest →
      SameLines s s'
  | noLine {s s' : Stream} : (LineResult.ofTaken s.takeLine.result).line? = none →
      (LineResult.ofTaken s'.takeLine.result).line? = none →
      s'.takeLine.cancels = s.takeLine.cancels → SameLines s s'

variable {s s' : Stream}

theorem SameLines.agree (h : SameLines s s') :
    LineResult.Agree (.ok (.ofTaken s.takeLine.result)) (.ok (.ofTaken s'.takeLine.result)) := by
  cases h with
  | line hr hr' =>
      rw [hr, hr']
      exact .line _
  | noLine hr hr' => exact .noLine hr hr'

theorem SameLines.cancels_eq (h : SameLines s s') :
    s'.takeLine.cancels = s.takeLine.cancels := by
  cases h with
  | line _ _ hc => exact hc
  | noLine _ _ hc => exact hc

/-- After a line, what is left has the same lines. -/
theorem SameLines.rest {text : String} (h : SameLines s s')
    (hr : LineResult.ofTaken s.takeLine.result = .line text) :
    SameLines s.takeLine.rest s'.takeLine.rest := by
  cases h with
  | line _ _ _ hrest => exact hrest
  | noLine hnone =>
      rw [hr] at hnone
      cases hnone

end Stream

/-! ## A reader beside a dispatcher -/

/-- **Dispatcher** — answers lines at a console, with a state of its own. -/
abbrev Dispatcher (δ : Type) := Console × δ → String → Nat → Reaction (Console × δ)

namespace LineReader

variable {δ : Type} {r : LineReader} {c : Console} {s : Source}

/-- **beside** — the host of the reader and a dispatcher, which share a console. -/
def beside (r : LineReader) (tty : Bool) (d : Dispatcher δ) : Host (Console × δ) where
  standardInput := .ofStandardInput tty
  interactive env source := ⟨env, .ok source.interactive⟩
  read env source :=
    let reading := r.read env.1 source
    { reading with env := (reading.env, env.2) }
  execute := d

theorem beside_consumes (r : LineReader) (tty : Bool) (d : Dispatcher δ) :
    (r.beside tty d).Consumes := fun env source => ⟨_, r.read_source env.1 source⟩

/-- **Owns** — the reader reads the stream of the source, and nothing else. -/
def Owns (r : LineReader) (s : Source) : Prop := r.Plainly s ∧ s.origin ≠ .standardInput

/-- What a source that nobody types is read from. -/
theorem read_eq_readStream (h : r.Plainly s) (c : Console) :
    r.read c s = readStream s c (r.promptNotes s.interactive) := by
  obtain ⟨kind, prompt⟩ := r
  cases kind with
  | plain => rfl
  | editor promptsAlways =>
      have hi : s.interactive = false := h.resolve_left (by simp)
      simp [read, promptNotes, hi]

theorem read_own (h : r.Owns s) (c : Console) :
    r.read c s =
      { source := { s with stream := s.stream.takeLine.rest }
        env := c
        notes := r.promptNotes s.interactive
        cancels := s.stream.takeLine.cancels
        result := .ok (.ofTaken s.stream.takeLine.result) } := by
  rw [read_eq_readStream h.1, readStream]
  cases ho : s.origin with
  | standardInput => exact absurd ho h.2
  | given => rfl
  | file => rfl

/-- A source that reads standard input reads on with what it has read ahead. -/
theorem read_input (h : r.Plainly s) (ho : s.origin = .standardInput) (c : Console) :
    r.read c s = readAhead s c (r.promptNotes s.interactive) := by
  rw [read_eq_readStream h, readStream, ho]

end LineReader

/-! ## What matches -/

/-- **Alike** — the sources are the same but for their streams. -/
def Source.Alike (s s' : Source) : Prop := s' = { s with stream := s'.stream }

section Matching

variable (r : LineReader) (sameInput : Prop) (R : Stream → Stream → Prop)

/-- **Matches** — the consoles are the same, or differ in standard input only. -/
structure Console.Matches (c c' : Console) : Prop where
  sinks : c'.sinks = c.sinks
  input : sameInput → c' = c

/-- **Matches** — a source stands for the other one: it is the same, or has another stream in its
place. If standard input is not the same, neither of them reads it. -/
inductive Source.Matches : Source → Source → Prop
  | same {s : Source} : sameInput ∨ r.Owns s → Matches s s
  | own {s : Source} {stream : Stream} : r.Owns s → R s.stream stream →
      Matches s { s with stream }

/-- **Matched** — the sources on two stacks match one by one. If standard input is not the same, the
first sources of the runs may be those that read it. -/
inductive Matched (c c' : Console) : List Source → List Source → Prop
  | none : Matched c c' [] []
  | next {s s' : Source} {rest rest' : List Source} : Source.Matches r sameInput R s s' →
      Matched c c' rest rest' → Matched c c' (s :: rest) (s' :: rest')
  | input {s : Source} {stream : Stream} : ¬sameInput → r.Plainly s → s.origin = .standardInput →
      R (s.supply c) ({ s with stream }.supply c') → Matched c c' [s] [{ s with stream }]

/-- **Matches** — the requests of two dispatchers are the same but for the sources pushed. -/
inductive Request.Matches : Request → Request → Prop
  | push {s s' : Source} : Source.Matches r sameInput R s s' → Matches (.push s) (.push s')
  | close : Matches .close .close
  | cancel : Matches .cancel .cancel
  | note (n : Note) : Matches (.note n) (.note n)

variable {δ : Type}

/-- **Matches** — the answers of two dispatchers are the same but for the sources pushed. If
standard input is not the same, they leave it alone. -/
structure Reaction.Matches (c c' : Console) (a a' : Reaction (Console × δ)) : Prop where
  result : a'.result = a.result
  dispatcher : a'.env.2 = a.env.2
  console : Console.Matches sameInput a.env.1 a'.env.1
  kept : ¬sameInput → a.env.1.unread = c.unread ∧ a'.env.1.unread = c'.unread
  requests : List.Forall₂ (Request.Matches r sameInput R) a.requests a'.requests

/-- **Matches** — two dispatchers do the same, but for the sources that they push. -/
def Dispatcher.Matches (d d' : Dispatcher δ) : Prop :=
  ∀ c c' x line depth, Console.Matches sameInput c c' →
    Reaction.Matches r sameInput R c c' (d (c, x) line depth) (d' (c', x) line depth)

/-- **Matches** — two sessions are the same but for the source with which the next run starts. -/
structure Session.Matches (tty : Bool) (s s' : Session (Console × δ)) : Prop where
  number : s'.number = s.number
  state : s'.state = s.state
  stack : s.stack = .empty ∧ s'.stack = .empty
  dispatcher : s'.env.2 = s.env.2
  console : Console.Matches sameInput s.env.1 s'.env.1
  first : Matched r sameInput R s.env.1 s'.env.1
    [s.primary.getD (.ofStandardInput tty)] [s'.primary.getD (.ofStandardInput tty)]

/-- **Agrees** — two runs did the same: they tell the same, have the same exit, and leave their
sessions in the same state. -/
structure Run.Agrees (run run' : Run (Console × δ)) : Prop where
  told : told run'.events = told run.events
  exit : run'.exit = run.exit
  number : run'.session.number = run.session.number
  state : run'.session.state = run.session.state
  sources : List.Forall₂ Source.Alike run.session.stack.sources run'.session.stack.sources
  dispatcher : run'.session.env.2 = run.session.env.2
  console : Console.Matches sameInput run.session.env.1 run'.session.env.1

end Matching

variable {r : LineReader} {sameInput : Prop} {R R' : Stream → Stream → Prop} {δ : Type}
variable {c c' e e' : Console} {s s' : Source} {rest rest' : List Source}

/-! ## Other relations of streams -/

theorem Source.Matches.mono (hR : ∀ t t', R t t' → R' t t')
    (h : Source.Matches r sameInput R s s') : Source.Matches r sameInput R' s s' := by
  cases h with
  | same ho => exact .same ho
  | own ho hs => exact .own ho (hR _ _ hs)

theorem Matched.mono (hR : ∀ t t', R t t' → R' t t') (h : Matched r sameInput R c c' rest rest') :
    Matched r sameInput R' c c' rest rest' := by
  induction h with
  | none => exact .none
  | next hs _ ih => exact .next (hs.mono hR) ih
  | input hi hp ho hs => exact .input hi hp ho (hR _ _ hs)

theorem Dispatcher.Matches.mono (hR : ∀ t t', R t t' → R' t t') {d d' : Dispatcher δ}
    (h : Dispatcher.Matches r sameInput R d d') : Dispatcher.Matches r sameInput R' d d' := by
  intro c c' x line depth hc
  have ha := h c c' x line depth hc
  refine { ha with requests := ha.requests.imp fun q q' hq => ?_ }
  cases hq with
  | push hs => exact .push (hs.mono hR)
  | close => exact .close
  | cancel => exact .cancel
  | note n => exact .note n

theorem Session.Matches.mono (hR : ∀ t t', R t t' → R' t t') {tty : Bool}
    {s s' : Session (Console × δ)} (h : Session.Matches r sameInput R tty s s') :
    Session.Matches r sameInput R' tty s s' :=
  { h with first := h.first.mono hR }

/-! ## Sources that match -/

namespace Source.Alike

theorem exists_eq (h : s.Alike s') : ∃ stream, s' = { s with stream } := ⟨_, h⟩

theorem name_eq (h : s.Alike s') : s'.name = s.name := by
  rw [show s' = { s with stream := s'.stream } from h]

theorem interactive_eq (h : s.Alike s') : s'.interactive = s.interactive := by
  rw [show s' = { s with stream := s'.stream } from h]

theorem primordial_eq (h : s.Alike s') : s'.primordial = s.primordial := by
  rw [show s' = { s with stream := s'.stream } from h]

theorem linesRead_eq (h : s.Alike s') : s'.linesRead = s.linesRead := by
  rw [show s' = { s with stream := s'.stream } from h]

end Source.Alike

theorem Source.Matches.alike (h : Source.Matches r sameInput R s s') : s.Alike s' := by
  cases h <;> rfl

/-- The kind of a source that matches does not depend on the count of its lines, nor on whether it
is the first one of a run. -/
theorem Source.Matches.countLine (h : Source.Matches r sameInput R s s') :
    Source.Matches r sameInput R s.countLine s'.countLine := by
  cases h with
  | same ho => exact .same ho
  | own ho hs => exact .own (s := s.countLine) ho hs

theorem Source.Matches.primordial (h : Source.Matches r sameInput R s s') (b : Bool) :
    Source.Matches r sameInput R { s with primordial := b } { s' with primordial := b } := by
  cases h with
  | same ho => exact .same ho
  | own ho hs => exact .own (s := { s with primordial := b }) ho hs

namespace Matched

theorem alike (h : Matched r sameInput R c c' rest rest') :
    List.Forall₂ Source.Alike rest rest' := by
  induction h with
  | none => exact .nil
  | next hs _ ih => exact .cons hs.alike ih
  | input => exact .cons rfl .nil

theorem tail (h : Matched r sameInput R c c' rest rest') :
    Matched r sameInput R c c' rest.tail rest'.tail := by
  cases h with
  | none => exact .none
  | next _ hrest => exact hrest
  | input => exact .none

/-- Sources match at other consoles as well, if nothing was read of standard input meanwhile. -/
theorem atConsoles (h : Matched r sameInput R c c' rest rest')
    (hkept : ¬sameInput → e.unread = c.unread ∧ e'.unread = c'.unread) :
    Matched r sameInput R e e' rest rest' := by
  induction h with
  | none => exact .none
  | next hs _ ih => exact .next hs ih
  | @input s stream hi hp ho hs =>
      obtain ⟨hunread, hunread'⟩ := hkept hi
      refine .input hi hp ho ?_
      rw [Source.supply, Source.supply, hunread, hunread']
      exact hs

/-- The lines of the top sources can be counted. -/
theorem countLine (h : Matched r sameInput R c c' (s :: rest) (s' :: rest')) :
    Matched r sameInput R c c' (s.countLine :: rest) (s'.countLine :: rest') := by
  cases h with
  | next hs hrest => exact .next hs.countLine hrest
  | input hi hp ho hs => exact .input (s := s.countLine) hi hp ho hs

theorem primordial (h : Matched r sameInput R c c' (s :: rest) (s' :: rest')) (b : Bool) :
    Matched r sameInput R c c' ({ s with primordial := b } :: rest)
      ({ s' with primordial := b } :: rest') := by
  cases h with
  | next hs hrest => exact .next (hs.primordial b) hrest
  | input hi hp ho hs => exact .input (s := { s with primordial := b }) hi hp ho hs

end Matched

/-! ## Reading sources that match -/

/-- **Matches** — two reads of the top sources agree. The sources below still match; the top ones do
so if there was a line. -/
structure Reading.Matches (r : LineReader) (sameInput : Prop) (R : Stream → Stream → Prop)
    (s s' : Source) (rest rest' : List Source) (q q' : Reading Console) : Prop where
  notes : q'.notes = q.notes
  cancels : q'.cancels = q.cancels
  result : LineResult.Agree q.result q'.result
  console : Console.Matches sameInput q.env q'.env
  below : Matched r sameInput R q.env q'.env rest rest'
  again : ∀ text, q.result = .ok (.line text) → Matched r sameInput R q.env q'.env
    ({ s with stream := q.stream } :: rest) ({ s' with stream := q'.stream } :: rest')

/-- **What is read of sources that match agrees.** -/
theorem Matched.read (h : Matched r sameInput Stream.SameLines c c' (s :: rest) (s' :: rest'))
    (hc : Console.Matches sameInput c c') :
    Reading.Matches r sameInput Stream.SameLines s s' rest rest' (r.read c s) (r.read c' s') := by
  cases h with
  | next hs hrest =>
      cases hs with
      | same ho =>
          by_cases hi : sameInput
          · -- The consoles are the same, and so are the reads.
            obtain rfl := hc.input hi
            have hbelow : Matched r sameInput Stream.SameLines (r.read c' s).env (r.read c' s).env
                rest rest' := hrest.atConsoles fun hni => absurd hi hni
            exact ⟨rfl, rfl, .refl _, ⟨rfl, fun _ => rfl⟩, hbelow,
              fun _ _ => .next (.same (.inl hi)) hbelow⟩
          · have ho := ho.resolve_left hi
            rw [LineReader.read_own ho, LineReader.read_own ho]
            exact ⟨rfl, rfl, .refl _, hc, hrest, fun _ _ => .next (.same (.inr ho)) hrest⟩
      | @own stream ho hlines =>
          have ho' : r.Owns { s with stream } := ho
          rw [LineReader.read_own ho, LineReader.read_own ho']
          refine ⟨rfl, hlines.cancels_eq, hlines.agree, hc, hrest, fun text hr => ?_⟩
          have hagain := hlines.rest (Except.ok.inj hr)
          exact .next (.own (s := { s with stream := s.stream.takeLine.rest }) ho hagain) hrest
  | @input _ stream hi hp ho hlines =>
      have hp' : r.Plainly { s with stream } := hp
      rw [LineReader.read_input hp ho, LineReader.read_input hp' ho]
      simp only [Source.supply, ho] at hlines
      refine ⟨rfl, hlines.cancels_eq, hlines.agree, ⟨hc.sinks, fun h => absurd h hi⟩, .none,
        fun text hr => ?_⟩
      have hagain := hlines.rest (Except.ok.inj hr)
      refine .input (s := { s with stream := _ }) hi hp ho ?_
      -- What was read ahead and what follows it are together what was left.
      simpa only [Source.supply, ho, LineReader.readAhead, Reading.stream, List.take_append_drop]
        using hagain

/-! ## Dispatchers that read a script -/

namespace Dispatcher

/-- **readingOn** — the dispatcher for which one line asks for a script; the others do nothing. -/
def readingOn (call : String) (script : Source) : Dispatcher Unit := fun env line _ =>
  { requests := if line = call then [.push script] else [], env, result := .ok .ok }

theorem readingOn_matches (call : String) (hs : Source.Matches r sameInput R s s') :
    Dispatcher.Matches r sameInput R (readingOn call s) (readingOn call s') := by
  intro c c' x line depth hc
  refine ⟨rfl, rfl, hc, fun _ => ⟨rfl, rfl⟩, ?_⟩
  unfold readingOn
  dsimp only
  split
  · exact .cons (.push hs) .nil
  · exact .nil

end Dispatcher

end CommandShell
