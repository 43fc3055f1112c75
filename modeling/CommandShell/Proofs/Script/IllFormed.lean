import CommandShell.Proofs.Script.Broken

/-!
# Bytes that are no text

What a reader makes of bytes that are no text depends on who is asked for the line. A source whose
stream is read itself gives every line, with U+FFFD for what is not well-formed, so that a run sees
no difference from the text that the bytes are shown as (`Rewrites`). A person at the terminal gives
a line through the line editor: it consumes a line that is no text, and fails, and the loop leaves
the source. `illFormed_replaced_unless_typed` says both. So the lines behind such a line are lost
if, and only if, they are typed.

A line is text exactly if what stands before it and behind it would be (`decode?_lines`), since no
encoding goes over the end of a line.
-/

namespace CommandShell

open CommandShell.Text
open CommandShell.Files

/-! ## Lines that are text -/

/-- A line feed in the encoding of a text stands for one in the text. -/
theorem lineFeed_mem_of_encode {s : String} (h : lineFeed ∈ encode s) : '\n' ∈ s.toList := by
  obtain ⟨c, hc, hmem⟩ := List.mem_flatMap.mp h
  rw [← eq_of_lineFeed_mem hmem]
  exact hc

theorem decode?_ne_none_iff {bs : Bytes} : decode? bs ≠ none ↔ encode (decode bs) = bs := by
  constructor
  · intro h
    obtain ⟨s, hs⟩ := Option.ne_none_iff_exists'.mp h
    obtain rfl := decode?_eq_some_iff.mp hs
    rw [decode_encode]
  · intro h
    rw [decode?_eq_some_iff.mpr h.symm]
    exact Option.some_ne_none _

/-- The text that bytes with a line feed are shown as. -/
theorem decode_append_lineFeed (before after : Bytes) :
    (decode (before ++ lineFeed :: after)).toList =
      (decode before).toList ++ '\n' :: (decode after).toList :=
  (shows_decode _).unique ((shows_decode before).append_lineFeed (shows_decode after))

/-- Bytes with a line feed are text exactly if what stands before it and behind it is. -/
theorem decode?_append_lineFeed {before : Bytes} (h : lineFeed ∉ before) (after : Bytes) :
    decode? (before ++ lineFeed :: after) ≠ none ↔
      decode? before ≠ none ∧ decode? after ≠ none := by
  have hencode : encode (decode (before ++ lineFeed :: after)) =
      encode (decode before) ++ lineFeed :: encode (decode after) := by
    unfold encode
    rw [decode_append_lineFeed, List.flatMap_append, List.flatMap_cons]
    rfl
  have hnone : lineFeed ∉ encode (decode before) := fun hmem =>
    h ((shows_decode before).lineFeed_mem (lineFeed_mem_of_encode hmem))
  rw [decode?_ne_none_iff, decode?_ne_none_iff, decode?_ne_none_iff, hencode]
  constructor
  · intro heq
    -- The first line feed is at the same place on both sides.
    obtain ⟨hfirst, hafter⟩ := firstLine_of_feed hnone (encode (decode after))
    rw [heq, (firstLine_of_feed h after).1] at hfirst
    rw [heq, (firstLine_of_feed h after).2] at hafter
    exact ⟨(List.append_cancel_right hfirst).symm, hafter.symm⟩
  · rintro ⟨hbefore, hafter⟩
    rw [hbefore, hafter]

/-- **Bytes are text exactly if each of their lines is.** -/
theorem decode?_lines (bs : Bytes) :
    decode? bs ≠ none ↔ decode? (firstLine bs) ≠ none ∧ decode? (afterLine bs) ≠ none := by
  obtain ⟨-, hfirst, hafter⟩ | ⟨hfeed, hsplit, hfirst⟩ := firstLine_cases bs
  · rw [hfirst, hafter]
    exact ⟨fun h => ⟨h, by decide⟩, And.left⟩
  · generalize bs.takeWhile (· != lineFeed) = before at hfeed hsplit hfirst
    have hwhole := decode?_append_lineFeed hfeed (afterLine bs)
    have hline := decode?_append_lineFeed hfeed []
    rw [← hsplit] at hwhole
    rw [hfirst, hwhole, hline]
    exact ⟨fun h => ⟨⟨h.1, by decide⟩, h.2⟩, fun h => ⟨h.1.1, h.2⟩⟩

/-- What stands behind the first line is shown as it would be alone. -/
theorem shows_afterLine {bs : Bytes} {cs : List Char} (h : Shows bs cs) :
    Shows (afterLine bs) ((cs.dropWhile (· != '\n')).drop 1) := by
  obtain ⟨hfeed, -, hafter⟩ | ⟨hfeed, hsplit, -⟩ := firstLine_cases bs
  · have hnone : '\n' ∉ cs := fun hmem => hfeed (h.lineFeed_mem hmem)
    have hdrop : cs.dropWhile (· != '\n') = [] := by
      rw [List.dropWhile_eq_nil_iff]
      rintro c hc
      rw [bne_iff_ne]
      rintro rfl
      exact hnone hc
    rw [hafter, hdrop]
    exact .nil
  · generalize bs.takeWhile (· != lineFeed) = before at hfeed hsplit
    have hbefore := shows_decode before
    have hbehind := shows_decode (afterLine bs)
    have hcs := hbefore.append_lineFeed hbehind
    rw [← hsplit] at hcs
    obtain rfl := h.unique hcs
    have hnone : ∀ c ∈ (decode before).toList, (c != '\n') = true := by
      rintro c hc
      rw [bne_iff_ne]
      rintro rfl
      exact hfeed (hbefore.lineFeed_mem hc)
    rw [List.dropWhile_append_of_pos hnone]
    exact hbehind

/-! ## Streams that show the same text -/

namespace Stream

/-- **Rewrites** — the other stream gives the text that the bytes of this one are shown as. -/
def Rewrites (s s' : Stream) : Prop :=
  ∃ bs, s.Delivers bs ∧ s'.Delivers (encode (decode bs))

/-- Streams whose bytes are shown as the same text have the same lines. -/
theorem sameLines_of_shows {s s' : Stream} {bs bs' : Bytes} {cs : List Char} (hs : s.Delivers bs)
    (hs' : s'.Delivers bs') (h : Shows bs cs) (h' : Shows bs' cs) : s.SameLines s' := by
  induction hlength : bs.length using Nat.strongRecOn generalizing bs bs' cs s s' with
  | ind n ih =>
      obtain ⟨hresult, hrest⟩ := hs.takeLine
      obtain ⟨hresult', hrest'⟩ := hs'.takeLine
      have hcancels := hs'.cancels_eq.trans hs.cancels_eq.symm
      by_cases hbs : bs = []
      · subst hbs
        obtain rfl := h.of_nil
        have hbs' : bs' = [] := by
          by_contra hne
          exact h'.ne_nil hne rfl
        subst hbs'
        exact .noLine (by rw [hresult]; rfl) (by rw [hresult']; rfl) hcancels
      · have hbs' : bs' ≠ [] := by
          rintro rfl
          exact h.ne_nil hbs h'.of_nil
        -- The first lines are the first line of the text.
        obtain ⟨ds, -, hlines⟩ := textLines_cons h hbs
        obtain ⟨ds', -, hlines'⟩ := textLines_cons h' hbs'
        obtain ⟨hline, -⟩ := List.cons.inj (hlines.symm.trans hlines')
        have hfirst := ofTaken_firstLine hbs
        have hfirst' := ofTaken_firstLine hbs'
        rw [← hline] at hfirst'
        refine .line (hresult ▸ hfirst) (hresult' ▸ hfirst') hcancels ?_
        exact ih _ (hlength ▸ length_afterLine_lt hbs) hrest hrest' (shows_afterLine h)
          (shows_afterLine h') rfl

/-- **A text has the same lines as the bytes that are shown as it.** -/
theorem Rewrites.sameLines {s s' : Stream} (h : s.Rewrites s') : s.SameLines s' := by
  obtain ⟨bs, hs, hs'⟩ := h
  have hshows := shows_decode (encode (decode bs))
  rw [decode_encode] at hshows
  exact sameLines_of_shows hs hs' (shows_decode bs) hshows

end Stream

/-! ## Lines that are typed -/

namespace LineReader

variable {r : LineReader} {c : Console} {s : Source} {bs : Bytes}

/-- A line that a person types is taken from standard input, and the stream of the source is left
alone. -/
theorem read_typed (h : ¬r.Plainly s) (hs : c.unread.Delivers bs) :
    (r.read c s).result = LineResult.ofTyped (.ok (firstLine bs)) ∧
      (r.read c s).env.unread.Delivers (afterLine bs) := by
  obtain ⟨kind, prompt⟩ := r
  obtain ⟨hkind, hi⟩ := not_or.mp h
  obtain ⟨hresult, hrest⟩ := hs.takeLine
  cases kind with
  | plain => exact absurd rfl hkind
  | editor promptsAlways =>
      rw [Bool.not_eq_false] at hi
      simp only [read, hi, readTyped]
      rw [hresult]
      exact ⟨rfl, hrest⟩

/-- The line editor fails on a line exactly if it is no text. -/
theorem ofTyped_fails_iff (bs : Bytes) :
    (∃ reason, LineResult.ofTyped (.ok bs) = .ok (.failed reason)) ↔ decode? bs = none := by
  cases bs with
  | nil => exact iff_of_false nofun (by decide)
  | cons b bs =>
      unfold LineResult.ofTyped
      dsimp only
      cases decode? (b :: bs) with
      | none => exact iff_of_true ⟨_, rfl⟩ rfl
      | some text =>
          refine iff_of_false ?_ nofun
          rintro ⟨reason, hreason⟩
          dsimp only at hreason
          split at hreason <;> cases hreason

/-- **Fails** — some answer of the reader is a failure. -/
def Fails (r : LineReader) (c : Console) (s : Source) : Prop :=
  ∃ n reason, .ok (.failed reason) ∈ r.answers n c s

theorem fails_iff : r.Fails c s ↔ (∃ reason, (r.read c s).result = .ok (.failed reason)) ∨
    r.Fails (r.read c s).env (r.read c s).source := by
  constructor
  · rintro ⟨n, reason, hmem⟩
    cases n with
    | zero => cases hmem
    | succ n =>
        rcases List.mem_cons.mp hmem with hfirst | hlater
        · exact .inl ⟨reason, hfirst.symm⟩
        · exact .inr ⟨n, reason, hlater⟩
  · rintro (⟨reason, hfirst⟩ | ⟨n, reason, hlater⟩)
    · exact ⟨1, reason, List.mem_cons.mpr (.inl hfirst.symm)⟩
    · exact ⟨n + 1, reason, List.mem_cons_of_mem _ hlater⟩

/-- At the end of standard input no answer is a failure. -/
theorem not_fails_of_nil (h : ¬r.Plainly s) (hs : c.unread.Delivers []) : ¬r.Fails c s := by
  rintro ⟨n, reason, hmem⟩
  induction n generalizing c s with
  | zero => cases hmem
  | succ n ih =>
      obtain ⟨hresult, hrest⟩ := read_typed h hs
      rcases List.mem_cons.mp hmem with hfirst | hlater
      · rw [hresult] at hfirst
        cases hfirst
      · exact ih (plainly_source_iff.not.mpr h) hrest hlater

/-- **Typed lines fail exactly if one of them is no text.** -/
theorem fails_typed_iff (h : ¬r.Plainly s) (hs : c.unread.Delivers bs) :
    r.Fails c s ↔ decode? bs = none := by
  induction hlength : bs.length using Nat.strongRecOn generalizing bs c s with
  | ind n ih =>
      by_cases hbs : bs = []
      · subst hbs
        exact iff_of_false (not_fails_of_nil h hs) (by decide)
      · obtain ⟨hresult, hrest⟩ := read_typed h hs
        have h' : ¬r.Plainly (r.read c s).source := plainly_source_iff.not.mpr h
        have hlater := ih _ (hlength ▸ length_afterLine_lt hbs) h' hrest rfl
        rw [fails_iff, hlater, hresult, ofTyped_fails_iff]
        rw [← not_iff_not, not_or]
        exact (decode?_lines bs).symm

/-- A source whose stream is read itself never fails on bytes that are no text. -/
theorem not_fails_plainly (h : r.Plainly s) (hs : (s.supply c).Delivers bs) : ¬r.Fails c s := by
  rintro ⟨n, reason, hmem⟩
  rw [answers_eq h hs (shows_decode bs)] at hmem
  obtain ⟨found, hfound, heq⟩ := List.mem_map.mp hmem
  cases heq
  unfold linesThenEnd at hfound
  have hmem := List.mem_of_mem_take hfound
  simp at hmem

end LineReader

/-! ## Runs -/

section Runs

open LineReader

variable {r : LineReader} {δ : Type}

/-- **A typed line that is no text makes the loop leave the source.** The line is consumed, and what
stands behind it is left to be read. -/
theorem Loop.step_typed_fails (tty : Bool) (d : Dispatcher δ) {l : Loop (Console × δ)} {s : Source}
    {rest : List Source} {bs : Bytes} (hn : l.next = .read) (hs : l.stack.sources = s :: rest)
    (h : ¬r.Plainly s) (hbs : l.env.1.unread.Delivers bs) (hno : decode? (firstLine bs) = none) :
    (l.step (r.beside tty d)).exit = none ∧ (l.step (r.beside tty d)).loop.next = .unwind ∧
      (l.step (r.beside tty d)).loop.env.1.unread.Delivers (afterLine bs) := by
  obtain ⟨hresult, hbehind⟩ := LineReader.read_typed h hbs
  obtain ⟨reason, hreason⟩ := (LineReader.ofTyped_fails_iff (firstLine bs)).mpr hno
  have w : Loop.Way (r.beside tty d) l _ := .fails hn hs (hresult.trans hreason)
  have hnoLine : ∀ state : State, (state.respond .noLine).2 = .unwind := by
    intro state
    cases state <;> rfl
  rw [w.step_eq, goOn_exit, goOn_loop, received_loop]
  exact ⟨rfl, hnoLine _, hbehind⟩

/-- **Bytes that are no text are replaced, unless they are typed.** A reader that reads the stream
of a source never fails on bytes: it answers with the lines of the text that they are shown as, with
U+FFFD for what is not well-formed, and then with the end of input. A run on such sources does the
same as the run on the sources with this text. Typed lines, however, fail exactly if one of them is
no text, and the loop leaves the source then, with the later lines not read. -/
theorem illFormed_replaced_unless_typed (r : LineReader) (δ : Type) :
    (∀ (c : Console) (s : Source) (bs : Bytes), r.Plainly s → (s.supply c).Delivers bs →
      ¬r.Fails c s ∧
        ∀ n, r.answers n c s = (linesThenEnd (textLines (decode bs).toList) n).map .ok) ∧
    (∀ (sameInput : Prop) (tty : Bool) (d d' : Dispatcher δ) (s s' : Session (Console × δ)),
      Session.Matches r sameInput Stream.Rewrites tty s s' →
      Dispatcher.Matches r sameInput Stream.Rewrites d d' → ∀ asks n cancellable,
        Run.Agrees sameInput (s.runAsked (r.beside tty d) asks n cancellable)
          (s'.runAsked (r.beside tty d') asks n cancellable)) ∧
    (∀ (c : Console) (s : Source) (bs : Bytes), ¬r.Plainly s → c.unread.Delivers bs →
      (r.Fails c s ↔ decode? bs = none)) ∧
    ∀ (tty : Bool) (d : Dispatcher δ) (l : Loop (Console × δ)) (s : Source) (rest : List Source)
      (bs : Bytes), l.next = .read → l.stack.sources = s :: rest → ¬r.Plainly s →
      l.env.1.unread.Delivers bs → decode? (firstLine bs) = none →
        (l.step (r.beside tty d)).exit = none ∧ (l.step (r.beside tty d)).loop.next = .unwind ∧
          (l.step (r.beside tty d)).loop.env.1.unread.Delivers (afterLine bs) := by
  refine ⟨fun c s bs h hs => ⟨LineReader.not_fails_plainly h hs, ?_⟩, ?_, ?_, ?_⟩
  · exact LineReader.answers_eq h hs (shows_decode bs)
  · intro sameInput tty d d' s s' hs hd
    exact hs.agrees hd fun _ _ => Stream.Rewrites.sameLines
  · exact fun c s bs => LineReader.fails_typed_iff
  · intro tty d l s rest bs
    exact Loop.step_typed_fails tty d

/-- Three lines, of which the second one is no text. -/
def illFormedLines : Bytes := encode "one\n" ++ [0xFF, 0x0A] ++ encode "two\n"

/-- A script with these lines. -/
def illFormedScript : Source :=
  { name := "script", interactive := false, stream := .ofBytes illFormedLines }

/-- A person at whose terminal these lines come in. -/
def typist : Source := { name := "tty", interactive := true, stream := ⟨[], none⟩ }

/-- A session that reads what is typed. -/
def typedSession : Session (Console × Unit) :=
  { number := 1, primary := some typist, env := ({ unread := .ofBytes illFormedLines }, ()) }

/-- A line editor, at a standard input that is no terminal. -/
def lineEditor : LineReader := { kind := .editor false }

/-- A run that is about to read a typed line that is no text. -/
def typedLoop : Loop (Console × Unit) :=
  { session := 1
    state := .ready
    stack := (Stack.empty.push typist true).1
    env := ({ unread := .ofBytes (afterLine illFormedLines) }, ())
    next := .read
    cancellable := false }

/-- A script with the text that the lines are shown as. -/
def shownScript : Source :=
  { illFormedScript with stream := .ofBytes (encode "one\n\uFFFD\ntwo\n") }

theorem illFormedScript_run :
    dispatchedLines (({ typedSession with primary := some illFormedScript } : Session _).runAsked
        (lineEditor.beside false (.readingOn "" typist)) (fun _ => 0) 20 false).events =
        ["one", "\uFFFD", "two"] ∧
      lineEditor.answers 4 {} illFormedScript =
        [.ok (.line "one"), .ok (.line "\uFFFD"), .ok (.line "two"), .ok .endOfInput] ∧
      lineEditor.Fails typedSession.env.1 typist ∧
      (typedLoop.step (lineEditor.beside false (.readingOn "" typist))).loop.next = .unwind := by
  obtain ⟨hanswers, hruns, hfails, hsteps⟩ := illFormed_replaced_unless_typed lineEditor Unit
  have hplain : lineEditor.Plainly illFormedScript := .inr rfl
  have htyped : ¬lineEditor.Plainly typist := by rintro (h | h) <;> cases h
  have hshown : decode illFormedLines = "one\n\uFFFD\ntwo\n" := by decide
  refine ⟨?_, ?_, ?_, ?_⟩
  · have hscripts : Source.Matches lineEditor True Stream.Rewrites illFormedScript shownScript :=
      .own ⟨hplain, by decide⟩ ⟨illFormedLines, ⟨[illFormedLines], rfl, by decide⟩,
        [encode "one\n\uFFFD\ntwo\n"], rfl, by rw [hshown]; decide⟩
    have hsessions : Session.Matches lineEditor True Stream.Rewrites false
        { typedSession with primary := some illFormedScript }
        { typedSession with primary := some shownScript } :=
      { number := rfl
        state := rfl
        stack := ⟨rfl, rfl⟩
        dispatcher := rfl
        console := ⟨rfl, fun _ => rfl⟩
        first := .next hscripts .none }
    have hagree := hruns True false _ _ _ _ hsessions
      (Dispatcher.readingOn_matches "" (.same (s := typist) (.inl trivial))) (fun _ => 0) 20 false
    rw [← dispatchedLines_told, ← hagree.told, dispatchedLines_told]
    decide
  · obtain ⟨-, hall⟩ := hanswers {} illFormedScript illFormedLines hplain
      ⟨[illFormedLines], rfl, by decide⟩
    have hlines : textLines "one\n\uFFFD\ntwo\n".toList = ["one", "\uFFFD", "two"] := by decide
    rw [hall, hshown, hlines]
    rfl
  · exact (hfails _ typist illFormedLines htyped ⟨[illFormedLines], rfl, by decide⟩).mpr
      (by decide)
  · obtain ⟨-, hnext, -⟩ := hsteps false (.readingOn "" typist) typedLoop _ [] _ rfl rfl htyped
      ⟨[afterLine illFormedLines], rfl, rfl⟩ (by decide)
    exact hnext

/-- The line editor fails on the second line that is typed, and the run completes without the third
one, though the same lines in a script are all dispatched. -/
theorem typed_lines_lost :
    lineEditor.Fails typedSession.env.1 typist ∧
      dispatchedLines (typedSession.runAsked (lineEditor.beside false (.readingOn "" typist))
        (fun _ => 0) 20 false).events = ["one"] ∧
      (typedSession.runAsked (lineEditor.beside false (.readingOn "" typist))
        (fun _ => 0) 20 false).exit = some (.outcome .completed) := by
  refine ⟨⟨2, .notText, ?_⟩, by decide, by decide⟩
  decide

end Runs

end CommandShell
