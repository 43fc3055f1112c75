import CommandShell.Proofs.Script.Reading
import CommandShell.Proofs.Session.Unison
import Mathlib.Data.List.DropRight

/-!
# A stream that breaks

A read may fail when a part of a line is already read. The line is lost then: a stream that breaks
gives the same lines as one that ends behind the last line feed before the failure (`Mends`). What
the chunks and the interrupted reads before the failure are makes no difference, nor does anything
that could be read behind it.

Therefore a run on sources that break does the same as the run on the sources mended
(`mended_run_agrees`): the failure ends its own source and nothing else.
-/

namespace CommandShell

open CommandShell.Text
open CommandShell.Files

/-! ## Lines that are complete -/

/-- **wholeLines** — the bytes up to and including the last line feed. -/
def wholeLines (bs : Bytes) : Bytes := bs.rdropWhile (· != lineFeed)

/-- Nothing is dropped up to a line feed that is not there. -/
theorem dropWhile_feed_eq_nil_iff {bs : Bytes} :
    bs.dropWhile (· != lineFeed) = [] ↔ lineFeed ∉ bs := by
  rw [List.dropWhile_eq_nil_iff]
  constructor
  · intro hall hmem
    have hne := hall lineFeed hmem
    simp at hne
  · intro hnone b hb
    rw [bne_iff_ne]
    rintro rfl
    exact hnone hb

/-- A line takes bytes away. -/
theorem length_afterLine_lt {bs : Bytes} (h : bs ≠ []) : (afterLine bs).length < bs.length := by
  have hle := (List.dropWhile_sublist (· != lineFeed) (l := bs)).length_le
  have hpos := List.length_pos_iff.mpr h
  rw [afterLine, List.length_drop]
  omega

theorem wholeLines_of_none {bs : Bytes} (h : lineFeed ∉ bs) : wholeLines bs = [] := by
  refine List.rdropWhile_eq_nil_iff.mpr fun b hb => ?_
  rw [bne_iff_ne]
  rintro rfl
  exact h hb

theorem wholeLines_append (before after : Bytes) :
    wholeLines (before ++ lineFeed :: after) = before ++ lineFeed :: wholeLines after := by
  induction after using List.reverseRecOn with
  | nil =>
      unfold wholeLines
      rw [List.rdropWhile_concat_neg _ _ _ (by simp), List.rdropWhile_nil]
  | append_singleton after b ih =>
      unfold wholeLines at ih ⊢
      rw [← List.cons_append, ← List.append_assoc, List.rdropWhile_concat, List.rdropWhile_concat]
      split
      · exact ih
      · rw [List.append_assoc, List.cons_append]

/-- The first line feed ends the first line. -/
theorem firstLine_of_feed {before : Bytes} (h : lineFeed ∉ before) (after : Bytes) :
    firstLine (before ++ lineFeed :: after) = before ++ [lineFeed] ∧
      afterLine (before ++ lineFeed :: after) = after :=
  firstLine_append_of_all (lineFeed :: after) (dropWhile_feed_eq_nil_iff.mpr h)

/-- The first of the complete lines is the first line, if it is complete. -/
theorem firstLine_wholeLines {bs : Bytes} (h : lineFeed ∈ bs) :
    firstLine (wholeLines bs) = firstLine bs ∧
      afterLine (wholeLines bs) = wholeLines (afterLine bs) := by
  obtain ⟨hnone, -, -⟩ | ⟨hbefore, hsplit, -⟩ := firstLine_cases bs
  · exact absurd h hnone
  · have hwhole := wholeLines_append (bs.takeWhile (· != lineFeed)) (afterLine bs)
    rw [← hsplit] at hwhole
    obtain ⟨hfirst, -⟩ := firstLine_of_feed hbefore (afterLine bs)
    obtain ⟨hfirst', hafter'⟩ := firstLine_of_feed hbefore (wholeLines (afterLine bs))
    rw [← hsplit] at hfirst
    rw [hwhole, hfirst, hfirst', hafter']
    exact ⟨rfl, rfl⟩

namespace Stream

variable {bs : Bytes}

/-! ## Chunks before the end -/

/-- The first chunk of what delivers bytes is an interrupted read or has the first ones. -/
theorem delivers_cons {chunk : Chunk} {rest : List Chunk}
    (h : (⟨chunk :: rest, none⟩ : Stream).Delivers bs) :
    (chunk = .interrupted ∧ (⟨rest, none⟩ : Stream).Delivers bs) ∨
      ∃ b bs', chunk = .data b ∧ bs = b ++ bs' ∧ (⟨rest, none⟩ : Stream).Delivers bs' := by
  obtain ⟨blocks, heq, rfl⟩ := h
  have hchunks : (chunk :: rest).filter (· ≠ .interrupted) = blocks.map .data :=
    congrArg Stream.chunks heq
  by_cases hi : chunk = .interrupted
  · rw [List.filter_cons_of_neg (by simp [hi])] at hchunks
    exact .inl ⟨hi, blocks, congrArg (Stream.mk · none) hchunks, rfl⟩
  · rw [List.filter_cons_of_pos (by simp [hi])] at hchunks
    obtain ⟨b, blocks', rfl, rfl, hrest⟩ := List.map_eq_cons_iff.mp hchunks.symm
    exact .inr ⟨b, blocks'.flatten, rfl, rfl, blocks',
      congrArg (Stream.mk · none) hrest.symm, rfl⟩

theorem Delivers.cons {chunks : List Chunk} (h : (⟨chunks, none⟩ : Stream).Delivers bs)
    (b : Bytes) : (⟨.data b :: chunks, none⟩ : Stream).Delivers (b ++ bs) := by
  obtain ⟨blocks, heq, rfl⟩ := h
  refine ⟨b :: blocks, ?_, rfl⟩
  have hchunks : chunks.filter (· ≠ .interrupted) = blocks.map .data := congrArg Stream.chunks heq
  unfold uninterrupted
  rw [List.filter_cons_of_pos (by simp), hchunks]
  rfl

/-- **Chunks that deliver bytes give their first line, whatever follows them.** Without a line feed
in the bytes the line goes on with what follows. -/
theorem lineFrom_delivers {chunks : List Chunk} (h : (⟨chunks, none⟩ : Stream).Delivers bs)
    (broken : Option IoFault) (more : List Chunk) (got : Bytes) (asked : Nat) :
    (lineFeed ∉ bs ∧
        lineFrom broken (chunks ++ more) got asked = lineFrom broken more (got ++ bs) asked) ∨
      (lineFeed ∈ bs ∧ ∃ left, (⟨left, none⟩ : Stream).Delivers (afterLine bs) ∧
        lineFrom broken (chunks ++ more) got asked =
          ⟨.ok (got ++ firstLine bs), ⟨left ++ more, broken⟩, asked⟩) := by
  induction chunks generalizing bs got with
  | nil =>
      obtain ⟨blocks, heq, rfl⟩ := h
      have hblocks : blocks.map Chunk.data = [] := (congrArg Stream.chunks heq).symm
      rw [List.map_eq_nil_iff.mp hblocks]
      exact .inl ⟨List.not_mem_nil, by simp⟩
  | cons chunk rest ih =>
      obtain ⟨rfl, hrest⟩ | ⟨b, bs', rfl, rfl, hrest⟩ := delivers_cons h
      · exact ih hrest got
      · rw [List.cons_append, lineFrom, List.mem_append]
        by_cases hmem : lineFeed ∈ b
        · obtain ⟨feed, left, hfeed⟩ := List.exists_cons_of_ne_nil fun hnil =>
            dropWhile_feed_eq_nil_iff.mp hnil hmem
          obtain ⟨hfirst, hafter⟩ := firstLine_append_of_feed bs' hfeed
          rw [hfirst, hafter, hfeed]
          refine .inr ⟨.inl hmem, .data left :: rest, hrest.cons left, ?_⟩
          rw [← List.append_assoc]
          rfl
        · have hall := dropWhile_feed_eq_nil_iff.mpr hmem
          obtain ⟨hfirst, hafter⟩ := firstLine_append_of_all bs' hall
          rw [hfirst, hafter, hall, ← List.append_assoc, ← List.append_assoc]
          simpa only [hmem, false_or] using ih hrest (got ++ b)

/-! ## Breaking -/

/-- **Breaks** — the stream gives these bytes, in chunks of any size and with interrupted reads
between them, and then a read fails. It may fail once, whatever comes behind, or for ever. -/
def Breaks (s : Stream) (bs : Bytes) : Prop :=
  ∃ chunks : List Chunk, (⟨chunks, none⟩ : Stream).Delivers bs ∧
    ((∃ reason behind, s.chunks = chunks ++ .failure reason :: behind) ∨
      s.chunks = chunks ∧ s.broken.isSome)

/-- **Mends** — the stream breaks, and the other one ends behind the last line feed before the
failure. -/
def Mends (s s' : Stream) : Prop := ∃ bs, s.Breaks bs ∧ s'.Delivers (wholeLines bs)

/-- **A stream that breaks gives its complete lines, and then fails.** -/
theorem Breaks.takeLine {s : Stream} (h : s.Breaks bs) :
    s.takeLine.cancels = 0 ∧
      ((lineFeed ∉ bs ∧ ∃ reason, s.takeLine.result = .error reason) ∨
        (lineFeed ∈ bs ∧ s.takeLine.result = .ok (firstLine bs) ∧
          s.takeLine.rest.Breaks (afterLine bs))) := by
  obtain ⟨chunks, broken⟩ := s
  obtain ⟨whole, hwhole, ⟨reason, behind, rfl⟩ | ⟨rfl, hbroken⟩⟩ := h
  · obtain ⟨hfeed, hline⟩ | ⟨hfeed, left, hleft, hline⟩ :=
      lineFrom_delivers hwhole broken (.failure reason :: behind) [] 0
    · rw [Stream.takeLine, hline]
      exact ⟨rfl, .inl ⟨hfeed, reason, rfl⟩⟩
    · rw [Stream.takeLine, hline]
      exact ⟨rfl, .inr ⟨hfeed, rfl, left, hleft, .inl ⟨reason, behind, rfl⟩⟩⟩
  · obtain ⟨reason, rfl⟩ := Option.isSome_iff_exists.mp hbroken
    have hcases := lineFrom_delivers hwhole (some reason) [] [] 0
    rw [List.append_nil] at hcases
    obtain ⟨hfeed, hline⟩ | ⟨hfeed, left, hleft, hline⟩ := hcases
    · rw [Stream.takeLine, hline]
      exact ⟨rfl, .inl ⟨hfeed, reason, rfl⟩⟩
    · rw [Stream.takeLine, hline, List.append_nil]
      exact ⟨rfl, .inr ⟨hfeed, rfl, left, hleft, .inr ⟨rfl, rfl⟩⟩⟩

/-- Reading what delivers bytes asks for nothing. -/
theorem Delivers.cancels_eq {s : Stream} (h : s.Delivers bs) : s.takeLine.cancels = 0 := by
  obtain ⟨chunks, broken⟩ := s
  obtain rfl : broken = none := by
    obtain ⟨_, heq, _⟩ := h
    exact congrArg Stream.broken heq
  have hcases := lineFrom_delivers h none [] [] 0
  rw [List.append_nil] at hcases
  rw [Stream.takeLine]
  obtain ⟨-, hline⟩ | ⟨-, left, -, hline⟩ := hcases
  · rw [hline]
    rfl
  · rw [hline]

/-- **A stream that breaks has the same lines as the one that ends before the failure.** -/
theorem Mends.sameLines {s s' : Stream} (h : s.Mends s') : s.SameLines s' := by
  obtain ⟨bs, hs, hs'⟩ := h
  induction hlength : bs.length using Nat.strongRecOn generalizing bs s s' with
  | ind n ih =>
      obtain ⟨hcancels, ⟨hfeed, reason, hresult⟩ | ⟨hfeed, hresult, hrest⟩⟩ := hs.takeLine
      · rw [wholeLines_of_none hfeed] at hs'
        refine .noLine ?_ ?_ (hs'.cancels_eq.trans hcancels.symm)
        · rw [hresult]
          rfl
        · rw [hs'.takeLine.1]
          rfl
      · obtain ⟨hfirst, hafter⟩ := firstLine_wholeLines hfeed
        obtain ⟨hresult', hrest'⟩ := hs'.takeLine
        rw [hfirst] at hresult'
        rw [hafter] at hrest'
        have hline := ofTaken_firstLine (List.ne_nil_of_mem hfeed)
        refine .line (hresult ▸ hline) (hresult' ▸ hline) (hs'.cancels_eq.trans hcancels.symm) ?_
        exact ih _ (hlength ▸ length_afterLine_lt (List.ne_nil_of_mem hfeed)) _ hrest hrest' rfl

end Stream

/-! ## Runs -/

/-- **A failure ends its own source, and loses only the line that is not complete.** Let any of the
sources break from which a run reads: those that the dispatcher pushes, the first one, and standard
input if only the first source reads it. The run does the same as the one in which each of these
sources ends behind its last complete line: it tells the same, dispatches the same lines, writes the
same, has the same exit and leaves the session in the same state. -/
theorem mended_run_agrees {r : LineReader} {sameInput : Prop} {δ : Type} {tty : Bool}
    {d d' : Dispatcher δ} {s s' : Session (Console × δ)}
    (hs : Session.Matches r sameInput Stream.Mends tty s s')
    (hd : Dispatcher.Matches r sameInput Stream.Mends d d') (asks : Nat → Nat) (n : Nat)
    (cancellable : Bool) :
    let broken := s.runAsked (r.beside tty d) asks n cancellable
    let mended := s'.runAsked (r.beside tty d') asks n cancellable
    Run.Agrees sameInput broken mended ∧
      dispatchedLines broken.events = dispatchedLines mended.events ∧
      ∀ channel, written channel broken.events = written channel mended.events := by
  intro broken mended
  have hagree : Run.Agrees sameInput broken mended :=
    hs.agrees hd (fun _ _ => Stream.Mends.sameLines) asks n cancellable
  refine ⟨hagree, ?_, fun channel => ?_⟩
  · rw [← dispatchedLines_told, ← hagree.told, dispatchedLines_told]
  · rw [← written_told, ← hagree.told, written_told]

/-- A script that breaks in its third line, and could be read again. -/
def cutScript : Source :=
  { name := "inner"
    interactive := false
    stream := ⟨[.data (encode "c\nd\ne"), .interrupted, .failure (.os ⟨5⟩),
      .data (encode "f\n")], none⟩ }

/-- The first two lines of the script. -/
def uncutScript : Source := { cutScript with stream := .ofBytes (encode "c\nd\n") }

/-- A session whose script reads another one. -/
def readingSession : Session (Console × Unit) :=
  { number := 1, primary := some (.ofText "outer" false "a\nb\nz\n"), env := ({}, ()) }

theorem cutScript_run :
    Source.Matches {} True Stream.Mends cutScript uncutScript ∧
      dispatchedLines (readingSession.runAsked
        (LineReader.beside {} false (.readingOn "b" cutScript)) (fun _ => 0) 40 false).events =
        ["a", "b", "c", "d", "z"] := by
  have hmends : cutScript.stream.Mends uncutScript.stream := by
    refine ⟨encode "c\nd\ne", ⟨[.data (encode "c\nd\ne"), .interrupted], ?_, .inl ⟨_, _, rfl⟩⟩, ?_⟩
    · exact ⟨[encode "c\nd\ne"], rfl, rfl⟩
    · exact ⟨[encode "c\nd\n"], rfl, by decide⟩
  have hscripts : Source.Matches {} True Stream.Mends cutScript uncutScript :=
    .own ⟨.inl rfl, by decide⟩ hmends
  have hsessions : Session.Matches {} True Stream.Mends false readingSession readingSession :=
    { number := rfl
      state := rfl
      stack := ⟨rfl, rfl⟩
      dispatcher := rfl
      console := ⟨rfl, fun _ => rfl⟩
      first := .next (.same (.inl trivial)) .none }
  obtain ⟨-, hlines, -⟩ := mended_run_agrees hsessions
    (Dispatcher.readingOn_matches "b" hscripts) (fun _ => 0) 40 false
  refine ⟨hscripts, ?_⟩
  rw [hlines]
  decide

end CommandShell
