import CommandShell.Session.Console
import Mathlib.Algebra.GroupWithZero.Nat

/-!
# The lines of a source

`Stream.lines` are the lines that a stream gives until it has none to give, because it is at an end
or because a read fails. Every line takes bytes away, so there are finitely many
(`weight_takeLine_lt`).

`Source.linesAt` are those of a source at a console: a source that reads standard input goes on with
what nobody has read of it. They are what a line reader gets that is asked again and again
(`yields_iff`), unless it lets a person type them.
-/

namespace CommandShell

open CommandShell.Text
open CommandShell.Files

/-! ## Lines of a stream -/

/-- How much a chunk counts: a line takes away a byte at least, or a chunk. -/
def Chunk.weight : Chunk → Nat
  | .data bytes => bytes.length + 1
  | .failure _ | .interrupted | .pause | .cancel => 1

namespace Stream

/-- How much there is to read of a stream. -/
def weight (s : Stream) : Nat := (s.chunks.map Chunk.weight).sum

/-- The lines up to the first end or failure, but not more than `n`. -/
def firstLines : Nat → Stream → List String
  | 0, _ => []
  | n + 1, s =>
    match LineResult.ofTaken s.takeLine.result with
    | .line text => text :: firstLines n s.takeLine.rest
    | .endOfInput | .failed _ => []

/-- **lines** — the lines up to the first end or failure. -/
def lines (s : Stream) : List String := firstLines s.weight s

/-- What is read of the chunks, and what is left of them, is no more than there was. -/
theorem weight_lineFrom (broken : Option IoFault) (chunks : List Chunk) (got : Bytes) (asked : Nat)
    {bytes : Bytes} (hr : (lineFrom broken chunks got asked).result = .ok bytes) :
    (lineFrom broken chunks got asked).rest.weight + bytes.length
      ≤ (chunks.map Chunk.weight).sum + got.length := by
  fun_induction lineFrom broken chunks got asked with
  | case1 got asked =>
      cases broken with
      | none =>
          cases hr
          simp [weight]
      | some e => cases hr
  | case2 bs rest got asked hnone ih =>
      have hrest := ih hr
      simp only [List.map_cons, List.sum_cons, Chunk.weight, List.length_append] at hrest ⊢
      omega
  | case3 bs rest got asked feed left hfeed =>
      cases hr
      -- The line feed and what follows it are the part of the chunk that is dropped.
      have hsplit := congrArg List.length (bs.takeWhile_append_dropWhile (p := (· != lineFeed)))
      rw [hfeed, List.length_append, List.length_cons] at hsplit
      simp only [weight, List.map_cons, List.sum_cons, Chunk.weight, List.length_append,
        List.length_singleton]
      omega
  | case4 e rest got asked => cases hr
  | case5 rest got asked ih =>
      have hrest := ih hr
      simp only [List.map_cons, List.sum_cons, Chunk.weight]
      omega
  | case6 rest got asked =>
      cases hr
      simp only [weight, List.map_cons, List.sum_cons, Chunk.weight]
      omega
  | case7 rest got asked ih =>
      have hrest := ih hr
      simp only [List.map_cons, List.sum_cons, Chunk.weight]
      omega

theorem exists_bytes_of_line {taken : Except IoFault Bytes} {text : String}
    (h : LineResult.ofTaken taken = .line text) : ∃ b bytes, taken = .ok (b :: bytes) := by
  rcases taken with e | _ | ⟨b, bytes⟩
  · cases h
  · cases h
  · exact ⟨b, bytes, rfl⟩

/-- A line leaves less to read. -/
theorem weight_takeLine_lt {s : Stream} {text : String}
    (h : LineResult.ofTaken s.takeLine.result = .line text) :
    s.takeLine.rest.weight < s.weight := by
  obtain ⟨b, bytes, hbytes⟩ := exists_bytes_of_line h
  have hle := weight_lineFrom s.broken s.chunks [] 0 hbytes
  have hweight : s.weight = (s.chunks.map Chunk.weight).sum := rfl
  rw [List.length_cons, List.length_nil] at hle
  rw [takeLine]
  omega

/-- There are no lines if there is no first one. -/
theorem firstLines_of_noLine {s : Stream}
    (h : ∀ text, LineResult.ofTaken s.takeLine.result ≠ .line text) (n : Nat) :
    firstLines n s = [] := by
  cases n with
  | zero => rfl
  | succ n =>
      rw [firstLines]
      cases hfound : LineResult.ofTaken s.takeLine.result with
      | line text => exact absurd hfound (h text)
      | endOfInput => rfl
      | failed e => rfl

/-- The first line, and those of what is left. -/
theorem firstLines_of_line {s : Stream} {text : String} {n : Nat}
    (h : LineResult.ofTaken s.takeLine.result = .line text) (hn : s.weight ≤ n) :
    firstLines n s = text :: firstLines (n - 1) s.takeLine.rest := by
  have hlt := weight_takeLine_lt h
  obtain ⟨m, rfl⟩ : ∃ m, n = m + 1 := ⟨n - 1, by omega⟩
  rw [firstLines, h, Nat.add_sub_cancel]

/-- As many lines are enough as there is to read. -/
theorem firstLines_eq {m n : Nat} {s : Stream} (hm : s.weight ≤ m) (hn : s.weight ≤ n) :
    firstLines m s = firstLines n s := by
  induction m generalizing n s with
  | zero =>
      have hnone : ∀ text, LineResult.ofTaken s.takeLine.result ≠ .line text := by
        intro text htext
        have hlt := weight_takeLine_lt htext
        omega
      rw [firstLines_of_noLine hnone, firstLines_of_noLine hnone]
  | succ m ih =>
      by_cases h : ∃ text, LineResult.ofTaken s.takeLine.result = .line text
      · obtain ⟨text, htext⟩ := h
        have hlt := weight_takeLine_lt htext
        rw [firstLines_of_line htext hm, firstLines_of_line htext hn]
        exact congrArg (text :: ·) (ih (by omega) (by omega))
      · have hnone := not_exists.mp h
        rw [firstLines_of_noLine hnone, firstLines_of_noLine hnone]

theorem lines_of_line {s : Stream} {text : String}
    (h : LineResult.ofTaken s.takeLine.result = .line text) :
    s.lines = text :: s.takeLine.rest.lines := by
  have hlt := weight_takeLine_lt h
  rw [lines, firstLines_of_line h (Nat.le_refl _)]
  exact congrArg (text :: ·) (firstLines_eq (by omega) (Nat.le_refl _))

theorem lines_of_noLine {s : Stream}
    (h : ∀ text, LineResult.ofTaken s.takeLine.result ≠ .line text) : s.lines = [] :=
  firstLines_of_noLine h s.weight

end Stream

/-! ## Lines of a source -/

/-- The console without what nobody has read of standard input. -/
def Console.sinks (c : Console) : Console := { c with unread := ⟨[], none⟩ }

namespace Source

/-- **supply** — what is read of the source at the console. -/
def supply (s : Source) (c : Console) : Stream :=
  match s.origin with
  | .standardInput => { c.unread with chunks := s.stream.chunks ++ c.unread.chunks }
  | .given | .file => s.stream

/-- **linesAt** — the lines of the source at the console, up to its first end or failure. -/
def linesAt (c : Console) (s : Source) : List String := (s.supply c).lines

/-- A source that does not read standard input has its own lines. -/
theorem linesAt_of_own {s : Source} (c : Console) (h : s.origin ≠ .standardInput) :
    s.linesAt c = s.stream.lines := by
  rw [linesAt, supply]
  cases ho : s.origin with
  | standardInput => exact absurd ho h
  | given => rfl
  | file => rfl

/-- Of the console only what nobody has read counts. -/
theorem linesAt_congr {c c' : Console} (h : c.unread = c'.unread) (s : Source) :
    s.linesAt c = s.linesAt c' := by
  rw [linesAt, linesAt, supply, supply, h]

end Source

namespace LineReader

variable {r : LineReader} {c : Console} {s : Source}

/-- **Plainly** — the reader lets nobody type the lines of the source, but reads its stream. -/
def Plainly (r : LineReader) (s : Source) : Prop := r.kind = .plain ∨ s.interactive = false

theorem read_of_plainly (h : r.Plainly s) :
    ∃ notes, r.read c s = readStream s c notes ∧ (s.interactive = false → notes = []) := by
  obtain ⟨kind, prompt⟩ := r
  cases kind with
  | plain =>
      refine ⟨_, rfl, fun hi => ?_⟩
      rw [hi]
      rfl
  | editor promptsAlways =>
      have hi : s.interactive = false := h.resolve_left (by simp)
      exact ⟨[], by simp [read, hi], fun _ => rfl⟩

theorem plainly_source_iff : r.Plainly (r.read c s).source ↔ r.Plainly s := by
  rw [read_source]
  exact .rfl

/-- A source is read line by line, and what is read of it is gone. -/
theorem read_plainly (h : r.Plainly s) :
    (r.read c s).result = .ok (.ofTaken (s.supply c).takeLine.result) ∧
      (r.read c s).source.supply (r.read c s).env = (s.supply c).takeLine.rest ∧
      (r.read c s).env.sinks = c.sinks ∧
      (s.origin ≠ .standardInput → (r.read c s).env = c) ∧
      (s.interactive = false → (r.read c s).notes = []) := by
  obtain ⟨notes, hread, hnotes⟩ := read_of_plainly (c := c) h
  rw [hread, readStream]
  cases ho : s.origin with
  | standardInput =>
      simp only [readAhead, Source.supply, ho]
      refine ⟨trivial, ?_, rfl, by simp, hnotes⟩
      rw [List.take_append_drop]
  | given =>
      simp only [Source.supply, ho]
      exact ⟨trivial, trivial, trivial, fun _ => trivial, hnotes⟩
  | file =>
      simp only [Source.supply, ho]
      exact ⟨trivial, trivial, trivial, fun _ => trivial, hnotes⟩

/-- A line that is read is the first one of the source. -/
theorem linesAt_of_line {text : String} (h : r.Plainly s)
    (hr : (r.read c s).result = .ok (.line text)) :
    s.linesAt c = text :: (r.read c s).source.linesAt (r.read c s).env := by
  obtain ⟨hresult, hrest, -⟩ := read_plainly (c := c) h
  rw [hresult, Except.ok.injEq] at hr
  rw [Source.linesAt, Source.linesAt, hrest, Stream.lines_of_line hr]

/-- A source of which no line is read has none. -/
theorem linesAt_of_noLine (h : r.Plainly s)
    (hr : ∀ text, (r.read c s).result ≠ .ok (.line text)) : s.linesAt c = [] := by
  obtain ⟨hresult, -⟩ := read_plainly (c := c) h
  rw [hresult] at hr
  exact Stream.lines_of_noLine fun text htext => hr text (by rw [htext])

/-- **Yields** — the reader, asked again and again, gets the lines and then none. -/
inductive Yields (r : LineReader) : Console → Source → List String → Prop
  | none {c : Console} {s : Source} :
      (∀ text, (r.read c s).result ≠ .ok (.line text)) → Yields r c s []
  | line {c : Console} {s : Source} {text lines} : (r.read c s).result = .ok (.line text) →
      Yields r (r.read c s).env (r.read c s).source lines →
      Yields r c s (text :: lines)

/-- A reader gets the lines of a source. -/
theorem yields_iff {lines : List String} (h : r.Plainly s) :
    r.Yields c s lines ↔ lines = s.linesAt c := by
  constructor
  · intro hy
    induction hy with
    | none hr => exact (linesAt_of_noLine h hr).symm
    | line hr _ ih => rw [linesAt_of_line h hr, ih (plainly_source_iff.mpr h)]
  · rintro rfl
    generalize hlines : s.linesAt c = lines
    induction lines generalizing c s with
    | nil =>
        refine .none fun text hr => ?_
        rw [linesAt_of_line h hr] at hlines
        cases hlines
    | cons text lines ih =>
        by_cases hex : ∃ text, (r.read c s).result = .ok (.line text)
        · obtain ⟨text', hr⟩ := hex
          rw [linesAt_of_line h hr] at hlines
          obtain ⟨rfl, hrest⟩ := List.cons.inj hlines
          exact .line hr (ih (plainly_source_iff.mpr h) hrest)
        · rw [linesAt_of_noLine h (not_exists.mp hex)] at hlines
          cases hlines

end LineReader

end CommandShell
