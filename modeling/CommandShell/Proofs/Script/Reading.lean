import CommandShell.Proofs.Script.Blocks
import CommandShell.Proofs.Text.Replacement
import CommandShell.Proofs.Text.Words

/-!
# The lines of a text

A reader that is asked again and again answers with the lines of the text that the bytes of the
source are shown as, one after the other, and then with the end of input for ever
(`answers_delivered`). Neither where the bytes are cut into chunks nor where a read is interrupted
in between makes a difference, and no read fails.

The lines of a text are its parts between line feeds, each without the carriage returns at its end
(`textLines`). A reader never sees the text: it decodes each line on its own, and two facts make
this the same. An interrupted read leaves no trace (`lineFrom_uninterrupted`), so that a stream
gives the bytes up to the next line feed whatever the chunks are. And what stands before a line feed
is shown as it would be alone.
-/

namespace CommandShell

open CommandShell.Text
open CommandShell.Files

/-! ## The lines of a text -/

/-- A line without the carriage returns at its end. -/
def bareLine (cs : List Char) : String := String.ofList (dropEndWhile (· == '\r') cs)

/-- **textLines** — the parts of a text between its line feeds, without the carriage returns at
their ends. An empty part at the end of the text is no line. -/
def textLines (cs : List Char) : List String :=
  let parts := splitOn (· == '\n') cs
  (if parts.getLast? = some [] then parts.dropLast else parts).map bareLine

variable {cs ds : List Char}

@[simp] theorem textLines_nil : textLines [] = [] := rfl

theorem splitOn_lineFeed (h : '\n' ∉ cs) : ∀ c ∈ cs, (c == '\n') = false := by
  intro c hc
  refine beq_eq_false_iff_ne.mpr ?_
  rintro rfl
  exact h hc

theorem textLines_single (h : '\n' ∉ cs) (hne : cs ≠ []) : textLines cs = [bareLine cs] := by
  unfold textLines
  rw [splitOn_of_none (splitOn_lineFeed h)]
  simp [hne]

/-- The first line of a text, and those behind its line feed. -/
theorem textLines_append (h : '\n' ∉ cs) (ds : List Char) :
    textLines (cs ++ '\n' :: ds) = bareLine cs :: textLines ds := by
  unfold textLines
  rw [splitOn_append_cons (splitOn_lineFeed h) (by decide)]
  obtain ⟨part, rest, hsplit⟩ :=
    List.exists_cons_of_ne_nil (splitOn_ne_nil (p := (· == '\n')) ds)
  rw [hsplit]
  dsimp only
  rw [List.getLast?_cons_cons, List.dropLast_cons_cons]
  split_ifs <;> rfl

theorem lineFeed_not_mem_textLines {line : String} (h : line ∈ textLines cs) :
    '\n' ∉ line.toList := by
  unfold textLines at h
  obtain ⟨part, hpart, rfl⟩ := List.mem_map.mp h
  have hpart : part ∈ splitOn (· == '\n') cs := by
    split_ifs at hpart
    · exact (List.dropLast_sublist _).subset hpart
    · exact hpart
  have hfeed : '\n' ∉ part := by
    intro hmem
    have hnot := not_of_mem_splitOn hpart '\n' hmem
    cases hnot
  intro hmem
  unfold bareLine dropEndWhile at hmem
  rw [String.toList_ofList, List.mem_reverse] at hmem
  have hmem := (List.dropWhile_sublist _).subset hmem
  exact hfeed (List.mem_reverse.mp hmem)

/-! ## The text of a line -/

theorem dropTerminators_eq (h : '\n' ∉ cs) :
    lineText.dropTerminators cs = dropEndWhile (· == '\r') cs := by
  have hsame : ∀ cs : List Char, '\n' ∉ cs →
      cs.dropWhile (fun c => c == '\n' || c == '\r') = cs.dropWhile (· == '\r') := by
    intro cs
    induction cs with
    | nil => intro _; rfl
    | cons c cs ih =>
        intro hcs
        obtain ⟨hc, hcs⟩ := not_or.mp (List.mem_cons.not.mp hcs)
        have hc : (c == '\n') = false := beq_eq_false_iff_ne.mpr (Ne.symm hc)
        rw [List.dropWhile_cons, List.dropWhile_cons, hc, Bool.false_or, ih hcs]
  unfold lineText.dropTerminators dropEndWhile
  rw [hsame _ (by simpa using h)]

variable {bs rest : Bytes}

/-- The last line of a source may lack its line feed. -/
theorem lineText_of_shows (h : Shows bs cs) (hfeed : '\n' ∉ cs) : lineText bs = bareLine cs := by
  unfold lineText bareLine
  rw [(shows_decode bs).unique h, dropTerminators_eq hfeed]

/-- A line is decoded on its own, with its line feed. -/
theorem lineText_lineFeed (h : Shows bs cs) (hfeed : '\n' ∉ cs) :
    lineText (bs ++ [lineFeed]) = bareLine cs := by
  have hdrop : lineText.dropTerminators (cs ++ ['\n']) = lineText.dropTerminators cs := by
    unfold lineText.dropTerminators
    rw [List.reverse_append]
    rfl
  unfold lineText bareLine
  rw [(shows_decode _).unique (h.append_lineFeed .nil), hdrop, dropTerminators_eq hfeed]

/-- The first line of bytes, with its line feed if it has one. -/
theorem firstLine_cases (bs : Bytes) :
    (lineFeed ∉ bs ∧ firstLine bs = bs ∧ afterLine bs = []) ∨
      lineFeed ∉ bs.takeWhile (· != lineFeed) ∧
        bs = bs.takeWhile (· != lineFeed) ++ lineFeed :: afterLine bs ∧
        firstLine bs = bs.takeWhile (· != lineFeed) ++ [lineFeed] := by
  have hbefore : lineFeed ∉ bs.takeWhile (· != lineFeed) := by
    intro hmem
    have hne := List.mem_takeWhile_imp hmem
    simp at hne
  have hsplit := List.takeWhile_append_dropWhile (p := (· != lineFeed)) (l := bs)
  unfold firstLine afterLine
  cases hdrop : bs.dropWhile (· != lineFeed) with
  | nil =>
      rw [hdrop, List.append_nil] at hsplit
      rw [hsplit] at hbefore ⊢
      exact .inl ⟨hbefore, by simp, rfl⟩
  | cons feed after =>
      have hfeed : feed = lineFeed := by
        have hhead := List.head?_dropWhile_not (· != lineFeed) bs
        rw [hdrop] at hhead
        simpa using hhead
      rw [hdrop, hfeed] at hsplit
      rw [hfeed]
      exact .inr ⟨hbefore, hsplit.symm, rfl⟩

/-- **The first line of a text is the text of the first line.** -/
theorem textLines_cons (h : Shows bs cs) (hbs : bs ≠ []) :
    ∃ ds, Shows (afterLine bs) ds ∧ textLines cs = lineText (firstLine bs) :: textLines ds := by
  rcases firstLine_cases bs with ⟨hfeed, hfirst, hafter⟩ | ⟨hfeed, hsplit, hfirst⟩
  · have hnone : '\n' ∉ cs := fun hmem => hfeed (h.lineFeed_mem hmem)
    refine ⟨[], hafter ▸ .nil, ?_⟩
    rw [hfirst, lineText_of_shows h hnone, textLines_nil]
    exact textLines_single hnone (h.ne_nil hbs)
  · -- What stands before the line feed and what stands behind it are shown on their own.
    have hbefore := shows_decode (bs.takeWhile (· != lineFeed))
    have hbehind := shows_decode (afterLine bs)
    have hnone : '\n' ∉ (decode (bs.takeWhile (· != lineFeed))).toList :=
      fun hmem => hfeed (hbefore.lineFeed_mem hmem)
    have hwhole := hbefore.append_lineFeed hbehind
    rw [← hsplit] at hwhole
    refine ⟨_, hbehind, ?_⟩
    rw [h.unique hwhole, hfirst, lineText_lineFeed hbefore hnone]
    exact textLines_append hnone _

theorem ofTaken_firstLine (hbs : bs ≠ []) :
    LineResult.ofTaken (.ok (firstLine bs)) = .line (lineText (firstLine bs)) := by
  obtain ⟨b, bs, rfl⟩ := List.exists_cons_of_ne_nil hbs
  unfold firstLine
  rw [List.takeWhile_cons, List.dropWhile_cons]
  split_ifs <;> rfl

/-! ## What a stream delivers -/

namespace Stream

/-- The stream without its interrupted reads. -/
def uninterrupted (s : Stream) : Stream :=
  { s with chunks := s.chunks.filter (· ≠ .interrupted) }

/-- **Delivers** — the stream gives these bytes and is then at its end. They may come in chunks of
any size, with interrupted reads between them. -/
def Delivers (s : Stream) (bs : Bytes) : Prop := s.uninterrupted.Carries bs

/-- An interrupted read leaves no trace. -/
theorem lineFrom_uninterrupted (broken : Option IoFault) (chunks : List Chunk) (got : Bytes)
    (asked : Nat) :
    (lineFrom broken (chunks.filter (· ≠ .interrupted)) got asked).result =
        (lineFrom broken chunks got asked).result ∧
      (lineFrom broken (chunks.filter (· ≠ .interrupted)) got asked).rest.uninterrupted =
        (lineFrom broken chunks got asked).rest.uninterrupted := by
  fun_induction lineFrom broken chunks got asked with
  | case1 got asked => exact ⟨rfl, rfl⟩
  | case2 bs rest got asked hnone ih =>
      rw [List.filter_cons_of_pos (by simp), lineFrom, hnone]
      exact ih
  | case3 bs rest got asked feed left hfeed =>
      rw [List.filter_cons_of_pos (by simp), lineFrom, hfeed]
      simp [uninterrupted]
  | case4 e rest got asked =>
      rw [List.filter_cons_of_pos (by simp), lineFrom]
      simp [uninterrupted]
  | case5 rest got asked ih =>
      rw [List.filter_cons_of_neg (by simp)]
      exact ih
  | case6 rest got asked =>
      rw [List.filter_cons_of_pos (by simp), lineFrom]
      simp [uninterrupted]
  | case7 rest got asked ih =>
      rw [List.filter_cons_of_pos (by simp), lineFrom]
      exact ih

theorem Carries.uninterrupted_eq {s : Stream} (h : s.Carries bs) : s.uninterrupted = s := by
  obtain ⟨blocks, rfl, -⟩ := h
  unfold uninterrupted
  rw [List.filter_eq_self.mpr]
  intro chunk hchunk
  obtain ⟨block, -, rfl⟩ := List.mem_map.mp hchunk
  rfl

/-- **A stream gives the first line of what it delivers, and delivers the rest.** -/
theorem Delivers.takeLine {s : Stream} (h : s.Delivers bs) :
    s.takeLine.result = .ok (firstLine bs) ∧ s.takeLine.rest.Delivers (afterLine bs) := by
  obtain ⟨hresult, hrest⟩ := lineFrom_uninterrupted s.broken s.chunks [] 0
  obtain ⟨hfirst, hafter⟩ := Carries.takeLine h
  refine ⟨hresult.symm.trans hfirst, ?_⟩
  have hsame : s.uninterrupted.takeLine.rest.uninterrupted = s.takeLine.rest.uninterrupted := hrest
  rw [hafter.uninterrupted_eq] at hsame
  show s.takeLine.rest.uninterrupted.Carries _
  rw [← hsame]
  exact hafter

end Stream

/-! ## What a reader answers -/

namespace LineReader

variable {r : LineReader} {c : Console} {s : Source}

/-- **answers** — what the reader answers if it is asked for a line `n` times. -/
def answers (r : LineReader) : Nat → Console → Source → List (Except Panic LineResult)
  | 0, _, _ => []
  | n + 1, c, s =>
    (r.read c s).result :: r.answers n (r.read c s).env (r.read c s).source

/-- A reader that gets a line has the rest still to read. -/
theorem read_delivered (h : r.Plainly s) (hs : (s.supply c).Delivers bs) :
    (r.read c s).result = .ok (.ofTaken (.ok (firstLine bs))) ∧
      ((r.read c s).source.supply (r.read c s).env).Delivers (afterLine bs) := by
  obtain ⟨hresult, hrest, -⟩ := read_plainly (c := c) h
  obtain ⟨hfirst, hafter⟩ := hs.takeLine
  rw [hresult, hrest, hfirst]
  exact ⟨rfl, hafter⟩

/-- **linesThenEnd** — the first `n` of: these lines, and then the end of input for ever. -/
def linesThenEnd (lines : List String) (n : Nat) : List LineResult :=
  (lines.map LineResult.line ++ List.replicate n LineResult.endOfInput).take n

theorem linesThenEnd_nil (n : Nat) :
    linesThenEnd [] (n + 1) = .endOfInput :: linesThenEnd [] n := by
  simp [linesThenEnd, List.replicate_succ]

theorem linesThenEnd_cons (line : String) (lines : List String) (n : Nat) :
    linesThenEnd (line :: lines) (n + 1) = .line line :: linesThenEnd lines n := by
  unfold linesThenEnd
  rw [List.map_cons, List.cons_append, List.take_succ_cons, List.replicate_succ',
    ← List.append_assoc, List.take_append_of_le_length]
  rw [List.length_append, List.length_replicate]
  exact Nat.le_add_left n _

/-- **A reader answers with the lines of the text, and then with the end of input.** -/
theorem answers_eq (h : r.Plainly s) (hs : (s.supply c).Delivers bs) (hcs : Shows bs cs) (n : Nat) :
    r.answers n c s = (linesThenEnd (textLines cs) n).map .ok := by
  induction n generalizing c s bs cs with
  | zero => rfl
  | succ n ih =>
      obtain ⟨hresult, hrest⟩ := read_delivered h hs
      rw [answers, hresult]
      by_cases hbs : bs = []
      · subst hbs
        obtain rfl := hcs.of_nil
        rw [ih (plainly_source_iff.mpr h) hrest .nil, textLines_nil, linesThenEnd_nil]
        rfl
      · obtain ⟨ds, hds, hlines⟩ := textLines_cons hcs hbs
        rw [ih (plainly_source_iff.mpr h) hrest hds, hlines, linesThenEnd_cons,
          ofTaken_firstLine hbs]
        rfl

/-- **Line reading depends only on the bytes, and decoding line by line is decoding the whole.** The
bytes that a source delivers are shown as one text. However they are cut into chunks and wherever a
read is interrupted, a reader that is asked `n` times answers with the first `n` of: the lines of
this text, and then the end of input again and again. No line has a line feed in it. -/
theorem answers_delivered (r : LineReader) (c : Console) (s : Source) (bs : Bytes)
    (h : r.Plainly s) (hs : (s.supply c).Delivers bs) :
    ∃ text, Shows bs text ∧ (∀ text', Shows bs text' → text' = text) ∧
      (∀ n, r.answers n c s = (linesThenEnd (textLines text) n).map .ok) ∧
      ∀ line ∈ textLines text, '\n' ∉ line.toList := by
  have hshows := shows_decode bs
  refine ⟨_, hshows, fun text' h' => h'.unique hshows, answers_eq h hs hshows, ?_⟩
  intro line hline
  exact lineFeed_not_mem_textLines hline

/-- Three lines that are cut inside a character, inside a part that is not well-formed, and between
a carriage return and the line feed. -/
def cutLines : Source :=
  { name := "lines"
    interactive := false
    stream :=
      ⟨[.data [0xC3], .interrupted, .data [0xA9, 0x0D], .interrupted, .data [0x0A, 0xF0],
        .data [0x90, 0x0A, 0x61], .interrupted], none⟩ }

theorem cutLines_answers :
    LineReader.Plainly { kind := .editor false } cutLines ∧
      (cutLines.supply {}).Delivers [0xC3, 0xA9, 0x0D, 0x0A, 0xF0, 0x90, 0x0A, 0x61] ∧
      LineReader.answers { kind := .editor false } 5 {} cutLines =
        [.ok (.line "é"), .ok (.line "\uFFFD"), .ok (.line "a"), .ok .endOfInput,
          .ok .endOfInput] := by
  have hplain : LineReader.Plainly { kind := .editor false } cutLines := .inr rfl
  have hs : (cutLines.supply {}).Delivers [0xC3, 0xA9, 0x0D, 0x0A, 0xF0, 0x90, 0x0A, 0x61] :=
    ⟨[[0xC3], [0xA9, 0x0D], [0x0A, 0xF0], [0x90, 0x0A, 0x61]], rfl, rfl⟩
  obtain ⟨text, -, hunique, hanswers, -⟩ := answers_delivered _ _ _ _ hplain hs
  have hlines : textLines (decode [0xC3, 0xA9, 0x0D, 0x0A, 0xF0, 0x90, 0x0A, 0x61]).toList =
      ["é", "\uFFFD", "a"] := by decide
  refine ⟨hplain, hs, ?_⟩
  rw [hanswers, ← hunique _ (shows_decode _), hlines]
  rfl

end LineReader

end CommandShell
