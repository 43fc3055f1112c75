import CommandShell.Proofs.Command.LongestPrefix
import CommandShell.Proofs.Script.Commands

/-!
# Lines have the effects of their class

A line is blank, a comment, one of the commands of the shell, or looked up in the table. `Class`
tells these classes apart by the first word of the line and by what follows it, and says which
**effect** the line then has: nothing, a line of output, a script to be read, shutdown, a fatal
error, or a failure with its message. Every line has a class (`exists_class`), and where the writers
take everything, it has exactly the effect of its class (`execute_of_class`, `carried_of_class`).

`execute_classes` says this of every line and reads everything else off the effects: what a line can
push, change and write, that a failing line does nothing but report, and that a registered name is
found unless its first word is taken.
-/

namespace CommandShell

open CommandShell.Text
open CommandShell.Files

/-! ## Writers that take everything -/

/-- The sink has room without limit and its flushing does not fail. -/
def Sink.AcceptsAll (s : Sink) : Prop := s.room = none ∧ s.flushFault = none

def Console.AcceptsAll (c : Console) : Prop := c.out.AcceptsAll ∧ c.err.AcceptsAll

/-- The bytes of a line of output. -/
def lineBytes (text : String) : Bytes := encode text ++ [lineFeed]

/-- What is written to a channel, one piece for each time. -/
def writings (channel : Channel) (events : List Event) : List Bytes :=
  events.filterMap fun
    | .noted (.wrote c bytes) => if c = channel then some bytes else none
    | _ => none

theorem writings_transition (channel : Channel) (x y : State) :
    writings channel (Loop.transition x y) = [] := by
  unfold Loop.transition
  split <;> rfl

theorem Sink.AcceptsAll.writeLine {s : Sink} (h : s.AcceptsAll) (text : String) :
    s.writeLine text = (lineBytes text, s, none) := by
  unfold Sink.writeLine Sink.write
  rw [h.1]
  show (lineBytes text, s, s.flushFault) = _
  rw [h.2]

theorem Console.AcceptsAll.print {c : Console} (h : c.AcceptsAll) (text : String) :
    Builtins.print c text =
      { requests := [.note (.wrote .output (lineBytes text))], env := c, result := .ok .ok } := by
  unfold Builtins.print Console.printLine
  rw [h.1.writeLine]

theorem Console.AcceptsAll.fail {c : Console} (h : c.AcceptsAll) (message : String) :
    Builtins.fail c [] message =
      { requests := [.note (.wrote .errors (lineBytes ("Error: " ++ message)))], env := c,
        result := .ok .scriptError } := by
  unfold Builtins.fail Console.reportLine
  rw [h.2.writeLine]
  rfl

/-! ## Classes and effects -/

/-- **Effect** — what a line does. -/
inductive Effect
  | nothing
  /-- Shutdown. -/
  | closes
  /-- A fatal error. -/
  | stops
  | prints (text : String)
  /-- A script is to be read. -/
  | reads (source : Source)
  | fails (message : String)

namespace Effect

/-- The answer that has this effect. -/
def reaction (c : Console) : Effect → Reaction Console
  | nothing => { env := c, result := .ok .ok }
  | closes => { requests := [.note .exitRequested, .close], env := c, result := .ok .ok }
  | stops => { env := c, result := .ok .fatal }
  | prints text =>
    { requests := [.note (.wrote .output (lineBytes text))], env := c, result := .ok .ok }
  | reads source =>
    { requests := [.note (.included source.name), .push source], env := c, result := .ok .ok }
  | fails message =>
    { requests := [.note (.wrote .errors (lineBytes ("Error: " ++ message)))], env := c,
      result := .ok .scriptError }

/-- The run after a line with this effect. -/
def after (l : Loop Console) : Effect → Loop Console
  | closes => { l with state := l.state.close }
  | reads source => { l with stack := (l.stack.push source false).1 }
  | _ => l

/-- The events of a line with this effect. -/
def events (l : Loop Console) : Effect → List Event
  | nothing | stops => []
  | closes => .noted .exitRequested :: Loop.transition l.state l.state.close
  | prints text => [.noted (.wrote .output (lineBytes text))]
  | reads source => .noted (.included source.name) :: (l.stack.push source false).2
  | fails message => [.noted (.wrote .errors (lineBytes ("Error: " ++ message)))]

variable {h : Host Console} {l : Loop Console} {effect : Effect}

/-- What becomes of a session, and which events there are, if the answer to a line has an effect. -/
theorem carried_of_reaction (hreaction : l.reaction h = effect.reaction l.env) :
    l.carried h = (effect.after l, effect.events l) := by
  unfold Loop.carried
  rw [hreaction]
  cases effect with
  | closes => exact Prod.ext rfl (congrArg (Event.noted .exitRequested :: ·) (List.append_nil _))
  | _ => rfl

theorem writings_output (l : Loop Console) (effect : Effect) :
    writings .output (effect.events l) =
      match effect with
      | .prints text => [lineBytes text]
      | _ => [] := by
  cases effect with
  | closes => exact writings_transition _ l.state l.state.close
  | _ => rfl

theorem writings_errors (l : Loop Console) (effect : Effect) :
    writings .errors (effect.events l) =
      match effect with
      | .fails message => [lineBytes ("Error: " ++ message)]
      | _ => [] := by
  cases effect with
  | closes => exact writings_transition _ l.state l.state.close
  | _ => rfl

/-- Reading a script is the one effect on the stack. -/
theorem stack_after_cases (l : Loop Console) (effect : Effect) :
    (effect.after l).stack = l.stack ∨ ∃ source, effect = .reads source := by
  cases effect with
  | reads source => exact .inr ⟨source, rfl⟩
  | _ => exact .inl rfl

/-- Shutdown is the one effect on the state. -/
theorem eq_closes_of_state_ne (h : (effect.after l).state ≠ l.state) : effect = .closes := by
  cases effect with
  | closes => rfl
  | _ => exact absurd rfl h

/-- Printing is the one effect on the output. -/
theorem exists_prints (h : writings .output (effect.events l) ≠ []) :
    ∃ text, effect = .prints text := by
  rw [writings_output] at h
  cases effect with
  | prints text => exact ⟨text, rfl⟩
  | _ => exact absurd rfl h

/-- A failure is the one effect with the verdict for it. -/
theorem result_eq_scriptError_iff {c : Console} :
    (effect.reaction c).result = .ok .scriptError ↔ ∃ message, effect = .fails message := by
  cases effect with
  | fails message => exact iff_of_true rfl ⟨message, rfl⟩
  | _ => exact iff_of_false (fun h => nomatch h) (fun ⟨_, h⟩ => nomatch h)

/-- A failure is the one effect that writes an error message. -/
theorem exists_fails_iff :
    (∃ message, effect = .fails message) ↔
      ∃ message, writings .errors (effect.events l) = [lineBytes ("Error: " ++ message)] := by
  rw [writings_errors]
  cases effect with
  | fails message => exact iff_of_true ⟨message, rfl⟩ ⟨message, rfl⟩
  | _ => exact iff_of_false (fun ⟨_, h⟩ => nomatch h) (fun ⟨_, h⟩ => nomatch h)

theorem writings_errors_of_not_fails (h : ¬∃ message, effect = .fails message) :
    writings .errors (effect.events l) = [] := by
  rw [writings_errors]
  cases effect with
  | fails message => exact absurd ⟨message, rfl⟩ h
  | _ => rfl

theorem eq_stops_of_fatal {c : Console} (h : (effect.reaction c).result = .ok .fatal) :
    effect = .stops := by
  cases effect with
  | stops => rfl
  | _ => cases h

end Effect

namespace Builtins

/-- **Class** — which effect a line has, while `depth` sources are open. -/
inductive Class (b : Builtins) (depth : Nat) (line : String) : Effect → Prop
  | blank (blank : ∀ c ∈ line.toList, isBlank c = true) : Class b depth line .nothing
  | comment {w text : String} (headed : Headed line.toList w text)
      (mark : w.toList.head? = some '#') : Class b depth line .nothing
  | exit {w text : String} (headed : Headed line.toList w text) (word : w = "exit" ∨ w = "quit") :
      Class b depth line .closes
  | abort {text : String} (headed : Headed line.toList "abort" text) : Class b depth line .stops
  | echo {text : String} (headed : Headed line.toList "echo" text) :
      Class b depth line (.prints text)
  /-- The name of the file is missing. -/
  | nameless (headed : Headed line.toList "source" "") :
      Class b depth line (.fails "source: missing file name")
  /-- The file cannot be opened. -/
  | unopened {file : String} {e : ShellError} (headed : Headed line.toList "source" file)
      (named : file ≠ "")
      (opened : Source.openNested b.files b.room depth (.ofString file) = .error e) :
      Class b depth line (.fails ("source: " ++ e.message))
  | source {file : String} {source : Source} (headed : Headed line.toList "source" file)
      (named : file ≠ "")
      (opened : Source.openNested b.files b.room depth (.ofString file) = .ok source) :
      Class b depth line (.reads source)
  | unknown {w text : String} (headed : Headed line.toList w text) (free : ¬Reserved w)
      (found : b.table.lookup line = none) :
      Class b depth line (.fails ("unknown command: " ++ trim line))
  /-- A command that prints nothing. -/
  | silent {w text : String} {d : Definition} {args : List String}
      (headed : Headed line.toList w text) (free : ¬Reserved w)
      (found : b.table.lookup line = some (d, args)) (output : d.output = "") :
      Class b depth line .nothing
  | known {w text : String} {d : Definition} {args : List String}
      (headed : Headed line.toList w text) (free : ¬Reserved w)
      (found : b.table.lookup line = some (d, args)) (output : d.output ≠ "") :
      Class b depth line (.prints d.output)

variable {b : Builtins} {c : Console} {line : String} {depth : Nat} {effect : Effect}

theorem Class.of_closes (h : b.Class depth line .closes) :
    ∃ w text, Headed line.toList w text ∧ (w = "exit" ∨ w = "quit") := by
  cases h with
  | exit headed word => exact ⟨_, _, headed, word⟩

theorem Class.of_stops (h : b.Class depth line .stops) :
    ∃ text, Headed line.toList "abort" text := by
  cases h with
  | abort headed => exact ⟨_, headed⟩

/-- A line of output is asked for, or it is that of a command. -/
theorem Class.of_prints {text : String} (h : b.Class depth line (.prints text)) :
    (∃ text, Headed line.toList "echo" text) ∨
      ∃ w text d args, Headed line.toList w text ∧ ¬Reserved w ∧
        b.table.lookup line = some (d, args) ∧ d.output ≠ "" := by
  cases h with
  | echo headed => exact .inl ⟨_, headed⟩
  | known headed free found output => exact .inr ⟨_, _, _, _, headed, free, found, output⟩

theorem Class.of_reads {source : Source} (h : b.Class depth line (.reads source)) :
    ∃ file, Headed line.toList "source" file ∧ file ≠ "" ∧
      Source.openNested b.files b.room depth (.ofString file) = .ok source := by
  cases h with
  | source headed named opened => exact ⟨_, headed, named, opened⟩

/-- **exists_class** — every line has a class. -/
theorem exists_class (b : Builtins) (depth : Nat) (line : String) :
    ∃ effect, b.Class depth line effect := by
  by_cases hblank : ∀ c ∈ line.toList, isBlank c = true
  · exact ⟨_, .blank hblank⟩
  · obtain ⟨w, text, headed⟩ := exists_headed (by simpa using hblank)
    by_cases hreserved : Reserved w
    · obtain hmark | hword := hreserved
      · exact ⟨_, .comment headed hmark⟩
      · simp only [List.mem_cons, List.not_mem_nil, or_false] at hword
        obtain rfl | rfl | rfl | rfl | rfl := hword
        · exact ⟨_, .exit headed (.inl rfl)⟩
        · exact ⟨_, .exit headed (.inr rfl)⟩
        · exact ⟨_, .abort headed⟩
        · exact ⟨_, .echo headed⟩
        · by_cases hnamed : text = ""
          · subst hnamed
            exact ⟨_, .nameless headed⟩
          · cases hopened : Source.openNested b.files b.room depth (.ofString text) with
            | error e => exact ⟨_, .unopened headed hnamed hopened⟩
            | ok source => exact ⟨_, .source headed hnamed hopened⟩
    · cases hfound : b.table.lookup line with
      | none => exact ⟨_, .unknown headed hreserved hfound⟩
      | some answer =>
          by_cases houtput : answer.1.output = ""
          · exact ⟨_, .silent headed hreserved hfound houtput⟩
          · exact ⟨_, .known headed hreserved hfound houtput⟩

/-- Blanks at the ends of a line do not matter to the table. -/
theorem lookup_trim (t : Table) (line : String) : t.lookup (trim line) = t.lookup line := by
  unfold Table.lookup
  rw [words_trim]

/-- A line with a first word that is not reserved is looked up. -/
theorem execute_of_free {w text : String} (headed : Headed line.toList w text)
    (free : ¬Reserved w) : b.execute c line depth = b.lookup c (trim line) := by
  unfold execute
  rw [Command.parse_of_free headed free]

/-- A line that names a file asks for it. -/
theorem execute_of_source {file : String} (headed : Headed line.toList "source" file) :
    b.execute c line depth = b.readScript c file depth := by
  unfold execute
  rw [Command.parse_of_typed headed (by decide)]
  rfl

/-- **execute_of_class** — where the writers take everything, a line does what its class says. -/
theorem execute_of_class (hc : c.AcceptsAll) (h : b.Class depth line effect) :
    b.execute c line depth = effect.reaction c := by
  cases h with
  | blank blank =>
      unfold execute
      rw [Command.parse_of_blank blank]
      rfl
  | comment headed mark =>
      unfold execute
      rw [Command.parse_of_comment headed mark]
      rfl
  | @exit w text headed word =>
      have hmark : w.toList.head? ≠ some '#' := by rcases word with rfl | rfl <;> decide
      unfold execute
      rw [Command.parse_of_typed headed hmark, if_pos word]
      rfl
  | abort headed =>
      unfold execute
      rw [Command.parse_of_typed headed (by decide)]
      rfl
  | echo headed =>
      unfold execute
      rw [Command.parse_of_typed headed (by decide)]
      exact hc.print _
  | nameless headed =>
      rw [execute_of_source headed]
      exact hc.fail _
  | unopened headed named opened =>
      rw [execute_of_source headed, readScript, if_neg named, opened]
      exact hc.fail _
  | source headed named opened =>
      rw [execute_of_source headed, readScript, if_neg named, opened]
      rfl
  | unknown headed free found =>
      rw [execute_of_free headed free, lookup, lookup_trim, found]
      exact hc.fail _
  | silent headed free found output =>
      rw [execute_of_free headed free, lookup, lookup_trim, found]
      exact if_pos output
  | known headed free found output =>
      rw [execute_of_free headed free, lookup, lookup_trim, found]
      exact (if_neg output).trans (hc.print _)

/-! ## A line of a session -/

section Dispatch

variable {r : LineReader} {terminals : List String} {h : Host Console} {l : Loop Console}

/-- **carried_of_class** — a line of a session does what its class says. -/
theorem carried_of_class (hc : l.env.AcceptsAll) (hclass : b.Class l.stack.depth l.line effect) :
    l.reaction (r.host terminals b.execute) = effect.reaction l.env ∧
      l.carried (r.host terminals b.execute) = (effect.after l, effect.events l) := by
  have hreaction : l.reaction (r.host terminals b.execute) = effect.reaction l.env := by
    rw [Loop.reaction_host, execute_of_class hc hclass]
  exact ⟨hreaction, Effect.carried_of_reaction hreaction⟩

/-- **Names** — the line is the name of a definition of the table, in any spacing, and more words,
which do not make it a longer registered name. -/
structure Names (t : Table) (line : String) (d : Definition) (args : List String) : Prop where
  holds : t.Holds d
  spaced : Spaced (words d.name ++ args) line.toList
  noLonger : t.NoLonger line (words d.name)

/-- **LineEffects** — what the line read last does with a session. -/
structure LineEffects (b : Builtins) (h : Host Console) (l : Loop Console) : Prop where
  /-- The line has a class … -/
  classed : ∃ effect, b.Class l.stack.depth l.line effect
  /-- … and does what its class says, no more and no less. -/
  exactly : ∀ effect, b.Class l.stack.depth l.line effect →
    l.reaction h = effect.reaction l.env ∧ l.carried h = (effect.after l, effect.events l)
  /-- One source is pushed at most, and only for a line that names a file that can be opened. -/
  pushes : (l.carried h).1.stack = l.stack ∨
    ∃ file source, Headed l.line.toList "source" file ∧ file ≠ "" ∧
      Source.openNested b.files b.room l.stack.depth (.ofString file) = .ok source ∧
      source.interactive = false ∧ source.primordial = false ∧
      (l.carried h).1.stack.sources = source :: l.stack.sources
  /-- The state is changed only where shutdown is asked for. -/
  changes : (l.carried h).1.state ≠ l.state →
    ∃ w text, Headed l.line.toList w text ∧ (w = "exit" ∨ w = "quit")
  /-- Output is written only by the command for it and by commands of the table that print. -/
  prints : writings .output (l.carried h).2 ≠ [] →
    (∃ text, Headed l.line.toList "echo" text) ∨
      ∃ w text d args, Headed l.line.toList w text ∧ ¬Reserved w ∧
        b.table.lookup l.line = some (d, args) ∧ d.output ≠ ""
  /-- A line fails if and only if one error message is written. -/
  fails_iff : (l.reaction h).result = .ok .scriptError ↔
    ∃ message, writings .errors (l.carried h).2 = [lineBytes ("Error: " ++ message)]
  /-- A line that does not fail writes no error message. -/
  quiet : (l.reaction h).result ≠ .ok .scriptError → writings .errors (l.carried h).2 = []
  /-- A line that fails leaves everything as it is and writes no output. -/
  failing : (l.reaction h).result = .ok .scriptError →
    (l.carried h).1 = l ∧ writings .output (l.carried h).2 = []
  /-- Only one command is fatal, and it does nothing else. -/
  fatal : (l.reaction h).result = .ok .fatal →
    (∃ text, Headed l.line.toList "abort" text) ∧ l.carried h = (l, [])
  /-- A name finds its own definition if and only if its first word is not reserved. -/
  finds_iff : ∀ d args first others, Names b.table l.line d args → words d.name = first :: others →
    ((∃ text, Command.parse l.line = .other text ∧ b.table.lookup text = some (d, args)) ↔
      ¬Reserved first)
  /-- If so, the line does what the definition says. -/
  found : ∀ d args first others, Names b.table l.line d args → words d.name = first :: others →
    ¬Reserved first → (l.reaction h).result = .ok .ok ∧
      l.carried h = (l, if d.output = "" then [] else
        [.noted (.wrote .output (lineBytes d.output))])
  /-- Otherwise it would do the same with any other table. -/
  shadowed : ∀ d args first others, Names b.table l.line d args → words d.name = first :: others →
    Reserved first → ∀ t, ({ b with table := t } : Builtins).execute l.env l.line l.stack.depth =
      l.reaction h

/-- The script that is opened stands on the stack as it was opened. -/
theorem sources_after_reads {file : String} {source : Source}
    (opened : Source.openNested b.files b.room depth (.ofString file) = .ok source) :
    source.interactive = false ∧ source.primordial = false ∧
      ((Effect.reads source).after l).stack.sources = source :: l.stack.sources := by
  have hscript : source.interactive = false ∧ source.primordial = false := by
    unfold Source.openNested Source.openFile at opened
    split_ifs at opened
    cases hfile : b.files.opened (.ofString file) with
    | error e =>
        rw [hfile] at opened
        cases opened
    | ok found =>
        rw [hfile] at opened
        cases opened
        exact ⟨rfl, rfl⟩
  refine ⟨hscript.1, hscript.2, ?_⟩
  show { source with primordial := false } :: l.stack.sources = _
  rw [← hscript.2]

/-! ### Names that are typed -/

variable {t : Table} {d : Definition} {args others : List String} {first : String}

theorem Names.headed (h : Names t line d args) (hwords : words d.name = first :: others) :
    ∃ text, Headed line.toList first text := by
  have hline : words line = first :: (others ++ args) := by
    rw [h.spaced.words_eq, hwords]
    rfl
  have hsome : ∃ c ∈ line.toList, isBlank c = false := by
    apply words_ne_nil_iff.mp
    rw [hline]
    exact List.cons_ne_nil _ _
  obtain ⟨w, text, headed⟩ := exists_headed hsome
  rw [headed.words_eq] at hline
  obtain rfl := (List.cons.inj hline).1
  exact ⟨text, headed⟩

theorem Names.lookup_eq (h : Names t line d args) (hlongest : t.FindsLongest line) :
    t.lookup line = some (d, args) :=
  (hlongest.eq_some_iff d args).mpr ⟨h.holds, h.spaced.words_eq.symm, h.noLonger⟩

theorem Names.finds_iff (h : Names b.table line d args) (hlongest : b.table.FindsLongest line)
    (hwords : words d.name = first :: others) :
    (∃ text, Command.parse line = .other text ∧ b.table.lookup text = some (d, args)) ↔
      ¬Reserved first := by
  obtain ⟨text, headed⟩ := h.headed hwords
  constructor
  · rintro ⟨other, hparse, -⟩ reserved
    exact Command.parse_of_reserved headed reserved other hparse
  · intro free
    refine ⟨trim line, Command.parse_of_free headed free, ?_⟩
    rw [lookup_trim, h.lookup_eq hlongest]

/-- A name that is found has the class of its output. -/
theorem Names.class (h : Names b.table line d args) (hlongest : b.table.FindsLongest line)
    (hwords : words d.name = first :: others) (free : ¬Reserved first) :
    b.Class depth line (if d.output = "" then .nothing else .prints d.output) := by
  obtain ⟨text, headed⟩ := h.headed hwords
  have hfound := h.lookup_eq hlongest
  split_ifs with houtput
  · exact .silent headed free hfound houtput
  · exact .known headed free hfound houtput

/-- The table does not matter to a line that is not for it. -/
theorem execute_with_table (hline : ∀ other, Command.parse line ≠ .other other) (t : Table) :
    ({ b with table := t } : Builtins).execute c line depth = b.execute c line depth := by
  unfold execute
  cases hparse : Command.parse line with
  | other text => exact absurd hparse (hline text)
  | _ => rfl

/-! ### All lines -/

/-- **execute_classes** — for every table that changes have built, every line, every stack and every
state: where the writers take everything, the line has exactly the effects of its class. -/
theorem execute_classes (cs : List Table.Change) (b : Builtins) (hb : b.table = .after cs)
    (r : LineReader) (terminals : List String) (l : Loop Console) (hc : l.env.AcceptsAll) :
    LineEffects b (r.host terminals b.execute) l := by
  obtain ⟨effect, hclass⟩ := b.exists_class l.stack.depth l.line
  obtain ⟨hreaction, hcarried⟩ := carried_of_class (r := r) hc hclass
  have hlongest : b.table.FindsLongest l.line := hb ▸ Table.lookup_after cs l.line
  constructor
  case classed => exact ⟨effect, hclass⟩
  case exactly => exact fun effect' => carried_of_class hc
  case pushes =>
    rw [hcarried]
    rcases effect.stack_after_cases l with hstack | ⟨source, rfl⟩
    · exact .inl hstack
    · obtain ⟨file, headed, named, opened⟩ := hclass.of_reads
      exact .inr ⟨file, source, headed, named, opened, sources_after_reads opened⟩
  case changes =>
    rw [hcarried]
    intro hne
    obtain rfl := Effect.eq_closes_of_state_ne hne
    exact hclass.of_closes
  case prints =>
    rw [hcarried]
    intro hne
    obtain ⟨text, rfl⟩ := Effect.exists_prints hne
    exact hclass.of_prints
  case fails_iff =>
    rw [hreaction, hcarried, Effect.result_eq_scriptError_iff]
    exact Effect.exists_fails_iff
  case quiet =>
    rw [hreaction, hcarried, Ne, Effect.result_eq_scriptError_iff]
    exact Effect.writings_errors_of_not_fails
  case failing =>
    rw [hreaction, hcarried, Effect.result_eq_scriptError_iff]
    rintro ⟨message, rfl⟩
    exact ⟨rfl, rfl⟩
  case fatal =>
    rw [hreaction, hcarried]
    intro hfatal
    obtain rfl := Effect.eq_stops_of_fatal hfatal
    exact ⟨hclass.of_stops, rfl⟩
  case finds_iff =>
    intro d args first others hnames hwords
    exact hnames.finds_iff hlongest hwords
  case found =>
    intro d args first others hnames hwords free
    obtain ⟨hreaction, hcarried⟩ :=
      carried_of_class (r := r) hc (hnames.class hlongest hwords free)
    rw [hreaction, hcarried]
    split_ifs <;> exact ⟨rfl, rfl⟩
  case shadowed =>
    intro d args first others hnames hwords reserved t
    obtain ⟨text, headed⟩ := hnames.headed hwords
    rw [Loop.reaction_host, execute_with_table (Command.parse_of_reserved headed reserved)]

/-- A greeting that is known by a longer name than another command. -/
def greeting : Definition := { name := "say  hello", output := "hello" }

/-- The commands of a shell that greets. -/
def greeters : Builtins :=
  { files := .empty, table := .after [.insert greeting, .insert { name := "say" }] }

/-- A session that is asked for the greeting. -/
def greeted : Loop Console :=
  { session := 1, state := .ready, stack := .empty, env := {}, line := " say\thello world"
    cancellable := false }

theorem names_greeting : Names greeters.table greeted.line greeting ["world"] where
  holds := by
    unfold Table.Holds
    decide +kernel
  spaced := words_eq_iff.mp (by decide +kernel)
  noLonger := by
    unfold Table.NoLonger
    decide +kernel

/-- The longer name is found, with a tab between its words and another word behind them. -/
theorem greeted_carried :
    greeted.carried (LineReader.host {} [] greeters.execute) =
      (greeted, [.noted (.wrote .output (lineBytes "hello"))]) := by
  have heffects := execute_classes _ greeters rfl {} [] greeted ⟨⟨rfl, rfl⟩, rfl, rfl⟩
  have hfree : ¬Reserved "say" := by
    unfold Reserved
    decide +kernel
  have hwords : words greeting.name = "say" :: ["hello"] := by decide +kernel
  exact (heffects.found greeting ["world"] "say" ["hello"] names_greeting hwords hfree).2

end Dispatch

end Builtins

end CommandShell
