import CommandShell.Program
import CommandShell.Proofs.Program.Abreast
import CommandShell.Proofs.Program.OpenFiles
import CommandShell.Proofs.Program.Options
import CommandShell.Proofs.Session.Closing

/-!
# How a script reaches the program does not matter

A script may be named by a plain argument or by an option, or it may come on standard input; and the
session may run on a worker or not, as the command line or the configuration file asks for.
`run_delivered` says that none of this shows in what the program prints, in what its commands
report, and in the exit code, as long as there is room for the files that are opened. A script that
is named is an open file itself and leaves room for one file less (`nestedScript_differs`).

Two command lines that deliver the script in different ways lead to sessions whose first sources
hold the same bytes, so their loops stay abreast (`run_abreast`). What a worker adds to a run, or
the opening of a file, is written to the log only (`relays_runIn`, `relays_runFile`).
-/

namespace CommandShell

open CommandShell.Text
open CommandShell.Files
open CommandShell.CommandLine

/-! ## Configurations -/

namespace Config

/-- **anywhere** — the configuration apart from whether the session runs on a worker. -/
def anywhere (c : Config) : Config := { c with shell := { c.shell with useThread := false } }

/-- The layers of a configuration, apart from whether the session runs on a worker. -/
theorem anywhere_layers (vars : Variables) (o : Options) (c : Config) :
    ((c.withVariables vars).withOptions o).anywhere =
      ((c.anywhere.withVariables vars).withOptions o.others).anywhere := rfl

end Config

/-! ## Sessions whose first sources hold the same bytes -/

namespace Session

variable {r : LineReader} {b : Builtins} {s s' : Session Console} {bs : Bytes}

/-- Two runs begin abreast. -/
theorem enter_abreast (hs : s.stack = .empty) (hs' : s'.stack = .empty)
    (hstate : s'.state = s.state) (hsinks : s'.env.sinks = s.env.sinks)
    (hfirst : (s.firstSource (r.host [] b.execute)).Holds s.env bs)
    (hfirst' : (s'.firstSource (r.host [] b.execute)).Holds s'.env bs) :
    (s.enter (r.host [] b.execute) false).1.Abreast (s'.enter (r.host [] b.execute) false).1 where
  next := rfl
  state := congrArg State.recover hstate
  line := rfl
  fatal := rfl
  deaf := ⟨rfl, rfl⟩
  uncancelled := ⟨rfl, rfl⟩
  sinks := hsinks
  alike := by
    rw [enter_sources, enter_sources, hs, hs']
    exact .first rfl ⟨hfirst.untyped, hfirst.carries⟩ ⟨hfirst'.untyped, hfirst'.carries⟩

/-- **Runs whose first sources hold the same bytes** write the same and end in the same way, and not
in a panic. -/
theorem run_abreast (hs : s.stack = .empty) (hs' : s'.stack = .empty)
    (hopen : s.state ≠ .closing) (hstate : s'.state = s.state)
    (hsinks : s'.env.sinks = s.env.sinks)
    (hfirst : (s.firstSource (r.host [] b.execute)).Holds s.env bs)
    (hfirst' : (s'.firstSource (r.host [] b.execute)).Holds s'.env bs) (n : Nat) :
    (s'.run (r.host [] b.execute) n false).exit = (s.run (r.host [] b.execute) n false).exit ∧
      (∀ p, (s.run (r.host [] b.execute) n false).exit ≠ some (.panicked p)) ∧
      writes (s'.run (r.host [] b.execute) n false).events =
        writes (s.run (r.host [] b.execute) n false).events := by
  have ha := enter_abreast hs hs' hstate hsinks hfirst hfirst'
  obtain ⟨hexit, hcalm, hwrites⟩ := Loop.abreast_follow ha n
  rw [run_of_open _ n false hopen, run_of_open _ n false (hstate ▸ hopen)]
  refine ⟨hexit, hcalm, ?_⟩
  rw [writes_append, writes_append, writes_enter, writes_enter, hwrites]

/-! ## What happens around a run -/

theorem writes_giveUp (waiting : Option Source) : writes (giveUp waiting) = [] := by
  cases waiting <;> rfl

/-- The exit code after a run that did not panic. -/
def codeAfter : Option Exit → Option Program.ExitCode
  | some (.outcome o) => some (Program.exitCode o)
  | some (.panicked _) | none => none

end Session

/-- **Relays** — an operation tells the events of a run with others around them that write nothing,
and ends as the run does. -/
structure Report.Relays (report : Report Console) (run : Run Console) : Prop where
  events : ∃ before after, report.transcript.events = before ++ run.events ++ after ∧
    writes before = [] ∧ writes after = []
  code : ∀ o, (Program.conclude o report.ending).1 = Session.codeAfter run.exit

namespace Report.Relays

variable {report : Report Console} {run : Run Console}

theorem writes_eq (h : report.Relays run) :
    writes report.transcript.events = writes run.events := by
  obtain ⟨before, after, hevents, hbefore, hafter⟩ := h.events
  rw [hevents, writes_append, writes_append, hbefore, hafter, List.nil_append, List.append_nil]

theorem subset (h : report.Relays run) : run.events ⊆ report.transcript.events := by
  obtain ⟨before, after, hevents, -, -⟩ := h.events
  rw [hevents]
  exact fun e he => List.mem_append_left _ (List.mem_append_right _ he)

/-- Events that write nothing may come before. -/
theorem after (h : report.Relays run) {es : List Event} (hes : writes es = []) :
    Relays { report with transcript := Transcript.ofCaller es ++ report.transcript } run := by
  obtain ⟨before, after, hevents, hbefore, hafter⟩ := h.events
  refine ⟨⟨es ++ before, after, ?_, ?_, hafter⟩, h.code⟩
  · show Transcript.events (Transcript.ofCaller es ++ report.transcript) = _
    rw [Session.events_append, Session.events_ofCaller, hevents]
    simp only [List.append_assoc]
  · rw [writes_append, hes, hbefore, List.append_nil]

/-- Giving up a source writes nothing. -/
theorem settle (h : report.Relays run) : report.settle.Relays run := by
  obtain ⟨before, after, hevents, hbefore, hafter⟩ := h.events
  obtain ⟨transcript, ending⟩ := report
  cases ending with
  | completed session o =>
      refine ⟨⟨before, after ++ Session.giveUp session.primary, ?_, hbefore, ?_⟩, h.code⟩
      · show Transcript.events (transcript ++ Transcript.ofCaller _) = _
        rw [Session.events_append, Session.events_ofCaller, hevents, List.append_assoc]
      · rw [writes_append, hafter, Session.writes_giveUp, List.append_nil]
  | failed error env => exact h
  | panicked panic env => exact h
  | unfinished session => exact h

end Report.Relays

namespace Session

/-- **What accompanies a run writes nothing**, on the thread of the caller or on a worker. -/
theorem relays_employ (h : Host Console) (turns : Nat) (place : Place) (s : Session Console)
    (hcalm : ∀ p, (s.run h turns false).exit ≠ some (.panicked p)) :
    (s.employ h turns place none).Relays (s.run h turns false) := by
  rw [employ, Option.isSome_none]
  generalize s.run h turns false = run at hcalm ⊢
  obtain ⟨events, session, exit⟩ := run
  have hengage : writes (place.engage s.number).events = [] := by
    cases place <;> rfl
  have htold : Transcript.events (place.engage s.number ++ place.during none events) =
      (place.engage s.number).events ++ events ++ [] := by
    rw [events_append, events_during, List.append_nil]
  cases exit with
  | none => exact ⟨⟨_, _, htold, hengage, rfl⟩, fun _ => rfl⟩
  | some e =>
      cases e with
      | panicked p => exact absurd rfl (hcalm p)
      | outcome o =>
          cases place with
          | caller => exact ⟨⟨_, _, htold, hengage, rfl⟩, fun _ => rfl⟩
          | worker name =>
              refine ⟨⟨_, [.logged (.workerJoined name o)], ?_, hengage, rfl⟩, fun _ => rfl⟩
              show Transcript.events (_ ++ [(Thread.caller, _)]) = _
              rw [events_append, htold, List.append_nil]
              rfl

/-- A run in either mode, if its thread can be made. -/
theorem relays_runIn (h : Host Console) {threads : Threads} (turns : Nat) {mode : RunMode}
    (hm : ∀ config, mode = .threaded config → threads.refusal config = none)
    (s : Session Console) (hcalm : ∀ p, (s.run h turns false).exit ≠ some (.panicked p)) :
    (s.runIn h threads turns mode none).Relays (s.run h turns false) := by
  obtain ⟨place, hplace⟩ := s.placeFor_ok hm
  rw [runIn, hplace]
  exact relays_employ h turns place s hcalm

/-- A run that starts with a file that can be opened. -/
theorem relays_runFile (h : Host Console) {threads : Threads} {files : FileSystem} (turns : Nat)
    {path : Path} {mode : RunMode} {source : Source}
    (hm : ∀ config, mode = .threaded config → threads.refusal config = none)
    (ho : Source.openFile files path = .ok source) (s : Session Console)
    (hcalm : ∀ p, ((s.setPrimary source).1.run h turns false).exit ≠ some (.panicked p)) :
    (s.runFile h threads files turns path mode).Relays
      ((s.setPrimary source).1.run h turns false) := by
  rw [runFile, takeScript_of_opened s ho]
  have hopening : writes (.logged (.scriptStarted path.shown) :: (s.setPrimary source).2) = [] :=
    writes_giveUp s.primary
  exact ((relays_runIn h turns hm _ hcalm).after hopening).settle

end Session

/-! ## The program -/

namespace Program

namespace Surroundings

/-- The items of the command line. -/
def items (w : Surroundings) : List Item := (Scan.ofArguments w.arguments).items

/-- The configuration in the file that the command line names, or the standard one if it names none.
-/
def configuration (w : Surroundings) : Except ConfigFault Config :=
  match configPath w.items with
  | some path => Config.ofFile w.files path
  | none => .ok {}

/-- **Delivers** — the command line is spelled right and hands a script over in the given way: the
file that it names has the script in it; or it names no file, and the script is on standard input.
-/
structure Delivers (w : Surroundings) (d : Delivery) (script : Bytes) : Prop where
  spelled : (Scan.ofArguments w.arguments).fault = none
  named : w.items.filter Item.isDelivery = d.items
  file : ∀ path, d.path? = some path → w.files.opened path = .ok (.file script)
  input : d.path? = none → w.input = script

/-- The names of configuration files on the command line are texts. -/
def NamesText (w : Surroundings) : Prop :=
  ∀ value, .setting .config value ∈ w.items → ∃ path, value = encode path

/-- **Reconfigures** — the command lines ask for the same but for the script, a worker and the
configuration files, which have texts as names and differ only in whether the session is to run on a
worker. -/
structure Reconfigures (w w' : Surroundings) : Prop where
  texts : w.NamesText ∧ w'.NamesText
  others : w'.items.filter Item.isOther = w.items.filter Item.isOther
  configuration : w'.configuration.map Config.anywhere = w.configuration.map Config.anywhere

/-- **Resembles** — there are the same files, variables and threads, and the command lines ask for
the same but for the script and for a worker, which may also be asked for by the configuration file.
-/
structure Resembles (w w' : Surroundings) : Prop where
  files : w'.files = w.files
  environment : w'.environment = w.environment
  threads : w'.threads = w.threads
  asks : w'.items.filter Item.isKept = w.items.filter Item.isKept ∨ w.Reconfigures w'

/-- The configurations are the same apart from the worker. -/
theorem Resembles.configuration {w w' : Surroundings} (h : w.Resembles w') :
    w'.configuration.map Config.anywhere = w.configuration.map Config.anywhere := by
  obtain hkept | hother := h.asks
  · have hpath : configPath w'.items = configPath w.items := by
      rw [← Options.configPath_filter_isKept, hkept, Options.configPath_filter_isKept]
    rw [Surroundings.configuration, Surroundings.configuration, hpath, h.files]
  · exact hother.configuration

/-- **GetsThread** — the thread of a worker can be made as the configuration wants it. -/
def GetsThread (w : Surroundings) : Prop :=
  ∀ o c, Options.parse w.arguments = .ok o → Config.load w.files w.environment o = .ok c →
    w.threads.refusal c.workerSettings = none

/-- The room for scripts on top of the first source. -/
def room (w : Surroundings) : Option Nat :=
  match Options.parse w.arguments with
  | .ok o => roomFor w.spareFiles o
  | .error _ => none

theorem room_of_parse {w : Surroundings} {o : Options} (ho : Options.parse w.arguments = .ok o) :
    w.room = roomFor w.spareFiles o := by
  rw [room, ho]

/-- **HasRoom** — the program never refuses a script for want of room. -/
def HasRoom (w : Surroundings) (turns : Nat) : Prop := Unhindered w.room (run w turns).events

instance (w : Surroundings) (turns : Nat) : Decidable (w.HasRoom turns) :=
  inferInstanceAs (Decidable (Unhindered w.room (run w turns).events))

end Surroundings

variable {w w' : Surroundings} {d d' : Delivery} {script : Bytes} {o : Options} {p : Prepared}

/-- What went wrong is written to the log only. -/
theorem writes_conclude (o : Options) (e : Ending Console) : writes (conclude o e).2 = [] := by
  cases e with
  | panicked p env =>
      rw [conclude]
      split <;> rfl
  | _ => rfl

/-- A file that can be opened holds its bytes. -/
theorem openFile_holds {files : FileSystem} {path : Path}
    (h : files.opened path = .ok (.file script)) :
    ∃ source, Source.openFile files path = .ok source ∧ ∀ c, source.Holds c script := by
  rw [Source.openFile, h]
  exact ⟨_, rfl, fun c => ⟨rfl, Stream.carries_ofBytes script⟩⟩

/-- An unhindered run of the program is the run without a limit on open files. -/
theorem run_host_unlimited {files : FileSystem} {room : Option Nat} {s : Session Console}
    {turns : Nat} (hfree : Unhindered room (s.run (host files room p) turns false).events) :
    s.run (host files none p) turns false = s.run (host files room p) turns false :=
  Session.run_unlimited (b := { files, table := p.table, room }) hfree

/-- **Begins** — the session is as the program hands it to a run with the script. -/
structure Begins (s : Session Console) (script : Bytes) : Prop where
  stack : s.stack = .empty
  state : s.state = .ready
  sinks : s.env.sinks = ({} : Console)
  holds : (s.primary.getD (.ofStandardInput false)).Holds s.env script

namespace Begins

variable {s s' : Session Console} {files : FileSystem} {room room' : Option Nat} {turns : Nat}

theorem isOpen (hs : Begins s script) : s.state ≠ .closing := by
  rw [hs.state]
  exact State.noConfusion

/-- A run with a script does not panic. -/
theorem calm (hs : Begins s script) (files : FileSystem) (room : Option Nat) (p : Prepared)
    (turns : Nat) :
    ∀ cause, (s.run (host files room p) turns false).exit ≠ some (.panicked cause) :=
  (Session.run_abreast hs.stack hs.stack hs.isOpen rfl rfl hs.holds hs.holds turns).2.1

/-- Runs with the same script in the same room. -/
theorem alike_of_eq (hs : Begins s script) (hs' : Begins s' script) (files : FileSystem)
    (room : Option Nat) (p : Prepared) (turns : Nat) :
    (s'.run (host files room p) turns false).exit = (s.run (host files room p) turns false).exit ∧
      writes (s'.run (host files room p) turns false).events =
        writes (s.run (host files room p) turns false).events := by
  obtain ⟨hexit, -, hwrites⟩ := Session.run_abreast hs.stack hs'.stack hs.isOpen
    (hs'.state.trans hs.state.symm) (hs'.sinks.trans hs.sinks.symm) hs.holds hs'.holds turns
  exact ⟨hexit, hwrites⟩

/-- Runs with the same script, where the room is the same or is always enough. -/
theorem alike (hs : Begins s script) (hs' : Begins s' script)
    (hroom : room' = room ∨
      Unhindered room (s.run (host files room p) turns false).events ∧
        Unhindered room' (s'.run (host files room' p) turns false).events) :
    (s'.run (host files room' p) turns false).exit = (s.run (host files room p) turns false).exit ∧
      writes (s'.run (host files room' p) turns false).events =
        writes (s.run (host files room p) turns false).events := by
  obtain rfl | ⟨hfree, hfree'⟩ := hroom
  · exact hs.alike_of_eq hs' files room' p turns
  · rw [← run_host_unlimited hfree, ← run_host_unlimited hfree']
    exact hs.alike_of_eq hs' files none p turns

end Begins

/-- **A delivered script is run**: the session begins with a source that holds the script, and the
program tells the events of its run. -/
theorem runSession_delivered (hw : w.Delivers d script) (ho : o.file = d.path?)
    (hthread : w.threads.refusal p.config.workerSettings = none) (turns : Nat) :
    ∃ (s : Session Console) (report : Report Console), Begins s script ∧
      report.Relays (s.run (host w.files (roomFor w.spareFiles o) p) turns false) ∧
      runSession w turns o p =
        { code := (conclude o report.ending).1, filter := p.filter
          events := p.events ++ report.transcript.events ++ (conclude o report.ending).2 } := by
  have hm : ∀ config, p.config.runMode = .threaded config → w.threads.refusal config = none := by
    intro config hconfig
    rw [Config.runMode] at hconfig
    split at hconfig
    · cases hconfig
      exact hthread
    · cases hconfig
  cases hpath : d.path? with
  | none =>
      have hbegins : Begins (Session.create sessionNumber (Console.ofInput w.input)) script := by
        refine ⟨rfl, rfl, rfl, rfl, ?_⟩
        rw [← hw.input hpath]
        exact Stream.carries_ofBlocks Console.blockSize w.input
      refine ⟨_, _, hbegins, Session.relays_runIn _ turns hm _ (hbegins.calm _ _ _ _), ?_⟩
      rw [runSession, ho, hpath]
  | some path =>
      obtain ⟨source, hopened, hholds⟩ := openFile_holds (hw.file path hpath)
      have hbegins : Begins ((Session.create sessionNumber
          (Console.ofInput w.input)).setPrimary source).1 script :=
        ⟨rfl, rfl, rfl, hholds _⟩
      refine ⟨_, _, hbegins, Session.relays_runFile _ turns hm hopened _ (hbegins.calm _ _ _ _), ?_⟩
      rw [runSession, ho, hpath]

/-- What an answer prints is among what is written. -/
theorem output_writes (a : Answer) : a.output = (writes a.events).flatMap toOutput := by
  rw [Answer.output]
  induction a.events with
  | nil => rfl
  | cons e es ih =>
      rw [writes_cons, List.flatMap_cons, ih]
      split
      · rfl
      · rename_i he
        have hnone : toOutput e = [] := by
          unfold toOutput Event.bytesOn
          split
          · exact absurd rfl he
          · rfl
        rw [hnone, List.nil_append]

/-- Two deliveries of the same script, under configurations that differ in the worker only. -/
theorem runSession_alike {o' : Options} {c c' : Config} (hw : w.Delivers d script)
    (hw' : w'.Delivers d' script) (hlike : w.Resembles w') (ho : o.file = d.path?)
    (ho' : o'.file = d'.path?) (hc : c'.anywhere = c.anywhere)
    (hthread : w.threads.refusal c.workerSettings = none) (turns : Nat)
    (hroom : roomFor w'.spareFiles o' = roomFor w.spareFiles o ∨
      Unhindered (roomFor w.spareFiles o)
          (runSession w turns o (prepare w.files w.environment c)).events ∧
        Unhindered (roomFor w'.spareFiles o')
          (runSession w' turns o' (prepare w'.files w'.environment c')).events) :
    writes (runSession w' turns o' (prepare w'.files w'.environment c')).events =
        writes (runSession w turns o (prepare w.files w.environment c)).events ∧
      (runSession w' turns o' (prepare w'.files w'.environment c')).code =
        (runSession w turns o (prepare w.files w.environment c)).code := by
  have hsettings : c'.workerSettings = c.workerSettings :=
    (congrArg Config.workerSettings hc : c'.anywhere.workerSettings = _)
  have hthread' : w'.threads.refusal c'.workerSettings = none := by
    rw [hlike.threads, hsettings, hthread]
  have hevents : (prepare w'.files w'.environment c').events =
      (prepare w.files w.environment c).events := by
    rw [hlike.files, hlike.environment]
    exact (congrArg (fun c => (prepare w.files w.environment c).events) hc :
      (prepare w.files w.environment c'.anywhere).events = _)
  have hhost : ∀ room, host w'.files room (prepare w'.files w'.environment c') =
      host w.files room (prepare w.files w.environment c) := by
    intro room
    rw [hlike.files, hlike.environment]
    exact (congrArg (fun c => host w.files room (prepare w.files w.environment c)) hc :
      host w.files room (prepare w.files w.environment c'.anywhere) = _)
  obtain ⟨s, report, hs, hrelays, hrun⟩ :=
    runSession_delivered (p := prepare w.files w.environment c) hw ho hthread turns
  obtain ⟨s', report', hs', hrelays', hrun'⟩ :=
    runSession_delivered (p := prepare w'.files w'.environment c') hw' ho' hthread' turns
  rw [hhost] at hrelays'
  have htold : ∀ {es es' : List Event} {before after : List Event}, es ⊆ es' →
      es ⊆ before ++ es' ++ after := fun h e he =>
    List.mem_append_left _ (List.mem_append_right _ (h he))
  rw [hrun, hrun'] at hroom
  obtain ⟨hexit, hwrites⟩ := hs.alike hs' <| hroom.imp_right fun hfree =>
    ⟨hfree.1.subset (htold hrelays.subset), hfree.2.subset (htold hrelays'.subset)⟩
  rw [hrun, hrun']
  dsimp only
  rw [hrelays.code, hrelays'.code]
  refine ⟨?_, congrArg Session.codeAfter hexit⟩
  simp only [writes_append, writes_conclude, hrelays.writes_eq, hrelays'.writes_eq, hevents,
    List.append_nil]
  exact congrArg _ hwrites

/-- Results that agree in what counts are the same failure, or they are both good. -/
theorem eq_or_ok_of_map_eq {α β δ : Type} {f : α → β} {x x' : Except δ α}
    (h : x'.map f = x.map f) :
    (∃ e, x = .error e ∧ x' = .error e) ∨ ∃ a a', x = .ok a ∧ x' = .ok a' ∧ f a' = f a := by
  cases x with
  | error e =>
      cases x' with
      | error e' =>
          cases h
          exact .inl ⟨e, rfl, rfl⟩
      | ok a' => cases h
  | ok a =>
      cases x' with
      | error e' => cases h
      | ok a' => exact .inr ⟨a, a', rfl, rfl, Except.ok.inj h⟩

/-- The configuration that is loaded, apart from whether the session runs on a worker. -/
theorem load_anywhere (ho : o.config = configPath w.items) :
    (Config.load w.files w.environment o).map Config.anywhere =
      (w.configuration.map Config.anywhere).map fun c =>
        ((c.withVariables w.environment).withOptions o.others).anywhere := by
  have hload : Config.load w.files w.environment o =
      w.configuration.map fun c => (c.withVariables w.environment).withOptions o := by
    rw [Config.load, ho]
    rfl
  rw [hload]
  cases w.configuration with
  | error f => rfl
  | ok c => exact congrArg Except.ok (Config.anywhere_layers w.environment o c)

/-- Both configurations are refused for the same reason, or they differ in the worker only. -/
theorem load_alike {o' : Options} (hlike : w.Resembles w') (ho : o.config = configPath w.items)
    (ho' : o'.config = configPath w'.items) (hothers : o'.others = o.others) :
    (Config.load w'.files w'.environment o').map Config.anywhere =
      (Config.load w.files w.environment o).map Config.anywhere := by
  rw [load_anywhere ho, load_anywhere ho', hlike.configuration, hlike.environment, hothers]

/-- What is asked for beside the script, the configuration file and the worker. -/
theorem parse_others (hw : w.Delivers d script) :
    (Options.parse w.arguments).map Options.others =
      ((w.items.filter Item.isKept).foldlM Options.apply {}).map Options.others := by
  obtain ⟨hparse, -⟩ := Options.parse_of_spelled hw.spelled hw.named
  rw [Surroundings.items, ← hparse]
  cases Options.parse w.arguments with
  | error f => rfl
  | ok o => rfl

/-- Where the names of configuration files are texts, they make no difference to that. -/
theorem parse_others_of_text (hw : w.Delivers d script) (ht : w.NamesText) :
    (Options.parse w.arguments).map Options.others =
      (w.items.filter Item.isOther).foldlM Options.apply {} := by
  rw [parse_others hw, ← Item.filter_isOther_filter_isKept]
  refine Options.others_of_textual (fun item hitem => (List.mem_filter.mp hitem).2) ?_
  exact fun value hvalue => ht value (List.mem_filter.mp hvalue).1

/-- Both command lines are refused for the same reason, or they ask for the same but for the script,
the configuration file and the worker. -/
theorem parse_alike (hw : w.Delivers d script) (hw' : w'.Delivers d' script)
    (hlike : w.Resembles w') :
    (Options.parse w'.arguments).map Options.others =
      (Options.parse w.arguments).map Options.others := by
  obtain hkept | hother := hlike.asks
  · rw [parse_others hw, parse_others hw', hkept]
  · rw [parse_others_of_text hw hother.texts.1, parse_others_of_text hw' hother.texts.2,
      hother.others]

/-- What the program does for options that ask for a session. -/
def runOptions (w : Surroundings) (turns : Nat) (o : Options) : Answer :=
  match Config.load w.files w.environment o with
  | .error f => { code := some 2, events := configRefusal f }
  | .ok c => runSession w turns o (prepare w.files w.environment c)

/-- Sessions that are asked for alike. -/
theorem runOptions_alike {o' : Options} (hw : w.Delivers d script) (hw' : w'.Delivers d' script)
    (hlike : w.Resembles w') (hthread : w.GetsThread) (ho : Options.parse w.arguments = .ok o)
    (ho' : Options.parse w'.arguments = .ok o') (hothers : o'.others = o.others) (turns : Nat)
    (hroom : w'.room = w.room ∨ Unhindered w.room (runOptions w turns o).events ∧
      Unhindered w'.room (runOptions w' turns o').events) :
    writes (runOptions w' turns o').events = writes (runOptions w turns o).events ∧
      (runOptions w' turns o').code = (runOptions w turns o).code := by
  obtain ⟨hfile, hconfig⟩ := (Options.parse_of_spelled hw.spelled hw.named).2 o ho
  obtain ⟨hfile', hconfig'⟩ :=
    (Options.parse_of_spelled hw'.spelled hw'.named).2 o' ho'
  have hload := load_alike hlike hconfig hconfig' hothers
  rw [Surroundings.room_of_parse ho, Surroundings.room_of_parse ho'] at hroom
  rw [runOptions, runOptions] at hroom ⊢
  obtain ⟨f, hc, hc'⟩ | ⟨c, c', hc, hc', hanywhere⟩ := eq_or_ok_of_map_eq hload
  · rw [hc, hc']
    exact ⟨rfl, rfl⟩
  · rw [hc, hc'] at hroom ⊢
    exact runSession_alike hw hw' hlike hfile hfile' hanywhere (hthread o c ho hc) turns hroom

/-- **Two deliveries of the same script** lead to the same writing and the same exit code. -/
theorem run_alike (hw : w.Delivers d script) (hw' : w'.Delivers d' script)
    (hlike : w.Resembles w') (hthread : w.GetsThread) (turns : Nat)
    (hroom : w'.room = w.room ∨ w.HasRoom turns ∧ w'.HasRoom turns) :
    writes (run w' turns).events = writes (run w turns).events ∧
      (run w' turns).code = (run w turns).code := by
  obtain ⟨f, ho, ho'⟩ | ⟨o, o', ho, ho', hothers⟩ :=
    eq_or_ok_of_map_eq (parse_alike hw hw' hlike)
  · rw [run, run, start, start, ho, ho']
    exact ⟨rfl, rfl⟩
  · have hhelp : o'.help = o.help := (congrArg Options.help hothers : o'.others.help = _)
    have hversion : o'.version = o.version :=
      (congrArg Options.version hothers : o'.others.version = _)
    rw [Surroundings.HasRoom, Surroundings.HasRoom, run, run, start, start, ho, ho'] at hroom
    rw [run, run, start, start, ho, ho']
    dsimp only at hroom ⊢
    rw [hhelp, hversion] at hroom ⊢
    cases hasked : o.help with
    | true => exact ⟨rfl, rfl⟩
    | false =>
        cases hnamed : o.version with
        | true => exact ⟨rfl, rfl⟩
        | false =>
            rw [hasked, hnamed] at hroom
            exact runOptions_alike hw hw' hlike hthread ho ho' hothers turns hroom

/-- **How a script reaches the program does not matter.** Whether it is named by a plain argument or
by an option, or comes on standard input, and whether or not the session runs on a worker, the
program prints the same, its commands report the same, and it ends with the same exit code. This
holds where both leave room for equally many scripts on top of the first source, and where neither
refuses a script for want of room. -/
theorem run_delivered (w w' : Surroundings) (d d' : Delivery) (script : Bytes)
    (hw : w.Delivers d script) (hw' : w'.Delivers d' script) (hlike : w.Resembles w')
    (hthread : w.GetsThread) (turns : Nat)
    (hroom : w'.room = w.room ∨ w.HasRoom turns ∧ w'.HasRoom turns) :
    (run w' turns).output = (run w turns).output ∧
      written .errors (run w' turns).events = written .errors (run w turns).events ∧
      (run w' turns).code = (run w turns).code := by
  obtain ⟨hwrites, hcode⟩ := run_alike hw hw' hlike hthread turns hroom
  rw [output_writes, output_writes, ← written_writes, ← written_writes .errors (run w turns).events,
    hwrites]
  exact ⟨rfl, rfl, hcode⟩

/-- The command line that names the file `s` and asks for a worker. -/
def namingArguments : List Bytes := [encode "--thread", encode "s"]

/-- The script is in the file `s`, which is named. Another script is in the file `t`. -/
def namedScript (script : Bytes) (spareFiles : Nat) : Surroundings where
  arguments := namingArguments
  environment _ := none
  files := { FileSystem.empty with
    opened := fun path =>
      if path = .ofString "s" then .ok (.file script)
      else if path = .ofString "t" then .ok (.file (encode "echo a\n"))
      else .error (.os .notFound) }
  spareFiles := some spareFiles
  input := []

/-- The same script is on standard input. -/
def pipedScript (script : Bytes) (spareFiles : Nat) : Surroundings :=
  { namedScript script spareFiles with arguments := [], input := script }

theorem delivers_namedScript (script : Bytes) (spareFiles : Nat) :
    (namedScript script spareFiles).Delivers (.argument "s") script where
  spelled := (by decide : (Scan.ofArguments namingArguments).fault = none)
  named := (by decide : (Scan.ofArguments namingArguments).items.filter Item.isDelivery =
    (Delivery.argument "s").items)
  file path hpath := by
    cases hpath
    rfl
  input hpath := by cases hpath

theorem delivers_pipedScript (script : Bytes) (spareFiles : Nat) :
    (pipedScript script spareFiles).Delivers .input script where
  spelled := rfl
  named := rfl
  file path hpath := by cases hpath
  input _ := rfl

theorem resembles_pipedScript (script : Bytes) (spareFiles : Nat) :
    (namedScript script spareFiles).Resembles (pipedScript script spareFiles) where
  files := rfl
  environment := rfl
  threads := rfl
  asks := .inl (by decide : [] = (Scan.ofArguments namingArguments).items.filter Item.isKept)

theorem getsThread_namedScript (script : Bytes) (spareFiles : Nat) :
    (namedScript script spareFiles).GetsThread := by
  intro o c ho hc
  have hparse : Options.parse namingArguments =
      .ok { file := some (.ofString "s"), thread := true } := by decide
  cases hparse.symm.trans ho
  cases hc
  exact (by decide : (Threads.ofMemory none).refusal { name := some "clish-shell" } = none)

/-- A script that asks for another one, and whose second line is no command. -/
def brokenScript : Bytes := encode "source t\nb\necho c\n"

theorem brokenScript_delivered :
    (namedScript brokenScript 1).HasRoom 30 ∧ (pipedScript brokenScript 1).HasRoom 30 ∧
      (run (namedScript brokenScript 1) 30).output = encode "a\n" ∧
      (run (namedScript brokenScript 1) 30).code = some 1 ∧
      (run (pipedScript brokenScript 1) 30).output =
        (run (namedScript brokenScript 1) 30).output ∧
      (run (pipedScript brokenScript 1) 30).code =
        (run (namedScript brokenScript 1) 30).code := by
  have hnamed : (namedScript brokenScript 1).HasRoom 30 := by decide +kernel
  have hpiped : (pipedScript brokenScript 1).HasRoom 30 := by decide +kernel
  obtain ⟨houtput, -, hcode⟩ := run_delivered _ _ _ _ brokenScript
    (delivers_namedScript brokenScript 1) (delivers_pipedScript brokenScript 1)
    (resembles_pipedScript brokenScript 1) (getsThread_namedScript brokenScript 1) 30
    (.inr ⟨hnamed, hpiped⟩)
  exact ⟨hnamed, hpiped, by decide +kernel, by decide +kernel, houtput, hcode⟩

/-- A script that asks for itself. -/
def nestedScript : Bytes := encode "echo x\nsource s\n"

/-- A script that asks for itself is read once more from standard input than from its file, which
takes the place of another open file. -/
theorem nestedScript_differs :
    (namedScript nestedScript 0).Delivers (.argument "s") nestedScript ∧
      (pipedScript nestedScript 0).Delivers .input nestedScript ∧
      (namedScript nestedScript 0).Resembles (pipedScript nestedScript 0) ∧
      (namedScript nestedScript 0).GetsThread ∧
      (run (namedScript nestedScript 0) 30).output = encode "x\n" ∧
      (run (pipedScript nestedScript 0) 30).output = encode "x\nx\n" ∧
      (run (namedScript nestedScript 0) 30).code = some 1 ∧
      (run (pipedScript nestedScript 0) 30).code = some 1 :=
  ⟨delivers_namedScript _ _, delivers_pipedScript _ _, resembles_pipedScript _ _,
    getsThread_namedScript _ _, by decide +kernel, by decide +kernel, by decide +kernel,
    by decide +kernel⟩

end Program

end CommandShell
