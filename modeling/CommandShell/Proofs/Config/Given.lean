import CommandShell.Config.Basic
import CommandShell.Proofs.Json.Through

/-!
# What a configuration file gives

A configuration file need not give every setting. `Config.Given` holds those that it does give, and
no defaults; a home directory or a stack size that is `null` is not given. `Config.Given.fill` puts
the defaults in the place of the others.

A configuration is read through what is given (`parse_eq`): every text is a configuration file for
both or for neither, it fails with the same fault, and the configuration is what is given with the
defaults filled in.
-/

namespace CommandShell.Config

open CommandShell.Json
open CommandShell.Files

/-! ## Sections -/

/-- **Definitions.Given** — the settings of a section that are given. -/
structure Definitions.Given where
  path : Option String := none
  extension : Option String := none
  home : Option String := none
  deriving DecidableEq, Repr

namespace Definitions.Given

/-- The section with the defaults for what is not given. -/
def fill (g : Definitions.Given) : Definitions where
  path := g.path.getD ({} : Definitions).path
  extension := g.extension.getD ({} : Definitions).extension
  home := g.home

/-- How the settings that are given are written. -/
def record : Json.Record Definitions.Given where
  called := "struct DefinitionsSection"
  fields :=
    [.optional "path" (.text "a string") fun path g => { g with path := some path },
      .optional "extension" (.text "a string") fun extension g =>
        { g with extension := some extension },
      .optional "home" (.optional (.text "path string")) fun home g => { g with home }]
  blank := {}

theorem through : record.Through fill Definitions.record where
  called := rfl
  fields := .cons (Field.through_optional _ (.refl _) fun _ _ => rfl)
    (.cons (Field.through_optional _ (.refl _) fun _ _ => rfl)
      (.cons (Field.through_optional _ (.refl _) fun _ _ => rfl) .nil))
  blank := rfl

end Definitions.Given

/-- **Shell.Given** — the settings of a section that are given. -/
structure Shell.Given where
  prompt : Option String := none
  useThread : Option Bool := none
  threadName : Option String := none
  stackSize : Option Nat := none
  deriving DecidableEq, Repr

namespace Shell.Given

/-- The section with the defaults for what is not given. -/
def fill (g : Shell.Given) : Shell where
  prompt := g.prompt.getD ({} : Shell).prompt
  useThread := g.useThread.getD ({} : Shell).useThread
  threadName := g.threadName.getD ({} : Shell).threadName
  stackSize := g.stackSize

/-- How the settings that are given are written. -/
def record : Json.Record Shell.Given where
  called := "struct ShellSection"
  fields :=
    [.optional "prompt" (.text "a string") fun prompt g => { g with prompt := some prompt },
      .optional "use_thread" .truth fun useThread g => { g with useThread := some useThread },
      .optional "thread_name" (.text "a string") fun threadName g =>
        { g with threadName := some threadName },
      .optional "stack_size" (.optional .count) fun stackSize g => { g with stackSize }]
  blank := {}

theorem through : record.Through fill Shell.record where
  called := rfl
  fields := .cons (Field.through_optional _ (.refl _) fun _ _ => rfl)
    (.cons (Field.through_optional _ (.refl _) fun _ _ => rfl)
      (.cons (Field.through_optional _ (.refl _) fun _ _ => rfl)
        (.cons (Field.through_optional _ (.refl _) fun _ _ => rfl) .nil)))
  blank := rfl

end Shell.Given

/-- **Logging.Given** — the settings of a section that are given. -/
structure Logging.Given where
  level : Option String := none
  deriving DecidableEq, Repr

namespace Logging.Given

/-- The section with the defaults for what is not given. -/
def fill (g : Logging.Given) : Logging where
  level := g.level.getD ({} : Logging).level

/-- How the settings that are given are written. -/
def record : Json.Record Logging.Given where
  called := "struct LoggingSection"
  fields := [.optional "level" (.text "a string") fun level g => { g with level := some level }]
  blank := {}

theorem through : record.Through fill Logging.record where
  called := rfl
  fields := .cons (Field.through_optional _ (.refl _) fun _ _ => rfl) .nil
  blank := rfl

end Logging.Given

/-! ## Configurations -/

/-- **Config.Given** — the settings that a configuration file gives. -/
structure Given where
  definitions : Definitions.Given := {}
  shell : Shell.Given := {}
  logging : Logging.Given := {}
  deriving DecidableEq, Repr

namespace Given

/-- **fill** — the configuration with the defaults for what is not given. -/
def fill (g : Given) : Config where
  definitions := g.definitions.fill
  shell := g.shell.fill
  logging := g.logging.fill

/-- How the settings that are given are written. -/
def record : Json.Record Given where
  called := "struct Config"
  fields :=
    [.optional "definitions" Definitions.Given.record.reader fun definitions g =>
        { g with definitions },
      .optional "shell" Shell.Given.record.reader fun shell g => { g with shell },
      .optional "logging" Logging.Given.record.reader fun logging g => { g with logging }]
  blank := {}

theorem through : record.Through fill Config.record where
  called := rfl
  fields := .cons (Field.through_optional _ Definitions.Given.through.reader fun _ _ => rfl)
    (.cons (Field.through_optional _ Shell.Given.through.reader fun _ _ => rfl)
      (.cons (Field.through_optional _ Logging.Given.through.reader fun _ _ => rfl) .nil))
  blank := rfl

/-- **parse** — reads what the text of a configuration file gives. -/
def parse (source : String) : Except Failure Given := Json.read record.reader source

end Given

/-- **parse_eq** — a configuration is what is given, with the defaults filled in. -/
theorem parse_eq (source : String) : parse source = (Given.parse source).map Given.fill :=
  Given.through.reader.read source

/-- A level that is given as the empty text, and a stack size that is not. -/
example : Given.parse "\x7b\"logging\":[\"\"],\"shell\":\x7b\"stack_size\":null\x7d\x7d" =
    .ok { logging := { level := some "" } } := by
  decide

end CommandShell.Config
