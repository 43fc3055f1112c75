import CommandShell.Command.DefinitionFile
import CommandShell.Session.Event

/-!
# The search path of definition files

A search path is a list of directories with semicolons between them. A leading `~` stands for the
home directory if one is known. The definition files are, directory by directory, the files with the
configured extension in ascending order of their names. `SearchPath.loadAll` hands each of them to a
loader; what cannot be read is recorded and passed over.
-/

namespace CommandShell

open CommandShell.Text
open CommandShell.Files

/-- **SearchPath** — where definition files are looked for. -/
structure SearchPath where
  text : String
  home : Option Path := none
  extension : Bytes
  deriving DecidableEq, Repr

/-- **Loader** — takes definition files one after the other, with a state of type `σ`. -/
abbrev Loader (σ : Type) := σ → Path → Except ShellError Unit × σ

/-- **LoadReport** — what became of the files and directories, each in the order of the pass. -/
structure LoadReport where
  loaded : List Path := []
  failed : List Path := []
  skipped : List Path := []
  deriving DecidableEq, Repr

namespace SearchPath

/-- The search path that is used where none is configured. -/
def standardText : String := "/etc/clish;~/.clish"

/-- The extension that is used where none is configured. -/
def standardExtension : String := "json"

/-- **ofConfig** — the search path for a text, a home directory and an extension, which may have
dots in front. -/
def ofConfig (text : String) (home : Option Path) (extension : String) : SearchPath :=
  { text, home, extension := encode (String.ofList (extension.toList.dropWhile (· = '.'))) }

/-- **expand** — the directory that a segment stands for. Without a home directory, and for a `~`
that is followed by something else than `/`, it is the segment itself. -/
def expand (s : SearchPath) (segment : String) : Path :=
  match s.home, segment.toList with
  | some home, ['~'] => home
  | some home, '~' :: '/' :: rest => home.join (encode (String.ofList (rest.dropWhile (· = '/'))))
  | _, _ => .ofString segment

/-- **directories** — the directories of the search path in order. -/
def directories (s : SearchPath) : List Path := (fields ';' s.text).map s.expand

/-- Whether a name in a directory is that of a definition file. -/
def wants (s : SearchPath) (fs : FileSystem) (directory : Path) (name : Bytes) : Bool :=
  fs.isFile (directory.join name) && Path.extension? name == some s.extension

/-- Whether one name comes before another, byte by byte. -/
def precedes (a b : Bytes) : Bool := !decide (b < a)

/-- The names of the definition files in a directory, ascending. -/
def namesIn (s : SearchPath) (fs : FileSystem) (directory : Path) : Except IoFault (List Bytes) :=
  (fs.entries directory).map fun names =>
    (names.filter (s.wants fs directory)).mergeSort precedes

/-- The definition files in a directory. -/
def filesIn (s : SearchPath) (fs : FileSystem) (directory : Path) : Except IoFault (List Path) :=
  (s.namesIn fs directory).map fun names => names.map directory.join

/-- **files** — the definition files along the search path. -/
def files (s : SearchPath) (fs : FileSystem) : List Path :=
  s.directories.flatMap fun directory =>
    match s.filesIn fs directory with
    | .ok files => files
    | .error _ => []

/-! ## Loading -/

/-- **Pass** — how far a pass over the search path has come. -/
structure Pass (σ : Type) where
  state : σ
  report : LoadReport := {}
  events : List Event := []

/-- Hands a file to the loader. -/
def loadFile {σ : Type} (load : Loader σ) (p : Pass σ) (file : Path) : Pass σ :=
  match load p.state file with
  | (.ok _, state) =>
    { state, report := { p.report with loaded := p.report.loaded ++ [file] },
      events := p.events ++ [.logged (.definitionsLoaded file.shown)] }
  | (.error e, state) =>
    { state, report := { p.report with failed := p.report.failed ++ [file] },
      events := p.events ++ [.logged (.definitionsRejected e.message)] }

/-- Hands the files of a directory to the loader. -/
def loadDirectory {σ : Type} (s : SearchPath) (fs : FileSystem) (load : Loader σ) (p : Pass σ)
    (directory : Path) : Pass σ :=
  match s.filesIn fs directory with
  | .error e =>
    { p with
      report := { p.report with skipped := p.report.skipped ++ [directory] }
      events := p.events ++ [.logged (.directorySkipped directory.shown e.message)] }
  | .ok files => files.foldl (loadFile load) p

/-- **loadAll** — hands every definition file to the loader. -/
def loadAll {σ : Type} (s : SearchPath) (fs : FileSystem) (load : Loader σ) (state : σ) : Pass σ :=
  s.directories.foldl (s.loadDirectory fs load) { state }

/-- The loader that reads definition files into a table. -/
def tableLoader (fs : FileSystem) : Loader Table := fun t path => t.registerFile fs path

end SearchPath

end CommandShell
