import CommandShell.Files.System

/-!
# Errors that reach the caller of the library

Only failures of resources are reported to a caller; what goes wrong inside one command line stays
with the session that runs it.
-/

namespace CommandShell

open CommandShell.Files

/-- **ShellError** — a failure reported to the caller. -/
inductive ShellError
  | io (cause : IoFault)
  /-- An input file could not be opened. -/
  | openInput (path : Path) (cause : IoFault)
  /-- The thread for a worker could not be made. -/
  | threadSpawn (cause : IoFault)
  /-- The thread of a worker ended without a result. -/
  | workerPanicked
  /-- A file was refused by the loader of definitions. -/
  | definition (path : Path) (reason : String)
  /-- A definition makes no sense in itself. -/
  | invalidDefinition (reason : String)
  deriving DecidableEq, Repr

namespace ShellError

/-- The text of an error. -/
def message : ShellError → String
  | .io cause => s!"I/O error: {cause.message}"
  | .openInput path cause => s!"cannot open input '{path.shown}': {cause.message}"
  | .threadSpawn cause => s!"failed to spawn worker thread: {cause.message}"
  | .workerPanicked => "worker thread panicked before completing"
  | .definition path reason => s!"failed to load definitions from '{path.shown}': {reason}"
  | .invalidDefinition reason => s!"invalid definition: {reason}"

/-- The failure underneath an error, if there is one. -/
def cause? : ShellError → Option IoFault
  | .io cause | .openInput _ cause | .threadSpawn cause => some cause
  | .workerPanicked | .definition _ _ | .invalidDefinition _ => none

end ShellError

end CommandShell
