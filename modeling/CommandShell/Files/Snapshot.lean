import CommandShell.Files.System

/-!
# What is known of the files so far

A snapshot holds the answers that a program has got about the paths it asked for. Seen as a file
system it gives these answers and finds nothing else.
-/

namespace CommandShell.Files

open CommandShell.Text

/-- **Snapshot** — answers by path, the latest first. -/
structure Snapshot where
  contents : List (Path × Except IoFault Opened) := []
  listings : List (Path × Except IoFault (List Bytes)) := []

namespace Snapshot

/-- The snapshot with the answer to opening a path. -/
def addContent (s : Snapshot) (p : Path) (answer : Except IoFault Opened) : Snapshot :=
  { s with contents := (p, answer) :: s.contents }

/-- The snapshot with the answer to listing a directory. -/
def addListing (s : Snapshot) (p : Path) (answer : Except IoFault (List Bytes)) : Snapshot :=
  { s with listings := (p, answer) :: s.listings }

/-- What opening a path gave. -/
def opened (s : Snapshot) (p : Path) : Except IoFault Opened :=
  (s.contents.lookup p).getD (.error (.os .notFound))

/-- What listing a directory gave. -/
def entries (s : Snapshot) (p : Path) : Except IoFault (List Bytes) :=
  (s.listings.lookup p).getD (.error (.os .notFound))

/-- Whether opening a path gave a file. -/
def isFile (s : Snapshot) (p : Path) : Bool :=
  match s.opened p with
  | .ok (.file _) => true
  | _ => false

/-- **system** — the answers as a file system. -/
def system (s : Snapshot) : FileSystem := ⟨s.opened, s.entries, s.isFile⟩

end Snapshot

end CommandShell.Files
