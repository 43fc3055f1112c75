import CommandShell.Text.Split
import CommandShell.Text.Utf8

/-!
# Paths

A path is a byte sequence in which `/` separates components. It need not be text; it is shown with
U+FFFD for what is not. `Path.join` puts a separator between a directory and a name unless one
stands there already, and `extension?` is what follows the last dot of a name that does not begin
with that dot.
-/

namespace CommandShell.Files

open CommandShell.Text

/-- **Path** — the bytes of a path as they were given. -/
structure Path where
  bytes : Bytes
  deriving DecidableEq, Repr

namespace Path

/-- The byte that separates components. -/
def separator : UInt8 := 0x2F

/-- The path with the bytes of a text. -/
def ofString (s : String) : Path := ⟨encode s⟩

/-- The path as text. -/
def shown (p : Path) : String := decode p.bytes

/-- Whether the path starts at the root. -/
def isAbsolute (p : Path) : Bool := p.bytes.head? == some separator

/-- **join** — the path of `rest` below `p`. An absolute `rest` would stand for itself, but none is
ever joined: the name of an entry has no separator, and what follows a tilde has lost those in
front. -/
def join (p : Path) (rest : Bytes) : Path :=
  if p.bytes.isEmpty || p.bytes.getLast? == some separator then ⟨p.bytes ++ rest⟩
  else ⟨p.bytes ++ separator :: rest⟩

/-- The parts between separators, empty ones included. -/
def parts (bs : Bytes) : List Bytes := splitOn (· == separator) bs

/-- The name of the directory itself, `.`. -/
def here : Bytes := [0x2E]

/-- The name of the directory above, `..`. -/
def above : Bytes := [0x2E, 0x2E]

/-- **Component** — a step of a path as it is compared with other paths. -/
inductive Component
  | root
  | here
  | name (bytes : Bytes)
  deriving DecidableEq, Repr

/-- The components of a path. Repeated and trailing separators and every `.` but a leading one
count for nothing. -/
def components (p : Path) : List Component :=
  let names := ((parts p.bytes).filter fun part => part ≠ [] ∧ part ≠ Path.here).map Component.name
  if p.isAbsolute then .root :: names
  else if (parts p.bytes).head? == some Path.here then .here :: names
  else names

/-- Whether the last components of `p` are those of `q`. -/
def endsWith (p q : Path) : Bool := q.components.reverse.isPrefixOf p.components.reverse

/-- **extension?** — what follows the last dot of a file name. A name has no extension if its last
dot is its first character, or if it has none. -/
def extension? (name : Bytes) : Option Bytes :=
  if name = above then none
  else
    let after := (name.reverse.takeWhile (· ≠ 0x2E)).reverse
    let stem := name.take (name.length - after.length - 1)
    if after.length = name.length ∨ stem = [] then none else some after

end Path

end CommandShell.Files
