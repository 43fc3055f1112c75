import CommandShell.Files.System

/-!
# A tree of files, directories and symbolic links

A tree is a finite table from **locations** to nodes. A location is the list of the names from the
root down; the root and the directory in which the program runs are directories whether the table
lists them or not. `Tree.walk` resolves a path component by component, as Linux does it: `.` and
empty components stay, `..` goes up, a link is replaced by its target, at most forty of them.
-/

namespace CommandShell.Files

open CommandShell.Text

/-- **Location** — the names from the root down to a node, without links, `.` and `..`. -/
abbrev Location := List Bytes

/-- **Node** — what stands at a location. -/
inductive Node
  | file (content : Bytes)
  | directory
  | link (target : Path)
  deriving DecidableEq, Repr

/-- **Tree** — the nodes by location, and the directory in which relative paths start. -/
structure Tree where
  nodes : List (Location × Node) := []
  start : Location
  deriving DecidableEq, Repr

namespace Tree

/-- What stands at a location. -/
def node? (t : Tree) (l : Location) : Option Node :=
  if l.isPrefixOf t.start then some .directory
  else (t.nodes.find? fun entry => entry.1 == l).map (·.2)

/-- Whether the location is a directory. -/
def isDirectory (t : Tree) (l : Location) : Bool := t.node? l == some .directory

/-- How many links are followed for one path. -/
def linkLimit : Nat := 40

/-- The longest name. -/
def nameLimit : Nat := 255

/-- The longest path. -/
def pathLimit : Nat := 4095

/-- Where a path starts that is met in the directory `base`. -/
def origin (base : Location) (p : Path) : Location := if p.isAbsolute then [] else base

/-- **walk** — the location to which the components lead, with the links that may still be
followed. -/
def walk (t : Tree) (links : Nat) (base : Location) (todo : List Bytes) :
    Except OsFault Location :=
  match todo with
  | [] => .ok base
  | c :: rest =>
    if !t.isDirectory base then .error .notADirectory
    else if c = [] ∨ c = Path.here then t.walk links base rest
    else if c = Path.above then t.walk links base.dropLast rest
    else if nameLimit < c.length then .error .nameTooLong
    else match t.node? (base ++ [c]) with
      | none => .error .notFound
      | some (.link target) =>
        match links with
        | 0 => .error .tooManyLinks
        | links + 1 => t.walk links (origin base target) (Path.parts target.bytes ++ rest)
      | some _ => t.walk links (base ++ [c]) rest
  termination_by (links, todo.length)

/-- The location to which a path leads. The empty path leads nowhere. -/
def resolve (t : Tree) (p : Path) : Except IoFault Location :=
  if 0 ∈ p.bytes then .error .zeroInName
  else if p.bytes = [] then .error (.os .notFound)
  else if pathLimit < p.bytes.length then .error (.os .nameTooLong)
  else (t.walk linkLimit (origin t.start p) (Path.parts p.bytes)).mapError .os

/-- What opening a path gives. -/
def opened (t : Tree) (p : Path) : Except IoFault Opened :=
  match t.resolve p with
  | .error e => .error e
  | .ok l =>
    match t.node? l with
    | some (.file content) => .ok (.file content)
    | some .directory => .ok .directory
    | _ => .error (.os .notFound)

/-- The names in the directory at a location. -/
def namesIn (t : Tree) (l : Location) : List Bytes :=
  t.nodes.filterMap fun entry =>
    if entry.1.dropLast = l then entry.1.getLast? else none

/-- The names in the directory to which a path leads. -/
def entries (t : Tree) (p : Path) : Except IoFault (List Bytes) :=
  match t.resolve p with
  | .error e => .error e
  | .ok l => if t.isDirectory l then .ok (t.namesIn l) else .error (.os .notADirectory)

/-- Whether a path leads to a file. -/
def isFile (t : Tree) (p : Path) : Bool :=
  match t.opened p with
  | .ok (.file _) => true
  | _ => false

/-- **system** — the tree as it is seen by programs. -/
def system (t : Tree) : FileSystem := ⟨t.opened, t.entries, t.isFile⟩

/-! ## Building a tree -/

/-- The tree with a node set at a location. -/
def put (t : Tree) (l : Location) (n : Node) : Tree :=
  { t with nodes := t.nodes.filter (fun entry => entry.1 != l) ++ [(l, n)] }

/-- The directory to which the components lead, with those made that are missing. -/
def enter (t : Tree) (base : Location) : List Bytes → Tree × Location
  | [] => (t, base)
  | c :: rest =>
    match t.walk linkLimit base [c] with
    | .ok l => t.enter l rest
    | .error _ => (t.put (base ++ [c]) .directory).enter (base ++ [c]) rest

/-- Where a file is put that is written to the path `names` in the directory `base`. Links are
followed, also one that leads to nothing yet. -/
def placeOfFile (t : Tree) (links : Nat) (base : Location) (names : List Bytes) :
    Option Location :=
  match t.walk linkLimit base names.dropLast, names.getLast? with
  | .ok parent, some name =>
    match t.node? (parent ++ [name]), links with
    | some (.link target), links + 1 =>
      t.placeOfFile links (origin parent target) (Path.parts target.bytes)
    | some (.link _), 0 | some .directory, _ => none
    | _, _ => some (parent ++ [name])
  | _, _ => none

/-- Where a node is put that gets the path `names` in the directory `base`. -/
def placeOf (t : Tree) (base : Location) (names : List Bytes) : Node → Option Location
  | .file _ => t.placeOfFile linkLimit base names
  | _ => if (t.node? (base ++ names)).isSome then none else some (base ++ names)

/-- **add** — the tree with a node at a path, the directories above it being made if need be.
Directories and links that are there already stay. -/
def add (t : Tree) (p : Path) (n : Node) : Tree :=
  let names := (Path.parts p.bytes).filter (!·.isEmpty)
  let (t, parent) := t.enter (origin t.start p) names.dropLast
  match names.getLast? with
  | none => t
  | some name => ((t.placeOf parent [name] n).map (t.put · n)).getD t

/-- The tree with nothing in it but the directory in which the program runs. -/
def scratch : Tree := ⟨[], [encode "scratch"]⟩

end Tree

end CommandShell.Files
