import CommandShell.Json.Skip

/-!
# Reading values of a known kind

A **reader** reads one value of a kind. Text, truth values, counts and lists have theirs; a record
is described by the list of its fields and is read from an object or from an array. The fields of an
object may stand in any order, those with other names are passed over, and a field given twice is a
fault. An array gives the fields in their declared order and may leave out the last ones.

A fault of a record as a whole is placed after its closing bracket, as far as that can be found.
-/

namespace CommandShell.Json

/-- **Reader** — reads a value. The first argument is at least the number of characters that are
left. -/
abbrev Reader (α : Type) := Nat → Cursor → Except Failure (α × Cursor)

namespace Cursor

/-- The fault of a value of another kind than expected, after the value; a sequence or a map is not
entered. -/
def unexpected {α : Type} (size : Nat) (expected : String) (c : Cursor) :
    Except Failure (α × Cursor) := do
  let wrong (seen : Seen) (c : Cursor) : Except Failure (α × Cursor) :=
    c.fault (.invalidType seen expected)
  match c.rest with
  | 'n' :: _ => wrong .null (← c.next.word ['u', 'l', 'l'])
  | 't' :: _ => wrong (.boolean true) (← c.next.word ['r', 'u', 'e'])
  | 'f' :: _ => wrong (.boolean false) (← c.next.word ['a', 'l', 's', 'e'])
  | '-' :: _ =>
    let (n, c) ← c.next.number true
    wrong n.seen c
  | '"' :: _ =>
    let (s, c) ← c.next.string size
    wrong (.string s) c
  | '[' :: _ => wrong .sequence c
  | '\x7b' :: _ => wrong .map c
  | x :: _ =>
    if x.isDigit then
      let (n, c) ← c.number false
      wrong n.seen c
    else c.faultAhead .valueExpected
  | [] => c.fault .endInValue

/-- **element** — whether another element of a list follows, and the position at it or at the
closing bracket. -/
def element (first : Bool) (c : Cursor) : Except Failure (Bool × Cursor) :=
  let c := c.skipSpace
  let atElement (c : Cursor) : Except Failure (Bool × Cursor) :=
    match c.rest with
    | [] => c.fault .endInValue
    | ']' :: _ => c.faultAhead .trailingComma
    | _ => .ok (true, c)
  match c.rest with
  | [] => c.fault .endInList
  | ']' :: _ => .ok (false, c)
  | ',' :: _ => if first then .ok (true, c) else atElement c.next.skipSpace
  | _ => if first then .ok (true, c) else c.faultAhead .listCommaOrEndExpected

/-- **member** — whether another member of an object follows, and the position at its key or at the
closing bracket. -/
def member (first : Bool) (c : Cursor) : Except Failure (Bool × Cursor) :=
  let c := c.skipSpace
  let atKey (c : Cursor) : Except Failure (Bool × Cursor) :=
    match c.rest with
    | [] => c.fault .endInValue
    | '"' :: _ => .ok (true, c)
    | '\x7d' :: _ => c.faultAhead .trailingComma
    | _ => c.faultAhead .keyNotString
  match c.rest with
  | [] => c.fault .endInObject
  | '\x7d' :: _ => .ok (false, c)
  | ',' :: _ => if first then c.faultAhead .keyNotString else atKey c.next.skipSpace
  | _ => if first then atKey c else c.faultAhead .objectCommaOrEndExpected

/-- The colon after a key. -/
def colon (c : Cursor) : Except Failure Cursor :=
  let c := c.skipSpace
  match c.rest with
  | [] => c.fault .endInObject
  | ':' :: _ => .ok c.next
  | _ => c.faultAhead .colonExpected

/-- The end of a list of which no more elements are wanted. -/
def endList (c : Cursor) : Except Failure Cursor :=
  let c := c.skipSpace
  match c.rest with
  | [] => c.fault .endInList
  | ']' :: _ => .ok c.next
  | ',' :: _ =>
    let c := c.next.skipSpace
    if c.peek? = some ']' then c.faultAhead .trailingComma else c.faultAhead .trailingCharacters
  | _ => c.faultAhead .trailingCharacters

/-- The position after the end of a list, or after the part of it that could be consumed. -/
def pastList (c : Cursor) : Cursor :=
  let c := c.skipSpace
  match c.rest with
  | ']' :: _ => c.next
  | ',' :: _ => c.next.skipSpace
  | _ => c

/-- The position after the end of an object, or after the part of it that could be consumed. -/
def pastObject (c : Cursor) : Cursor :=
  let c := c.skipSpace
  if c.peek? = some '\x7d' then c.next else c

end Cursor

namespace Reader

/-- **text** — a string, called by the given name in faults. -/
def text (expected : String) : Reader String := fun size c =>
  let c := c.skipSpace
  match c.rest with
  | [] => c.fault .endInValue
  | '"' :: _ => c.next.string size
  | _ => c.unexpected size expected

/-- **truth** — `true` or `false`. -/
def truth : Reader Bool := fun size c =>
  let c := c.skipSpace
  match c.rest with
  | [] => c.fault .endInValue
  | 't' :: _ => (c.next.word ['r', 'u', 'e']).map ((true, ·))
  | 'f' :: _ => (c.next.word ['a', 'l', 's', 'e']).map ((false, ·))
  | _ => c.unexpected size "a boolean"

/-- A number as a count. -/
def countOf (n : Number) (c : Cursor) : Except Failure (Nat × Cursor) :=
  match n with
  | .natural n => .ok (n, c)
  | .negative _ => c.fault (.invalidValue n.seen "usize")
  | .floating _ _ => c.fault (.invalidType n.seen "usize")

/-- **count** — a natural number of at most 64 bits. -/
def count : Reader Nat := fun size c => do
  let c := c.skipSpace
  match c.rest with
  | [] => c.fault .endInValue
  | '-' :: _ =>
    let (n, c) ← c.next.number true
    countOf n c
  | x :: _ =>
    if x.isDigit then
      let (n, c) ← c.number false
      countOf n c
    else c.unexpected size "usize"

/-- **optional** — `null`, or a value. -/
def optional {α : Type} (r : Reader α) : Reader (Option α) := fun size c => do
  let c := c.skipSpace
  match c.rest with
  | 'n' :: _ => (c.next.word ['u', 'l', 'l']).map ((none, ·))
  | _ =>
    let (x, c) ← r size c
    .ok (some x, c)

/-- The elements of a list, with those so far in reverse order. -/
def elementsFrom {α : Type} (r : Reader α) (size : Nat) :
    Nat → List α → Cursor → Except Failure (List α × Cursor)
  | 0, _, c => c.fault .endInList
  | fuel + 1, got, c => do
    let (more, c) ← c.element got.isEmpty
    if more then
      let (x, c) ← r size c
      elementsFrom r size fuel (x :: got) c
    else .ok (got.reverse, c)

/-- **list** — an array of values. -/
def list {α : Type} (r : Reader α) : Reader (List α) := fun size c => do
  let c := c.skipSpace
  match c.rest with
  | [] => c.fault .endInValue
  | '[' :: _ =>
    let (xs, c) ← elementsFrom r size size [] c.next
    .ok (xs, ← c.endList)
  | _ => c.unexpected size "a sequence"

end Reader

/-! ## Records -/

/-- **Field** — a field of a record: its name, whether it must be given, and a reader that sets
it. -/
structure Field (σ : Type) where
  name : String
  needed : Bool := false
  read : Reader (σ → σ)

namespace Field

/-- A field that may be left out; its values are read by `r` and put into the record by `put`. -/
def optional {σ α : Type} (name : String) (r : Reader α) (put : α → σ → σ) : Field σ where
  name
  read size c := (r size c).map fun (x, c) => (put x, c)

/-- A field that must be given. -/
def required {σ α : Type} (name : String) (r : Reader α) (put : α → σ → σ) : Field σ where
  name
  needed := true
  read size c := (r size c).map fun (x, c) => (put x, c)

end Field

/-- **Record** — how a record is called in faults, its fields in their declared order, and its value
before any field is set. -/
structure Record (σ : Type) where
  called : String
  fields : List (Field σ)
  blank : σ

namespace Record

variable {σ : Type}

/-- A fault inside a record that is placed already, or one of the record as a whole, with the
position where it arose. -/
inductive Trouble
  | placed (f : Failure)
  | whole (f : Fault) (c : Cursor)

/-- The first field that must be given and was not. -/
def missing? (r : Record σ) (seen : List String) : Option String :=
  (r.fields.find? fun f => f.needed && !seen.contains f.name).map (·.name)

/-- Takes over a failure of reading a part. -/
def placed {α : Type} (x : Except Failure α) : Except Trouble α := x.mapError .placed

/-- The members of an object, with the names and the record so far. -/
def membersFrom (r : Record σ) (size : Nat) :
    Nat → Bool → List String → σ → Cursor → Except Trouble (σ × Cursor)
  | 0, _, _, _, c => .error (.whole .endInObject c)
  | fuel + 1, first, seen, value, c => do
    let (more, c) ← placed (c.member first)
    if more then
      let (key, c) ← placed (c.next.string size)
      match r.fields.find? fun f => f.name == key with
      | some f =>
        if seen.contains key then .error (.whole (.duplicateField key) c)
        else
          let c ← placed c.colon
          let (set, c) ← placed (f.read size c)
          membersFrom r size fuel false (key :: seen) (set value) c
      | none =>
        let c ← placed c.colon
        membersFrom r size fuel false seen value (← placed (c.skipValue size))
    else
      match r.missing? seen with
      | some name => .error (.whole (.missingField name) c)
      | none => .ok (value, c)

/-- The fields of an array from the one with number `index` on. -/
def elementsFrom (r : Record σ) (size : Nat) :
    List (Field σ) → Nat → Bool → σ → Cursor → Except Trouble (σ × Cursor)
  | [], _, _, value, c => .ok (value, c)
  | f :: rest, index, first, value, c => do
    let (more, c) ← placed (c.element first)
    if more then
      let (set, c) ← placed (f.read size c)
      elementsFrom r size rest (index + 1) false (set value) c
    else if f.needed then
      let expected := r.called ++ " with " ++ toString r.fields.length ++ " elements"
      .error (.whole (.invalidLength index expected) c)
    else elementsFrom r size rest (index + 1) first value c

/-- **reader** — reads a record from an object or an array. -/
def reader (r : Record σ) : Reader σ := fun size c =>
  let c := c.skipSpace
  match c.rest with
  | [] => c.fault .endInValue
  | '[' :: _ =>
    match r.elementsFrom size r.fields 0 true r.blank c.next with
    | .ok (value, c) => c.endList.map ((value, ·))
    | .error (.placed f) => .error f
    | .error (.whole f c) => c.pastList.fault f
  | '\x7b' :: _ =>
    match r.membersFrom size size true [] r.blank c.next with
    | .ok (value, c) => .ok (value, c.next)
    | .error (.placed f) => .error f
    | .error (.whole f c) => c.pastObject.fault f
  | _ => c.unexpected size r.called

end Record

/-- **read** — reads a text that holds one value and nothing else. -/
def read {α : Type} (r : Reader α) (source : String) : Except Failure α := do
  let start := Cursor.start source
  let (value, c) ← r (start.rest.length + 1) start
  let c := c.skipSpace
  if c.rest.isEmpty then .ok value else c.faultAhead .trailingCharacters

end CommandShell.Json
