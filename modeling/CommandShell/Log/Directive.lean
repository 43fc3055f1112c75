import CommandShell.Log.Record
import CommandShell.Text.Pattern
import CommandShell.Text.Utf8

/-!
# Directives of a log filter

A directive sets a level for some records: `target[span{field=value}]=level`, of which every part
may be missing. It speaks about the places whose names begin with its target, and, if it names a
field, only about records that have it. A directive with the name of a span or with the value of a
field is **scoped**: it speaks about what happens inside spans with that name or value.

A directive is read character by character; `Part` is the part that is being read. The blanks around
a directive count for nothing when its parts are found and do count when they are cut out: a part
begins and ends as many bytes too early as the blanks in front of the directive have.
-/

namespace CommandShell.Log

open CommandShell.Text

/-! ## Levels -/

namespace Directive

/-- The text in lower case, letters outside ASCII left as they are. -/
def lowered (cs : List Char) : List Char := cs.map Char.toLower

/-- The digits of a number without the plus sign in front. -/
def dropPlus (cs : List Char) : List Char := if cs.head? = some '+' then cs.drop 1 else cs

/-- A number from 0 to 5 with any zeros and at most one plus sign in front. -/
def rankOfNumber? (cs : List Char) : Option Nat :=
  let digits := dropPlus cs
  if digits.isEmpty || !digits.all Char.isDigit then none
  else
    let significant := digits.dropWhile (· = '0')
    match significant with
    | [] => some 0
    | [c] => if c.toNat - 0x30 ≤ 5 then some (c.toNat - 0x30) else none
    | _ => none

/-- The names of the ranks. -/
def rankNames : List (String × Nat) :=
  [("off", 0), ("error", 1), ("warn", 2), ("info", 3), ("debug", 4), ("trace", 5)]

/-- The rank that a level text names, by number or by name in any case. -/
def rank? (cs : List Char) : Option Nat :=
  match rankOfNumber? cs with
  | some n => some n
  | none => (rankNames.find? fun entry => entry.1.toList = lowered cs).map (·.2)

/-- The rank of the most detailed level. -/
def mostDetailed : Nat := 5

end Directive

/-! ## Fields -/

/-- **FieldTest** — a field that a record must have, and perhaps the value that is asked for. -/
structure FieldTest where
  name : String
  value : Option String
  deriving DecidableEq, Repr

namespace FieldTest

/-- Whether a text is a decimal number, infinity, or the name of what is no number. -/
def isDecimal (cs : List Char) : Bool :=
  let (fraction, rest) := match cs.dropWhile Char.isDigit with
    | '.' :: rest => (rest.takeWhile Char.isDigit, rest.dropWhile Char.isDigit)
    | rest => ([], rest)
  if String.ofList (Directive.lowered cs) ∈ ["inf", "infinity", "nan"] then true
  else if (cs.takeWhile Char.isDigit).isEmpty && fraction.isEmpty then false
  else match rest with
    | [] => true
    | c :: exponent =>
      let digits := match exponent with
        | '+' :: digits | '-' :: digits => digits
        | digits => digits
      (c = 'e' || c = 'E') && !digits.isEmpty && digits.all Char.isDigit

/-- Whether a value can be asked for: it is a number with a plus sign, or a pattern, as all other
numbers and the truth values are. -/
def isValue (cs : List Char) : Bool :=
  (cs.head? = some '+' && isDecimal (cs.drop 1)) || isPattern cs

/-- **parse** — reads a name, or a name and a value with `=` between them. What stands behind a
second `=` counts for nothing. -/
def parse (cs : List Char) : Option FieldTest :=
  match cs, splitOn (· = '=') cs with
  | _ :: _, [name] => some ⟨String.ofList name, none⟩
  | _ :: _, name :: value :: _ =>
    if isValue value then some ⟨String.ofList name, some (String.ofList value)⟩ else none
  | _, _ => none

end FieldTest

/-! ## Directives -/

/-- **Directive** — the greatest rank that is shown of the records it speaks about. -/
structure Directive where
  /-- What the names of the places begin with. The empty target stands for all places. -/
  target : String := ""
  /-- The name of the spans, if one is given. -/
  span : Option String := none
  field : Option FieldTest := none
  rank : Nat := Directive.mostDetailed
  deriving DecidableEq, Repr

namespace Directive

/-- **Part** — the part of a directive that is being read, with the number of bytes before it. -/
inductive Part
  | beginning
  /-- A target, or a level that stands alone. -/
  | name (first : Nat)
  | span (first : Nat)
  | field (first : Nat)
  /-- Behind a field, where the bracket has to be closed. -/
  | behindField
  /-- Behind the closed bracket. -/
  | behindBracket
  | level (first : Nat)
  deriving DecidableEq, Repr

/-- Whether a target or a level may begin with a character. -/
def mayBegin (c : Char) : Bool := c = '-' || c = ':' || c = '_' || isAlphanumeric c

/-- **Draft** — a directive that is being read. -/
structure Draft where
  /-- How many bytes of it are read. -/
  position : Nat := 0
  part : Part := .beginning
  /-- What is known of it. -/
  directive : Directive := {}
  deriving DecidableEq, Repr

/-- The bytes between two positions as text. Where blanks stand in front of letters outside ASCII,
the bounds of a part can fall inside a character. A text cannot be sliced there, and to try is a
fault of the library that reads directives; here such a directive cannot be read. -/
def cut (bytes : Bytes) (first last : Nat) : Option String :=
  decode? ((bytes.take last).drop first)

/-- The part and the directive after one more character, with the parts cut out of `bytes`. -/
def advance (bytes : Bytes) (draft : Draft) (c : Char) : Option (Part × Directive) :=
  let d := draft.directive
  let part (first : Nat) : Option String := cut bytes first draft.position
  let next := draft.position + c.utf8Size
  match draft.part with
  | .beginning =>
    if c = '[' then some (.span next, d)
    else if mayBegin c then some (.name draft.position, d)
    else none
  | .name first =>
    if c = '=' then (part first).map fun target => (.level next, { d with target })
    else if c = '[' then (part first).map fun target => (.span next, { d with target })
    else some (draft.part, d)
  | .span first =>
    if c = ']' then (part first).map fun span => (.behindBracket, { d with span := some span })
    else if c = '{' then
      (part first).map fun span =>
        (.field next, { d with span := if span.isEmpty then none else some span })
    else some (draft.part, d)
  | .field first =>
    if c = '}' then
      ((part first).bind fun text => FieldTest.parse text.toList).map fun field =>
        (.behindField, { d with field })
    else some (draft.part, d)
  | .behindField => if c = ']' then some (.behindBracket, d) else none
  | .behindBracket => if c = '=' then some (.level next, d) else none
  | .level _ => some (draft.part, d)

/-- The draft after one more character. -/
def Draft.step (bytes : Bytes) (draft : Draft) (c : Char) : Option Draft :=
  (advance bytes draft c).map fun (part, directive) =>
    { position := draft.position + c.utf8Size, part, directive }

/-- The directive at the end of the text. Without a level everything is shown. -/
def Draft.finish (bytes : Bytes) (draft : Draft) : Option Directive :=
  let d := draft.directive
  match draft.part with
  | .name first =>
    (cut bytes first bytes.length).map fun name =>
      match rank? name.toList with
      | some rank => { d with rank }
      | none => { d with target := name }
  | .level first =>
    (cut bytes first bytes.length).bind fun level =>
      if level.isEmpty then some d else (rank? level.toList).map fun rank => { d with rank }
  | .behindBracket => some d
  | _ => none

/-- **parse** — reads a directive. -/
def parse (text : List Char) : Option Directive :=
  let bytes := encode (String.ofList text)
  ((trimChars text).foldlM (Draft.step bytes) {}).bind (Draft.finish bytes)

/-- Whether the directive speaks about what happens inside spans only. -/
def isScoped (d : Directive) : Bool := d.span.isSome || d.field.any (·.value.isSome)

/-- Whether a directive speaks about a record that is made outside of all spans. -/
def covers (d : Directive) (r : Record) : Bool :=
  !d.isScoped && d.target.toList.isPrefixOf r.place.toList
    && d.field.all fun field => r.fieldNames.contains field.name

/-- How the directives compare that cover one record: the longer target counts for more, then a
field counts for more than none, and then the greater name of a field. -/
def precedence (a b : Directive) : Ordering :=
  (compare a.target.length b.target.length).then
    (compare (a.field.map (·.name)) (b.field.map (·.name)))

end Directive

end CommandShell.Log
