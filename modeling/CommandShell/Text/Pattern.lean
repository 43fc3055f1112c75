import CommandShell.Text.Alphanumeric
import CommandShell.Text.Blank

/-!
# Search patterns

A **pattern** is a regular expression. This module tells which texts are patterns: `isPattern`
reads a text once from left to right and keeps track of the open groups, of the flags in force, of
what a repetition would repeat, and of how deep the parts nest.

Three things are no part of the patterns here: counted repetitions, since a pattern stands between
braces itself, classes named by a property, and whatever needs a table of all letters or all digits,
as long as the flag `u`, which stands at first, asks for more than ASCII. A pattern must also not
match anything but whole characters.
-/

namespace CommandShell.Text.Pattern

/-! ## Nesting -/

/-- **Row** — parts that stand side by side: how many there are, and how deep the deepest nests. -/
structure Row where
  count : Nat := 0
  deepest : Nat := 0
  deriving DecidableEq, Repr

namespace Row

/-- The row with one more part. -/
def add (r : Row) (depth : Nat) : Row := ⟨r.count + 1, max r.deepest depth⟩

/-- The row with its last part nested deeper. -/
def deepen (r : Row) (depth : Nat) : Row := { r with deepest := max r.deepest depth }

/-- How deep the row nests as a whole. A row of several parts is a level of its own. -/
def depth (r : Row) : Nat := if r.count ≤ 1 then r.deepest else r.deepest + 1

end Row

/-- How deep the parts of a pattern can nest. -/
def depthLimit : Nat := 250

/-! ## Flags and blanks -/

/-- **Flags** — the flags in force. -/
structure Flags where
  /-- Flag `i`: letters match in both cases. -/
  caseless : Bool := false
  /-- Flag `u`: the pattern speaks of all characters and not of ASCII alone. -/
  wide : Bool := true
  /-- Flag `x`: blanks and comments in the pattern count for nothing. -/
  spaced : Bool := false
  deriving DecidableEq, Repr

/-- The flag letters. -/
def flagLetters : List Char := ['i', 'm', 's', 'U', 'u', 'R', 'x']

/-- The flags with one of them set. -/
def Flags.set (f : Flags) (letter : Char) (value : Bool) : Flags :=
  match letter with
  | 'i' => { f with caseless := value }
  | 'u' => { f with wide := value }
  | 'x' => { f with spaced := value }
  | _ => f

/-- Whether the letters of the pattern need the other case of every letter there is. -/
def Flags.needsCases (f : Flags) : Bool := f.wide && f.caseless

/-- The text without the blanks and comments at its beginning. -/
def dropComments : (inComment : Bool) → List Char → List Char
  | _, [] => []
  | true, c :: rest => dropComments (c ≠ '\n') rest
  | false, c :: rest =>
    if isBlank c then dropComments false rest
    else if c = '#' then dropComments true rest
    else c :: rest

/-- The text from the next character that counts. -/
def Flags.skip (f : Flags) (cs : List Char) : List Char :=
  if f.spaced then dropComments false cs else cs

/-- The character by which a hyphen in a class is judged. Blanks in front of it do not count, nor
does the sign that begins a comment; what stands in the comment does. If nothing else follows, it is
the character behind the hyphen. -/
def Flags.peek (f : Flags) (cs : List Char) : Option Char :=
  if f.spaced then
    let rest := match cs.dropWhile isBlank with
      | '#' :: rest => rest.dropWhile isBlank
      | rest => rest
    rest.head?.or cs.head?
  else cs.head?

/-! ## Single items -/

/-- **Item** — what a character or an escape stands for. -/
inductive Item
  /-- A character; `byte` if it is given as a byte. -/
  | char (c : Char) (byte : Bool)
  /-- A class of digits, blanks or word characters, or of all others. -/
  | named (negated : Bool)
  /-- An end of the text. -/
  | edge
  /-- An end of a word, or the absence of one. -/
  | wordEdge
  deriving DecidableEq, Repr

/-- Whether an item can be used under the flags. -/
def Item.isUsable (f : Flags) : Item → Bool
  | .char c byte => if f.wide then !f.caseless else !byte || c.toNat < 0x80
  | .named negated => !f.wide && !negated
  | .edge => true
  | .wordEdge => !f.wide

/-- Whether an item can be a member of a bracketed class. -/
def Item.isMember (f : Flags) : Item → Bool
  | .char c byte => Item.isUsable f (.char c byte) && (f.wide || c.toNat < 0x80)
  | .named negated => Item.isUsable f (.named negated)
  | .edge | .wordEdge => false

/-- The value of a hexadecimal digit. -/
def hexValue? (c : Char) : Option Nat :=
  if c.isDigit then some (c.toNat - 0x30)
  else if 'a' ≤ c ∧ c ≤ 'f' then some (c.toNat - 0x57)
  else if 'A' ≤ c ∧ c ≤ 'F' then some (c.toNat - 0x37)
  else none

/-- The number of `count` hexadecimal digits at the beginning of the text, and the rest. -/
def hexNumber (f : Flags) : (count : Nat) → Nat → List Char → Option (Nat × List Char)
  | 0, value, cs => some (value, cs)
  | count + 1, value, cs =>
    match f.skip cs with
    | [] => none
    | c :: rest => (hexValue? c).bind fun digit => hexNumber f count (16 * value + digit) rest

/-- The character with a number of `count` hexadecimal digits, and the rest. -/
def hexItem (f : Flags) (count : Nat) (cs : List Char) : Option (Item × List Char) :=
  (hexNumber f count 0 cs).bind fun (n, rest) =>
    if n.isValidChar then some (.char (Char.ofNat n) (count = 2), rest) else none

/-- The control characters that are escaped by a letter. -/
def controlEscapes : List (Char × Char) :=
  [('a', '\x07'), ('t', '\t'), ('n', '\n'), ('v', '\x0B'), ('f', '\x0C'), ('r', '\r')]

/-- What an escape stands for whose backslash is read, and the rest. Every ASCII character that is
neither a letter nor a digit nor an angle bracket stands for itself. -/
def escape (f : Flags) : List Char → Option (Item × List Char)
  | [] => none
  | 'x' :: rest => hexItem f 2 rest
  | 'u' :: rest => hexItem f 4 rest
  | 'U' :: rest => hexItem f 8 rest
  | c :: rest =>
    if c ∈ ['d', 's', 'w'] then some (.named false, rest)
    else if c ∈ ['D', 'S', 'W'] then some (.named true, rest)
    else if c ∈ ['A', 'z'] then some (.edge, rest)
    else if c ∈ ['b', 'B', '<', '>'] then some (.wordEdge, rest)
    else if c.toNat < 0x80 ∧ !c.isAlphanum then some (.char c false, rest)
    else (controlEscapes.lookup c).map fun control => (.char control false, rest)

/-- The item at the beginning of the text, with nothing but a backslash being special, and the
rest. -/
def item (f : Flags) : List Char → Option (Item × List Char)
  | [] => none
  | '\\' :: rest => escape f rest
  | c :: rest => some (.char c false, rest)

/-! ## Bracketed classes

A class is a set operation on unions of members, or a single union. The operations are carried out
from left to right. -/

/-- The names of the ASCII classes. -/
def asciiClasses : List String :=
  ["alnum", "alpha", "ascii", "blank", "cntrl", "digit", "graph", "lower", "print", "punct",
   "space", "upper", "word", "xdigit"]

/-- An ASCII class `[:name:]` whose first bracket is read: whether it is negated, and the rest. -/
def asciiClass? (cs : List Char) : Option (Bool × List Char) :=
  match cs with
  | ':' :: rest =>
    let (negated, rest) := match rest with
      | '^' :: rest => (true, rest)
      | rest => (false, rest)
    match rest.dropWhile (· ≠ ':') with
    | ':' :: ']' :: after =>
      if String.ofList (rest.takeWhile (· ≠ ':')) ∈ asciiClasses then some (negated, after)
      else none
    | _ => none
  | _ => none

/-- **Bracket** — an open bracket: the members of the union that is being read, and how deep the
operation on its left nests, if there is one. -/
structure Bracket where
  members : Row := {}
  left : Option Nat := none
  deriving DecidableEq, Repr

namespace Bracket

/-- How deep the set nests that is read so far. -/
def depth (b : Bracket) : Nat :=
  match b.left with
  | none => b.members.depth
  | some left => max left b.members.depth + 1

/-- The bracket with one more member. -/
def add (b : Bracket) (depth : Nat) : Bracket := { b with members := b.members.add depth }

/-- The bracket behind the sign of an operation. -/
def operate (b : Bracket) : Bracket := { left := some b.depth }

end Bracket

/-- The hyphens at the beginning of a class, which stand for themselves, and the rest. -/
def leadingHyphens (f : Flags) : (fuel : Nat) → Bracket → List Char → Bracket × List Char
  | fuel + 1, b, '-' :: rest => leadingHyphens f fuel (b.add 0) (f.skip rest)
  | _, b, cs => (b, cs)

/-- Opens a class whose bracket is read, and gives the rest. At the beginning a hyphen stands for
itself, and so does a closing bracket in first place. A complement is never ASCII alone. -/
def openBracket (f : Flags) (fuel : Nat) (cs : List Char) : Option (Bracket × List Char) :=
  let first (cs : List Char) : Option (Bracket × List Char) :=
    let found := match leadingHyphens f fuel {} cs with
      | (⟨⟨0, _⟩, _⟩, ']' :: rest) => (({} : Bracket).add 0, rest)
      | found => found
    if f.needsCases && found.1.members.count ≠ 0 then none else some found
  match f.skip cs with
  | '^' :: rest => if f.wide then first (f.skip rest) else none
  | rest => first rest

/-- Reads a member of a class, which may be a range, and gives the rest. -/
def classMember (f : Flags) (cs : List Char) : Option (List Char) :=
  (item f cs).bind fun (first, rest) =>
    let single (rest : List Char) : Option (List Char) :=
      if first.isMember f then some rest else none
    match f.skip rest with
    | '-' :: after =>
      if f.peek after = some ']' ∨ f.peek after = some '-' then single ('-' :: after)
      else
        (item f (f.skip after)).bind fun (last, rest) =>
          match first, last with
          | .char a _, .char b _ =>
            if a ≤ b ∧ first.isMember f ∧ last.isMember f then some rest else none
          | _, _ => none
    | rest => single rest

/-- Reads what follows in a class with the brackets that are open, the innermost first: how deep the
class nests, and the rest. -/
def classRest (f : Flags) : (fuel : Nat) → Bracket → List Bracket → List Char →
    Option (Nat × List Char)
  | 0, _, _, _ => none
  | fuel + 1, b, outer, cs =>
    match f.skip cs with
    | [] => none
    | ']' :: rest =>
      match outer with
      | [] => some (b.depth + 1, rest)
      | parent :: outer => classRest f fuel (parent.add (b.depth + 1)) outer rest
    | '[' :: rest =>
      match asciiClass? rest with
      | some (negated, rest) =>
        if f.needsCases || (negated && !f.wide) then none
        else classRest f fuel (b.add 0) outer rest
      | none =>
        (openBracket f fuel rest).bind fun (inner, rest) =>
          classRest f fuel inner (b :: outer) rest
    | '&' :: '&' :: rest | '-' :: '-' :: rest | '~' :: '~' :: rest =>
      classRest f fuel b.operate outer rest
    | cs => (classMember f cs).bind fun rest => classRest f fuel (b.add 0) outer rest

/-- Reads a class whose opening bracket is read: how deep it nests, and the rest. The fuel has to be
no less than the length of the text. -/
def bracketed (f : Flags) (fuel : Nat) (cs : List Char) : Option (Nat × List Char) :=
  (openBracket f fuel cs).bind fun (b, rest) => classRest f (fuel + 1) b [] rest

/-! ## Groups -/

/-- Whether a character may stand in the name of a group. -/
def isNameChar (first : Bool) (c : Char) : Bool :=
  c = '_' || (if first then isAlphabetic c else isAlphanumeric c || c ∈ ['.', '[', ']'])

/-- The name of a group up to the angle bracket that closes it, and the rest. -/
def groupName (cs : List Char) : Option (List Char × List Char) :=
  match cs.takeWhile (· ≠ '>'), cs.dropWhile (· ≠ '>') with
  | c :: name, '>' :: rest =>
    if isNameChar true c && name.all (isNameChar false) then some (c :: name, rest) else none
  | _, _ => none

/-- Reads flag letters up to a colon or a closing parenthesis: the flags after them, whether there
are any, and the text from the delimiter on. No letter comes twice, and the hyphen that turns flags
off comes before a letter and once. -/
def flagItems (f : Flags) : (seen : List Char) → (dangling : Bool) → List Char →
    Option (Flags × Bool × List Char)
  | _, _, [] => none
  | seen, dangling, c :: rest =>
    if c = ':' ∨ c = ')' then if dangling then none else some (f, !seen.isEmpty, c :: rest)
    else if c ∈ seen then none
    else if c = '-' then flagItems f ('-' :: seen) true rest
    else if c ∈ flagLetters then flagItems (f.set c ('-' ∉ seen)) (c :: seen) false rest
    else none

/-! ## Whole patterns -/

/-- **Group** — a group that is being read, or the whole pattern. -/
structure Group where
  flags : Flags := {}
  /-- The finished alternatives. -/
  branches : Row := {}
  /-- The parts of the current alternative. -/
  parts : Row := {}
  deriving DecidableEq, Repr

/-- How deep the inside of a group nests. -/
def Group.depth (g : Group) : Nat := (g.branches.add g.parts.depth).depth

/-- **Scan** — how far the reading of a pattern has come. -/
structure Scan where
  group : Group := {}
  /-- The groups around it, the innermost first. -/
  outer : List Group := []
  /-- How deep the part nests that a repetition would repeat, if there is one. -/
  operand : Option Nat := none
  /-- The names of groups so far. -/
  names : List (List Char) := []

namespace Scan

/-- The flags in force. -/
def flags (s : Scan) : Flags := s.group.flags

/-- Inside a group that starts with the flags `f`. -/
def enter (s : Scan) (f : Flags) : Scan :=
  { s with group := { flags := f }, outer := s.group :: s.outer, operand := none }

/-- Behind a part that can be repeated. -/
def add (s : Scan) (depth : Nat) : Scan :=
  { s with group := { s.group with parts := s.group.parts.add depth }, operand := some depth }

/-- Behind the part that sets flags. -/
def setFlags (s : Scan) (f : Flags) : Scan :=
  { s with group := { s.group with flags := f, parts := s.group.parts.add 0 }, operand := none }

/-- Behind a repetition. -/
def repeated (s : Scan) : Option Scan :=
  s.operand.map fun depth =>
    { s with
      group := { s.group with parts := s.group.parts.deepen (depth + 1) }
      operand := some (depth + 1) }

/-- At the beginning of the next alternative. -/
def alternate (s : Scan) : Scan :=
  let branches := s.group.branches.add s.group.parts.depth
  { s with group := { s.group with branches, parts := {} }, operand := none }

/-- Behind the group. -/
def leave (s : Scan) : Option Scan :=
  match s.outer with
  | [] => none
  | parent :: outer => some ({ s with group := parent, outer }.add (s.group.depth + 1))

/-- Reads the beginning of a group whose parenthesis is read. Groups that look around are no
part of patterns. -/
def openGroup (s : Scan) (cs : List Char) : Option (Scan × List Char) :=
  let named (cs : List Char) : Option (Scan × List Char) :=
    (groupName cs).bind fun (name, rest) =>
      if name ∈ s.names then none
      else some ({ s.enter s.flags with names := name :: s.names }, rest)
  match s.flags.skip cs with
  | '?' :: '<' :: '!' :: _ => none
  | '?' :: 'P' :: '<' :: rest | '?' :: '<' :: rest => named rest
  | '?' :: rest =>
    match flagItems s.flags [] false rest with
    | some (f, _, ':' :: rest) => some (s.enter f, rest)
    | some (f, true, ')' :: rest) => some (s.setFlags f, rest)
    | _ => none
  | rest => some (s.enter s.flags, rest)

/-- Reads the next part of a pattern, which begins with the given character. The fuel has to be no
less than the length of the text. -/
def step (s : Scan) (fuel : Nat) (c : Char) (rest : List Char) : Option (Scan × List Char) :=
  match c with
  | '(' => s.openGroup rest
  | ')' => s.leave.map fun s => (s, rest)
  | '|' => some (s.alternate, rest)
  | '[' => (bracketed s.flags fuel rest).map fun (depth, rest) => (s.add depth, rest)
  | '?' | '*' | '+' =>
    s.repeated.map fun s => (s, if rest.head? = some '?' then rest.drop 1 else rest)
  | '{' => none
  | '^' | '$' => some (s.add 0, rest)
  | '.' => if s.flags.wide then some (s.add 0, rest) else none
  | c =>
    (item s.flags (c :: rest)).bind fun (found, rest) =>
      if found.isUsable s.flags then some (s.add 0, rest) else none

/-- Whether what follows completes the pattern. -/
def completes : (fuel : Nat) → Scan → List Char → Bool
  | 0, _, _ => false
  | fuel + 1, s, cs =>
    match s.flags.skip cs with
    | [] => s.outer.isEmpty && s.group.depth ≤ depthLimit
    | c :: rest =>
      match s.step fuel c rest with
      | none => false
      | some (s, rest) => completes fuel s rest

end Scan

end Pattern

/-- **isPattern** — whether a text is a pattern. -/
def isPattern (cs : List Char) : Bool := Pattern.Scan.completes (cs.length + 1) {} cs

end CommandShell.Text
