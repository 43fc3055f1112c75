import CommandShell.Json.Reader

/-!
# The texts of JSON values

The grammar is told by what a text is made of, and not by how it is read. Between two tokens there
may be white space, which is a `Gap`. `Spells` relates the text between the quotes of a string to
the string; a character may stand for itself or be escaped in one of three ways. `IsValue` holds of
the text of any value, of any depth.

Elements of a list and members of an object are laid out alike: `Separated` has the texts of the
items and the whole text, with commas and gaps between the items.
-/

namespace CommandShell.Json

/-- **Gap** — white space between tokens. -/
structure Gap where
  text : List Char
  blank : ∀ x ∈ text, Cursor.isSpace x = true

/-- No white space. -/
def Gap.none : Gap := ⟨[], by simp⟩

/-! ## Strings -/

/-- **HexUnit** — four hexadecimal digits and the code unit that they stand for. -/
inductive HexUnit : List Char → Nat → Prop
  | mk {w x y z : Char} {a b d e : Nat} (hw : hexValue? w = some a) (hx : hexValue? x = some b)
      (hy : hexValue? y = some d) (hz : hexValue? z = some e) :
      HexUnit [w, x, y, z] (((a * 16 + b) * 16 + d) * 16 + e)

/-- Whether a character may stand for itself in a string. -/
def IsPlain (x : Char) : Prop := 0x20 ≤ x.toNat ∧ x ≠ '"' ∧ x ≠ '\\'

/-- **Spells** — a text between quotes, and the characters that it stands for. -/
inductive Spells : List Char → List Char → Prop
  | nil : Spells [] []
  | plain {x : Char} {t s : List Char} (plain : IsPlain x) (rest : Spells t s) :
      Spells (x :: t) (x :: s)
  | letter {x y : Char} {t s : List Char} (stands : escapedChar? x = some y) (rest : Spells t s) :
      Spells ('\\' :: x :: t) (y :: s)
  | unit {h : List Char} {n : Nat} {t s : List Char} (hex : HexUnit h n)
      (notHigh : isHighSurrogate n = false) (notLow : isLowSurrogate n = false)
      (rest : Spells t s) : Spells ('\\' :: 'u' :: (h ++ t)) (Char.ofNat n :: s)
  | pair {h l : List Char} {n m : Nat} {t s : List Char} (hexHigh : HexUnit h n)
      (high : isHighSurrogate n = true) (hexLow : HexUnit l m) (low : isLowSurrogate m = true)
      (rest : Spells t s) :
      Spells ('\\' :: 'u' :: (h ++ '\\' :: 'u' :: (l ++ t))) (pairedChar n m :: s)

/-- **IsContent** — a text between quotes, whatever it stands for: halves of pairs may stand
alone. -/
inductive IsContent : List Char → Prop
  | nil : IsContent []
  | plain {x : Char} {t : List Char} (plain : IsPlain x) (rest : IsContent t) : IsContent (x :: t)
  | letter {x y : Char} {t : List Char} (stands : escapedChar? x = some y) (rest : IsContent t) :
      IsContent ('\\' :: x :: t)
  | unit {h : List Char} {n : Nat} {t : List Char} (hex : HexUnit h n) (rest : IsContent t) :
      IsContent ('\\' :: 'u' :: (h ++ t))

/-- A content with its quotes. -/
def quoted (t : List Char) : List Char := '"' :: (t ++ ['"'])

/-! ## Numbers -/

/-- Digits, at least one. -/
def IsDigits (t : List Char) : Prop := t ≠ [] ∧ ∀ x ∈ t, x.isDigit = true

/-- The integral digits of a number, without needless zeros. -/
inductive IsIntegral : List Char → Prop
  | zero : IsIntegral ['0']
  | digits {x : Char} {t : List Char} (digits : IsDigits (x :: t)) (nonzero : x ≠ '0') :
      IsIntegral (x :: t)

/-- The fraction of a number, or nothing. -/
inductive IsFraction : List Char → Prop
  | absent : IsFraction []
  | digits {t : List Char} (digits : IsDigits t) : IsFraction ('.' :: t)

/-- The exponent of a number, or nothing. -/
inductive IsExponent : List Char → Prop
  | absent : IsExponent []
  | digits {mark : Char} {sign t : List Char} (mark_mem : mark ∈ ['e', 'E'])
      (sign_mem : sign ∈ [[], ['+'], ['-']]) (digits : IsDigits t) :
      IsExponent (mark :: (sign ++ t))

/-- **IsUnsigned** — the text of a number without a sign. -/
inductive IsUnsigned : List Char → Prop
  | mk {i f e : List Char} (integral : IsIntegral i) (fraction : IsFraction f)
      (exponent : IsExponent e) : IsUnsigned (i ++ (f ++ e))

/-! ## Items and their separation -/

/-- **Following** — texts of items, each with a comma before it, and the whole text. -/
inductive Following : List (List Char) → List Char → Prop
  | none (w : Gap) : Following [] w.text
  | more (w w' : Gap) {v t : List Char} {vs : List (List Char)} (rest : Following vs t) :
      Following (v :: vs) (w.text ++ ',' :: (w'.text ++ (v ++ t)))

/-- **Separated** — texts of items, and the whole text between the brackets. -/
inductive Separated : List (List Char) → List Char → Prop
  | none (w : Gap) : Separated [] w.text
  | first (w : Gap) {v t : List Char} {vs : List (List Char)} (rest : Following vs t) :
      Separated (v :: vs) (w.text ++ (v ++ t))

/-- **Member** — a member of an object: the content of its key, the gaps around the colon, and the
text of its value. -/
structure Member where
  key : List Char
  before : Gap
  after : Gap
  value : List Char

/-- The text of a member. -/
def Member.text (m : Member) : List Char :=
  quoted m.key ++ (m.before.text ++ ':' :: (m.after.text ++ m.value))

/-! ## Values -/

/-- **IsValue** — the text of a value. -/
inductive IsValue : List Char → Prop
  | null : IsValue ['n', 'u', 'l', 'l']
  | true : IsValue ['t', 'r', 'u', 'e']
  | false : IsValue ['f', 'a', 'l', 's', 'e']
  | number {t : List Char} (unsigned : IsUnsigned t) : IsValue t
  | negative {t : List Char} (unsigned : IsUnsigned t) : IsValue ('-' :: t)
  | string {t : List Char} (content : IsContent t) : IsValue (quoted t)
  | list {vs : List (List Char)} {t : List Char} (values : ∀ v ∈ vs, IsValue v)
      (layout : Separated vs t) : IsValue ('[' :: (t ++ [']']))
  | object {ms : List Member} {t : List Char} (keys : ∀ m ∈ ms, IsContent m.key)
      (values : ∀ m ∈ ms, IsValue m.value) (layout : Separated (ms.map Member.text) t) :
      IsValue ('\x7b' :: (t ++ ['\x7d']))

/-! ## How texts begin and end -/

/-- **Ends** — a text that begins with nothing that a value could go on with. -/
def Ends (rest : List Char) : Prop :=
  ∀ x ∈ rest.head?, Cursor.isSpace x = true ∨ x ∈ [',', ']', '\x7d']

/-- **Begins** — a text that begins with something that a value could begin with. -/
def Begins (t : List Char) : Prop :=
  ∃ x t', t = x :: t' ∧ Cursor.isSpace x = false ∧ x ∉ [',', ']', '\x7d']

theorem Gap.ends (w : Gap) {x : Char} (hx : x ∈ [',', ']', '\x7d']) (rest : List Char) :
    Ends (w.text ++ x :: rest) := by
  intro y hy
  rcases hw : w.text with _ | ⟨z, zs⟩
  · simp only [hw, List.nil_append, List.head?_cons, Option.mem_some_iff] at hy
    exact .inr (hy ▸ hx)
  · simp only [hw, List.cons_append, List.head?_cons, Option.mem_some_iff] at hy
    exact .inl (hy ▸ w.blank z (by simp [hw]))

theorem Following.ends {vs : List (List Char)} {t : List Char} (h : Following vs t) {x : Char}
    (hx : x ∈ [']', '\x7d']) (rest : List Char) : Ends (t ++ x :: rest) := by
  cases h with
  | none w => exact w.ends (List.mem_cons_of_mem _ hx) rest
  | more w w' rest' =>
    rw [List.append_assoc]
    exact w.ends (by simp) _

theorem quoted_begins (t : List Char) : Begins (quoted t) := ⟨'"', _, rfl, by decide, by decide⟩

theorem Member.begins (m : Member) : Begins m.text := ⟨'"', _, rfl, by decide, by decide⟩

theorem isDigit_begins {x : Char} (h : x.isDigit = true) :
    Cursor.isSpace x = false ∧ x ∉ [',', ']', '\x7d'] := by
  refine ⟨?_, ?_⟩
  · rw [Bool.eq_false_iff]
    intro hx
    simp only [Cursor.isSpace, Bool.or_eq_true, beq_iff_eq] at hx
    rcases hx with ((rfl | rfl) | rfl) | rfl <;> exact absurd h (by decide)
  · intro hx
    simp only [List.mem_cons, List.not_mem_nil, or_false] at hx
    rcases hx with rfl | rfl | rfl <;> exact absurd h (by decide)

theorem IsUnsigned.begins {t : List Char} (h : IsUnsigned t) :
    ∃ x t', t = x :: t' ∧ x.isDigit = true := by
  obtain ⟨integral, -, -⟩ := h
  cases integral with
  | zero => exact ⟨'0', _, rfl, by decide⟩
  | @digits x t digits nonzero => exact ⟨x, _, rfl, digits.2 x (by simp)⟩

theorem IsValue.begins {t : List Char} (h : IsValue t) : Begins t := by
  cases h with
  | null => exact ⟨'n', _, rfl, by decide, by decide⟩
  | true => exact ⟨'t', _, rfl, by decide, by decide⟩
  | false => exact ⟨'f', _, rfl, by decide, by decide⟩
  | number unsigned =>
    obtain ⟨x, t', rfl, digit⟩ := unsigned.begins
    exact ⟨x, t', rfl, isDigit_begins digit⟩
  | negative unsigned => exact ⟨'-', _, rfl, by decide, by decide⟩
  | string content => exact quoted_begins _
  | list values layout => exact ⟨'[', _, rfl, by decide, by decide⟩
  | object keys values layout => exact ⟨'\x7b', _, rfl, by decide, by decide⟩

end CommandShell.Json
