import CommandShell.Text.Split

/-!
# Blanks, words and fields

`isBlank` is the Unicode property White_Space. Texts are trimmed at blanks, split into words at
them, and a command line is cut once at its first blank. The fields of a list with separators are
trimmed too.
-/

namespace CommandShell.Text

/-- **isBlank** — the Unicode property White_Space. -/
def isBlank (c : Char) : Bool :=
  let n := c.toNat
  (9 ≤ n && n ≤ 13) || n == 0x20 || n == 0x85 || n == 0xA0 || n == 0x1680
    || (0x2000 ≤ n && n ≤ 0x200A) || n == 0x2028 || n == 0x2029 || n == 0x202F || n == 0x205F
    || n == 0x3000

/-- The list without the characters at its end that satisfy `p`. -/
def dropEndWhile (p : Char → Bool) (cs : List Char) : List Char :=
  (cs.reverse.dropWhile p).reverse

/-- The list without the blanks at its two ends. -/
def trimChars (cs : List Char) : List Char := dropEndWhile isBlank (cs.dropWhile isBlank)

/-- **trim** — the text without the blanks at its two ends. -/
def trim (s : String) : String := String.ofList (trimChars s.toList)

/-- The non-empty parts between blanks. -/
def wordChars (cs : List Char) : List (List Char) := (splitOn isBlank cs).filter (!·.isEmpty)

/-- **words** — the words of a text. -/
def words (s : String) : List String := (wordChars s.toList).map String.ofList

/-- The words put together again with one space between neighbours. -/
def unwords (ws : List String) : String := " ".intercalate ws

/-- **cutWord** — what stands before the first blank, and what follows it without the blanks at
its ends. A text without blanks is cut at its end. -/
def cutWord (s : String) : String × String :=
  let cs := s.toList
  (String.ofList (cs.takeWhile (!isBlank ·)), String.ofList (trimChars (cs.dropWhile (!isBlank ·))))

/-- The fields of a list with separators, without the blanks around each and without the fields
that hold nothing else. -/
def fields (separator : Char) (s : String) : List String :=
  (((splitOn (· == separator) s.toList).map trimChars).filter (!·.isEmpty)).map String.ofList

end CommandShell.Text
