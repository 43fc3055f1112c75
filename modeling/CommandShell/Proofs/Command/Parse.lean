import CommandShell.Command.Builtin
import CommandShell.Proofs.Text.Spacing

/-!
# The first word of a line

`Command.parse` trims a line, looks at its first character, and cuts it at its first blank. What it
makes of a line depends on the first word, the head, alone: whether it begins with the sign of a
comment or is one of five words (`Reserved`). Any other line is for the table (`parse_of_free`), and
none of these is (`parse_of_reserved`).
-/

namespace CommandShell

open CommandShell.Text

/-- **Reserved** — a first word that keeps a line from being looked up. -/
def Reserved (w : String) : Prop :=
  w.toList.head? = some '#' ∨ w ∈ ["exit", "quit", "abort", "echo", "source"]

namespace Command

variable {line w text : String}

theorem parse_of_blank (h : ∀ c ∈ line.toList, isBlank c = true) : parse line = .nothing :=
  if_pos (.inl (trim_eq_empty_iff.mpr h))

theorem parse_of_comment (h : Headed line.toList w text) (mark : w.toList.head? = some '#') :
    parse line = .nothing :=
  if_pos (.inr (h.head?_trim.trans mark))

/-- A line that is no comment is sorted by its first word. -/
theorem parse_of_typed (h : Headed line.toList w text) (mark : w.toList.head? ≠ some '#') :
    parse line =
      if w = "exit" ∨ w = "quit" then .exit
      else if w = "abort" then .abort
      else if w = "echo" then .echo text
      else if w = "source" then .source text
      else .other (trim line) := by
  have hsome : ¬(trim line = "" ∨ (trim line).toList.head? = some '#') := by
    rw [h.head?_trim]
    rintro (hempty | hmark)
    · -- Something is left of the line, for the word is.
      have hhead := h.head?_trim
      obtain ⟨-, -, -, -, -, hw, -, -⟩ := h
      rw [hempty] at hhead
      exact hw.1 (String.toList_eq_nil_iff.mp (List.head?_eq_none_iff.mp hhead.symm))
    · exact mark hmark
  unfold parse
  dsimp only
  rw [if_neg hsome, h.cutWord_trim]

/-- A line with another first word is for the table. -/
theorem parse_of_free (h : Headed line.toList w text) (free : ¬Reserved w) :
    parse line = .other (trim line) := by
  obtain ⟨hmark, hwords⟩ := not_or.mp free
  rw [parse_of_typed h hmark]
  simp only [List.mem_cons, List.not_mem_nil, or_false, not_or] at hwords
  obtain ⟨hexit, hquit, habort, hecho, hsource⟩ := hwords
  rw [if_neg (not_or_intro hexit hquit), if_neg habort, if_neg hecho, if_neg hsource]

theorem parse_of_reserved (h : Headed line.toList w text) (reserved : Reserved w)
    (other : String) : parse line ≠ .other other := by
  by_cases hmark : w.toList.head? = some '#'
  · rw [parse_of_comment h hmark]
    exact fun heq => nomatch heq
  · rw [parse_of_typed h hmark]
    have hword := reserved.resolve_left hmark
    simp only [List.mem_cons, List.not_mem_nil, or_false] at hword
    obtain rfl | rfl | rfl | rfl | rfl := hword <;> exact fun heq => nomatch heq

end Command

end CommandShell
