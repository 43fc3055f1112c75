import CommandShell.Command.SearchPath
import CommandShell.Proofs.Text.Trim
import CommandShell.Proofs.Text.Words
import Mathlib.Tactic.Common

/-!
# The directories along a search path

The text of a search path is pieces with semicolons between them (`Pieces`). A piece that holds more
than blanks names one directory (`Names`): the home directory, one below it, or the one that is
written (`Expands`). So the directories stand in the order of the pieces, and one that is written
twice stands there twice. Every search path leads along one list of directories (`leads_iff`).
-/

namespace CommandShell

open CommandShell.Text
open CommandShell.Files

namespace SearchPath

/-- **Pieces** — a text and its pieces between semicolons. -/
inductive Pieces : List Char → List (List Char) → Prop
  | last {piece : List Char} (noSemicolon : ';' ∉ piece) : Pieces piece [piece]
  | more {piece rest : List Char} {pieces : List (List Char)} (noSemicolon : ';' ∉ piece)
      (others : Pieces rest pieces) : Pieces (piece ++ ';' :: rest) (piece :: pieces)

/-- **Expands** — what a piece stands for when a home directory is known, or not. -/
inductive Expands (home : Option Path) : List Char → Path → Prop
  | home {directory : Path} (known : home = some directory) : Expands home ['~'] directory
  | below {directory : Path} {slashes rest : List Char} (known : home = some directory)
      (only : ∀ c ∈ slashes, c = '/') (relative : rest.head? ≠ some '/') :
      Expands home ('~' :: '/' :: (slashes ++ rest)) (directory.join (encode (String.ofList rest)))
  | itself {piece : List Char} (other : home = none ∨ piece ≠ ['~'] ∧ ¬['~', '/'] <+: piece) :
      Expands home piece (.ofString (String.ofList piece))

/-- **Names** — the directories that pieces name. Blanks around a piece do not count, and blanks
alone name nothing. -/
inductive Names (home : Option Path) : List (List Char) → List Path → Prop
  | none : Names home [] []
  | nothing {blanks : List Char} {pieces : List (List Char)} {ds : List Path}
      (blank : ∀ c ∈ blanks, isBlank c = true) (others : Names home pieces ds) :
      Names home (blanks :: pieces) ds
  | directory {before piece after : List Char} {d : Path} {pieces : List (List Char)}
      {ds : List Path} (blank : ∀ c ∈ before ++ after, isBlank c = true) (nonempty : piece ≠ [])
      (trimmed : IsTrimmed piece) (expands : Expands home piece d)
      (others : Names home pieces ds) :
      Names home ((before ++ piece ++ after) :: pieces) (d :: ds)

/-- **Leads** — the directories along a search path, in order. -/
def Leads (s : SearchPath) (ds : List Path) : Prop :=
  ∃ pieces, Pieces s.text.toList pieces ∧ Names s.home pieces ds

/-! ## Pieces -/

theorem exists_pieces (t : List Char) : ∃ pieces, Pieces t pieces := by
  induction t with
  | nil => exact ⟨_, .last List.not_mem_nil⟩
  | cons c t ih =>
      obtain ⟨pieces, hpieces⟩ := ih
      by_cases hc : c = ';'
      · rw [hc]
        exact ⟨_, .more List.not_mem_nil hpieces⟩
      · have hlonger : ∀ {piece : List Char}, ';' ∉ piece → ';' ∉ c :: piece :=
          fun hpiece => List.not_mem_cons_of_ne_of_not_mem (Ne.symm hc) hpiece
        cases hpieces with
        | last noSemicolon => exact ⟨_, .last (hlonger noSemicolon)⟩
        | more noSemicolon others => exact ⟨_, .more (hlonger noSemicolon) others⟩

theorem Pieces.eq_splitOn {t : List Char} {pieces : List (List Char)} (h : Pieces t pieces) :
    pieces = splitOn (· == ';') t := by
  have hnone : ∀ {piece : List Char}, ';' ∉ piece → ∀ c ∈ piece, (c == ';') = false := by
    intro piece hpiece c hc
    exact beq_eq_false_iff_ne.mpr fun heq => hpiece (heq ▸ hc)
  induction h with
  | last noSemicolon => rw [splitOn_of_none (hnone noSemicolon)]
  | more noSemicolon _ ih => rw [splitOn_append_cons (hnone noSemicolon) rfl, ih]

/-! ## Directories -/

theorem Expands.eq_expand {s : SearchPath} {piece : List Char} {d : Path}
    (h : Expands s.home piece d) : d = s.expand (String.ofList piece) := by
  unfold expand
  rw [String.toList_ofList]
  cases h with
  | home known =>
      rw [known]
      rfl
  | @below directory slashes rest known only relative =>
      have hrest : (slashes ++ rest).dropWhile (· = '/') = rest := by
        rw [List.dropWhile_append_of_pos (by simpa using only)]
        cases rest with
        | nil => rfl
        | cons c rest =>
            have hc : c ≠ '/' := fun heq => relative (congrArg some heq)
            exact List.dropWhile_cons_of_neg (by simpa using hc)
      simp only [known, hrest]
  | itself other =>
      split
      · next known =>
          rcases other with unknown | ⟨hne, -⟩
          · rw [unknown] at known
            cases known
          · exact absurd rfl hne
      · next rest known =>
          rcases other with unknown | ⟨-, hprefix⟩
          · rw [unknown] at known
            cases known
          · exact absurd ⟨rest, rfl⟩ hprefix
      · rfl

theorem expands_expand (s : SearchPath) (piece : List Char) :
    Expands s.home piece (s.expand (String.ofList piece)) := by
  unfold expand
  rw [String.toList_ofList]
  split
  · next known => exact .home known
  · next rest known =>
      have hsplit : rest.takeWhile (· = '/') ++ rest.dropWhile (· = '/') = rest :=
        List.takeWhile_append_dropWhile
      have honly : ∀ c ∈ rest.takeWhile (· = '/'), c = '/' := fun c hc => by
        simpa using List.mem_takeWhile_imp hc
      have hbelow := Expands.below known honly (head?_dropWhile_ne '/' rest)
      rwa [hsplit] at hbelow
  · next hhome hbelow =>
      apply Expands.itself
      rcases hknown : s.home with _ | directory
      · exact .inl rfl
      · refine .inr ⟨fun heq => hhome _ hknown heq, ?_⟩
        rintro ⟨rest, heq⟩
        exact hbelow _ rest hknown heq.symm

/-- The directories that pieces name are those of their fields. -/
theorem names_iff {s : SearchPath} {pieces : List (List Char)} {ds : List Path} :
    Names s.home pieces ds ↔
      ds = (((pieces.map trimChars).filter (!·.isEmpty)).map String.ofList).map s.expand := by
  constructor
  · intro h
    induction h with
    | none => rfl
    | nothing blank _ ih =>
        rw [List.map_cons, trimChars_eq_nil_iff.mpr blank]
        exact ih
    | directory blank nonempty trimmed expands _ ih =>
        rw [List.map_cons, trimChars_around blank trimmed,
          List.filter_cons_of_pos (by simpa using nonempty), List.map_cons, List.map_cons, ih,
          expands.eq_expand]
  · rintro rfl
    induction pieces with
    | nil => exact .none
    | cons piece pieces ih =>
        rw [List.map_cons]
        by_cases hpiece : trimChars piece = []
        · rw [hpiece]
          exact .nothing (trimChars_eq_nil_iff.mp hpiece) ih
        · obtain ⟨before, after, hsplit, hblank⟩ := exists_around_trimChars piece
          rw [List.filter_cons_of_pos (by simpa using hpiece), List.map_cons, List.map_cons]
          nth_rewrite 1 [hsplit]
          exact .directory hblank hpiece (isTrimmed_trimChars piece) (s.expands_expand _) ih

/-- **leads_iff** — a search path leads along its directories. -/
theorem leads_iff {s : SearchPath} {ds : List Path} : s.Leads ds ↔ ds = s.directories := by
  constructor
  · rintro ⟨pieces, hpieces, hnames⟩
    rw [names_iff.mp hnames, hpieces.eq_splitOn]
    rfl
  · rintro rfl
    obtain ⟨pieces, hpieces⟩ := exists_pieces s.text.toList
    refine ⟨pieces, hpieces, names_iff.mpr ?_⟩
    rw [hpieces.eq_splitOn]
    rfl

end SearchPath

end CommandShell
