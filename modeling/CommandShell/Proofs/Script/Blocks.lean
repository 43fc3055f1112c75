import CommandShell.Proofs.Script.Lines
import Mathlib.Data.List.TakeWhile

/-!
# Bytes that come in blocks

The same bytes may come at once or in blocks. A stream that **carries** bytes gives their first line
and then carries what follows it (`Carries.takeLine`), so that where the blocks end never shows.
-/

namespace CommandShell

open CommandShell.Text

/-! ## Lines of bytes -/

/-- The bytes up to and including the first line feed. -/
def firstLine (bs : Bytes) : Bytes :=
  bs.takeWhile (· != lineFeed) ++ (bs.dropWhile (· != lineFeed)).take 1

/-- The bytes behind the first line feed. -/
def afterLine (bs : Bytes) : Bytes := (bs.dropWhile (· != lineFeed)).drop 1

/-- A block without a line feed is all on the first line. -/
theorem firstLine_append_of_all {b : Bytes} (bs : Bytes) (h : b.dropWhile (· != lineFeed) = []) :
    firstLine (b ++ bs) = b ++ firstLine bs ∧ afterLine (b ++ bs) = afterLine bs := by
  have hall := List.dropWhile_eq_nil_iff.mp h
  rw [firstLine, afterLine, List.takeWhile_append_of_pos hall, List.dropWhile_append_of_pos hall,
    List.append_assoc]
  exact ⟨rfl, rfl⟩

/-- The first line ends in the block that has a line feed. -/
theorem firstLine_append_of_feed {b left : Bytes} {feed : UInt8} (bs : Bytes)
    (h : b.dropWhile (· != lineFeed) = feed :: left) :
    firstLine (b ++ bs) = b.takeWhile (· != lineFeed) ++ [feed] ∧
      afterLine (b ++ bs) = left ++ bs := by
  have hdrop : (b ++ bs).dropWhile (· != lineFeed) = feed :: (left ++ bs) := by
    rw [List.dropWhile_append, h]
    rfl
  have htake : (b ++ bs).takeWhile (· != lineFeed) = b.takeWhile (· != lineFeed) := by
    have hsplit := List.takeWhile_append_dropWhile (p := (· != lineFeed)) (l := b ++ bs)
    rw [hdrop, ← List.cons_append, ← h, ← List.append_assoc, List.append_left_inj] at hsplit
    exact List.append_cancel_right
      (hsplit.trans (List.takeWhile_append_dropWhile (p := (· != lineFeed)) (l := b)).symm)
  rw [firstLine, afterLine, hdrop, htake]
  exact ⟨rfl, rfl⟩

/-! ## Streams -/

namespace Stream

/-- **Carries** — the stream delivers the bytes, in whatever blocks, and is then at its end. -/
def Carries (s : Stream) (bs : Bytes) : Prop :=
  ∃ blocks : List Bytes, s = ⟨blocks.map .data, none⟩ ∧ blocks.flatten = bs

/-- Reading a line goes from block to block. -/
theorem lineFrom_blocks (blocks : List Bytes) (got : Bytes) (asked : Nat) :
    (lineFrom none (blocks.map .data) got asked).result =
        .ok (got ++ firstLine blocks.flatten) ∧
      (lineFrom none (blocks.map .data) got asked).rest.Carries (afterLine blocks.flatten) := by
  induction blocks generalizing got with
  | nil => exact ⟨congrArg Except.ok (List.append_nil got).symm, [], rfl, rfl⟩
  | cons b blocks ih =>
      rw [List.map_cons, lineFrom, List.flatten_cons]
      cases hfeed : b.dropWhile (· != lineFeed) with
      | nil =>
          obtain ⟨hfirst, hafter⟩ := firstLine_append_of_all blocks.flatten hfeed
          rw [hfirst, hafter, ← List.append_assoc]
          exact ih (got ++ b)
      | cons feed left =>
          obtain ⟨hfirst, hafter⟩ := firstLine_append_of_feed blocks.flatten hfeed
          rw [hfirst, hafter, ← List.append_assoc]
          exact ⟨rfl, left :: blocks, rfl, rfl⟩

/-- **A stream gives the first line of what it carries, and carries the rest.** -/
theorem Carries.takeLine {s : Stream} {bs : Bytes} (h : s.Carries bs) :
    s.takeLine.result = .ok (firstLine bs) ∧ s.takeLine.rest.Carries (afterLine bs) := by
  obtain ⟨blocks, rfl, rfl⟩ := h
  exact lineFrom_blocks blocks [] 0

theorem carries_ofBytes (bs : Bytes) : (ofBytes bs).Carries bs :=
  ⟨[bs], rfl, List.append_nil bs⟩

/-- Blocks are pieces of the bytes. -/
theorem flatten_blocks (size : Nat) (bs : Bytes) : (blocks size bs).flatten = bs := by
  fun_induction blocks size bs with
  | case1 bs => exact List.append_nil bs
  | case2 bs _ ih => rw [List.flatten_cons, ih, List.take_append_drop]

theorem carries_ofBlocks (size : Nat) (bs : Bytes) : (ofBlocks size bs).Carries bs :=
  ⟨blocks size bs, rfl, flatten_blocks size bs⟩

end Stream

end CommandShell
