import CommandShell.Text.Utf8
import Mathlib.Tactic.Common

/-!
# The order of texts is that of their bytes

Texts are compared character by character, and characters by their scalar values. The encoding keeps
this order: of two characters the greater one has a greater byte where their encodings begin to
differ (`encodeChar_append_lt`), whatever follows. So texts stand in the same order as their
encodings, byte by byte (`encode_lt_encode_iff`).
-/

namespace CommandShell.Text

private theorem ofNat_cons_lt_iff {m n : Nat} {as bs : Bytes} (hm : m < 256) (hn : n < 256) :
    UInt8.ofNat m :: as < UInt8.ofNat n :: bs ↔ m < n ∨ m = n ∧ as < bs := by
  have hm' : (UInt8.ofNat m).toNat = m := UInt8.toNat_ofNat_of_lt hm
  have hn' : (UInt8.ofNat n).toNat = n := UInt8.toNat_ofNat_of_lt hn
  rw [List.cons_lt_cons_iff, UInt8.lt_iff_toNat_lt, ← UInt8.toNat_inj, hm', hn']

/-- **encodeChar_append_lt** — the encoding of a smaller character comes first, whatever follows. -/
theorem encodeChar_append_lt {c d : Char} (h : c < d) (xs ys : Bytes) :
    String.utf8EncodeChar c ++ xs < String.utf8EncodeChar d ++ ys := by
  have hlt : c.val.toNat < d.val.toNat := h
  have hd : d.val.toNat < 0x110000 := by
    have hvalid := d.valid
    unfold UInt32.isValidChar Nat.isValidChar at hvalid
    omega
  unfold String.utf8EncodeChar
  dsimp only
  generalize c.val.toNat = m at hlt
  generalize d.val.toNat = n at hlt hd
  have hm₂ : m / 64 / 64 = m / 4096 := Nat.div_div_eq_div_mul m 64 64
  have hm₃ : m / 4096 / 64 = m / 262144 := Nat.div_div_eq_div_mul m 4096 64
  have hn₂ : n / 64 / 64 = n / 4096 := Nat.div_div_eq_div_mul n 64 64
  have hn₃ : n / 4096 / 64 = n / 262144 := Nat.div_div_eq_div_mul n 4096 64
  have hm₄ : m / 262144 % 8 = m / 262144 := Nat.mod_eq_of_lt (by omega)
  have hn₄ : n / 262144 % 8 = n / 262144 := Nat.mod_eq_of_lt (by omega)
  -- A shorter encoding has a smaller lead byte; in one of the same length the first digit to base
  -- 64 that differs decides.
  split_ifs <;>
    simp (disch := omega) only [List.cons_append, List.nil_append, ofNat_cons_lt_iff] <;> omega

/-- **encode_lt_encode_iff** — one text comes before another if and only if its bytes do. -/
theorem encode_lt_encode_iff {a b : String} : encode a < encode b ↔ a < b := by
  have hmono : ∀ {cs ds : List Char}, cs < ds →
      cs.flatMap String.utf8EncodeChar < ds.flatMap String.utf8EncodeChar := by
    intro cs ds h
    induction h with
    | @nil d ds =>
        have hne : String.utf8EncodeChar d ≠ [] := String.utf8EncodeChar_ne_nil
        obtain ⟨b, bs, hd⟩ := List.exists_cons_of_ne_nil hne
        rw [List.flatMap_cons, hd]
        exact List.Lex.nil
    | @rel c cs d ds h =>
        rw [List.flatMap_cons, List.flatMap_cons]
        exact encodeChar_append_lt h _ _
    | @cons c cs ds h ih =>
        rw [List.flatMap_cons, List.flatMap_cons]
        exact List.append_left_lt ih
  constructor
  · intro h
    by_contra hle
    obtain hlt | rfl : b < a ∨ b = a := by
      by_cases hlt : b < a
      · exact .inl hlt
      · exact .inr (String.le_antisymm (String.not_lt.mp hle) (String.not_lt.mp hlt))
    · exact List.lt_asymm h (hmono (String.lt_iff.mp hlt))
    · exact List.lt_irrefl _ h
  · intro h
    exact hmono (String.lt_iff.mp h)

end CommandShell.Text
