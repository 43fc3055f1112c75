import CommandShell.Text.Utf8
import Mathlib.Tactic.Common

/-!
# Decoding undoes encoding

The automaton of the decoder reads the encoding of a character from its lead byte to its last byte
and gives that character (`reads_encode`), and it gives a character for no other bytes
(`Reads.eq_encode`). The bytes of the pieces that are found, with those of the sequence that is
open, are at every moment the bytes read so far (`pieces_bytes`), so bytes are decoded to a text if
and only if they are its encoding (`decode?_eq_some_iff`).

Both directions rest on facts about numbers, two for each length of a sequence: what the automaton
takes for a character after a lead byte is what encoding writes, and the other way round.
-/

namespace CommandShell.Text

/-! ## The sequence of one character -/

/-- **Completes** — the bytes by which an open sequence becomes that of a character. -/
inductive Completes : Begun → Bytes → Char → Prop
  /-- The byte is the last one. -/
  | last {o : Begun} {b : UInt8} {c : Char} (range : o.low ≤ b ∧ b ≤ o.high)
      (missing : o.missing = 1) (value : c = Char.ofNat (o.value * 64 + (b.toNat - 0x80))) :
      Completes o [b] c
  /-- Other bytes follow. -/
  | more {o : Begun} {b : UInt8} {bs : Bytes} {c : Char} (range : o.low ≤ b ∧ b ≤ o.high)
      (missing : o.missing ≠ 1)
      (rest : Completes ⟨o.taken ++ [b], o.missing - 1, 0x80, 0xBF,
        o.value * 64 + (b.toNat - 0x80)⟩ bs c) : Completes o (b :: bs) c

/-- **Reads** — where no sequence is open, a byte and the bytes after it are read as a character. -/
inductive Reads (b : UInt8) : Bytes → Char → Prop
  /-- The byte stands for itself. -/
  | alone {c : Char} (lead : lead b = .inl (.scalar c)) : Reads b [] c
  /-- The byte opens a sequence. -/
  | opened {o : Begun} {bs : Bytes} {c : Char} (lead : lead b = .inr o) (rest : Completes o bs c) :
      Reads b bs c

theorem Completes.foldl_step {o : Begun} {bs : Bytes} {c : Char} (h : Completes o bs c)
    (found : List Piece) :
    bs.foldl Decoder.step ⟨found, some o⟩ = ⟨.scalar c :: found, none⟩ := by
  induction h with
  | last range missing value => simp [Decoder.step, range, missing, value]
  | more range missing rest ih => simp [Decoder.step, range, missing, ih]

theorem Reads.foldl_step {b : UInt8} {bs : Bytes} {c : Char} (h : Reads b bs c)
    (found : List Piece) :
    (b :: bs).foldl Decoder.step ⟨found, none⟩ = ⟨.scalar c :: found, none⟩ := by
  rw [List.foldl_cons]
  show bs.foldl Decoder.step (Decoder.enter found b) = _
  unfold Decoder.enter
  cases h with
  | alone lead => rw [lead]; rfl
  | opened lead rest => rw [lead]; exact rest.foldl_step found

/-! ## What encoding writes, as numbers -/

private theorem utf8EncodeChar_ofNat {n : Nat} (h : n.isValidChar) :
    String.utf8EncodeChar (Char.ofNat n) =
      if n ≤ 0x7F then [UInt8.ofNat n]
      else if n ≤ 0x7FF then [UInt8.ofNat (n / 64 % 0x20 + 0xC0), UInt8.ofNat (n % 64 + 0x80)]
      else if n ≤ 0xFFFF then
        [UInt8.ofNat (n / 4096 % 0x10 + 0xE0), UInt8.ofNat (n / 64 % 64 + 0x80),
          UInt8.ofNat (n % 64 + 0x80)]
      else
        [UInt8.ofNat (n / 262144 % 8 + 0xF0), UInt8.ofNat (n / 4096 % 64 + 0x80),
          UInt8.ofNat (n / 64 % 64 + 0x80), UInt8.ofNat (n % 64 + 0x80)] := by
  have hn : (Char.ofNat n).val.toNat = n := by
    unfold Char.ofNat
    rw [dif_pos h]
    rfl
  unfold String.utf8EncodeChar
  rw [hn]

private theorem eq_ofNat {b : UInt8} {n : Nat} (h : b.toNat = n) : b = UInt8.ofNat n := by
  rw [← h, UInt8.ofNat_toNat]

private theorem toNat_ofNat {n : Nat} (h : n < 256) : (UInt8.ofNat n).toNat = n :=
  UInt8.toNat_ofNat_of_lt h

/-- The kinds of lead bytes by their values. -/
private theorem lead_eq (b : UInt8) :
    lead b =
      if b.toNat < 0x80 then .inl (.scalar (Char.ofNat b.toNat))
      else if b.toNat < 0xC2 then .inl (.broken [b])
      else if b.toNat < 0xE0 then .inr ⟨[b], 1, 0x80, 0xBF, b.toNat - 0xC0⟩
      else if b.toNat < 0xF0 then
        .inr ⟨[b], 2, if b = 0xE0 then 0xA0 else 0x80, if b = 0xED then 0x9F else 0xBF,
          b.toNat - 0xE0⟩
      else if b.toNat < 0xF5 then
        .inr ⟨[b], 3, if b = 0xF0 then 0x90 else 0x80, if b = 0xF4 then 0x8F else 0xBF,
          b.toNat - 0xF0⟩
      else .inl (.broken [b]) := rfl

private theorem lead_one {b : UInt8} (h : b.toNat < 0x80) :
    lead b = .inl (.scalar (Char.ofNat b.toNat)) := by
  rw [lead_eq, if_pos h]

private theorem lead_two {b : UInt8} (h : 0xC2 ≤ b.toNat) (h' : b.toNat < 0xE0) :
    lead b = .inr ⟨[b], 1, 0x80, 0xBF, b.toNat - 0xC0⟩ := by
  rw [lead_eq, if_neg (by omega), if_neg (by omega), if_pos h']

private theorem lead_three {b : UInt8} (h : 0xE0 ≤ b.toNat) (h' : b.toNat < 0xF0) :
    lead b = .inr ⟨[b], 2, if b = 0xE0 then 0xA0 else 0x80, if b = 0xED then 0x9F else 0xBF,
      b.toNat - 0xE0⟩ := by
  rw [lead_eq, if_neg (by omega), if_neg (by omega), if_neg (by omega), if_pos h']

private theorem lead_four {b : UInt8} (h : 0xF0 ≤ b.toNat) (h' : b.toNat < 0xF5) :
    lead b = .inr ⟨[b], 3, if b = 0xF0 then 0x90 else 0x80, if b = 0xF4 then 0x8F else 0xBF,
      b.toNat - 0xF0⟩ := by
  rw [lead_eq, if_neg (by omega), if_neg (by omega), if_neg (by omega), if_neg (by omega),
    if_pos h']

private theorem lead_broken {b : UInt8}
    (h : 0x80 ≤ b.toNat ∧ b.toNat < 0xC2 ∨ 0xF5 ≤ b.toNat) : lead b = .inl (.broken [b]) := by
  rw [lead_eq, if_neg (by omega)]
  by_cases hC2 : b.toNat < 0xC2
  · rw [if_pos hC2]
  · rw [if_neg hC2, if_neg (by omega), if_neg (by omega), if_neg (by omega)]

/-- A bound of the second byte, after the lead byte for which it is a special one and after others.
-/
private theorem bound_cases (b special x y : UInt8) :
    b.toNat = special.toNat ∧ (if b = special then x else y).toNat = x.toNat ∨
      b.toNat ≠ special.toNat ∧ (if b = special then x else y).toNat = y.toNat := by
  by_cases h : b = special
  · exact .inl ⟨congrArg UInt8.toNat h, by rw [if_pos h]⟩
  · exact .inr ⟨fun h' => h (UInt8.toNat_inj.mp h'), by rw [if_neg h]⟩

theorem Completes.one {o : Begun} {bs : Bytes} {c : Char} (h : Completes o bs c)
    (ho : o.missing = 1) :
    ∃ b : UInt8, bs = [b] ∧ o.low.toNat ≤ b.toNat ∧ b.toNat ≤ o.high.toNat ∧
      c = Char.ofNat (o.value * 64 + (b.toNat - 0x80)) := by
  cases h with
  | last range missing value => exact ⟨_, rfl, range.1, range.2, value⟩
  | more range missing rest => exact absurd ho missing

theorem Completes.next {o : Begun} {bs : Bytes} {c : Char} (h : Completes o bs c)
    (ho : o.missing ≠ 1) :
    ∃ (b : UInt8) (rest : Bytes), bs = b :: rest ∧ o.low.toNat ≤ b.toNat ∧
      b.toNat ≤ o.high.toNat ∧ Completes ⟨o.taken ++ [b], o.missing - 1, 0x80, 0xBF,
        o.value * 64 + (b.toNat - 0x80)⟩ rest c := by
  cases h with
  | last range missing value => exact absurd missing ho
  | more range missing rest => exact ⟨_, _, rfl, range.1, range.2, rest⟩

/-- The byte that is written for a number of six bits continues a sequence. -/
private theorem tail_range {n : Nat} (h : n < 64) :
    0x80 ≤ UInt8.ofNat (n + 0x80) ∧ UInt8.ofNat (n + 0x80) ≤ 0xBF := by
  have hb := toNat_ofNat (n := n + 0x80) (by omega)
  rw [UInt8.le_iff_toNat_le, UInt8.le_iff_toNat_le, hb]
  simp only [UInt8.reduceToNat]
  omega

/-! ### Two bytes -/

private theorem encode_two {b b₂ : UInt8} (low : 0xC2 ≤ b.toNat) (high : b.toNat < 0xE0)
    (low₂ : (0x80 : UInt8).toNat ≤ b₂.toNat) (high₂ : b₂.toNat ≤ (0xBF : UInt8).toNat) :
    String.utf8EncodeChar (Char.ofNat ((b.toNat - 0xC0) * 64 + (b₂.toNat - 0x80))) = [b, b₂] := by
  simp only [UInt8.reduceToNat] at low₂ high₂
  generalize hn : (b.toNat - 0xC0) * 64 + (b₂.toNat - 0x80) = n
  have hvalid : n.isValidChar := Or.inl (by omega)
  have hb : b = UInt8.ofNat (n / 64 % 0x20 + 0xC0) := eq_ofNat (by omega)
  have hb₂ : b₂ = UInt8.ofNat (n % 64 + 0x80) := eq_ofNat (by omega)
  rw [utf8EncodeChar_ofNat hvalid, if_neg (by omega), if_pos (by omega), ← hb, ← hb₂]

private theorem reads_two {n : Nat} (low : 0x7F < n) (high : n ≤ 0x7FF) :
    Reads (UInt8.ofNat (n / 64 % 0x20 + 0xC0)) [UInt8.ofNat (n % 64 + 0x80)] (Char.ofNat n) := by
  have hb := toNat_ofNat (n := n / 64 % 0x20 + 0xC0) (by omega)
  have hb₂ := toNat_ofNat (n := n % 64 + 0x80) (by omega)
  refine .opened (lead_two (by omega) (by omega)) (.last (tail_range (by omega)) rfl ?_)
  dsimp only
  rw [hb, hb₂]
  exact congrArg Char.ofNat (by omega)

/-! ### Three bytes -/

private theorem encode_three {b b₂ b₃ : UInt8} (low : 0xE0 ≤ b.toNat) (high : b.toNat < 0xF0)
    (low₂ : (if b = 0xE0 then 0xA0 else 0x80 : UInt8).toNat ≤ b₂.toNat)
    (high₂ : b₂.toNat ≤ (if b = 0xED then 0x9F else 0xBF : UInt8).toNat)
    (low₃ : (0x80 : UInt8).toNat ≤ b₃.toNat) (high₃ : b₃.toNat ≤ (0xBF : UInt8).toNat) :
    String.utf8EncodeChar (Char.ofNat
        (((b.toNat - 0xE0) * 64 + (b₂.toNat - 0x80)) * 64 + (b₃.toNat - 0x80))) =
      [b, b₂, b₃] := by
  have hleast := bound_cases b 0xE0 0xA0 0x80
  have hgreatest := bound_cases b 0xED 0x9F 0xBF
  simp only [UInt8.reduceToNat] at hleast hgreatest low₂ high₂ low₃ high₃
  generalize hn : ((b.toNat - 0xE0) * 64 + (b₂.toNat - 0x80)) * 64 + (b₃.toNat - 0x80) = n
  have hvalid : n.isValidChar := by
    unfold Nat.isValidChar
    omega
  have hrange : 0x7FF < n ∧ n ≤ 0xFFFF := by omega
  have hb : b = UInt8.ofNat (n / 4096 % 0x10 + 0xE0) := eq_ofNat (by omega)
  have hb₂ : b₂ = UInt8.ofNat (n / 64 % 64 + 0x80) := eq_ofNat (by omega)
  have hb₃ : b₃ = UInt8.ofNat (n % 64 + 0x80) := eq_ofNat (by omega)
  rw [utf8EncodeChar_ofNat hvalid, if_neg (by omega), if_neg (by omega), if_pos hrange.2, ← hb,
    ← hb₂, ← hb₃]

private theorem reads_three {n : Nat} (low : 0x7FF < n) (high : n ≤ 0xFFFF)
    (hvalid : n.isValidChar) :
    Reads (UInt8.ofNat (n / 4096 % 0x10 + 0xE0))
      [UInt8.ofNat (n / 64 % 64 + 0x80), UInt8.ofNat (n % 64 + 0x80)] (Char.ofNat n) := by
  have hb := toNat_ofNat (n := n / 4096 % 0x10 + 0xE0) (by omega)
  have hb₂ := toNat_ofNat (n := n / 64 % 64 + 0x80) (by omega)
  have hb₃ := toNat_ofNat (n := n % 64 + 0x80) (by omega)
  have hleast := bound_cases (UInt8.ofNat (n / 4096 % 0x10 + 0xE0)) 0xE0 0xA0 0x80
  have hgreatest := bound_cases (UInt8.ofNat (n / 4096 % 0x10 + 0xE0)) 0xED 0x9F 0xBF
  refine .opened (lead_three (by omega) (by omega))
    (.more ?_ (Nat.succ_ne_self 1) (.last (tail_range (by omega)) rfl ?_))
  · unfold Nat.isValidChar at hvalid
    rw [UInt8.le_iff_toNat_le, UInt8.le_iff_toNat_le, hb₂]
    simp only [UInt8.reduceToNat, hb] at hleast hgreatest
    constructor <;> dsimp only <;> omega
  · dsimp only
    rw [hb, hb₂, hb₃]
    exact congrArg Char.ofNat (by omega)

/-! ### Four bytes -/

private theorem encode_four {b b₂ b₃ b₄ : UInt8} (low : 0xF0 ≤ b.toNat) (high : b.toNat < 0xF5)
    (low₂ : (if b = 0xF0 then 0x90 else 0x80 : UInt8).toNat ≤ b₂.toNat)
    (high₂ : b₂.toNat ≤ (if b = 0xF4 then 0x8F else 0xBF : UInt8).toNat)
    (low₃ : (0x80 : UInt8).toNat ≤ b₃.toNat) (high₃ : b₃.toNat ≤ (0xBF : UInt8).toNat)
    (low₄ : (0x80 : UInt8).toNat ≤ b₄.toNat) (high₄ : b₄.toNat ≤ (0xBF : UInt8).toNat) :
    String.utf8EncodeChar (Char.ofNat
        ((((b.toNat - 0xF0) * 64 + (b₂.toNat - 0x80)) * 64 + (b₃.toNat - 0x80)) * 64 +
          (b₄.toNat - 0x80))) =
      [b, b₂, b₃, b₄] := by
  have hleast := bound_cases b 0xF0 0x90 0x80
  have hgreatest := bound_cases b 0xF4 0x8F 0xBF
  simp only [UInt8.reduceToNat] at hleast hgreatest low₂ high₂ low₃ high₃ low₄ high₄
  generalize hn : (((b.toNat - 0xF0) * 64 + (b₂.toNat - 0x80)) * 64 + (b₃.toNat - 0x80)) * 64
    + (b₄.toNat - 0x80) = n
  have hrange : 0xFFFF < n ∧ n < 0x110000 := by omega
  have hvalid : n.isValidChar := Or.inr ⟨by omega, hrange.2⟩
  have hb : b = UInt8.ofNat (n / 262144 % 8 + 0xF0) := eq_ofNat (by omega)
  have hb₂ : b₂ = UInt8.ofNat (n / 4096 % 64 + 0x80) := eq_ofNat (by omega)
  have hb₃ : b₃ = UInt8.ofNat (n / 64 % 64 + 0x80) := eq_ofNat (by omega)
  have hb₄ : b₄ = UInt8.ofNat (n % 64 + 0x80) := eq_ofNat (by omega)
  clear hn hleast hgreatest
  rw [utf8EncodeChar_ofNat hvalid, if_neg (by omega), if_neg (by omega), if_neg (by omega), ← hb,
    ← hb₂, ← hb₃, ← hb₄]

private theorem reads_four {n : Nat} (low : 0xFFFF < n) (hvalid : n.isValidChar) :
    Reads (UInt8.ofNat (n / 262144 % 8 + 0xF0))
      [UInt8.ofNat (n / 4096 % 64 + 0x80), UInt8.ofNat (n / 64 % 64 + 0x80),
        UInt8.ofNat (n % 64 + 0x80)] (Char.ofNat n) := by
  have hb := toNat_ofNat (n := n / 262144 % 8 + 0xF0) (by omega)
  have hb₂ := toNat_ofNat (n := n / 4096 % 64 + 0x80) (by omega)
  have hb₃ := toNat_ofNat (n := n / 64 % 64 + 0x80) (by omega)
  have hb₄ := toNat_ofNat (n := n % 64 + 0x80) (by omega)
  have hleast := bound_cases (UInt8.ofNat (n / 262144 % 8 + 0xF0)) 0xF0 0x90 0x80
  have hgreatest := bound_cases (UInt8.ofNat (n / 262144 % 8 + 0xF0)) 0xF4 0x8F 0xBF
  unfold Nat.isValidChar at hvalid
  refine .opened (lead_four (by omega) (by omega)) (.more ?_ (show 3 ≠ 1 by decide)
    (.more (tail_range (by omega)) (Nat.succ_ne_self 1) (.last (tail_range (by omega)) rfl ?_)))
  · rw [UInt8.le_iff_toNat_le, UInt8.le_iff_toNat_le, hb₂]
    simp only [UInt8.reduceToNat, hb] at hleast hgreatest
    constructor <;> dsimp only <;> omega
  · dsimp only
    rw [hb, hb₂, hb₃, hb₄]
    exact congrArg Char.ofNat (by omega)

/-! ### Characters -/

/-- What the automaton reads as a character is the encoding of the character. -/
theorem Reads.eq_encode {b : UInt8} {bs : Bytes} {c : Char} (h : Reads b bs c) :
    b :: bs = String.utf8EncodeChar c := by
  have hkind : b.toNat < 0x80 ∨ 0xC2 ≤ b.toNat ∧ b.toNat < 0xE0 ∨ 0xE0 ≤ b.toNat ∧ b.toNat < 0xF0 ∨
      0xF0 ≤ b.toNat ∧ b.toNat < 0xF5 ∨ (0x80 ≤ b.toNat ∧ b.toNat < 0xC2 ∨ 0xF5 ≤ b.toNat) := by
    omega
  obtain hone | ⟨low, high⟩ | ⟨low, high⟩ | ⟨low, high⟩ | hbroken := hkind
  · cases h with
    | alone hlead =>
        cases (lead_one hone).symm.trans hlead
        rw [utf8EncodeChar_ofNat (Or.inl (by omega)), if_pos (by omega), UInt8.ofNat_toNat]
    | opened hlead rest => cases (lead_one hone).symm.trans hlead
  · cases h with
    | alone hlead => cases (lead_two low high).symm.trans hlead
    | opened hlead rest =>
        cases (lead_two low high).symm.trans hlead
        obtain ⟨b₂, rfl, low₂, high₂, hc⟩ := rest.one rfl
        rw [hc]
        exact (encode_two low high low₂ high₂).symm
  · cases h with
    | alone hlead => cases (lead_three low high).symm.trans hlead
    | opened hlead rest =>
        cases (lead_three low high).symm.trans hlead
        obtain ⟨b₂, _, rfl, low₂, high₂, rest⟩ := rest.next (Nat.succ_ne_self 1)
        obtain ⟨b₃, rfl, low₃, high₃, hc⟩ := rest.one rfl
        rw [hc]
        exact (encode_three low high low₂ high₂ low₃ high₃).symm
  · cases h with
    | alone hlead => cases (lead_four low high).symm.trans hlead
    | opened hlead rest =>
        cases (lead_four low high).symm.trans hlead
        obtain ⟨b₂, _, rfl, low₂, high₂, rest⟩ := rest.next (show 3 ≠ 1 by decide)
        obtain ⟨b₃, _, rfl, low₃, high₃, rest⟩ := rest.next (Nat.succ_ne_self 1)
        obtain ⟨b₄, rfl, low₄, high₄, hc⟩ := rest.one rfl
        rw [hc]
        exact (encode_four low high low₂ high₂ low₃ high₃ low₄ high₄).symm
  · cases h with
    | alone hlead => cases (lead_broken hbroken).symm.trans hlead
    | opened hlead rest => cases (lead_broken hbroken).symm.trans hlead

/-- The encoding of a character is read as that character. -/
theorem reads_encode (c : Char) : ∃ b bs, String.utf8EncodeChar c = b :: bs ∧ Reads b bs c := by
  have hvalid : c.toNat.isValidChar := c.valid
  have hof : c = Char.ofNat c.toNat := (Char.ofNat_toNat c).symm
  have hencode := utf8EncodeChar_ofNat hvalid
  rw [← hof] at hencode
  generalize c.toNat = n at hvalid hof hencode
  subst hof
  by_cases h1 : n ≤ 0x7F
  · rw [if_pos h1] at hencode
    refine ⟨_, _, hencode, .alone ?_⟩
    have hb := toNat_ofNat (n := n) (by omega)
    rw [lead_one (by omega), hb]
  rw [if_neg h1] at hencode
  by_cases h2 : n ≤ 0x7FF
  · rw [if_pos h2] at hencode
    exact ⟨_, _, hencode, reads_two (by omega) h2⟩
  rw [if_neg h2] at hencode
  by_cases h3 : n ≤ 0xFFFF
  · rw [if_pos h3] at hencode
    exact ⟨_, _, hencode, reads_three (by omega) h3 hvalid⟩
  · rw [if_neg h3] at hencode
    exact ⟨_, _, hencode, reads_four (by omega) hvalid⟩

/-! ## Texts -/

/-- The bytes of a piece. -/
def Piece.bytes : Piece → Bytes
  | .scalar c => String.utf8EncodeChar c
  | .broken bs => bs

namespace Decoder

/-- The bytes that a decoder has read. -/
def bytes (d : Decoder) : Bytes :=
  d.found.reverse.flatMap Piece.bytes ++ d.begun.elim [] Begun.taken

/-- **Fitting** — whatever completes the open sequence makes it the encoding of a character. -/
def Fitting (d : Decoder) : Prop :=
  ∀ o, d.begun = some o → ∀ bs c, Completes o bs c → o.taken ++ bs = String.utf8EncodeChar c

theorem flatMap_bytes_cons (p : Piece) (found : List Piece) :
    (p :: found).reverse.flatMap Piece.bytes = found.reverse.flatMap Piece.bytes ++ p.bytes := by
  rw [List.reverse_cons, List.flatMap_append, List.flatMap_singleton]

theorem enter_spec (found : List Piece) (b : UInt8) :
    (enter found b).bytes = found.reverse.flatMap Piece.bytes ++ [b] ∧ (enter found b).Fitting := by
  unfold enter
  cases hlead : lead b with
  | inl p =>
      refine ⟨?_, fun o ho => by cases ho⟩
      have hp : p.bytes = [b] := by
        cases p with
        | scalar c => exact (Reads.alone hlead).eq_encode.symm
        | broken bs =>
            rw [lead_eq] at hlead
            split_ifs at hlead <;> cases hlead <;> rfl
      show (p :: found).reverse.flatMap Piece.bytes ++ [] = _
      rw [flatMap_bytes_cons, hp, List.append_nil]
  | inr o =>
      have htaken : o.taken = [b] := by
        rw [lead_eq] at hlead
        split_ifs at hlead <;> cases hlead <;> rfl
      constructor
      · show found.reverse.flatMap Piece.bytes ++ o.taken = _
        rw [htaken]
      · intro o' ho' bs c h
        obtain rfl : o = o' := Option.some.inj ho'
        rw [htaken]
        exact (Reads.opened hlead h).eq_encode

/-- **step_spec** — a byte that is read is added to the bytes, and the open sequence still fits. -/
theorem step_spec {d : Decoder} (h : d.Fitting) (b : UInt8) :
    (d.step b).bytes = d.bytes ++ [b] ∧ (d.step b).Fitting := by
  unfold step
  cases hbegun : d.begun with
  | none =>
      have hentered := enter_spec d.found b
      refine ⟨?_, hentered.2⟩
      rw [hentered.1, bytes, hbegun]
      show _ = _ ++ [] ++ [b]
      rw [List.append_nil]
  | some o =>
      have hbytes : d.bytes = d.found.reverse.flatMap Piece.bytes ++ o.taken := by
        rw [bytes, hbegun]
        rfl
      have hfits := h o hbegun
      dsimp only
      split_ifs with range missing
      · refine ⟨?_, fun o ho => by cases ho⟩
        have hlast := hfits [b] _ (.last range missing rfl)
        show (_ :: d.found).reverse.flatMap Piece.bytes ++ [] = _
        rw [flatMap_bytes_cons, hbytes, List.append_nil, List.append_assoc, hlast]
        rfl
      · constructor
        · show d.found.reverse.flatMap Piece.bytes ++ (o.taken ++ [b]) = _
          rw [hbytes, List.append_assoc]
        · intro o' ho' bs c hrest
          cases ho'
          rw [List.append_assoc]
          exact hfits (b :: bs) c (.more range missing hrest)
      · have hentered := enter_spec (.broken o.taken :: d.found) b
        refine ⟨?_, hentered.2⟩
        rw [hentered.1, flatMap_bytes_cons, hbytes]
        rfl

theorem foldl_step_spec (bs : Bytes) {d : Decoder} (h : d.Fitting) :
    (bs.foldl step d).bytes = d.bytes ++ bs := by
  induction bs generalizing d with
  | nil => exact (List.append_nil _).symm
  | cons b bs ih =>
      obtain ⟨hbytes, hfits⟩ := step_spec h b
      rw [List.foldl_cons, ih hfits, hbytes, List.append_assoc]
      rfl

end Decoder

/-- **pieces_bytes** — the pieces of a byte sequence make it up. -/
theorem pieces_bytes (bs : Bytes) : (pieces bs).flatMap Piece.bytes = bs := by
  have hread := Decoder.foldl_step_spec bs (d := {}) (fun o ho => by cases ho)
  rw [show ({} : Decoder).bytes = [] from rfl, List.nil_append] at hread
  unfold pieces Decoder.finish
  rw [Decoder.bytes] at hread
  cases hbegun : (bs.foldl Decoder.step {}).begun with
  | none =>
      rw [hbegun] at hread
      exact (List.append_nil _).symm.trans hread
  | some o =>
      rw [hbegun] at hread
      dsimp only
      rw [Decoder.flatMap_bytes_cons]
      exact hread

/-- The pieces of the encoding of a text are its characters. -/
theorem pieces_encode (s : String) : pieces (encode s) = s.toList.map .scalar := by
  have hread : ∀ (cs : List Char) (found : List Piece),
      (cs.flatMap String.utf8EncodeChar).foldl Decoder.step ⟨found, none⟩
        = ⟨(cs.map Piece.scalar).reverse ++ found, none⟩ := by
    intro cs
    induction cs with
    | nil => intro found; rfl
    | cons c cs ih =>
        intro found
        obtain ⟨b, bs, hc, h⟩ := reads_encode c
        rw [List.flatMap_cons, List.foldl_append, hc, h.foldl_step, ih, List.map_cons,
          List.reverse_cons, List.append_assoc]
        rfl
  unfold pieces encode
  rw [hread s.toList []]
  simp [Decoder.finish]

/-- **decode?_eq_some_iff** — bytes are decoded as a text if and only if they are its encoding. -/
theorem decode?_eq_some_iff {bs : Bytes} {s : String} : decode? bs = some s ↔ bs = encode s := by
  have hscalars : ∀ cs : List Char, (cs.map Piece.scalar).mapM Piece.scalar? = some cs := by
    intro cs
    induction cs with
    | nil => rfl
    | cons c cs ih => rw [List.map_cons, List.mapM_cons, ih]; rfl
  constructor
  · intro h
    obtain ⟨cs, hcs, rfl⟩ := Option.map_eq_some_iff.mp h
    have hpieces : ∀ (ps : List Piece) (cs : List Char), ps.mapM Piece.scalar? = some cs →
        ps.flatMap Piece.bytes = cs.flatMap String.utf8EncodeChar := by
      intro ps
      induction ps with
      | nil => intro cs h; cases h; rfl
      | cons p ps ih =>
          intro cs h
          rw [List.mapM_cons] at h
          cases p with
          | broken bs => cases h
          | scalar c =>
              obtain ⟨rest, hrest, h⟩ :
                  ∃ rest, ps.mapM Piece.scalar? = some rest ∧ some (c :: rest) = some cs :=
                Option.bind_eq_some_iff.mp h
              obtain rfl : c :: rest = cs := Option.some.inj h
              rw [List.flatMap_cons, List.flatMap_cons, ih rest hrest]
              rfl
    rw [← pieces_bytes bs, hpieces _ _ hcs, encode, String.toList_ofList]
  · intro h
    rw [h, decode?, pieces_encode, hscalars]
    show some (String.ofList s.toList) = some s
    rw [String.ofList_toList]

/-- **decode_encode** — the encoding of a text is shown as that text. -/
theorem decode_encode (s : String) : decode (encode s) = s := by
  rw [decode, pieces_encode, List.map_map]
  exact (congrArg String.ofList (List.map_id s.toList)).trans String.ofList_toList

theorem encode_append (s t : String) : encode (s ++ t) = encode s ++ encode t := by
  rw [encode, String.toList_append, List.flatMap_append]
  rfl

theorem encode_eq_nil_iff {s : String} : encode s = [] ↔ s = "" := by
  constructor
  · intro h
    rw [← decode_encode s, h]
    rfl
  · intro h
    rw [h]
    rfl

/-- The encoding of a character begins with a byte that tells it from each character of seven bits.
-/
theorem exists_lead_byte (c : Char) :
    ∃ b bs, String.utf8EncodeChar c = b :: bs ∧
      ∀ d : Char, d.toNat < 0x80 → (b = UInt8.ofNat d.toNat ↔ c = d) := by
  obtain ⟨b, bs, hc, hreads⟩ := reads_encode c
  refine ⟨b, bs, hc, fun d hd => ⟨?_, ?_⟩⟩
  · intro hb
    have hlead : lead b = .inl (.scalar d) := by
      rw [hb, lead_one (by rw [toNat_ofNat (by omega)]; exact hd), toNat_ofNat (by omega),
        Char.ofNat_toNat]
    rcases hreads with hlead' | ⟨hlead', -⟩
    · rw [hlead] at hlead'
      cases hlead'
      rfl
    · rw [hlead] at hlead'
      cases hlead'
  · rintro rfl
    have hone : String.utf8EncodeChar c = [UInt8.ofNat c.toNat] := by
      have hencode := utf8EncodeChar_ofNat (n := c.toNat) c.valid
      rw [Char.ofNat_toNat, if_pos (by omega)] at hencode
      exact hencode
    rw [hone] at hc
    exact (List.cons.inj hc).1.symm

end CommandShell.Text
