import CommandShell.Proofs.Text.Utf8
import CommandShell.Session.Stream

/-!
# What bytes are shown as

Bytes that are no text are shown with U+FFFD for each maximal part that is not well-formed. `Shows`
says which characters these are without the automaton that finds them: where the encoding of a
character stands, it is shown as that character, and elsewhere the longest part is replaced that
begins the encoding of some character, or one byte if none does (`MaximalPart`). Bytes are shown in
one way only (`Shows.unique`), and it is the one that decoding gives (`shows_decode`).

A line feed is the encoding of a character and has no place in any other one
(`eq_of_lineFeed_mem`). So no part that is replaced goes over the end of a line: what stands before
a line feed and what stands behind it are shown as they would be alone (`Shows.append_lineFeed`),
and a line feed is shown only where there is one (`Shows.lineFeed_mem`).
-/

namespace CommandShell.Text

/-! ## Parts that are not well-formed -/

/-- **Begins** — some character has an encoding that begins with these bytes. -/
def Begins (bs : Bytes) : Prop := ∃ c : Char, bs <+: String.utf8EncodeChar c

/-- **MaximalPart** — of bytes that do not begin with the encoding of a character, the part that is
replaced and what follows it. -/
structure MaximalPart (part rest : Bytes) : Prop where
  nonempty : part ≠ []
  illFormed : ∀ c : Char, ¬String.utf8EncodeChar c <+: part ++ rest
  /-- It begins an encoding, unless it is a single byte. -/
  begins : Begins part ∨ part.length = 1
  /-- No longer part begins one. -/
  longest : ∀ longer, longer <+: part ++ rest → part.length < longer.length → ¬Begins longer

/-- **Shows** — the characters that bytes are shown as. -/
inductive Shows : Bytes → List Char → Prop
  | nil : Shows [] []
  | scalar {c : Char} {rest : Bytes} {cs : List Char} :
      Shows rest cs → Shows (String.utf8EncodeChar c ++ rest) (c :: cs)
  | broken {part rest : Bytes} {cs : List Char} :
      MaximalPart part rest → Shows rest cs → Shows (part ++ rest) (replacement :: cs)

theorem MaximalPart.length_le {part part' rest rest' : Bytes} (h : MaximalPart part rest)
    (h' : MaximalPart part' rest') (hsame : part ++ rest = part' ++ rest') :
    part'.length ≤ part.length := by
  by_contra hlt
  have hpos : 0 < part.length := List.length_pos_iff.mpr h.nonempty
  rcases h'.begins with hbegins | hone
  · exact h.longest part' (hsame ▸ List.prefix_append part' rest') (by omega) hbegins
  · omega

/-! ## The open sequence -/

/-- A sequence that is open can be completed. -/
theorem exists_completes {o : Begun} (missing : 0 < o.missing) (range : o.low ≤ o.high) :
    ∃ bs c, Completes o bs c := by
  obtain ⟨n, hn⟩ : ∃ n, o.missing = n + 1 := ⟨o.missing - 1, by omega⟩
  induction n generalizing o with
  | zero => exact ⟨[o.low], _, .last ⟨UInt8.le_refl _, range⟩ hn rfl⟩
  | succ n ih =>
      obtain ⟨bs, c, h⟩ := ih (o := ⟨o.taken ++ [o.low], o.missing - 1, 0x80, 0xBF,
        o.value * 64 + (o.low.toNat - 0x80)⟩) (by dsimp only; omega)
        (show (0x80 : UInt8) ≤ 0xBF by decide) (by dsimp only; omega)
      exact ⟨o.low :: bs, c, .more ⟨UInt8.le_refl _, range⟩ (by omega) h⟩

/-- **Faithful** — an open sequence tells which bytes make it the encoding of a character. -/
structure Begun.Faithful (o : Begun) : Prop where
  missing : 0 < o.missing
  range : o.low ≤ o.high
  nonempty : o.taken ≠ []
  completes_iff : ∀ bs c, Completes o bs c ↔ o.taken ++ bs = String.utf8EncodeChar c
  /-- No encoding is complete yet. -/
  incomplete : ∀ c : Char, ¬String.utf8EncodeChar c <+: o.taken

theorem Completes.ne_nil {o : Begun} {bs : Bytes} {c : Char} (h : Completes o bs c) : bs ≠ [] := by
  cases h <;> exact List.cons_ne_nil _ _

theorem Completes.head_range {o : Begun} {b : UInt8} {bs : Bytes} {c : Char}
    (h : Completes o (b :: bs) c) : o.low ≤ b ∧ b ≤ o.high := by
  cases h with
  | last range => exact range
  | more range => exact range

/-- What is read in order to be a character is the encoding of one, and the other way round. -/
theorem reads_iff {b : UInt8} {bs : Bytes} {c : Char} :
    Reads b bs c ↔ b :: bs = String.utf8EncodeChar c := by
  constructor
  · exact Reads.eq_encode
  · intro h
    obtain ⟨b', bs', hc, hreads⟩ := reads_encode c
    obtain ⟨rfl, rfl⟩ := List.cons.inj (h.trans hc)
    exact hreads

/-- Bounds that are special ones for two different lead bytes. -/
private theorem ite_le_ite {b x y low low' high high' : UInt8} (hxy : x ≠ y) (h : low ≤ high')
    (h' : low' ≤ high) (h'' : low' ≤ high') :
    (if b = x then low else low') ≤ (if b = y then high else high') := by
  by_cases hx : b = x
  · rw [if_pos hx, if_neg (hx ▸ hxy)]
    exact h
  · rw [if_neg hx]
    split_ifs
    · exact h'
    · exact h''

theorem lead_inr {b : UInt8} {o : Begun} (h : lead b = .inr o) :
    o.taken = [b] ∧ 0 < o.missing ∧ o.low ≤ o.high := by
  have hthree : (if b = 0xE0 then 0xA0 else 0x80 : UInt8) ≤ if b = 0xED then 0x9F else 0xBF :=
    ite_le_ite (by decide) (by decide) (by decide) (by decide)
  have hfour : (if b = 0xF0 then 0x90 else 0x80 : UInt8) ≤ if b = 0xF4 then 0x8F else 0xBF :=
    ite_le_ite (by decide) (by decide) (by decide) (by decide)
  unfold lead at h
  split at h
  · cases h
  split at h
  · cases h
  split at h
  · cases h
    exact ⟨rfl, Nat.one_pos, show (0x80 : UInt8) ≤ 0xBF by decide⟩
  split at h
  · cases h
    exact ⟨rfl, Nat.two_pos, hthree⟩
  split at h
  · cases h
    exact ⟨rfl, Nat.succ_pos 2, hfour⟩
  · cases h

theorem lead_inl {b : UInt8} {p : Piece} (h : lead b = .inl p) :
    (∃ c, p = .scalar c) ∨ p = .broken [b] := by
  unfold lead at h
  split_ifs at h <;> cases h
  · exact .inl ⟨_, rfl⟩
  · exact .inr rfl
  · exact .inr rfl

/-- A lead byte opens a sequence that is faithful. -/
theorem faithful_of_lead {b : UInt8} {o : Begun} (h : lead b = .inr o) : o.Faithful := by
  obtain ⟨htaken, hmissing, hrange⟩ := lead_inr h
  have hiff : ∀ bs c, Completes o bs c ↔ o.taken ++ bs = String.utf8EncodeChar c := by
    intro bs c
    rw [htaken, List.singleton_append, ← reads_iff]
    constructor
    · exact .opened h
    · intro hreads
      rcases hreads with hlead | ⟨hlead, hrest⟩
      · cases h.symm.trans hlead
      · cases h.symm.trans hlead
        exact hrest
  refine ⟨hmissing, hrange, by simp [htaken], hiff, ?_⟩
  intro c hprefix
  -- An encoding within the lead byte would be the lead byte, but more bytes are missing.
  obtain ⟨more, hmore⟩ := hprefix
  rw [htaken] at hmore
  have hc : String.utf8EncodeChar c = [b] := by
    rcases List.append_eq_singleton_iff.mp hmore with ⟨hnil, -⟩ | ⟨hone, -⟩
    · exact absurd hnil String.utf8EncodeChar_ne_nil
    · exact hone
  have hcompletes := (hiff [] c).mpr (by rw [htaken, hc]; rfl)
  exact hcompletes.ne_nil rfl

/-- A byte that continues the sequence leaves it faithful. -/
theorem Begun.Faithful.next {o : Begun} (h : o.Faithful) {b : UInt8}
    (range : o.low ≤ b ∧ b ≤ o.high) (missing : o.missing ≠ 1) :
    Begun.Faithful ⟨o.taken ++ [b], o.missing - 1, 0x80, 0xBF,
      o.value * 64 + (b.toNat - 0x80)⟩ := by
  have hpos := h.missing
  have hiff : ∀ bs c, Completes ⟨o.taken ++ [b], o.missing - 1, 0x80, 0xBF,
      o.value * 64 + (b.toNat - 0x80)⟩ bs c ↔ o.taken ++ [b] ++ bs = String.utf8EncodeChar c := by
    intro bs c
    rw [List.append_assoc, List.singleton_append, ← h.completes_iff]
    constructor
    · exact .more range missing
    · intro hcompletes
      cases hcompletes with
      | last _ missing' => exact absurd missing' missing
      | more _ _ rest => exact rest
  refine ⟨by dsimp only; omega, show (0x80 : UInt8) ≤ 0xBF by decide, by simp, hiff, ?_⟩
  intro c hprefix
  rcases List.prefix_concat_iff.mp hprefix with hc | hprefix
  · have hcompletes := (hiff [] c).mpr (by rw [List.append_nil, hc])
    exact hcompletes.ne_nil rfl
  · exact h.incomplete c hprefix

/-- Where an open sequence cannot go on, its bytes are a maximal part. -/
theorem Begun.Faithful.maximalPart {o : Begun} (h : o.Faithful) {rest : Bytes}
    (hrest : ∀ b bs, rest = b :: bs → ¬(o.low ≤ b ∧ b ≤ o.high)) : MaximalPart o.taken rest := by
  -- No encoding goes on from the bytes that were taken to those that follow.
  have hstuck : ∀ c more, more ≠ [] → more <+: rest → o.taken ++ more <+: String.utf8EncodeChar c →
      False := by
    rintro c more hne ⟨after, hafter⟩ ⟨tail, htail⟩
    obtain ⟨b, bs, rfl⟩ := List.exists_cons_of_ne_nil hne
    rw [List.append_assoc, ← h.completes_iff] at htail
    exact hrest b (bs ++ after) hafter.symm htail.head_range
  obtain ⟨bs, c, hcompletes⟩ := exists_completes h.missing h.range
  have hbegins : Begins o.taken := ⟨c, bs, (h.completes_iff bs c).mp hcompletes⟩
  refine ⟨h.nonempty, ?_, .inl hbegins, ?_⟩
  · rintro c ⟨after, hafter⟩
    rcases List.append_eq_append_iff.mp hafter with ⟨short, hshort, -⟩ | ⟨more, hc, hmore⟩
    · exact h.incomplete c ⟨short, hshort.symm⟩
    · refine hstuck c more ?_ ⟨after, hmore.symm⟩ (hc ▸ List.prefix_refl _)
      rintro rfl
      exact h.incomplete c ⟨[], by rw [hc, List.append_nil, List.append_nil]⟩
  · rintro longer ⟨after, hafter⟩ hlength ⟨c, hc⟩
    rcases List.append_eq_append_iff.mp hafter with ⟨short, hshort, -⟩ | ⟨more, rfl, hmore⟩
    · rw [hshort, List.length_append] at hlength
      omega
    · refine hstuck c more ?_ ⟨after, hmore.symm⟩ hc
      rintro rfl
      simp at hlength

/-! ## What decoding finds -/

namespace Decoder

/-- What was found before does not matter to what is found next. -/
theorem step_found (found : List Piece) (begun : Option Begun) (b : UInt8) :
    step ⟨found, begun⟩ b =
      ⟨(step ⟨[], begun⟩ b).found ++ found, (step ⟨[], begun⟩ b).begun⟩ := by
  have henter : ∀ before found : List Piece,
      enter (before ++ found) b = ⟨(enter before b).found ++ found, (enter before b).begun⟩ := by
    intro before found
    unfold enter
    cases lead b <;> rfl
  unfold step
  cases begun with
  | none => exact henter [] found
  | some o =>
      dsimp only
      split_ifs
      · rfl
      · rfl
      · exact henter [.broken o.taken] found

/-- **piecesFrom** — the pieces that are found after a sequence that may be open. -/
def piecesFrom (begun : Option Begun) (bs : Bytes) : List Piece :=
  (bs.foldl step ⟨[], begun⟩).finish

theorem finish_foldl (bs : Bytes) (found : List Piece) (begun : Option Begun) :
    (bs.foldl step ⟨found, begun⟩).finish = found.reverse ++ piecesFrom begun bs := by
  unfold piecesFrom
  induction bs generalizing found begun with
  | nil => cases begun <;> simp [finish]
  | cons b bs ih =>
      rw [List.foldl_cons, List.foldl_cons, step_found, ih, ih (step ⟨[], begun⟩ b).found,
        List.reverse_append, List.append_assoc]

theorem piecesFrom_cons (begun : Option Begun) (b : UInt8) (bs : Bytes) :
    piecesFrom begun (b :: bs) = (step ⟨[], begun⟩ b).found.reverse ++
      piecesFrom (step ⟨[], begun⟩ b).begun bs :=
  finish_foldl bs _ _

end Decoder

open Decoder

/-- A byte that begins no encoding is a maximal part. -/
theorem maximalPart_of_lead {b : UInt8} (h : lead b = .inl (.broken [b])) (rest : Bytes) :
    MaximalPart [b] rest := by
  have hnone : ∀ c more, b :: more ≠ String.utf8EncodeChar c := by
    intro c more hc
    rcases reads_iff.mpr hc with hlead | ⟨hlead, -⟩ <;> cases h.symm.trans hlead
  refine ⟨List.cons_ne_nil _ _, ?_, .inr rfl, ?_⟩
  · rintro c ⟨after, hafter⟩
    obtain ⟨b', bs, hc⟩ := List.exists_cons_of_ne_nil (String.utf8EncodeChar_ne_nil (c := c))
    rw [hc] at hafter
    obtain ⟨rfl, -⟩ := List.cons.inj hafter
    exact hnone c bs hc.symm
  · rintro longer ⟨after, hafter⟩ hlength ⟨c, more, hmore⟩
    obtain ⟨b', bs, rfl⟩ : ∃ b' bs, longer = b' :: bs := by
      apply List.exists_cons_of_ne_nil
      rintro rfl
      simp at hlength
    obtain ⟨rfl, -⟩ := List.cons.inj hafter
    exact hnone c (bs ++ more) hmore

/-- The pieces that are found are shown as the bytes are, from a sequence that may be open on. -/
theorem shows_piecesFrom (bs : Bytes) :
    Shows bs ((piecesFrom none bs).map Piece.shown) ∧
      ∀ o : Begun, o.Faithful →
        Shows (o.taken ++ bs) ((piecesFrom (some o) bs).map Piece.shown) := by
  induction bs with
  | nil =>
      refine ⟨.nil, fun o ho => ?_⟩
      have hpart : MaximalPart o.taken [] := ho.maximalPart fun b bs h => by cases h
      exact .broken hpart .nil
  | cons b bs ih =>
      obtain ⟨ihnone, ihsome⟩ := ih
      have hnone : Shows (b :: bs) ((piecesFrom none (b :: bs)).map Piece.shown) := by
        rw [piecesFrom_cons]
        show Shows _ (((enter [] b).found.reverse ++ piecesFrom (enter [] b).begun bs).map _)
        unfold enter
        cases hlead : lead b with
        | inl p =>
            rcases lead_inl hlead with ⟨c, rfl⟩ | rfl
            · have hshows := Shows.scalar (c := c) ihnone
              rw [← reads_iff.mp (.alone hlead)] at hshows
              exact hshows
            · exact .broken (maximalPart_of_lead hlead bs) ihnone
        | inr o =>
            have hshows := ihsome o (faithful_of_lead hlead)
            rw [(lead_inr hlead).1] at hshows
            exact hshows
      refine ⟨hnone, fun o ho => ?_⟩
      by_cases range : o.low ≤ b ∧ b ≤ o.high
      · by_cases missing : o.missing = 1
        · have hstep : step ⟨[], some o⟩ b =
              ⟨[.scalar (Char.ofNat (o.value * 64 + (b.toNat - 0x80)))], none⟩ := by
            simp [step, range, missing]
          have hc := (ho.completes_iff [b] _).mp (.last range missing rfl)
          rw [piecesFrom_cons, hstep, ← List.singleton_append, ← List.append_assoc, hc]
          exact .scalar ihnone
        · have hstep : step ⟨[], some o⟩ b =
              ⟨[], some ⟨o.taken ++ [b], o.missing - 1, 0x80, 0xBF,
                o.value * 64 + (b.toNat - 0x80)⟩⟩ := by
            simp [step, range, missing]
          have hshows := ihsome _ (ho.next range missing)
          rw [piecesFrom_cons, hstep, ← List.singleton_append, ← List.append_assoc]
          exact hshows
      · -- The byte ends the sequence and is read on its own.
        have hpart : MaximalPart o.taken (b :: bs) := ho.maximalPart fun b' bs' h => by
          cases h
          exact range
        have hstep : step ⟨[], some o⟩ b = enter [.broken o.taken] b := by
          simp only [step, if_neg range]
        have hpieces : piecesFrom (some o) (b :: bs) =
            .broken o.taken :: piecesFrom none (b :: bs) := by
          show ((b :: bs).foldl step ⟨[], some o⟩).finish = _
          rw [List.foldl_cons, hstep]
          exact finish_foldl (b :: bs) [.broken o.taken] none
        rw [hpieces]
        exact .broken hpart hnone

/-- **shows_decode** — bytes are shown as the characters that decoding gives. -/
theorem shows_decode (bs : Bytes) : Shows bs (decode bs).toList := by
  rw [decode, String.toList_ofList]
  exact (shows_piecesFrom bs).1

/-! ## One way only -/

/-- An encoding that stands before other bytes is found. -/
theorem pieces_encodeChar_append (c : Char) (rest : Bytes) :
    pieces (String.utf8EncodeChar c ++ rest) = .scalar c :: pieces rest := by
  obtain ⟨b, bs, hc, hreads⟩ := reads_encode c
  rw [pieces, List.foldl_append, hc, hreads.foldl_step, finish_foldl]
  rfl

theorem Shows.of_nil {cs : List Char} (h : Shows [] cs) : cs = [] := by
  generalize hbs : ([] : Bytes) = bs at h
  cases h with
  | nil => rfl
  | scalar =>
      obtain ⟨hnil, -⟩ := List.append_eq_nil_iff.mp hbs.symm
      exact absurd hnil String.utf8EncodeChar_ne_nil
  | broken hpart =>
      obtain ⟨hnil, -⟩ := List.append_eq_nil_iff.mp hbs.symm
      exact absurd hnil hpart.nonempty

/-- Bytes are shown as some character. -/
theorem Shows.ne_nil {bs : Bytes} {cs : List Char} (h : Shows bs cs) (hbs : bs ≠ []) : cs ≠ [] := by
  cases h with
  | nil => exact absurd rfl hbs
  | scalar => exact List.cons_ne_nil _ _
  | broken => exact List.cons_ne_nil _ _

/-- **Shows.unique** — there are no two ways to show bytes. -/
theorem Shows.unique {bs : Bytes} {cs cs' : List Char} (h : Shows bs cs) (h' : Shows bs cs') :
    cs = cs' := by
  induction h generalizing cs' with
  | nil => rw [h'.of_nil]
  | @scalar c rest cs _ ih =>
      generalize hbs : String.utf8EncodeChar c ++ rest = bs at h'
      cases h' with
      | nil =>
          obtain ⟨hnil, -⟩ := List.append_eq_nil_iff.mp hbs
          exact absurd hnil String.utf8EncodeChar_ne_nil
      | @scalar c' rest' cs' h' =>
          -- The character at the beginning is the one that is found there.
          have hpieces := congrArg pieces hbs
          rw [pieces_encodeChar_append, pieces_encodeChar_append, List.cons.injEq,
            Piece.scalar.injEq] at hpieces
          obtain ⟨rfl, -⟩ := hpieces
          obtain rfl := List.append_cancel_left hbs
          rw [ih h']
      | broken hpart => exact absurd ⟨rest, hbs⟩ (hpart.illFormed c)
  | @broken part rest cs hpart _ ih =>
      generalize hbs : part ++ rest = bs at h'
      cases h' with
      | nil =>
          obtain ⟨hnil, -⟩ := List.append_eq_nil_iff.mp hbs
          exact absurd hnil hpart.nonempty
      | @scalar c' rest' cs' h' => exact absurd ⟨rest', hbs.symm⟩ (hpart.illFormed c')
      | @broken part' rest' cs' hpart' h' =>
          have hlength := Nat.le_antisymm (hpart'.length_le hpart hbs.symm)
            (hpart.length_le hpart' hbs)
          obtain ⟨rfl, rfl⟩ := List.append_inj hbs hlength
          rw [ih h']

/-! ## Line feeds -/

private theorem lineFeed_ne_ofNat {n : Nat} (h : 0x80 ≤ n) (h' : n < 0x100) :
    lineFeed ≠ UInt8.ofNat n := by
  intro heq
  have hn : (UInt8.ofNat n).toNat = n := UInt8.toNat_ofNat_of_lt h'
  have hfeed : lineFeed.toNat = 10 := rfl
  rw [← heq] at hn
  omega

/-- No encoding has a line feed in it but that of the line feed. -/
theorem eq_of_lineFeed_mem {c : Char} (h : lineFeed ∈ String.utf8EncodeChar c) : c = '\n' := by
  have hlt : c.val.toNat < 0x110000 := by
    have hvalid := c.valid
    unfold UInt32.isValidChar Nat.isValidChar at hvalid
    omega
  unfold String.utf8EncodeChar at h
  dsimp only at h
  split_ifs at h with hone
  · have hc : (UInt8.ofNat c.val.toNat).toNat = c.val.toNat :=
      UInt8.toNat_ofNat_of_lt (show _ < 256 by omega)
    rw [← List.mem_singleton.mp h] at hc
    exact Char.ext (UInt32.toNat_inj.mp hc.symm)
  -- All bytes of a longer encoding are greater.
  all_goals
    simp only [List.mem_cons, List.not_mem_nil, or_false] at h
    exfalso
  · rcases h with h | h <;> exact lineFeed_ne_ofNat (by omega) (by omega) h
  · rcases h with h | h | h <;> exact lineFeed_ne_ofNat (by omega) (by omega) h
  · rcases h with h | h | h | h <;> exact lineFeed_ne_ofNat (by omega) (by omega) h

/-- What begins an encoding does not go over a line feed. -/
theorem Begins.prefix_of_lineFeed {xs ys bs : Bytes} (h : Begins xs) (hys : ys ≠ [])
    (hxs : xs <+: ys ++ lineFeed :: bs) : xs <+: ys := by
  obtain ⟨after, hafter⟩ := hxs
  rcases List.append_eq_append_iff.mp hafter with ⟨more, hmore, -⟩ | ⟨tail, rfl, htail⟩
  · exact ⟨more, hmore.symm⟩
  · cases tail with
    | nil => exact (List.append_nil ys).symm ▸ List.prefix_refl ys
    | cons b tail =>
        -- The line feed would stand in the encoding behind other bytes.
        exfalso
        obtain ⟨rfl, -⟩ := List.cons.inj htail
        obtain ⟨c, more, hc⟩ := h
        have hfeed : c = '\n' := eq_of_lineFeed_mem (by rw [← hc]; simp)
        rw [hfeed] at hc
        have hlength := congrArg List.length hc
        rw [List.length_append, List.length_append, List.length_cons] at hlength
        have hpos := List.length_pos_iff.mpr hys
        have hone : (String.utf8EncodeChar '\n').length = 1 := rfl
        omega

/-- A part that is replaced is a maximal one whatever follows the next line feed. -/
theorem MaximalPart.append_lineFeed {part rest : Bytes} (h : MaximalPart part rest) (bs : Bytes) :
    MaximalPart part (rest ++ lineFeed :: bs) := by
  have hne : part ++ rest ≠ [] := fun hnil => h.nonempty (List.append_eq_nil_iff.mp hnil).1
  refine ⟨h.nonempty, ?_, h.begins, ?_⟩
  · intro c hc
    rw [← List.append_assoc] at hc
    exact h.illFormed c (Begins.prefix_of_lineFeed ⟨c, List.prefix_refl _⟩ hne hc)
  · intro longer hlonger hlength hbegins
    rw [← List.append_assoc] at hlonger
    exact h.longest longer (hbegins.prefix_of_lineFeed hne hlonger) hlength hbegins

/-- **Shows.append_lineFeed** — what stands before a line feed and what stands behind it are shown
as they would be alone. -/
theorem Shows.append_lineFeed {as bs : Bytes} {cs ds : List Char} (has : Shows as cs)
    (hbs : Shows bs ds) : Shows (as ++ lineFeed :: bs) (cs ++ '\n' :: ds) := by
  induction has with
  | nil => exact .scalar (c := '\n') hbs
  | scalar _ ih =>
      rw [List.append_assoc]
      exact .scalar ih
  | broken hpart _ ih =>
      rw [List.append_assoc]
      exact .broken (hpart.append_lineFeed bs) ih

/-- A line feed is shown only where there is one. -/
theorem Shows.lineFeed_mem {bs : Bytes} {cs : List Char} (h : Shows bs cs) (hcs : '\n' ∈ cs) :
    lineFeed ∈ bs := by
  induction h with
  | nil => cases hcs
  | scalar _ ih =>
      rcases List.mem_cons.mp hcs with rfl | hcs
      · exact List.mem_append_left _ (List.mem_singleton_self lineFeed)
      · exact List.mem_append_right _ (ih hcs)
  | broken _ _ ih =>
      rcases List.mem_cons.mp hcs with hfeed | hcs
      · exact absurd hfeed (by decide)
      · exact List.mem_append_right _ (ih hcs)

end CommandShell.Text
