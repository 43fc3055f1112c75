import CommandShell.Json.Reader
import Mathlib.Data.List.Forall2

/-!
# Records that are read alike

Two records can be read from the same texts and keep different things of them. The second is read
**through** the first by a function `φ` if it comes to `φ x` wherever the first comes to `x`, at the
same position, and fails wherever the first fails, in the same way.

It is enough that this is so field by field: the fields have the same names in the same order, and
what a field puts into the second record is what `φ` makes of it in the first
(`Record.Through.reader`).
-/

namespace CommandShell.Json

variable {α β σ τ : Type}

/-- **Reader.Through** — a reader that comes to the image of what another one reads. -/
def Reader.Through (φ : α → β) (r : Reader α) (r' : Reader β) : Prop :=
  ∀ size c, r' size c = (r size c).map (Prod.map φ id)

theorem Reader.Through.refl (r : Reader α) : Reader.Through id r r := by
  intro size c
  cases r size c <;> rfl

/-- **Field.Through** — a field that reads what another one reads and puts the image of it. -/
structure Field.Through (φ : σ → τ) (f : Field σ) (f' : Field τ) : Prop where
  name : f'.name = f.name
  needed : f'.needed = f.needed
  failure : ∀ {size c e}, f.read size c = .error e → f'.read size c = .error e
  value : ∀ {size c set c'}, f.read size c = .ok (set, c') →
    ∃ set', f'.read size c = .ok (set', c') ∧ ∀ x, set' (φ x) = φ (set x)

/-- A field that may be left out is read through another one if its values are, and are put where
the others are. -/
theorem Field.through_optional {φ : σ → τ} {ψ : α → β} {r : Reader α} {r' : Reader β}
    (name : String) {put : α → σ → σ} {put' : β → τ → τ} (reads : Reader.Through ψ r r')
    (puts : ∀ a x, put' (ψ a) (φ x) = φ (put a x)) :
    Field.Through φ (.optional name r put) (.optional name r' put') where
  name := rfl
  needed := rfl
  failure {size c e} h := by
    simp only [Field.optional, reads size c] at h ⊢
    cases hr : r size c with
    | error f =>
        rw [hr] at h
        cases h
        rfl
    | ok read =>
        rw [hr] at h
        cases h
  value {size c set c'} h := by
    simp only [Field.optional, reads size c] at h ⊢
    cases hr : r size c with
    | error f =>
        rw [hr] at h
        cases h
    | ok read =>
        rw [hr] at h
        cases h
        exact ⟨put' (ψ read.1), rfl, fun x => puts read.1 x⟩

namespace Record

/-- **Record.Through** — a record each of whose fields is read through one of another record. -/
structure Through (φ : σ → τ) (r : Record σ) (r' : Record τ) : Prop where
  called : r'.called = r.called
  fields : List.Forall₂ (Field.Through φ) r.fields r'.fields
  blank : r'.blank = φ r.blank

variable {φ : σ → τ} {r : Record σ} {r' : Record τ}

/-- A field that is looked for by its name, and by whether it must be given, is found in both
records or in neither. -/
theorem find?_through (p : String → Bool → Bool) {fields : List (Field σ)}
    {fields' : List (Field τ)} (h : List.Forall₂ (Field.Through φ) fields fields') :
    Option.Rel (Field.Through φ) (fields.find? fun f => p f.name f.needed)
      (fields'.find? fun f => p f.name f.needed) := by
  induction h with
  | nil => exact .none
  | cons one others ih =>
      rw [List.find?_cons, List.find?_cons, one.name, one.needed]
      split
      · exact .some one
      · exact ih

theorem Through.missing? (h : r.Through φ r') (seen : List String) :
    r'.missing? seen = r.missing? seen := by
  have hfind := find?_through (fun name needed => needed && !seen.contains name) h.fields
  unfold Record.missing?
  generalize r.fields.find? _ = found at hfind ⊢
  generalize r'.fields.find? _ = found' at hfind ⊢
  cases hfind with
  | none => rfl
  | some one => exact congrArg some one.name

/-- What is read first is the same for both records. -/
theorem placed_bind_through {y : Except Failure α} {g : α → Except Trouble (σ × Cursor)}
    {g' : α → Except Trouble (τ × Cursor)} (h : ∀ a, g' a = (g a).map (Prod.map φ id)) :
    (placed y >>= g') = (placed y >>= g).map (Prod.map φ id) := by
  cases y with
  | error e => rfl
  | ok a => exact h a

/-- A field is read next, and then both records go on with what it puts. -/
theorem placed_read_bind_through {f : Field σ} {f' : Field τ} (one : Field.Through φ f f')
    {size : Nat} {c : Cursor} {g : (σ → σ) × Cursor → Except Trouble (σ × Cursor)}
    {g' : (τ → τ) × Cursor → Except Trouble (τ × Cursor)}
    (h : ∀ set set' c, (∀ x, set' (φ x) = φ (set x)) →
      g' (set', c) = (g (set, c)).map (Prod.map φ id)) :
    (placed (f'.read size c) >>= g') =
      (placed (f.read size c) >>= g).map (Prod.map φ id) := by
  cases hread : f.read size c with
  | error e =>
      rw [one.failure hread]
      rfl
  | ok read =>
      obtain ⟨set, c'⟩ := read
      obtain ⟨set', hread', hset⟩ := one.value hread
      rw [hread']
      exact h set set' c' hset

/-- The members of an object are read through those that the other record reads. -/
theorem Through.membersFrom (h : r.Through φ r') (size fuel : Nat) (first : Bool)
    (seen : List String) (x : σ) (c : Cursor) :
    r'.membersFrom size fuel first seen (φ x) c =
      (r.membersFrom size fuel first seen x c).map (Prod.map φ id) := by
  induction fuel generalizing first seen x c with
  | zero => rfl
  | succ fuel ih =>
      rw [Record.membersFrom, Record.membersFrom]
      refine placed_bind_through fun (more, c) => ?_
      cases more with
      | false =>
          simp only [Bool.false_eq_true, if_false, h.missing?]
          cases r.missing? seen <;> rfl
      | true =>
          refine placed_bind_through fun (key, c) => ?_
          have hfind := find?_through (fun name _ => name == key) h.fields
          dsimp only
          generalize r.fields.find? _ = found at hfind ⊢
          generalize r'.fields.find? _ = found' at hfind ⊢
          cases hfind with
          | none =>
              -- No field has the name: the value is passed over.
              refine placed_bind_through fun c => ?_
              exact placed_bind_through fun c => ih _ _ _ _
          | some one =>
              dsimp only
              split
              · rfl
              · refine placed_bind_through fun c => ?_
                refine placed_read_bind_through one fun set set' c hset => ?_
                dsimp only
                rw [hset]
                exact ih _ _ _ _

/-- The elements of an array are read through those that the other record reads. -/
theorem Through.elementsFrom (h : r.Through φ r') (size : Nat) {fields : List (Field σ)}
    {fields' : List (Field τ)} (hfields : List.Forall₂ (Field.Through φ) fields fields')
    (index : Nat) (first : Bool) (x : σ) (c : Cursor) :
    r'.elementsFrom size fields' index first (φ x) c =
      (r.elementsFrom size fields index first x c).map (Prod.map φ id) := by
  induction hfields generalizing index first x c with
  | nil => rfl
  | cons one others ih =>
      rw [Record.elementsFrom, Record.elementsFrom]
      refine placed_bind_through fun (more, c) => ?_
      cases more with
      | true =>
          refine placed_read_bind_through one fun set set' c hset => ?_
          dsimp only
          rw [hset]
          exact ih _ _ _ _
      | false =>
          dsimp only
          rw [one.needed, h.called, ← h.fields.length_eq]
          split
          · contradiction
          · split
            · rfl
            · exact ih _ _ _ _

/-- A value of another kind is the same fault for both records. -/
theorem unexpected_map (f : α → β) (size : Nat) (expected : String) (c : Cursor) :
    (c.unexpected size expected : Except Failure (β × Cursor)) =
      (c.unexpected size expected).map (Prod.map f id) := by
  unfold Cursor.unexpected
  dsimp only
  split
  · cases c.next.word ['u', 'l', 'l'] <;> rfl
  · cases c.next.word ['r', 'u', 'e'] <;> rfl
  · cases c.next.word ['a', 'l', 's', 'e'] <;> rfl
  · cases c.next.number true <;> rfl
  · cases c.next.string size <;> rfl
  · rfl
  · rfl
  · split
    · cases c.number false <;> rfl
    · rfl
  · rfl

/-- **Through.reader** — records that are read alike field by field are read alike. -/
theorem Through.reader (h : r.Through φ r') : Reader.Through φ r.reader r'.reader := by
  intro size c
  unfold Record.reader
  dsimp only
  split
  · rfl
  · rw [h.blank, h.elementsFrom size h.fields]
    cases r.elementsFrom size r.fields 0 true r.blank c.skipSpace.next with
    | ok read =>
        obtain ⟨x, c⟩ := read
        show (c.endList.map ((φ x, ·)) : Except Failure _) = (c.endList.map ((x, ·))).map _
        cases c.endList <;> rfl
    | error e => cases e <;> rfl
  · rw [h.blank, h.membersFrom]
    cases r.membersFrom size size true [] r.blank c.skipSpace.next with
    | ok read => rfl
    | error e => cases e <;> rfl
  · rw [h.called]
    exact unexpected_map φ size r.called _

end Record

/-- A text that holds one value is read through another reader, too. -/
theorem Reader.Through.read {φ : α → β} {r : Reader α} {r' : Reader β} (h : Reader.Through φ r r')
    (source : String) : Json.read r' source = (Json.read r source).map φ := by
  unfold Json.read
  dsimp only
  rw [h]
  cases r ((Cursor.start source).rest.length + 1) (Cursor.start source) with
  | error e => rfl
  | ok read =>
      simp only [Except.map, bind, Except.bind, Prod.map, id]
      cases read.2.skipSpace.rest.isEmpty <;> rfl

end CommandShell.Json
