import CommandShell.Json.Value
import CommandShell.Proofs.Json.Record
import Mathlib.Data.List.Nodup

/-!
# The compact text tells its value

The compact text of a value is one of the texts that tell it: a string is spelled with the escapes
of `escapeChar`, there are no gaps, and the members stand in their declared order.
-/

namespace CommandShell.Json

variable {α : Type}

/-! ## Strings -/

theorem hexValue_digitChar {n : Nat} (hn : n < 16) : hexValue? (Nat.digitChar n) = some n :=
  (by decide : ∀ n < 16, hexValue? (Nat.digitChar n) = some n) n hn

/-- A control character is spelled by its number. -/
theorem hexUnit_control {n : Nat} (hn : n < 0x20) :
    HexUnit ['0', '0', Nat.digitChar (n / 16), Nat.digitChar (n % 16)] n := by
  have unit := HexUnit.mk (hexValue_digitChar (n := 0) (by omega))
    (hexValue_digitChar (n := 0) (by omega)) (hexValue_digitChar (n := n / 16) (by omega))
    (hexValue_digitChar (n := n % 16) (by omega))
  have value : ((0 * 16 + 0) * 16 + n / 16) * 16 + n % 16 = n := by omega
  rwa [value] at unit

/-- What a character is written as spells it. -/
theorem spells_escapeChar (c : Char) {t s : List Char} (rest : Spells t s) :
    Spells (Value.escapeChar c ++ t) (c :: s) := by
  unfold Value.escapeChar
  split_ifs with quote slash back feed line ret tab control
  · exact .letter (by rw [quote]; rfl) rest
  · exact .letter (by rw [slash]; rfl) rest
  · exact .letter (by rw [back]; rfl) rest
  · exact .letter (by rw [feed]; rfl) rest
  · exact .letter (by rw [line]; rfl) rest
  · exact .letter (by rw [ret]; rfl) rest
  · exact .letter (by rw [tab]; rfl) rest
  · have unit := Spells.unit (hexUnit_control control)
      (by simp only [isHighSurrogate, Bool.and_eq_false_iff, decide_eq_false_iff_not]; omega)
      (by simp only [isLowSurrogate, Bool.and_eq_false_iff, decide_eq_false_iff_not]; omega) rest
    rwa [Char.ofNat_toNat] at unit
  · exact .plain ⟨by omega, quote, slash⟩ rest

theorem spells_escape (s : List Char) : Spells (s.flatMap Value.escapeChar) s := by
  induction s with
  | nil => exact .nil
  | cons c s ih => exact spells_escapeChar c ih

theorem toList_stringText (s : String) :
    (Value.stringText s).toList = quoted (s.toList.flatMap Value.escapeChar) :=
  String.toList_ofList

theorem isString_compact (s : String) : IsString s (Value.string s).compact.toList :=
  ⟨_, spells_escape s.toList, toList_stringText s⟩

theorem isBoolean_compact (b : Bool) : IsBoolean b (Value.boolean b).compact.toList := rfl

theorem isNatural_compact (n : Nat) : IsNatural n (Value.number n).compact.toList := rfl

theorem isOptional_compact {IsText : α → List Char → Prop} {f : α → Value}
    (h : ∀ x, IsText x (f x).compact.toList) (x : Option α) :
    IsOptional IsText x (Value.ofOption f x).compact.toList := by
  cases x with
  | none => exact (by decide : "null".toList = ['n', 'u', 'l', 'l'])
  | some x => exact h x

/-! ## Brackets -/

theorem toList_comma : ",".toList = [','] := by decide

theorem toList_brackets : "[".toList = ['['] ∧ "]".toList = [']'] := by decide

theorem toList_braces : "\x7b".toList = ['\x7b'] ∧ "\x7d".toList = ['\x7d'] := by decide

theorem following_flatMap (vs : List (List Char)) :
    Following vs (vs.flatMap fun v => ',' :: v) := by
  induction vs with
  | nil => exact .none Gap.none
  | cons v vs ih => exact .more Gap.none Gap.none ih

theorem intercalate_cons (v : List Char) (vs : List (List Char)) :
    [','].intercalate (v :: vs) = v ++ vs.flatMap fun v => ',' :: v := by
  induction vs generalizing v with
  | nil => simp [List.intercalate]
  | cons u vs ih =>
    rw [List.intercalate_cons_cons, ih, List.flatMap_cons, List.append_assoc]
    rfl

theorem separated_intercalate (vs : List (List Char)) : Separated vs ([','].intercalate vs) := by
  cases vs with
  | nil => exact .none Gap.none
  | cons v vs =>
    rw [intercalate_cons]
    exact .first Gap.none (following_flatMap vs)

theorem compactElements_eq_map (vs : List Value) :
    Value.compactElements vs = vs.map Value.compact := by
  induction vs with
  | nil => rfl
  | cons v vs ih => rw [Value.compactElements, ih, List.map_cons]

/-- The text of a list tells its elements. -/
theorem isList_compact {IsText : α → List Char → Prop} {f : α → Value}
    (h : ∀ x, IsText x (f x).compact.toList) (xs : List α) :
    IsList IsText xs (Value.array (xs.map f)).compact.toList := by
  refine ⟨xs.map fun x => (f x).compact.toList, _, ?_, separated_intercalate _, ?_⟩
  · exact List.forall₂_map_right_iff.mpr (List.forall₂_same.mpr fun x _ => h x)
  · rw [Value.compact, compactElements_eq_map, String.toList_append, String.toList_append,
      String.toList_intercalate, List.map_map, List.map_map, toList_comma,
      toList_brackets.1, toList_brackets.2]
    rfl

/-- A member as it is written. -/
def compactMember (m : String × Value) : String × Member :=
  (m.1, ⟨m.1.toList.flatMap Value.escapeChar, Gap.none, Gap.none, m.2.compact.toList⟩)

theorem toList_compactMembers (ms : List (String × Value)) :
    (Value.compactMembers ms).map String.toList = (ms.map compactMember).map (·.2.text) := by
  induction ms with
  | nil => rfl
  | cons m ms ih =>
    obtain ⟨name, v⟩ := m
    have text : (Value.stringText name ++ ":" ++ v.compact).toList =
        (compactMember (name, v)).2.text := by
      rw [String.toList_append, String.toList_append, toList_stringText,
        (by decide : ":".toList = [':']), List.append_assoc]
      rfl
    rw [Value.compactMembers, List.map_cons, List.map_cons, List.map_cons, ih, text]

/-- Members that are written in the declared order tell all parts. -/
theorem tells_compact {parts : List Part} {ms : List (String × Value)}
    (h : List.Forall₂ (fun p m => p.name = m.1 ∧ p.IsText m.2.compact.toList) parts ms)
    (distinct : (parts.map (·.name)).Nodup) : Tells parts (ms.map compactMember) := by
  have names : (ms.map compactMember).map (·.1) = parts.map (·.name) := by
    rw [List.map_map]
    clear distinct
    induction h with
    | nil => rfl
    | cons one others ih => rw [List.map_cons, List.map_cons, ih, one.1]; rfl
  have paired : ∀ m ∈ ms, ∃ p ∈ parts, p.name = m.1 ∧ p.IsText m.2.compact.toList :=
    fun m hm => exists_partner h.flip hm
  constructor
  case keys =>
    intro m hm
    obtain ⟨m, -, rfl⟩ := List.mem_map.mp hm
    exact spells_escape m.1.toList
  case declared =>
    intro m hm p hp name
    obtain ⟨m, written, rfl⟩ := List.mem_map.mp hm
    obtain ⟨q, hq, called, text⟩ := paired m written
    obtain rfl := List.inj_on_of_nodup_map distinct hp hq (name.trans called.symm)
    exact text
  case undeclared =>
    intro m hm other
    obtain ⟨m, written, rfl⟩ := List.mem_map.mp hm
    obtain ⟨q, hq, called, -⟩ := paired m written
    exact absurd called (other q hq)
  case once =>
    intro p hp
    rw [names]
    exact List.nodup_iff_count_le_one.mp distinct p.name
  case omitted =>
    intro p hp missing
    rw [names] at missing
    exact absurd (List.mem_map_of_mem hp) missing

/-- The text of an object with its members in the declared order tells all parts. -/
theorem isObject_compact {parts : List Part} {ms : List (String × Value)}
    (h : List.Forall₂ (fun p m => p.name = m.1 ∧ p.IsText m.2.compact.toList) parts ms)
    (distinct : (parts.map (·.name)).Nodup) : IsObject parts (Value.object ms).compact.toList := by
  refine ⟨_, _, tells_compact h distinct, separated_intercalate _, ?_⟩
  rw [← toList_compactMembers, Value.compact, String.toList_append, String.toList_append,
    String.toList_intercalate, toList_comma, toList_braces.1, toList_braces.2]
  rfl

end CommandShell.Json
