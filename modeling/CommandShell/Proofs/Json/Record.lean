import CommandShell.Proofs.Json.Readers

/-!
# Records are read from objects in any order

An object tells the `Part`s of a record: under the name of each part stands one of the texts that
its value may have, or the part is left out if it may be. `IsObject` allows the members in any order
and other members, with any values, between them.

`Follows` is what a record has to fulfil: there is a value for every set of names that were given
already, each field takes it from one such value to the next, and in the end it is the value that is
told. The members of the object are then read one after the other, and each turn keeps that the
value so far is the one for the names so far (`membersFrom_turn`).
-/

namespace CommandShell.Json

variable {α σ : Type}

/-- **Part** — a part of a record: its name, the texts of its value, and whether it may be left
out. -/
structure Part where
  name : String
  IsText : List Char → Prop
  mayOmit : Prop

/-- **Tells** — members that tell all parts, each at most once, in any order and with others between
them. -/
structure Tells (parts : List Part) (ms : List (String × Member)) : Prop where
  keys : ∀ m ∈ ms, Spells m.2.key m.1.toList
  declared : ∀ m ∈ ms, ∀ p ∈ parts, p.name = m.1 → p.IsText m.2.value
  undeclared : ∀ m ∈ ms, (∀ p ∈ parts, p.name ≠ m.1) → IsValue m.2.value
  once : ∀ p ∈ parts, (ms.map (·.1)).count p.name ≤ 1
  omitted : ∀ p ∈ parts, p.name ∉ ms.map (·.1) → p.mayOmit

/-- **IsObject** — the text of an object that tells some parts. -/
def IsObject (parts : List Part) (t : List Char) : Prop :=
  ∃ ms t', Tells parts ms ∧ Separated (ms.map (·.2.text)) t' ∧ t = '\x7b' :: (t' ++ ['\x7d'])

theorem IsObject.begins {parts : List Part} {t : List Char} (h : IsObject parts t) : Begins t := by
  obtain ⟨ms, t', -, -, rfl⟩ := h
  exact ⟨'\x7b', _, rfl, by decide, by decide⟩

/-! ## The positions between members -/

namespace Cursor

/-- At the closing brace the object ends. -/
theorem member_end (first : Bool) (w : Gap) (rest : List Char) (o : Nat) :
    ∃ o', member first ⟨w.text ++ '\x7d' :: rest, o⟩ = .ok (false, ⟨'\x7d' :: rest, o'⟩) := by
  obtain ⟨o₁, space⟩ := skipSpace_gap w (show isSpace '\x7d' = false by rfl) rest o
  exact ⟨o₁, by simp only [member, space]⟩

/-- At the beginning the first member follows. -/
theorem member_first (m : Member) (w : Gap) (rest : List Char) (o : Nat) :
    ∃ o', member true ⟨w.text ++ (m.text ++ rest), o⟩ = .ok (true, ⟨m.text ++ rest, o'⟩) := by
  obtain ⟨o₁, space⟩ := skipSpace_of_begins m.begins w rest o
  refine ⟨o₁, ?_⟩
  simp only [member, space]
  rfl

/-- Behind a comma another member follows. -/
theorem member_comma (m : Member) (w w' : Gap) (rest : List Char) (o : Nat) :
    ∃ o', member false ⟨w.text ++ ',' :: (w'.text ++ (m.text ++ rest)), o⟩ =
      .ok (true, ⟨m.text ++ rest, o'⟩) := by
  obtain ⟨o₁, space⟩ := skipSpace_gap w (show isSpace ',' = false by rfl)
    (w'.text ++ (m.text ++ rest)) o
  obtain ⟨o₂, space'⟩ := skipSpace_of_begins m.begins w' rest (o₁ + Char.utf8Size ',')
  refine ⟨o₂, ?_⟩
  simp only [member, space, Bool.false_eq_true, if_false, next, space']
  rfl

theorem colon_gap (w : Gap) (rest : List Char) (o : Nat) :
    ∃ o', colon ⟨w.text ++ ':' :: rest, o⟩ = .ok ⟨rest, o'⟩ := by
  obtain ⟨o₁, space⟩ := skipSpace_gap w (show isSpace ':' = false by rfl) rest o
  exact ⟨o₁ + Char.utf8Size ':', by simp only [colon, space, next]⟩

end Cursor

/-! ## What a record has to fulfil -/

namespace Record

/-- **Serves** — a field reads the texts of a part, and takes the value for some names to the value
for one name more. -/
structure Serves (partly : List String → σ) (f : Field σ) (p : Part) : Prop where
  name : f.name = p.name
  needed : f.needed = true → ¬p.mayOmit
  read : ∀ seen t, p.IsText t →
    ∃ set, Reads f.read t set ∧ set (partly seen) = partly (f.name :: seen)

/-- **Follows** — a record that comes to the value `x` over the values for the names so far. -/
structure Follows (r : Record σ) (parts : List Part) (partly : List String → σ) (x : σ) : Prop where
  serves : List.Forall₂ (Serves partly) r.fields parts
  start : partly [] = r.blank
  whole : ∀ seen, (∀ p ∈ parts, p.name ∉ seen → p.mayOmit) → partly seen = x

section Serve

variable {partly : List String → σ} {p : Part} {name : String} {r : Reader α} {put : α → σ → σ}
  {x : α}

theorem serves_optional (called : name = p.name) (reads : ∀ t, p.IsText t → Reads r t x)
    (step : ∀ seen, put x (partly seen) = partly (name :: seen)) :
    Serves partly (.optional name r put) p where
  name := called
  needed := by simp [Field.optional]
  read seen t text :=
    ⟨put x, fun size w rest hsize ends => (reads t text size w rest hsize ends).map put, step seen⟩

theorem serves_required (called : name = p.name) (must : ¬p.mayOmit)
    (reads : ∀ t, p.IsText t → Reads r t x)
    (step : ∀ seen, put x (partly seen) = partly (name :: seen)) :
    Serves partly (.required name r put) p where
  name := called
  needed _ := must
  read seen t text :=
    ⟨put x, fun size w rest hsize ends => (reads t text size w rest hsize ends).map put, step seen⟩

end Serve

theorem names_of_serves {partly : List String → σ} {fields : List (Field σ)} {parts : List Part}
    (serves : List.Forall₂ (Serves partly) fields parts) :
    fields.map (·.name) = parts.map (·.name) := by
  induction serves with
  | nil => rfl
  | cons one others ih => rw [List.map_cons, List.map_cons, one.name, ih]

/-! ## Turns -/

/-- **Remain** — what is still told when some names were given already. -/
structure Remain (parts : List Part) (seen : List String) (ms : List (String × Member)) : Prop where
  keys : ∀ m ∈ ms, Spells m.2.key m.1.toList
  declared : ∀ m ∈ ms, ∀ p ∈ parts, p.name = m.1 → p.IsText m.2.value
  undeclared : ∀ m ∈ ms, (∀ p ∈ parts, p.name ≠ m.1) → IsValue m.2.value
  once : ∀ p ∈ parts, (ms.map (·.1) ++ seen).count p.name ≤ 1
  omitted : ∀ p ∈ parts, p.name ∉ ms.map (·.1) ++ seen → p.mayOmit

theorem Remain.start {parts : List Part} {ms : List (String × Member)} (h : Tells parts ms) :
    Remain parts [] ms where
  keys := h.keys
  declared := h.declared
  undeclared := h.undeclared
  once p hp := by rw [List.append_nil]; exact h.once p hp
  omitted p hp := by rw [List.append_nil]; exact h.omitted p hp

section Turns

variable {parts : List Part} {seen : List String} {m : String × Member}
  {ms : List (String × Member)}

/-- A declared member that was read counts as given. -/
theorem Remain.given (h : Remain parts seen (m :: ms)) : Remain parts (m.1 :: seen) ms where
  keys n hn := h.keys n (List.mem_cons_of_mem m hn)
  declared n hn := h.declared n (List.mem_cons_of_mem m hn)
  undeclared n hn := h.undeclared n (List.mem_cons_of_mem m hn)
  once p hp := by
    have once := h.once p hp
    rwa [List.map_cons, List.cons_append, ← List.perm_middle.count_eq] at once
  omitted p hp fresh := by
    refine h.omitted p hp ?_
    rwa [List.map_cons, List.cons_append, ← List.perm_middle.mem_iff]

/-- A member with another name changes nothing. -/
theorem Remain.passed (h : Remain parts seen (m :: ms)) (other : ∀ p ∈ parts, p.name ≠ m.1) :
    Remain parts seen ms where
  keys n hn := h.keys n (List.mem_cons_of_mem m hn)
  declared n hn := h.declared n (List.mem_cons_of_mem m hn)
  undeclared n hn := h.undeclared n (List.mem_cons_of_mem m hn)
  once p hp := by
    have once := h.once p hp
    rwa [List.map_cons, List.cons_append, List.count_cons_of_ne (other p hp).symm] at once
  omitted p hp fresh := by
    refine h.omitted p hp ?_
    rw [List.map_cons, List.cons_append, List.mem_cons, not_or]
    exact ⟨other p hp, fresh⟩

/-- A declared name that is still told was not given. -/
theorem Remain.fresh (h : Remain parts seen (m :: ms)) {p : Part} (hp : p ∈ parts)
    (name : p.name = m.1) : m.1 ∉ seen := by
  intro given
  have once := h.once p hp
  rw [List.map_cons, List.cons_append, name, List.count_cons_self, List.count_append] at once
  have positive := List.count_pos_iff.mpr given
  omega

variable {r : Record σ} {partly : List String → σ} {x : σ} {size : Nat}

/-- The key and the colon of a member are passed over, and its name is known. -/
theorem string_member (key : Spells m.2.key m.1.toList) (hsize : m.2.text.length ≤ size)
    (rest : List Char) (o : Nat) :
    ∃ o₁ o₂, Cursor.string size (Cursor.next ⟨m.2.text ++ rest, o⟩) =
        .ok (m.1, ⟨m.2.before.text ++ ':' :: (m.2.after.text ++ (m.2.value ++ rest)), o₁⟩) ∧
      Cursor.colon ⟨m.2.before.text ++ ':' :: (m.2.after.text ++ (m.2.value ++ rest)), o₁⟩ =
        .ok ⟨m.2.after.text ++ m.2.value ++ rest, o₂⟩ := by
  have short : m.2.key.length < size := by simp [Member.text, quoted] at hsize; omega
  obtain ⟨o₁, read⟩ := Cursor.string_spells key short
    (m.2.before.text ++ ':' :: (m.2.after.text ++ (m.2.value ++ rest))) (o + Char.utf8Size '"')
  obtain ⟨o₂, colon⟩ := Cursor.colon_gap m.2.before (m.2.after.text ++ (m.2.value ++ rest)) o₁
  refine ⟨o₁, o₂, ?_, by rw [List.append_assoc]; exact colon⟩
  rw [String.ofList_toList] at read
  have whole : m.2.text ++ rest = '"' :: (m.2.key ++ ['"'] ++
      (m.2.before.text ++ ':' :: (m.2.after.text ++ (m.2.value ++ rest)))) := by
    simp [Member.text, quoted]
  rw [whole]
  exact read

/-- **membersFrom_turn** — one turn reads one member, and the value is still the one for the names
so far. -/
theorem membersFrom_turn (follows : Follows r parts partly x) (remain : Remain parts seen (m :: ms))
    (hsize : m.2.text.length ≤ size) {rest : List Char} (ends : Ends rest) {first : Bool}
    {c : Cursor} {o : Nat} (more : c.member first = .ok (true, ⟨m.2.text ++ rest, o⟩)) :
    ∃ seen' o', Remain parts seen' ms ∧ ∀ fuel,
      r.membersFrom size (fuel + 1) first seen (partly seen) c =
        r.membersFrom size fuel false seen' (partly seen') ⟨rest, o'⟩ := by
  have short : m.2.value.length ≤ size := by simp [Member.text] at hsize; omega
  obtain ⟨o₁, o₂, key, colon⟩ := string_member (remain.keys m List.mem_cons_self) hsize rest o
  rcases found : r.fields.find? fun f => f.name == m.1 with _ | f
  · -- no field has the name: the value is passed over
    have other : ∀ p ∈ parts, p.name ≠ m.1 := by
      intro p hp name
      have named : m.1 ∈ r.fields.map (·.name) := by
        rw [names_of_serves follows.serves, ← name]
        exact List.mem_map_of_mem hp
      obtain ⟨f, hf, hn⟩ := List.mem_map.mp named
      exact List.find?_eq_none.mp found f hf (beq_iff_eq.mpr hn)
    obtain ⟨o₃, skipped⟩ := Cursor.skipValue_value (remain.undeclared m List.mem_cons_self other)
      m.2.after short ends o₂
    refine ⟨seen, o₃, remain.passed other, fun fuel => ?_⟩
    rw [membersFrom, more]
    simp only [placed, Except.mapError, bind, Except.bind, if_true, key, found, colon, skipped]
  · -- a field has the name: it reads the value
    have hf := List.mem_of_find?_eq_some found
    have name : f.name = m.1 := by simpa using List.find?_some found
    obtain ⟨p, hp, serves⟩ := exists_partner follows.serves hf
    have called : p.name = m.1 := serves.name.symm.trans name
    have fresh := remain.fresh hp called
    obtain ⟨set, reads, next⟩ := serves.read seen m.2.value
      (remain.declared m List.mem_cons_self p hp called)
    obtain ⟨o₃, read⟩ := reads size m.2.after rest short ends o₂
    refine ⟨m.1 :: seen, o₃, remain.given, fun fuel => ?_⟩
    rw [membersFrom, more]
    rw [name] at next
    have notSeen : seen.contains m.1 = false := by simpa using fresh
    simp only [placed, Except.mapError, bind, Except.bind, if_true, key, found, notSeen,
      Bool.false_eq_true, if_false, colon, read, next]

/-- At the closing brace everything was told. -/
theorem membersFrom_end (follows : Follows r parts partly x) (remain : Remain parts seen [])
    {rest : List Char} {first : Bool} {c : Cursor} {o : Nat}
    (ended : c.member first = .ok (false, ⟨'\x7d' :: rest, o⟩)) (fuel : Nat) :
    r.membersFrom size (fuel + 1) first seen (partly seen) c = .ok (x, ⟨'\x7d' :: rest, o⟩) := by
  have nothing : r.missing? seen = none := by
    rw [missing?, Option.map_eq_none_iff, List.find?_eq_none]
    intro f hf missing
    obtain ⟨p, hp, serves⟩ := exists_partner follows.serves hf
    rw [Bool.and_eq_true, Bool.not_eq_true', List.contains_eq_mem, decide_eq_false_iff_not,
      serves.name] at missing
    exact serves.needed missing.1 (remain.omitted p hp missing.2)
  rw [membersFrom, ended, follows.whole seen remain.omitted]
  simp only [placed, Except.mapError, bind, Except.bind, Bool.false_eq_true, if_false, nothing]

/-- The members that follow are read one after the other. -/
theorem membersFrom_following (follows : Follows r parts partly x) {vs : List (List Char)}
    {t : List Char} (layout : Following vs t) (texts : vs = ms.map (·.2.text))
    (remain : Remain parts seen ms) (hsize : t.length ≤ size) (rest : List Char) {fuel : Nat}
    (hfuel : t.length < fuel) :
    Yields (r.membersFrom size fuel false seen (partly seen)) t ('\x7d' :: rest) x := by
  induction layout generalizing ms seen fuel with
  | none w =>
    obtain rfl := List.map_eq_nil_iff.mp texts.symm
    intro o
    obtain ⟨fuel, rfl⟩ := Nat.exists_eq_add_one.mpr (Nat.zero_lt_of_lt hfuel)
    obtain ⟨o', ended⟩ := Cursor.member_end false w rest o
    exact ⟨o', membersFrom_end follows remain ended fuel⟩
  | @more w w' v t vs layout ih =>
    obtain ⟨m, ms, rfl, rfl, rfl⟩ := List.map_eq_cons_iff.mp texts.symm
    intro o
    simp only [List.length_append, List.length_cons] at hsize hfuel
    obtain ⟨fuel, rfl⟩ := Nat.exists_eq_add_one.mpr (show 0 < fuel by omega)
    obtain ⟨o₁, more⟩ := Cursor.member_comma m.2 w w' (t ++ '\x7d' :: rest) o
    obtain ⟨seen', o₂, remain, turn⟩ := membersFrom_turn follows remain (show _ ≤ size by omega)
      (layout.ends (by simp) rest) more
    obtain ⟨o', read⟩ := ih rfl remain (by omega) (show t.length < fuel by omega) o₂
    refine ⟨o', ?_⟩
    have whole : w.text ++ ',' :: (w'.text ++ (m.2.text ++ t)) ++ '\x7d' :: rest =
        w.text ++ ',' :: (w'.text ++ (m.2.text ++ (t ++ '\x7d' :: rest))) := by simp
    rw [whole, turn, read]

/-- The members between the braces are read one after the other. -/
theorem membersFrom_separated (follows : Follows r parts partly x) {t : List Char}
    (layout : Separated (ms.map (·.2.text)) t) (tells : Tells parts ms) (hsize : t.length ≤ size)
    (rest : List Char) {fuel : Nat} (hfuel : t.length < fuel) :
    Yields (r.membersFrom size fuel true [] r.blank) t ('\x7d' :: rest) x := by
  have remain := Remain.start tells
  rw [← follows.start]
  generalize texts : ms.map (·.2.text) = vs at layout
  intro o
  obtain ⟨fuel, rfl⟩ := Nat.exists_eq_add_one.mpr (Nat.zero_lt_of_lt hfuel)
  cases layout with
  | none w =>
    obtain rfl := List.map_eq_nil_iff.mp texts
    obtain ⟨o', ended⟩ := Cursor.member_end true w rest o
    exact ⟨o', membersFrom_end follows remain ended fuel⟩
  | @first w v t vs layout =>
    obtain ⟨m, ms, rfl, rfl, rfl⟩ := List.map_eq_cons_iff.mp texts
    simp only [List.length_append] at hsize hfuel
    have nonempty : 0 < m.2.text.length := by
      obtain ⟨y, t', cons, -⟩ := m.2.begins
      rw [cons]
      exact Nat.succ_pos _
    obtain ⟨o₁, more⟩ := Cursor.member_first m.2 w (t ++ '\x7d' :: rest) o
    obtain ⟨seen', o₂, remain, turn⟩ := membersFrom_turn follows remain (show _ ≤ size by omega)
      (layout.ends (by simp) rest) more
    obtain ⟨o', read⟩ := membersFrom_following follows layout rfl remain (show _ ≤ size by omega)
      rest (show t.length < fuel by omega) o₂
    refine ⟨o', ?_⟩
    have whole : w.text ++ (m.2.text ++ t) ++ '\x7d' :: rest =
        w.text ++ (m.2.text ++ (t ++ '\x7d' :: rest)) := by simp
    rw [whole, turn, read]

/-- **reads_record** — a record is read from an object that tells its parts. -/
theorem reads_record (follows : Follows r parts partly x) {t : List Char} (h : IsObject parts t) :
    Reads r.reader t x := by
  have begins := h.begins
  obtain ⟨ms, t, tells, layout, rfl⟩ := h
  intro size w rest hsize _ o
  simp only [List.length_cons, List.length_append, List.length_nil] at hsize
  obtain ⟨o₁, space⟩ := Cursor.skipSpace_of_begins begins w rest o
  obtain ⟨o₂, read⟩ := membersFrom_separated follows layout tells (show t.length ≤ size by omega)
    rest (show t.length < size by omega) (o₁ + Char.utf8Size '\x7b')
  refine ⟨o₂ + Char.utf8Size '\x7d', ?_⟩
  simp only [List.append_assoc, reader, space]
  have whole : '\x7b' :: (t ++ ['\x7d']) ++ rest = '\x7b' :: (t ++ '\x7d' :: rest) := by simp
  have inside : r.membersFrom size size true [] r.blank
      (Cursor.next ⟨'\x7b' :: (t ++ '\x7d' :: rest), o₁⟩) = .ok (x, ⟨'\x7d' :: rest, o₂⟩) := read
  simp only [whole, inside]
  rfl

end Turns

end Record

end CommandShell.Json
