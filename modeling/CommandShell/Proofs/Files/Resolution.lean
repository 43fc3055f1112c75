import CommandShell.Files.Tree
import CommandShell.Proofs.Text.Words
import Mathlib.Data.List.Nodup

/-!
# Where a path leads in a tree

`Follows` says which location a path leads to, and over how many links, without a limit for them:
`.` and empty parts stay, `..` goes up, a link is replaced by its target. Resolving a path finds
that location if the links are not too many and the path is none that the system refuses
(`walk_eq_ok_iff`, `resolve_eq_ok_iff`).

A way is the only one (`Follows.unique`), and it can be cut at each of its parts
(`Follows.append_iff`). So what stands at the path of an entry of a directory is known from the
directory and the entry: the entry is a file, or a link that leads to one (`Offers`). The system
finds it there if the links are not too many and the path is not too long (`isFile_join_iff`).
-/

namespace CommandShell.Files

open CommandShell.Text

/-! ## Parts of paths -/

namespace Path

/-- **IsName** — a part of a path that names an entry of a directory. -/
structure IsName (c : Bytes) : Prop where
  ne_nil : c ≠ []
  ne_here : c ≠ here
  ne_above : c ≠ above
  short : c.length ≤ Tree.nameLimit

instance (c : Bytes) : Decidable (IsName c) :=
  decidable_of_iff (c ≠ [] ∧ c ≠ here ∧ c ≠ above ∧ c.length ≤ Tree.nameLimit)
    ⟨fun ⟨hnil, hhere, habove, hshort⟩ => ⟨hnil, hhere, habove, hshort⟩,
      fun h => ⟨h.ne_nil, h.ne_here, h.ne_above, h.short⟩⟩

theorem parts_of_name {name : Bytes} (h : separator ∉ name) : parts name = [name] := by
  apply splitOn_of_none
  intro x hx
  rw [beq_eq_false_iff_ne]
  rintro rfl
  exact h hx

/-- The path of an entry has the parts of the directory, of which an empty last one does not count,
and the name of the entry. -/
theorem parts_join {d : Path} {name : Bytes} (hd : d.bytes ≠ []) (hname : separator ∉ name) :
    ∃ front, parts (d.join name).bytes = front ++ [name] ∧
      (parts d.bytes = front ∨ parts d.bytes = front ++ [[]]) := by
  have hcut : ∀ bs : Bytes, parts (bs ++ separator :: name) = parts bs ++ [name] := by
    intro bs
    rw [← parts_of_name hname]
    exact splitOn_append_of_pos (p := (· == separator)) (beq_self_eq_true _) bs name
  by_cases hlast : d.bytes.getLast? = some separator
  · obtain ⟨front, hfront⟩ := List.getLast?_eq_some_iff.mp hlast
    refine ⟨parts front, ?_, .inr ?_⟩
    · rw [← hcut front]
      unfold join
      rw [if_pos (by simp [hlast]), hfront, List.append_assoc]
      rfl
    · rw [hfront]
      exact splitOn_append_of_pos (p := (· == separator)) (beq_self_eq_true _) front []
  · refine ⟨parts d.bytes, ?_, .inl rfl⟩
    rw [← hcut d.bytes]
    unfold join
    rw [if_neg (by simp [hd, hlast])]

theorem isAbsolute_join {d : Path} (hd : d.bytes ≠ []) (name : Bytes) :
    (d.join name).isAbsolute = d.isAbsolute := by
  obtain ⟨b, bs, hbs⟩ := List.exists_cons_of_ne_nil hd
  unfold isAbsolute join
  split <;> rw [hbs] <;> rfl

theorem join_ne_nil {d : Path} (hd : d.bytes ≠ []) (name : Bytes) : (d.join name).bytes ≠ [] := by
  unfold join
  split <;> exact List.append_ne_nil_of_left_ne_nil hd _

/-- No byte of the path of an entry is zero if none is in the directory and the name. -/
theorem zero_mem_join {d : Path} {name : Bytes} :
    0 ∈ (d.join name).bytes ↔ 0 ∈ d.bytes ∨ 0 ∈ name := by
  unfold join
  split
  · exact List.mem_append
  · rw [List.mem_append, List.mem_cons]
    simp [separator]

end Path

namespace Tree

variable {t : Tree} {base l : Location} {n : Nat}

/-! ## Ways -/

/-- **Follows** — parts of a path lead from one location to another over a number of links. -/
inductive Follows (t : Tree) : Location → List Bytes → Nat → Location → Prop
  | done (l : Location) : Follows t l [] 0 l
  | stay {base l : Location} {c : Bytes} {rest : List Bytes} {n : Nat}
      (inside : t.isDirectory base = true) (same : c = [] ∨ c = Path.here)
      (onward : Follows t base rest n l) : Follows t base (c :: rest) n l
  | up {base l : Location} {rest : List Bytes} {n : Nat} (inside : t.isDirectory base = true)
      (onward : Follows t base.dropLast rest n l) : Follows t base (Path.above :: rest) n l
  | down {base l : Location} {c : Bytes} {node : Node} {rest : List Bytes} {n : Nat}
      (inside : t.isDirectory base = true) (named : Path.IsName c)
      (found : t.node? (base ++ [c]) = some node) (plain : ∀ target, node ≠ .link target)
      (onward : Follows t (base ++ [c]) rest n l) : Follows t base (c :: rest) n l
  | link {base l : Location} {c : Bytes} {target : Path} {rest : List Bytes} {n : Nat}
      (inside : t.isDirectory base = true) (named : Path.IsName c)
      (found : t.node? (base ++ [c]) = some (.link target))
      (onward : Follows t (origin base target) (Path.parts target.bytes ++ rest) n l) :
      Follows t base (c :: rest) (n + 1) l

/-- A walk goes down to an entry that is no link. -/
theorem walk_of_plain {c : Bytes} {node : Node} (links : Nat) (inside : t.isDirectory base = true)
    (named : Path.IsName c) (found : t.node? (base ++ [c]) = some node)
    (plain : ∀ target, node ≠ .link target) (rest : List Bytes) :
    t.walk links base (c :: rest) = t.walk links (base ++ [c]) rest := by
  rw [walk, if_neg (by simp [inside]), if_neg (not_or.mpr ⟨named.ne_nil, named.ne_here⟩),
    if_neg named.ne_above, if_neg (Nat.not_lt.mpr named.short)]
  cases node with
  | link target => exact absurd rfl (plain target)
  | file content => simp only [found]
  | directory => simp only [found]

/-- A walk goes on from the target of a link. -/
theorem walk_of_link {c : Bytes} {target : Path} (links : Nat) (inside : t.isDirectory base = true)
    (named : Path.IsName c) (found : t.node? (base ++ [c]) = some (.link target))
    (rest : List Bytes) :
    t.walk (links + 1) base (c :: rest) =
      t.walk links (origin base target) (Path.parts target.bytes ++ rest) := by
  rw [walk, if_neg (by simp [inside]), if_neg (not_or.mpr ⟨named.ne_nil, named.ne_here⟩),
    if_neg named.ne_above, if_neg (Nat.not_lt.mpr named.short)]
  simp only [found]

/-- A walk that comes to an end has followed no more links than it may. -/
theorem Follows.of_walk {links : Nat} {todo : List Bytes} (h : t.walk links base todo = .ok l) :
    ∃ n ≤ links, t.Follows base todo n l := by
  induction links, base, todo using walk.induct t with
  | case1 links base =>
      rw [walk] at h
      obtain rfl := Except.ok.inj h
      exact ⟨0, Nat.zero_le _, .done base⟩
  | case2 links base c rest outside =>
      rw [walk, if_pos outside] at h
      cases h
  | case3 links base c rest inside same ih =>
      rw [walk, if_neg inside, if_pos same] at h
      obtain ⟨n, hn, onward⟩ := ih h
      exact ⟨n, hn, .stay (by simpa using inside) same onward⟩
  | case4 links base rest inside same ih =>
      rw [walk, if_neg inside, if_neg same, if_pos rfl] at h
      obtain ⟨n, hn, onward⟩ := ih h
      exact ⟨n, hn, .up (by simpa using inside) onward⟩
  | case5 links base c rest inside same above long =>
      rw [walk, if_neg inside, if_neg same, if_neg above, if_pos long] at h
      cases h
  | case6 links base c rest inside same above long missing =>
      rw [walk, if_neg inside, if_neg same, if_neg above, if_neg long, missing] at h
      cases h
  | case7 base c rest inside same above long target found =>
      rw [walk, if_neg inside, if_neg same, if_neg above, if_neg long, found] at h
      cases h
  | case8 base c rest inside same above long target found links ih =>
      have named : Path.IsName c := ⟨fun hc => same (.inl hc), fun hc => same (.inr hc), above,
        Nat.not_lt.mp long⟩
      have hinside : t.isDirectory base = true := by simpa using inside
      rw [walk_of_link links hinside named found] at h
      obtain ⟨n, hn, onward⟩ := ih h
      exact ⟨n + 1, Nat.succ_le_succ hn, .link hinside named found onward⟩
  | case9 links base c rest inside same above long node plain found ih =>
      have named : Path.IsName c := ⟨fun hc => same (.inl hc), fun hc => same (.inr hc), above,
        Nat.not_lt.mp long⟩
      have hinside : t.isDirectory base = true := by simpa using inside
      rw [walk_of_plain links hinside named found plain] at h
      obtain ⟨n, hn, onward⟩ := ih h
      exact ⟨n, hn, .down hinside named found plain onward⟩

/-- With enough links left, a walk comes to the end of the way. -/
theorem Follows.walk {todo : List Bytes} (h : t.Follows base todo n l) {links : Nat}
    (hn : n ≤ links) : t.walk links base todo = .ok l := by
  induction h generalizing links with
  | done l => rw [Tree.walk]
  | stay inside same _ ih =>
      rw [Tree.walk, if_neg (by simp [inside]), if_pos same]
      exact ih hn
  | up inside _ ih =>
      rw [Tree.walk, if_neg (by simp [inside]), if_neg (by decide), if_pos rfl]
      exact ih hn
  | down inside named found plain _ ih =>
      rw [walk_of_plain links inside named found plain]
      exact ih hn
  | link inside named found _ ih =>
      cases links with
      | zero => exact absurd hn (Nat.not_succ_le_zero _)
      | succ links =>
          rw [walk_of_link links inside named found]
          exact ih (Nat.le_of_succ_le_succ hn)

theorem walk_eq_ok_iff {links : Nat} {todo : List Bytes} :
    t.walk links base todo = .ok l ↔ ∃ n ≤ links, t.Follows base todo n l :=
  ⟨Follows.of_walk, fun ⟨_, hn, h⟩ => h.walk hn⟩

/-- The parts of a path lead to one location, over one number of links. -/
theorem Follows.unique {todo : List Bytes} {n' : Nat} {l' : Location} (h : t.Follows base todo n l)
    (h' : t.Follows base todo n' l') : n = n' ∧ l = l' := by
  induction h generalizing n' l' with
  | done l =>
      cases h' with
      | done => exact ⟨rfl, rfl⟩
  | stay _ same _ ih =>
      cases h' with
      | stay _ _ onward => exact ih onward
      | up => exact absurd same (by decide)
      | down _ named => exact absurd same (not_or.mpr ⟨named.ne_nil, named.ne_here⟩)
      | link _ named => exact absurd same (not_or.mpr ⟨named.ne_nil, named.ne_here⟩)
  | up _ _ ih =>
      cases h' with
      | stay _ same => exact absurd same (by decide)
      | up _ onward => exact ih onward
      | down _ named => exact absurd rfl named.ne_above
      | link _ named => exact absurd rfl named.ne_above
  | down _ named found plain _ ih =>
      cases h' with
      | stay _ same => exact absurd same (not_or.mpr ⟨named.ne_nil, named.ne_here⟩)
      | up => exact absurd rfl named.ne_above
      | down _ _ _ _ onward => exact ih onward
      | link _ _ found' => exact absurd (Option.some.inj (found.symm.trans found')) (plain _)
  | link _ named found _ ih =>
      cases h' with
      | stay _ same => exact absurd same (not_or.mpr ⟨named.ne_nil, named.ne_here⟩)
      | up => exact absurd rfl named.ne_above
      | down _ _ found' plain => exact absurd (Option.some.inj (found'.symm.trans found)) (plain _)
      | link _ _ found' onward =>
          cases found.symm.trans found'
          obtain ⟨rfl, rfl⟩ := ih onward
          exact ⟨rfl, rfl⟩

/-! ## Cutting a way -/

theorem Follows.append {mid : Location} {xs ys : List Bytes} {m k : Nat}
    (h : t.Follows base xs m mid) (h' : t.Follows mid ys k l) :
    t.Follows base (xs ++ ys) (m + k) l := by
  induction h with
  | done l =>
      rw [Nat.zero_add]
      exact h'
  | stay inside same _ ih => exact .stay inside same (ih h')
  | up inside _ ih => exact .up inside (ih h')
  | down inside named found plain _ ih => exact .down inside named found plain (ih h')
  | link inside named found _ ih =>
      rw [Nat.add_right_comm]
      have hrest := ih h'
      rw [List.append_assoc] at hrest
      exact .link inside named found hrest

theorem Follows.cut_at_start {todo ys : List Bytes} (h : t.Follows base todo n l)
    (hcut : todo = [] ++ ys) :
    ∃ mid m k, t.Follows base [] m mid ∧ t.Follows mid ys k l ∧ n = m + k := by
  obtain rfl : todo = ys := hcut
  exact ⟨base, 0, n, .done base, h, (Nat.zero_add n).symm⟩

theorem Follows.of_append {todo : List Bytes} (h : t.Follows base todo n l) {xs ys : List Bytes}
    (hcut : todo = xs ++ ys) :
    ∃ mid m k, t.Follows base xs m mid ∧ t.Follows mid ys k l ∧ n = m + k := by
  induction h generalizing xs with
  | done l =>
      obtain ⟨rfl, rfl⟩ := List.append_eq_nil_iff.mp hcut.symm
      exact ⟨l, 0, 0, .done l, .done l, rfl⟩
  | @stay base l c rest n inside same onward ih =>
      cases xs with
      | nil => exact (Follows.stay inside same onward).cut_at_start hcut
      | cons x xs =>
          obtain ⟨rfl, hrest⟩ := List.cons.inj hcut
          obtain ⟨mid, m, k, hto, hfrom, rfl⟩ := ih hrest
          exact ⟨mid, m, k, .stay inside same hto, hfrom, rfl⟩
  | @up base l rest n inside onward ih =>
      cases xs with
      | nil => exact (Follows.up inside onward).cut_at_start hcut
      | cons x xs =>
          obtain ⟨rfl, hrest⟩ := List.cons.inj hcut
          obtain ⟨mid, m, k, hto, hfrom, rfl⟩ := ih hrest
          exact ⟨mid, m, k, .up inside hto, hfrom, rfl⟩
  | @down base l c node rest n inside named found plain onward ih =>
      cases xs with
      | nil => exact (Follows.down inside named found plain onward).cut_at_start hcut
      | cons x xs =>
          obtain ⟨rfl, hrest⟩ := List.cons.inj hcut
          obtain ⟨mid, m, k, hto, hfrom, rfl⟩ := ih hrest
          exact ⟨mid, m, k, .down inside named found plain hto, hfrom, rfl⟩
  | @link base l c target rest n inside named found onward ih =>
      cases xs with
      | nil => exact (Follows.link inside named found onward).cut_at_start hcut
      | cons x xs =>
          obtain ⟨rfl, hrest⟩ := List.cons.inj hcut
          -- The target stands before what is left of both parts.
          have htarget :
              Path.parts target.bytes ++ rest = (Path.parts target.bytes ++ xs) ++ ys := by
            rw [hrest, List.append_assoc]
            rfl
          obtain ⟨mid, m, k, hto, hfrom, rfl⟩ := ih htarget
          exact ⟨mid, m + 1, k, .link inside named found hto, hfrom, Nat.add_right_comm m k 1⟩

theorem Follows.append_iff {xs ys : List Bytes} :
    t.Follows base (xs ++ ys) n l ↔
      ∃ mid m k, t.Follows base xs m mid ∧ t.Follows mid ys k l ∧ n = m + k := by
  constructor
  · intro h
    exact h.of_append rfl
  · rintro ⟨mid, m, k, hto, hfrom, rfl⟩
    exact hto.append hfrom

/-! ## Paths -/

/-- **Opens** — a path leads to a location over a number of links, and the system takes it. -/
structure Opens (t : Tree) (p : Path) (n : Nat) (l : Location) : Prop where
  whole : 0 ∉ p.bytes
  ne_nil : p.bytes ≠ []
  short : p.bytes.length ≤ pathLimit
  follows : t.Follows (origin t.start p) (Path.parts p.bytes) n l
  few : n ≤ linkLimit

theorem Opens.unique {p : Path} {n' : Nat} {l' : Location} (h : t.Opens p n l)
    (h' : t.Opens p n' l') : n = n' ∧ l = l' := h.follows.unique h'.follows

theorem resolve_eq_ok_iff {p : Path} : t.resolve p = .ok l ↔ ∃ n, t.Opens p n l := by
  unfold resolve
  constructor
  · intro h
    split at h
    · cases h
    · rename_i whole
      split at h
      · cases h
      · rename_i ne_nil
        split at h
        · cases h
        · rename_i short
          cases hwalk : t.walk linkLimit (origin t.start p) (Path.parts p.bytes) with
          | error e =>
              rw [hwalk] at h
              cases h
          | ok l' =>
              rw [hwalk] at h
              obtain rfl : l' = l := Except.ok.inj h
              obtain ⟨n, few, follows⟩ := walk_eq_ok_iff.mp hwalk
              exact ⟨n, whole, ne_nil, Nat.not_lt.mp short, follows, few⟩
  · rintro ⟨n, whole, ne_nil, short, follows, few⟩
    rw [if_neg whole, if_neg ne_nil, if_neg (Nat.not_lt.mpr short), follows.walk few]
    rfl

theorem opened_eq_file_iff {p : Path} {content : Bytes} :
    t.opened p = .ok (.file content) ↔
      ∃ n l, t.Opens p n l ∧ t.node? l = some (.file content) := by
  unfold opened
  constructor
  · intro h
    cases hp : t.resolve p with
    | error e =>
        rw [hp] at h
        cases h
    | ok l =>
        simp only [hp] at h
        obtain ⟨n, hopens⟩ := resolve_eq_ok_iff.mp hp
        split at h
        · rename_i found hnode
          obtain rfl := Opened.file.inj (Except.ok.inj h)
          exact ⟨n, l, hopens, hnode⟩
        · cases h
        · cases h
  · rintro ⟨n, l, hopens, hnode⟩
    simp only [resolve_eq_ok_iff.mpr ⟨n, hopens⟩, hnode]

theorem isFile_iff {p : Path} :
    t.isFile p = true ↔ ∃ n l content, t.Opens p n l ∧ t.node? l = some (.file content) := by
  unfold isFile
  constructor
  · intro h
    split at h
    · rename_i content hopened
      obtain ⟨n, l, hopens, hnode⟩ := opened_eq_file_iff.mp hopened
      exact ⟨n, l, content, hopens, hnode⟩
    · cases h
  · rintro ⟨n, l, content, hopens, hnode⟩
    rw [opened_eq_file_iff.mpr ⟨n, l, hopens, hnode⟩]

theorem entries_eq_ok_iff {p : Path} {names : List Bytes} :
    t.entries p = .ok names ↔
      ∃ n l, t.Opens p n l ∧ t.isDirectory l = true ∧ names = t.namesIn l := by
  unfold entries
  constructor
  · intro h
    cases hp : t.resolve p with
    | error e =>
        rw [hp] at h
        cases h
    | ok l =>
        simp only [hp] at h
        obtain ⟨n, hopens⟩ := resolve_eq_ok_iff.mp hp
        split at h
        · rename_i inside
          exact ⟨n, l, hopens, inside, (Except.ok.inj h).symm⟩
        · cases h
  · rintro ⟨n, l, hopens, inside, rfl⟩
    simp only [resolve_eq_ok_iff.mpr ⟨n, hopens⟩, inside, if_true]

/-! ## Entries of directories -/

/-- **Proper** — a tree as a system keeps it: each location is listed once, and names are names. -/
structure Proper (t : Tree) : Prop where
  distinct : (t.nodes.map Prod.fst).Nodup
  named : ∀ entry ∈ t.nodes, ∀ name ∈ entry.1,
    Path.IsName name ∧ Path.separator ∉ name ∧ 0 ∉ name

/-- **LeadsToFile** — an entry of a directory is a file, or a link that leads to one. The number is
that of the links. -/
inductive LeadsToFile (t : Tree) (l : Location) (name : Bytes) : Nat → Prop
  | file {content : Bytes} (found : t.node? (l ++ [name]) = some (.file content)) :
      LeadsToFile t l name 0
  | link {target : Path} {end' : Location} {content : Bytes} {n : Nat}
      (found : t.node? (l ++ [name]) = some (.link target))
      (leads : t.Follows (origin l target) (Path.parts target.bytes) n end')
      (file : t.node? end' = some (.file content)) : LeadsToFile t l name (n + 1)

/-- Everything but the directory in which the program runs, and those above it, is listed. -/
theorem mem_nodes_of_node? {node : Node} (h : t.node? l = some node) :
    l.isPrefixOf t.start = true ∧ node = .directory ∨ (l, node) ∈ t.nodes := by
  unfold node? at h
  split at h
  · rename_i hstart
    exact .inl ⟨hstart, (Option.some.inj h).symm⟩
  · obtain ⟨entry, hfind, rfl⟩ := Option.map_eq_some_iff.mp h
    have hl : entry.1 = l := by simpa using List.find?_some hfind
    rw [← hl]
    exact .inr (List.mem_of_find?_eq_some hfind)

theorem mem_namesIn_iff {name : Bytes} :
    name ∈ t.namesIn l ↔ ∃ node, (l ++ [name], node) ∈ t.nodes := by
  unfold namesIn
  rw [List.mem_filterMap]
  constructor
  · rintro ⟨⟨location, node⟩, hmem, hname⟩
    split at hname
    · rename_i hparent
      have hlocation : location = l ++ [name] := by
        obtain ⟨front, rfl⟩ := List.getLast?_eq_some_iff.mp hname
        rw [← hparent, List.dropLast_concat]
      exact ⟨node, hlocation ▸ hmem⟩
    · cases hname
  · rintro ⟨node, hmem⟩
    refine ⟨_, hmem, ?_⟩
    rw [List.dropLast_concat, if_pos rfl, List.getLast?_concat]

theorem LeadsToFile.mem_namesIn {name : Bytes} (h : t.LeadsToFile l name n) :
    name ∈ t.namesIn l := by
  apply mem_namesIn_iff.mpr
  cases h with
  | file found =>
      obtain ⟨_, hnode⟩ | hmem := mem_nodes_of_node? found
      · cases hnode
      · exact ⟨_, hmem⟩
  | link found =>
      obtain ⟨_, hnode⟩ | hmem := mem_nodes_of_node? found
      · cases hnode
      · exact ⟨_, hmem⟩

theorem Proper.node?_eq_some_iff (ht : t.Proper) {node : Node}
    (hl : l.isPrefixOf t.start = false) : t.node? l = some node ↔ (l, node) ∈ t.nodes := by
  constructor
  · intro h
    obtain ⟨hstart, _⟩ | hmem := mem_nodes_of_node? h
    · rw [hl] at hstart
      cases hstart
    · exact hmem
  · intro hmem
    have hsome : (t.nodes.find? fun entry => entry.1 == l).isSome := by
      rw [List.find?_isSome]
      exact ⟨_, hmem, beq_self_eq_true l⟩
    obtain ⟨entry, hfind⟩ := Option.isSome_iff_exists.mp hsome
    have hentry : entry.1 = l := by simpa using List.find?_some hfind
    -- The location is listed once, so this is the node that was found.
    have hsame : entry = (l, node) := List.inj_on_of_nodup_map ht.distinct
      (List.mem_of_find?_eq_some hfind) hmem hentry
    unfold node?
    rw [if_neg (by simp [hl]), hfind, hsame]
    rfl

theorem Proper.named_of_mem (ht : t.Proper) {name : Bytes} (h : name ∈ t.namesIn l) :
    Path.IsName name ∧ Path.separator ∉ name ∧ 0 ∉ name := by
  obtain ⟨node, hmem⟩ := mem_namesIn_iff.mp h
  exact ht.named _ hmem name (List.mem_append_right _ List.mem_cons_self)

theorem Proper.nodup_namesIn (ht : t.Proper) (l : Location) : (t.namesIn l).Nodup := by
  have hnames : t.namesIn l = (t.nodes.map Prod.fst).filterMap fun location =>
      if location.dropLast = l then location.getLast? else none := by
    rw [List.filterMap_map]
    rfl
  rw [hnames]
  apply ht.distinct.filterMap
  intro a a' name ha ha'
  have hlocation : ∀ location : Location,
      name ∈ (if location.dropLast = l then location.getLast? else none) →
        location = l ++ [name] := by
    intro location h
    split at h
    · rename_i hparent
      obtain ⟨front, rfl⟩ := List.getLast?_eq_some_iff.mp h
      rw [← hparent, List.dropLast_concat]
    · cases h
  rw [hlocation a ha, hlocation a' ha']

/-- One part of a way that ends at a file is an entry that leads to it. -/
theorem leadsToFile_iff {name : Bytes} (named : Path.IsName name) :
    (∃ l' content, t.Follows l [name] n l' ∧ t.node? l' = some (.file content)) ↔
      t.isDirectory l = true ∧ t.LeadsToFile l name n := by
  constructor
  · rintro ⟨l', content, hway, hfile⟩
    cases hway with
    | stay _ same => exact absurd same (not_or.mpr ⟨named.ne_nil, named.ne_here⟩)
    | up => exact absurd rfl named.ne_above
    | down inside _ found _ onward =>
        cases onward with
        | done => exact ⟨inside, .file hfile⟩
    | link inside _ found onward =>
        rw [List.append_nil] at onward
        exact ⟨inside, .link found onward hfile⟩
  · rintro ⟨inside, hleads⟩
    cases hleads with
    | file found =>
        exact ⟨_, _, .down inside named found (fun _ => Node.noConfusion) (.done _), found⟩
    | link found leads file =>
        refine ⟨_, _, .link inside named found ?_, file⟩
        rw [List.append_nil]
        exact leads

/-- **LeadsOver** — in the directory to which a path leads, an entry is a file, or a link that leads
to one. The number is that of all links, those on the way to the directory included. -/
def LeadsOver (t : Tree) (d : Path) (name : Bytes) (links : Nat) : Prop :=
  ∃ m l n, t.Opens d m l ∧ t.isDirectory l = true ∧ t.LeadsToFile l name n ∧ links = m + n

theorem LeadsToFile.unique {name : Bytes} {n' : Nat} (h : t.LeadsToFile l name n)
    (h' : t.LeadsToFile l name n') : n = n' := by
  cases h with
  | file found =>
      cases h' with
      | file => rfl
      | link found' => cases found.symm.trans found'
  | link found leads =>
      cases h' with
      | file found' => cases found.symm.trans found'
      | link found' leads' =>
          cases found.symm.trans found'
          rw [(leads.unique leads').1]

theorem LeadsOver.unique {d : Path} {name : Bytes} {links links' : Nat}
    (h : t.LeadsOver d name links) (h' : t.LeadsOver d name links') : links = links' := by
  obtain ⟨m, l, n, hopens, _, leads, rfl⟩ := h
  obtain ⟨m', l', n', hopens', _, leads', rfl⟩ := h'
  obtain ⟨rfl, rfl⟩ := hopens.unique hopens'
  rw [leads.unique leads']

/-- **Offers** — the directory to which a path leads has an entry that is a file, or a link that
leads to one. -/
def Offers (t : Tree) (d : Path) (name : Bytes) : Prop := ∃ links, t.LeadsOver d name links

/-- **Finds** — the same, where the links are not too many and the path of the entry is not too long
for the system. -/
def Finds (t : Tree) (d : Path) (name : Bytes) : Prop :=
  ∃ links ≤ linkLimit, t.LeadsOver d name links ∧ (d.join name).bytes.length ≤ pathLimit

/-- **isFile_join_iff** — whether a file is found at the path of an entry. -/
theorem isFile_join_iff {d : Path} {name : Bytes} (hd : d.bytes ≠ []) (named : Path.IsName name)
    (hseparator : Path.separator ∉ name) (hzero : 0 ∉ name) :
    t.isFile (d.join name) = true ↔ t.Finds d name := by
  obtain ⟨front, hjoin, hfront⟩ := Path.parts_join hd hseparator
  have horigin : origin t.start (d.join name) = origin t.start d := by
    unfold origin
    rw [Path.isAbsolute_join hd]
  have hlength : d.bytes.length ≤ (d.join name).bytes.length := by
    unfold Path.join
    split <;> simp
  -- An empty last part of the directory does not count.
  have hdirectory : ∀ {m : Nat} {l : Location}, t.isDirectory l = true →
      (t.Follows (origin t.start d) (Path.parts d.bytes) m l ↔
        t.Follows (origin t.start d) front m l) := by
    intro m l inside
    obtain hparts | hparts := hfront
    · rw [hparts]
    · rw [hparts, Follows.append_iff]
      constructor
      · rintro ⟨mid, m, k, hto, hstay, rfl⟩
        cases hstay with
        | stay _ _ onward =>
            cases onward with
            | done => exact hto
        | down _ named => exact absurd rfl named.ne_nil
        | link _ named => exact absurd rfl named.ne_nil
      · intro hto
        exact ⟨l, m, 0, hto, .stay inside (.inl rfl) (.done l), rfl⟩
  constructor
  · intro h
    obtain ⟨_, l', content, ⟨whole, _, short, follows, few⟩, hfile⟩ := isFile_iff.mp h
    rw [hjoin, horigin] at follows
    obtain ⟨l, m, n, hto, hfrom, rfl⟩ := Follows.append_iff.mp follows
    obtain ⟨inside, leads⟩ := (leadsToFile_iff named).mp ⟨l', content, hfrom, hfile⟩
    have hopens : t.Opens d m l :=
      { whole := fun hd0 => whole (Path.zero_mem_join.mpr (.inl hd0))
        ne_nil := hd
        short := Nat.le_trans hlength short
        follows := (hdirectory inside).mpr hto
        few := Nat.le_trans (Nat.le_add_right m n) few }
    exact ⟨m + n, few, ⟨m, l, n, hopens, inside, leads, rfl⟩, short⟩
  · rintro ⟨_, few, ⟨m, l, n, hopens, inside, leads, rfl⟩, short⟩
    obtain ⟨l', content, hfrom, hfile⟩ := (leadsToFile_iff named).mpr ⟨inside, leads⟩
    have hway := ((hdirectory inside).mp hopens.follows).append hfrom
    rw [← hjoin, ← horigin] at hway
    have hwhole : 0 ∉ (d.join name).bytes := fun h0 =>
      (Path.zero_mem_join.mp h0).elim hopens.whole hzero
    exact isFile_iff.mpr
      ⟨m + n, l', content, ⟨hwhole, Path.join_ne_nil hd name, short, hway, few⟩, hfile⟩

/-! ## Orders of a listing -/

/-- **Enumerates** — a file system shows a tree, the names of each directory in some order. -/
structure Enumerates (t : Tree) (fs : FileSystem) : Prop where
  isFile : ∀ p, fs.isFile p = t.isFile p
  listed : ∀ p names, t.entries p = .ok names →
    ∃ names', fs.entries p = .ok names' ∧ names'.Perm names
  unlisted : ∀ p e, t.entries p = .error e → ∃ e', fs.entries p = .error e'

theorem enumerates_system (t : Tree) : t.Enumerates t.system where
  isFile _ := rfl
  listed _ names h := ⟨names, h, .refl names⟩
  unlisted _ e h := ⟨e, h⟩

section SameNodes

variable {t' : Tree} (hnode : t'.node? = t.node?)
include hnode

theorem isDirectory_of_node? : t'.isDirectory = t.isDirectory := by
  unfold isDirectory
  rw [hnode]

theorem Follows.of_node? {todo : List Bytes} (h : t.Follows base todo n l) :
    t'.Follows base todo n l := by
  have hdirectory := isDirectory_of_node? hnode
  induction h with
  | done l => exact .done l
  | stay inside same _ ih => exact .stay (hdirectory ▸ inside) same ih
  | up inside _ ih => exact .up (hdirectory ▸ inside) ih
  | down inside named found plain _ ih =>
      exact .down (hdirectory ▸ inside) named (hnode ▸ found) plain ih
  | link inside named found _ ih => exact .link (hdirectory ▸ inside) named (hnode ▸ found) ih

theorem Opens.of_node? (hstart : t'.start = t.start) {p : Path} (h : t.Opens p n l) :
    t'.Opens p n l where
  whole := h.whole
  ne_nil := h.ne_nil
  short := h.short
  follows := hstart ▸ h.follows.of_node? hnode
  few := h.few

end SameNodes

/-- Trees with the same nodes, listed in another order, show the same. -/
theorem Proper.enumerates_of_perm (ht : t.Proper) {t' : Tree} (hnodes : t'.nodes.Perm t.nodes)
    (hstart : t'.start = t.start) : t.Enumerates t'.system := by
  have ht' : t'.Proper := ⟨(hnodes.map Prod.fst).nodup_iff.mpr ht.distinct,
    fun entry hentry => ht.named entry (hnodes.mem_iff.mp hentry)⟩
  have hnode : t'.node? = t.node? := by
    funext l
    cases hl : l.isPrefixOf t.start with
    | true =>
        unfold node?
        rw [hstart, if_pos hl, if_pos hl]
    | false =>
        ext node
        rw [ht.node?_eq_some_iff hl, ht'.node?_eq_some_iff (by rw [hstart, hl]), hnodes.mem_iff]
  have hdirectory := isDirectory_of_node? hnode
  have hopens : ∀ {p : Path} {n : Nat} {l : Location}, t'.Opens p n l ↔ t.Opens p n l := by
    intro p n l
    constructor
    · intro h
      exact h.of_node? hnode.symm hstart.symm
    · intro h
      exact h.of_node? hnode hstart
  constructor
  · intro p
    rw [Bool.eq_iff_iff]
    show t'.isFile p = true ↔ t.isFile p = true
    simp only [isFile_iff, hopens, hnode]
  · intro p names h
    obtain ⟨n, l, hp, inside, rfl⟩ := entries_eq_ok_iff.mp h
    exact ⟨t'.namesIn l, entries_eq_ok_iff.mpr ⟨n, l, hopens.mpr hp, hdirectory ▸ inside, rfl⟩,
      hnodes.filterMap _⟩
  · intro p e h
    cases hp : t'.entries p with
    | error e' => exact ⟨e', hp⟩
    | ok names =>
        obtain ⟨n, l, hp', inside, _⟩ := entries_eq_ok_iff.mp hp
        have hok := entries_eq_ok_iff.mpr ⟨n, l, hopens.mp hp', hdirectory ▸ inside, rfl⟩
        rw [hok] at h
        cases h

end Tree

end CommandShell.Files
