import CommandShell.Proofs.Command.Directories
import CommandShell.Proofs.Text.Utf8

/-!
# Search paths that are joined from segments

A person has **segments** in mind, one for each directory, and joins them with semicolons. Blanks
around a segment do not count, nor do pieces that hold nothing else (`Padded`), so the directories
are the expansions of the segments, one by one (`directories_padded`).

What a segment expands to is below the home directory if the segment is `~` or begins with `~/`:
however many slashes follow the tilde, the rest is no path from the root, and joining it goes on
from the home directory (`components_join`).
-/

namespace CommandShell

open CommandShell.Text
open CommandShell.Files

/-! ## Joining paths -/

namespace Files.Path

/-- The names in a path, without what it starts from. -/
def namesOf (bs : Bytes) : List Component :=
  ((parts bs).filter fun part => part ≠ [] ∧ part ≠ here).map .name

/-- What a path starts from: the root, the directory that is written `.`, or nothing. -/
def origin (p : Path) : List Component :=
  if p.isAbsolute then [.root] else if (parts p.bytes).head? == some here then [.here] else []

theorem components_eq (p : Path) : p.components = p.origin ++ namesOf p.bytes := by
  unfold components origin
  dsimp only
  split
  · rfl
  · split <;> rfl

theorem parts_ne_nil (bs : Bytes) : parts bs ≠ [] := splitOn_ne_nil bs

theorem parts_append (bs rest : Bytes) :
    parts (bs ++ separator :: rest) = parts bs ++ parts rest := by
  unfold parts
  exact splitOn_append_of_pos (p := (· == separator)) (beq_self_eq_true separator) bs rest

theorem namesOf_append (bs rest : Bytes) :
    namesOf (bs ++ separator :: rest) = namesOf bs ++ namesOf rest := by
  rw [namesOf, parts_append, List.filter_append, List.map_append]
  rfl

/-- Names are no `.`. -/
theorem filter_namesOf (bs : Bytes) : (namesOf bs).filter (· ≠ .here) = namesOf bs := by
  refine List.filter_eq_self.mpr fun component hmem => ?_
  obtain ⟨part, -, rfl⟩ := List.mem_map.mp hmem
  rfl

/-- What follows a separator does not change what a path starts from. -/
theorem origin_append (bs rest : Bytes) :
    origin ⟨bs ++ separator :: rest⟩ = origin ⟨bs ++ [separator]⟩ := by
  have hhead : (bs ++ separator :: rest).head? = (bs ++ [separator]).head? := by
    cases bs <;> rfl
  have hparts : (parts (bs ++ separator :: rest)).head? = (parts (bs ++ [separator])).head? := by
    rw [parts_append, parts_append, List.head?_append_of_ne_nil _ (parts_ne_nil bs),
      List.head?_append_of_ne_nil _ (parts_ne_nil bs)]
  unfold origin isAbsolute
  rw [hhead, hparts]

/-- A separator at the end does not change it, either. -/
theorem origin_append_separator {bs : Bytes} (hne : bs ≠ []) :
    origin ⟨bs ++ [separator]⟩ = origin ⟨bs⟩ := by
  have hparts : (parts (bs ++ [separator])).head? = (parts bs).head? := by
    rw [parts_append, List.head?_append_of_ne_nil _ (parts_ne_nil bs)]
  unfold origin isAbsolute
  rw [List.head?_append_of_ne_nil _ hne, hparts]

theorem components_append (bs rest : Bytes) :
    components ⟨bs ++ separator :: rest⟩ = components ⟨bs ++ [separator]⟩ ++ namesOf rest := by
  have hnone : namesOf [] = [] := rfl
  rw [components_eq, components_eq, origin_append, namesOf_append, namesOf_append, hnone,
    List.append_nil, List.append_assoc]

theorem components_append_separator {bs : Bytes} (hne : bs ≠ []) :
    components ⟨bs ++ [separator]⟩ = components ⟨bs⟩ := by
  have hnone : namesOf [] = [] := rfl
  rw [components_eq, components_eq, origin_append_separator hne, namesOf_append, hnone,
    List.append_nil]

/-- A relative path starts from nothing but, perhaps, the directory that is written `.`. -/
theorem filter_components {p : Path} (h : p.isAbsolute = false) :
    p.components.filter (· ≠ .here) = namesOf p.bytes := by
  have horigin : p.origin.filter (· ≠ .here) = [] := by
    rw [origin, h]
    simp only [Bool.false_eq_true, if_false]
    split <;> rfl
  rw [components_eq, List.filter_append, horigin, filter_namesOf, List.nil_append]

/-- **components_join** — a relative path is joined by going on from where the first path leads. -/
theorem components_join (p : Path) {rest : Bytes} (h : rest.head? ≠ some separator) :
    ∃ more, (p.join rest).components = p.components ++ more ∧
      more.filter (· ≠ .here) = (Path.mk rest).components.filter (· ≠ .here) := by
  have hrelative : (Path.mk rest).isAbsolute = false := by simpa [isAbsolute] using h
  have hnames : (namesOf rest).filter (· ≠ .here) =
      (Path.mk rest).components.filter (· ≠ .here) := by
    rw [filter_components hrelative, filter_namesOf]
  obtain ⟨bs⟩ := p
  rw [join]
  by_cases hempty : bs = []
  · subst hempty
    exact ⟨(Path.mk rest).components, rfl, rfl⟩
  · refine ⟨namesOf rest, ?_, hnames⟩
    by_cases hlast : bs.getLast? = some separator
    · obtain ⟨init, rfl⟩ := List.getLast?_eq_some_iff.mp hlast
      rw [if_pos (by simp), List.append_assoc]
      exact components_append init rest
    · rw [if_neg (by simp [hempty, hlast])]
      show components ⟨bs ++ separator :: rest⟩ = _
      rw [components_append, components_append_separator hempty]

end Files.Path

namespace SearchPath

open Files.Path

/-! ## Segments and pieces -/

/-- **IsSegment** — a text that names one directory: it is not empty, neither begins nor ends with a
blank, and holds no semicolon. -/
structure IsSegment (segment : String) : Prop where
  nonempty : segment ≠ ""
  trimmed : IsTrimmed segment.toList
  noSemicolon : ';' ∉ segment.toList

instance (cs : List Char) : Decidable (IsTrimmed cs) :=
  decidable_of_iff (cs.head?.all (!isBlank ·) = true ∧ cs.getLast?.all (!isBlank ·) = true) (by
    simp only [Option.all_eq_true, Bool.not_eq_true']
    exact ⟨fun h c hc => hc.elim (h.1 c) (h.2 c), fun h => ⟨fun c hc => h c (.inl hc),
      fun c hc => h c (.inr hc)⟩⟩)

instance (segment : String) : Decidable (IsSegment segment) :=
  decidable_of_iff (segment ≠ "" ∧ IsTrimmed segment.toList ∧ ';' ∉ segment.toList)
    ⟨fun h => ⟨h.1, h.2.1, h.2.2⟩, fun h => ⟨h.nonempty, h.trimmed, h.noSemicolon⟩⟩

/-- **Padded** — pieces that hold segments in their order, each with blanks around it, and anywhere
else blanks or nothing. -/
inductive Padded : List String → List String → Prop
  | none : Padded [] []
  | nothing {blanks : String} {segments pieces : List String}
      (blank : ∀ c ∈ blanks.toList, isBlank c = true) (others : Padded segments pieces) :
      Padded segments (blanks :: pieces)
  | segment {before segment after : String} {segments pieces : List String}
      (blank : ∀ c ∈ before.toList ++ after.toList, isBlank c = true)
      (others : Padded segments pieces) :
      Padded (segment :: segments) ((before ++ segment ++ after) :: pieces)

variable {s : SearchPath} {segments pieces : List String}

theorem noSemicolon_of_blank {cs : List Char} (h : ∀ c ∈ cs, isBlank c = true) : ';' ∉ cs := by
  intro hmem
  have hblank := h ';' hmem
  rw [show isBlank ';' = false by decide] at hblank
  cases hblank

/-- No piece is cut. -/
theorem Padded.noSemicolon (h : Padded segments pieces) (hs : ∀ g ∈ segments, IsSegment g) :
    ∀ piece ∈ pieces, ';' ∉ piece.toList := by
  induction h with
  | none => exact List.forall_mem_nil _
  | nothing blank _ ih => exact List.forall_mem_cons.mpr ⟨noSemicolon_of_blank blank, ih hs⟩
  | segment blank _ ih =>
      obtain ⟨hsegment, hsegments⟩ := List.forall_mem_cons.mp hs
      obtain ⟨hbefore, hafter⟩ := List.forall_mem_append.mp blank
      refine List.forall_mem_cons.mpr ⟨?_, ih hsegments⟩
      rw [String.toList_append, String.toList_append, List.mem_append, List.mem_append]
      rintro ((hmem | hmem) | hmem)
      · exact noSemicolon_of_blank hbefore hmem
      · exact hsegment.noSemicolon hmem
      · exact noSemicolon_of_blank hafter hmem

/-- Pieces that hold segments name the expansions of the segments. -/
theorem Padded.names (h : Padded segments pieces) (hs : ∀ g ∈ segments, IsSegment g) :
    Names s.home (pieces.map String.toList) (segments.map s.expand) := by
  induction h with
  | none => exact .none
  | nothing blank _ ih => exact .nothing blank (ih hs)
  | @segment before segment after segments pieces blank _ ih =>
      obtain ⟨hsegment, hsegments⟩ := List.forall_mem_cons.mp hs
      have hne : segment.toList ≠ [] :=
        fun hnil => hsegment.nonempty (String.toList_eq_nil_iff.mp hnil)
      have hexpands := s.expands_expand segment.toList
      rw [String.ofList_toList] at hexpands
      rw [List.map_cons, List.map_cons, String.toList_append, String.toList_append]
      exact .directory blank hne hsegment.trimmed hexpands (ih hsegments)

/-- Pieces that are joined with semicolons are the pieces between semicolons. -/
theorem pieces_intercalate {piece : List Char} {pieces : List (List Char)}
    (h : ∀ p ∈ piece :: pieces, ';' ∉ p) :
    Pieces ([';'].intercalate (piece :: pieces)) (piece :: pieces) := by
  induction pieces generalizing piece with
  | nil =>
      rw [List.intercalate_singleton]
      exact .last (h piece List.mem_cons_self)
  | cons next pieces ih =>
      obtain ⟨hpiece, hpieces⟩ := List.forall_mem_cons.mp h
      rw [List.intercalate_cons_cons, List.append_assoc, List.singleton_append]
      exact .more hpiece (ih hpieces)

/-- **directories_padded** — segments that are joined with semicolons, with blanks around them and
blank pieces between them, lead to their expansions in order. -/
theorem directories_padded (h : Padded segments pieces) (hs : ∀ g ∈ segments, IsSegment g)
    (htext : s.text = ";".intercalate pieces) : s.directories = segments.map s.expand := by
  have hlist : s.text.toList = [';'].intercalate (pieces.map String.toList) := by
    rw [htext]
    exact String.toList_intercalate
  have hnames : Names s.home (pieces.map String.toList) (segments.map s.expand) := h.names hs
  refine (leads_iff.mp ?_).symm
  cases pieces with
  | nil =>
      -- Nothing was joined, and the empty text is one piece.
      refine ⟨[[]], ?_, .nothing (List.forall_mem_nil _) hnames⟩
      rw [hlist]
      exact .last List.not_mem_nil
  | cons piece pieces =>
      refine ⟨_, ?_, hnames⟩
      rw [hlist]
      refine pieces_intercalate fun p hp => ?_
      rw [← List.map_cons] at hp
      obtain ⟨piece', hmem, rfl⟩ := List.mem_map.mp hp
      exact h.noSemicolon hs piece' hmem

/-! ## Expansions -/

/-- A text that does not begin with a slash has no encoding that does. -/
theorem encode_head? {cs : List Char} (h : cs.head? ≠ some '/') :
    (encode (String.ofList cs)).head? ≠ some separator := by
  rw [encode, String.toList_ofList]
  cases cs with
  | nil => exact (Option.some_ne_none separator).symm
  | cons c cs =>
      obtain ⟨b, bs, hc, hb⟩ := exists_lead_byte c
      rw [List.flatMap_cons, hc, List.cons_append, List.head?_cons]
      intro heq
      exact h (congrArg some ((hb '/' (by decide)).mp (Option.some.inj heq)))

/-- **Below** — a directory that is reached from another one by a text that is no path from the
root. -/
structure Below (home : Path) (rest : List Char) (d : Path) : Prop where
  relative : rest.head? ≠ some '/'
  joined : d = home.join (encode (String.ofList rest))
  /-- The path goes on from the one of the other directory; a `.` in front does not count. -/
  components : ∃ more, d.components = home.components ++ more ∧
    more.filter (· ≠ .here) =
      (Path.ofString (String.ofList rest)).components.filter (· ≠ .here)

/-- A tilde with slashes behind it leads below the home directory. -/
theorem expand_below {home : Path} (known : s.home = some home) {segment : String}
    (h : ['~', '/'] <+: segment.toList) :
    ∃ slashes rest, segment.toList = '~' :: '/' :: (slashes ++ rest) ∧
      (∀ c ∈ slashes, c = '/') ∧ Below home rest (s.expand segment) := by
  have hexpands := s.expands_expand segment.toList
  rw [String.ofList_toList] at hexpands
  generalize segment.toList = cs at h hexpands
  generalize s.expand segment = d at hexpands
  cases hexpands with
  | home _ => exact absurd h (by decide)
  | @below home' slashes rest known' only relative =>
      obtain rfl : home' = home := Option.some.inj (known'.symm.trans known)
      exact ⟨slashes, rest, rfl, only, relative, rfl,
        components_join home' (encode_head? relative)⟩
  | itself other =>
      rcases other with hnone | ⟨-, hnot⟩
      · rw [known] at hnone
        cases hnone
      · exact absurd h hnot

/-- **Splitting undoes joining.** Segments that are joined with semicolons, in whatever way blanks
and blank pieces are added, lead to their expansions in order. A segment expands to itself unless it
is `~` or begins with `~/`, and a home directory is known: then it expands to the home directory, or
to what the rest leads to below it. -/
theorem directories_joined (s : SearchPath) :
    (∀ segments pieces, (∀ g ∈ segments, IsSegment g) → Padded segments pieces →
        s.text = ";".intercalate pieces → s.directories = segments.map s.expand) ∧
      (∀ segment : String, s.home = none ∨ segment ≠ "~" ∧ ¬['~', '/'] <+: segment.toList →
        s.expand segment = .ofString segment) ∧
      ∀ home, s.home = some home → s.expand "~" = home ∧
        ∀ segment : String, ['~', '/'] <+: segment.toList →
          ∃ slashes rest, segment.toList = '~' :: '/' :: (slashes ++ rest) ∧
            (∀ c ∈ slashes, c = '/') ∧ Below home rest (s.expand segment) := by
  refine ⟨fun segments pieces hs h htext => directories_padded h hs htext, fun segment hother => ?_,
    fun home known => ⟨(Expands.home known).eq_expand.symm, fun segment => expand_below known⟩⟩
  have hitself : s.home = none ∨ segment.toList ≠ ['~'] ∧ ¬['~', '/'] <+: segment.toList :=
    hother.imp_right (.imp_left fun hne heq => hne (String.toList_injective heq))
  have hexpands := (Expands.itself hitself).eq_expand
  rw [String.ofList_toList] at hexpands
  exact hexpands.symm

/-- A home directory with a semicolon, and a segment below it that looks like a path from the root.
-/
def homeWithSemicolon : SearchPath where
  text := "; ~//etc/./x ;\t;/opt/a;~x;"
  home := some (.ofString "/h;ome")
  extension := encode "json"

theorem homeWithSemicolon_directories :
    let segments := ["~//etc/./x", "/opt/a", "~x"]
    let pieces := ["", " ~//etc/./x ", "\t", "/opt/a", "~x", ""]
    (∀ g ∈ segments, IsSegment g) ∧ Padded segments pieces ∧
      homeWithSemicolon.text = ";".intercalate pieces ∧
      homeWithSemicolon.home = some (.ofString "/h;ome") ∧
      ['~', '/'] <+: "~//etc/./x".toList ∧
      homeWithSemicolon.directories =
        [.ofString "/h;ome/etc/./x", .ofString "/opt/a", .ofString "~x"] ∧
      ∃ slashes rest, "~//etc/./x".toList = '~' :: '/' :: (slashes ++ rest) ∧
        (∀ c ∈ slashes, c = '/') ∧
        Below (.ofString "/h;ome") rest (homeWithSemicolon.expand "~//etc/./x") := by
  intro segments pieces
  have hsegments : ∀ g ∈ segments, IsSegment g := by decide
  have hpadded : Padded segments
      ["", " " ++ "~//etc/./x" ++ " ", "\t", "" ++ "/opt/a" ++ "", "" ++ "~x" ++ "", ""] :=
    .nothing (List.all_eq_true.mp rfl) <| .segment (List.all_eq_true.mp rfl) <|
      .nothing (List.all_eq_true.mp rfl) <| .segment (List.all_eq_true.mp rfl) <|
        .segment (List.all_eq_true.mp rfl) <| .nothing (List.all_eq_true.mp rfl) .none
  have htext : homeWithSemicolon.text = ";".intercalate pieces := by decide
  have htilde : ['~', '/'] <+: "~//etc/./x".toList := by decide
  obtain ⟨hjoined, -, hhome⟩ := directories_joined homeWithSemicolon
  have hdirectories := hjoined segments pieces hsegments hpadded htext
  refine ⟨hsegments, hpadded, htext, rfl, htilde, hdirectories.trans ?_,
    (hhome _ rfl).2 _ htilde⟩
  decide

end SearchPath

end CommandShell
