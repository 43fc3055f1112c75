import CommandShell.Proofs.Program.Options
import CommandShell.Proofs.Text.Trim

/-!
# Reading a command line undoes writing it

A person has **terms** in mind: flags, settings with a text as value, and plain arguments. `Spelled`
tells in which ways they can be written. A setting takes the argument behind it as its value,
whatever that looks like; a value that is attached to a letter is not empty and does not begin with
`=`, for one `=` in front is not part of it; and behind `--` everything is plain.

Whichever way is chosen, the items that are read are the terms (`scan_of_spelled`), so the options
are what the terms add up to one after the other (`parse_of_terms`).
-/

namespace CommandShell.CommandLine

open CommandShell.Text
open CommandShell.Files

/-! ## Terms -/

/-- **Term** — a unit of a command line as it is meant. -/
inductive Term
  | flag (f : Flag)
  | setting (s : Setting) (value : String)
  | plain (argument : Bytes)
  deriving DecidableEq, Repr

/-- **Sensible** — a search path names something. -/
def Term.Sensible : Term → Prop
  | .setting .path value => ∃ c ∈ value.toList, isBlank c = false
  | .flag _ | .setting .file _ | .setting .config _ | .setting .logLevel _ | .plain _ => True

/-- **take** — what a term makes of the options: a flag sets its field, a setting replaces its
field, and a plain argument is the script, which is named once. -/
def Options.take (o : Options) : Term → Except ArgumentFault Options
  | .flag .help => .ok { o with help := true }
  | .flag .version => .ok { o with version := true }
  | .flag .thread => .ok { o with thread := true }
  | .setting .file value => .ok { o with file := some ⟨encode value⟩ }
  | .setting .config value => .ok { o with config := some ⟨encode value⟩ }
  | .setting .path value => .ok { o with path := some value }
  | .setting .logLevel value => .ok { o with logLevel := some value }
  | .plain argument =>
    if o.file = none then .ok { o with file := some ⟨argument⟩ }
    else .error (.unexpectedArgument (decode argument))

/-! ## Spellings -/

/-- The letter of a flag. -/
def Flag.letter : Flag → String
  | .help => "h"
  | .version => "V"
  | .thread => "t"

/-- The long name of a flag. -/
def Flag.name : Flag → String
  | .help => "help"
  | .version => "version"
  | .thread => "thread"

/-- The letter of a setting. -/
def Setting.letter : Setting → String
  | .file => "f"
  | .config => "c"
  | .path => "p"
  | .logLevel => "l"

/-- The long name of a setting. -/
def Setting.name : Setting → String
  | .file => "file"
  | .config => "config"
  | .path => "path"
  | .logLevel => "log-level"

/-- **Clustered** — the text behind a single dash that writes terms, and the argument behind it if
the last term has its value there. -/
inductive Clustered : List Term → String → List Bytes → Prop
  | last (f : Flag) : Clustered [.flag f] f.letter []
  | flag (f : Flag) {terms : List Term} {text : String} {behind : List Bytes}
      (more : Clustered terms text behind) : Clustered (.flag f :: terms) (f.letter ++ text) behind
  | attached (s : Setting) {value : String} (nonempty : value ≠ "")
      (noEquals : value.toList.head? ≠ some '=') :
      Clustered [.setting s value] (s.letter ++ value) []
  | equals (s : Setting) (value : String) :
      Clustered [.setting s value] (s.letter ++ ("=" ++ value)) []
  | apart (s : Setting) (value : String) : Clustered [.setting s value] s.letter [encode value]

/-- **Spelled** — the arguments that write terms. -/
inductive Spelled : List Term → List Bytes → Prop
  | none : Spelled [] []
  | short {cluster terms : List Term} {text : String} {behind arguments : List Bytes}
      (clustered : Clustered cluster text behind) (rest : Spelled terms arguments) :
      Spelled (cluster ++ terms) (encode ("-" ++ text) :: (behind ++ arguments))
  | flag (f : Flag) {terms : List Term} {arguments : List Bytes} (rest : Spelled terms arguments) :
      Spelled (.flag f :: terms) (encode ("--" ++ f.name) :: arguments)
  | equals (s : Setting) (value : String) {terms : List Term} {arguments : List Bytes}
      (rest : Spelled terms arguments) :
      Spelled (.setting s value :: terms)
        (encode ("--" ++ s.name ++ ("=" ++ value)) :: arguments)
  | apart (s : Setting) (value : String) {terms : List Term} {arguments : List Bytes}
      (rest : Spelled terms arguments) :
      Spelled (.setting s value :: terms)
        (encode ("--" ++ s.name) :: encode value :: arguments)
  /-- A plain argument begins with no dash, unless it is a dash. -/
  | plain {argument : Bytes} {terms : List Term} {arguments : List Bytes}
      (noDash : argument.head? = some dash → argument = [dash])
      (rest : Spelled terms arguments) :
      Spelled (.plain argument :: terms) (argument :: arguments)
  /-- Behind two dashes everything is plain. -/
  | ended (arguments : List Bytes) : Spelled (arguments.map .plain) (encode "--" :: arguments)

/-! ## Terms as items -/

namespace Term

/-- The item that a term is read as. -/
def item : Term → Item
  | .flag f => .flag f
  | .setting s value => .setting s (encode value)
  | .plain argument => .plain argument

/-- An item does to the options what its term does. -/
theorem apply_item {t : Term} (h : t.Sensible) (o : Options) : o.apply t.item = o.take t := by
  rcases t with f | ⟨s, value⟩ | argument
  · rcases f <;> rfl
  · rw [item, Options.apply, Options.valueText_eq_ok_iff.mpr rfl, Except.bind]
    rcases s
    · rfl
    · rfl
    · -- Only a search path is looked at.
      have hvalue : ¬trim value = "" := by
        intro hblank
        obtain ⟨c, hc, hnot⟩ := h
        rw [trim_eq_empty_iff.mp hblank c hc] at hnot
        cases hnot
      rw [Options.set, if_neg hvalue]
      rfl
    · rfl
  · rw [item, Options.apply, Options.take]
    cases o.file <;> rfl

theorem foldlM_item {terms : List Term} (h : ∀ t ∈ terms, t.Sensible) (o : Options) :
    (terms.map item).foldlM Options.apply o = terms.foldlM Options.take o := by
  induction terms generalizing o with
  | nil => rfl
  | cons t terms ih =>
      obtain ⟨ht, hterms⟩ := List.forall_mem_cons.mp h
      rw [List.map_cons, List.foldlM_cons, List.foldlM_cons, apply_item ht]
      congr 1
      funext o'
      exact ih hterms o'

end Term

/-! ## Arguments one by one -/

/-- The items of an argument, and then those of the arguments behind it. -/
def Piecewise.followedBy (p : Piecewise) (arguments : List Bytes) : Scan :=
  match p.next with
  | .error fault => ⟨p.items, some fault⟩
  | .ok awaiting =>
    ⟨p.items ++ (Scan.from awaiting arguments).items, (Scan.from awaiting arguments).fault⟩

theorem scan_cons (awaiting : Awaiting) (argument : Bytes) (arguments : List Bytes) :
    Scan.from awaiting (argument :: arguments) =
      (ofArgument awaiting argument).followedBy arguments := by
  rw [Scan.from]
  rfl

/-- What is scanned, with the items of terms in front of it. -/
def Scan.after (terms : List Term) (s : Scan) : Scan := ⟨terms.map Term.item ++ s.items, s.fault⟩

/-- An item in front of the items of an argument. -/
theorem followedBy_cons (t : Term) (p : Piecewise) (arguments : List Bytes) :
    Piecewise.followedBy ⟨t.item :: p.items, p.next⟩ arguments =
      (p.followedBy arguments).after [t] := by
  rw [Piecewise.followedBy, Piecewise.followedBy]
  cases p.next <;> rfl

theorem scan_value (s : Setting) (written : String) (value : Bytes) (arguments : List Bytes) :
    Scan.from (.value s written) (value :: arguments) =
      ⟨.setting s value :: (Scan.from .item arguments).items, (Scan.from .item arguments).fault⟩ :=
  scan_cons _ _ _

/-- Behind the mark every argument is plain. -/
theorem scan_plain (arguments : List Bytes) :
    Scan.from .plain arguments = ⟨(arguments.map Term.plain).map Term.item, none⟩ := by
  induction arguments with
  | nil => rfl
  | cons argument arguments ih =>
      rw [scan_cons, Piecewise.followedBy]
      show Scan.mk ([.plain argument] ++ (Scan.from .plain arguments).items) _ = _
      rw [ih]
      rfl

/-! ### Long options -/

theorem shape_name {name : Bytes} (hne : name ≠ []) (h : ∀ b ∈ name, b ≠ equalsSign) :
    Shape.of (dash :: dash :: name) = .long name none := by
  have hall : ∀ b ∈ name, decide (b ≠ equalsSign) = true := fun b hb => decide_eq_true (h b hb)
  simp only [Shape.of, ne_eq, not_true_eq_false, ↓reduceIte, hne]
  rw [List.dropWhile_eq_nil_iff.mpr hall, List.takeWhile_eq_self_iff.mpr hall]

theorem shape_equals {name : Bytes} (h : ∀ b ∈ name, b ≠ equalsSign) (value : Bytes) :
    Shape.of (dash :: dash :: (name ++ equalsSign :: value)) = .long name (some value) := by
  have hall : ∀ b ∈ name, decide (b ≠ equalsSign) = true := fun b hb => decide_eq_true (h b hb)
  have hne : name ++ equalsSign :: value ≠ [] := by simp
  simp only [Shape.of, ne_eq, not_true_eq_false, ↓reduceIte, hne]
  rw [List.dropWhile_append_of_pos hall, List.takeWhile_append_of_pos hall]
  simp

theorem shape_cluster {b : UInt8} (h : b ≠ dash) (letters : Bytes) :
    Shape.of (dash :: b :: letters) = .cluster (b :: letters) := by
  simp only [Shape.of, ne_eq, not_true_eq_false, ↓reduceIte, h, not_false_eq_true]

theorem encode_dashes (name : String) : encode ("--" ++ name) = dash :: dash :: encode name :=
  encode_append "--" name

theorem encode_equals (value : String) : encode ("=" ++ value) = equalsSign :: encode value :=
  encode_append "=" value

theorem Flag.ofName_name (f : Flag) : Meaning.ofName? f.name = some (.flag f) := by
  rcases f <;> decide

theorem Setting.ofName_name (s : Setting) : Meaning.ofName? s.name = some (.setting s) := by
  rcases s <;> decide

theorem Flag.scan_name (f : Flag) (arguments : List Bytes) :
    Scan.from .item (encode ("--" ++ f.name) :: arguments) =
      (Scan.from .item arguments).after [.flag f] := by
  have hne : encode f.name ≠ [] := by rcases f <;> decide
  have hname : ∀ b ∈ encode f.name, b ≠ equalsSign := by
    intro b hb
    have hall : (encode f.name).all (· != equalsSign) = true := by rcases f <;> decide
    exact bne_iff_ne.mp (List.all_eq_true.mp hall b hb)
  have hlong : ofLong (encode f.name) none = ⟨[.flag f], .ok .item⟩ := by
    unfold ofLong
    dsimp only
    rw [decode_encode, f.ofName_name]
  rw [scan_cons, encode_dashes, ofArgument, shape_name hne hname]
  show (ofLong _ _).followedBy _ = _
  rw [hlong]
  rfl

section

variable (s : Setting) (arguments : List Bytes)

theorem Setting.name_ne_nil : encode s.name ≠ [] := by rcases s <;> decide

theorem Setting.not_equals_of_mem_name : ∀ b ∈ encode s.name, b ≠ equalsSign := by
  intro b hb
  have hall : (encode s.name).all (· != equalsSign) = true := by rcases s <;> decide
  exact bne_iff_ne.mp (List.all_eq_true.mp hall b hb)

theorem Setting.scan_name (value : String) :
    Scan.from .item (encode ("--" ++ s.name) :: encode value :: arguments) =
      (Scan.from .item arguments).after [.setting s value] := by
  have hlong : ofLong (encode s.name) none = ⟨[], .ok (.value s (writtenName s.name))⟩ := by
    unfold ofLong
    dsimp only
    rw [decode_encode, s.ofName_name]
  rw [scan_cons, encode_dashes, ofArgument, shape_name s.name_ne_nil s.not_equals_of_mem_name]
  show (ofLong _ _).followedBy _ = _
  rw [hlong]
  show Scan.mk ([] ++ (Scan.from (.value s _) (encode value :: arguments)).items) _ = _
  rw [scan_value]
  rfl

theorem Setting.scan_equals (value : String) :
    Scan.from .item (encode ("--" ++ s.name ++ ("=" ++ value)) :: arguments) =
      (Scan.from .item arguments).after [.setting s value] := by
  have hlong : ofLong (encode s.name) (some (encode value)) =
      ⟨[.setting s (encode value)], .ok .item⟩ := by
    unfold ofLong
    dsimp only
    rw [decode_encode, s.ofName_name]
  rw [scan_cons, encode_append, encode_dashes, encode_equals, ofArgument, List.cons_append,
    List.cons_append, shape_equals s.not_equals_of_mem_name]
  show (ofLong _ _).followedBy _ = _
  rw [hlong]
  rfl

end

/-! ### Clusters -/

/-- The letter of a flag is read, and then the rest of the cluster. -/
theorem Flag.ofCluster_letter (f : Flag) (before : Option Char) (rest : Bytes) :
    ∃ c, ofCluster before (encode f.letter ++ rest) =
      ⟨(Term.flag f).item :: (ofCluster (some c) rest).items, (ofCluster (some c) rest).next⟩ := by
  rcases f
  · exact ⟨'h', by cases before <;> rfl⟩
  · exact ⟨'V', by cases before <;> rfl⟩
  · exact ⟨'t', by cases before <;> rfl⟩

/-- The letter of a setting at the end of a cluster waits for the value. -/
theorem Setting.ofCluster_letter (s : Setting) (before : Option Char) :
    ∃ written, ofCluster before (encode s.letter) = ⟨[], .ok (.value s written)⟩ := by
  rcases s
  · exact ⟨_, by cases before <;> rfl⟩
  · exact ⟨_, by cases before <;> rfl⟩
  · exact ⟨_, by cases before <;> rfl⟩
  · exact ⟨_, by cases before <;> rfl⟩

/-- The letter of a setting before the end of a cluster takes the rest as the value. -/
theorem Setting.ofCluster_attached (s : Setting) (before : Option Char) (b : UInt8) (rest : Bytes) :
    ofCluster before (encode s.letter ++ b :: rest) =
      ⟨[.setting s (attachedValue (b :: rest))], .ok .item⟩ := by
  rcases s <;> cases before <;> rfl

/-- A text that does not begin with `=` has no encoding that does. -/
theorem attachedValue_encode {value : String} (h : value.toList.head? ≠ some '=') :
    attachedValue (encode value) = encode value := by
  rw [encode]
  cases hchars : value.toList with
  | nil => rfl
  | cons c cs =>
      obtain ⟨b, bs, hc, hb⟩ := exists_lead_byte c
      have hne : c ≠ '=' := by
        intro heq
        rw [hchars, heq] at h
        exact h rfl
      have hbyte : b ≠ equalsSign := fun heq => hne ((hb '=' (by decide)).mp heq)
      rw [List.flatMap_cons, hc, List.cons_append, attachedValue, if_neg hbyte]

/-- **scan_clustered** — the items of a cluster are its terms. -/
theorem scan_clustered {terms : List Term} {text : String} {behind : List Bytes}
    (h : Clustered terms text behind) (before : Option Char) (arguments : List Bytes) :
    (ofCluster before (encode text)).followedBy (behind ++ arguments) =
      (Scan.from .item arguments).after terms := by
  induction h generalizing before with
  | last f =>
      obtain ⟨c, hletter⟩ := f.ofCluster_letter before []
      rw [List.append_nil] at hletter
      rw [hletter, followedBy_cons]
      rfl
  | flag f more ih =>
      obtain ⟨c, hletter⟩ := f.ofCluster_letter before (encode _)
      rw [encode_append, hletter, followedBy_cons, ih (some c)]
      rfl
  | @attached s value hne noEquals =>
      -- The first byte of the value decides that all of it is taken as it stands.
      have hvalue := attachedValue_encode noEquals
      obtain ⟨b, rest, hb⟩ : ∃ b rest, encode value = b :: rest :=
        List.exists_cons_of_ne_nil fun hnil => hne (encode_eq_nil_iff.mp hnil)
      rw [hb] at hvalue
      rw [encode_append, hb, s.ofCluster_attached, hvalue, ← hb]
      rfl
  | equals s value =>
      rw [encode_append, encode_equals, s.ofCluster_attached]
      rfl
  | apart s value =>
      obtain ⟨written, hletter⟩ := s.ofCluster_letter before
      rw [hletter]
      show Scan.mk ([] ++ (Scan.from (.value s written) (encode value :: arguments)).items) _ = _
      rw [scan_value]
      rfl

/-- A cluster begins with a letter. -/
theorem Clustered.head {terms : List Term} {text : String} {behind : List Bytes}
    (h : Clustered terms text behind) : ∃ b rest, encode text = b :: rest ∧ b ≠ dash := by
  have hflag : ∀ f : Flag, ∃ b, encode f.letter = [b] ∧ b ≠ dash := by
    intro f
    rcases f <;> exact ⟨_, rfl, by decide⟩
  have hsetting : ∀ s : Setting, ∃ b, encode s.letter = [b] ∧ b ≠ dash := by
    intro s
    rcases s <;> exact ⟨_, rfl, by decide⟩
  rcases h with f | ⟨f, -⟩ | ⟨s, -, -⟩ | ⟨s, value⟩ | ⟨s, value⟩
  · obtain ⟨b, hletter, hb⟩ := hflag f
    exact ⟨b, [], hletter, hb⟩
  · obtain ⟨b, hletter, hb⟩ := hflag f
    exact ⟨b, _, by rw [encode_append, hletter, List.singleton_append], hb⟩
  · obtain ⟨b, hletter, hb⟩ := hsetting s
    exact ⟨b, _, by rw [encode_append, hletter, List.singleton_append], hb⟩
  · obtain ⟨b, hletter, hb⟩ := hsetting s
    exact ⟨b, _, by rw [encode_append, hletter, List.singleton_append], hb⟩
  · obtain ⟨b, hletter, hb⟩ := hsetting s
    exact ⟨b, [], hletter, hb⟩

/-! ## All arguments -/

/-- **scan_of_spelled** — the items that are read are the terms that were written. -/
theorem scan_of_spelled {terms : List Term} {arguments : List Bytes}
    (h : Spelled terms arguments) :
    Scan.from .item arguments = ⟨terms.map Term.item, none⟩ := by
  have hafter : ∀ (cluster terms : List Term), Scan.after cluster ⟨terms.map Term.item, none⟩ =
      ⟨(cluster ++ terms).map Term.item, none⟩ := by
    intro cluster terms
    rw [Scan.after, List.map_append]
  induction h with
  | none => rfl
  | @short cluster terms text behind arguments clustered _ ih =>
      obtain ⟨b, rest, htext, hb⟩ := clustered.head
      have hshape : Shape.of (encode ("-" ++ text)) = .cluster (encode text) := by
        rw [encode_append, htext]
        exact shape_cluster hb rest
      rw [scan_cons, ofArgument, hshape]
      show (ofCluster none (encode text)).followedBy _ = _
      rw [scan_clustered clustered, ih, hafter]
  | flag f _ ih => rw [f.scan_name, ih, hafter, List.singleton_append]
  | equals s value _ ih => rw [s.scan_equals, ih, hafter, List.singleton_append]
  | apart s value _ ih => rw [s.scan_name, ih, hafter, List.singleton_append]
  | @plain argument terms arguments noDash _ ih =>
      have hshape : Shape.of argument = .plain := by
        rcases argument with - | ⟨a, - | ⟨b, rest⟩⟩
        · rfl
        · rfl
        · have ha : a ≠ dash := by
            intro heq
            rw [heq] at noDash
            cases noDash rfl
          exact if_pos ha
      rw [scan_cons, ofArgument, hshape]
      show (Scan.from .item arguments).after [.plain argument] = _
      rw [ih, hafter, List.singleton_append]
  | ended arguments =>
      rw [scan_cons]
      show Scan.mk ([] ++ (Scan.from .plain arguments).items) _ = _
      rw [scan_plain]
      rfl

namespace Options

/-- **Reading a command line undoes writing it.** Whichever way the terms are spelled, the options
are what the terms add up to from the first to the last, or the first plain argument that names a
script when there is one already is refused. -/
theorem parse_of_terms (terms : List Term) (arguments : List Bytes)
    (hspelled : Spelled terms arguments) (hsensible : ∀ t ∈ terms, t.Sensible) :
    parse arguments = terms.foldlM take {} := by
  have hscan : Scan.ofArguments arguments = ⟨terms.map Term.item, none⟩ := scan_of_spelled hspelled
  rw [parse, hscan]
  dsimp only
  rw [Term.foldlM_item hsensible]
  cases terms.foldlM take {} <;> rfl

/-- A worker, a script that is named `=--` in a cluster, the configuration file `--`, an empty
level, and one more script behind the mark. -/
def tangled : List Term :=
  [.flag .thread, .setting .file "=--", .setting .config "--", .setting .logLevel "",
    .plain (encode "-x")]

theorem tangled_refused :
    Spelled tangled [encode "-tf==--", encode "-c", encode "--", encode "--log-level=",
        encode "--", encode "-x"] ∧
      (∀ t ∈ tangled, t.Sensible) ∧
      parse [encode "-tf==--", encode "-c", encode "--", encode "--log-level=", encode "--",
        encode "-x"] = .error (.unexpectedArgument "-x") := by
  have hspelled : Spelled tangled [encode "-tf==--", encode "-c", encode "--",
      encode "--log-level=", encode "--", encode "-x"] :=
    .short (.flag .thread (.equals .file "=--")) (.short (.apart .config "--")
      (.equals .logLevel "" (.ended [encode "-x"])))
  have hsensible : ∀ t ∈ tangled, t.Sensible := by simp [tangled, Term.Sensible]
  refine ⟨hspelled, hsensible, ?_⟩
  rw [parse_of_terms _ _ hspelled hsensible]
  decide

end Options

end CommandShell.CommandLine
