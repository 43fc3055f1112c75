import CommandShell.Proofs.Program.Options
import CommandShell.Proofs.Text.Trim

/-!
# Which script a command line names

A script is named by a plain argument or as the value of `--file`. A plain argument is refused if a
script was named before it, so that one plain argument at most is accepted, and it stands before
every `--file` (`PlainFirst`). An option is never refused for what was named before it: it takes the
place of the plain argument, and of an option of its kind.

So the script is the last one that is named (`file_of_foldlM`), and what decides on acceptance is
each item on its own and the place of the plain argument (`foldlM_isOk_iff`).
-/

namespace CommandShell.CommandLine

open CommandShell.Text
open CommandShell.Files

namespace Item

/-- The script that an item names. -/
def script? : Item → Option Path
  | .plain argument => some ⟨argument⟩
  | .setting .file value => some ⟨value⟩
  | .flag _ | .setting .config _ | .setting .path _ | .setting .logLevel _ => none

/-- Whether an item is a plain argument. -/
def isPlain : Item → Bool
  | .plain _ => true
  | .flag _ | .setting _ _ => false

/-- **Sound** — the value of a setting is text, and a search path names something. -/
def Sound : Item → Prop
  | .setting s value =>
    ∃ text, value = encode text ∧ (s = .path → ∃ c ∈ text.toList, isBlank c = false)
  | .flag _ | .plain _ => True

end Item

/-- **PlainFirst** — no plain argument stands behind another item that names a script. -/
def PlainFirst (items : List Item) : Prop :=
  items.Pairwise fun earlier later => earlier.script? ≠ none → later.isPlain = false

/-- What names a script before the plain argument is not there, and so it is the only one. -/
theorem PlainFirst.filter_isPlain {items : List Item} (h : PlainFirst items) {argument : Bytes}
    (hmem : .plain argument ∈ items) : items.filter Item.isPlain = [.plain argument] := by
  induction items with
  | nil => cases hmem
  | cons item items ih =>
      obtain ⟨hitem, hitems⟩ := List.pairwise_cons.mp h
      cases item with
      | plain first =>
          have hnone : items.filter Item.isPlain = [] := by
            refine List.filter_eq_nil_iff.mpr fun later hlater => ?_
            rw [hitem later hlater (Option.some_ne_none _)]
            exact Bool.false_ne_true
          rcases List.mem_cons.mp hmem with heq | hlater
          · rw [heq, List.filter_cons_of_pos rfl, hnone]
          · cases hitem _ hlater (Option.some_ne_none _)
      | flag _ | setting _ _ =>
          rw [List.filter_cons_of_neg Bool.false_ne_true]
          exact ih hitems ((List.mem_cons.mp hmem).resolve_left Item.noConfusion)

/-- Where no option names a script, the plain arguments do. -/
theorem filterMap_script?_eq {items : List Item} (h : ∀ value, .setting .file value ∉ items) :
    items.filterMap Item.script? = (items.filter Item.isPlain).filterMap Item.script? := by
  rw [List.filterMap_filter]
  refine List.filterMap_congr fun item hmem => ?_
  cases item with
  | plain _ | flag _ => rfl
  | setting s value =>
      cases s with
      | file => exact absurd hmem (h value)
      | config | path | logLevel => rfl

namespace Options

/-! ## Items one by one -/

variable {o o' : Options} {item : Item} {items : List Item}

/-- A search path is refused if it is blank throughout, and no other value is. -/
theorem set_isOk_iff {s : Setting} {text : String} :
    (∃ o', o.set s text = .ok o') ↔ (s = .path → ∃ c ∈ text.toList, isBlank c = false) := by
  cases s with
  | file | config | logLevel => exact iff_of_true ⟨_, rfl⟩ Setting.noConfusion
  | path =>
      have hblank : trim text = "" ↔ ¬∃ c ∈ text.toList, isBlank c = false := by
        rw [trim_eq_empty_iff]
        simp
      rw [set]
      split
      · next heq => simp [hblank.mp heq]
      · next hne => exact iff_of_true ⟨_, rfl⟩ fun _ => not_not.mp (hblank.not.mp hne)

/-- A setting is taken over if its value is text and is not refused as such. -/
theorem apply_setting_eq_ok_iff {s : Setting} {value : Bytes} :
    apply o (.setting s value) = .ok o' ↔ ∃ text, value = encode text ∧ o.set s text = .ok o' := by
  rw [apply]
  constructor
  · intro h
    cases hvalue : valueText value with
    | error f =>
        rw [hvalue] at h
        cases h
    | ok text =>
        rw [hvalue] at h
        exact ⟨text, valueText_eq_ok_iff.mp hvalue, h⟩
  · rintro ⟨text, hvalue, h⟩
    rw [valueText_eq_ok_iff.mpr hvalue]
    exact h

/-- **apply_isOk_iff** — an item is accepted if it is sound, and, if it is a plain argument, names
the script first. -/
theorem apply_isOk_iff :
    (∃ o', apply o item = .ok o') ↔ item.Sound ∧ (o.file ≠ none → item.isPlain = false) := by
  cases item with
  | flag f => exact iff_of_true ⟨_, rfl⟩ ⟨trivial, fun _ => rfl⟩
  | setting s value =>
      simp only [apply_setting_eq_ok_iff]
      rw [exists_comm]
      simp only [exists_and_left, set_isOk_iff]
      exact (and_iff_left fun _ => rfl).symm
  | plain argument =>
      rw [apply]
      cases hfile : o.file with
      | none => exact iff_of_true ⟨_, rfl⟩ ⟨trivial, fun hne => absurd rfl hne⟩
      | some path => simp [Item.isPlain]

theorem file_of_set {s : Setting} {text : String} (h : o.set s text = .ok o') :
    o'.file = (Item.setting s (encode text)).script?.or o.file := by
  cases s with
  | file | config | logLevel =>
      cases h
      rfl
  | path =>
      rw [set] at h
      split at h
      · cases h
      · cases h
        rfl

/-- An item that names a script replaces the one before, and no other item does. -/
theorem file_of_apply (h : apply o item = .ok o') : o'.file = item.script?.or o.file := by
  cases item with
  | flag f =>
      cases h
      cases f <;> rfl
  | plain argument =>
      rw [apply] at h
      split at h
      · cases h
        rfl
      · cases h
  | setting s value =>
      obtain ⟨text, rfl, hset⟩ := apply_setting_eq_ok_iff.mp h
      exact file_of_set hset

/-! ## All of them -/

/-- **file_of_foldlM** — of the scripts that are named, the last one counts. -/
theorem file_of_foldlM (h : items.foldlM apply o = .ok o') :
    o'.file = (items.filterMap Item.script?).getLast?.or o.file := by
  induction items generalizing o with
  | nil =>
      cases h
      rfl
  | cons item items ih =>
      rw [List.foldlM_cons] at h
      cases hitem : apply o item with
      | error f =>
          rw [hitem] at h
          cases h
      | ok o₁ =>
          rw [hitem] at h
          rw [ih h, file_of_apply hitem]
          cases hscript : item.script? with
          | none =>
              rw [List.filterMap_cons_none hscript]
              rfl
          | some path =>
              rw [List.filterMap_cons_some hscript, List.getLast?_cons]
              cases (items.filterMap Item.script?).getLast? <;> rfl

/-- **foldlM_isOk_iff** — items are accepted if each of them is sound and the plain argument stands
before all others that name a script. -/
theorem foldlM_isOk_iff :
    (∃ o', items.foldlM apply o = .ok o') ↔
      (∀ item ∈ items, item.Sound) ∧ PlainFirst items ∧
        (o.file ≠ none → ∀ item ∈ items, item.isPlain = false) := by
  induction items generalizing o with
  | nil => exact iff_of_true ⟨o, rfl⟩ ⟨List.forall_mem_nil _, .nil, fun _ => List.forall_mem_nil _⟩
  | cons item items ih =>
      rw [List.foldlM_cons, PlainFirst, List.pairwise_cons, List.forall_mem_cons,
        List.forall_mem_cons]
      constructor
      · rintro ⟨o', h⟩
        cases hitem : apply o item with
        | error f =>
            rw [hitem] at h
            cases h
        | ok o₁ =>
            rw [hitem] at h
            obtain ⟨hsound, hfirst⟩ := apply_isOk_iff.mp ⟨o₁, hitem⟩
            obtain ⟨hsounds, hfirsts, hlater⟩ := ih.mp ⟨o', h⟩
            have hfile := file_of_apply hitem
            refine ⟨⟨hsound, hsounds⟩, ⟨fun later hmem hscript => hlater ?_ later hmem, hfirsts⟩,
              fun hne => ⟨hfirst hne, hlater ?_⟩⟩
            · rw [hfile]
              exact fun hnone => hscript (Option.or_eq_none_iff.mp hnone).1
            · rw [hfile]
              exact fun hnone => hne (Option.or_eq_none_iff.mp hnone).2
      · rintro ⟨⟨hsound, hsounds⟩, ⟨hscript, hfirsts⟩, hlater⟩
        obtain ⟨o₁, hitem⟩ := apply_isOk_iff.mpr ⟨hsound, fun hne => (hlater hne).1⟩
        rw [hitem]
        refine ih.mpr ⟨hsounds, hfirsts, fun hne later hmem => ?_⟩
        rw [file_of_apply hitem, ne_eq, Option.or_eq_none_iff, not_and_or] at hne
        rcases hne with hitem | hne
        · exact hscript later hmem hitem
        · exact (hlater hne).2 later hmem

/-- A command line is accepted if it is spelled right and its items are accepted. -/
theorem parse_eq_ok_iff {arguments : List Bytes} :
    parse arguments = .ok o ↔ (Scan.ofArguments arguments).fault = none ∧
      (Scan.ofArguments arguments).items.foldlM apply {} = .ok o := by
  rw [parse]
  cases (Scan.ofArguments arguments).items.foldlM apply {} with
  | error f => simp
  | ok o' =>
      cases (Scan.ofArguments arguments).fault with
      | some f => simp
      | none => simp

/-- **A plain argument is accepted only as the first to name a script**, whatever is spelled around
it. Then it is the only plain argument, and it is the script unless an option names another one
behind it. -/
theorem parse_namesScript (arguments : List Bytes) :
    ((∃ o, parse arguments = .ok o) ↔
        (Scan.ofArguments arguments).fault = none ∧
          (∀ item ∈ (Scan.ofArguments arguments).items, item.Sound) ∧
          PlainFirst (Scan.ofArguments arguments).items) ∧
      ∀ o, parse arguments = .ok o →
        o.file = ((Scan.ofArguments arguments).items.filterMap Item.script?).getLast? ∧
        ∀ argument, .plain argument ∈ (Scan.ofArguments arguments).items →
          (Scan.ofArguments arguments).items.filter Item.isPlain = [.plain argument] ∧
          ((∀ value, .setting .file value ∉ (Scan.ofArguments arguments).items) →
            o.file = some ⟨argument⟩) := by
  constructor
  · simp only [parse_eq_ok_iff, exists_and_left, foldlM_isOk_iff, ne_eq, not_true_eq_false,
      IsEmpty.forall_iff, and_true]
  · intro o ho
    obtain ⟨-, hitems⟩ := parse_eq_ok_iff.mp ho
    have hfile := file_of_foldlM hitems
    rw [Option.or_none] at hfile
    obtain ⟨-, hfirst, -⟩ := foldlM_isOk_iff.mp ⟨o, hitems⟩
    refine ⟨hfile, fun argument hmem => ⟨hfirst.filter_isPlain hmem, fun hnone => ?_⟩⟩
    rw [hfile, filterMap_script?_eq hnone, hfirst.filter_isPlain hmem]
    rfl

/-- A script that looks like an option, behind the mark and other options. -/
def markedScript : List Bytes := [encode "-t", encode "--path=/opt;~/d", encode "--", encode "-f"]

theorem markedScript_named :
    parse markedScript = .ok
        { file := some ⟨encode "-f"⟩, thread := true, path := some "/opt;~/d" } ∧
      .plain (encode "-f") ∈ (Scan.ofArguments markedScript).items ∧
      (∀ value, .setting .file value ∉ (Scan.ofArguments markedScript).items) ∧
      (Scan.ofArguments markedScript).items.filter Item.isPlain = [.plain (encode "-f")] ∧
      ∀ o, parse markedScript = .ok o → o.file = some ⟨encode "-f"⟩ := by
  have hitems : (Scan.ofArguments markedScript).items =
      [.flag .thread, .setting .path (encode "/opt;~/d"), .plain (encode "-f")] := by decide
  have hparse : parse markedScript = .ok
      { file := some ⟨encode "-f"⟩, thread := true, path := some "/opt;~/d" } := by decide
  have hmem : .plain (encode "-f") ∈ (Scan.ofArguments markedScript).items := by simp [hitems]
  have hnone : ∀ value, .setting .file value ∉ (Scan.ofArguments markedScript).items := by
    simp [hitems]
  have hnames := (parse_namesScript markedScript).2
  exact ⟨hparse, hmem, hnone, ((hnames _ hparse).2 _ hmem).1,
    fun o ho => ((hnames o ho).2 _ hmem).2 hnone⟩

/-- An option behind the plain argument takes its place and nothing is said, though the other way
round the plain argument is refused. -/
theorem plainScript_replaced :
    .plain (encode "setup") ∈
        (Scan.ofArguments [encode "setup", encode "-f", encode "other"]).items ∧
      parse [encode "setup", encode "-f", encode "other"] =
        .ok { file := some ⟨encode "other"⟩ } ∧
      parse [encode "-f", encode "other", encode "setup"] =
        .error (.unexpectedArgument "setup") := by
  decide

end Options

end CommandShell.CommandLine
