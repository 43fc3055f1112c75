import CommandShell.CommandLine.Options
import CommandShell.Proofs.Text.Utf8

/-!
# What the items of a command line add up to

A command line names a script as a plain argument, as the value of `--file`, or not at all: its
**delivery**. Beside the items that do so there are those that ask for a worker, those that choose a
configuration file, and all others. Each kind of items sets fields of its own, so that it makes no
difference where they stand among each other.

The items that deliver the script or ask for a worker are never refused, so everything else that is
asked for, and every refusal, comes from the rest of the items (`parse_of_spelled`). Of these, an
item that chooses a configuration file is refused only if the name of the file is no text
(`others_of_textual`).
-/

namespace CommandShell.CommandLine

open CommandShell.Text
open CommandShell.Files

/-! ## Kinds of items -/

/-- **Delivery** — how a command line hands a script over. -/
inductive Delivery
  /-- A file is named by a plain argument. -/
  | argument (path : String)
  /-- A file is named by an option. -/
  | option (path : String)
  /-- No file is named. -/
  | input
  deriving DecidableEq, Repr

namespace Delivery

/-- The items that name the file. -/
def items : Delivery → List Item
  | .argument path => [.plain (encode path)]
  | .option path => [.setting .file (encode path)]
  | .input => []

/-- The file that is named. -/
def path? : Delivery → Option Path
  | .argument path | .option path => some (.ofString path)
  | .input => none

end Delivery

namespace Item

/-- Whether an item names a script. -/
def isDelivery : Item → Bool
  | .plain _ | .setting .file _ => true
  | .flag _ | .setting .config _ | .setting .path _ | .setting .logLevel _ => false

/-- The configuration file that an item names. -/
def config? : Item → Option Bytes
  | .setting .config value => some value
  | .plain _ | .flag _ | .setting .file _ | .setting .path _ | .setting .logLevel _ => none

/-- Whether an item is about something else than the script and the worker. -/
def isKept : Item → Bool
  | .flag .thread | .plain _ | .setting .file _ => false
  | .flag .help | .flag .version | .setting .config _ | .setting .path _ | .setting .logLevel _ =>
    true

/-- Whether an item is about something else than the script, the configuration file and the worker.
-/
def isOther : Item → Bool
  | .flag .thread | .plain _ | .setting .file _ | .setting .config _ => false
  | .flag .help | .flag .version | .setting .path _ | .setting .logLevel _ => true

theorem isKept_of_isOther : ∀ {item : Item}, item.isOther = true → item.isKept = true
  | .flag .help, _ | .flag .version, _ | .setting .path _, _ | .setting .logLevel _, _ => rfl

theorem isDelivery_of_isKept : ∀ {item : Item}, item.isKept = true → item.isDelivery = false
  | .flag .help, _ | .flag .version, _ => rfl
  | .setting .config _, _ | .setting .path _, _ | .setting .logLevel _, _ => rfl

/-- The items of another kind are all kept. -/
theorem filter_isOther_filter_isKept (items : List Item) :
    (items.filter isKept).filter isOther = items.filter isOther := by
  rw [List.filter_filter]
  refine List.filter_congr fun item _ => ?_
  cases h : item.isOther with
  | true => rw [isKept_of_isOther h, Bool.and_self]
  | false => rfl

/-- An item that is kept and not of another kind chooses a configuration file. -/
theorem exists_config {item : Item} (hkept : item.isKept = true) (hother : item.isOther = false) :
    ∃ value, item = .setting .config value := by
  cases item with
  | plain argument => cases hkept
  | flag f =>
      cases f with
      | thread => cases hkept
      | help => cases hother
      | version => cases hother
  | setting s value =>
      cases s with
      | file => cases hkept
      | config => exact ⟨value, rfl⟩
      | path => cases hother
      | logLevel => cases hother

theorem config?_of_not_isKept : ∀ {item : Item}, item.isKept = false → item.config? = none
  | .plain _, _ | .flag .thread, _ | .setting .file _, _ => rfl

end Item

/-- The configuration file that items name: the last one. -/
def configPath (items : List Item) : Option Path := (items.filterMap Item.config?).getLast?.map .mk

namespace Options

/-- **kept** — the options that are not about the script and the worker. -/
def kept (o : Options) : Options := { o with file := none, thread := false }

/-- **others** — the options that are not about the script, the configuration file and the worker.
-/
def others (o : Options) : Options := { o with file := none, config := none, thread := false }

/-! ## Items one by one -/

variable {o o' : Options} {item : Item} {items : List Item} {d : Delivery}

theorem valueText_eq_ok_iff {value : Bytes} {text : String} :
    valueText value = .ok text ↔ value = encode text := by
  rw [← decode?_eq_some_iff, valueText]
  cases decode? value with
  | none => simp
  | some text' => simp

theorem apply_file (o : Options) (path : String) :
    apply o (.setting .file (encode path)) = .ok { o with file := some (.ofString path) } := by
  rw [apply, valueText_eq_ok_iff.mpr rfl]
  rfl

theorem apply_config (o : Options) (path : String) :
    apply o (.setting .config (encode path)) = .ok { o with config := some (.ofString path) } := by
  rw [apply, valueText_eq_ok_iff.mpr rfl]
  rfl

theorem apply_plain (ho : o.file = none) (path : String) :
    apply o (.plain (encode path)) = .ok { o with file := some (.ofString path) } := by
  rw [apply, ho]
  rfl

/-- **apply_kept** — an item that is kept neither needs to know of the script and the worker nor
names a script. The configuration file is the one that it names, if it names one. -/
theorem apply_kept (h : item.isKept = true) :
    (apply o item).map kept = apply o.kept item ∧
      ∀ o', apply o item = .ok o' →
        o'.file = o.file ∧ o'.config = (item.config?.map Files.Path.mk).or o.config := by
  cases item with
  | plain argument => cases h
  | flag f =>
      cases f with
      | thread => cases h
      | help => exact ⟨rfl, fun o' ho => by cases ho; exact ⟨rfl, rfl⟩⟩
      | version => exact ⟨rfl, fun o' ho => by cases ho; exact ⟨rfl, rfl⟩⟩
  | setting s value =>
      rw [apply, apply]
      cases hvalue : valueText value with
      | error f => exact ⟨rfl, fun o' ho => by cases ho⟩
      | ok text =>
          cases s with
          | file => cases h
          | logLevel => exact ⟨rfl, fun o' ho => by cases ho; exact ⟨rfl, rfl⟩⟩
          | config =>
              obtain rfl := valueText_eq_ok_iff.mp hvalue
              exact ⟨rfl, fun o' ho => by cases ho; exact ⟨rfl, rfl⟩⟩
          | path =>
              simp only [Except.bind, set]
              split
              · exact ⟨rfl, fun o' ho => by cases ho⟩
              · exact ⟨rfl, fun o' ho => by cases ho; exact ⟨rfl, rfl⟩⟩

/-- An item of another kind does not need to know of the configuration file, either. -/
theorem apply_other (h : item.isOther = true) :
    (apply o item).map others = apply o.others item := by
  cases item with
  | plain argument => cases h
  | flag f =>
      cases f with
      | thread => cases h
      | help => rfl
      | version => rfl
  | setting s value =>
      rw [apply, apply]
      cases valueText value with
      | error f => rfl
      | ok text =>
          cases s with
          | file => cases h
          | config => cases h
          | logLevel => rfl
          | path =>
              simp only [Except.bind, set]
              split <;> rfl

/-! ## All of them -/

/-- The last file that is named counts. -/
theorem configPath_cons (item : Item) (items : List Item) :
    configPath (item :: items) = (configPath items).or (item.config?.map Files.Path.mk) := by
  unfold configPath
  cases hc : item.config? with
  | none =>
      rw [List.filterMap_cons_none hc]
      exact Option.or_none.symm
  | some value =>
      rw [List.filterMap_cons_some hc, List.getLast?_cons]
      cases (items.filterMap Item.config?).getLast? with
      | none => rfl
      | some last => rfl

/-- The configuration file is named by an item that is kept. -/
theorem configPath_filter_isKept (items : List Item) :
    configPath (items.filter Item.isKept) = configPath items := by
  unfold configPath
  rw [List.filterMap_filter]
  refine congrArg (fun values => (List.getLast? values).map Files.Path.mk) ?_
  refine congrArg (List.filterMap · items) (funext fun item => ?_)
  cases h : item.isKept with
  | true => rfl
  | false => exact (Item.config?_of_not_isKept h).symm

/-- **Added** — what items add up to: `after` is what they make of `before`, if it can be made, when
one script at most is named by them or before them. -/
structure Added (d : Delivery) (items : List Item) (before : Options)
    (after : Except ArgumentFault Options) : Prop where
  kept : after.map kept = (items.filter Item.isKept).foldlM apply before.kept
  file : ∀ o, after = .ok o → o.file = d.path?.or before.file
  config : ∀ o, after = .ok o → o.config = (configPath items).or before.config

/-- An item that is about the script or the worker, and those that follow it. -/
theorem added_own {d' : Delivery} (h : item.isKept = false) (happly : apply o item = .ok o')
    (hkept : o'.kept = o.kept) (hfile : d'.path?.or o'.file = d.path?.or o.file)
    (ha : Added d' items o' (items.foldlM apply o')) :
    Added d (item :: items) o ((item :: items).foldlM apply o) := by
  have hconfig : o'.config = o.config := (congrArg Options.config hkept : o'.kept.config = _)
  rw [List.foldlM_cons, happly]
  refine ⟨?_, ?_, ?_⟩
  · rw [List.filter_cons_of_neg (by simp [h]), ← hkept]
    exact ha.kept
  · exact fun o₁ h₁ => (ha.file o₁ h₁).trans hfile
  · intro o₁ h₁
    rw [configPath_cons, Item.config?_of_not_isKept h, Option.map_none, Option.or_none, ← hconfig]
    exact ha.config o₁ h₁

/-- An item that is kept, and those that follow it. -/
theorem added_kept (h : item.isKept = true)
    (ha : ∀ o', apply o item = .ok o' → o'.file = o.file →
      Added d items o' (items.foldlM apply o')) :
    Added d (item :: items) o ((item :: items).foldlM apply o) := by
  obtain ⟨hkept, hsame⟩ := apply_kept (o := o) h
  cases happly : apply o item with
  | error f =>
      rw [happly] at hkept
      rw [List.foldlM_cons, happly]
      refine ⟨?_, ?_, ?_⟩
      · rw [List.filter_cons_of_pos h, List.foldlM_cons, ← hkept]
        rfl
      · intro o₁ h₁
        cases h₁
      · intro o₁ h₁
        cases h₁
  | ok o' =>
      obtain ⟨hfile, hconfig⟩ := hsame o' happly
      have hadded := ha o' happly hfile
      rw [happly] at hkept
      rw [List.foldlM_cons, happly]
      refine ⟨?_, ?_, ?_⟩
      · rw [List.filter_cons_of_pos h, List.foldlM_cons, ← hkept]
        exact hadded.kept
      · exact fun o₁ h₁ => (hadded.file o₁ h₁).trans (by rw [hfile])
      · intro o₁ h₁
        rw [hadded.config o₁ h₁, hconfig, configPath_cons, Option.or_assoc]

/-- **Items add up** kind by kind. -/
theorem added_foldlM (hd : items.filter Item.isDelivery = d.items)
    (hfile : d = .input ∨ o.file = none) : Added d items o (items.foldlM apply o) := by
  induction items generalizing o d with
  | nil =>
      cases d with
      | argument path => cases hd
      | option path => cases hd
      | input => exact ⟨rfl, fun o' ho => by cases ho; rfl, fun o' ho => by cases ho; rfl⟩
  | cons item items ih =>
      cases hkept : item.isKept with
      | true =>
          rw [List.filter_cons_of_neg (by simp [Item.isDelivery_of_isKept hkept])] at hd
          exact added_kept hkept fun o' _ hsame => ih hd (hsame ▸ hfile)
      | false =>
          cases item with
          | plain argument =>
              cases d with
              | option path => cases hd
              | input => cases hd
              | argument path =>
                  obtain ⟨hhead, hrest⟩ := List.cons.inj hd
                  cases hhead
                  have ho : o.file = none := hfile.resolve_left Delivery.noConfusion
                  exact added_own hkept (apply_plain ho path) rfl rfl
                    (ih (d := .input) hrest (.inl rfl))
          | flag f =>
              cases f with
              | help => cases hkept
              | version => cases hkept
              | thread => exact added_own hkept rfl rfl rfl (ih hd hfile)
          | setting s value =>
              cases s with
              | path => cases hkept
              | logLevel => cases hkept
              | config => cases hkept
              | file =>
                  cases d with
                  | argument path => cases hd
                  | input => cases hd
                  | option path =>
                      obtain ⟨hhead, hrest⟩ := List.cons.inj hd
                      cases hhead
                      exact added_own hkept (apply_file o path) rfl rfl
                        (ih (d := .input) hrest (.inl rfl))

/-- **A command line that is spelled right** asks for what the items that are kept add up to, and
for the script and the configuration file that it names. -/
theorem parse_of_spelled {arguments : List Bytes} (hs : (Scan.ofArguments arguments).fault = none)
    (hd : (Scan.ofArguments arguments).items.filter Item.isDelivery = d.items) :
    (parse arguments).map kept =
        ((Scan.ofArguments arguments).items.filter Item.isKept).foldlM apply {} ∧
      ∀ o, parse arguments = .ok o →
        o.file = d.path? ∧ o.config = configPath (Scan.ofArguments arguments).items := by
  have hparse : parse arguments = (Scan.ofArguments arguments).items.foldlM apply {} := by
    rw [parse, hs]
    cases (Scan.ofArguments arguments).items.foldlM apply {} with
    | error f => rfl
    | ok o => rfl
  have ha := added_foldlM (o := {}) hd (.inr rfl)
  rw [hparse]
  refine ⟨ha.kept, fun o ho => ⟨?_, ?_⟩⟩
  · rw [ha.file o ho, Option.or_none]
  · rw [ha.config o ho, Option.or_none]

/-- **others_of_textual** — of the items that are kept, those of another kind add up to the other
options, if the names of configuration files are texts. -/
theorem others_of_textual (hkept : ∀ item ∈ items, item.isKept = true)
    (htext : ∀ value, .setting .config value ∈ items → ∃ path, value = encode path) :
    (items.foldlM apply o).map others = (items.filter Item.isOther).foldlM apply o.others := by
  induction items generalizing o with
  | nil => rfl
  | cons item items ih =>
      obtain ⟨hitem, hitems⟩ := List.forall_mem_cons.mp hkept
      have hlater : ∀ o' : Options, (items.foldlM apply o').map others =
          (items.filter Item.isOther).foldlM apply o'.others :=
        fun o' => ih hitems fun value hmem => htext value (List.mem_cons_of_mem item hmem)
      rw [List.foldlM_cons]
      cases hother : item.isOther with
      | true =>
          have happly := apply_other (o := o) hother
          rw [List.filter_cons_of_pos hother, List.foldlM_cons, ← happly]
          cases apply o item with
          | error f => rfl
          | ok o' => exact hlater o'
      | false =>
          rw [List.filter_cons_of_neg (by simp [hother])]
          obtain ⟨value, rfl⟩ := Item.exists_config hitem hother
          obtain ⟨path, rfl⟩ := htext value (List.mem_cons_self ..)
          rw [apply_config]
          exact hlater { o with config := some (.ofString path) }

end Options

end CommandShell.CommandLine
