import CommandShell.Command.DefinitionFile
import CommandShell.Config.Basic
import CommandShell.Proofs.Json.Compact

/-!
# Configurations and definition files survive being written and read

`Config.IsText` and `DefinitionFile.IsText` hold of the texts that mean a configuration or a
definition file: sections and fields in any order, those left out that equal their defaults, others
with any values between them, and white space between the tokens. The compact text is one of them,
and each of them is read as what it means.

For every record there is the value over the fields given so far (`partly`), with the defaults in
the place of the others; that is all a record has to tell for `reads_record`.
-/

namespace CommandShell

open CommandShell.Json

/-- The value of a field when some names were given: its own, or the default. -/
def given {α : Type} (seen : List String) (name : String) (x default : α) : α :=
  if name ∈ seen then x else default

theorem given_self {α : Type} (seen : List String) (name : String) (x default : α) :
    given (name :: seen) name x default = x :=
  if_pos List.mem_cons_self

theorem given_of_ne {α : Type} (seen : List String) {name other : String} (ne : name ≠ other)
    (x default : α) : given (other :: seen) name x default = given seen name x default := by
  simp only [given, List.mem_cons, or_iff_right ne]

theorem given_of_omitted {α : Type} {seen : List String} {name : String} {x default : α}
    (h : name ∉ seen → x = default) : given seen name x default = x := by
  rw [given, ite_eq_left_iff]
  exact fun fresh => (h fresh).symm

/-! ## Sections -/

namespace Config.Definitions

/-- The parts of the section. -/
def parts (s : Config.Definitions) : List Part :=
  [⟨"path", IsString s.path, s.path = ({} : Config.Definitions).path⟩,
    ⟨"extension", IsString s.extension, s.extension = ({} : Config.Definitions).extension⟩,
    ⟨"home", IsOptional IsString s.home, s.home = none⟩]

/-- The section with some of its fields. -/
def partly (s : Config.Definitions) (seen : List String) : Config.Definitions where
  path := given seen "path" s.path ({} : Config.Definitions).path
  extension := given seen "extension" s.extension ({} : Config.Definitions).extension
  home := given seen "home" s.home none

theorem reads_home {home : Option String} {t : List Char} (h : IsOptional IsString home t) :
    Reads (.optional (.text "path string")) t home := by
  refine reads_optional (fun _ _ text => reads_text text _) (fun _ _ text => ?_) h
  obtain ⟨t', rfl⟩ := text.begins
  exact ⟨'"', t', rfl, rfl, by decide⟩

theorem follows (s : Config.Definitions) : record.Follows s.parts s.partly s where
  serves := by
    refine .cons (Record.serves_optional rfl (fun _ text => reads_text text _) ?_)
      (.cons (Record.serves_optional rfl (fun _ text => reads_text text _) ?_)
        (.cons (Record.serves_optional rfl (fun _ text => reads_home text) ?_) .nil))
    all_goals
      intro seen
      simp [partly, given_self, given_of_ne]
  start := rfl
  whole seen omitted := by
    simp only [parts, List.forall_mem_cons] at omitted
    obtain ⟨path, extension, home, -⟩ := omitted
    simp only [partly, given_of_omitted path, given_of_omitted extension, given_of_omitted home]

theorem isObject_compact (s : Config.Definitions) : IsObject s.parts s.toJson.compact.toList :=
  Json.isObject_compact
    (.cons ⟨rfl, isString_compact s.path⟩ (.cons ⟨rfl, isString_compact s.extension⟩
      (.cons ⟨rfl, isOptional_compact isString_compact s.home⟩ .nil)))
    (by simp [parts])

end Config.Definitions

namespace Config.Shell

/-- The parts of the section. -/
def parts (s : Config.Shell) : List Part :=
  [⟨"prompt", IsString s.prompt, s.prompt = ({} : Config.Shell).prompt⟩,
    ⟨"use_thread", IsBoolean s.useThread, s.useThread = false⟩,
    ⟨"thread_name", IsString s.threadName, s.threadName = ({} : Config.Shell).threadName⟩,
    ⟨"stack_size", IsOptional IsNatural s.stackSize, s.stackSize = none⟩]

/-- The section with some of its fields. -/
def partly (s : Config.Shell) (seen : List String) : Config.Shell where
  prompt := given seen "prompt" s.prompt ({} : Config.Shell).prompt
  useThread := given seen "use_thread" s.useThread false
  threadName := given seen "thread_name" s.threadName ({} : Config.Shell).threadName
  stackSize := given seen "stack_size" s.stackSize none

/-- **Sized** — a stack size is a number of at most 64 bits. -/
def Sized (s : Config.Shell) : Prop := ∀ n ∈ s.stackSize, n ≤ 0xFFFFFFFFFFFFFFFF

theorem reads_stackSize {size : Option Nat} (sized : ∀ n ∈ size, n ≤ 0xFFFFFFFFFFFFFFFF)
    {t : List Char} (h : IsOptional IsNatural size t) : Reads (.optional .count) t size := by
  refine reads_optional (fun n hn text => reads_count (sized n hn) text) (fun _ _ text => ?_) h
  obtain ⟨-, x, t', rfl, digit⟩ := text.begins
  exact ⟨x, t', rfl, (isDigit_begins digit).1, Cursor.isDigit_ne digit (by decide)⟩

theorem follows {s : Config.Shell} (sized : s.Sized) : record.Follows s.parts s.partly s where
  serves := by
    refine .cons (Record.serves_optional rfl (fun _ text => reads_text text _) ?_)
      (.cons (Record.serves_optional rfl (fun _ text => reads_truth text) ?_)
        (.cons (Record.serves_optional rfl (fun _ text => reads_text text _) ?_)
          (.cons (Record.serves_optional rfl (fun _ text => reads_stackSize sized text) ?_) .nil)))
    all_goals
      intro seen
      simp [partly, given_self, given_of_ne]
  start := rfl
  whole seen omitted := by
    simp only [parts, List.forall_mem_cons] at omitted
    obtain ⟨prompt, useThread, threadName, stackSize, -⟩ := omitted
    simp only [partly, given_of_omitted prompt, given_of_omitted useThread,
      given_of_omitted threadName, given_of_omitted stackSize]

theorem isObject_compact (s : Config.Shell) : IsObject s.parts s.toJson.compact.toList :=
  Json.isObject_compact
    (.cons ⟨rfl, isString_compact s.prompt⟩ (.cons ⟨rfl, isBoolean_compact s.useThread⟩
      (.cons ⟨rfl, isString_compact s.threadName⟩
        (.cons ⟨rfl, isOptional_compact isNatural_compact s.stackSize⟩ .nil))))
    (by simp [parts])

end Config.Shell

namespace Config.Logging

/-- The parts of the section. -/
def parts (s : Config.Logging) : List Part :=
  [⟨"level", IsString s.level, s.level = ({} : Config.Logging).level⟩]

/-- The section with some of its fields. -/
def partly (s : Config.Logging) (seen : List String) : Config.Logging where
  level := given seen "level" s.level ({} : Config.Logging).level

theorem follows (s : Config.Logging) : record.Follows s.parts s.partly s where
  serves := by
    refine .cons (Record.serves_optional rfl (fun _ text => reads_text text _) ?_) .nil
    intro seen
    simp [partly, given_self]
  start := rfl
  whole seen omitted := by
    simp only [parts, List.forall_mem_cons] at omitted
    simp only [partly, given_of_omitted omitted.1]

theorem isObject_compact (s : Config.Logging) : IsObject s.parts s.toJson.compact.toList :=
  Json.isObject_compact (.cons ⟨rfl, isString_compact s.level⟩ .nil) (by simp [parts])

end Config.Logging

/-! ## Configurations -/

namespace Config

/-- The sections as parts. -/
def parts (c : Config) : List Part :=
  [⟨"definitions", IsObject c.definitions.parts, c.definitions = {}⟩,
    ⟨"shell", IsObject c.shell.parts, c.shell = {}⟩,
    ⟨"logging", IsObject c.logging.parts, c.logging = {}⟩]

/-- **IsText** — a text that means a configuration. -/
def IsText (c : Config) : List Char → Prop := IsObject c.parts

/-- The configuration with some of its sections. -/
def partly (c : Config) (seen : List String) : Config where
  definitions := given seen "definitions" c.definitions {}
  shell := given seen "shell" c.shell {}
  logging := given seen "logging" c.logging {}

theorem follows {c : Config} (sized : c.shell.Sized) : record.Follows c.parts c.partly c where
  serves := by
    have definitions := fun t => Record.reads_record c.definitions.follows (t := t)
    have shell := fun t => Record.reads_record (Shell.follows sized) (t := t)
    have logging := fun t => Record.reads_record c.logging.follows (t := t)
    refine .cons (Record.serves_optional rfl definitions ?_)
      (.cons (Record.serves_optional rfl shell ?_)
        (.cons (Record.serves_optional rfl logging ?_) .nil))
    all_goals
      intro seen
      simp [partly, given_self, given_of_ne]
  start := rfl
  whole seen omitted := by
    simp only [parts, List.forall_mem_cons] at omitted
    obtain ⟨definitions, shell, logging, -⟩ := omitted
    simp only [partly, given_of_omitted definitions, given_of_omitted shell,
      given_of_omitted logging]

theorem isText_compact (c : Config) : c.IsText c.toJson.compact.toList :=
  isObject_compact
    (.cons ⟨rfl, c.definitions.isObject_compact⟩ (.cons ⟨rfl, c.shell.isObject_compact⟩
      (.cons ⟨rfl, c.logging.isObject_compact⟩ .nil)))
    (by simp [parts])

theorem parse_document {c : Config} (sized : c.shell.Sized) {source : String}
    (h : IsDocument c.IsText source.toList) : parse source = .ok c :=
  read_document (fun _ text => Record.reads_record (follows sized) text) h

end Config

/-! ## Definition files -/

namespace Definition

/-- The parts of a command. -/
def parts (d : Definition) : List Part :=
  [⟨"name", IsString d.name, False⟩, ⟨"output", IsString d.output, d.output = ""⟩]

/-- The command with some of its fields. -/
def partly (d : Definition) (seen : List String) : Definition where
  name := given seen "name" d.name ""
  output := given seen "output" d.output ""

theorem follows (d : Definition) : record.Follows d.parts d.partly d where
  serves := by
    refine .cons (Record.serves_required rfl not_false (fun _ text => reads_text text _) ?_)
      (.cons (Record.serves_optional rfl (fun _ text => reads_text text _) ?_) .nil)
    all_goals
      intro seen
      simp [partly, given_self, given_of_ne]
  start := rfl
  whole seen omitted := by
    simp only [parts, List.forall_mem_cons] at omitted
    obtain ⟨name, output, -⟩ := omitted
    have name : "name" ∉ seen → d.name = "" := fun fresh => (name fresh).elim
    simp only [partly, given_of_omitted name, given_of_omitted output]

theorem isObject_compact (d : Definition) : IsObject d.parts d.toJson.compact.toList :=
  Json.isObject_compact
    (.cons ⟨rfl, isString_compact d.name⟩ (.cons ⟨rfl, isString_compact d.output⟩ .nil))
    (by simp [parts])

end Definition

namespace DefinitionFile

/-- The part of a definition file. -/
def parts (f : DefinitionFile) : List Part :=
  [⟨"commands", IsList (fun d => IsObject (Definition.parts d)) f.commands, f.commands = []⟩]

/-- **IsText** — a text that means a definition file. -/
def IsText (f : DefinitionFile) : List Char → Prop := IsObject f.parts

/-- The definition file with its commands or without. -/
def partly (f : DefinitionFile) (seen : List String) : DefinitionFile where
  commands := given seen "commands" f.commands []

theorem follows (f : DefinitionFile) : record.Follows f.parts f.partly f where
  serves := by
    refine .cons (Record.serves_optional rfl (fun _ text => reads_list ?_ text) ?_) .nil
    · exact fun d _ text => ⟨text.begins, Record.reads_record d.follows text⟩
    · intro seen
      simp [partly, given_self]
  start := rfl
  whole seen omitted := by
    simp only [parts, List.forall_mem_cons] at omitted
    simp only [partly, given_of_omitted omitted.1]

theorem isText_compact (f : DefinitionFile) : f.IsText f.toJson.compact.toList :=
  isObject_compact (.cons ⟨rfl, isList_compact Definition.isObject_compact f.commands⟩ .nil)
    (by simp [parts])

theorem parse_document {f : DefinitionFile} {source : String}
    (h : IsDocument f.IsText source.toList) : parse source = .ok f :=
  read_document (fun _ text => Record.reads_record f.follows text) h

end DefinitionFile

/-! ## Both -/

/-- **parse_rearranged** — a configuration and a definition file are read back from their compact
texts, and from every text that means the same. -/
theorem parse_rearranged (c : Config) (sized : c.shell.Sized) (f : DefinitionFile) :
    (Config.parse c.toJson.compact = .ok c ∧ IsDocument c.IsText c.toJson.compact.toList ∧
      ∀ source : String, IsDocument c.IsText source.toList → Config.parse source = .ok c) ∧
    (DefinitionFile.parse f.toJson.compact = .ok f ∧ IsDocument f.IsText f.toJson.compact.toList ∧
      ∀ source : String, IsDocument f.IsText source.toList →
        DefinitionFile.parse source = .ok f) := by
  have compact := isDocument_of_text c.isText_compact
  have compact' := isDocument_of_text f.isText_compact
  exact ⟨⟨Config.parse_document sized compact, compact, fun _ => Config.parse_document sized⟩,
    ⟨DefinitionFile.parse_document compact', compact', fun _ => DefinitionFile.parse_document⟩⟩

/-- A member without gaps. -/
def plainMember (name : String) (value : List Char) : String × Member :=
  (name, ⟨name.toList.flatMap Value.escapeChar, Gap.none, Gap.none, value⟩)

/-- The configuration with the greatest stack size. -/
def greatestStack : Config := { shell := { stackSize := some 18446744073709551615 } }

theorem greatestStack_sized : greatestStack.shell.Sized := by
  intro n hn
  obtain rfl := Option.some.inj hn
  exact Nat.le_refl _

/-- The members of its section without the defaults. -/
theorem greatestStack_shell : IsObject greatestStack.shell.parts
    "\x7b\"stack_size\":18446744073709551615\x7d".toList := by
  refine ⟨[plainMember "stack_size" "18446744073709551615".toList], _, ⟨?_, ?_, ?_, ?_, ?_⟩,
    separated_intercalate _, by decide⟩
  · intro m hm
    obtain rfl := List.mem_singleton.mp hm
    exact spells_escape _
  · simp [plainMember, Config.Shell.parts, greatestStack, IsOptional, IsNatural]
    decide
  · simp [plainMember, Config.Shell.parts]
  · simp [plainMember, Config.Shell.parts]
  · simp [plainMember, Config.Shell.parts, greatestStack]

theorem greatestStack_text : IsDocument greatestStack.IsText
    " \x7b\"x\":[\x7b\x7d],\"shell\":\x7b\"stack_size\":18446744073709551615\x7d\x7d".toList := by
  have unknown : IsValue "[\x7b\x7d]".toList := by
    have empty : IsValue ['\x7b', '\x7d'] :=
      @IsValue.object [] [] (by simp) (by simp) (.none Gap.none)
    exact @IsValue.list [['\x7b', '\x7d']] _ (by simpa using empty) (separated_intercalate _)
  refine ⟨⟨[' '], by simp [Cursor.isSpace]⟩, Gap.none, _,
    ⟨[plainMember "x" "[\x7b\x7d]".toList,
        plainMember "shell" "\x7b\"stack_size\":18446744073709551615\x7d".toList],
      _, ⟨?_, ?_, ?_, ?_, ?_⟩, separated_intercalate _, rfl⟩, by decide⟩
  · intro m hm
    rcases List.mem_pair.mp hm with rfl | rfl <;> exact spells_escape _
  · simpa [plainMember, Config.parts] using greatestStack_shell
  · simpa [plainMember, Config.parts] using unknown
  · simp [plainMember, Config.parts]
  · simp [plainMember, Config.parts, greatestStack]

/-- The greatest stack size, with the defaults left out and behind a value that nobody asked for. -/
theorem parse_rearranged_greatestStack :
    greatestStack.shell.Sized ∧ Config.parse
      " \x7b\"x\":[\x7b\x7d],\"shell\":\x7b\"stack_size\":18446744073709551615\x7d\x7d" =
        .ok greatestStack :=
  ⟨greatestStack_sized, (parse_rearranged greatestStack greatestStack_sized {}).1.2.2 _
    greatestStack_text⟩

end CommandShell
