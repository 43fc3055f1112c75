import CommandShell.Proofs.Command.Parse
import CommandShell.Proofs.Script.Lines
import CommandShell.Proofs.Session.Nested

/-!
# What a line of a script can do

The commands of the shell do one of four things with a session (`Builtins.Does`): they write, they
ask for a script to be read, they ask for shutdown, or they are fatal (`does_execute`). They never
panic (`result_execute`), push at most one source (`pushes_execute`), and leave standard input alone
(`unread_execute`), on which what they do does not depend (`execute_onSinks`).

`Builtins.script?` is the script that a line asks for, if it can be opened. Where there is no limit
on open sources, what a line does does not depend on the depth of the stack either
(`execute_sinks`), and a line that asks for a script that can be opened gets it (`execute_script`).
-/

namespace CommandShell

open CommandShell.Text
open CommandShell.Files

/-- The reaction as it is on the console without standard input. -/
def Reaction.onSinks (reaction : Reaction Console) : Reaction Console :=
  { reaction with env := reaction.env.sinks }

@[simp] theorem Reaction.onSinks_requests (reaction : Reaction Console) :
    reaction.onSinks.requests = reaction.requests := rfl

@[simp] theorem Reaction.onSinks_env (reaction : Reaction Console) :
    reaction.onSinks.env = reaction.env.sinks := rfl

@[simp] theorem Reaction.onSinks_result (reaction : Reaction Console) :
    reaction.onSinks.result = reaction.result := rfl

namespace Builtins

variable {b : Builtins} {c : Console} {line file : String} {source : Source}

/-- **script?** — the script that a line asks for, if it asks for one that can be opened. -/
def script? (b : Builtins) (line : String) : Option Source :=
  match Command.parse line with
  | .source file =>
    if file = "" then none else (Source.openFile b.files (.ofString file)).toOption
  | _ => none

/-- A line that names a file asks for the script in it. -/
theorem script?_of_source (hp : Command.parse line = .source file) (hf : file ≠ "")
    (ho : Source.openFile b.files (.ofString file) = .ok source) :
    b.script? line = some source := by
  simp [script?, hp, hf, ho, Except.toOption]

/-- A script is a file, which nobody types, and not the first source of a run. -/
theorem file_of_script? (h : b.script? line = some source) :
    source.interactive = false ∧ source.origin = .file ∧ source.primordial = false := by
  unfold script? at h
  split at h
  · split at h
    · cases h
    · rename_i file _ _
      unfold Source.openFile at h
      cases hopened : b.files.opened (.ofString file) with
      | error e =>
          rw [hopened] at h
          cases h
      | ok opened =>
          rw [hopened] at h
          cases h
          exact ⟨rfl, rfl, rfl⟩
  · cases h

/-! ## The four things -/

/-- **Does** — what a line can do with a session. -/
inductive Does (b : Builtins) (c : Console) (line : String) : Reaction Console → Prop
  /-- It writes, and succeeds or fails. -/
  | writes {notes : List Note} {c' : Console} {v : Verdict} : c'.unread = c.unread → v ≠ .fatal →
      Does b c line { requests := notes.map .note, env := c', result := .ok v }
  /-- It asks for a script to be read. -/
  | includes {source : Source} : b.script? line = some source →
      Does b c line
        { requests := [.note (.included source.name), .push source], env := c, result := .ok .ok }
  /-- It asks for shutdown. -/
  | exits : Does b c line
      { requests := [.note .exitRequested, .close], env := c, result := .ok .ok }
  /-- It is fatal. -/
  | aborts : Does b c line { env := c, result := .ok .fatal }

theorem does_fail (notes : List Note) (message : String) : b.Does c line (fail c notes message) :=
  .writes rfl (by simp)

theorem does_answer : b.Does c line (answer c .ok) := by
  show b.Does c line { requests := [].map .note, env := c, result := .ok .ok }
  exact .writes rfl (by simp)

theorem does_print (text : String) : b.Does c line (print c text) := by
  unfold print
  split
  rename_i note c' fault heq
  have hunread : c'.unread = c.unread := by
    rw [Console.printLine] at heq
    cases heq
    rfl
  cases fault with
  | none =>
      show b.Does c line { requests := [note].map .note, env := c', result := .ok .ok }
      exact .writes hunread (by simp)
  | some reason => exact .writes hunread (by simp)

/-- **A line does one of four things.** -/
theorem does_execute (b : Builtins) (c : Console) (line : String) (depth : Nat) :
    b.Does c line (b.execute c line depth) := by
  rw [execute]
  cases hp : Command.parse line with
  | nothing => exact does_answer
  | exit => exact .exits
  | abort => exact .aborts
  | echo text => exact does_print text
  | source file =>
      simp only [readScript]
      split
      · exact does_fail [] _
      · rename_i hfile
        rw [Source.openNested]
        split
        · exact does_fail [] _
        · rename_i source hopen
          split at hopen
          · cases hopen
          · exact .includes (script?_of_source hp hfile hopen)
  | other text =>
      simp only [lookup]
      split
      · exact does_fail [] _
      · split
        · exact does_answer
        · exact does_print _

/-- A line leaves standard input alone. -/
theorem unread_execute (b : Builtins) (c : Console) (line : String) (depth : Nat) :
    (b.execute c line depth).env.unread = c.unread := by
  have hdoes := b.does_execute c line depth
  generalize b.execute c line depth = reaction at hdoes
  cases hdoes with
  | writes hunread => exact hunread
  | includes => rfl
  | exits => rfl
  | aborts => rfl

/-- A line never panics. -/
theorem result_execute (b : Builtins) (c : Console) (line : String) (depth : Nat) :
    ∃ v, (b.execute c line depth).result = .ok v := by
  have hdoes := b.does_execute c line depth
  generalize b.execute c line depth = reaction at hdoes
  cases hdoes with
  | writes => exact ⟨_, rfl⟩
  | includes => exact ⟨_, rfl⟩
  | exits => exact ⟨_, rfl⟩
  | aborts => exact ⟨_, rfl⟩

/-- A line pushes nothing but the script that it asks for. -/
theorem pushes_execute (b : Builtins) (c : Console) (line : String) (depth : Nat) :
    pushes (b.execute c line depth).requests = [] ∨
      ∃ source, b.script? line = some source ∧
        pushes (b.execute c line depth).requests = [source] := by
  have hdoes := b.does_execute c line depth
  generalize b.execute c line depth = reaction at hdoes
  cases hdoes with
  | @writes notes c' v _ _ =>
      have hnone : pushes (notes.map .note) = [] := by
        rw [pushes, List.filterMap_map]
        exact List.filterMap_eq_nil_iff.mpr fun _ _ => rfl
      exact .inl hnone
  | @includes source hs =>
      have hp : ({ source with primordial := false } : Source) = source := by
        obtain ⟨-, -, hp⟩ := file_of_script? hs
        rw [← hp]
      exact .inr ⟨source, hs, by rw [pushes_note, pushes_push, hp, pushes_nil]⟩
  | exits => exact .inl rfl
  | aborts => exact .inl rfl

/-! ## What a line depends on -/

/-- Without a limit a file can be opened at every depth. -/
theorem openNested_none (fs : FileSystem) (depth : Nat) (p : Path) :
    Source.openNested fs none depth p = Source.openFile fs p := rfl

/-- A line needs nothing of standard input. -/
theorem execute_onSinks (b : Builtins) (c : Console) (line : String) (depth : Nat) :
    b.execute c.sinks line depth = (b.execute c line depth).onSinks := by
  have hprint : ∀ text, print c.sinks text = (print c text).onSinks := by
    intro text
    have hout : c.sinks.out = c.out := rfl
    simp only [print, Console.printLine, hout]
    cases (c.out.writeLine text).2.2 with
    | none => rfl
    | some reason => rfl
  rw [execute, execute]
  cases hp : Command.parse line with
  | nothing => rfl
  | exit => rfl
  | abort => rfl
  | echo text => exact hprint text
  | source file =>
      simp only [readScript]
      split
      · rfl
      · cases Source.openNested b.files b.room depth (.ofString file) with
        | error e => rfl
        | ok source => rfl
  | other text =>
      simp only [lookup]
      split
      · rfl
      · split
        · rfl
        · exact hprint _

/-- Where there is no limit on open sources, a line does not need the depth of the stack. -/
theorem execute_depth (hb : b.room = none) (c : Console) (line : String) (depth depth' : Nat) :
    b.execute c line depth' = b.execute c line depth := by
  simp only [execute, readScript, hb, openNested_none]

/-- Where there is no limit on open sources, a line needs neither the depth of the stack nor
standard input. -/
theorem execute_sinks (hb : b.room = none) (c : Console) (line : String) (depth depth' : Nat) :
    b.execute c.sinks line depth' = (b.execute c line depth).onSinks := by
  rw [execute_onSinks, execute_depth hb]

end Builtins

/-! ## Lines of a session -/

theorem LineReader.host_execute (r : LineReader) (terminals : List String)
    (execute : Console → String → Nat → Reaction Console) :
    (r.host terminals execute).execute = execute := rfl

/-- Lines are carried out by the commands of the shell. -/
theorem Loop.reaction_host (r : LineReader) (terminals : List String) (b : Builtins)
    (l : Loop Console) :
    l.reaction (r.host terminals b.execute) = b.execute l.env l.line l.stack.depth := by
  rw [reaction, LineReader.host_execute]

end CommandShell
