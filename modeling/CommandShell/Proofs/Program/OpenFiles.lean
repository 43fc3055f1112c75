import CommandShell.Proofs.Script.Commands
import CommandShell.Proofs.Session.Turns

/-!
# A limit on open files that is never met

A line is **crowded** where it asks for a script that there is no room for. The commands of the
shell answer it with an error and push nothing (`execute_crowded`); every other line has the answer
that it has without a limit (`execute_unlimited`).

A crowded line leaves the stack as deep as it was, so the event of its dispatch shows at which depth
it stood. A run is **unhindered** if its events show no crowded line that failed. Such a run is the
run without a limit (`run_unlimited`).
-/

namespace CommandShell

open CommandShell.Files

/-! ## Crowded lines -/

/-- **crowded** — whether the line asks for a script at a depth at which there is no room for it. -/
def crowded (room : Option Nat) (line : String) (depth : Nat) : Bool :=
  match Command.parse line with
  | .source file => file ≠ "" && room.any (· < depth)
  | _ => false

theorem crowded_iff {room : Option Nat} {line : String} {depth : Nat} :
    crowded room line depth = true ↔
      ∃ file, Command.parse line = .source file ∧ file ≠ "" ∧ room.any (· < depth) = true := by
  unfold crowded
  split
  · rename_i file hparse
    simp [hparse]
  · rename_i hother
    simp only [Bool.false_eq_true, false_iff]
    rintro ⟨file, hparse, -⟩
    exact hother file hparse

namespace Builtins

variable {b : Builtins} {line : String} {depth : Nat}

/-- **unlimited** — the same commands without a limit on open files. -/
def unlimited (b : Builtins) : Builtins := { b with room := none }

/-- A crowded line fails and pushes nothing. -/
theorem execute_crowded (c : Console) (hc : crowded b.room line depth = true) :
    (b.execute c line depth).result = .ok .scriptError ∧
      pushes (b.execute c line depth).requests = [] := by
  obtain ⟨file, hparse, hfile, hfull⟩ := crowded_iff.mp hc
  have hopen : Source.openNested b.files b.room depth (.ofString file) =
      .error (.openInput (.ofString file) (.os .tooManyFiles)) := if_pos hfull
  rw [execute, hparse]
  dsimp only
  rw [readScript, if_neg hfile, hopen]
  exact ⟨rfl, rfl⟩

/-- **A line that is not crowded has the answer that it has without a limit.** -/
theorem execute_unlimited (c : Console) (hc : crowded b.room line depth = false) :
    b.unlimited.execute c line depth = b.execute c line depth := by
  rw [execute, execute]
  cases hparse : Command.parse line with
  | source file =>
      dsimp only
      rw [readScript, readScript]
      by_cases hfile : file = ""
      · rw [if_pos hfile, if_pos hfile]
      · have hopen : Source.openNested b.files b.room depth (.ofString file) =
            Source.openFile b.files (.ofString file) :=
          if_neg fun hfull => Bool.false_ne_true
            (hc.symm.trans (crowded_iff.mpr ⟨file, hparse, hfile, hfull⟩))
        rw [if_neg hfile, if_neg hfile, hopen]
        rfl
  | _ => rfl

end Builtins

/-! ## Unhindered runs -/

/-- **hindered** — whether an event shows a line that failed where it was crowded. -/
def Event.hindered (room : Option Nat) : Event → Bool
  | .dispatched line .scriptError depth => crowded room line depth
  | _ => false

/-- **Unhindered** — no line failed where it was crowded. -/
def Unhindered (room : Option Nat) (es : List Event) : Prop :=
  ∀ e ∈ es, e.hindered room = false

instance (room : Option Nat) (es : List Event) : Decidable (Unhindered room es) :=
  inferInstanceAs (Decidable (∀ e ∈ es, e.hindered room = false))

theorem Unhindered.subset {room : Option Nat} {es es' : List Event} (h : Unhindered room es')
    (hes : es ⊆ es') : Unhindered room es := fun e he => h e (hes he)

namespace Loop

/-- With another dispatcher a turn is the same, unless it answers differently in that turn. -/
theorem step_with {ε : Type} {h : Host ε} {l : Loop ε}
    (execute : ε → String → Nat → Reaction ε)
    (hsame : l.next = .dispatch → execute l.env l.line l.stack.depth = l.reaction h) :
    l.step { h with execute } = l.step h := by
  cases hn : l.next with
  | begin =>
      rw [step, step, hn]
      rfl
  | read =>
      rw [step, step, hn]
      rfl
  | dispatch =>
      have hreaction : ({ h with execute } : Host ε).execute l.env l.line l.stack.depth =
          h.execute l.env l.line l.stack.depth := hsame hn
      rw [step, step, hn]
      dsimp only
      rw [dispatch, dispatch, hreaction]
  | unwind => rw [step, step, hn]
  | stop => rw [step, step, hn]

variable {r : LineReader} {b : Builtins} {l : Loop Console} {terminals : List String}

/-- The events of a turn show a crowded line. -/
theorem dispatched_of_crowded (hn : l.next = .dispatch)
    (hc : crowded b.room l.line l.stack.depth = true) :
    .dispatched l.line .scriptError l.stack.depth ∈
      (l.step (r.host terminals b.execute)).events := by
  obtain ⟨hresult, hpushes⟩ := b.execute_crowded l.env hc
  rw [← reaction_host r terminals] at hresult hpushes
  have w : Way (r.host terminals b.execute) l _ := .dispatches hn hresult
  have hdepth : (l.carried (r.host terminals b.execute)).1.stack.depth = l.stack.depth := by
    rw [carried_loop, hpushes]
    exact Nat.zero_add _
  rw [w.step_eq, goOn_events, hdepth]
  simp

/-- An unhindered turn is the turn without a limit. -/
theorem step_unlimited
    (hfree : Unhindered b.room (l.step (r.host terminals b.execute)).events) :
    l.step (r.host terminals b.unlimited.execute) = l.step (r.host terminals b.execute) := by
  have hclear : l.next = .dispatch → crowded b.room l.line l.stack.depth = false := by
    intro hn
    cases hc : crowded b.room l.line l.stack.depth with
    | false => rfl
    | true => exact hc.symm.trans (hfree _ (dispatched_of_crowded hn hc))
  have hsame : l.next = .dispatch → b.unlimited.execute l.env l.line l.stack.depth =
      l.reaction (r.host terminals b.execute) := by
    intro hn
    rw [reaction_host, b.execute_unlimited l.env (hclear hn)]
  exact step_with b.unlimited.execute hsame

/-- So are any number of turns. -/
theorem follow_unlimited (n : Nat)
    (hfree : Unhindered b.room (follow (r.host terminals b.execute) n l).events) :
    follow (r.host terminals b.unlimited.execute) n l =
      follow (r.host terminals b.execute) n l := by
  induction n generalizing l with
  | zero => rfl
  | succ n ih =>
      cases he : (l.step (r.host terminals b.execute)).exit with
      | some e =>
          rw [follow_of_leaves n he] at hfree ⊢
          have hstep := step_unlimited hfree
          rw [follow_of_leaves n ((congrArg Turn.exit hstep).trans he), hstep]
      | none =>
          rw [follow_of_goesOn n he] at hfree ⊢
          have hstep := step_unlimited (hfree.subset (List.subset_append_left ..))
          rw [follow_of_goesOn n ((congrArg Turn.exit hstep).trans he), hstep,
            ih (hfree.subset (List.subset_append_right ..))]

end Loop

namespace Session

/-- **An unhindered run is the run without a limit** on open files. -/
theorem run_unlimited {r : LineReader} {b : Builtins} {terminals : List String}
    {s : Session Console} {n : Nat} {c : Bool}
    (hfree : Unhindered b.room (s.run (r.host terminals b.execute) n c).events) :
    s.run (r.host terminals b.unlimited.execute) n c =
      s.run (r.host terminals b.execute) n c := by
  by_cases hopen : s.state = .closing
  · rw [run, run, if_pos hopen, if_pos hopen]
  · rw [run_of_open _ n c hopen] at hfree ⊢
    rw [run_of_open _ n c hopen]
    have hfollow := Loop.follow_unlimited n (hfree.subset (List.subset_append_right ..))
    have henter : s.enter (r.host terminals b.unlimited.execute) c =
        s.enter (r.host terminals b.execute) c := rfl
    rw [henter, hfollow]

end Session

end CommandShell
