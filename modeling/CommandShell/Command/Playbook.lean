import CommandShell.Session.Console

/-!
# Playbooks: dispatchers that follow a script of deeds

A playbook says for some lines what the dispatcher does with the session and which verdict it
returns; every other line succeeds without any effect. It can do whatever a dispatcher may do, and
so stands for an arbitrary one.
-/

namespace CommandShell

open CommandShell.Files

/-- **Deed** — one thing that a dispatcher does. -/
inductive Deed
  | push (source : Source)
  /-- Reads a script; if it cannot be opened, that is noted and nothing else happens. -/
  | readScript (path : Path)
  | close
  | noteDepth
  | cancel
  | panic
  deriving DecidableEq, Repr

/-- **Play** — what is done with a line, and the verdict. -/
structure Play where
  deeds : List Deed := []
  verdict : Verdict := .ok
  deriving DecidableEq, Repr

/-- **Playbook** — the plays by line, and the files that scripts are read from. -/
structure Playbook where
  files : FileSystem
  plays : List (String × Play)
  /-- How many sources may lie on the first one where a script is opened; nothing means no limit. -/
  room : Option Nat := none

namespace Playbook

/-- The requests of deeds, with the depth of the stack before them, and whether they end in a
panic. -/
def requests (b : Playbook) : List Deed → Nat → List Request × Bool
  | [], _ => ([], false)
  | .panic :: _, _ => ([], true)
  | deed :: rest, depth =>
    let (mine, depth) : List Request × Nat := match deed with
      | .push source => ([.push source], depth + 1)
      | .readScript path =>
        match Source.openNested b.files b.room depth path with
        | .error e => ([.note (.includeFailed e.message)], depth)
        | .ok source => ([.note (.included source.name), .push source], depth + 1)
      | .close => ([.close], depth)
      | .noteDepth => ([.note (.sawDepth depth)], depth)
      | .cancel => ([.cancel], depth)
      | .panic => ([], depth)
    let (others, panics) := b.requests rest depth
    (mine ++ others, panics)

/-- **execute** — carries a line out. -/
def execute {ε : Type} (b : Playbook) (env : ε) (line : String) (depth : Nat) : Reaction ε :=
  match (b.plays.find? fun entry => entry.1 == line).map (·.2) with
  | none => { env, result := .ok .ok }
  | some play =>
    let (requests, panics) := b.requests play.deeds depth
    { requests, env,
      result := if panics then .error ⟨"dispatcher panic on " ++ line⟩ else .ok play.verdict }

end Playbook

end CommandShell
