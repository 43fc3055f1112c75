import CommandShell.Session.Event

/-!
# The stack of nested sources

The top source is the one that is read. Leaving a source releases it before the one below becomes
current; leaving the first source of a run releases whatever should still be below it. Every
operation gives the new stack and its events.

A stack knows its depth, so that asking for it costs nothing however deep scripts nest. The sources
alone make the stack (`ext`), and what each operation does is said of them.
-/

namespace CommandShell

open CommandShell.Log

/-- **Stack** — the sources of a session, the current one first, and how many there are. -/
structure Stack where
  sources : List Source := []
  depth : Nat := 0
  depth_eq : depth = sources.length := by rfl
  deriving DecidableEq, Repr

namespace Stack

/-- The stack without sources. -/
def empty : Stack := {}

/-- Stacks of the same sources are the same. -/
@[ext]
theorem ext {s t : Stack} (h : s.sources = t.sources) : s = t := by
  obtain ⟨_, _, hs⟩ := s
  obtain ⟨_, _, ht⟩ := t
  subst hs ht h
  rfl

/-- Whether there is no source. -/
def isEmpty (s : Stack) : Bool := s.sources.isEmpty

/-- The source that is read. -/
def current? (s : Stack) : Option Source := s.sources.head?

/-- The stack with its current source changed. -/
def mapCurrent (f : Source → Source) (s : Stack) : Stack :=
  ⟨s.sources.modifyHead f, s.depth, by simp [s.depth_eq]⟩

/-- The stack without its current source. -/
def below (s : Stack) : Stack := ⟨s.sources.tail, s.depth - 1, by simp [s.depth_eq]⟩

/-- **push** — puts a source on top. -/
def push (s : Stack) (source : Source) (primordial : Bool) : Stack × List Event :=
  let source := { source with primordial }
  (⟨source :: s.sources, s.depth + 1, by simp [s.depth_eq]⟩,
    [.logged (.sourcePushed source.name primordial source.interactive (s.depth + 1))])

@[simp] theorem sources_mapCurrent (f : Source → Source) (s : Stack) :
    (s.mapCurrent f).sources = s.sources.modifyHead f := rfl

@[simp] theorem sources_below (s : Stack) : s.below.sources = s.sources.tail := rfl

@[simp] theorem sources_push (s : Stack) (source : Source) (primordial : Bool) :
    (s.push source primordial).1.sources = { source with primordial } :: s.sources := rfl

/-- The events of releasing every source, top first. -/
def releaseAll (sources : List Source) : List Event :=
  sources.flatMap fun source => [.logged (.sourceReleased source.name), .released source]

/-- **clear** — releases every source, top first. -/
def clear (s : Stack) : Stack × List Event := (empty, releaseAll s.sources)

/-- **pop** — releases the top source and tells whether another one is there to go on with. The
first source of a run takes everything below along. -/
def pop (s : Stack) : Stack × Bool × List Event :=
  match s.current? with
  | none => (s, false, [])
  | some top =>
    let left := [.logged (.sourcePopped top.name top.linesRead s.below.depth), .released top]
    if top.primordial then (empty, false, left ++ releaseAll s.below.sources)
    else (s.below, !s.below.isEmpty, left)

/-- A summary of a stack, the bottom first. -/
def summary (s : Stack) : String :=
  "InputStack \x7b sources: ["
    ++ ", ".intercalate (s.sources.reverse.map Source.summary) ++ "] \x7d"

end Stack

end CommandShell
