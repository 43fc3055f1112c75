import CommandShell.Session.Event

/-!
# The collaborators of a session

A session works with a **host**: a line reader, a dispatcher, and the standard input that it falls
back on. The host has a state of its own, which its functions take and give back; the session never
looks inside. A dispatcher learns the line and the depth of the stack and answers with a list of
**requests**, which the session carries out in order. Both may panic instead of answering, and both
may ask for the worker to be cancelled.

A reader is handed the current source itself, and the session goes on with whatever source stands in
its place afterwards. What a reader takes away is no longer the session's to release. A well-behaved
one takes from the stream of the source and leaves the rest of it alone (`Host.Consumes`), as the
readers of the console do; what needs this says so.
-/

namespace CommandShell

open CommandShell.Files

/-- **LineResult** — what a line reader found. -/
inductive LineResult
  | line (text : String)
  | endOfInput
  | failed (reason : IoFault)
  deriving DecidableEq, Repr

/-- **Reading** — the answer of a line reader. -/
structure Reading (ε : Type) where
  /-- What stands in the place of the source after the read. -/
  source : Source
  env : ε
  notes : List Note := []
  /-- How often the worker was asked to stop meanwhile. -/
  cancels : Nat := 0
  result : Except Panic LineResult

/-- The stream of what stands in the place of the source. -/
def Reading.stream {ε : Type} (r : Reading ε) : Stream := r.source.stream

/-- **Inspection** — the answer of a line reader that is asked who types the lines of a source. -/
structure Inspection (ε : Type) where
  env : ε
  /-- Whether a person types them. -/
  result : Except Panic Bool

/-- **Request** — what a dispatcher asks of the session. -/
inductive Request
  /-- Read this source before the current one goes on. -/
  | push (source : Source)
  /-- Shut the session down once the line has returned. -/
  | close
  /-- Ask the worker to stop. -/
  | cancel
  | note (n : Note)
  deriving DecidableEq, Repr

/-- **Reaction** — the answer of a dispatcher. -/
structure Reaction (ε : Type) where
  requests : List Request := []
  env : ε
  result : Except Panic Verdict

/-- **Host** — the collaborators of a session, with a state of type `ε`. -/
structure Host (ε : Type) where
  /-- Standard input as a source. -/
  standardInput : Source
  /-- Tells whether a person types the lines of the source. -/
  interactive : ε → Source → Inspection ε
  /-- Reads a line from the source. -/
  read : ε → Source → Reading ε
  /-- Carries out a line, given the depth of the stack. -/
  execute : ε → String → Nat → Reaction ε

/-- **Consumes** — the reader leaves every source that it is handed in its place, and changes at
most what is left of its stream. -/
def Host.Consumes {ε : Type} (h : Host ε) : Prop :=
  ∀ env source, ∃ stream, (h.read env source).source = { source with stream }

end CommandShell
