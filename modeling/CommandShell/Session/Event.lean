import CommandShell.Log.Record
import CommandShell.Session.Source

/-!
# What a session does, as a list of events

Everything that can be observed of a session is an event: the lines it reads, the calls of its
dispatcher, what is written, which sources are released, and its log records. A run is the list of
its events, and each question about a run is a question about that list.

Collaborators add **notes** of their own; only the session itself reports on sources and states.
-/

namespace CommandShell

open CommandShell.Text
open CommandShell.Log

/-- **Channel** — where bytes are written. -/
inductive Channel
  /-- What commands print. -/
  | output
  /-- Messages about commands that failed. -/
  | errors
  /-- Prompts. -/
  | prompts
  deriving DecidableEq, Repr

/-- **Note** — what a line reader or a dispatcher reports. -/
inductive Note
  | wrote (channel : Channel) (bytes : Bytes)
  /-- A script was opened and is about to be read. -/
  | included (path : String)
  | exitRequested
  /-- The depth of the stack as the dispatcher saw it. -/
  | sawDepth (depth : Nat)
  | includeFailed (reason : String)
  deriving DecidableEq, Repr

/-- **Event** — one thing that a session did. -/
inductive Event
  | logged (record : Record)
  | noted (note : Note)
  /-- An iteration of the loop begins on the source. -/
  | started (source : String) (interactive : Bool)
  /-- A line was read from the source, or its end was met, after `before` lines. -/
  | lineRead (source : String) (before : Nat) (line : Option String)
  | readFailed (source : String) (before : Nat) (reason : String)
  | dispatched (line : String) (verdict : Verdict) (depth : Nat)
  /-- The stream of the source was closed. -/
  | released (source : Source)
  /-- The worker was asked to stop. -/
  | cancelAsked
  deriving DecidableEq, Repr

/-- The log record of a note, if it has one. -/
def Note.record? : Note → Option Record
  | .included path => some (.scriptIncluded path)
  | .exitRequested => some .exitRequested
  | .wrote .. | .sawDepth _ | .includeFailed _ => none

/-- The log record of an event, if it has one. -/
def Event.record? : Event → Option Record
  | .logged r => some r
  | .noted n => n.record?
  | _ => none

/-- The bytes that an event writes to a channel. -/
def Event.bytesOn (channel : Channel) : Event → Bytes
  | .noted (.wrote c bytes) => if c = channel then bytes else []
  | _ => []

/-- The log records among events. -/
def records (events : List Event) : List Record := events.filterMap Event.record?

/-- The bytes that events write to a channel. -/
def written (channel : Channel) (events : List Event) : Bytes :=
  events.flatMap (Event.bytesOn channel)

/-- The sources that events release, in order. -/
def releases (events : List Event) : List Source :=
  events.filterMap fun
    | .released s => some s
    | _ => none

end CommandShell
