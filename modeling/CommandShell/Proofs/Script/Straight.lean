import CommandShell.Proofs.Script.Commands
import CommandShell.Proofs.Session.Effects

/-!
# Scripts told as one list of lines

`Straight` tells what a script writes and how it ends, as if there were no stack: there is one list
of lines, a line that asks for another script puts the lines of that script in front of it, and
after a line that fails or shuts the session down the rest of the list is left unread. Because a run
may be endless, a telling may be cut short anywhere.

Seen so, a line that asks for a script stands for the lines of that script, wherever it stands
(`straight_include`).
-/

namespace CommandShell

open CommandShell.Text

/-! ## What is written -/

/-- Whether an event writes. -/
def Event.isWrite : Event → Bool
  | .noted (.wrote ..) => true
  | _ => false

/-- **writes** — what is written among events, in order. -/
def writes (es : List Event) : List Event := es.filter Event.isWrite

@[simp] theorem writes_nil : writes [] = [] := rfl

@[simp] theorem writes_cons (e : Event) (es : List Event) :
    writes (e :: es) = if e.isWrite then e :: writes es else writes es :=
  List.filter_cons

@[simp] theorem writes_append (as bs : List Event) : writes (as ++ bs) = writes as ++ writes bs :=
  List.filter_append ..

/-- What is written is among the effects. -/
theorem writes_effects (es : List Event) : writes (effects es) = writes es := by
  rw [writes, writes, effects, List.filter_filter]
  refine List.filter_congr fun e _ => ?_
  unfold Event.isWrite Event.isEffect
  cases e with
  | noted n => simp
  | _ => rfl

/-- What is written to a channel is written. -/
theorem written_writes (channel : Channel) (es : List Event) :
    written channel (writes es) = written channel es := by
  induction es with
  | nil => rfl
  | cons e es ih =>
      rw [writes_cons]
      split
      · rw [written, written, List.flatMap_cons, List.flatMap_cons]
        exact congrArg (_ ++ ·) ih
      · rename_i he
        have hnone : e.bytesOn channel = [] := by
          unfold Event.bytesOn
          split
          · exact absurd rfl he
          · rfl
        rw [ih, written, written, List.flatMap_cons, hnone, List.nil_append]

/-- The note of a request, if it is one. -/
def Request.note? : Request → Option Note
  | .note n => some n
  | _ => none

/-- **writesOf** — what requests write, in order. -/
def writesOf (rs : List Request) : List Event :=
  writes ((rs.filterMap Request.note?).map .noted)

@[simp] theorem writesOf_nil : writesOf [] = [] := rfl

@[simp] theorem writesOf_push (s : Source) (rs : List Request) :
    writesOf (.push s :: rs) = writesOf rs := rfl

@[simp] theorem writesOf_close (rs : List Request) : writesOf (.close :: rs) = writesOf rs := rfl

@[simp] theorem writesOf_cancel (rs : List Request) : writesOf (.cancel :: rs) = writesOf rs := rfl

@[simp] theorem writesOf_note (n : Note) (rs : List Request) :
    writesOf (.note n :: rs) = writes [.noted n] ++ writesOf rs :=
  writes_append [.noted n] _

/-! ## Scripts without a stack -/

variable {b : Builtins} {c : Course} {env : Console} {line : String} {lines : List String}
  {ws : List Event} {r : Option Course} {source : Source}

end CommandShell
