import CommandShell.Log.Directive

/-!
# Which log records are shown

A filter is a comma-separated list of **directives**. For a record the directive decides that covers
it and takes precedence over the others, the last of several equal ones.

An empty filter shows errors only. A filter with a directive that cannot be read is no filter.
-/

namespace CommandShell.Log

open CommandShell.Text

/-- **Filter** — the directives in the order of the text. -/
structure Filter where
  directives : List Directive
  deriving DecidableEq, Repr

namespace Filter

/-- **parse** — reads a filter; empty directives count for nothing. -/
def parse (text : String) : Option Filter :=
  let parts := (splitOn (· = ',') text.toList).filter (!·.isEmpty)
  match parts.mapM Directive.parse with
  | none => none
  | some [] => some ⟨[{ rank := Level.error.rank }]⟩
  | some directives => some ⟨directives⟩

/-- The filter that is used where none is given, or none that can be read. -/
def standard : Filter := ⟨[{ target := "clish_engine", rank := Level.info.rank }]⟩

/-- **choose** — the filter for a configured level and a variable that may give another. The
variable counts only where the configured level is empty. -/
def choose (level : String) (fallback : Option String) : Filter :=
  let text := if level.isEmpty then fallback else some level
  match text with
  | none => standard
  | some text => (parse text).getD standard

/-- The directive that decides about a record: of those that cover it the one with the greatest
precedence, the last of several. -/
def decisive? (f : Filter) (r : Record) : Option Directive :=
  (f.directives.filter (·.covers r)).foldl
    (fun best d =>
      match best with
      | none => some d
      | some b => if (b.precedence d).isLE then some d else best)
    none

/-- **shows** — whether a record passes. One that no directive covers does not. -/
def shows (f : Filter) (r : Record) : Bool := (f.decisive? r).any fun d => r.level.rank ≤ d.rank

end Filter

end CommandShell.Log
