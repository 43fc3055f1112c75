import CommandShell.Text.BreakClass

/-!
# Visible characters

A **cluster** is what a reader takes for one character: a letter with its accents, a syllable, a
flag, a family of joined pictographs. `clusters` cuts a text into its extended grapheme clusters.
Whether there is a cut in front of a character depends on its class and on what stands on its left,
of which `Left` keeps as much as the rules need. Nothing is lost by cutting (`flatten_clusters`).
-/

namespace CommandShell.Text

namespace BreakClass

/-- Whether characters of the class end a line or stand alone. -/
def standsAlone (k : BreakClass) : Bool :=
  k = carriageReturn || k = lineFeed || k = control

/-- Whether characters of the class extend the character before them. -/
def isExtending (k : BreakClass) : Bool := k = mark || k = linker || k = nonJoiner

/-- Whether two characters of Korean writing make one syllable. -/
def makeSyllable : BreakClass → BreakClass → Bool
  | initial, k => k = initial || k = vowel || k = openSyllable || k = closedSyllable
  | openSyllable, k | vowel, k => k = vowel || k = final
  | closedSyllable, k | final, k => k = final
  | _, _ => false

end BreakClass

/-- **Left** — what is known of the text on the left of a place. -/
structure Left where
  /-- The class of the last character. -/
  last : BreakClass := .control
  /-- Whether it ends in a pictograph and marks that extend it. -/
  pictograph : Bool := false
  /-- Whether it ends in such a pictograph and a joiner. -/
  joined : Bool := false
  /-- Whether it ends in a consonant and marks, and then, whether one of the marks is a linker. -/
  consonant : Option Bool := none
  /-- Whether it ends in an odd number of halves of the signs of regions. -/
  halfRegion : Bool := false
  deriving DecidableEq, Repr

namespace Left

/-- What is known behind one more character. -/
def next (l : Left) (k : BreakClass) : Left where
  last := k
  pictograph := k = .pictograph || (l.pictograph && k.isExtending)
  joined := l.pictograph && k = .joiner
  consonant := match k with
    | .consonant => some false
    | .linker => l.consonant.map fun _ => true
    | .mark | .joiner => l.consonant
    | _ => none
  halfRegion := k = .regional && !l.halfRegion

/-- Whether a character of the class belongs to the cluster on the left. -/
def joins (l : Left) (k : BreakClass) : Bool :=
  if l.last.standsAlone || k.standsAlone then l.last = .carriageReturn && k = .lineFeed
  else
    k.isExtending || k = .joiner || k = .spacing || l.last = .leading || l.last.makeSyllable k
      || (k = .consonant && l.consonant = some true) || (k = .pictograph && l.joined)
      || (k = .regional && l.halfRegion)

end Left

/-- **Cutting** — how far a text is cut. -/
structure Cutting where
  left : Left := {}
  /-- The cluster that is being read, backwards. -/
  current : List Char := []
  /-- The clusters before it, the last first. -/
  finished : List (List Char) := []
  deriving DecidableEq, Repr

namespace Cutting

/-- One more character. -/
def step (s : Cutting) (c : Char) : Cutting :=
  let k := breakClass c
  let left := s.left.next k
  if s.current.isEmpty || s.left.joins k then { s with left, current := c :: s.current }
  else { left, current := [c], finished := s.current.reverse :: s.finished }

/-- The clusters at the end of the text. -/
def finish (s : Cutting) : List (List Char) :=
  (if s.current.isEmpty then s.finished else s.current.reverse :: s.finished).reverse

end Cutting

/-- **clusters** — the visible characters of a text. -/
def clusters (cs : List Char) : List (List Char) := (cs.foldl Cutting.step {}).finish

namespace Cutting

/-- The characters that are read so far stand in the clusters. -/
theorem flatten_finish_step (s : Cutting) (c : Char) :
    (s.step c).finish.flatten = s.finish.flatten ++ [c] := by
  obtain ⟨left, current, finished⟩ := s
  cases current with
  | nil => simp [step, finish]
  | cons d rest =>
    cases h : left.joins (breakClass c) <;> simp [step, finish, h]

/-- The characters that are read later follow them. -/
theorem flatten_finish_foldl (s : Cutting) (cs : List Char) :
    (cs.foldl step s).finish.flatten = s.finish.flatten ++ cs := by
  induction cs generalizing s with
  | nil => simp
  | cons c cs ih => simp [ih, flatten_finish_step]

end Cutting

/-- The clusters of a text make the text. -/
theorem flatten_clusters (cs : List Char) : (clusters cs).flatten = cs := by
  rw [clusters, Cutting.flatten_finish_foldl]
  simp [Cutting.finish]

end CommandShell.Text
