import CommandShell.Proofs.Session.Acts

/-!
# Nested scripts told without a stack

`Nested` tells what a run does as a recursion over sources. A source is run by reading its lines in
order. After a line, the sources that it pushed are run to their ends, the last one first, before
the source goes on. How it goes on is its **course**: *onward* as a rule; after a line that failed,
*failed* until an interactive source is met, the others being left unread; *closing* once a line has
asked for shutdown or was fatal, and then every source is left unread.

There is no stack here and no table of moves: what is pending lies in the recursion. Because a run
may be endless, a telling may be cut short anywhere; `Fate` says whether it was.
-/

namespace CommandShell

open CommandShell.Log

/-! ## The course of a run -/

/-- **Course** — how things stand when the turn comes to a source. -/
inductive Course
  | onward
  /-- A line failed, and no interactive source was met since. -/
  | failed
  /-- The session is shutting down, perhaps after a fatal line. -/
  | closing (fatal : Bool)
  deriving DecidableEq, Repr

namespace Course

/-- **after** — the course after a line with a verdict, which may have asked for shutdown. -/
def after (v : Verdict) (closed : Bool) : Course :=
  match v, closed with
  | .fatal, _ => closing true
  | _, true => closing false
  | .ok, false => onward
  | .scriptError, false => failed

/-- The outcome of a run that ends with a course. -/
def outcome : Course → Outcome
  | onward => .completed
  | failed => .stoppedOnError
  | closing fatal => if fatal then .stoppedOnError else .completed

/-- The state in which a run with that course leaves its session. -/
def state : Course → State
  | onward => .ready
  | failed => .scriptError
  | closing _ => .closing

end Course

/-- The act of leaving a source with `below` others under it. -/
def Source.leaving (s : Source) (below : Nat) : Event :=
  .logged (.sourcePopped s.name s.linesRead below)

/-- **Fate** — how a telling ends: the task is done, with a course and the state of the host, or the
telling is cut short. -/
inductive Fate (ε : Type)
  | done (c : Course) (env : ε)
  | cut

/-- **Task** — what is told. -/
inductive Task
  /-- The sources are run one after the other. -/
  | all (c : Course) (sources : List Source)
  /-- The turn comes to a source. -/
  | enter (c : Course) (s : Source)
  /-- The next line of the source is read, and the source goes on. -/
  | next (s : Source)
  /-- A line just read from the source is carried out, and the source goes on. -/
  | line (s : Source) (text : String)
  /-- The source is left. -/
  | leave (c : Course) (s : Source)

variable {ε : Type}

/-- The source after a read. -/
def Source.readBy (s : Source) (h : Host ε) (env : ε) : Source := (h.read env s).source

/-- **Nested** — the task, begun in a state of the host with `below` sources under those that it is
about, leads to the acts and the fate. -/
inductive Nested (h : Host ε) : Nat → Task → ε → List Event → Fate ε → Prop
  /-- The telling may be cut short anywhere. -/
  | cut {below task env} : Nested h below task env [] .cut
  /-- No source is left to be run. -/
  | none {below c env} : Nested h below (.all c []) env [] (.done c env)
  /-- The first source is run to its end before the others. -/
  | first {below c s rest env t₁ c' env' t₂ r} :
      Nested h (below + rest.length) (.enter c s) env t₁ (.done c' env') →
      Nested h below (.all c' rest) env' t₂ r →
      Nested h below (.all c (s :: rest)) env (t₁ ++ t₂) r
  | firstCut {below c s rest env t} :
      Nested h (below + rest.length) (.enter c s) env t .cut →
      Nested h below (.all c (s :: rest)) env t .cut
  /-- As a rule a source goes on with its next line. -/
  | goesOn {below s env b t r} : (h.interactive env s).result = .ok b →
      Nested h below (.next s) (h.interactive env s).env t r →
      Nested h below (.enter .onward s) env t r
  /-- After a line that failed, an interactive source goes on with its next line … -/
  | recovers {below s env t r} : (h.interactive env s).result = .ok true →
      Nested h below (.next s) (h.interactive env s).env t r →
      Nested h below (.enter .failed s) env t r
  /-- … and any other is left unread. -/
  | failsToo {below s env t r} : (h.interactive env s).result = .ok false →
      Nested h below (.leave .failed s) (h.interactive env s).env t r →
      Nested h below (.enter .failed s) env t r
  /-- In a session that shuts down every source is left unread. -/
  | closes {below fatal s env t r} : Nested h below (.leave (.closing fatal) s) env t r →
      Nested h below (.enter (.closing fatal) s) env t r
  /-- A line that is read is carried out. -/
  | reads {below s env text t r} : (h.read env s).result = .ok (.line text) →
      Nested h below (.line (s.readBy h env).countLine text) (h.read env s).env t r →
      Nested h below (.next s) env (.lineRead s.name s.linesRead (some text) :: t) r
  /-- At its end a source is left … -/
  | ends {below s env t r} : (h.read env s).result = .ok .endOfInput →
      Nested h below (.leave .onward (s.readBy h env)) (h.read env s).env t r →
      Nested h below (.next s) env (.lineRead s.name s.linesRead none :: t) r
  /-- … and so is one that cannot be read. -/
  | fails {below s env reason t r} : (h.read env s).result = .ok (.failed reason) →
      Nested h below (.leave .onward (s.readBy h env)) (h.read env s).env t r →
      Nested h below (.next s) env (.readFailed s.name s.linesRead reason.message :: t) r
  /-- The sources that a line pushed are run before the source goes on, the last one first. -/
  | carries {below s text env reaction v t₁ c env' t₂ r} :
      h.execute env text (below + 1) = reaction → reaction.result = .ok v →
      Nested h (below + 1) (.all (.after v (.close ∈ reaction.requests))
        (pushes reaction.requests).reverse) reaction.env t₁ (.done c env') →
      Nested h below (.enter c s) env' t₂ r →
      Nested h below (.line s text) env
        (.dispatched text v (below + 1 + (pushes reaction.requests).length) :: (t₁ ++ t₂)) r
  | carriesCut {below s text env reaction v t} :
      h.execute env text (below + 1) = reaction → reaction.result = .ok v →
      Nested h (below + 1) (.all (.after v (.close ∈ reaction.requests))
        (pushes reaction.requests).reverse) reaction.env t .cut →
      Nested h below (.line s text) env
        (.dispatched text v (below + 1 + (pushes reaction.requests).length) :: t) .cut
  /-- Leaving a source does not change the course. -/
  | leaves {below c s env} : Nested h below (.leave c s) env [s.leaving below] (.done c env)

/-! ## Sources left unread -/

/-- The acts of leaving sources unread, one after the other. -/
def leavings (below : Nat) : List Source → List Event
  | [] => []
  | s :: rest => s.leaving (below + rest.length) :: leavings below rest

variable {h : Host ε} {below : Nat} {env env' : ε} {sources rest : List Source}

/-- After a line that failed, the sources that are not interactive are left unread. -/
theorem nested_failed (hs : h.Passes sources env env') :
    Nested h below (.all .failed sources) env (leavings below sources) (.done .failed env') := by
  induction hs with
  | nil => exact .none
  | cons hi _ ih => exact .first (.failsToo hi .leaves) ih

/-- In a session that shuts down all sources are left unread. -/
theorem nested_closing (fatal : Bool) :
    Nested h below (.all (.closing fatal) sources) env (leavings below sources)
      (.done (.closing fatal) env) := by
  induction sources with
  | nil => exact .none
  | cons s rest ih => exact .first (.closes .leaves) ih

/-- What is told of several sources is told of some of them and then of the others. -/
theorem Nested.all_append {c c' : Course} {t t' : List Event} {r : Fate ε}
    (hfirst : Nested h (below + rest.length) (.all c sources) env t (.done c' env'))
    (hrest : Nested h below (.all c' rest) env' t' r) :
    Nested h below (.all c (sources ++ rest)) env (t ++ t') r := by
  induction sources generalizing c env t with
  | nil =>
      cases hfirst with
      | none => exact hrest
  | cons s sources ih =>
      cases hfirst with
      | @first _ _ _ _ _ t₁ _ _ t₂ _ hs hall =>
          have hlen : below + rest.length + sources.length = below + (sources ++ rest).length := by
            rw [List.length_append]
            omega
          rw [hlen] at hs
          rw [List.append_assoc]
          exact .first hs (ih hall)

/-- **After a line that failed, the topmost interactive source goes on**; those above it are left
unread. -/
theorem nested_failed_recovers {s : Source} {t : List Event} {r : Fate ε}
    (hs : h.Passes sources env env') (hi : (h.interactive env' s).result = .ok true)
    (hgo : Nested h below (.all .onward (s :: rest)) env' t r) :
    Nested h below (.all .failed (sources ++ s :: rest)) env
      (leavings (below + (s :: rest).length) sources ++ t) r := by
  refine (nested_failed hs).all_append ?_
  -- An interactive source is entered alike after a failure and as a rule.
  have henter : ∀ t r, Nested h (below + rest.length) (.enter .onward s) env' t r →
      Nested h (below + rest.length) (.enter .failed s) env' t r := by
    intro t r hn
    cases hn with
    | cut => exact .cut
    | goesOn _ hn => exact .recovers hi hn
  cases hgo with
  | cut => exact .cut
  | first hn hall => exact .first (henter _ _ hn) hall
  | firstCut hn => exact .firstCut (henter _ _ hn)

end CommandShell
