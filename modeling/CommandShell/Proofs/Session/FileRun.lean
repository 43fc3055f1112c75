import CommandShell.Files.Snapshot
import CommandShell.Proofs.Session.Closing
import CommandShell.Proofs.Session.Release

/-!
# A run with a script releases what it opened

A run with a script goes through several hands. The script takes the place of a primary input that
may be waiting, the thread of the run may be refused, a closing session leaves the script where it
is, a worker may panic, and the session that comes back gives up what is left. On each of these ways
a different one releases the script, and `runFile_releases` says that on all of them it is released
exactly once, and so was what was waiting before.

Where the script is taken up by a run, the ledger of that run accounts for it: it is the first
source pushed and the last one released. What accompanies the run trades no source
(`trades_employ`), and whoever gives the session up finds nothing left to release
(`discard_of_panicked`).
-/

namespace CommandShell

open CommandShell.Text
open CommandShell.Files
open CommandShell.Log

variable {ε : Type}

/-! ## Trades -/

/-- **trades** — the pushes and releases of sources among events, in order. -/
def trades (es : List Event) : List Event := es.filter Event.isTrade

@[simp] theorem trades_append (es es' : List Event) :
    trades (es ++ es') = trades es ++ trades es' :=
  List.filter_append ..

/-- A ledger has no other entries. -/
theorem Ledger.Entered.trades {b b' : Ledger} {es : List Event} (h : Entered b es b') :
    Entered b (CommandShell.trades es) b' := by
  induction h with
  | nil => exact .nil
  | push _ ih => exact .push ih
  | release hheld hlabel _ ih => exact .release hheld hlabel ih
  | other he _ ih =>
      unfold CommandShell.trades at ih ⊢
      rw [List.filter_cons_of_neg (by simp [he])]
      exact ih

namespace Ending

/-- The primary input of the session that comes back. -/
def waiting : Ending ε → Option Source
  | completed s _ => s.primary
  | failed .. | panicked .. | unfinished _ => none

/-- The ending with this primary input given up. -/
def relieved : Ending ε → Ending ε
  | completed s o => completed s.releasePrimary.1 o
  | e => e

end Ending

/-- Settling gives up what waits in the session that comes back, and does nothing else. -/
theorem Report.settle_eq (r : Report ε) :
    r.settle =
      { transcript := r.transcript ++ Transcript.ofCaller (Session.giveUp r.ending.waiting)
        ending := r.ending.relieved } := by
  obtain ⟨t, ending⟩ := r
  cases ending with
  | completed s o => rfl
  | failed e env => exact congrArg (Report.mk · _) (List.append_nil t).symm
  | panicked p env => exact congrArg (Report.mk · _) (List.append_nil t).symm
  | unfinished s => exact congrArg (Report.mk · _) (List.append_nil t).symm

namespace Session

variable {s : Session ε}

theorem trades_giveUp (waiting : Option Source) : trades (giveUp waiting) = giveUp waiting := by
  cases waiting <;> rfl

theorem trades_during (place : Place) (n : Nat) (es : List Event) :
    trades (place.engage n ++ place.during none es).events = trades es := by
  rw [events_append, events_during, trades_append]
  cases place <;> rfl

/-- A session with an empty stack holds its primary input only. -/
theorem discard_of_empty (hs : s.stack = .empty) : s.discard = giveUp s.primary := by
  rw [discard, hs]
  rfl

/-! ## Where a run takes place -/

/-- A run that panicked has taken the primary input, and left nothing on the stack. -/
theorem discard_of_panicked (h : Host ε) (n : Nat) (c : Bool) {p : Panic} (hs : s.stack = .empty)
    (he : (s.run h n c).exit = some (.panicked p)) : (s.run h n c).session.discard = [] := by
  have hstack : (s.run h n c).session.stack = .empty := by
    rw [← runAsked_none] at he ⊢
    exact stack_of_runAsked h _ n c hs he
  have hopen : s.state ≠ .closing := by
    intro hclosing
    rw [run, if_pos hclosing] at he
    cases he
  rw [discard_of_empty hstack, run_of_open h n c hopen]
  rfl

/-- The end of a run trades no source if a panic leaves none, and the session that comes back is the
one that the run has left. -/
theorem trades_dismiss (place : Place) (t : Transcript) {r : Run ε} {e : Exit}
    (he : r.exit = some e) (hd : ∀ p, e = .panicked p → r.session.discard = []) :
    trades (place.dismiss t r).transcript.events = trades t.events ∧
      ∀ s' o, (place.dismiss t r).ending = .completed s' o → s' = r.session := by
  obtain ⟨es, session, exit⟩ := r
  obtain rfl : exit = some e := he
  have hlogged : ∀ record, Event.isTrade (.logged record) = false →
      trades (t ++ [(.caller, .logged record)] : Transcript).events = trades t.events := by
    intro record hrecord
    rw [events_append, trades_append]
    show trades t.events ++ [Event.logged record].filter Event.isTrade = _
    rw [List.filter_cons_of_neg (by simp [hrecord]), List.filter_nil, List.append_nil]
  cases e with
  | outcome o =>
      cases place with
      | caller => exact ⟨rfl, fun s' o' h => by cases h; rfl⟩
      | worker name => exact ⟨hlogged _ rfl, fun s' o' h => by cases h; rfl⟩
  | panicked p =>
      have hnone : session.discard = [] := hd p rfl
      have hrest : ∀ thread : Thread, t ++ session.discard.map ((thread, ·)) = t := by
        intro thread
        rw [hnone, List.map_nil, List.append_nil]
      cases place with
      | caller =>
          exact ⟨congrArg (trades <| Transcript.events ·) (hrest .caller), fun s' o h => by cases h⟩
      | worker name =>
          refine ⟨?_, fun s' o h => by cases h⟩
          show trades (t ++ _ ++ _ : Transcript).events = _
          rw [hrest]
          exact hlogged _ rfl

/-- **What accompanies a run trades no source.** -/
theorem trades_employ (h : Host ε) (turns : Nat) (place : Place) {e : Exit} (hs : s.stack = .empty)
    (he : (s.run h turns false).exit = some e) :
    trades (s.employ h turns place none).transcript.events = trades (s.run h turns false).events ∧
      ∀ s' o, (s.employ h turns place none).ending = .completed s' o →
        s' = (s.run h turns false).session := by
  obtain ⟨htrades, hsession⟩ := trades_dismiss place
    (place.engage s.number ++ place.during none (s.run h turns false).events) he
    fun p hp => discard_of_panicked h turns false hs (hp ▸ he)
  rw [trades_during] at htrades
  exact ⟨htrades, hsession⟩

/-- A run is over if its operation is. -/
theorem exit_of_employ (h : Host ε) (turns : Nat) (place : Place)
    (hover : ∀ s', (s.employ h turns place none).ending ≠ .unfinished s') :
    ∃ e, (s.run h turns false).exit = some e := by
  cases he : (s.run h turns false).exit with
  | some e => exact ⟨e, rfl⟩
  | none =>
      have hnot := hover (s.run h turns false).session
      simp [employ, Place.dismiss, he] at hnot

/-! ## Runs with a script -/

variable (h : Host ε) (threads : Threads) {files : FileSystem} (turns : Nat) {path : Path}
variable {mode : RunMode} {script : Source}

/-- A script that cannot be opened loses the session, and what was waiting in it. -/
theorem runFile_of_refused (mode : RunMode) {e : ShellError} (hs : s.stack = .empty)
    (ho : Source.openFile files path = .error e) :
    trades (s.runFile h threads files turns path mode).transcript.events = giveUp s.primary ∧
      (s.runFile h threads files turns path mode).ending = .failed e s.env := by
  rw [runFile, takeScript_of_refused s ho]
  refine ⟨?_, rfl⟩
  show trades (Transcript.events ([] ++ Transcript.ofCaller s.discard)) = _
  rw [List.nil_append, events_ofCaller, discard_of_empty hs, trades_giveUp]

/-- What is traded by a run with a script: what was waiting is released, then come the trades of the
run, and then the release of what waits in the session that comes back. -/
theorem trades_runFile (ho : Source.openFile files path = .ok script) {r : Report ε}
    (hr : (s.setPrimary script).1.runIn h threads turns mode none = r) :
    trades (s.runFile h threads files turns path mode).transcript.events =
        giveUp s.primary ++ (trades r.transcript.events ++ giveUp r.ending.waiting) ∧
      (s.runFile h threads files turns path mode).ending = r.ending.relieved := by
  have hstart : trades (.logged (.scriptStarted path.shown) :: (s.setPrimary script).2) =
      giveUp s.primary := trades_giveUp s.primary
  rw [runFile, takeScript_of_opened s ho]
  dsimp only
  rw [hr, Report.settle_eq]
  dsimp only
  rw [events_append, events_append, events_ofCaller, events_ofCaller, trades_append, trades_append,
    hstart, trades_giveUp, List.append_assoc]
  exact ⟨rfl, rfl⟩

/-- A session that gets no thread releases what is waiting. -/
theorem trades_turnAway (hs : s.stack = .empty) (refusal : Refusal) :
    trades (s.turnAway refusal).transcript.events = giveUp s.primary := by
  have hdiscard : trades (Transcript.ofCaller s.discard).events = giveUp s.primary := by
    rw [events_ofCaller, discard_of_empty hs, trades_giveUp]
  cases refusal with
  | fails reason => exact hdiscard
  | panics p => exact hdiscard

/-- The thread of the run is refused. -/
theorem runFile_of_noThread {refusal : Refusal} (hs : s.stack = .empty)
    (ho : Source.openFile files path = .ok script)
    (hp : s.placeFor threads mode = .error refusal) :
    trades (s.runFile h threads files turns path mode).transcript.events =
        giveUp s.primary ++ [.released script] ∧
      ∀ s' o, (s.runFile h threads files turns path mode).ending ≠ .completed s' o := by
  have hp' : (s.setPrimary script).1.placeFor threads mode = .error refusal := hp
  have hr : (s.setPrimary script).1.runIn h threads turns mode none =
      (s.setPrimary script).1.turnAway refusal := by rw [runIn, hp']
  obtain ⟨htrades, hending⟩ := trades_runFile h threads turns (s := s) ho hr
  rw [htrades, hending, trades_turnAway (s := (s.setPrimary script).1) hs]
  cases refusal with
  | fails reason =>
      refine ⟨rfl, ?_⟩
      intro s' o hcompleted
      cases hcompleted
  | panics p =>
      refine ⟨rfl, ?_⟩
      intro s' o hcompleted
      cases hcompleted

/-- A closing session does not take the script up. -/
theorem runFile_of_closing {place : Place} (hclosing : s.state = .closing) (hs : s.stack = .empty)
    (ho : Source.openFile files path = .ok script) (hp : s.placeFor threads mode = .ok place) :
    trades (s.runFile h threads files turns path mode).transcript.events =
        giveUp s.primary ++ [.released script] ∧
      (s.runFile h threads files turns path mode).ending =
        .completed { s with primary := none } .completed := by
  have hp' : (s.setPrimary script).1.placeFor threads mode = .ok place := hp
  have hrun : (s.setPrimary script).1.run h turns false = (s.setPrimary script).1.idleRun :=
    if_pos hclosing
  have hr : (s.setPrimary script).1.runIn h threads turns mode none =
      (s.setPrimary script).1.employ h turns place none := by rw [runIn, hp']
  obtain ⟨hemploy, -⟩ := trades_employ (s := (s.setPrimary script).1) h turns place hs
    (congrArg Run.exit hrun)
  obtain ⟨t, ht, -⟩ := runIn_of_closing h turns none (s := (s.setPrimary script).1) hclosing hp'
  obtain ⟨htrades, hending⟩ := trades_runFile h threads turns (s := s) ho hr
  have hcompleted := congrArg Report.ending (hr.symm.trans ht)
  rw [hemploy, hrun, hcompleted] at htrades
  rw [hcompleted] at hending
  exact ⟨htrades, hending⟩

/-- An open session takes the script up, and the ledger of the run accounts for it if the reader
only consumes what it is handed. -/
theorem runFile_of_open {place : Place} (hopen : s.state ≠ .closing) (hs : s.stack = .empty)
    (ho : Source.openFile files path = .ok script) (hp : s.placeFor threads mode = .ok place)
    (hover : ∀ s', (s.runFile h threads files turns path mode).ending ≠ .unfinished s') :
    (∃ later, trades (s.runFile h threads files turns path mode).transcript.events =
        giveUp s.primary ++ later ∧
        (h.Consumes → ∃ b, Ledger.Entered {} later b ∧
          b.Tracks { script with primordial := true }.label [])) ∧
      ∀ s' o, (s.runFile h threads files turns path mode).ending = .completed s' o →
        s'.stack = .empty ∧ s'.primary = none := by
  have hp' : (s.setPrimary script).1.placeFor threads mode = .ok place := hp
  have hr : (s.setPrimary script).1.runIn h threads turns mode none =
      (s.setPrimary script).1.employ h turns place none := by rw [runIn, hp']
  obtain ⟨htrades, hending⟩ := trades_runFile h threads turns (s := s) ho hr
  rw [hending] at hover ⊢
  rw [htrades]
  generalize hS : (s.setPrimary script).1 = S at hover ⊢
  have hopen' : S.state ≠ .closing := hS ▸ hopen
  have hs' : S.stack = .empty := hS ▸ hs
  have hroot : S.root h = { script with primordial := true } := by rw [← hS]; rfl
  obtain ⟨e, he⟩ := exit_of_employ h turns place fun s' hunfinished =>
    hover s' (congrArg Ending.relieved hunfinished)
  obtain ⟨hemploy, hsession⟩ := trades_employ h turns place hs' he
  have hprimary : (S.run h turns false).session.primary = none := by
    rw [run_of_open h turns false hopen']
    rfl
  rw [← runAsked_none] at he
  have hstack := stack_of_runAsked h _ turns false hs' he
  have hledger := fun hc : h.Consumes => accounted_runAsked hc _ turns false hopen' hs' he
  rw [runAsked_none] at hstack hledger
  rw [hroot] at hledger
  generalize hreport : S.employ h turns place none = r at hemploy hsession hover ⊢
  have hwaiting : r.ending.waiting = none := by
    cases hr : r.ending with
    | completed s' o =>
        rw [Ending.waiting, hsession s' o hr]
        exact hprimary
    | failed | panicked | unfinished => rfl
  rw [hemploy, hwaiting]
  refine ⟨⟨_, rfl, fun hc => ?_⟩, fun s' o h => ?_⟩
  · obtain ⟨b, hentered, htracks⟩ := hledger hc
    exact ⟨b, (List.append_nil _).symm ▸ hentered.trades, htracks⟩
  · cases hr : r.ending with
    | completed s'' o' =>
        rw [hr] at h
        cases h
        rw [hsession s'' o hr]
        exact ⟨hstack, rfl⟩
    | failed | panicked | unfinished =>
        rw [hr] at h
        cases h

/-- **Unbegun** — no run begins: the script cannot be opened, the session is closing, or the thread
cannot be made. -/
def Unbegun (threads : Threads) (files : FileSystem) (path : Path) (mode : RunMode)
    (s : Session ε) : Prop :=
  (∃ e, Source.openFile files path = .error e) ∨ s.state = .closing ∨
    ∃ e, s.placeFor threads mode = .error e

/-- **AccountsFor** — the trades release the script exactly once: at once where no run begins, and
otherwise, if the reader only consumes what it is handed, as the first source of a run that releases
each of its sources once. -/
structure AccountsFor (h : Host ε) (script : Source) (unbegun : Prop) (later : List Event) :
    Prop where
  unused : unbegun → later = [.released script]
  used : ¬unbegun → h.Consumes → ∃ b, Ledger.Entered {} later b ∧ b.held = [] ∧
    b.released.Perm (List.range b.pushed.length) ∧
    b.pushed.head? = some { script with primordial := true }.label ∧ b.released.getLast? = some 0

/-- Nobody is called and nothing is done where no run begins. -/
theorem runFile_of_unbegun (hu : s.Unbegun threads files path mode) :
    (Operation.runFile h threads files path mode turns).calls s = [] ∧
      doings (s.runFile h threads files turns path mode).transcript.events = [] := by
  by_cases hclosing : s.state = .closing
  · exact ⟨Operation.calls_of_closing _ hclosing, (Operation.perform_of_closing
      (.runFile h threads files path mode turns) hclosing).1⟩
  · -- Then the script has no place, so that the session is lost.
    have hlost : ∀ script place, Source.openFile files path = .ok script →
        s.placeFor threads mode ≠ .ok place := by
      rintro script place ho hp
      obtain ⟨e, he⟩ | hc | ⟨e, he⟩ := hu
      · rw [ho] at he
        cases he
      · exact hclosing hc
      · rw [hp] at he
        cases he
    have hquiet := (Operation.perform_runFile_lost h turns s hlost).quiet
    refine ⟨?_, hquiet⟩
    rw [Operation.calls]
    cases hl : (Operation.runFile h threads files path mode turns).launch? s with
    | none => rfl
    | some r =>
        obtain ⟨script, place, ho, hp, -⟩ := Operation.launch?_runFile hl
        exact absurd hp (hlost script place ho)

/-- A script that is opened and has a place is run unless the session is closing. -/
theorem unbegun_iff_closing {place : Place} (ho : Source.openFile files path = .ok script)
    (hp : s.placeFor threads mode = .ok place) :
    s.Unbegun threads files path mode ↔ s.state = .closing := by
  constructor
  · rintro (⟨e, he⟩ | hclosing | ⟨e, he⟩)
    · rw [ho] at he
      cases he
    · exact hclosing
    · rw [hp] at he
      cases he
  · exact fun hclosing => .inr (.inl hclosing)

/-- A ledger that tracks the script, and nothing else any more, accounts for it. -/
theorem AccountsFor.of_tracks {unbegun : Prop} {later : List Event} (hu : ¬unbegun)
    (hb : h.Consumes → ∃ b, Ledger.Entered {} later b ∧
      b.Tracks { script with primordial := true }.label []) :
    AccountsFor h script unbegun later := by
  refine ⟨fun hc => absurd hc hu, fun _ hc => ?_⟩
  obtain ⟨b, he, ht⟩ := hb hc
  have hheld : b.held = [] := by simpa using ht.labels
  have honce := ht.once
  have hlast := ht.last
  rw [hheld, List.append_nil] at honce hlast
  obtain ⟨nested, hpushed, -⟩ := ht.nested
  exact ⟨b, he, hheld, honce, by rw [hpushed]; rfl, hlast⟩

/-- A script that was opened is accounted for, and the session that comes back is empty. -/
theorem runFile_of_opened (hs : s.stack = .empty) (ho : Source.openFile files path = .ok script)
    (hover : ∀ s', (s.runFile h threads files turns path mode).ending ≠ .unfinished s') :
    (∃ later, trades (s.runFile h threads files turns path mode).transcript.events =
        giveUp s.primary ++ later ∧
        AccountsFor h script (s.Unbegun threads files path mode) later) ∧
      ∀ s' o, (s.runFile h threads files turns path mode).ending = .completed s' o →
        s'.stack = .empty ∧ s'.primary = none := by
  cases hp : s.placeFor threads mode with
  | error refusal =>
      obtain ⟨htrades, hending⟩ := runFile_of_noThread h threads turns hs ho hp
      exact ⟨⟨_, htrades, fun _ => rfl, absurd (.inr (.inr ⟨refusal, hp⟩))⟩,
        fun s' o hc => absurd hc (hending s' o)⟩
  | ok place =>
      have hunbegun := unbegun_iff_closing threads ho hp
      by_cases hclosing : s.state = .closing
      · obtain ⟨htrades, hending⟩ := runFile_of_closing h threads turns hclosing hs ho hp
        refine ⟨⟨_, htrades, fun _ => rfl, absurd (hunbegun.mpr hclosing)⟩, fun s' o hc => ?_⟩
        rw [hending] at hc
        cases hc
        exact ⟨hs, rfl⟩
      · obtain ⟨⟨later, htrades, hledger⟩, hsession⟩ :=
          runFile_of_open h threads turns hclosing hs ho hp hover
        exact ⟨⟨later, htrades, .of_tracks h (hunbegun.not.mpr hclosing) hledger⟩, hsession⟩

/-- **A run with a script releases what it opened on every way out.** Let the run be over, however
it ends: the session may have been closing, a primary input may have been waiting, the thread may be
refused, and a collaborator may panic on it. What was waiting is released once, before anything
else is. If the script was opened, it is released once: at once if no run takes it up, and otherwise
as the first source of the run, when all the others that were pushed are released; for that the
reader must not take away what it is handed. A session that comes back has an empty stack and no
primary input. Where no run begins, nobody is called. -/
theorem runFile_releases (h : Host ε) (threads : Threads) (files : FileSystem) (turns : Nat)
    (path : Path) (mode : RunMode) (s : Session ε) (hs : s.stack = .empty)
    (hover : ∀ s', (s.runFile h threads files turns path mode).ending ≠ .unfinished s') :
    let report := s.runFile h threads files turns path mode
    (∀ e, Source.openFile files path = .error e →
        trades report.transcript.events = giveUp s.primary ∧ report.ending = .failed e s.env) ∧
      (∀ script, Source.openFile files path = .ok script →
        ∃ later, trades report.transcript.events = giveUp s.primary ++ later ∧
          AccountsFor h script (s.Unbegun threads files path mode) later) ∧
      (∀ s' o, report.ending = .completed s' o → s'.stack = .empty ∧ s'.primary = none) ∧
      (s.Unbegun threads files path mode →
        (Operation.runFile h threads files path mode turns).calls s = [] ∧
          doings report.transcript.events = []) := by
  intro report
  cases ho : Source.openFile files path with
  | error e =>
      obtain ⟨htrades, hending⟩ := runFile_of_refused h threads turns mode hs ho
      refine ⟨fun e' he => ?_, nofun, fun s' o hc => ?_, runFile_of_unbegun h threads turns⟩
      · cases he
        exact ⟨htrades, hending⟩
      · rw [hending] at hc
        cases hc
  | ok script =>
      obtain ⟨haccounts, hsession⟩ := runFile_of_opened h threads turns hs ho hover
      refine ⟨nofun, fun script' hs' => ?_, hsession, runFile_of_unbegun h threads turns⟩
      cases hs'
      exact haccounts

/-- A session in which an input was waiting when it is asked to run a script. -/
def waitingSession : Session Console :=
  { number := 0, env := {}, primary := some (.ofText "late" true "never\n") }

/-- The script, which reads another one. -/
def panickingScript : Snapshot := { contents := [(.ofString "s", .ok (.file (encode "a\nb\n")))] }

/-- The line of the other one panics. -/
def panickingScriptHost : Host Console :=
  Playbook.host [
    ("a", { deeds := [.push (.ofText "x" false "c\n")] }), ("c", { deeds := [.panic] })]

theorem waitingSession_releases :
    let report := waitingSession.runFile panickingScriptHost (.ofMemory none)
      panickingScript.system 30 (.ofString "s") (.threaded {})
    waitingSession.stack = .empty ∧ panickingScriptHost.Consumes ∧
      report.ending = .failed .workerPanicked {} ∧
      (releases report.transcript.events).map Source.name = ["late", "x", "s"] ∧
      ∃ script later, trades report.transcript.events =
        .released (.ofText "late" true "never\n") :: later ∧
        AccountsFor panickingScriptHost script False later := by
  intro report
  have hending : report.ending = .failed .workerPanicked {} := rfl
  have hover : ∀ s', report.ending ≠ .unfinished s' := by
    intro s' hs'
    rw [hending] at hs'
    cases hs'
  obtain ⟨-, hscript, -⟩ := runFile_releases panickingScriptHost (.ofMemory none)
    panickingScript.system 30 (.ofString "s") (.threaded {}) waitingSession rfl hover
  obtain ⟨later, htrades, haccounts⟩ := hscript _ rfl
  have hbegun : ¬waitingSession.Unbegun (.ofMemory none) panickingScript.system (.ofString "s")
      (.threaded {}) := (unbegun_iff_closing (.ofMemory none) rfl rfl).not.mpr nofun
  exact ⟨rfl, Playbook.host_consumes _, hending, by decide, _, later, htrades, nofun,
    fun _ => haccounts.used hbegun⟩

end Session

end CommandShell
