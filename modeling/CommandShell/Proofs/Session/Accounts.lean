import CommandShell.Proofs.Script.Lines
import CommandShell.Proofs.Session.Calls
import CommandShell.Proofs.Session.Cancellation
import Mathlib.Data.List.Forall2

/-!
# Accounts of the lines of a run

For every source that a run reads an **account** is kept: the source as it was pushed, and the lines
that have been dispatched from it since. `Books.turn` says what a turn does to the accounts. A line
is entered in the account of the source that is on top when it is dispatched; sources that are
pushed get accounts of their own; and the account of a source that is left is closed.

The books are to be balanced before every turn (`Books.Balanced`): the lines of an account are the
first lines that the source would yield by itself, as many as its count of lines has gone up, but
for the one that was read and is not dispatched yet. What carries this through the turns is that the
lines of a source as it was pushed split into those of its account, the one that waits to be
dispatched, and those that are still to be read of it (`Account.Splits`). A source that was found at
its end is left before anything else is read of it, so nothing needs to be known of what it would
give then.

Sources read their own streams, but for standard input, which is at the console. Only one source may
read it, so that what it finds there when it is pushed is what there was when the run started
(`Loop.Undisturbed`).
-/

namespace CommandShell

open CommandShell.Log

variable {ε : Type}

/-! ## Sources that are entered -/

/-- The sources that the next turn pushes. -/
def Loop.pushed (h : Host ε) (l : Loop ε) : List Source :=
  if l.next = .dispatch then pushes (l.reaction h).requests else []

/-- **entered** — the sources that a run puts on the stack with turns taken in the given loops, the
first one first. -/
def Session.entered (h : Host ε) (s : Session ε) (turns : List (Loop ε)) : List Source :=
  s.root h :: turns.flatMap (Loop.pushed h)

/-- Whether the source reads standard input. -/
def Source.readsInput (s : Source) : Bool := s.origin = .standardInput

/-- **ReadsWith** — of sources whose lines nobody types, the host reads what the line reader reads
at the console that the host has in its state; it only consumes what it reads, and asking who types
the lines takes nothing from the console. -/
structure Host.ReadsWith (h : Host ε) (r : LineReader) (console : ε → Console) : Prop where
  consumes : h.Consumes
  asks : ∀ env s, console (h.interactive env s).env = console env
  result : ∀ env s, r.Plainly s → (h.read env s).result = (r.read (console env) s).result
  stream : ∀ env s, r.Plainly s → (h.read env s).stream = (r.read (console env) s).stream
  after : ∀ env s, r.Plainly s → console (h.read env s).env = (r.read (console env) s).env

/-- The dispatcher reads nothing of standard input. -/
def Host.KeepsInput (h : Host ε) (console : ε → Console) : Prop :=
  ∀ env line depth, (console (h.execute env line depth).env).unread = (console env).unread

/-- **EachOwns** — the reader reads each of the sources from its own data: nobody types their lines,
not more than one of them reads standard input, and if one does, the dispatcher reads nothing of it.
-/
structure Host.EachOwns (h : Host ε) (r : LineReader) (console : ε → Console)
    (sources : List Source) : Prop where
  plainly : ∀ s ∈ sources, r.Plainly s
  alone : sources.countP Source.readsInput ≤ 1
  kept : 0 < sources.countP Source.readsInput → h.KeepsInput console

/-! ## Accounts -/

/-- **Account** — a source as it was pushed, and the lines that were dispatched from it since. -/
structure Account where
  pushed : Source
  lines : List String := []

/-- **Books** — the accounts of the sources on the stack, the current one first, and of those that
were left, each with the source as it was then. -/
structure Books where
  running : List Account := []
  closed : List (Account × Source) := []

namespace Books

/-- A line is dispatched from the current source. -/
def enter (line : String) (b : Books) : Books :=
  { b with running := b.running.modifyHead fun a => { a with lines := a.lines ++ [line] } }

/-- Sources are pushed, the last one topmost. -/
def push (sources : List Source) (b : Books) : Books :=
  { b with running := sources.reverse.map (fun s => { pushed := s }) ++ b.running }

/-- How many sources are left with the current one: all of them if it is the first source of the
run. -/
def leaving : List Source → Nat
  | [] => 0
  | top :: rest => if top.primordial then rest.length + 1 else 1

/-- The current one of the sources is left. -/
def leave (sources : List Source) (b : Books) : Books where
  running := b.running.drop (leaving sources)
  closed := b.closed ++ (b.running.zip sources).take (leaving sources)

/-- **turn** — what the next turn of a loop does to the accounts. -/
def turn (h : Host ε) (b : Books) (l : Loop ε) : Books :=
  match l.next with
  | .dispatch => (b.enter l.line).push (l.pushed h)
  | .unwind => b.leave l.stack.sources
  | .begin | .read | .stop => b

end Books

/-- **books** — the accounts of a run after turns taken in the given loops. -/
def Session.books (h : Host ε) (s : Session ε) (turns : List (Loop ε)) : Books :=
  turns.foldl (Books.turn h) { running := [{ pushed := s.root h }] }

/-! ## What accounts have to say -/

/-- **Accurate** — the source is the one of the account. As many lines were read of it since it was
pushed as are in the account or are still waiting to be dispatched, and in this order they are the
first lines that the reader gets when it is asked again and again for the lines of the source alone.
-/
structure Account.Accurate (r : LineReader) (c : Console) (a : Account) (s : Source)
    (waiting : List String) : Prop where
  later : s.IsLater a.pushed
  count : s.linesRead = a.pushed.linesRead + a.lines.length + waiting.length
  lines : ∃ lines, r.Yields c a.pushed lines ∧ a.lines ++ waiting <+: lines

/-- The line that was read last, until it is dispatched. -/
def Loop.waiting (l : Loop ε) : List String := if l.next = .dispatch then [l.line] else []

/-- **pops** — the names and the counts in the records of sources that were left. -/
def pops (es : List Event) : List (String × Nat) :=
  es.filterMap fun
    | .logged (.sourcePopped name lines _) => some (name, lines)
    | _ => none

/-- **Balanced** — what the books say of the loop before its next turn, in a run that started at the
console. -/
structure Books.Balanced (r : LineReader) (c : Console) (h : Host ε) (b : Books) (l : Loop ε) :
    Prop where
  /-- There is an account for each source on the stack … -/
  depth : b.running.length = l.stack.depth
  /-- … which is accurate, and the line that waits comes from the current source. -/
  running : ∀ (i : Nat) a s, b.running[i]? = some a → l.stack.sources[i]? = some s →
    a.Accurate r c s (if i = 0 then l.waiting else [])
  /-- The accounts of the sources that were left are accurate. -/
  closed : ∀ p ∈ b.closed, p.1.Accurate r c p.2 []
  /-- The next turn records the count of the source that it leaves, and of no other. -/
  popped : pops (l.step h).events =
    if l.next = .unwind then (l.stack.current?.map fun s => (s.name, s.linesRead)).toList else []

/-! ## How the lines of a source split -/

/-- **Splits** — the lines of the source as it was pushed are those of the account, those that wait,
and those that are left. -/
structure Account.Splits (r : LineReader) (c : Console) (a : Account) (s : Source)
    (waiting left : List String) : Prop where
  plainly : r.Plainly a.pushed
  later : s.IsLater a.pushed
  count : s.linesRead = a.pushed.linesRead + a.lines.length + waiting.length
  lines : a.pushed.linesAt c = a.lines ++ waiting ++ left

namespace Account.Splits

variable {r : LineReader} {c : Console} {a : Account} {s : Source} {waiting left : List String}
  {text : String}

/-- A source that has just been pushed. -/
theorem fresh (hp : r.Plainly s) : Account.Splits r c { pushed := s } s [] (s.linesAt c) where
  plainly := hp
  later := .refl s
  count := rfl
  lines := rfl

theorem accurate (h : a.Splits r c s waiting left) : a.Accurate r c s waiting where
  later := h.later
  count := h.count
  lines := by
    refine ⟨_, (LineReader.yields_iff h.plainly).mpr rfl, ?_⟩
    rw [h.lines]
    exact List.prefix_append _ _

/-- Nobody types the lines of the source now, either. -/
theorem plainly_later (h : a.Splits r c s waiting left) : r.Plainly s := by
  rw [h.later]
  exact h.plainly

/-- A line is read. -/
theorem read (h : a.Splits r c s [] (text :: left)) (stream : Stream) :
    a.Splits r c { s with stream, linesRead := s.linesRead + 1 } [text] left where
  plainly := h.plainly
  later := h.later.advance stream (s.linesRead + 1)
  count := by
    show s.linesRead + 1 = _
    rw [h.count]
    rfl
  lines := by
    rw [h.lines, List.append_nil, List.append_assoc]
    rfl

/-- The source is found at its end. Whatever its stream holds then, the lines stay what they were.
-/
theorem ended (h : a.Splits r c s [] left) (stream : Stream) :
    a.Splits r c { s with stream } [] left where
  plainly := h.plainly
  later := h.later.advance stream s.linesRead
  count := h.count
  lines := h.lines

/-- The line that waits is dispatched. -/
theorem enter (h : a.Splits r c s [text] left) :
    Account.Splits r c { a with lines := a.lines ++ [text] } s [] left where
  plainly := h.plainly
  later := h.later
  count := by
    show s.linesRead = a.pushed.linesRead + (a.lines ++ [text]).length + 0
    rw [h.count, List.length_append]
    rfl
  lines := by rw [h.lines, List.append_nil]

end Account.Splits

/-! ## Standard input -/

/-- Of the console counts what nobody has read, if the source reads standard input. -/
theorem Source.linesAt_eq {s : Source} {c c' : Console}
    (h : s.readsInput = true → c.unread = c'.unread) : s.linesAt c = s.linesAt c' := by
  cases hs : s.readsInput with
  | true => exact linesAt_congr (h hs) s
  | false =>
      have hown : s.origin ≠ .standardInput := of_decide_eq_false hs
      rw [linesAt_of_own c hown, linesAt_of_own c' hown]

/-- Where not more than one source reads standard input, a source below the top does so only if the
top does not. -/
theorem readsInput_below {top s : Source} {rest : List Source}
    (h : (top :: rest).countP Source.readsInput ≤ 1) (hs : s ∈ rest) (hi : s.readsInput = true) :
    top.readsInput = false := by
  have hpos : 0 < rest.countP Source.readsInput := List.countP_pos_iff.mpr ⟨s, hs, hi⟩
  rw [List.countP_cons] at h
  by_contra hne
  rw [Bool.not_eq_false] at hne
  rw [hne, if_pos rfl] at h
  omega

/-- What is on the stack after a source was left was there before. -/
theorem Stack.sources_pop_suffix (s : Stack) : s.pop.1.sources <:+ s.sources := by
  obtain ⟨k, -, hleft⟩ := s.pop_spec
  rw [hleft]
  exact List.drop_suffix k _

/-- **Undisturbed** — every source on the stack that reads standard input was entered; and until one
was entered, nobody has read of it since the run started at the console. -/
structure Loop.Undisturbed (h : Host ε) (console : ε → Console) (c : Console)
    (entered : List Source) (l : Loop ε) : Prop where
  counted : l.stack.sources.countP Source.readsInput ≤ entered.countP Source.readsInput
  untouched : h.KeepsInput console → entered.countP Source.readsInput = 0 →
    (console l.env).unread = c.unread

namespace Loop.Undisturbed

variable {r : LineReader} {h : Host ε} {console : ε → Console} {c : Console}
  {entered : List Source} {l l' : Loop ε}

/-- Turns that neither push a source nor read standard input. -/
theorem congr (hu : l.Undisturbed h console c entered)
    (hs : l'.stack.sources.countP Source.readsInput ≤ l.stack.sources.countP Source.readsInput)
    (he : entered.countP Source.readsInput = 0 →
      (console l'.env).unread = (console l.env).unread) :
    l'.Undisturbed h console c entered where
  counted := Nat.le_trans hs hu.counted
  untouched := by
    intro hkeeps hnone
    rw [he hnone]
    exact hu.untouched hkeeps hnone

/-- A source that does not read standard input leaves it as it is. -/
theorem console_read (hreads : h.ReadsWith r console) {s : Source} (hp : r.Plainly s)
    (hi : s.readsInput = false) : console (h.read l.env s).env = console l.env := by
  rw [hreads.after l.env s hp]
  exact (LineReader.read_plainly hp).2.2.2.1 (of_decide_eq_false hi)

/-- A read of the top source. -/
theorem read (hu : l.Undisturbed h console c entered) (hreads : h.ReadsWith r console)
    {s : Source} {rest : List Source} (hs : l.stack.sources = s :: rest) (hp : r.Plainly s)
    (stream : Stream) (n : Nat)
    (hs' : l'.stack.sources = { s with stream, linesRead := n } :: rest)
    (he' : l'.env = (h.read l.env s).env) : l'.Undisturbed h console c entered := by
  refine hu.congr ?_ ?_
  · rw [hs, hs']
    exact Nat.le_of_eq rfl
  · intro hnone
    have hcounted := hu.counted
    rw [hs, hnone, List.countP_cons] at hcounted
    have hi : s.readsInput = false := by
      by_contra hne
      rw [Bool.not_eq_false] at hne
      rw [hne, if_pos rfl] at hcounted
      omega
    rw [he', console_read hreads hp hi]

/-- A read of the top source that gives no line. -/
theorem line_missing (hu : l.Undisturbed h console c entered) (hreads : h.ReadsWith r console)
    {s : Source} {rest : List Source} (hs : l.stack.sources = s :: rest) (hp : r.Plainly s)
    (es : List Event) :
    ((l.received h s).1.goOn es .noLine).loop.Undisturbed h console c entered := by
  refine hu.read hreads hs hp (h.read l.env s).stream s.linesRead ?_ ?_
  · rw [goOn_loop, received_sources h hs, hreads.consumes.source_eq]
  · rw [goOn_loop, received_loop]

theorem askCancel (n : Nat) (hu : l.Undisturbed h console c entered) :
    (l.askCancel n).1.Undisturbed h console c entered := by
  rw [askCancel_loop]
  exact hu.congr (Nat.le_refl _) fun _ => rfl

/-- Every turn that goes on keeps standard input undisturbed. -/
theorem step (hu : l.Undisturbed h console c entered) (hreads : h.ReadsWith r console)
    (hp : ∀ s ∈ l.stack.sources, r.Plainly s) (he : (l.step h).exit = none) :
    (l.step h).loop.Undisturbed h console c (entered ++ l.pushed h) := by
  have hnone : l.next ≠ .dispatch → entered ++ l.pushed h = entered := by
    intro hn
    rw [Loop.pushed, if_neg hn, List.append_nil]
  have w := way_step h l
  generalize l.step h = t at he w
  cases w with
  | honours => cases he
  | lacksSource => cases he
  | askPanics => cases he
  | begins hn =>
      rw [hnone (by rw [hn]; exact Move.noConfusion)]
      exact hu.congr (Nat.le_refl _) fun _ => congrArg Console.unread (hreads.asks _ _)
  | lacksInput => cases he
  | readPanics => cases he
  | @reads s rest text hn hs =>
      rw [hnone (by rw [hn]; exact Move.noConfusion)]
      refine hu.read hreads hs (hp s (by simp [hs])) (h.read l.env s).stream (s.linesRead + 1) ?_ ?_
      · rw [goOn_loop]
        rw [Stack.sources_mapCurrent, received_sources h hs, hreads.consumes.source_eq]
        rfl
      · rw [goOn_loop, received_loop]
  | @ends s rest hn hs =>
      rw [hnone (by rw [hn]; exact Move.noConfusion)]
      exact hu.line_missing hreads hs (hp s (by simp [hs])) _
  | @fails s rest reason hn hs =>
      rw [hnone (by rw [hn]; exact Move.noConfusion)]
      exact hu.line_missing hreads hs (hp s (by simp [hs])) _
  | dispatchPanics => cases he
  | @dispatches v hn =>
      rw [Loop.pushed, if_pos hn]
      constructor
      · rw [goOn_loop]
        dsimp only
        rw [judged_stack, carried_loop, Stack.sources_pushAll, List.countP_append,
          List.countP_append, List.countP_reverse]
        have hcounted := hu.counted
        omega
      · intro hkeeps hcount
        rw [List.countP_append, Nat.add_eq_zero_iff] at hcount
        rw [goOn_loop]
        dsimp only
        rw [judged_env, carried_loop]
        exact (hkeeps l.env l.line l.stack.depth).trans (hu.untouched hkeeps hcount.1)
  | leaves hn =>
      rw [hnone (by rw [hn]; exact Move.noConfusion)]
      exact hu.congr l.stack.sources_pop_suffix.sublist.countP_le fun _ => rfl
  | stops => cases he

end Loop.Undisturbed

/-! ## Turns -/

/-- **Keeps** — the books of a run under way, which started at the console `c`. -/
structure Books.Keeps (r : LineReader) (console : ε → Console) (c : Console) (b : Books)
    (l : Loop ε) : Prop where
  /-- Until the run is over, what is left of the current source can still be read of it, unless the
  source is being left; and the sources below it wait with all that is left of them. -/
  running : l.next ≠ .stop → ∃ a as top rest left,
    b.running = a :: as ∧ l.stack.sources = top :: rest ∧ a.Splits r c top l.waiting left ∧
      (l.next ≠ .unwind → left = top.linesAt (console l.env)) ∧
      List.Forall₂ (fun a s => a.Splits r c s [] (s.linesAt (console l.env))) as rest
  stopped : l.next = .stop → b.running = []
  closed : ∀ p ∈ b.closed, ∃ left, p.1.Splits r c p.2 [] left

namespace Books.Keeps

open Loop

variable {r : LineReader} {h : Host ε} {console : ε → Console} {c : Console} {b : Books}
  {l : Loop ε} {first : Source} {entered : List Source}

/-- Nobody types the lines of the sources on the stack. -/
theorem plainly (hk : b.Keeps r console c l) (hn : l.next ≠ .stop) :
    ∀ s ∈ l.stack.sources, r.Plainly s := by
  obtain ⟨a, as, top, rest, left, -, hsources, ha, -, hbelow⟩ := hk.running hn
  rw [hsources]
  intro s hs
  rcases List.mem_cons.mp hs with rfl | hs
  · exact ha.plainly_later
  · obtain ⟨i, hi, rfl⟩ := List.getElem_of_mem hs
    have hia : i < as.length := hbelow.length_eq ▸ hi
    exact (List.forall₂_iff_get.mp hbelow |>.2 i hia hi).plainly_later

/-- Only a line that was read waits. -/
theorem waiting_goOn {es : List Event} {e : Signal} (he : e ≠ .gotLine) :
    (l.goOn es e).loop.waiting = [] :=
  if_neg fun hn => he (respond_dispatch hn)

/-- Going on without a line keeps the books, if what is left of the current source can be read of it
or the source is being left. -/
theorem goOn {es : List Event} {e : Signal} (he : e ≠ .gotLine) (hs : e ≠ .sourceLeft false)
    {a : Account} {as : List Account} {top : Source} {rest : List Source} {left : List String}
    (hb : b.running = a :: as) (hl : l.stack.sources = top :: rest) (ha : a.Splits r c top [] left)
    (hleft : (l.state.respond e).2 ≠ .unwind → left = top.linesAt (console l.env))
    (hbelow : List.Forall₂ (fun a s => a.Splits r c s [] (s.linesAt (console l.env))) as rest)
    (hclosed : ∀ p ∈ b.closed, ∃ left, p.1.Splits r c p.2 [] left) :
    b.Keeps r console c (l.goOn es e).loop where
  running := by
    intro _
    refine ⟨a, as, top, rest, left, hb, hl, ?_, hleft, hbelow⟩
    rw [waiting_goOn he]
    exact ha
  stopped := fun hn => absurd (State.respond_stop_iff.mp hn) hs
  closed := hclosed

/-- The accounts of sources that are pushed. -/
theorem pushed {c' : Console} {sources : List Source} (hs : ∀ s ∈ sources, r.Plainly s)
    (hc : ∀ s ∈ sources, s.linesAt c = s.linesAt c') :
    List.Forall₂ (fun a s => Account.Splits r c a s [] (s.linesAt c'))
      (sources.map fun s => { pushed := s }) sources := by
  rw [List.forall₂_map_left_iff, List.forall₂_same]
  intro s hmem
  rw [← hc s hmem]
  exact .fresh (hs s hmem)

/-- Sources that wait go on waiting while nobody takes from standard input what they read. -/
theorem wait {c' c'' : Console} {as : List Account} {rest : List Source}
    (hbelow : List.Forall₂ (fun a s => a.Splits r c s [] (s.linesAt c')) as rest)
    (hc : ∀ s ∈ rest, s.linesAt c' = s.linesAt c'') :
    List.Forall₂ (fun a s => a.Splits r c s [] (s.linesAt c'')) as rest := by
  induction hbelow with
  | nil => exact .nil
  | cons ha _ ih =>
      refine .cons ?_ (ih fun s hs => hc s (List.mem_cons_of_mem _ hs))
      rw [← hc _ (List.mem_cons_self ..)]
      exact ha

/-- Going on without a line keeps the books, if all sources wait with what is left of them. -/
theorem goOn_waiting {es : List Event} {e : Signal} (he : e ≠ .gotLine) (hs : e ≠ .sourceLeft false)
    (hne : l.stack.sources ≠ [])
    (hall : List.Forall₂ (fun a s => a.Splits r c s [] (s.linesAt (console l.env))) b.running
      l.stack.sources)
    (hclosed : ∀ p ∈ b.closed, ∃ left, p.1.Splits r c p.2 [] left) :
    b.Keeps r console c (l.goOn es e).loop := by
  obtain ⟨top, rest, hsources⟩ := List.exists_cons_of_ne_nil hne
  rw [hsources] at hall
  obtain ⟨a, as, ha, hbelow, hb⟩ := List.forall₂_cons_right_iff.mp hall
  exact goOn he hs hb hsources ha (fun _ => rfl) hbelow hclosed

/-- A read of the top source takes nothing from those below it. -/
theorem linesAt_read (hreads : h.ReadsWith r console) {top : Source} {rest : List Source}
    (hp : r.Plainly top) (hone : (top :: rest).countP Source.readsInput ≤ 1) :
    ∀ s ∈ rest, s.linesAt (console l.env) = s.linesAt (console (h.read l.env top).env) := by
  intro s hs
  refine Source.linesAt_eq fun hi => ?_
  rw [Undisturbed.console_read hreads hp (readsInput_below hone hs hi)]

/-- A source that ends is left next. -/
theorem ends (hk : b.Keeps r console c l) (hl : l.Sound first []) (hreads : h.ReadsWith r console)
    (hone : l.stack.sources.countP Source.readsInput ≤ 1) (hn : l.next = .read) {top : Source}
    {rest : List Source} (hs : l.stack.sources = top :: rest) (es : List Event) :
    b.Keeps r console c ((l.received h top).1.goOn es .noLine).loop := by
  have hready := hl.lines (.inl hn)
  obtain ⟨a, as, top', rest', left, hb, hsources, ha, -, hbelow⟩ := hk.running (by simp [hn])
  obtain ⟨rfl, rfl⟩ := List.cons.inj (hs.symm.trans hsources)
  rw [Loop.waiting, if_neg (by simp [hn])] at ha
  rw [hs] at hone
  have hsources : (l.received h top).1.stack.sources =
      { top with stream := (h.read l.env top).stream } :: rest := by
    rw [received_sources h hs, hreads.consumes.source_eq]
  refine goOn Signal.noConfusion Signal.noConfusion hb hsources
    (ha.ended (h.read l.env top).stream) ?_ ?_ hk.closed
  · intro hnot
    rw [received_loop, hready] at hnot
    exact absurd rfl hnot
  · rw [received_loop]
    exact wait hbelow (linesAt_read hreads ha.plainly_later hone)

/-- A line that is read waits to be dispatched. -/
theorem reads (hk : b.Keeps r console c l) (hl : l.Sound first []) (hreads : h.ReadsWith r console)
    (hone : l.stack.sources.countP Source.readsInput ≤ 1) (hn : l.next = .read) {top : Source}
    {rest : List Source} (hs : l.stack.sources = top :: rest) {text : String}
    (hr : (h.read l.env top).result = .ok (.line text)) (es : List Event) :
    b.Keeps r console c (Loop.goOn { (l.received h top).1 with
      stack := (l.received h top).1.stack.mapCurrent Source.countLine, line := text } es
      .gotLine).loop := by
  have hready := hl.lines (.inl hn)
  have hnext : (l.state.respond .gotLine).2 = .dispatch := by rw [hready]; rfl
  obtain ⟨a, as, top', rest', left, hb, hsources, ha, hleft, hbelow⟩ := hk.running (by simp [hn])
  obtain ⟨rfl, rfl⟩ := List.cons.inj (hs.symm.trans hsources)
  obtain rfl := hleft (by simp [hn])
  rw [Loop.waiting, if_neg (by simp [hn])] at ha
  rw [hs] at hone
  have hp := ha.plainly_later
  -- What the host finds is what the line reader finds.
  rw [hreads.result l.env top hp] at hr
  rw [LineReader.linesAt_of_line hp hr, r.read_source, ← hreads.stream l.env top hp,
    ← hreads.after l.env top hp] at ha
  constructor
  · intro _
    refine ⟨a, as,
      { top with stream := (h.read l.env top).stream, linesRead := top.linesRead + 1 }, rest, _,
      hb, ?_, ?_, fun _ => rfl, ?_⟩
    · rw [goOn_loop]
      dsimp only
      rw [Stack.sources_mapCurrent, received_sources h hs, hreads.consumes.source_eq]
      rfl
    · rw [goOn_loop, Loop.waiting, if_pos (by rw [received_loop]; exact hnext), received_loop]
      exact ha.read (h.read l.env top).stream
    · rw [goOn_loop, received_loop]
      exact wait hbelow (linesAt_read hreads hp hone)
  · intro hstop
    rw [goOn_loop, received_loop] at hstop
    cases hnext.symm.trans hstop
  · exact hk.closed

/-- Where a line is dispatched, it is entered, and the sources that it pushes get accounts. -/
theorem dispatches (hk : b.Keeps r console c l) (hu : l.Undisturbed h console c entered)
    (howns : h.EachOwns r console (entered ++ l.pushed h)) (hn : l.next = .dispatch) (v : Verdict)
    (es : List Event) :
    ((b.enter l.line).push (l.pushed h)).Keeps r console c
      (((l.carried h).1.judged v).goOn es v.signal).loop := by
  obtain ⟨a, as, top, rest, left, hb, hsources, ha, hleft, hbelow⟩ := hk.running (by simp [hn])
  obtain rfl := hleft (by simp [hn])
  rw [Loop.waiting, if_pos hn] at ha
  have halone := howns.alone
  rw [List.countP_append] at halone
  -- A source on the stack finds of standard input what it found before.
  have hold : ∀ s ∈ l.stack.sources,
      s.linesAt (console l.env) = s.linesAt (console (l.reaction h).env) := by
    intro s hs
    refine Source.linesAt_eq fun hi => ?_
    have hpos := List.countP_pos_iff.mpr ⟨s, hs, hi⟩
    have hcounted := hu.counted
    exact (howns.kept (by rw [List.countP_append]; omega) l.env l.line l.stack.depth).symm
  -- One that is pushed finds what there was when the run started.
  have hnew : ∀ s ∈ l.pushed h, s.linesAt c = s.linesAt (console (l.reaction h).env) := by
    intro s hs
    refine Source.linesAt_eq fun hi => ?_
    have hpos := List.countP_pos_iff.mpr ⟨s, hs, hi⟩
    have hkeeps := howns.kept (by rw [List.countP_append]; omega)
    exact ((hkeeps l.env l.line l.stack.depth).trans (hu.untouched hkeeps (by omega))).symm
  have hpushed := pushed
    (fun s hs => howns.plainly s (List.mem_append_right entered (List.mem_reverse.mp hs)))
    (fun s hs => hnew s (List.mem_reverse.mp hs))
  rw [hsources] at hold
  refine goOn_waiting (by cases v <;> exact Signal.noConfusion)
    (by cases v <;> exact Signal.noConfusion) ?_ ?_ hk.closed
  · rw [judged_stack, carried_loop, Stack.sources_pushAll, hsources]
    exact List.append_ne_nil_of_right_ne_nil _ (List.cons_ne_nil top rest)
  · rw [judged_stack, judged_env, carried_loop, Stack.sources_pushAll, hsources]
    rw [Loop.pushed, if_pos hn] at hpushed
    show List.Forall₂ _ (_ ++ b.running.modifyHead _) _
    rw [Loop.pushed, if_pos hn, hb, List.modifyHead_cons]
    refine List.rel_append hpushed (.cons ?_ (wait hbelow fun s hs => ?_))
    · rw [← hold top (List.mem_cons_self ..)]
      exact ha.enter
    · exact hold s (List.mem_cons_of_mem top hs)

/-- The account of a source that is left is closed. -/
theorem leaves (hk : b.Keeps r console c l) (hl : l.Sound first []) (hn : l.next = .unwind) :
    (b.leave l.stack.sources).Keeps r console c l.unwind.loop := by
  have hr := hl.rooted (by simp [hn])
  obtain ⟨a, as, top, rest, left, hb, hsources, ha, -, hbelow⟩ := hk.running (by simp [hn])
  rw [Loop.waiting, if_neg (by simp [hn])] at ha
  rw [hsources] at hr
  -- A first source has nothing below it.
  have hone : leaving (top :: rest) = 1 := by
    rw [leaving]
    split
    · rename_i hp
      rw [(hr.rest_eq hp).1]
      rfl
    · rfl
  have hleave : b.leave l.stack.sources =
      { running := as, closed := b.closed ++ [(a, top)] } := by
    rw [leave, hsources, hone, hb]
    rfl
  have hclosed : ∀ p ∈ b.closed ++ [(a, top)], ∃ left, p.1.Splits r c p.2 [] left := by
    intro p hp
    rcases List.mem_append.mp hp with hp | hp
    · exact hk.closed p hp
    · obtain rfl := List.mem_singleton.mp hp
      exact ⟨left, ha⟩
  rw [hleave]
  cases hp : top.primordial with
  | false =>
      have hrest := hr.pop hl.primordial hp
      rw [unwind_nested hsources hp hrest.ne_nil]
      refine goOn_waiting Signal.noConfusion (by simp) ?_ ?_ hclosed
      · rw [Stack.sources_below, hsources]
        exact hrest.ne_nil
      · rw [Stack.sources_below, hsources]
        exact hbelow
  | true =>
      obtain ⟨rfl, -⟩ := hr.rest_eq hp
      have hover : (l.state.respond (.sourceLeft false)).2 = .stop := State.respond_stop_iff.mpr rfl
      rw [unwind_primordial hsources hp]
      refine ⟨fun hgoes => absurd hover hgoes, fun _ => ?_, hclosed⟩
      exact List.forall₂_nil_right_iff.mp hbelow

/-- **Keeps.step** — every turn that goes on keeps the books. -/
theorem step (hl : l.Sound first []) (hk : b.Keeps r console c l)
    (hu : l.Undisturbed h console c entered) (hreads : h.ReadsWith r console)
    (howns : h.EachOwns r console (entered ++ l.pushed h)) (he : (l.step h).exit = none) :
    (b.turn h l).Keeps r console c (l.step h).loop := by
  have hone : l.stack.sources.countP Source.readsInput ≤ 1 := by
    have halone := howns.alone
    have hcounted := hu.counted
    rw [List.countP_append] at halone
    omega
  have w := way_step h l
  generalize l.step h = t at he w
  unfold Books.turn
  cases w with
  | honours => cases he
  | lacksSource => cases he
  | askPanics => cases he
  | begins hn =>
      rw [hn]
      obtain ⟨a, as, top, rest, left, hb, hsources, ha, hleft, hbelow⟩ :=
        hk.running (by simp [hn])
      rw [Loop.waiting, if_neg (by simp [hn])] at ha
      refine goOn Signal.noConfusion Signal.noConfusion hb hsources ha (fun _ => ?_) ?_ hk.closed
      · rw [inspected, hreads.asks]
        exact hleft (by simp [hn])
      · rw [inspected, hreads.asks]
        exact hbelow
  | lacksInput => cases he
  | readPanics => cases he
  | reads hn hs hr =>
      rw [hn]
      exact hk.reads hl hreads hone hn hs hr _
  | ends hn hs =>
      rw [hn]
      exact hk.ends hl hreads hone hn hs _
  | fails hn hs =>
      rw [hn]
      exact hk.ends hl hreads hone hn hs _
  | dispatchPanics => cases he
  | dispatches hn =>
      rw [hn]
      exact hk.dispatches hu howns hn _ _
  | leaves hn =>
      rw [hn]
      exact hk.leaves hl hn
  | stops => cases he

theorem askCancel (n : Nat) (hk : b.Keeps r console c l) :
    b.Keeps r console c (l.askCancel n).1 := by
  rw [askCancel_loop]
  exact ⟨hk.running, hk.stopped, hk.closed⟩

end Books.Keeps

/-! ## What the books say -/

theorem pops_acts (es : List Event) : pops (acts es) = pops es := by
  rw [pops, acts, List.filterMap_filter]
  refine congrArg (List.filterMap · es) (funext fun e => ?_)
  cases e with
  | logged record => cases record <;> rfl
  | noted | started | lineRead | readFailed | dispatched | released | cancelAsked => rfl

/-- A turn records the count of the source that it leaves, and of no other. -/
theorem pops_step (h : Host ε) (l : Loop ε) :
    pops (l.step h).events = if l.next = .unwind then
      (l.stack.current?.map fun s => (s.name, s.linesRead)).toList else [] := by
  rw [← pops_acts]
  have w := Loop.way_step h l
  generalize l.step h = t at w
  cases w with
  | leaves hn =>
      rw [if_pos hn, Loop.unwind, Loop.goOn_events, acts_append, acts_transition, List.append_nil,
        acts_pop]
      cases l.stack.current? <;> rfl
  | honours hn => simp [hn, Event.isAct, pops]
  | lacksSource hn => simp [hn, Event.isAct, pops, Loop.finish]
  | askPanics hn => simp [hn, pops]
  | begins hn => simp [hn, Event.isAct, pops]
  | lacksInput hn => simp [hn, Event.isAct, pops, Loop.finish]
  | readPanics hn => simp [hn, pops]
  | reads hn => simp [hn, Event.isAct, pops]
  | ends hn => simp [hn, Event.isAct, pops]
  | fails hn => simp [hn, Event.isAct, pops]
  | dispatchPanics hn => simp [hn, pops]
  | dispatches hn => simp [hn, Event.isAct, pops]
  | stops hn => simp [hn, Event.isAct, pops, Loop.finish]

/-- Books that are kept are balanced. -/
theorem Books.Keeps.balanced {r : LineReader} {h : Host ε} {console : ε → Console} {c : Console}
    {b : Books} {l : Loop ε} {first : Source} (hk : b.Keeps r console c l)
    (hl : l.Sound first []) : b.Balanced r c h l := by
  have hclosed : ∀ p ∈ b.closed, p.1.Accurate r c p.2 [] := by
    intro p hp
    obtain ⟨left, hleft⟩ := hk.closed p hp
    exact hleft.accurate
  by_cases hn : l.next = .stop
  · have hnone := hk.stopped hn
    refine ⟨?_, ?_, hclosed, pops_step h l⟩
    · rw [l.stack.depth_eq, hl.finished hn, hnone]
      rfl
    · intro i a s ha
      rw [hnone] at ha
      cases ha
  · obtain ⟨a, as, top, rest, left, hb, hsources, ha, -, hbelow⟩ := hk.running hn
    refine ⟨?_, ?_, hclosed, pops_step h l⟩
    · rw [l.stack.depth_eq, hsources, hb, List.length_cons, List.length_cons, hbelow.length_eq]
    · intro i a' s' ha' hs'
      rw [hb] at ha'
      rw [hsources] at hs'
      cases i with
      | zero =>
          cases ha'
          cases hs'
          exact ha.accurate
      | succ i =>
          obtain ⟨hia, rfl⟩ := List.getElem?_eq_some_iff.mp ha'
          obtain ⟨his, rfl⟩ := List.getElem?_eq_some_iff.mp hs'
          exact ((List.forall₂_iff_get.mp hbelow).2 i _ _).accurate

end CommandShell
