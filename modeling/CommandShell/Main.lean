import CommandShell.Files.Snapshot
import CommandShell.Program

/-!
# The command line

This module lets the program run on real files and a real standard input. It decides nothing: it
asks the system for what the next step needs, takes the step, and writes what the events of the step
say. Files are asked for when they are needed, standard input is read line by line, and everything
that is written appears at once.
-/

namespace CommandShell.Main

open CommandShell.Text
open CommandShell.Files
open CommandShell.Log
open CommandShell.CommandLine
open CommandShell.Program

/-! ## Asking the system -/

/-- The number of an error of the system, which some calls report negated. -/
def errorNumber (code : UInt32) : Nat := (if code < 0x80000000 then code else 0 - code).toNat

/-- The failure that the system reports. -/
def faultOf : IO.Error → IoFault
  | .alreadyExists _ code _ | .otherError code _ | .resourceBusy code _
  | .resourceVanished code _ | .unsupportedOperation code _ | .hardwareFault code _
  | .unsatisfiedConstraints code _ | .illegalOperation code _ | .protocolError code _
  | .timeExpired code _ | .interrupted _ code _ | .noFileOrDirectory _ code _
  | .invalidArgument _ code _ | .permissionDenied _ code _ | .resourceExhausted _ code _
  | .inappropriateType _ code _ | .noSuchThing _ code _ => .os ⟨errorNumber code⟩
  | .unexpectedEof => .custom "unexpected end of file"
  | .userError text => .custom text

/-- The name by which the system knows a path. Paths that are not text cannot be asked for. -/
def nameOf (p : Path) : Except IoFault String :=
  if 0 ∈ p.bytes then .error .zeroInName
  else if p.bytes = [] then .error (.os .notFound)
  else match decode? p.bytes with
    | some name => .ok name
    | none => .error (.os .notFound)

/-- Opens a path and reads the whole file. -/
def openPath (p : Path) : IO (Except IoFault Opened) := do
  match nameOf p with
  | .error e => return .error e
  | .ok name =>
    match ← (IO.FS.readBinFile name).toBaseIO with
    | .ok content => return .ok (.file content.toList)
    | .error e =>
      let fault := faultOf e
      return if fault = .os .isADirectory then .ok .directory else .error fault

/-- Lists the names in a directory. -/
def listNames (p : Path) : IO (Except IoFault (List Bytes)) := do
  match nameOf p with
  | .error e => return .error e
  | .ok name =>
    let directory : IO.FS.DirEntry := { root := ".", fileName := name }
    match ← directory.path.readDir.toBaseIO with
    | .ok entries => return .ok (entries.toList.map fun entry => encode entry.fileName)
    | .error e => return .error (faultOf e)

/-- The snapshot with the file at a path. -/
def learnFile (s : Snapshot) (p : Path) : IO Snapshot := return s.addContent p (← openPath p)

/-- The snapshot with a directory and the files in it that have the extension. -/
def learnDirectory (extension : Bytes) (s : Snapshot) (p : Path) : IO Snapshot := do
  let answer ← listNames p
  let names := match answer with
    | .ok names => names.filter fun name => Path.extension? name == some extension
    | .error _ => []
  names.foldlM (fun s name => learnFile s (p.join name)) (s.addListing p answer)

/-- The command line as the system keeps it, each argument with a zero byte behind it. The
arguments that are handed over as text tell how many there are, and stand in where the system does
not tell. -/
def learnArguments (arguments : List String) : IO (List Bytes) := do
  match ← (IO.FS.readBinFile "/proc/self/cmdline").toBaseIO with
  | .ok content =>
    let known := (splitOn (· == 0) content.toList).dropLast
    return known.drop (known.length - arguments.length)
  | .error _ => return arguments.map encode

/-- The variables of the environment. -/
def learnVariables : IO Config.Variables := do
  let known ← Config.variableNames.mapM fun name => return (name, ← IO.getEnv name)
  return fun name => (known.lookup name).join

/-- The lines of a text that the system gives, each in words; none if it gives no such text. -/
def learnTable (name : String) : IO (List (List String)) := do
  match ← (IO.FS.readFile name).toBaseIO with
  | .ok text =>
    return text.toList.splitOn '\n' |>.map fun line =>
      ((line.splitOn ' ').filter (· ≠ [])).map String.ofList
  | .error _ => return []

/-- How many files can be opened beside those that are open now and one more; nothing if there is no
limit. -/
def learnSpareFiles : IO (Option Nat) := do
  let limits ← learnTable "/proc/self/limits"
  let most := limits.findSome? fun
    | "Max" :: "open" :: "files" :: soft :: _ => some soft
    | _ => none
  let listed ← listNames (.ofString "/proc/self/fd")
  -- The directory itself was open while it was listed.
  let inUse := match listed with
    | .ok names => names.length - 1
    | .error _ => 0
  return (most.bind String.toNat?).map (· - inUse - 1)

/-- The threads that can be made with the memory of the machine. -/
def learnThreads : IO Threads := do
  let sizes ← learnTable "/proc/meminfo"
  let kilobytes (name : String) : Option Nat := sizes.findSome? fun
    | found :: size :: _ => if found = name then size.toNat? else none
    | _ => none
  return .ofMemory ((kilobytes "MemTotal:").map fun size =>
    (size + (kilobytes "SwapTotal:").getD 0) * 1024)

/-- Reads bytes up to the next line feed or the end of input, with `got` read before in reverse
order. -/
partial def readLineFrom (input : IO.FS.Stream) (got : Bytes) : IO Bytes := do
  match (← input.read 1).toList with
  | [] => return got.reverse
  | b :: _ => if b = lineFeed then return (b :: got).reverse else readLineFrom input (b :: got)

/-! ## Writing -/

/-- Writes what events say. -/
def tell (filter : Filter) (events : List Event) : IO Unit := do
  let out ← IO.getStdout
  let err ← IO.getStderr
  for e in events do
    for (stream, bytes) in [(out, toOutput e), (err, toErrors filter e)] do
      unless bytes.isEmpty do
        stream.write ⟨bytes.toArray⟩
        stream.flush

/-! ## Running a session -/

/-- The host of the session. At a terminal the lines of standard input are typed. -/
def hostAt (terminal : Bool) (s : Snapshot) (room : Option Nat) (p : Prepared) : Host Console :=
  let h := Program.host s.system room p
  if terminal then { h with standardInput := .ofStandardInput true } else h

/-- The snapshot with the script that the next turn will open, if it opens one. -/
def prepareFiles (s : Snapshot) (l : Loop Console) : IO Snapshot := do
  match l.next, Command.parse l.line with
  | .dispatch, .source file => learnFile s (.ofString file)
  | _, _ => return s

/-- The loop with the line of standard input that the next turn will read, if it reads one. -/
def prepareInput (prompt : String) (l : Loop Console) : IO (Loop Console) := do
  match l.next, l.stack.current? with
  | .read, some source =>
    if source.origin ≠ .standardInput then return l
    if source.interactive then tell .standard [.noted (.wrote .prompts (encode prompt))]
    let line ← (readLineFrom (← IO.getStdin) []).toBaseIO
    let unread := match line with
      | .ok bytes => Stream.ofBytes bytes
      | .error e => Stream.unreadable (faultOf e)
    return { l with env := { l.env with unread } }
  | _, _ => return l

/-- Takes the turns of a run one after the other. -/
partial def drive (p : Prepared) (s : Snapshot) (room : Option Nat) (l : Loop Console) :
    IO (Loop Console × Exit) := do
  let s ← prepareFiles s l
  let l ← prepareInput p.config.shell.prompt l
  let turn := l.step (hostAt false s room p)
  tell p.filter turn.events
  match turn.exit with
  | some e => return (turn.loop, e)
  | none => drive p s room turn.loop

/-- Runs the session at a place. -/
def runAt (p : Prepared) (s : Snapshot) (room : Option Nat) (place : Place)
    (session : Session Console) : IO (Report Console) := do
  tell p.filter (place.engage session.number).events
  let terminal ← (← IO.getStdin).isTty
  let (loop, events) := session.enter (hostAt terminal s room p) false
  tell p.filter events
  let (loop, exit) ← match place with
    | .caller => drive p s room loop
    | .worker _ => do
      let task ← IO.asTask (drive p s room loop) Task.Priority.dedicated
      IO.ofExcept (← IO.wait task)
  return place.dismiss [] { events := [], session := .ofLoop loop, exit := some exit }

/-- Runs the session that the options ask for. -/
def runPrepared (o : Options) (p : Prepared) (s : Snapshot) : IO ExitCode := do
  let session := Session.create sessionNumber ({} : Console)
  let room := roomFor (← learnSpareFiles) o
  let s ← match o.file with
    | some path => learnFile s path
    | none => pure s
  let entered : Except ShellError (Session Console × List Event) := match o.file with
    | some path => session.takeScript s.system path
    | none => .ok (session, [])
  let report : Report Console ← match entered with
    | .error e => pure (session.lose [] e)
    | .ok (session, events) => do
      tell p.filter events
      match session.placeFor (← learnThreads) p.config.runMode with
      | .error refusal => pure (session.turnAway refusal)
      | .ok place => runAt p s room place session
  let (code, events) := conclude o report.ending
  tell p.filter (report.transcript.events ++ events)
  return code.getD 1

/-- Runs the program with the given options. -/
def runSession (o : Options) : IO ExitCode := do
  let vars ← learnVariables
  let s ← match o.config with
    | some path => learnFile {} path
    | none => pure {}
  match Config.load s.system vars o with
  | .error f =>
    tell .standard (configRefusal f)
    return 2
  | .ok c =>
    let s ← c.searchPath.directories.foldlM (learnDirectory c.searchPath.extension) s
    let p := prepare s.system vars c
    tell p.filter p.events
    runPrepared o p s

/-- Runs the program with a command line. -/
def run (arguments : List Bytes) : IO ExitCode := do
  match start arguments with
  | .refused f =>
    tell .standard (refusal f)
    return 2
  | .help =>
    tell .standard [announcement helpText]
    return 0
  | .version =>
    tell .standard [announcement versionText]
    return 0
  | .session o => runSession o

end CommandShell.Main

/-- The program; its exit code tells how it ended. -/
def main (arguments : List String) : IO UInt32 :=
  return .ofNat (← CommandShell.Main.run (← CommandShell.Main.learnArguments arguments))
