import CommandShell.Files.Snapshot
import CommandShell.Proofs.Command.Directories
import CommandShell.Proofs.Command.Listing
import CommandShell.Proofs.Config.Given
import CommandShell.Proofs.Text.Utf8

/-!
# The layers of a configuration

A setting comes from the highest layer that gives it: the command line, the environment, the
configuration file, the defaults (`Layered`). Only the home directory is looked for in the file
first. What a layer gives is said without the layers below: `Config.Given` for the file, and the
text of a variable that is set and not empty for the environment.

An empty variable counts as absent, but for the two that ask for a level: an empty one asks for the
empty level, and the levels below are not looked at (`LevelEmptied`).
-/

namespace CommandShell.Config

open CommandShell.Text
open CommandShell.Files
open CommandShell.CommandLine

variable {α : Type}

/-- **highest** — the value of the first layer that gives one, or the default. -/
def highest : List (Option α) → α → α
  | [], x => x
  | some x :: _, _ => x
  | none :: layers, x => highest layers x

@[simp]
theorem highest_nil (x : α) : highest [] x = x := rfl

@[simp]
theorem highest_cons (layer : Option α) (layers : List (Option α)) (x : α) :
    highest (layer :: layers) x = layer.getD (highest layers x) := by
  cases layer <;> rfl

/-! ## The file -/

/-- **FileGives** — what the configuration file gives, if one is named and can be read. -/
inductive FileGives (fs : FileSystem) : Option Path → Given → Prop
  | none : FileGives fs none {}
  | file {path : Path} {source : String} {given : Given} (read : fs.readText path = .ok source)
      (parsed : Given.parse source = .ok given) : FileGives fs (some path) given

/-- **FileFails** — why the configuration file that is named cannot be read or is none. -/
inductive FileFails (fs : FileSystem) : Option Path → ConfigFault → Prop
  | unreadable {path : Path} {cause : IoFault} (read : fs.readText path = .error cause) :
      FileFails fs (some path) (.io cause)
  | malformed {path : Path} {source : String} {f : Json.Failure}
      (read : fs.readText path = .ok source) (parsed : Given.parse source = .error f) :
      FileFails fs (some path) (.json (f.message source))

/-- A file that holds a text is read as that text. -/
theorem readText_of_opened {fs : FileSystem} {path : Path} {text : String}
    (h : fs.opened path = .ok (.file (encode text))) : fs.readText path = .ok text := by
  rw [FileSystem.readText, h]
  simp only [decode?_eq_some_iff.mpr rfl]

/-- What the configuration file gives, or why it is refused. -/
def Given.ofFile (fs : FileSystem) : Option Path → Except ConfigFault Given
  | none => .ok {}
  | some path =>
    match fs.readText path with
    | .error cause => .error (.io cause)
    | .ok source => (parse source).mapError fun f => .json (f.message source)

section Load

variable {fs : FileSystem} {vars : Variables} {o : Options} {path : Option Path} {given : Given}
  {c : Config} {f : ConfigFault}

/-- What comes of reading is one of the two that are told. -/
theorem Given.ofFile_tells (fs : FileSystem) (path : Option Path) :
    match ofFile fs path with
    | .ok given => FileGives fs path given
    | .error f => FileFails fs path f := by
  cases path with
  | none => exact .none
  | some path =>
      rw [ofFile]
      cases hread : fs.readText path with
      | error cause => exact .unreadable hread
      | ok source =>
          dsimp only
          cases hparsed : parse source with
          | error f => exact .malformed hread hparsed
          | ok given => exact .file hread hparsed

theorem Given.ofFile_eq_ok_iff : ofFile fs path = .ok given ↔ FileGives fs path given := by
  constructor
  · intro h
    have htells := ofFile_tells fs path
    rwa [h] at htells
  · intro h
    cases h with
    | none => rfl
    | file read parsed =>
        simp only [ofFile, read, parsed]
        rfl

theorem Given.ofFile_eq_error_iff : ofFile fs path = .error f ↔ FileFails fs path f := by
  constructor
  · intro h
    have htells := ofFile_tells fs path
    rwa [h] at htells
  · intro h
    cases h with
    | unreadable read => simp only [ofFile, read]
    | malformed read parsed =>
        simp only [ofFile, read, parsed]
        rfl

/-- The other layers are laid over what the file gives. -/
theorem load_eq (fs : FileSystem) (vars : Variables) (o : Options) : load fs vars o =
    (Given.ofFile fs o.config).map fun g => (g.fill.withVariables vars).withOptions o := by
  rw [load]
  cases o.config with
  | none => rfl
  | some path =>
      simp only [Config.ofFile, Given.ofFile, parse_eq]
      cases fs.readText path with
      | error cause => rfl
      | ok source =>
          dsimp only
          cases Given.parse source <;> rfl

/-- A configuration is refused for its file alone. -/
theorem load_eq_error_iff : load fs vars o = .error f ↔ FileFails fs o.config f := by
  rw [load_eq, ← Given.ofFile_eq_error_iff]
  cases Given.ofFile fs o.config <;> simp [Except.map]

theorem exists_given_of_load (h : load fs vars o = .ok c) :
    ∃ given, FileGives fs o.config given ∧ (given.fill.withVariables vars).withOptions o = c := by
  rw [load_eq] at h
  cases hgiven : Given.ofFile fs o.config with
  | error f =>
      rw [hgiven] at h
      cases h
  | ok given =>
      rw [hgiven] at h
      exact ⟨given, Given.ofFile_eq_ok_iff.mp hgiven, Except.ok.inj h⟩

end Load

/-! ## The environment -/

section Environment

variable {env : String → Option Bytes} {name : String}

theorem ofBytes_eq_empty_iff : Variables.ofBytes env name = some "" ↔ env name = some [] := by
  rw [Variables.ofBytes]
  cases env name with
  | none => exact iff_of_false nofun nofun
  | some value =>
      rw [Option.bind_some, decode?_eq_some_iff, Option.some.injEq]
      rfl

/-- A variable that is not empty has the value that it is set to. -/
theorem nonEmpty_eq {vars : Variables} (h : vars name ≠ some "") :
    nonEmpty vars name = vars name := by
  rw [nonEmpty]
  cases hvalue : vars name with
  | none => rfl
  | some value =>
      have hne : value ≠ "" := fun heq => h (heq ▸ hvalue)
      exact Option.filter_some_pos (by simpa using hne)

end Environment

/-! ## All layers -/

/-- **Layered** — where the settings of a configuration come from. -/
structure Layered (given : Given) (vars : Variables) (o : Options) (c : Config) : Prop where
  path : c.definitions.path =
    highest [o.path, nonEmpty vars "CLISH_PATH", given.definitions.path] "/etc/clish;~/.clish"
  extension : c.definitions.extension = highest [given.definitions.extension] "json"
  home : c.definitions.home = given.definitions.home.or (nonEmpty vars "HOME")
  prompt : c.shell.prompt = highest [given.shell.prompt] "clish> "
  threadName : c.shell.threadName = highest [given.shell.threadName] "clish-shell"
  stackSize : c.shell.stackSize = given.shell.stackSize
  level : c.logFilter =
    highest [o.logLevel, nonEmpty vars "CLISH_LOG_LEVEL", nonEmpty vars "RUST_LOG",
      given.logging.level] "info"
  /-- A worker is asked for by the file or by the command line. Its name, unless it is empty, and
  its stack size are those of the file. -/
  runMode : c.runMode =
    if given.shell.useThread = some true ∨ o.thread = true then
      .threaded
        { name := (some (highest [given.shell.threadName] "clish-shell")).filter (· ≠ "")
          stackSize := given.shell.stackSize }
    else .inline

/-- **Searches** — the search path leads along the directories that a text names, with `~` for the
home directory, and lists the files in them that have an extension. Dots in front of the extension
do not count. -/
structure Searches (s : SearchPath) (text : String) (home : Option String) (extension : String) :
    Prop where
  directories : ∃ pieces, SearchPath.Pieces text.toList pieces ∧
    SearchPath.Names (home.map Path.ofString) pieces s.directories
  extension : ∃ dots rest, extension.toList = dots ++ rest ∧ (∀ c ∈ dots, c = '.') ∧
    rest.head? ≠ some '.' ∧ s.extension = encode (String.ofList rest)
  files (fs : FileSystem) : s.Lists fs s.directories (s.files fs)

theorem searches_searchPath (c : Config) :
    Searches c.searchPath c.definitions.path c.definitions.home c.definitions.extension where
  directories := (SearchPath.leads_iff (s := c.searchPath)).mpr rfl
  extension := by
    have hdots : ∀ dot ∈ c.definitions.extension.toList.takeWhile (· = '.'), dot = '.' :=
      fun dot hdot => by simpa using List.mem_takeWhile_imp hdot
    refine ⟨_, _, List.takeWhile_append_dropWhile.symm, hdots, head?_dropWhile_ne '.' _, ?_⟩
    rw [searchPath, SearchPath.ofConfig]
  files _ := SearchPath.lists_iff.mpr rfl

theorem workerSettings_eq (c : Config) : c.workerSettings =
    { name := (some c.shell.threadName).filter (· ≠ ""), stackSize := c.shell.stackSize } := by
  rw [workerSettings, Option.filter_some]
  by_cases hname : c.shell.threadName = "" <;> simp [hname]

theorem useThread_iff {given : Given} {vars : Variables} {o : Options} :
    ((given.fill.withVariables vars).withOptions o).shell.useThread = true ↔
      given.shell.useThread = some true ∨ o.thread = true := by
  show (given.shell.useThread.getD false || o.thread) = true ↔ _
  rw [Bool.or_eq_true, Option.getD_eq_iff]
  simp

/-- Settings that are laid over each other come from the highest layer. -/
theorem layered_of_given (given : Given) {vars : Variables} (o : Options)
    (hlevel : vars "CLISH_LOG_LEVEL" ≠ some "") (hother : vars "RUST_LOG" ≠ some "") :
    Layered given vars o ((given.fill.withVariables vars).withOptions o) where
  path := by
    simp only [highest_cons, highest_nil]
    rfl
  extension := by
    simp only [highest_cons, highest_nil]
    rfl
  home := rfl
  prompt := by
    simp only [highest_cons, highest_nil]
    rfl
  threadName := by
    simp only [highest_cons, highest_nil]
    rfl
  stackSize := rfl
  level := by
    simp only [highest_cons, highest_nil, nonEmpty_eq hlevel, nonEmpty_eq hother]
    show o.logLevel.getD (((vars "CLISH_LOG_LEVEL").or (vars "RUST_LOG")).getD _) = _
    rw [Option.getD_or]
    rfl
  runMode := by
    simp only [Config.runMode, workerSettings_eq, useThread_iff, highest_cons, highest_nil]
    rfl

/-- **Each setting comes from the highest layer that gives it.** A configuration is refused if and
only if its file is, and otherwise the settings are layered over what the file gives; the
definition files are looked for where they say. -/
theorem load_layered (fs : FileSystem) (env : String → Option Bytes) (o : Options) :
    (∀ f, load fs (.ofBytes env) o = .error f ↔ FileFails fs o.config f) ∧
      (env "CLISH_LOG_LEVEL" ≠ some [] → env "RUST_LOG" ≠ some [] →
        ∀ c, load fs (.ofBytes env) o = .ok c →
          (∃ given, FileGives fs o.config given ∧ Layered given (.ofBytes env) o c) ∧
            Searches c.searchPath c.definitions.path c.definitions.home
              c.definitions.extension) := by
  refine ⟨fun f => load_eq_error_iff, fun hlevel hother c hc => ⟨?_, searches_searchPath c⟩⟩
  obtain ⟨given, hgives, rfl⟩ := exists_given_of_load hc
  exact ⟨given, hgives, layered_of_given given o (ofBytes_eq_empty_iff.not.mpr hlevel)
    (ofBytes_eq_empty_iff.not.mpr hother)⟩

/-- The text of a file that gives the home directory `null`, an extension with a dot, an empty name
and a level. -/
def givenText : String :=
  "\x7b\"definitions\":[\"/f\",\".defs\",null],\"shell\":\x7b\"thread_name\":\"\"\x7d," ++
    "\"logging\":\x7b\"level\":\"error\"\x7d\x7d"

/-- What it gives. -/
def givenSettings : Given where
  definitions := { path := some "/f", extension := some ".defs" }
  shell := { threadName := some "" }
  logging := { level := some "error" }

/-- The search path is empty, the home directory is no text, and the second level is asked for. -/
def givenVariables (name : String) : Option Bytes :=
  [("CLISH_PATH", []), ("HOME", [0x2F, 0xFF]), ("RUST_LOG", encode "warn")].lookup name

theorem givenText_layered :
    let fs := (Snapshot.addContent {} (.ofString "c") (.ok (.file (encode givenText)))).system
    let o : Options := { config := some (.ofString "c"), thread := true }
    let c : Config :=
      { definitions := { path := "/f", extension := ".defs" }
        shell := { useThread := true, threadName := "" }
        logging := { level := "warn" } }
    FileGives fs o.config givenSettings ∧ givenVariables "CLISH_LOG_LEVEL" ≠ some [] ∧
      givenVariables "RUST_LOG" ≠ some [] ∧ load fs (.ofBytes givenVariables) o = .ok c ∧
      ∃ given, FileGives fs o.config given ∧ Layered given (.ofBytes givenVariables) o c := by
  intro fs o c
  have hread : fs.readText (.ofString "c") = .ok givenText := readText_of_opened rfl
  have hgives : FileGives fs o.config givenSettings := .file hread (by decide)
  have hlevel : givenVariables "CLISH_LOG_LEVEL" ≠ some [] := by decide
  have hother : givenVariables "RUST_LOG" ≠ some [] := by decide
  have hload : load fs (.ofBytes givenVariables) o = .ok c := by
    rw [load_eq, Given.ofFile_eq_ok_iff.mpr hgives]
    decide
  exact ⟨hgives, hlevel, hother, hload,
    ((load_layered fs givenVariables o).2 hlevel hother c hload).1⟩

/-! ## Empty variables -/

/-- **SameButEmpty** — environments that differ in that some of the variables that are looked at are
empty in one of them and absent in the other. -/
def SameButEmpty (env env' : String → Option Bytes) : Prop :=
  ∀ name ∈ variableNames, env name = env' name ∨ env name = some [] ∧ env' name = none ∨
    env name = none ∧ env' name = some []

instance (env env' : String → Option Bytes) : Decidable (SameButEmpty env env') :=
  inferInstanceAs (Decidable (∀ name ∈ variableNames, _))

/-- **LevelEmptied** — an empty variable asks for the level: the one that is looked at first, or the
other if the first is not there. -/
def LevelEmptied (env : String → Option Bytes) : Prop :=
  env "CLISH_LOG_LEVEL" = some [] ∨
    Variables.ofBytes env "CLISH_LOG_LEVEL" = none ∧ env "RUST_LOG" = some []

instance (env : String → Option Bytes) : Decidable (LevelEmptied env) :=
  inferInstanceAs (Decidable (_ ∨ _))

/-- The level that an environment asks for. -/
def askedLevel (vars : Variables) : Option String :=
  (vars "CLISH_LOG_LEVEL").or (vars "RUST_LOG")

/-- A configuration without its level. -/
def beyondLevel (c : Config) : Config := { c with logging := {} }

section Empty

variable {env env' : String → Option Bytes}

theorem SameButEmpty.nonEmpty_eq (h : SameButEmpty env env') {name : String}
    (hname : name ∈ variableNames) :
    nonEmpty (.ofBytes env) name = nonEmpty (.ofBytes env') name := by
  have hempty : ∀ {env : String → Option Bytes}, env name = some [] ∨ env name = none →
      nonEmpty (.ofBytes env) name = none := by
    rintro env (hvalue | hvalue)
    · rw [nonEmpty, ofBytes_eq_empty_iff.mpr hvalue]
      rfl
    · rw [nonEmpty, Variables.ofBytes, hvalue]
      rfl
  rcases h name hname with heq | ⟨hvalue, hvalue'⟩ | ⟨hvalue, hvalue'⟩
  · rw [nonEmpty, nonEmpty, Variables.ofBytes, Variables.ofBytes, heq]
  · rw [hempty (.inl hvalue), hempty (.inr hvalue')]
  · rw [hempty (.inr hvalue), hempty (.inl hvalue')]

theorem askedLevel_of_emptied (h : LevelEmptied env) : askedLevel (.ofBytes env) = some "" := by
  rcases h with h | ⟨hnone, h⟩
  · rw [askedLevel, ofBytes_eq_empty_iff.mpr h]
    rfl
  · rw [askedLevel, hnone, ofBytes_eq_empty_iff.mpr h]
    rfl

/-- Where no empty variable asks for the level, only variables that are not empty do. -/
theorem askedLevel_of_not_emptied (h : ¬LevelEmptied env) : askedLevel (.ofBytes env) =
    (nonEmpty (.ofBytes env) "CLISH_LOG_LEVEL").or (nonEmpty (.ofBytes env) "RUST_LOG") := by
  obtain ⟨hlevel, hother⟩ := not_or.mp h
  rw [nonEmpty_eq (ofBytes_eq_empty_iff.not.mpr hlevel), askedLevel]
  cases hvalue : Variables.ofBytes env "CLISH_LOG_LEVEL" with
  | some value => rfl
  | none => rw [nonEmpty_eq (ofBytes_eq_empty_iff.not.mpr fun heq => hother ⟨hvalue, heq⟩)]

theorem SameButEmpty.askedLevel_eq (h : SameButEmpty env env')
    (hemptied : LevelEmptied env ↔ LevelEmptied env') :
    askedLevel (.ofBytes env) = askedLevel (.ofBytes env') := by
  by_cases hlevel : LevelEmptied env
  · rw [askedLevel_of_emptied hlevel, askedLevel_of_emptied (hemptied.mp hlevel)]
  · rw [askedLevel_of_not_emptied hlevel, askedLevel_of_not_emptied (hemptied.not.mp hlevel),
      h.nonEmpty_eq (by decide), h.nonEmpty_eq (by decide)]

/-- All that is read of an environment but the level. -/
theorem SameButEmpty.beyondLevel_withVariables (h : SameButEmpty env env') (c : Config) :
    (c.withVariables (.ofBytes env)).beyondLevel =
      (c.withVariables (.ofBytes env')).beyondLevel := by
  rw [withVariables, withVariables, h.nonEmpty_eq (by decide), h.nonEmpty_eq (by decide)]
  rfl

/-- The command line replaces the level or leaves it as it is. -/
theorem withOptions_congr {c c' : Config} {o : Options} (h : c.beyondLevel = c'.beyondLevel)
    (hlevel : o.logLevel ≠ none ∨ c.logging = c'.logging) : c.withOptions o = c'.withOptions o := by
  obtain ⟨hdefinitions, hshell, -⟩ := Config.mk.inj h
  rw [withOptions, withOptions, hdefinitions, hshell]
  rcases hlevel with hlevel | hlevel
  · obtain ⟨level, hsome⟩ := Option.ne_none_iff_exists'.mp hlevel
    rw [hsome]
    rfl
  · rw [hlevel]

/-- **An empty variable counts as absent**, whatever the file and the command line give, for all but
the level. For the level it does so if the command line gives one, or if an empty variable asks for
the level in both environments or in neither. Otherwise the level is empty where it does. -/
theorem load_emptied (fs : FileSystem) (o : Options) (h : SameButEmpty env env') :
    (o.logLevel ≠ none ∨ (LevelEmptied env ↔ LevelEmptied env') →
        load fs (.ofBytes env) o = load fs (.ofBytes env') o) ∧
      (load fs (.ofBytes env) o).map beyondLevel = (load fs (.ofBytes env') o).map beyondLevel ∧
      (o.logLevel = none → LevelEmptied env →
        ∀ c, load fs (.ofBytes env) o = .ok c → c.logFilter = "") := by
  refine ⟨fun hlevel => ?_, ?_, fun hnone hempty c hc => ?_⟩
  · rw [load_eq, load_eq]
    congr 1
    funext given
    refine withOptions_congr (h.beyondLevel_withVariables _) (hlevel.imp_right fun hsame => ?_)
    exact congrArg (fun level => Logging.mk (Option.getD level _)) (h.askedLevel_eq hsame)
  · rw [load_eq, load_eq]
    cases Given.ofFile fs o.config with
    | error f => rfl
    | ok given =>
        obtain ⟨hdefinitions, hshell, -⟩ := Config.mk.inj (h.beyondLevel_withVariables given.fill)
        simp only [Except.map, beyondLevel, withOptions, hdefinitions, hshell]
  · obtain ⟨given, -, rfl⟩ := exists_given_of_load hc
    show o.logLevel.getD ((askedLevel (.ofBytes env)).getD _) = ""
    rw [hnone, askedLevel_of_emptied hempty]
    rfl

/-- Only a level is asked for, and everything else is empty. -/
def emptiedButLevel (name : String) : Option Bytes :=
  [("CLISH_PATH", []), ("HOME", []), ("CLISH_LOG_LEVEL", encode "warn"),
    ("RUST_LOG", [])].lookup name

/-- Only a level is asked for, and nothing else is there. -/
def absentButLevel (name : String) : Option Bytes :=
  [("CLISH_LOG_LEVEL", encode "warn")].lookup name

theorem emptiedButLevel_absent :
    SameButEmpty emptiedButLevel absentButLevel ∧
      load .empty (.ofBytes emptiedButLevel) {} = .ok { logging := { level := "warn" } } ∧
      load .empty (.ofBytes emptiedButLevel) {} = load .empty (.ofBytes absentButLevel) {} := by
  have hsame : SameButEmpty emptiedButLevel absentButLevel := by decide
  have hneither : LevelEmptied emptiedButLevel ↔ LevelEmptied absentButLevel := by decide
  exact ⟨hsame, by decide, (load_emptied .empty {} hsame).1 (.inr hneither)⟩

/-- The file asks for a level, and an empty variable hides it, though it would not if it were
absent. -/
theorem emptiedLevel_hides :
    let fs := (Snapshot.addContent {} (.ofString "c") (.ok (.file (encode
      "\x7b\"logging\":\x7b\"level\":\"debug\"\x7d\x7d")))).system
    let o : Options := { config := some (.ofString "c") }
    let emptied := fun name => [("CLISH_LOG_LEVEL", [])].lookup name
    SameButEmpty emptied (fun _ => none) ∧
      (load fs (.ofBytes fun _ => none) o).map logFilter = .ok "debug" ∧
      (load fs (.ofBytes emptied) o).map logFilter = .ok "" := by
  intro fs o emptied
  have hgives : FileGives fs o.config { logging := { level := some "debug" } } :=
    .file (readText_of_opened rfl) (by decide)
  have hload := Given.ofFile_eq_ok_iff.mpr hgives
  refine ⟨by decide, ?_, ?_⟩
  · rw [load_eq, hload]
    decide
  · rw [load_eq, hload]
    decide

end Empty

end CommandShell.Config
