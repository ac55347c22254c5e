import Dialogue.Journal.Config
import Dialogue.Journal.Entry
import Dialogue.Journal.Level
import Dialogue.Journal.Note
import Dialogue.Journal.Thresholds

/-!
# Dialogue.Journal.Basic — where notes are written

The journal has sinks: the console, and files for lines and for records. `Journal.setup` removes all
sinks and adds those of a new configuration; until the first one there are none. An entry goes to
every sink whose level it reaches. The context is bound for all that is written later, or pushed for
the length of a block.

* The configuration of the last `setup` is remembered, and changes are merged into it.
* A `setup` that fails has already removed the old sinks and remembers the new configuration; the
  sinks before the one that failed are there.
* What other libraries log is taken in once a `setup` has succeeded in adding all sinks.

Two things are left out. A writer of entries may come with a sink on the console of its own, which is
there until the first `setup` removes it: here a journal starts without sinks. And a folder or a file
may be one that cannot be made: here a file is added wherever its rotation and retention are right.
-/

namespace Dialogue

/-- How a sink writes its entries. -/
inductive Journal.Form where
  | lines
  | records
deriving DecidableEq, Repr

/-- A file of the journal and all that was written into it. -/
structure Journal.LogFile where
  path : String
  form : Journal.Form
  entries : List Journal.Entry := []
deriving Repr

/-- Where a sink writes. -/
inductive Journal.Target where
  | console
  | file (path : String)
deriving DecidableEq, Repr

/-- A receiver of entries from a level on. -/
structure Journal.Sink where
  target : Journal.Target
  level : Journal.Level
deriving DecidableEq, Repr

/-- The state of the journal. -/
structure Journal where
  /-- The configuration of the last set-up. -/
  config : Option Journal.Config := none
  sinks : List Journal.Sink := []
  /-- All that was written to the console. -/
  console : List Journal.Entry := []
  files : List Journal.LogFile := []
  thresholds : Journal.Thresholds := {}
  /-- Whether what other libraries log is taken in. -/
  takesForeign : Bool := false
  context : Json.Members := []
  /-- The contexts to go back to, innermost first. -/
  outer : List Json.Members := []
deriving Repr

namespace Journal

/-! ## Context -/

/-- A context with more entries. -/
def withEntries (entries context : Json.Members) : Json.Members :=
  entries.foldl (fun context (name, value) => Json.put name value context) context

def bind (entries : Json.Members) (j : Journal) : Journal :=
  { j with context := withEntries entries j.context }

def clear (j : Journal) : Journal := { j with context := [] }

/-- Enters a block with more entries. -/
def push (entries : Json.Members) (j : Journal) : Journal :=
  { j with context := withEntries entries j.context, outer := j.context :: j.outer }

/-- Leaves the innermost block; the context is again as it was before. -/
def pop (j : Journal) : Journal :=
  match j.outer with
  | [] => j
  | context :: outer => { j with context, outer }

/-! ## Writing -/

/-- A file's entries with one more, where the path is the file's. -/
def appendTo (path : String) (e : Entry) (f : LogFile) : LogFile :=
  if f.path = path then { f with entries := f.entries ++ [e] } else f

/-- Writes an entry to one sink, if it reaches the sink's level. -/
def writeTo (e : Entry) (j : Journal) (s : Sink) : Journal :=
  if e.severity < s.level.severity then j
  else
    match s.target with
    | .console => { j with console := j.console ++ [e] }
    | .file path => { j with files := j.files.map (appendTo path e) }

/-- Writes an entry to the sinks. -/
def write (e : Entry) (j : Journal) : Journal :=
  j.sinks.foldl (writeTo e) j

/-- The entries that every record carries. -/
def extra (j : Journal) : Json.Members :=
  match j.config with
  | some c => c.extra
  | none => []

/-- The text of the context that a record shows: one that the record carries, else that of the
context that it carries, else that of the context given. -/
def shownContext (carried context : Json.Members) : Json :=
  match carried.lookup "context_str" with
  | some text => text
  | none =>
    match carried.lookup "context" with
    | some (.obj own) => .str (contextText own)
    | some _ => .str ""
    | none => .str (contextText context)

/-- The context of a note. -/
def contextOf (j : Journal) : Scope → Json.Members
  | .caller bound => withEntries bound j.context
  | .detached => []

/-- Writes a note of the library. -/
def note (n : Note) (j : Journal) : Journal :=
  j.write {
    levelName := n.level.name
    severity := n.level.severity
    source := n.source
    message := n.message
    context := .str (contextText (j.contextOf n.scope)) }

/-- Writes notes, in order. -/
def noteAll (notes : List Note) (j : Journal) : Journal :=
  notes.foldl (fun j n => j.note n) j

/-- The name and the severity that a level stands for: a known name, or a number. -/
def levelOf : Json → Except Defect (String × Int)
  | .str name =>
    match Level.ofName? name with
    | some l => .ok (l.name, l.severity)
    | none => .error (.unknownLevel name)
  | .int i => if i < 0 then .error (.negativeLevel i) else .ok (s!"Level {i}", i)
  | j => .error (.levelKind j.kindName)

/-- Writes what an application logs under a name. Without a sink nothing is looked at. -/
def log (source : String) (level : Json) (message : String) (j : Journal) :
    Except Defect Journal := do
  if j.sinks.isEmpty then return j
  let (levelName, severity) ← levelOf level
  return j.write { levelName, severity, source, message, context := shownContext j.extra j.context }

/-! ## What other libraries log -/

/-- The levels that other libraries know by the same name and number. -/
def sharedLevels : List Level := [.debug, .info, .warning, .error, .critical]

/-- The name of a severity. -/
def severityName (severity : Int) : String :=
  match sharedLevels.find? (fun l => (l.severity : Int) == severity) with
  | some l => l.name
  | none => s!"Level {severity}"

/-- Takes in what another library logs, if its logger lets it through. -/
def takeForeign (name : String) (severity : Int) (message : String) (j : Journal) : Journal :=
  if j.takesForeign && j.thresholds.admits name severity then
    j.write {
      levelName := severityName severity
      severity
      source := if Thresholds.isRoot name then Thresholds.rootName else name
      message
      context := shownContext j.extra j.context }
  else j

/-- Sets the thresholds of named loggers and then, if it is given, that of the root. -/
def setThresholds (named : List (String × Json)) (default : Option Json) (j : Journal) :
    Journal × Option Defect :=
  let root := (default.bind Json.given?).toList.map fun value => ("", value)
  let (thresholds, defect) := j.thresholds.setAll (named ++ root)
  ({ j with thresholds }, defect)

/-! ## Setting up -/

/-- The threshold of the root for a level; a level that other libraries do not know counts as
`INFO`. -/
def rootThreshold (level : Level) : Int :=
  if sharedLevels.contains level then level.severity else Level.info.severity

/-- Makes sure that a file is there. -/
def openFile (path : String) (form : Form) (files : List LogFile) : List LogFile :=
  if files.any (·.path == path) then files else files ++ [⟨path, form, []⟩]

/-- Adds a sink that writes a file. -/
def addFile (path : String) (form : Form) (level : Level) (j : Journal) : Journal :=
  { j with
    files := openFile path form j.files
    sinks := j.sinks ++ [⟨.file path, level⟩] }

/-- Adds the files of a configuration. -/
def addFiles (c : Config) (level : Level) (j : Journal) : Except Defect Journal := do
  if !c.logToFile then return j
  (Rotation.check c.rotation).mapError .rotation
  (Rotation.checkRetention c.retention).mapError .rotation
  let j := j.addFile (File.joinPath c.logDir c.logFile) .lines level
  if !c.enableJson then return j
  return j.addFile (File.joinPath c.logDir c.jsonFile) .records level

/-- Takes in what other libraries log, and quietens some of them. -/
def connectForeign (c : Config) (level : Level) (j : Journal) : Journal × Option Defect :=
  let thresholds := { j.thresholds with root := rootThreshold level }
  let j := { j with takesForeign := true, thresholds }
  j.setThresholds (c.quietLibs.map fun name => (name, .str c.quietLevel)) none

/-- The entry that the journal itself binds to every record. -/
def ownEntry : String := "app"

/-- The level of the sinks. The entries that every record carries are bound before it is looked at,
and the journal's own entry is not to be among them. -/
def sinkLevel (c : Config) : Except Defect Level :=
  if (c.extra.lookup ownEntry).isSome then .error (.boundTwice ownEntry)
  else
    match Level.ofName? c.level with
    | some level => .ok level
    | none => .error (.unknownLevel c.level)

/-- Applies a configuration: removes all sinks and adds those of the configuration. -/
def install (c : Config) (j : Journal) : Journal × Except Defect Config :=
  let j := { j with config := some c, sinks := [] }
  match sinkLevel c with
  | .error d => (j, .error d)
  | .ok level =>
    let j := { j with sinks := [⟨.console, level⟩] }
    match j.addFiles c level with
    | .error d => (j, .error d)
    | .ok j =>
      match j.connectForeign c level with
      | (j, none) => (j, .ok c)
      | (j, some d) => (j, .error d)

/-- Sets the journal up: changes are merged into a configuration that is given, else into the last
one, else into the defaults. -/
def setup (given : Option Config) (changes : Json.Members) (j : Journal) :
    Journal × Except Defect Config :=
  match ((given.or j.config).getD {}).change changes with
  | .error d => (j, .error d)
  | .ok c => j.install c

/-- Changes the level. -/
def setLevel (level : Json) (j : Journal) : Journal × Except Defect Config :=
  j.setup none [("level", level)]

/-- The changes that settings ask for. What settings do not say about level, folder, rotation and
retention is set back to the defaults. -/
def settingsChanges (settings : Json.Members) : Json.Members :=
  let d : Config := {}
  let orDefault (name : String) (default : Json) : Json := (settings.lookup name).getD default
  [("level", orDefault "log_level" (.str d.level)),
    ("log_dir", orDefault "log_dir" (.str d.logDir)),
    ("rotation", orDefault "log_rotation" d.rotation),
    ("retention", orDefault "log_retention" d.retention),
    ("log_to_file", orDefault "log_to_file" .null), ("enable_json", orDefault "log_json" .null)]

/-- Applies what settings say about the journal. -/
def applySettings (settings : Json.Members) (j : Journal) : Journal × Except Defect Config :=
  j.setup none (settingsChanges settings)

end Journal

end Dialogue
