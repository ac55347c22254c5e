import Dialogue.Display
import Dialogue.File.Path
import Dialogue.Journal.Defect
import Dialogue.Text.Case

/-!
# Dialogue.Journal.Config — how the journal is set up

A configuration has a value for every entry. `Config.change` merges changes into it: a null changes
nothing, a level is put in capitals, and a name that is no entry is refused.

A level may be of any kind, since its text counts, and so may a flag, since it counts whether it is
given; rotation and retention are looked at when files are added. The other entries have the types
that they are declared with: folder and files are texts, `extra` is a mapping, and `quiet_libs` is a
list of texts. What is refused for not having its type is left out: such a value is read as its text,
as an empty mapping, or as the texts that are in it.
-/

namespace Dialogue.Journal

/-- How the journal is set up. -/
structure Config where
  level : String := "INFO"
  logDir : String := "logs"
  logFile : String := "localfm.log"
  jsonFile : String := "localfm.jsonl"
  rotation : Json := .str "20 MB"
  retention : Json := .str "7 days"
  logToFile : Bool := true
  enableJson : Bool := false
  colorize : Bool := true
  enqueue : Bool := false
  backtrace : Bool := false
  diagnose : Bool := false
  /-- Entries that every record carries. -/
  extra : Json.Members := []
  /-- Loggers of other libraries that are to be quiet, and their level. -/
  quietLibs : List String := ["httpx", "httpcore", "openai", "asyncio", "urllib3"]
  quietLevel : String := "WARNING"
deriving Repr

namespace Config

/-- The configuration with one entry set, to a value of the type that the entry has. -/
def set (name : String) (value : Json) (c : Config) : Except Defect Config :=
  match name with
  | "level" => .ok { c with level := value.shown }
  | "log_dir" => .ok { c with logDir := value.shown }
  | "log_file" => .ok { c with logFile := value.shown }
  | "json_file" => .ok { c with jsonFile := value.shown }
  | "rotation" => .ok { c with rotation := value }
  | "retention" => .ok { c with retention := value }
  | "log_to_file" => .ok { c with logToFile := value.isGiven }
  | "enable_json" => .ok { c with enableJson := value.isGiven }
  | "colorize" => .ok { c with colorize := value.isGiven }
  | "enqueue" => .ok { c with enqueue := value.isGiven }
  | "backtrace" => .ok { c with backtrace := value.isGiven }
  | "diagnose" => .ok { c with diagnose := value.isGiven }
  | "extra" => .ok { c with extra := value.members?.getD [] }
  | "quiet_libs" => .ok { c with quietLibs := (value.elements?.getD []).filterMap Json.text? }
  | "quiet_level" => .ok { c with quietLevel := value.shown }
  | name => .error (.unknownEntry name)

/-- The configuration with entries set, in order. -/
def setAll (entries : Json.Members) (c : Config) : Except Defect Config :=
  entries.foldlM (fun c (name, value) => c.set name value) c

/-- Levels in capitals, and the folder in normal form. -/
def normalized (c : Config) : Config :=
  { c with
    level := Text.upper c.level
    logDir := File.normalPath c.logDir
    quietLevel := Text.upper c.quietLevel }

/-- Whether a value changes an entry. -/
def isChange : Json → Bool
  | .null => false
  | _ => true

/-- The configuration with changes merged into it. -/
def change (changes : Json.Members) (c : Config) : Except Defect Config :=
  (c.setAll (changes.filter fun (_, value) => isChange value)).map normalized

/-- The configuration as a record. -/
def toJson (c : Config) : Json :=
  .obj [("level", .str c.level), ("log_dir", .str c.logDir), ("log_file", .str c.logFile),
    ("json_file", .str c.jsonFile), ("rotation", c.rotation), ("retention", c.retention),
    ("log_to_file", .bool c.logToFile), ("enable_json", .bool c.enableJson),
    ("colorize", .bool c.colorize), ("enqueue", .bool c.enqueue), ("backtrace", .bool c.backtrace),
    ("diagnose", .bool c.diagnose), ("extra", .obj c.extra),
    ("quiet_libs", .arr (c.quietLibs.map .str)), ("quiet_level", .str c.quietLevel)]

/-! ## Flags from the environment -/

/-- The words that switch a flag off, in any letter case. -/
def offWords : List String := ["0", "false", "no", "off"]

/-- A flag that an environment variable sets: off for one of four words, on for any other text. -/
def flag (value : Option String) (default : Bool) : Bool :=
  match value with
  | none => default
  | some text => !offWords.contains (Text.lower text)

end Config

end Dialogue.Journal
