import Dialogue.Settings.Basic
import Dialogue.Text.Lines
import Dialogue.Yaml.Printer
import Dialogue.Yaml.Value

/-!
# Dialogue.Settings.Document — settings as documents

Settings are kept in a document: a mapping with a section for the runtime, a section for
generation, and the entries for the journal. What is not set is left out when settings are written,
and takes its default when they are read. An empty document describes the default settings. What
`Yaml.read` leaves out, such as a set or a node that contains itself, is no document of settings, not
even where it would count as not given.
-/

namespace Dialogue

namespace Settings

/-! ## Writing -/

def Runtime.toJson (r : Runtime) : Json :=
  .obj [("api", .str r.api), ("key", .str r.key), ("model", .str r.model),
    ("timeout_s", .float r.timeout), ("max_retries", .int r.maxRetries),
    ("supported_languages", .arr (r.languages.map .str)),
    ("flatten_history", .bool r.flattenHistory)]

/-- An entry that is left out when it has no value. -/
def optionalEntry (name : String) (value : Option Json) : Json.Members :=
  value.toList.map fun value => (name, value)

def Generation.toJson (g : Generation) : Json :=
  .obj (optionalEntry "temperature" (g.temperature.map .float) ++
    optionalEntry "max_tokens" (g.maxTokens.map .int) ++
    [("check_availability", .bool g.checkAvailability)])

/-- The entries for the journal. -/
def journalMembers (s : Settings) : Json.Members :=
  [("log_level", .str s.logLevel), ("log_dir", .str s.logDir), ("log_to_file", .bool s.logToFile),
    ("log_rotation", .str s.logRotation), ("log_retention", .str s.logRetention),
    ("log_json", .bool s.logJson)]

/-- The mapping that describes settings. -/
def toMembers (s : Settings) : Json.Members :=
  ("Runtime", s.runtime.toJson) :: ("Generation", s.generation.toJson) :: s.journalMembers

/-- Settings as a document. -/
def toDocument (s : Settings) : String := Yaml.write s.toMembers

/-! ## Reading -/

/-- What stands for a date at some depth of a document. Settings hold no dates: the stand-in is a
list where a section or a text is expected, and no list where a list may be. -/
def dateAt (depth : Nat) : Json :=
  if depth ≤ 1 then .arr [.null] else .obj [("date", .null)]

/-- The failure of a document that is malformed. -/
def malformed (path : String) : Failure :=
  .configuration ("配置文件格式错误: " ++ causeMark) [("path", .str path)]

/-- The failure of a document that is no mapping. -/
def notMapping (path : String) : Failure :=
  .configuration "配置文件必须为 YAML mapping/object" [("path", .str path)]

/-- The settings that the value of a document describes. -/
def ofDocumentValue (path : String) (value : Json) : Except Failure Settings :=
  match value with
  | .obj members => ofMembers members
  | value => if value.isGiven then .error (notMapping path) else ofMembers []

/-- The settings that a document describes, which was found at a path. -/
def ofDocument (path text : String) : Except Fault Settings :=
  match Yaml.read dateAt (Text.unifyLines text) with
  | .ok value => (ofDocumentValue path value).mapError .failure
  | .error .malformed => .error (.failure (malformed path))
  | .error (.badScalar message) => .error (.plain .value message)

/-- The settings of a file. -/
def ofFile (path : String) (files : File.Store) : Except Fault Settings :=
  let path := File.normalPath path
  match files.read path with
  | .ok text => ofDocument path text
  | .error (.folder path) => .error (.file (.folder path))
  | .error _ => .error (.noSettings path)

end Settings

end Dialogue
