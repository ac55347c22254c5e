import Dialogue.Lenient
import Dialogue.Fault

/-!
# Dialogue.Settings.Basic — settings and how they are read

Settings have a section for the runtime, a section for generation, and entries for the journal.
`Settings.ofJson` reads them from a mapping. A section may be written with a capital or a small
first letter; the capital one counts where both are there. A section that is not given takes its
defaults, and so does an entry that is null. Every other value has to fit, and all that does not
fit is reported together.
-/

namespace Dialogue

/-- How to reach the model. -/
structure Settings.Runtime where
  api : String := "http://127.0.0.1:8080/v1"
  key : String := ""
  model : String := "local-model"
  /-- Seconds that one request may take. -/
  timeout : Binary64 := Binary64.ofRatio false 120 1
  maxRetries : Int := 0
  languages : List String := ["English"]
  /-- Whether a history is sent as one flat prompt. -/
  flattenHistory : Bool := false
deriving DecidableEq, Repr

/-- What a generation uses when the caller says nothing else. -/
structure Settings.Generation where
  temperature : Option Binary64 := none
  maxTokens : Option Int := none
  /-- Whether every call first asks if the model can be used. -/
  checkAvailability : Bool := true
deriving DecidableEq, Repr

/-- The settings of an application. -/
structure Settings where
  runtime : Settings.Runtime := {}
  generation : Settings.Generation := {}
  logLevel : String := "INFO"
  logDir : String := "logs"
  logToFile : Bool := false
  logRotation : String := "20 MB"
  logRetention : String := "7 days"
  logJson : Bool := false
deriving DecidableEq, Repr

namespace Settings

open Lenient

def modelName (s : Settings) : String := s.runtime.model

/-- Whether a timeout or a temperature is no number. -/
def hasNaN (s : Settings) : Bool :=
  s.runtime.timeout == .nan || s.generation.temperature == some .nan

/-- Whether settings are equal field by field; what is no number equals nothing. -/
def same (a b : Settings) : Bool := a == b && !a.hasNaN

/-! ## Sections -/

/-- The key under which the address is given. -/
def addressKey (members : Json.Members) : String :=
  if (members.lookup "api").isSome then "api" else "base_url"

/-- A timeout has to be positive. -/
def positiveSeconds : Conversion Binary64 :=
  bounded float (fun x => x != .nan && !x.isPositive) .greaterThan

/-- A temperature has to lie between zero and one. -/
def unitTemperature : Conversion Binary64 :=
  bounded (bounded float (·.exceedsOne) .lessThanEqual) (·.isNegative) .greaterThanEqual

/-- A whole number from zero on. -/
def count : Conversion Int := bounded int (· < 0) .greaterThanEqual

/-- The list of languages at a place. -/
def languageList (path : List Step) (members : Json.Members) : Checked (List String) :=
  match members.lookup "supported_languages" with
  | some j => texts (path ++ [.key "supported_languages"]) j
  | none => .ok ({ } : Runtime).languages

/-- The section for the runtime. -/
def Runtime.check (path : List Step) : Json → Checked Runtime
  | .obj members =>
    let d : Runtime := {}
    let start : Checked _ := .ok Runtime.mk
    start.and (field path members (addressKey members) text d.api)
      |>.and (field path members "key" text d.key)
      |>.and (field path members "model" text d.model)
      |>.and (field path members "timeout_s" positiveSeconds d.timeout)
      |>.and (field path members "max_retries" count d.maxRetries)
      |>.and (languageList path members)
      |>.and (field path members "flatten_history" bool d.flattenHistory)
  | _ => .error [⟨path, .modelType⟩]

/-- The section for generation. -/
def Generation.check (path : List Step) : Json → Checked Generation
  | .obj members =>
    let d : Generation := {}
    let start : Checked _ := .ok Generation.mk
    start.and (field path members "temperature" (nullable unitTemperature) d.temperature)
      |>.and (field path members "max_tokens" (nullable count) d.maxTokens)
      |>.and (field path members "check_availability" bool d.checkAvailability)
  | _ => .error [⟨path, .modelType⟩]

/-- A section under its capital or small name, if it is given. -/
def section? (capital small : String) (members : Json.Members) : Option Json :=
  ((members.lookup capital).or (members.lookup small)).bind Json.given?

/-- A section that takes its defaults when it is not given. -/
def sectionOr (default : α) (check : Json → Checked α) : Option Json → Checked α
  | some j => check j
  | none => .ok default

/-- An entry whose null counts as not given. -/
def entry (members : Json.Members) (name : String) (convert : Conversion α) (default : α) :
    Checked α :=
  match members.lookup name with
  | some .null => .ok default
  | _ => field [] members name convert default

/-- The settings that the members of a mapping describe. -/
def check (members : Json.Members) : Checked Settings :=
  let d : Settings := {}
  let start : Checked _ := .ok Settings.mk
  start.and (sectionOr d.runtime (Runtime.check [.key "runtime"])
      (section? "Runtime" "runtime" members))
    |>.and (sectionOr d.generation (Generation.check [.key "generation"])
      (section? "Generation" "generation" members))
    |>.and (entry members "log_level" text d.logLevel)
    |>.and (entry members "log_dir" text d.logDir)
    |>.and (entry members "log_to_file" bool d.logToFile)
    |>.and (entry members "log_rotation" text d.logRotation)
    |>.and (entry members "log_retention" text d.logRetention)
    |>.and (entry members "log_json" bool d.logJson)

/-- The stand-in for the text of a cause that is reported on its own. -/
def causeMark : String := "<cause>"

/-- The failure of values that do not fit. -/
def misfit (findings : List Finding) : Failure :=
  { Failure.configuration ("配置取值错误: " ++ causeMark) with findings }

/-- The settings that a mapping describes. -/
def ofMembers (members : Json.Members) : Except Failure Settings :=
  (check members).mapError misfit

/-- The settings that a value describes, which must be a mapping. -/
def ofJson : Json → Except Fault Settings
  | .obj members => (ofMembers members).mapError .failure
  | j => .error (.noMembers j.kindName)

end Settings

end Dialogue
