import Dialogue.Display

/-!
# Dialogue.Failure — failures by what the caller can do about them

* `unavailable` — the device, feature or model is not ready: a person has to act.
* `invalidInput`, `invalidSchema`, `emptyConversation` — the caller passed wrong data.
* `generation` — the model reported an error; another try may succeed.
* `encoding` — a result does not have the form that the caller asked for.
* `configuration` — the settings cannot be used.

A failure carries a code, a message and a context. `Failure.text` is what a person reads; for an
unavailable model it is the reason alone, word for word.
-/

namespace Dialogue

/-! ## Findings of a check -/

/-- One step of a path into a value. -/
inductive Step where
  | key (name : String)
  | index (position : Nat)
deriving DecidableEq, Repr

/-- What is wrong with one value that was checked against a record's fields. -/
inductive Finding.Kind where
  | missing
  | stringType
  | listType
  | floatType
  | floatParsing
  | intType
  | intParsing
  | intFromFloat
  | intParsingSize
  | boolType
  | boolParsing
  | finiteNumber
  | greaterThan
  | greaterThanEqual
  | lessThanEqual
  | modelType
deriving DecidableEq, Repr

/-- A place in a checked value and what is wrong there. -/
structure Finding where
  path : List Step
  kind : Finding.Kind
deriving DecidableEq, Repr

/-- The short name of a finding. -/
def Finding.Kind.name : Finding.Kind → String
  | .missing => "missing"
  | .stringType => "string_type"
  | .listType => "list_type"
  | .floatType => "float_type"
  | .floatParsing => "float_parsing"
  | .intType => "int_type"
  | .intParsing => "int_parsing"
  | .intFromFloat => "int_from_float"
  | .intParsingSize => "int_parsing_size"
  | .boolType => "bool_type"
  | .boolParsing => "bool_parsing"
  | .finiteNumber => "finite_number"
  | .greaterThan => "greater_than"
  | .greaterThanEqual => "greater_than_equal"
  | .lessThanEqual => "less_than_equal"
  | .modelType => "model_type"

/-! ## Failures -/

/-- The kinds of failure, with what only that kind carries. -/
inductive Failure.Kind where
  | general
  | configuration
  | unavailable (reason : String)
  | invalidInput
  | invalidSchema
  | emptyConversation
  | generation
  | encoding (rawText : Option String)
deriving DecidableEq, Repr

/-- A failure that the library reports. -/
structure Failure where
  kind : Failure.Kind
  code : String
  message : String
  context : Json.Members
  /-- What a check found, where a check caused the failure. -/
  findings : List Finding := []
deriving Repr

namespace Failure

/-- The code of a failure that was given none. -/
def unknownCode : String := "UNKNOWN_ERROR"

/-- The name of a kind of failure. -/
def Kind.name : Kind → String
  | .general => "LocalFMException"
  | .configuration => "ConfigurationError"
  | .unavailable _ => "Unavailable"
  | .invalidInput => "InvalidInput"
  | .invalidSchema => "InvalidSchema"
  | .emptyConversation => "EmptyConversation"
  | .generation => "GenerationFailure"
  | .encoding _ => "EncodingFailure"

/-- The names of a kind and of the wider kinds that it belongs to, narrowest first. -/
def Kind.family (k : Kind) : List String :=
  match k with
  | .general => [k.name]
  | .invalidSchema => [k.name, Kind.name .invalidInput, Kind.name .general]
  | .emptyConversation => [k.name, Kind.name .invalidInput, Kind.name .general]
  | k => [k.name, Kind.name .general]

/-- Whether another try may succeed. -/
def Kind.retryable : Kind → Bool
  | .generation => true
  | _ => false

/-- The context with an entry, unless its text is empty. -/
def withEntry (key text : String) (context : Json.Members) : Json.Members :=
  if text = "" then context else Json.put key (.str text) context

def general (message : String) (code : String := "") (context : Json.Members := []) : Failure where
  kind := .general
  code := if code = "" then unknownCode else code
  message
  context

def configuration (message : String) (context : Json.Members := []) : Failure where
  kind := .configuration
  code := "CONFIG_ERROR"
  message
  context

def unavailable (reasonText : String) (reason : String := "") (context : Json.Members := []) :
    Failure where
  kind := .unavailable (if reason = "" then "unknown" else reason)
  code := "UNAVAILABLE"
  message := reasonText
  context := withEntry "reason" reason context

def invalidInput (message : String) (field : String := "") (context : Json.Members := [])
    (code : String := "INVALID_INPUT") : Failure where
  kind := .invalidInput
  code := if code = "" then unknownCode else code
  message
  context := withEntry "field" field context

def invalidSchema (message : String) (context : Json.Members := []) : Failure where
  kind := .invalidSchema
  code := "INVALID_SCHEMA"
  message
  context

def emptyConversation (message : String := "No messages provided") : Failure where
  kind := .emptyConversation
  code := "EMPTY_CONVERSATION"
  message
  context := [("field", .str "messages")]

def generation (message : String) (modelName : String := "") (context : Json.Members := []) :
    Failure where
  kind := .generation
  code := "GENERATION_FAILURE"
  message
  context := withEntry "model_name" modelName context

/-- The number of characters of a raw text that the context keeps. -/
def rawTextLimit : Nat := 200

def encoding (message : String) (rawText : Option String := none) (context : Json.Members := []) :
    Failure where
  kind := .encoding rawText
  code := "ENCODING_FAILURE"
  message
  context :=
    match rawText with
    | some raw => Json.put "raw_text" (.str (String.ofList (raw.toList.take rawTextLimit))) context
    | none => context

/-- What a person reads. -/
def text (f : Failure) : String :=
  match f.kind with
  | .unavailable _ => f.message
  | _ =>
    let head := s!"[{f.code}] {f.message}"
    if f.context.isEmpty then head else s!"{head} | Context: {(Json.obj f.context).quoted}"

/-- The failure as a record. -/
def toRecord (f : Failure) : Json :=
  .obj [("error_code", .str f.code), ("message", .str f.message), ("context", .obj f.context),
    ("retryable", .bool f.kind.retryable), ("type", .str f.kind.name)]

end Failure

end Dialogue
