import Dialogue.Json.Value

/-!
# Dialogue.Availability — whether a model can be used

A probe finds the model available, or gives a reason and a text that is shown to a person word for
word.
-/

namespace Dialogue

/-- Why a model is or is not available. -/
inductive Availability.Reason where
  | ok
  | deviceNotEligible
  | featureDisabled
  | modelNotReady
  | unknown
deriving DecidableEq, Repr

namespace Availability.Reason

def all : List Reason := [ok, deviceNotEligible, featureDisabled, modelNotReady, unknown]

def name : Reason → String
  | ok => "ok"
  | deviceNotEligible => "device_not_eligible"
  | featureDisabled => "feature_disabled"
  | modelNotReady => "model_not_ready"
  | unknown => "unknown"

def ofName? (name : String) : Option Reason := all.find? (·.name == name)

end Availability.Reason

/-- The result of a probe. -/
structure Availability where
  available : Bool
  reason : Availability.Reason := .ok
  reasonText : String := ""
deriving DecidableEq, Repr

namespace Availability

def ok : Availability := ⟨true, .ok, ""⟩

def unavailable (reason : Reason) (reasonText : String) : Availability :=
  ⟨false, reason, reasonText⟩

/-- The result of a probe as a record. -/
def toJson (a : Availability) : Json :=
  .obj [("available", .bool a.available), ("reason", .str a.reason.name),
    ("reason_text", .str a.reasonText)]

end Availability

end Dialogue
