/-!
# Dialogue.Stream.Payload — what a producer reports

A producer reports the whole text so far, an error, or the end. On the wire an error is a text that
starts with a mark no model writes, and the end is an empty text or none.
-/

namespace Dialogue.Stream

/-- A payload as it is passed on. -/
abbrev RawPayload := Option String

/-- The character in front of an error. -/
def errorMark : Char := '\x02'

/-- The payload that reports an error. -/
def errorPayload (message : String) : String :=
  String.ofList (errorMark :: message.toList)

/-- A payload by what it means. -/
inductive Payload where
  /-- The whole text so far. -/
  | text (text : List Char)
  | error (message : String)
  | done
deriving DecidableEq, Repr

/-- What a raw payload means. -/
def Payload.ofRaw : RawPayload → Payload
  | none => .done
  | some raw =>
    match raw.toList with
    | [] => .done
    | c :: rest => if c = errorMark then .error (String.ofList rest) else .text (c :: rest)

end Dialogue.Stream
