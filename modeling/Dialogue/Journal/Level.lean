/-!
# Dialogue.Journal.Level — how important a record is

Seven named levels, each with a severity; a channel keeps the records that are at least as severe as
its own level.
-/

namespace Dialogue.Journal

/-- The named levels. -/
inductive Level where
  | trace
  | debug
  | info
  | success
  | warning
  | error
  | critical
deriving DecidableEq, Repr

namespace Level

/-- The levels from the least severe to the most. -/
def all : List Level := [trace, debug, info, success, warning, error, critical]

def name : Level → String
  | trace => "TRACE"
  | debug => "DEBUG"
  | info => "INFO"
  | success => "SUCCESS"
  | warning => "WARNING"
  | error => "ERROR"
  | critical => "CRITICAL"

def severity : Level → Nat
  | trace => 5
  | debug => 10
  | info => 20
  | success => 25
  | warning => 30
  | error => 40
  | critical => 50

/-- The level with the given name; the spelling counts. -/
def ofName? (name : String) : Option Level :=
  all.find? (·.name == name)

end Level

end Dialogue.Journal
