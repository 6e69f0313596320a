/-! Log records: a level, the part of the program that speaks, and a message. -/
namespace KeyedImages.Log

/-- Levels from the most to the least urgent. -/
inductive Level
  | error
  | warn
  | info
  | debug
  | trace
  deriving DecidableEq, Repr

/-- The part of the program that writes a record. -/
inductive Source
  | program
  | settings
  | session
  | key
  | mock
  deriving DecidableEq, Repr

structure Record where
  level : Level
  source : Source
  message : String
  deriving DecidableEq, Repr

def Level.name : Level → String
  | .error => "ERROR"
  | .warn => "WARN"
  | .info => "INFO"
  | .debug => "DEBUG"
  | .trace => "TRACE"

/-- Urgency, where a larger number is less urgent. -/
def Level.rank : Level → Nat
  | .error => 1
  | .warn => 2
  | .info => 3
  | .debug => 4
  | .trace => 5

/-- The target under which records of a source are filtered and shown. -/
def Source.target : Source → String
  | .program => "a_system"
  | .settings => "a_system::config"
  | .session => "a_system::runner"
  | .key => "a_system::service::key"
  | .mock => "a_system::service::mock"

def Record.text (r : Record) : String :=
  r.level.name ++ " " ++ r.source.target ++ ": " ++ r.message

end KeyedImages.Log
