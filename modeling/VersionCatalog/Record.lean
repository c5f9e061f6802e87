/-!
# Log records

What a command does on the way is noted in records. The reader chooses from which level on they are
shown.
-/

namespace VersionCatalog

/-- The level of a record, from the least to the most important. -/
inductive RecordLevel where
  /-- A step on the way. -/
  | debug
  | info
  /-- Something that is passed over. -/
  | warning
  /-- Something that broke off. -/
  | error
deriving DecidableEq, Repr

namespace RecordLevel

def name : RecordLevel → String
  | debug => "DEBUG"
  | info => "INFO"
  | warning => "WARNING"
  | error => "ERROR"

/-- The importance of a level. -/
def rank : RecordLevel → Nat
  | debug => 0
  | info => 1
  | warning => 2
  | error => 3

end RecordLevel

/-- The part of the program that a record comes from. -/
inductive RecordSource where
  | settings
  | document
  | catalog
  | check
deriving DecidableEq, Repr

/-- The name that a part of the program is recorded under. -/
def RecordSource.name : RecordSource → String
  | settings => "catalint.config"
  | document => "catalint.extractor"
  | catalog => "catalint.builder"
  | check => "catalint.validation.runner"

/-- A note on what was done. -/
structure Record where
  level : RecordLevel
  /-- The part of the program that it comes from. -/
  source : RecordSource
  message : String
deriving DecidableEq, Repr

def Record.line (record : Record) : String :=
  s!"{record.level.name} {record.source.name}: {record.message}"

/-- The least level that is shown for a number of requests to show more. -/
def RecordLevel.ofVerbosity : Nat → RecordLevel
  | 0 => warning
  | 1 => info
  | _ => debug

end VersionCatalog
