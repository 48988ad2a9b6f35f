import BatchScript.Text

/-!
# Log records

What the parts of the program note while they work, in the order in which they note it.
-/
namespace BatchScript.Log

/-- How serious a record is. -/
inductive Level where
  /-- For those who look for the cause of something. -/
  | debug
  /-- For everyone: something was ignored. -/
  | warning
  deriving DecidableEq, Repr

/-- The name of a level. -/
def Level.name : Level → Text
  | .debug => "DEBUG".toList
  | .warning => "WARNING".toList

/-- The part of the program that a record comes from. -/
inductive Source where
  /-- The completion of tokens. -/
  | hint
  /-- The configuration. -/
  | config
  /-- The editor service. -/
  | editor
  /-- The command. -/
  | command
  deriving DecidableEq, Repr

/-- The name of a part of the program. -/
def Source.name : Source → Text
  | .hint => "cmdlex.hint".toList
  | .config => "cmdlex.config".toList
  | .editor => "cmdlex.lsp".toList
  | .command => "cmdlex.cli".toList

/-- One note. -/
structure Record where
  /-- How serious it is. -/
  level : Level
  /-- Where it comes from. -/
  source : Source
  /-- What it says. -/
  message : Text
  deriving DecidableEq, Repr

/-- The source and the message. -/
def Record.brief (record : Record) : Text :=
  record.source.name ++ ": ".toList ++ record.message

/-- The level, the source and the message. -/
def Record.full (record : Record) : Text := record.level.name ++ ' ' :: record.brief

end BatchScript.Log
