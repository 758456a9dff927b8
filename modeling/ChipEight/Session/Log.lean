import ChipEight.Text.Letter

/-!
# Logs

A log is a list of entries, each with the part of the program that it comes from and a
level.  Entries below the level that is asked for are left out when a log is shown.
-/

namespace ChipEight

/-- How much an entry matters. -/
inductive LogLevel where
  | debug
  | info
  | warning
  | error
  deriving DecidableEq, Repr

/-- The name of a level. -/
def LogLevel.label : LogLevel → String
  | debug => "DEBUG"
  | info => "INFO"
  | warning => "WARNING"
  | error => "ERROR"

/-- An entry of a log. -/
structure LogEntry where
  source : String
  level : LogLevel
  message : Text
  deriving DecidableEq, Repr

namespace LogEntry

/-- The lines that show an entry. -/
def lines (entry : LogEntry) : List Text :=
  (Text.ofString ("[" ++ entry.source ++ "][" ++ entry.level.label ++ "] ") ++
    entry.message).lines

/-- Whether an entry is shown. -/
def isShown (verbose : Bool) (entry : LogEntry) : Bool :=
  verbose || entry.level != .debug

end LogEntry

end ChipEight
