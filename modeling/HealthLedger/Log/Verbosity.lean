/-!
# How much a log tells

A verbosity is named in any case or given by its number. Its name is shown in lowercase.
-/

namespace HealthLedger.Log

/-- The most that a directive allows. -/
inductive Verbosity where
  /-- Nothing. -/
  | off
  /-- Errors. -/
  | error
  /-- Warnings and errors. -/
  | warn
  /-- All but details. -/
  | info
  /-- All but traces. -/
  | debug
  /-- Everything. -/
  | trace
  deriving Repr, DecidableEq

namespace Verbosity

/-- The verbosities with their names, the position of each being its number. -/
def names : List (String × Verbosity) :=
  [("off", .off), ("error", .error), ("warn", .warn), ("info", .info), ("debug", .debug),
   ("trace", .trace)]

/-- The name of a verbosity. -/
def name : Verbosity → String
  | .off => "off"
  | .error => "error"
  | .warn => "warn"
  | .info => "info"
  | .debug => "debug"
  | .trace => "trace"

/-- The number written by digits, with a plus sign or without. -/
def number? (text : String) : Option Nat :=
  let digits := match text.toList with
    | '+' :: rest => rest
    | chars => chars
  if digits.isEmpty || !digits.all Char.isDigit then none
  else some (digits.foldl (fun n c => n * 10 + (c.toNat - 48)) 0)

/-- The verbosity of a name in any case or of a number; no text at all stands for errors. -/
def parse? (text : String) : Option Verbosity :=
  match (number? text).bind fun n => (names[n]?).map (·.2) with
  | some verbosity => some verbosity
  | none => if text = "" then some .error else names.lookup (text.map Char.toLower)

end Verbosity

end HealthLedger.Log
