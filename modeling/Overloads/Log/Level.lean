import Overloads.Number.Decimal

/-!
# Levels of events

Events are of five levels, and a threshold lets through those of a level and
all weightier ones, or none.
-/

namespace Overloads

inductive Level where
  | error
  | warn
  | info
  | debug
  | trace
deriving DecidableEq, Repr

namespace Level

def rank : Level → Nat
  | .error => 1
  | .warn => 2
  | .info => 3
  | .debug => 4
  | .trace => 5

def label : Level → String
  | .error => "ERROR"
  | .warn => "WARN"
  | .info => "INFO"
  | .debug => "DEBUG"
  | .trace => "TRACE"

end Level

/-- The least weighty level that is let through; none lets nothing through. -/
abbrev Threshold := Option Level

namespace Threshold

def text : Threshold → String
  | none => "off"
  | some .error => "error"
  | some .warn => "warn"
  | some .info => "info"
  | some .debug => "debug"
  | some .trace => "trace"

/-- All thresholds, by the numbers they may be given as. -/
def all : List Threshold :=
  [none, some .error, some .warn, some .info, some .debug, some .trace]

def admits : Threshold → Level → Bool
  | none, _ => false
  | some t, l => l.rank ≤ t.rank

/-- A threshold by its number, which may have a plus sign in front. -/
def ofNumber? (cs : List Char) : Option Threshold :=
  let cs := match cs with
    | '+' :: cs => cs
    | cs => cs
  (digits? cs).bind fun n => all[n]?

/-- A threshold by its number or its name; the letters may be of either case. -/
def ofText? (s : String) : Option Threshold :=
  match ofNumber? s.toList with
  | some t => some t
  | none => all.find? fun t => t.text = s.map Char.toLower

example : ofText? "+3" = some (some .info) ∧ ofText? "OFF" = some none := by decide +kernel

end Threshold

end Overloads
