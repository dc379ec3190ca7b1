import Overloads.Argument.Constness
import Overloads.System.Error

/-!
# Faults

What can go wrong once the settings are known, and its wording.
-/

namespace Overloads

inductive Fault where
  | constness (error : ConstnessError)
  /-- A comparison was asked for, but no file to compare with. -/
  | checkWithoutOutput
  /-- The path of the output does not end in the name of a file. -/
  | invalidOutputPath (path : String)
  | invalidLogLevel (value reason : String)
  /-- Events are reported elsewhere already. -/
  | loggingInstalled
  /-- The file compared is missing or holds another text. -/
  | outOfDate (path : String)
  | stdout (error : SystemError)
  | io (path : String) (error : SystemError)
deriving DecidableEq, Repr

def programName : String := "tpie-memgen"

/-- The wording of a refused constness, its bits in binary. -/
def ConstnessError.message : ConstnessError → String
  | .tooWide arity limit =>
    "arity " ++ toString arity ++ " exceeds the supported maximum of " ++ toString limit
  | .excessBits arity bits =>
    "mask 0b" ++ String.ofList (Nat.toDigits 2 bits.toNat) ++ " has bits beyond arity " ++
      toString arity

namespace Fault

def cause : Fault → Option String
  | .loggingInstalled => some "a global default trace dispatcher has already been set"
  | .stdout error => some error.message
  | .io _ error => some error.message
  | _ => none

def message : Fault → String
  | .constness error => error.message
  | .checkWithoutOutput => "--check requires --out to name the file to verify"
  | .invalidOutputPath path => "output path '" ++ path ++ "' does not name a file"
  | .invalidLogLevel value reason => "invalid log level '" ++ value ++ "': " ++ reason
  | .loggingInstalled =>
    "failed to install the log subscriber: a global default trace dispatcher has already been set"
  | .outOfDate path =>
    path ++ " is out of date; rerun " ++ programName ++ " --out " ++ path
  | .stdout error => "failed to write to stdout: " ++ error.message
  | .io path error => "I/O error at " ++ path ++ ": " ++ error.message

end Fault

end Overloads
