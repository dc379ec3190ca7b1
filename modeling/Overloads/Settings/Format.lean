import Overloads.Data.Value
import Overloads.Settings.Basic

/-!
# The stored form of settings

Settings are stored as an object, in which whatever equals its default may be
missing, or as an array of the values in order. `encode` leaves out an absent
file and switches that are off; `decode` reads both forms.
-/

namespace Overloads

inductive Expected where
  | bool
  | string
  | settings
deriving DecidableEq, Repr

inductive DecodeError where
  | unexpected (found : Value) (expected : Expected)
  | noItems
  | excessItems (count : Nat)

namespace Expected

def text : Expected → String
  | .bool => "a boolean"
  | .string => "a string"
  | .settings => "struct GeneratorConfig"

end Expected

namespace DecodeError

def message : DecodeError → String
  | .unexpected found expected =>
    "invalid type: " ++ found.describe ++ ", expected " ++ expected.text
  | .noItems => "invalid length 0, expected " ++ Expected.settings.text ++ " with 4 elements"
  | .excessItems count =>
    "invalid length " ++ toString count ++ ", expected fewer elements in array"

end DecodeError

namespace Settings

def decodeBool : Value → Except DecodeError Bool
  | .bool b => .ok b
  | v => .error (.unexpected v .bool)

def decodeString : Value → Except DecodeError String
  | .string s => .ok s
  | v => .error (.unexpected v .string)

def decodeOptional : Value → Except DecodeError (Option String)
  | .null => .ok none
  | v => some <$> decodeString v

def orDefault {α : Type} (read : Value → Except DecodeError α) (default : α) :
    Option Value → Except DecodeError α
  | none => .ok default
  | some v => read v

/-- Reads the fields in the order of their names, so the first bad one in that order counts. -/
def decodeFields (fs : Fields Value) : Except DecodeError Settings := do
  let check ← orDefault decodeBool false (fs.get? "check")
  let logLevel ← orDefault decodeString "warn" (fs.get? "log_level")
  let omitPragmas ← orDefault decodeBool false (fs.get? "omit_pragmas")
  let out ← orDefault decodeOptional none (fs.get? "out")
  return ⟨out, check, omitPragmas, logLevel⟩

/-- Reads the values of an array; only the first must be there, and a fifth must not. -/
def decodeItems (items : List Value) : Except DecodeError Settings :=
  match items with
  | [] => .error .noItems
  | first :: rest => do
    let out ← decodeOptional first
    let check ← orDefault decodeBool false rest[0]?
    let omitPragmas ← orDefault decodeBool false rest[1]?
    let logLevel ← orDefault decodeString "warn" rest[2]?
    if items.length ≤ 4 then return ⟨out, check, omitPragmas, logLevel⟩
    else throw (.excessItems items.length)

def decode : Value → Except DecodeError Settings
  | .object fs => decodeFields fs
  | .array items => decodeItems items
  | v => .error (.unexpected v .settings)

/-- The stored form; an absent file and switches that are off are left out. -/
def encode (s : Settings) : Value :=
  .object <|
    (match s.out with | some path => [("out", .string path)] | none => []) ++
    (if s.check then [("check", .bool true)] else []) ++
    (if s.omitPragmas then [("omit_pragmas", .bool true)] else []) ++
    [("log_level", .string s.logLevel)]

end Settings

end Overloads
