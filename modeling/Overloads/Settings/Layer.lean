import Overloads.Settings.Format

/-!
# Layers of settings

Settings are put together from layers: each is laid over the ones before it,
whatever its source, and the result is read as a stored form.
-/

namespace Overloads

inductive Source where
  | defaults
  | file (path : Option String)
  | environment
  | commandLine
deriving DecidableEq, Repr

def Source.text : Source → String
  | .defaults => "defaults"
  | .file _ => "file"
  | .environment => "environment"
  | .commandLine => "CLI"

def Source.pathText : Source → String
  | .file (some path) => " Source: " ++ path ++ "."
  | _ => ""

structure Layer where
  source : Source
  value : Value

inductive MergeError where
  /-- A layer that is no object would wipe out those before it. -/
  | noObject (source : Source) (found : Value)
  | decoding (error : DecodeError)

def MergeError.message : MergeError → String
  | .noObject source found =>
    "Failed to merge CLI with configuration: Declarative merge for GeneratorConfig expects " ++
      "JSON objects but the " ++ source.text ++ " layer supplied " ++ found.kind ++ "." ++
      source.pathText ++ " Non-object layers would overwrite accumulated state."
  | .decoding error => "Failed to merge CLI with configuration: " ++ error.message

namespace Layer

/-- Lays layers over a value, one after the other. A layer without fields leaves everything as it
was. -/
def pile (base : Value) : List Layer → Except MergeError Value
  | [] => .ok base
  | l :: ls => match l.value with
    | .object [] => pile base ls
    | .object _ => pile (base.overlay l.value) ls
    | v => .error (.noObject l.source v)

def merge (ls : List Layer) : Except MergeError Settings := do
  let value ← pile .null ls
  match Settings.decode value with
  | .ok s => return s
  | .error e => throw (.decoding e)

end Layer

end Overloads
