import Overloads.CommandLine
import Overloads.Settings.Files

/-!
# Loading settings

Settings are merged from the defaults, a settings file, the environment and
the command line, each of which goes over those before it. A settings file
that cannot be read makes loading fail, whatever lies above it.
-/

namespace Overloads

namespace Settings

def defaultLayer : Layer where
  source := .defaults
  value := .object [("check", .bool false), ("omit_pragmas", .bool false),
    ("log_level", .string "warn")]

def lowerLayers (t : FileTree) (here : Location) (e : Environment) :
    List Layer × List LoadError :=
  let (files, errors) :=
    SettingsFile.firstOf t here (SettingsFile.places e here).eraseDups []
  (defaultLayer :: files ++ [Environment.layer e], errors)

/-- Merges layers, unless there were errors; an error of merging comes last. -/
def finish (layers : List Layer) (errors : List LoadError) :
    Except (List LoadError) Settings :=
  match Layer.merge layers, errors with
  | .ok s, [] => .ok s
  | .ok _, errors => .error errors
  | .error e, errors => .error (errors ++ [.merge e])

def load (t : FileTree) (here : Location) (e : Environment) (c : CommandLine) :
    Except (List LoadError) Settings :=
  let (layers, errors) := lowerLayers t here e
  finish (layers ++ [c.layer]) errors

end Settings

end Overloads
