import Overloads.Data.Toml.Document
import Overloads.FileTree.Walk
import Overloads.Settings.Environment
import Overloads.Text.Bytes

/-!
# Settings files

Settings files are looked for at fixed places. The first one that is there and
can be read counts. A file may extend another one, whose settings then lie
beneath its own, and so on; files that extend one another in a circle are
refused. The files that are not yet part of a chain bound its length.
-/

namespace Overloads

inductive FileError where
  | system (error : SystemError)
  /-- A format that is known, but not read. -/
  | jsonFormat
  | yamlFormat
  | malformed
  | extendsKind (kind : String)
  | extendsEmpty
  | extendsMissing (extended extending : String)
  | extendsIrregular
deriving DecidableEq, Repr

def FileError.message? : FileError → Option String
  | .system error => some error.message
  | .jsonFormat => some
    "json5 feature disabled: enable the 'json5' feature to support this file format"
  | .yamlFormat => some "yaml feature disabled"
  | .malformed => none
  | .extendsKind kind => some ("'extends' key must be a string, but found type: " ++ kind)
  | .extendsEmpty => some "'extends' key must be a non-empty string"
  | .extendsMissing extended extending => some
    ("extended configuration file '" ++ extended ++ "' does not exist (referenced from '" ++
      extending ++ "')")
  | .extendsIrregular => some "extended path is not a regular file"

inductive LoadError where
  | merge (error : MergeError)
  | file (path : String) (error : FileError)
  /-- Files that extend one another in a circle, by their paths. -/
  | cycle (paths : List String)

def LoadError.message : LoadError → String
  | .merge error => error.message
  | .file path error => match error.message? with
    | some text => "Configuration file error in '" ++ path ++ "': " ++ text
    | none => "Configuration file error in '" ++ path ++ "'"
  | .cycle paths => "cyclic extends detected: " ++ " -> ".intercalate paths

namespace SettingsFile

/-! ## One file -/

/-- The part of a file's name behind its last point, unless the name begins there. -/
def extension (name : String) : Option String :=
  match (Text.cut '.' name).reverse with
  | last :: before =>
    if before.isEmpty || before = [""] then none else some last
  | [] => none

def kind : Toml.Value → String
  | .string _ => "string"
  | .integer _ | .float _ | .notFinite => "number"
  | .bool _ => "bool"
  | .array _ => "array"
  | .table _ | .moment _ => "object"

def decode (name : String) (content : ByteArray) : Except FileError (Fields Toml.Value) :=
  match Text.ofBytes? content with
  | none => .error (.system .notText)
  | some text =>
    match (extension name).map Text.small with
    | some "json" | some "json5" => .error .jsonFormat
    | some "yaml" | some "yml" => .error .yamlFormat
    | _ => match Toml.read? text with
      | some fs => .ok fs
      | none => .error .malformed

def extended? (fs : Fields Toml.Value) : Except FileError (Option String) :=
  match fs.get? "extends" with
  | none => .ok none
  | some (.string "") => .error .extendsEmpty
  | some (.string s) => .ok (some s)
  | some v => .error (.extendsKind (kind v))

def layer (path : String) (fs : Fields Toml.Value) : Layer where
  source := .file (some path)
  value := (Toml.Value.table (fs.erase "extends")).plain

/-! ## A file and those it extends -/

/-- The path in a directory, or the path itself if it starts at the root. -/
def pathIn (directory path : String) : String :=
  if Path.isAbsolute path then path
  else if directory = "" || directory.toList.getLast? = some '/' then directory ++ path
  else directory ++ "/" ++ path

def follow (t : FileTree) (file : Location) (path : String) :
    Except LoadError (Location × ByteArray) :=
  let target := pathIn (Location.path file.dropLast) path
  match t.trace [] .follow target with
  | .ok (.entry l (.file content)) => .ok (l, content)
  | .ok (.entry l _) => .error (.file l.path .extendsIrregular)
  | .ok (.free _) | .error (.numbered 2) =>
    .error (.file target (.extendsMissing target file.path))
  | .error e => .error (.file target (.system e))

/-- The layers of a file and those it extends, the lowest first. `chain` are the files that led
here, the last first; `others` are the files that may still be part of the chain. -/
def chain (t : FileTree) (others : List Location) (before : List Location) (file : Location)
    (content : ByteArray) : Except LoadError (List Layer) :=
  if h : file ∈ others then do
    have : (others.erase file).length < others.length := by
      have := List.length_pos_of_mem h
      rw [List.length_erase_of_mem h]; omega
    let fs ← (decode (file.getLastD "") content).mapError (.file file.path)
    match ← (extended? fs).mapError (.file file.path) with
    | none => return [layer file.path fs]
    | some path =>
      let (file', content') ← follow t file path
      let below ← chain t (others.erase file) (file :: before) file' content'
      return below ++ [layer file.path fs]
  else .error (.cycle ((file :: before).reverse.map Location.path))
termination_by others.length

def regularFiles (t : FileTree) : List Location :=
  t.entries.filterMap fun p => match p.2 with
    | .file _ => some p.1
    | _ => none

def layers? (t : FileTree) (here : Location) (path : String) :
    Option (Except LoadError (List Layer)) :=
  match t.resolve here .follow path with
  | .ok (.entry l (.file content)) => some (chain t (regularFiles t) [] l content)
  | _ => none

/-! ## Places -/

def inDirectory (directory : String) : List String :=
  [pathIn directory "memgen/config.toml", pathIn directory ".memgen.toml"]

/-- The directories for all users; there is always one. -/
def sharedDirectories (e : Environment) : List String :=
  match (Text.cut ':' ((e.get? "XDG_CONFIG_DIRS").getD "")).filter (· ≠ "") with
  | [] => ["/etc/xdg"]
  | directories => directories

def places (e : Environment) (here : Location) : List String :=
  let explicit := match e.get? "MEMGEN_CONFIG_PATH" with
    | none | some "" => []
    | some path => [path]
  let directories :=
    (e.get? "XDG_CONFIG_HOME").toList ++ sharedDirectories e ++
    (e.get? "APPDATA").toList ++ (e.get? "LOCALAPPDATA").toList ++
    ((e.get? "HOME").map fun home => pathIn home ".config").toList
  explicit ++ directories.flatMap inDirectory ++
    ((e.get? "HOME").map fun home => pathIn home ".memgen.toml").toList ++
    [pathIn here.path ".memgen.toml"]

/-- The layers of the first file that can be read, or the errors of all that cannot. -/
def firstOf (t : FileTree) (here : Location) :
    List String → List LoadError → List Layer × List LoadError
  | [], errors => ([], errors)
  | path :: paths, errors => match layers? t here path with
    | none => firstOf t here paths errors
    | some (.ok ls) => (ls, [])
    | some (.error e) => firstOf t here paths (errors ++ [e])

end SettingsFile

end Overloads
