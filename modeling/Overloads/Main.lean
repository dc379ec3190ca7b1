import Overloads.Run

/-!
# The program

Looks at the places in the file system that a run may come to, runs on what
was seen there, and puts into effect what the run has changed.
-/

namespace Overloads.Program

/-- The error number with which the system refuses to read a directory as a file. -/
def isDirectory : UInt32 := 21

/-- What stands at a path, links followed. -/
def look (path : String) : IO (Option Entry) := do
  match ← (IO.FS.readBinFile path).toBaseIO with
  | .ok content => return some (.file content)
  | .error (.inappropriateType _ code _) =>
    return if code = isDirectory then some .directory else none
  | .error _ => return none

/-- A tree with an entry and the directories above it. -/
def stand (t : FileTree) (l : Location) (e : Entry) : FileTree :=
  ((List.range l.length).foldl (fun t n => t.put (l.take n) .directory) t).put l e

/-- The target of a link in a directory: a relative path where that leads there. -/
def linkTarget (directory l : Location) : String :=
  if directory.isPrefixOf l then Path.join (l.drop directory.length) else l.path

/-- Enters what stands at the end of a path and on the way to it. -/
def observe (t : FileTree) (path : String) : IO FileTree := do
  let names := Path.names path
  let mut t := t
  let mut directory : Location := []
  for n in List.range names.length do
    let name := names.getD n ""
    match t.get? (directory ++ [name]) with
    | some (.sink _) => return t
    | _ => pure ()
    let some e ← look (Location.path (names.take (n + 1))) | return t
    let real ← IO.FS.realPath (Location.path (names.take (n + 1)))
    let l := Path.names real.toString
    t := stand t l e
    if name ≠ ".." ∧ l ≠ directory ++ [name] then
      t := t.put (directory ++ [name]) (.link (linkTarget directory l))
    directory := l
  return t

def extendedPaths (t : FileTree) : List String :=
  t.entries.filterMap fun (l, e) => match e with
    | .file content => match SettingsFile.decode (l.getLastD "") content with
      | .ok fs => match SettingsFile.extended? fs with
        | .ok (some path) => some (SettingsFile.pathIn (Location.path l.dropLast) path)
        | _ => none
      | .error _ => none
    | _ => none

partial def observeSettings (t : FileTree) (seen paths : List String) : IO FileTree := do
  let t ← paths.foldlM observe t
  let seen := seen ++ paths
  let more := (extendedPaths t).filter fun path => !seen.contains path
  if more.isEmpty then return t else observeSettings t seen more

def readEnvironment : IO Environment := do
  let bytes ← IO.FS.readBinFile "/proc/self/environ"
  let text := (Text.ofBytes? bytes).getD ""
  return (Text.cut '\x00' text).filterMap fun entry => match Text.cut '=' entry with
    | name :: value :: rest => some (name, "=".intercalate (value :: rest))
    | _ => none

def surroundings (words : List ByteArray) : IO Surroundings := do
  let here : Location := Path.names (← IO.currentDir).toString
  let environment ← readEnvironment
  let devices := stand (stand .empty ["dev", "null"] (.sink false)) ["dev", "full"] (.sink true)
  let absolute (path : String) := SettingsFile.pathIn here.path path
  let t ← observe devices here.path
  let t ← observeSettings t [] ((SettingsFile.places environment here).map absolute)
  let out := match CommandLine.read words with
    | .ok c => match Settings.load t here environment c with
      | .ok s => s.out
      | .error _ => none
    | .error _ => none
  let t ← match out with
    | some path => observe t (absolute path)
    | none => pure t
  -- nobody is at hand who reads patterns
  return { tree := t, here := here, environment := environment, patterns := anyPattern }

/-- Makes the directories and writes the files that a run has added or changed. Links that lead
nowhere are not seen, so a new file is only made where there is nothing, not even a link. -/
def apply (before after : FileTree) : IO Unit := do
  for (l, e) in after.entries do
    if before.get? l ≠ some e then
      match e with
      | .directory => IO.FS.createDirAll l.path
      | .file content =>
        if (before.get? l).isSome then IO.FS.writeBinFile l.path content
        else
          let file ← IO.FS.Handle.mk l.path .writeNew
          file.write content
      | _ => pure ()

/-- Prints a text; what comes out tells how that went. -/
def print (text : String) : IO Printer := do
  let out ← IO.getStdout
  match ← (do out.putStr text; out.flush : IO Unit).toBaseIO with
  | .ok () => return .accepting
  | .error (.resourceExhausted _ _ _) => return .full
  | .error _ => return .unread

end Overloads.Program

open Overloads in
def main (args : List String) : IO UInt32 := do
  let words := args.map Text.bytes
  let s ← Program.surroundings words
  let expected := run s none words
  let printer ← Program.print expected.printed
  let o := if printer = .accepting then expected else run { s with printer := printer } none words
  match ← (Program.apply s.tree o.tree).toBaseIO with
  | .ok () => pure ()
  | .error e =>
    IO.eprintln ("Error: " ++ toString e)
    return 1
  for e in o.events do
    IO.eprintln e.line
  match o.result with
  | .ok () => return 0
  | .error (.severed filter) =>
    IO.eprintln (Failure.severed filter).message
    return 101
  | .error f =>
    IO.eprintln ("Error: " ++ f.message)
    return 1
