import Overloads.FileTree.Basic
import Overloads.FileTree.Path
import Overloads.System.Error

/-!
# Walks through a tree

A path is walked step by step. Links met on the way are followed, up to a
number of them, and a walk may be held beneath a directory: it then fails
where a step or a link would lead out of that directory, even if it were to
come back. A walk that is to make a file does not look at a last name with a
slash behind it. `stroll` takes the steps between two links and is recursive
on them; `walk` is recursive on the number of links.
-/

namespace Overloads

inductive Step where
  | name (name : String)
  /-- To the directory above; the root is above itself. -/
  | up
  | here
  /-- The end of a path that has to lead to a directory. -/
  | slash
deriving DecidableEq, Repr

inductive Spot where
  | entry (location : Location) (entry : Entry)
  | free (location : Location)
deriving DecidableEq

/-- What a walk does at the last name of its path. -/
inductive Arrival where
  | follow
  | stop
  /-- It follows a link, to make a file or to overwrite one. -/
  | make
deriving DecidableEq, Repr

namespace Path

def step? (piece : String) : Option Step :=
  if piece = "" then none
  else if piece = "." then some .here
  else if piece = ".." then some .up
  else some (.name piece)

/-- The steps of a path; a slash at its end is one more step. -/
def steps (path : String) : List Step :=
  (pieces path).filterMap step? ++
    (if path.toList.getLast? = some '/' && (names path).length ≠ 0 then [.slash] else [])

end Path

namespace FileTree

/-- The longest name, in bytes. -/
def longestName : Nat := 255

/-- The longest path, in bytes. -/
def longestPath : Nat := 4095

def mostLinks : Nat := 40

/-- Nothing is left to do behind a last name, except to ask for a directory. -/
def atEnd (rest : List Step) : Bool := rest = [] || rest = [.slash]

section
variable (t : FileTree) (floor : Option Location) (arrival : Arrival)

/-- Takes steps up to a link that has to be followed; `jump` goes on behind it. -/
def stroll (jump : Location → String → List Step → Except SystemError Spot) :
    Location → List Step → Except SystemError Spot
  | cur, [] => .ok (.entry cur .directory)
  | cur, .here :: rest | cur, .slash :: rest => stroll jump cur rest
  | cur, .up :: rest =>
    if floor = some cur then .error .escape else stroll jump cur.dropLast rest
  | cur, .name n :: rest =>
    if arrival = .make ∧ rest = [.slash] then .error .isDirectory
    else if longestName < n.utf8ByteSize then .error .nameTooLong
    else match t.get? (cur ++ [n]) with
      | some .directory => stroll jump (cur ++ [n]) rest
      | some (.link target) =>
        if atEnd rest ∧ arrival = .stop then .ok (.entry (cur ++ [n]) (.link target))
        else jump cur target rest
      | some e => if rest = [] then .ok (.entry (cur ++ [n]) e) else .error .notDirectory
      | none => if atEnd rest then .ok (.free (cur ++ [n])) else .error .missing

def walk : Nat → Location → List Step → Except SystemError Spot
  | 0 => stroll t floor arrival fun _ _ _ => .error .tooManyLinks
  | links + 1 => stroll t floor arrival fun cur target rest =>
    if Path.isAbsolute target then
      match floor with
      | some _ => .error .escape
      | none => walk links [] (Path.steps target ++ rest)
    else walk links cur (Path.steps target ++ rest)

end

/-- Walks a path that starts at the root or here, however long it is. -/
def trace (t : FileTree) (here : Location) (arrival : Arrival) (path : String) :
    Except SystemError Spot :=
  if path.toList.contains '\x00' then .error .embeddedNul
  else if path = "" then .error .missing
  else walk t none arrival mostLinks (if Path.isAbsolute path then [] else here)
    (Path.steps path)

/-- Walks a path as one question to the system, which bounds its length. -/
def resolve (t : FileTree) (here : Location) (arrival : Arrival) (path : String) :
    Except SystemError Spot :=
  if longestPath < path.utf8ByteSize ∧ ¬ path.toList.contains '\x00' then .error .nameTooLong
  else t.trace here arrival path

def resolveBeneath (t : FileTree) (directory : Location) (arrival : Arrival) (name : String) :
    Except SystemError Spot :=
  if name.toList.contains '\x00' then .error .invalid
  else walk t (some directory) arrival mostLinks directory [.name name]

def openDirectory (t : FileTree) (here : Location) (path : String) :
    Except SystemError Location :=
  match t.resolve here .follow path with
  | .error e => .error e
  | .ok (.entry l .directory) => .ok l
  | .ok (.entry _ _) => .error .notDirectory
  | .ok (.free _) => .error .missing

def isDirectory (t : FileTree) (here : Location) (path : String) : Bool :=
  match t.openDirectory here path with
  | .ok _ => true
  | .error _ => false

/-- Makes the directory at a path, in a directory that is there already. -/
def makeDirectory (t : FileTree) (here : Location) (path : String) :
    Except SystemError FileTree :=
  match t.resolve here .stop path with
  | .error e => .error e
  | .ok (.entry _ _) => .error .occupied
  | .ok (.free l) => .ok (t.put l .directory)

/-- Tries to make one of some directories, each in the one behind it. What comes out are those
before the one that could be made or was there. -/
def climb (t : FileTree) (here : Location) :
    List String → List String → Except SystemError (List String) × FileTree
  | [], below => (.ok below, t)
  | path :: above, below => match t.makeDirectory here path with
    | .ok t' => (.ok below, t')
    | .error e =>
      if e = .missing then climb t here above (path :: below)
      else if e = .occupied ∧ t.isDirectory here path then (.ok below, t)
      else (.error e, t)

def descend (here : Location) : FileTree → List String → Except SystemError Unit × FileTree
  | t, [] => (.ok (), t)
  | t, path :: below => match t.makeDirectory here path with
    | .ok t' => descend here t' below
    | .error e =>
      if e = .occupied ∧ t.isDirectory here path then descend here t below else (.error e, t)

def makeDirectories (t : FileTree) (here : Location) (path : String) :
    Except SystemError Unit × FileTree :=
  match t.climb here (Path.ancestors path) [] with
  | (.error e, t') => (.error e, t')
  | (.ok below, t') => t'.descend here below

end FileTree

end Overloads
