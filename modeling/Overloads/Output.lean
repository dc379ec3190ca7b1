import Overloads.Fault
import Overloads.FileTree.Walk
import Overloads.Text.Bytes

/-!
# The output file

The text is written to a file, or compared with what the file holds. The
directory of the file is found like any other; the file itself is looked for
beneath that directory only, whatever links stand there.
-/

namespace Overloads.Output

def split (path : String) : Except Fault (String × String) :=
  match Path.split? path with
  | some p => .ok p
  | none => .error (.invalidOutputPath path)

/-- The location of a directory, which is made if nothing is there. -/
def ensureDirectory (t : FileTree) (here : Location) (path : String) :
    Except Fault Location × FileTree :=
  match t.openDirectory here path with
  | .ok l => (.ok l, t)
  | .error e =>
    if e = .missing then
      match t.makeDirectories here path with
      | (.error e, t') => (.error (.io path e), t')
      | (.ok (), t') => match t'.openDirectory here path with
        | .ok l => (.ok l, t')
        | .error e => (.error (.io path e), t')
    else (.error (.io path e), t)

def writeBeneath (t : FileTree) (directory : Location) (name text : String) :
    Except SystemError FileTree :=
  match t.resolveBeneath directory .make name with
  | .error e => .error e
  | .ok (.free l) => .ok (t.put l (.file (Text.bytes text)))
  | .ok (.entry l (.file _)) => .ok (t.put l (.file (Text.bytes text)))
  | .ok (.entry _ (.sink full)) => if full ∧ text ≠ "" then .error .full else .ok t
  | .ok (.entry _ .directory) => .error .isDirectory
  | .ok (.entry _ (.link _)) => .error .tooManyLinks

/-- Writes a text to the file at a path, making missing directories. The path is the answer. -/
def write (t : FileTree) (here : Location) (path text : String) :
    Except Fault String × FileTree :=
  match split path with
  | .error e => (.error e, t)
  | .ok (parent, name) => match ensureDirectory t here parent with
    | (.error e, t') => (.error e, t')
    | (.ok directory, t') => match writeBeneath t' directory name text with
      | .error e => (.error (.io path e), t')
      | .ok t'' => (.ok path, t'')

def readBeneath (t : FileTree) (directory : Location) (name : String) :
    Except SystemError String :=
  match t.resolveBeneath directory .follow name with
  | .error e => .error e
  | .ok (.free _) => .error .missing
  | .ok (.entry _ (.file content)) => match Text.ofBytes? content with
    | some text => .ok text
    | none => .error .notText
  | .ok (.entry _ (.sink full)) => if full then .error .outOfMemory else .ok ""
  | .ok (.entry _ .directory) => .error .isDirectory
  | .ok (.entry _ (.link _)) => .error .tooManyLinks

def read (t : FileTree) (here : Location) (path : String) : Except Fault (Option String) :=
  match split path with
  | .error e => .error e
  | .ok (parent, name) => match t.openDirectory here parent with
    | .error e => if e = .missing then .ok none else .error (.io parent e)
    | .ok directory => match readBeneath t directory name with
      | .ok text => .ok (some text)
      | .error e => if e = .missing then .ok none else .error (.io path e)

inductive Comparison where
  | same
  | different
  | missing
deriving DecidableEq, Repr

def compare (t : FileTree) (here : Location) (path text : String) : Except Fault Comparison :=
  match read t here path with
  | .error e => .error e
  | .ok none => .ok .missing
  | .ok (some found) => .ok (if found = text then .same else .different)

/-- Makes sure that the file at a path holds a text. -/
def check (t : FileTree) (here : Location) (path text : String) : Except Fault Unit :=
  match compare t here path text with
  | .error e => .error e
  | .ok .same => .ok ()
  | .ok _ => .error (.outOfDate path)

end Overloads.Output
