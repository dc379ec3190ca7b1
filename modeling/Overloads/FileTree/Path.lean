import Overloads.Text.Pieces

/-!
# Paths

A path is cut at its slashes. Empty pieces and single dots say nothing; of the
others the last one names a file, unless it is `..`. `Path.split?` separates
that name from the path of the directory it is in.
-/

namespace Overloads.Path

def pieces (path : String) : List String := Text.cut '/' path

def join (pieces : List String) : String := "/".intercalate pieces

/-- A piece that leads nowhere. -/
def idle (piece : String) : Bool := piece = "" || piece = "."

def names (path : String) : List String := (pieces path).filter fun p => !idle p

def isAbsolute (path : String) : Bool := path.toList.head? = some '/'

/-- The path of the directory a file is in, from the pieces before the file's name, the last
first. Idle pieces at its end are left out. -/
def parent (absolute : Bool) (before : List String) : String :=
  match before.dropWhile idle with
  | [] => if absolute then "/" else "."
  | ps => join ps.reverse

/-- The directory and the name of the file that a path names, if it names one. -/
def split? (path : String) : Option (String × String) :=
  match (pieces path).reverse.dropWhile idle with
  | [] => none
  | name :: before => if name = ".." then none else some (parent (isAbsolute path) before, name)

/-- The beginnings of a path that end in a piece which leads somewhere, from the pieces of the
path, the last first. -/
def beginnings : List String → List String
  | [] => []
  | p :: ps => if idle p then beginnings ps else join (p :: ps).reverse :: beginnings ps

def ancestors (path : String) : List String := beginnings (pieces path).reverse

end Overloads.Path
