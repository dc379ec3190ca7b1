/-!
# Classes of characters

A class of characters is given by its edges: the code points, in increasing
order, at which membership changes. A character belongs to the class when an
odd number of edges is not behind it.
-/

namespace Overloads.Text

/-- A set of characters, by the code points where membership changes. -/
structure CharClass where
  edges : List Nat

def CharClass.contains (k : CharClass) (c : Char) : Bool :=
  (k.edges.takeWhile (· ≤ c.toNat)).length % 2 == 1

/-- The characters with the property White_Space. -/
def blank : CharClass where
  edges :=
    [0x9, 0xe, 0x20, 0x21, 0x85, 0x86, 0xa0, 0xa1, 0x1680, 0x1681, 0x2000, 0x200b, 0x2028, 0x202a,
      0x202f, 0x2030, 0x205f, 0x2060, 0x3000, 0x3001]

def trimStart (cs : List Char) : List Char :=
  cs.dropWhile blank.contains

def trimEnd (cs : List Char) : List Char :=
  (trimStart cs.reverse).reverse

def trim (cs : List Char) : List Char :=
  trimEnd (trimStart cs)

/-- A letter of the basic alphabet in small form; other characters as they are. -/
def small (s : String) : String :=
  s.map Char.toLower

end Overloads.Text
