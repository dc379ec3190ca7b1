import Overloads.Argument.Cursor
import Overloads.Family.Forwarding

/-!
# The generated header

A header holds one guarded construction for each arity below one limit and,
for each arity below another, one forwarding overload for each constness. Its
text is a banner, a blank line, every construction followed by a blank line,
and the overloads, a line each.
-/

namespace Overloads

/-- The arities below which each family is generated. -/
structure Limits where
  guarded : Nat
  forwarding : Nat
  forwarding_le : forwarding ≤ widest + 1 := by decide

namespace Limits

/-- Callers rely on overloads up to these arities. -/
def standard : Limits where
  guarded := 20
  forwarding := 9

def constructions (l : Limits) : List Guarded :=
  (List.range l.guarded).map Guarded.mk

/-- The forwarding overloads, by arity and then by the word of their constness. An arity that
has no constnesses would be left out. -/
def overloads (l : Limits) : List Forwarding :=
  (((List.range l.forwarding).filterMap fun arity => (Cursor.start? arity).toOption).flatMap
    Cursor.toList).map Forwarding.mk

end Limits

structure Counts where
  guarded : Nat := 0
  forwarding : Nat := 0
deriving DecidableEq, Repr

def Counts.total (c : Counts) : Nat := c.guarded + c.forwarding

structure Header where
  text : String
  counts : Counts
deriving DecidableEq

namespace Header

def banner : String := "//This file is auto generated, do not edit"

def bare : Header where
  text := banner ++ "\n\n"
  counts := {}

def addGuarded (pragmas : Bool) (h : Header) (g : Guarded) : Header where
  text := h.text ++ g.render pragmas ++ "\n"
  counts := { h.counts with guarded := h.counts.guarded + 1 }

def addForwarding (h : Header) (f : Forwarding) : Header where
  text := h.text ++ f.render ++ "\n"
  counts := { h.counts with forwarding := h.counts.forwarding + 1 }

def generate (l : Limits) (pragmas : Bool) : Header :=
  l.overloads.foldl addForwarding (l.constructions.foldl (addGuarded pragmas) bare)

end Header

end Overloads
