/-!
# Decimal numbers

A decimal is a signed whole number of powers of ten. `Decimal.read?` takes the
usual spelling with a point, an exponent or neither. `text` writes numbers of
an ordinary size out, and very small and very large ones with an exponent.
-/

namespace Overloads

/-- The number `digits * 10 ^ exponent`, negated or not. -/
structure Decimal where
  negative : Bool
  digits : Nat
  exponent : Int
deriving DecidableEq, Repr

def powerOfTen (n : Nat) : Nat := Nat.pow 10 n

def numeral (cs : List Char) : Nat :=
  cs.foldl (fun n c => 10 * n + (c.toNat - '0'.toNat)) 0

/-- Splits a sign off; the sign tells whether to negate. -/
def signed : List Char → Bool × List Char
  | '-' :: cs => (true, cs)
  | '+' :: cs => (false, cs)
  | cs => (false, cs)

def digits? (cs : List Char) : Option Nat :=
  if cs.all Char.isDigit && !cs.isEmpty then some (numeral cs) else none

def integer? (cs : List Char) : Option Int :=
  let (negative, cs) := signed cs
  (digits? cs).map fun n => if negative then -(n : Int) else n

namespace Decimal

def readExponent? : List Char → Option Int
  | [] => some 0
  | c :: cs => if c = 'e' ∨ c = 'E' then integer? cs else none

/-- Reads digits around at most one point, with a digit on one side at least. -/
def read? (cs : List Char) : Option Decimal :=
  let (negative, cs) := signed cs
  let whole := cs.takeWhile Char.isDigit
  let rest := cs.dropWhile Char.isDigit
  let (part, rest) := match rest with
    | '.' :: rest => (rest.takeWhile Char.isDigit, rest.dropWhile Char.isDigit)
    | rest => ([], rest)
  if whole.isEmpty && part.isEmpty then none
  else (readExponent? rest).map fun exponent =>
    ⟨negative, numeral (whole ++ part), exponent - part.length⟩

/-- How many digits stand before the point; none or fewer for small numbers. -/
def magnitude (d : Decimal) : Int :=
  (Nat.toDigits 10 d.digits).length + d.exponent

def sign (d : Decimal) : String := if d.negative then "-" else ""

/-- All digits of a decimal, and at least one behind the point. -/
def positional (d : Decimal) : String :=
  let digits := Nat.toDigits 10 d.digits
  let (whole, part) := match d.exponent with
    | .ofNat n => (digits ++ List.replicate (if d.digits = 0 then 0 else n) '0', ['0'])
    | .negSucc n =>
      let padded := List.replicate (n + 2 - digits.length) '0' ++ digits
      (padded.take (padded.length - (n + 1)), padded.drop (padded.length - (n + 1)))
  d.sign ++ String.ofList whole ++ "." ++ String.ofList part

def scientific (d : Decimal) : String :=
  let digits := Nat.toDigits 10 d.digits
  let power := d.magnitude - 1
  d.sign ++ String.ofList (digits.take 1) ++
    (if digits.length = 1 then "" else "." ++ String.ofList (digits.drop 1)) ++
    "e" ++ (if power < 0 then "" else "+") ++ toString power

/-- Is the decimal written out? Its first digit then stands for a power of ten from the fifth
behind the point to the sixteenth before it. -/
def isOrdinary (d : Decimal) : Bool := -5 < d.magnitude && d.magnitude ≤ 16

def text (d : Decimal) : String := if d.isOrdinary then d.positional else d.scientific

example : text ⟨true, 5, -3⟩ = "-0.005" := by decide +kernel
example : text ⟨false, 12, 2⟩ = "1200.0" := by decide +kernel
example : text ⟨false, 1, 16⟩ = "1e+16" ∧ text ⟨false, 25, -7⟩ = "2.5e-6" := by decide +kernel
example : read? "-1.50e3".toList = some ⟨true, 150, 1⟩ := by decide +kernel

end Decimal

end Overloads
