import Overloads.Number.Decimal

/-!
# Binary numbers of 64 bits

The magnitude of a finite double is a whole number of units of `2 ^ -1074`, so
all that is done with doubles here is exact arithmetic on natural numbers. A
decimal becomes the nearest double, and a double is written with the fewest
digits that lead back to it.
-/

namespace Overloads

/-- A finite double: its sign and how many units of `2 ^ -1074` it holds. -/
structure Binary64 where
  negative : Bool
  units : Nat
deriving DecidableEq, Repr

namespace Binary64

/-- Doubles around `units` lie `2 ^ gap units` units apart. -/
def gap (units : Nat) : Nat := units.log2 - 52

/-- The nearest whole number to a quotient; of two nearest the even one. -/
def nearest (num den : Nat) : Nat :=
  let q := num / den
  let r := num % den
  if 2 * r < den then q else if den < 2 * r then q + 1 else q + q % 2

def roundUnits (num den : Nat) : Nat :=
  let g := gap (num / den)
  nearest num (den <<< g) <<< g

def beyond : Nat := 1 <<< 2098

/-- The nearest double; none when that is not finite. Magnitudes far out are not computed. -/
def ofDecimal? (d : Decimal) : Option Binary64 :=
  if d.digits = 0 ∨ d.magnitude < -330 then some ⟨d.negative, 0⟩
  else if 330 < d.magnitude then none
  else
    let units := match d.exponent with
      | .ofNat n => roundUnits ((d.digits * powerOfTen n) <<< 1074) 1
      | .negSucc n => roundUnits (d.digits <<< 1074) (powerOfTen (n + 1))
    if units < beyond then some ⟨d.negative, units⟩ else none

/-! ## The shortest decimal -/

/-- The quarter units between which every number has these units as nearest double. -/
def interval (units : Nat) : Nat × Nat :=
  let half := 2 <<< gap units
  (if units = 1 <<< units.log2 ∧ 0 < gap units then 4 * units - half / 2 else 4 * units - half,
    4 * units + half)

/-- The multiple of `10 ^ exponent` nearest to the units, if it leads back to them; of two
nearest the even one. -/
def onGrid? (units : Nat) (exponent : Int) : Option Nat :=
  let (up, down) := match exponent with
    | .ofNat n => (powerOfTen n <<< 1076, 1)
    | .negSucc n => (1 <<< 1076, powerOfTen (n + 1))
  let (low, high) := interval units
  let even := (units >>> gap units) % 2 = 0
  let inside (d : Nat) : Bool :=
    if even then low * down ≤ d * up ∧ d * up ≤ high * down
    else low * down < d * up ∧ d * up < high * down
  let value := 4 * units * down
  let d := value / up
  let upper := d + 1
  match inside d, inside upper with
  | true, true => some (nearest value up)
  | true, false => some d
  | false, true => some upper
  | false, false => none

/-- The fewest digits that lead back to the double, from the coarsest grid on. -/
def shortest (b : Binary64) : Decimal :=
  if b.units = 0 then ⟨b.negative, 0, 0⟩
  else ((List.range 660).findSome? fun (k : Nat) =>
    let exponent : Int := 309 - k
    (onGrid? b.units exponent).map fun d => Decimal.mk b.negative d exponent).getD
      ⟨b.negative, 0, 0⟩

def text (b : Binary64) : String := b.shortest.text

end Binary64

end Overloads
