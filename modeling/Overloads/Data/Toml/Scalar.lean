import Overloads.Data.Toml.Value
import Overloads.Text.Escape
import Overloads.Text.Pieces

/-!
# Bare values of a TOML document

Numbers, truth values, dates and times are written without quotation marks.
Digits may be grouped by underscores, each of which stands between two digits.
-/

namespace Overloads.Toml

def ungroup? (isDigit : Char → Bool) (cs : List Char) : Option (List Char) :=
  let groups := Text.pieces '_' cs
  if groups.all fun g => !g.isEmpty && g.all isDigit then some groups.flatten else none

/-- Decimal digits that do not start with a useless zero. -/
def wholeDigits? (cs : List Char) : Option (List Char) := do
  let ds ← ungroup? Char.isDigit cs
  if ds.head? = some '0' && ds.length ≠ 1 then none else some ds

def inRange (n : Int) : Bool := -0x8000000000000000 ≤ n && n < 0x8000000000000000

/-- An integer in decimal, or without a sign in another base. -/
def integer? (cs : List Char) : Option Int := do
  let n ← match cs with
    | '0' :: 'x' :: ds => based 16 ds
    | '0' :: 'o' :: ds => based 8 ds
    | '0' :: 'b' :: ds => based 2 ds
    | cs =>
      let (negative, ds) := signed cs
      (wholeDigits? ds).map fun ds => if negative then -(numeral ds : Int) else numeral ds
  if inRange n then some n else none
where
  based (base : Nat) (cs : List Char) : Option Int := do
    let ds ← ungroup? (fun c => (Text.hexDigit? c).any (· < base)) cs
    return ((← Text.number? base ds : Nat) : Int)

/-- Splits a text at the first character of a class; the character is dropped. -/
def splitAt (k : Char → Bool) (cs : List Char) : List Char × Option (List Char) :=
  (cs.takeWhile (!k ·), match cs.dropWhile (!k ·) with | [] => none | _ :: rest => some rest)

def exponent? : Option (List Char) → Option (List Char)
  | none => some []
  | some cs =>
    let (negative, ds) := signed cs
    (ungroup? Char.isDigit ds).map fun ds => 'e' :: (if negative then ['-'] else []) ++ ds

def float? (cs : List Char) : Option Binary64 := do
  let (mantissa, exponent) := splitAt (fun c => c = 'e' || c = 'E') cs
  let (negative, mantissa) := signed mantissa
  let (whole, fraction) := splitAt (· = '.') mantissa
  if fraction.isNone && exponent.isNone then none
  let whole ← wholeDigits? whole
  let fraction ← match fraction with
    | none => some []
    | some ds => (ungroup? Char.isDigit ds).map ('.' :: ·)
  let exponent ← exponent? exponent
  let d ← Decimal.read? ((if negative then ['-'] else []) ++ whole ++ fraction ++ exponent)
  Binary64.ofDecimal? d

/-! ## Dates and times -/

def part (digits low high : Nat) : Scan Nat := fun cs => do
  let ds := cs.take digits
  if ds.length = digits && ds.all Char.isDigit && low ≤ numeral ds && numeral ds ≤ high then
    some (numeral ds, cs.drop digits)
  else none

def daysIn (year month : Nat) : Nat :=
  if month = 2 then
    if year % 4 = 0 && (year % 100 ≠ 0 || year % 400 = 0) then 29 else 28
  else if month = 4 || month = 6 || month = 9 || month = 11 then 30 else 31

def date : Scan Unit := do
  let year ← part 4 0 9999
  Scan.exactly "-"
  let month ← part 2 1 12
  Scan.exactly "-"
  let _ ← part 2 1 (daysIn year month)

/-- A time of day; the second may be a leap second, with a fraction. -/
def time : Scan Unit := do
  let _ ← part 2 0 23
  Scan.exactly ":"
  let _ ← part 2 0 59
  Scan.exactly ":"
  let _ ← part 2 0 60
  (do Scan.exactly "."
      let ds ← Scan.run Char.isDigit
      if ds.isEmpty then failure) <|> pure ()

def offset : Scan Unit := do
  let c ← Scan.char fun c => c = 'Z' || c = 'z' || c = '+' || c = '-'
  if c = '+' || c = '-' then
    let _ ← part 2 0 23
    Scan.exactly ":"
    let _ ← part 2 0 59

/-- A time of day, and how far it is from universal time. -/
def timeWithOffset : Scan Unit := do
  time
  offset <|> pure ()

def moment : Scan Unit :=
  (do date
      (do let _ ← Scan.char fun c => c = 'T' || c = 't' || c = ' '
          timeWithOffset) <|> pure ()) <|>
  time

/-! ## All bare values -/

def isBare (c : Char) : Bool :=
  c.isAlphanum || c = '+' || c = '-' || c = '.' || c = '_' || c = ':'

def bare? (cs : List Char) : Option Value :=
  match String.ofList cs with
  | "true" => some (.bool true)
  | "false" => some (.bool false)
  | s =>
    if String.ofList (signed cs).2 = "inf" || String.ofList (signed cs).2 = "nan" then
      some .notFinite
    else if (Scan.whole? moment cs).isSome then some (.moment s)
    else match integer? cs with
      | some n => some (.integer n)
      | none => (float? cs).map .float

/-- Takes a bare value. A blank may stand between a date and a time. -/
def bare : Scan Value := do
  (do let cs ← Scan.run isBare
      Scan.exactly " "
      let ds ← Scan.run isBare
      if (Scan.whole? date cs).isSome && (Scan.whole? timeWithOffset ds).isSome then
        return .moment (String.ofList (cs ++ ' ' :: ds))
      else failure) <|>
  (do let cs ← Scan.run isBare
      Scan.ofOption (bare? cs))

example : integer? "-1_000".toList = some (-1000) ∧ integer? "0x1F".toList = some 31 ∧
    integer? "01".toList = none ∧ integer? "1__0".toList = none := by decide +kernel

end Overloads.Toml
