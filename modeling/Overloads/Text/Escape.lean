import Overloads.Text.Scan

/-!
# Escapes in quoted texts

Behind a backslash stands a letter for a control character, a quotation mark,
a backslash, or the code of a character in four or eight hexadecimal digits.
-/

namespace Overloads.Text

def hexDigit? (c : Char) : Option Nat :=
  if c.isDigit then some (c.toNat - '0'.toNat)
  else if 'a' ≤ c ∧ c ≤ 'f' then some (c.toNat - 'a'.toNat + 10)
  else if 'A' ≤ c ∧ c ≤ 'F' then some (c.toNat - 'A'.toNat + 10)
  else none

def number? (base : Nat) (cs : List Char) : Option Nat :=
  cs.foldlM (fun n c => match hexDigit? c with
    | some d => if d < base then some (base * n + d) else none
    | none => none) 0

def charOfCode? (n : Nat) : Option Char :=
  if n.isValidChar then some (Char.ofNat n) else none

def codeEscape (digits : Nat) : Scan Char := fun cs =>
  if cs.length < digits then none
  else do
    let n ← number? 16 (cs.take digits)
    let c ← charOfCode? n
    return (c, cs.drop digits)

def escape : Scan Char := do
  match ← Scan.char fun _ => true with
  | 'b' => return '\x08'
  | 't' => return '\t'
  | 'n' => return '\n'
  | 'f' => return '\x0c'
  | 'r' => return '\r'
  | '"' => return '"'
  | '\\' => return '\\'
  | 'u' => codeEscape 4
  | 'U' => codeEscape 8
  | _ => failure

end Overloads.Text
