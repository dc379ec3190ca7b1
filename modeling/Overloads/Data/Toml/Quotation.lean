import Overloads.Text.Escape

/-!
# Strings of a TOML document

A string stands between quotation marks or between apostrophes; the former
admit escapes. With three marks on each side it may go over several lines. A
line feed right behind the opening marks does not count, and a line ends in a
line feed however it was written.
-/

namespace Overloads.Toml

def isBlank (c : Char) : Bool := c = ' ' || c = '\t'

/-- Characters other than controls; the tabulator is one. -/
def isText (c : Char) : Bool := c = '\t' || (0x20 ≤ c.toNat && c.toNat ≠ 0x7f)

def newline : Scan Unit := Scan.exactly "\n" <|> Scan.exactly "\x0d\n"

def blanks : Scan Unit := do let _ ← Scan.run isBlank

def literalChar (excluded : List Char) : Scan (List Char) := do
  let c ← Scan.char fun c => isText c && !excluded.contains c
  return [c]

def escaped : Scan (List Char) := do
  Scan.exactly "\\"
  let c ← Text.escape
  return [c]

/-- A backslash at the end of a line makes nothing of the blank space behind it. -/
def continuation : Scan (List Char) := do
  Scan.exactly "\\"
  blanks
  newline
  let _ ← Scan.many ((do let _ ← Scan.char isBlank) <|> newline)
  return []

def lineFeed : Scan (List Char) := do
  newline
  return ['\n']

/-- One or two marks within a string of several lines. -/
def fewMarks (mark : Char) : Scan (List Char) := do
  let marks ← Scan.run (· = mark)
  if marks.isEmpty || 2 < marks.length then failure else return marks

/-- Three marks; up to two more before them still belong to the string. -/
def closingMarks (mark : Char) : Scan (List Char) := fun cs =>
  let n := (cs.takeWhile (· = mark)).length
  if n < 3 then none else some (List.replicate (min n 5 - 3) mark, cs.drop (min n 5))

def lineString (mark : Char) (item : Scan (List Char)) : Scan String := do
  let parts ← Scan.many item
  let _ ← Scan.char (· = mark)
  return String.ofList parts.flatten

def blockString (mark : Char) (item : Scan (List Char)) : Scan String := do
  newline <|> pure ()
  let parts ← Scan.many (fewMarks mark <|> lineFeed <|> item)
  let last ← closingMarks mark
  return String.ofList (parts.flatten ++ last)

def basicChar : Scan (List Char) := escaped <|> literalChar ['"', '\\']

def basicString : Scan String := do
  Scan.exactly "\""
  lineString '"' basicChar

def literalString : Scan String := do
  Scan.exactly "'"
  lineString '\'' (literalChar ['\''])

def quotation : Scan String :=
  (do Scan.exactly "\"\"\""
      blockString '"' (continuation <|> basicChar)) <|>
  (do Scan.exactly "'''"
      blockString '\'' (literalChar ['\''])) <|>
  basicString <|> literalString

end Overloads.Toml
