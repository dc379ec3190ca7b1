import Overloads.Data.Toml.Quotation
import Overloads.Data.Toml.Scalar
import Overloads.Data.Toml.Table

/-!
# Syntax of a TOML document

A document is a sequence of lines: assignments of values to keys, headers of
tables, comments. Arrays go over several lines, inline tables do not. Values
are nested to a limited depth, and keys have a limited number of parts.
-/

namespace Overloads.Toml

/-- How deep values may be nested, and how many parts a key may have. -/
def depthLimit : Nat := 79

def comment : Scan Unit := do
  Scan.exactly "#"
  let _ ← Scan.run isText

def space : Scan Unit := do
  let _ ← Scan.many
    ((do let _ ← Scan.char isBlank) <|> newline <|> (do comment; newline))

def lineEnd : Scan Unit := do
  blanks
  comment <|> pure ()
  newline <|> Scan.atEnd

/-! ## Keys and values -/

def isKeyChar (c : Char) : Bool := c.isAlphanum || c = '_' || c = '-'

def simpleKey : Scan String :=
  basicString <|> literalString <|> (do
    let cs ← Scan.run isKeyChar
    if cs.isEmpty then failure else return String.ofList cs)

def key : Scan (List String) := do
  let part : Scan String := do
    blanks
    let k ← simpleKey
    blanks
    return k
  let ks ← Scan.separated part (Scan.exactly ".")
  if ks.length ≤ depthLimit then return ks else failure

def assignment (value : Scan Value) : Scan (List String × Value) := do
  let ks ← key
  Scan.exactly "="
  blanks
  let v ← value
  return (ks, v)

/-- An array, from behind its bracket. A comma may stand behind the last value. -/
def array (value : Scan Value) : Scan Value := do
  let item : Scan Value := do
    space
    let v ← value
    space
    return v
  let vs ← (do
      let vs ← Scan.separated item (Scan.exactly ",")
      Scan.exactly "," <|> pure ()
      return vs) <|> pure []
  space
  Scan.exactly "]"
  return .array vs

def inlineTable (value : Scan Value) : Scan Value := do
  let item : Scan (List String × Value) := do
    let a ← assignment value
    blanks
    return a
  let pairs ← Scan.separated item (Scan.exactly ",") <|> pure []
  blanks
  Scan.exactly "\x7d"
  let fields ← Scan.ofOption (pairs.foldlM (fun t (ks, v) => Table.assign ks v t) [])
  return .table (Table.values fields)

/-- A value, in which others are nested so deep at most. -/
def value : Nat → Scan Value
  | 0 => scalar
  | depth + 1 => do
    match ← Scan.peek (Scan.char fun _ => true) with
    | '[' => do Scan.exactly "["; array (value depth)
    | '\x7b' => do Scan.exactly "\x7b"; inlineTable (value depth)
    | _ => scalar
where
  scalar : Scan Value := (do let s ← quotation; return .string s) <|> bare

/-! ## Lines -/

inductive Line where
  | assignment (key : List String) (value : Value)
  | table (key : List String)
  | tables (key : List String)
  | blank

def line : Scan Line := do
  blanks
  (do let (ks, v) ← assignment (value depthLimit)
      lineEnd
      return .assignment ks v) <|>
  (do Scan.exactly "[["
      let ks ← key
      Scan.exactly "]]"
      lineEnd
      return .tables ks) <|>
  (do Scan.exactly "["
      let ks ← key
      Scan.exactly "]"
      lineEnd
      return .table ks) <|>
  (do lineEnd
      return .blank)

/-- The lines of a document, behind a mark of its byte order. -/
def lines : Scan (List Line) := do
  Scan.exactly "\ufeff" <|> pure ()
  Scan.many line

end Overloads.Toml
