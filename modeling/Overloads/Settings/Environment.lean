import Overloads.Settings.Layer
import Overloads.Text.Bytes
import Overloads.Text.CharClass
import Overloads.Text.Escape
import Overloads.Text.Pieces

/-!
# Settings from the environment

Variables whose names begin with `MEMGEN_` set fields. What follows names the
field, with two underscores between a name and one nested in it. The value is
a list if it holds commas, a truth value in any case of letters, or whatever
value a small notation for numbers, strings, lists and maps gives; a text that
does not follow the notation stands for itself.
-/

namespace Overloads

abbrev Environment := Fields String

namespace Environment

/-! ## The notation for values -/

def isSpace (c : Char) : Bool :=
  c = ' ' || c = '\t' || c = '\n' || c = '\x0c' || c = '\x0d'

def isBare (c : Char) : Bool :=
  c ≠ ',' && c ≠ '\x7b' && c ≠ '\x7d' && c ≠ '[' && c ≠ ']'

def isKeyChar (c : Char) : Bool := c.isAlphanum || c = '_' || c = '-'

def spaces : Scan Unit := do let _ ← Scan.run isSpace

def surrounded {α : Type} (p : Scan α) : Scan α := do
  spaces
  let x ← p
  spaces
  return x

def plainChar : Scan Char :=
  Scan.char fun c => c ≠ '"' && c ≠ '\\' && (c = '\t' || (0x20 ≤ c.toNat && c.toNat ≠ 0x7f))

def stringChar : Scan Char := (do Scan.exactly "\\"; Text.escape) <|> plainChar

/-- A text in quotation marks. Of what stands before its first escape, as many bytes are kept as
there are characters. -/
def string : Scan String := do
  Scan.exactly "\""
  let front ← Scan.many plainChar
  let rest ← Scan.many stringChar
  Scan.exactly "\""
  return String.ofList ((if rest.isEmpty then front else Text.fitting front.length front) ++ rest)

/-- A number that fits in 64 bits, with a sign or without. -/
def integer? (cs : List Char) : Option Int := do
  let n ← Overloads.integer? cs
  if -0x8000000000000000 ≤ n && n < 0x10000000000000000 then some n else none

/-- The value of a bare text: a float if there is a point in it, an integer, or itself. An
infinite float is null. -/
def bareValue (cs : List Char) : Value :=
  let cs := Text.trim cs
  match if cs.contains '.' then Decimal.read? cs else none with
  | some d => match Binary64.ofDecimal? d with
    | some x => .float x
    | none => .null
  | none => match integer? cs with
    | some n => .integer n
    | none => .string (String.ofList cs)

/-- Items with a comma behind each, which may be missing behind the last. -/
def collection {α : Type} (first last : String) (item : Scan α) : Scan (List α) := do
  Scan.exactly first
  let xs ← Scan.many do
    let x ← item
    Scan.exactly "," <|> Scan.peek (Scan.exactly last)
    return x
  Scan.exactly last
  return xs

/-- A value of the notation, in which others are nested so deep at most; each of these takes a
character more. -/
def value : Nat → Scan Value
  | 0 => failure
  | depth + 1 => surrounded <|
    (do Scan.exactly "true"
        return .bool true) <|>
    (do Scan.exactly "false"
        return .bool false) <|>
    (do match ← Scan.peek (some <$> Scan.char (fun _ => true) <|> pure none) with
        | some '\x7b' =>
          let pairs ← collection "\x7b" "\x7d" do
            let k ← surrounded (string <|> key)
            Scan.exactly "="
            return (k, ← surrounded (value depth))
          return .object (pairs.foldl (fun fs (k, v) => Fields.put fs k v) [])
        | some '[' => return .array (← collection "[" "]" (value depth))
        | some '"' => return .string (← string)
        | some '\'' =>
          Scan.exactly "'"
          let c ← Scan.char fun _ => true
          Scan.exactly "'"
          return .string c.toString
        | _ => return bareValue (← Scan.run isBare))
where
  key : Scan String := do
    let cs ← Scan.run isKeyChar
    if cs.isEmpty then failure else return String.ofList cs

def readValue (text : String) : Value :=
  let cs := Text.trim text.toList
  if cs.contains ',' && !(cs.head?.any fun c => c = '[' || c = '\x7b' || c = '"' || c = '\'') then
    .array ((Text.pieces ',' cs).map fun item => .string (String.ofList (Text.trim item)))
  else match Text.small (String.ofList cs) with
    | "true" => .bool true
    | "false" => .bool false
    | _ => (Scan.whole? (value (cs.length + 1)) cs).getD (.string (String.ofList cs))

/-! ## Fields -/

/-- The names a variable sets, the outer ones first; two underscores or a point part them. -/
def nestedNames : List Char → List (List Char)
  | [] => [[]]
  | '_' :: '_' :: cs => [] :: nestedNames cs
  | '.' :: cs => [] :: nestedNames cs
  | c :: cs => match nestedNames cs with
    | [] => [[c]]
    | p :: ps => (c :: p) :: ps

/-- The names of the fields a variable sets, if it is one of the program's. Blanks around its name
do not count. -/
def fieldNames? (name : String) : Option (List String) :=
  let cs := Text.trim (Text.small name).toList
  if "memgen_".toList.isPrefixOf cs then
    let ps := nestedNames (Text.trim (cs.drop "memgen_".length))
    if ps.any List.isEmpty then none else some (ps.map String.ofList)
  else none

def nested (names : List String) (v : Value) : Value :=
  names.foldr (fun name v => .object [(name, v)]) v

/-- The layer of all variables, each laid over the ones before. -/
def layer (e : Environment) : Layer where
  source := .environment
  value := e.foldl (fun v (name, text) => match fieldNames? name with
    | some names => v.overlay (nested names (readValue text))
    | none => v) (.object [])

end Environment

end Overloads
