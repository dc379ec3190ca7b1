import Overloads.Log.Event
import Overloads.Number.Decimal
import Overloads.Text.Alphanumeric
import Overloads.Text.Bytes
import Overloads.Text.Pieces

/-!
# Filters of events

A filter is written as directives separated by commas. A directive names a
target, a span with fields, and a threshold, each of which may be missing. A
directive without span or fields applies to events as it stands; one with
fields but no span applies to events that have values of these names; the
others apply to spans. Of the directives that apply to an event, the most
specific one decides.

A field may ask for a value: a literal, or a pattern that the value is to
match. Patterns are a language of their own, of which nothing is known here but
which of its texts are refused, and for what reason (`PatternCheck`).
-/

namespace Overloads

/-- What is wrong with a pattern, if anything. -/
abbrev PatternCheck := String → Option String

def anyPattern : PatternCheck := fun _ => none

/-- A field named in a directive, and the value it is to have, as written. -/
structure FieldMatch where
  name : String
  value : Option String := none
deriving DecidableEq, Repr

def FieldMatch.text (f : FieldMatch) : String :=
  match f.value with
  | none => f.name
  | some v => f.name ++ "=" ++ v

structure Directive where
  target : Option String := none
  span : Option String := none
  fields : List FieldMatch := []
  threshold : Threshold := some .trace
deriving DecidableEq, Repr

inductive FilterError where
  | directive
  | level
  /-- A field is to match what is no pattern. -/
  | field (reason : String)
  /-- A part begins or ends within a character. Nobody is told of it: reading breaks off. -/
  | severed
deriving DecidableEq, Repr

def FilterError.message : FilterError → String
  | .directive => "invalid filter directive"
  | .level => "error parsing level filter: expected one of \"off\", \"error\", \"warn\", " ++
    "\"info\", \"debug\", \"trace\", or a number 0-5"
  | .field reason => "invalid field filter: " ++ reason
  | .severed => "a part begins or ends within a character"

namespace Directive

/-! ## Reading a directive -/

/-- What is being read, and the byte at which it began. -/
inductive Reading where
  | start
  | levelOrTarget (begin : Nat)
  | span (begin : Nat)
  | field (begin : Nat)
  | fields
  | target
  | level (begin : Nat)

def slice (piece : String) (first last : Nat) : Except FilterError String :=
  match Text.ofBytes? ((Text.bytes piece).extract first last) with
  | some s => .ok s
  | none => .error .severed

def canBegin (c : Char) : Bool :=
  c = '-' || c = ':' || c = '_' || Text.alphanumeric.contains c

/-- Is a value compared as it stands? The two truth values are, and all numbers, with those that
are infinite or none at all. -/
def isLiteral (value : String) : Bool :=
  value = "true" || value = "false" || (Decimal.read? value.toList).isSome ||
    ["inf", "infinity", "nan"].contains
      (String.ofList ((signed value.toList).2.map Char.toLower))

example : isLiteral "-Inf" ∧ isLiteral "5.e-3" ∧ ¬ isLiteral "True" ∧ ¬ isLiteral "" := by
  decide +kernel

variable (patterns : PatternCheck)

/-- Reads a field; what follows a second equals sign is passed over. -/
def readField (s : String) : Except FilterError FieldMatch :=
  match Text.cut '=' s with
  | name :: value :: _ =>
    if isLiteral value then .ok ⟨name, some value⟩
    else match patterns value with
      | none => .ok ⟨name, some value⟩
      | some reason => .error (.field reason)
  | _ => .ok ⟨s, none⟩

def readChar (piece : String) (d : Directive) (i : Nat) (c : Char) :
    Reading → Except FilterError (Directive × Reading)
  | .start =>
    if c = '[' then .ok (d, .span (i + 1))
    else if canBegin c then .ok (d, .levelOrTarget i) else .error .directive
  | .levelOrTarget begin =>
    if c = '=' then do return ({ d with target := ← slice piece begin i }, .level (i + 1))
    else if c = '[' then do return ({ d with target := ← slice piece begin i }, .span (i + 1))
    else .ok (d, .levelOrTarget begin)
  | .span begin =>
    if c = ']' then do return ({ d with span := ← slice piece begin i }, .target)
    else if c = '\x7b' then do
      let name ← slice piece begin i
      return ({ d with span := if name = "" then none else some name }, .field (i + 1))
    else .ok (d, .span begin)
  | .field begin =>
    if c = '\x7d' then do
      let text ← slice piece begin i
      if text = "" then throw .directive
      else return ({ d with fields := d.fields ++ [← readField patterns text] }, .fields)
    else .ok (d, .field begin)
  | .fields => if c = ']' then .ok (d, .target) else .error .directive
  | .target => if c = '=' then .ok (d, .level (i + 1)) else .error .directive
  | .level begin => .ok (d, .level begin)

def readChars (piece : String) :
    Directive → Nat → List Char → Reading → Except FilterError (Directive × Reading)
  | d, _, [], r => .ok (d, r)
  | d, i, c :: cs, r => do
    let (d, r) ← readChar patterns piece d i c r
    readChars piece d (i + c.utf8Size) cs r

/-- The directive at the end of a piece, from what was being read there. -/
def finish (piece : String) (d : Directive) : Reading → Except FilterError Directive
  | .levelOrTarget begin => do
    let text ← slice piece begin piece.utf8ByteSize
    match Threshold.ofText? text with
    | some t => return { d with threshold := t }
    | none => return { d with target := text }
  | .level begin => do
    let text ← slice piece begin piece.utf8ByteSize
    if text = "" then return { d with threshold := some .trace }
    else match Threshold.ofText? text with
      | some t => return { d with threshold := t }
      | none => throw .level
  | .target => .ok d
  | _ => .error .directive

/-- Reads one directive. The characters read are those of the piece without the blanks around
it, yet their places are counted, and parts taken, from the beginning of the piece. -/
def read (piece : String) : Except FilterError Directive := do
  let (d, r) ← readChars patterns piece {} 0 (Text.trim piece.toList) .start
  finish piece d r

/-! ## Writing and ordering -/

def isDynamic (d : Directive) : Bool := d.span.isSome || !d.fields.isEmpty

def text (d : Directive) : String :=
  let scope :=
    d.target.getD "" ++
    (if d.isDynamic then
      "[" ++ d.span.getD "" ++
        (if d.fields.isEmpty then ""
          else "\x7b" ++ ",".intercalate (d.fields.map FieldMatch.text) ++ "\x7d") ++ "]"
    else "")
  scope ++ (if d.target.isSome || d.isDynamic then "=" else "") ++ d.threshold.text

/-- What directives are ordered by: sizes before texts. -/
def key (d : Directive) : List Nat × List (List String) :=
  ([match d.target with | none => 0 | some s => s.utf8ByteSize + 1,
      if d.span.isSome then 1 else 0, d.fields.length],
    [d.target.toList, d.span.toList, d.fields.map FieldMatch.text])

def isMoreSpecific (d e : Directive) : Bool :=
  e.key.1 < d.key.1 || (d.key.1 = e.key.1 && e.key.2 < d.key.2)

/-- Puts a directive before the less specific ones, in the place of one with the same scope. -/
def add (d : Directive) : List Directive → List Directive
  | [] => [d]
  | e :: es =>
    if d.key = e.key then d :: es
    else if d.isMoreSpecific e then d :: e :: es
    else e :: add d es

/-- The directive for events with values of the names it gives, if it asks for no more. -/
def forEvents? (d : Directive) : Option Directive :=
  if d.span.isNone && d.fields.all (·.value.isNone) then some d else none

def applies (d : Directive) (e : Event) : Bool :=
  (match d.target with
    | none => true
    | some target => target.toList.isPrefixOf e.target.toList) &&
  d.fields.all fun f => e.has f.name

end Directive

structure Filter where
  statics : List Directive
  dynamics : List Directive
deriving DecidableEq, Repr

namespace Filter

/-- Sorts directives, the later ones in the place of earlier ones. -/
def sort (ds : List Directive) : List Directive :=
  ds.foldl (fun sorted d => d.add sorted) []

def ofDirectives (ds : List Directive) : Filter :=
  let dynamics := ds.filter Directive.isDynamic
  { statics := sort (ds.filter (!·.isDynamic) ++ dynamics.filterMap Directive.forEvents?)
    dynamics := sort dynamics }

/-- Reads a filter. Empty directives are passed over, and the first bad one counts. -/
def read (patterns : PatternCheck) (s : String) : Except FilterError Filter := do
  let ds ← ((Text.cut ',' s).filter (· ≠ "")).mapM (Directive.read patterns)
  return ofDirectives ds

def text (f : Filter) : String :=
  ",".intercalate ((f.statics ++ f.dynamics).map Directive.text)

/-- Is an event let through? The first directive that applies decides. -/
def admits (f : Filter) (e : Event) : Bool :=
  match f.statics.find? (·.applies e) with
  | some d => d.threshold.admits e.level
  | none => false

end Filter

end Overloads
