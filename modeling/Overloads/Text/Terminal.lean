/-!
# Texts for a terminal

A terminal takes parts of a text for commands: an escape character and what
belongs to it. `shown` leaves these out, and control characters too, except
those that set the place where the text goes on. Such a character also ends a
command that is not a string, and a character beyond the basic ones ends any.
-/

namespace Overloads.Text

/-- What the next character of a text may belong to. -/
inductive Part where
  | text
  /-- A command of which only the escape character is known. -/
  | escape
  | short
  | sequence
  /-- A string for the terminal, which a bell may end. -/
  | string (bell : Bool)
deriving DecidableEq, Repr

namespace Part

/-- Does a character set the place where the text goes on? -/
def isPlacing (c : Char) : Bool := c = '\t' || c = '\n' || c = '\x0c' || c = '\x0d'

def opened (c : Char) : Part :=
  if c = '[' then .sequence
  else if c = ']' then .string true
  else if c = 'P' || c = 'X' || c = '^' || c = '_' then .string false
  else if c < '0' then .short
  else .text

/-- Reads a character: what the next one may belong to, and what is shown. A character beyond the
basic ones gives its first byte to a command, and is broken by that. -/
def read (p : Part) (c : Char) : Part × List Char :=
  if c = '\x1b' then (.escape, [])
  else if c = '\x18' || c = '\x1a' then (.text, [])
  else if '\x7f' < c then
    (.text, if p = .text then [c] else List.replicate (c.utf8Size - 1) '\ufffd')
  else match p with
  | .string bell => (if bell && c = '\x07' then .text else p, [])
  | p =>
    if isPlacing c then (.text, [c])
    else if c < ' ' || c = '\x7f' then (p, [])
    else match p with
    | .escape => (opened c, [])
    | .short => (if c < '0' then .short else .text, [])
    | .sequence => (if c < '@' then .sequence else .text, [])
    | _ => (.text, [c])

def shown : Part → List Char → List Char
  | _, [] => []
  | p, c :: cs => (p.read c).2 ++ shown (p.read c).1 cs

end Part

def shown (s : String) : String := String.ofList (Part.shown .text s.toList)

end Overloads.Text
