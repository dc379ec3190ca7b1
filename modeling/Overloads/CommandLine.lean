import Overloads.Fault
import Overloads.Settings.Layer
import Overloads.Text.Bytes
import Overloads.Text.Pieces
import Overloads.Text.Terminal

/-!
# Command lines

A command line is a sequence of words of bytes. Switches stand alone, options
take a value, in the same word behind `=` or as the next word. Each may be
given once. Words are read from the left, and the first mistake counts; a
value that stands in a word of its own is looked at when the next word is read.
-/

namespace Overloads

structure CommandLine where
  out : Option String := none
  check : Bool := false
  omitPragmas : Bool := false
  logLevel : Option String := none
deriving DecidableEq, Repr

/-- Why a command line is not read to its end. -/
inductive CommandLineError where
  /-- Neither a switch nor an option, nor a value that belongs to one. -/
  | unknownWord
  | missingValue
  | repeated
  /-- A switch with a value. -/
  | excessValue
  | valueNotText
  | helpRequested
  | versionRequested
deriving DecidableEq, Repr

def CommandLineError.message : CommandLineError → String
  | .unknownWord => "unexpected argument"
  | .missingValue => "a value is required for an option"
  | .repeated => "an argument cannot be used multiple times"
  | .excessValue => "unexpected value for an option that takes none"
  | .valueNotText => "invalid UTF-8 in an argument"
  | .helpRequested => "help requested"
  | .versionRequested => "version requested"

namespace CommandLine

/-- What stands alone. -/
inductive Switch where
  | check
  | omitPragmas
deriving DecidableEq, Repr

/-- What takes a value. -/
inductive Valued where
  | out
  | logLevel
deriving DecidableEq, Repr

inductive Word where
  | terminator
  | help
  | version
  | switch (s : Switch)
  /-- A switch, or a request for a text, that was given a value. -/
  | valuedSwitch
  | option (o : Valued) (value : Option ByteArray)
  | unknown
  | plain (value : ByteArray)
deriving DecidableEq

/-! ## Words -/

inductive Name where
  | help
  | version
  | switch (s : Switch)
  | option (o : Valued)
deriving DecidableEq

def names : List (String × Name) :=
  [("out", .option .out), ("check", .switch .check), ("omit-pragmas", .switch .omitPragmas),
    ("log-level", .option .logLevel), ("help", .help), ("version", .version)]

def splitValue (bs : List UInt8) : List UInt8 × Option ByteArray :=
  match bs.dropWhile (· ≠ 61) with
  | [] => (bs, none)
  | _ :: value => (bs.takeWhile (· ≠ 61), some ⟨value.toArray⟩)

def longWord (bs : List UInt8) : Word :=
  let (name, value) := splitValue bs
  match names.find? fun p => (Text.bytes p.1).data.toList = name with
  | none => .unknown
  | some (_, .option o) => .option o value
  | some (_, .help) => if value.isSome then .valuedSwitch else .help
  | some (_, .version) => if value.isSome then .valuedSwitch else .version
  | some (_, .switch s) => if value.isSome then .valuedSwitch else .switch s

/-- What a word is, by its first bytes: 45 is the dash. -/
def word (b : ByteArray) : Word :=
  match b.data.toList with
  | [45, 45] => .terminator
  | 45 :: 45 :: bs => longWord bs
  | [45] => .plain b
  | 45 :: 104 :: _ => .help
  | 45 :: 86 :: _ => .version
  | 45 :: _ => .unknown
  | _ => .plain b

/-! ## Reading -/

/-- What was read so far, and an option whose value may still come. -/
structure Progress where
  given : CommandLine := {}
  pending : Option (Valued × Option ByteArray) := none

/-- Enters a value, which has to be the first for its option and a text. -/
def enter (c : CommandLine) (o : Valued) (value : ByteArray) :
    Except CommandLineError CommandLine :=
  match o with
  | .out => if c.out.isSome then .error .repeated else match Text.ofBytes? value with
    | some s => .ok { c with out := some s }
    | none => .error .valueNotText
  | .logLevel => if c.logLevel.isSome then .error .repeated else match Text.ofBytes? value with
    | some s => .ok { c with logLevel := some s }
    | none => .error .valueNotText

/-- Turns a switch on, which has to be off. -/
def turnOn (c : CommandLine) : Switch → Except CommandLineError CommandLine
  | .check => if c.check then .error .repeated else .ok { c with check := true }
  | .omitPragmas => if c.omitPragmas then .error .repeated else .ok { c with omitPragmas := true }

def settle (p : Progress) : Except CommandLineError CommandLine :=
  match p.pending with
  | none => .ok p.given
  | some (_, none) => .error .missingValue
  | some (o, some value) => enter p.given o value

def readWord (p : Progress) : Word → Except CommandLineError Progress
  | .valuedSwitch => .error .excessValue
  | .unknown | .terminator => .error .unknownWord
  | .help => do let _ ← settle p; throw .helpRequested
  | .version => do let _ ← settle p; throw .versionRequested
  | .switch s => do return { given := ← turnOn (← settle p) s }
  | .option o none => do return { given := ← settle p, pending := some (o, none) }
  | .option o (some value) => do return { given := ← enter (← settle p) o value }
  | .plain value => match p.pending with
    | some (o, none) => .ok { p with pending := some (o, some value) }
    | _ => .error .unknownWord

/-- Reads words; behind a terminator there must be none. -/
def readWords (p : Progress) : List Word → Except CommandLineError CommandLine
  | [] => settle p
  | .terminator :: ws => if ws.isEmpty then settle p else .error .unknownWord
  | w :: ws => do readWords (← readWord p w) ws

def read (words : List ByteArray) : Except CommandLineError CommandLine :=
  readWords {} (words.map word)

/-! ## Texts -/

/-- The last name on a path, if it is a text: 47 is the slash and 46 the dot. -/
def lastName? (path : ByteArray) : Option String := do
  let names := (Text.pieces (47 : UInt8) path.data.toList).filter fun p => p ≠ [] ∧ p ≠ [46]
  let name ← names.getLast?
  if name = [46, 46] then none else Text.ofBytes? ⟨name.toArray⟩

def calledName (path : Option ByteArray) : String := (path.bind lastName?).getD programName

def helpText (name : String) : String :=
  "Generate TPIE construction overloads\n\n" ++
  "Usage: " ++ Text.shown name ++ " [OPTIONS]\n\nOptions:\n" ++
  "      --out <PATH>          Write the generated header to this file instead of stdout\n" ++
  "      --check               Verify that `--out` is up to date instead of writing it\n" ++
  "      --omit-pragmas        Leave out the MSVC warning push/pop pragmas\n" ++
  "      --log-level <FILTER>  `tracing` filter directive for diagnostics on stderr\n" ++
  "  -h, --help                Print help\n" ++
  "  -V, --version             Print version\n"

def versionText : String := programName ++ " 0.1.0\n"

/-- The layer of what was given; switches that are off leave other layers alone. -/
def layer (c : CommandLine) : Layer where
  source := .commandLine
  value := .object <|
    (match c.out with | some path => [("out", .string path)] | none => []) ++
    (if c.check then [("check", .bool true)] else []) ++
    (if c.omitPragmas then [("omit_pragmas", .bool true)] else []) ++
    (match c.logLevel with | some s => [("log_level", .string s)] | none => [])

end CommandLine

end Overloads
