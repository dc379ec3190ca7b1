import Overloads.Header
import Overloads.Log.Filter
import Overloads.Output
import Overloads.Settings.Load

/-!
# Runs of the program

A run reads its command line, loads the settings, generates a header and
prints it, writes it to a file or compares it with one. Nothing is printed or
written before the settings are known to be good, and a failing run prints
nothing. What happened is reported as events, which a filter may hold back.
-/

namespace Overloads

inductive Failure where
  | commandLine (error : CommandLineError)
  | loading (errors : List LoadError)
  | fault (fault : Fault)
  /-- The program breaks off in the middle of a filter. -/
  | severed (filter : String)

namespace Failure

def message : Failure → String
  | .commandLine error => error.message
  | .loading errors =>
    "failed to load configuration: " ++ "; ".intercalate (errors.map LoadError.message)
  | .fault f => f.message
  | .severed filter => "the filter '" ++ filter ++ "' is cut within a character"

/-- How a run fails that cannot read its filter. -/
def ofFilterError (filter : String) : FilterError → Failure
  | .severed => .severed filter
  | e => .fault (.invalidLogLevel filter e.message)

end Failure

inductive Printer where
  | accepting
  /-- It has no room. -/
  | full
  /-- Nobody reads it. -/
  | unread
deriving DecidableEq, Repr

structure Outcome where
  result : Except Failure Unit := .ok ()
  printed : String := ""
  events : List Event := []
  tree : FileTree

structure Surroundings where
  tree : FileTree
  here : Location
  environment : Environment
  /-- Tells what is wrong with a pattern in a filter. -/
  patterns : PatternCheck
  printer : Printer := .accepting

namespace Run

/-! ## Events -/

def programTarget : String := "tpie_memgen"
def generatorTarget : String := "tpie_memgen::driver"
def outputTarget : String := "tpie_memgen::output"

def generationEvents (l : Limits) (h : Header) : List Event :=
  l.constructions.map (fun g =>
    ⟨.trace, generatorTarget, "emitting unsafe constructor", [("arity", toString g.arity)]⟩) ++
  [⟨.debug, generatorTarget, "unsafe constructors emitted",
      [("count", toString h.counts.guarded)]⟩,
    ⟨.debug, generatorTarget, "interface overloads emitted",
      [("count", toString h.counts.forwarding)]⟩,
    ⟨.info, programTarget, "generated construction overloads",
      [("unsafe_functions", toString h.counts.guarded),
        ("interface_functions", toString h.counts.forwarding),
        ("bytes", toString h.text.utf8ByteSize)]⟩]

def writtenEvent (path text : String) : Event :=
  ⟨.info, outputTarget, "wrote generated overloads",
    [("path", path), ("bytes", toString text.utf8ByteSize)]⟩

def comparedEvent (path : String) : Output.Comparison → Event
  | .same => ⟨.info, outputTarget, "generated overloads are up to date", [("path", path)]⟩
  | .different =>
    ⟨.warn, outputTarget, "generated overloads differ from the checked-in file", [("path", path)]⟩
  | .missing => ⟨.warn, outputTarget, "generated overloads file is missing", [("path", path)]⟩

def failedEvent (f : Fault) : Event :=
  ⟨.error, programTarget, programName ++ " failed", [("error", f.message)]⟩

/-! ## The stages of a run -/

/-- The end of a run that fails once events are reported. -/
def fail (f : Fault) (events : List Event) (t : FileTree) : Outcome where
  result := .error (.fault f)
  events := events ++ [failedEvent f]
  tree := t

def print (p : Printer) (text : String) (events : List Event) (t : FileTree) : Outcome :=
  match p with
  | .accepting => { printed := text, events := events, tree := t }
  | .full => fail (.stdout .full) events t
  | .unread => fail (.stdout .unread) events t

def write (here : Location) (path text : String) (events : List Event) (t : FileTree) : Outcome :=
  match Output.write t here path text with
  | (.ok written, t') => { events := events ++ [writtenEvent written text], tree := t' }
  | (.error f, t') => fail f events t'

def compare (here : Location) (path text : String) (events : List Event) (t : FileTree) :
    Outcome :=
  match Output.compare t here path text with
  | .error f => fail f events t
  | .ok .same => { events := events ++ [comparedEvent path .same], tree := t }
  | .ok c => fail (.outOfDate path) (events ++ [comparedEvent path c]) t

def serve (s : Surroundings) (settings : Settings) : Outcome :=
  match settings.mode with
  | .error f => fail f [] s.tree
  | .ok mode =>
    let h := Header.generate .standard settings.pragmas
    let events := generationEvents .standard h
    match mode with
    | .print => print s.printer h.text events s.tree
    | .write path => write s.here path h.text events s.tree
    | .compare path => compare s.here path h.text events s.tree

/-- The end of a run that fails before events are reported. -/
def refuse (s : Surroundings) (f : Failure) : Outcome where
  result := .error f
  tree := s.tree

/-- The end of a run that only shows a text; it succeeds even where nothing can be printed. -/
def showText (s : Surroundings) (text : String) : Outcome where
  printed := if s.printer = .accepting then text else ""
  tree := s.tree

def serveFiltered (s : Surroundings) (settings : Settings) : Outcome :=
  match Filter.read s.patterns settings.logLevel with
  | .error e => refuse s (.ofFilterError settings.logLevel e)
  | .ok filter =>
    let o := serve s settings
    { o with events := o.events.filter filter.admits }

end Run

/-- One run of the program, called by a path, with the words of its command line. -/
def run (s : Surroundings) (called : Option ByteArray) (words : List ByteArray) : Outcome :=
  match CommandLine.read words with
  | .error .helpRequested => Run.showText s (CommandLine.helpText (CommandLine.calledName called))
  | .error .versionRequested => Run.showText s CommandLine.versionText
  | .error e => Run.refuse s (.commandLine e)
  | .ok c => match Settings.load s.tree s.here s.environment c with
    | .error errors => Run.refuse s (.loading errors)
    | .ok settings => Run.serveFiltered s settings

end Overloads
