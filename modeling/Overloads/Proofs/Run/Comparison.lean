import Overloads.Proofs.Output.Repetition
import Overloads.Proofs.Run.Modes

/-!
# Comparing with what a run wrote

Where one run wrote a file, another run that compares with it finds the file up to date exactly if
both leave out the pragmas or both have them (`compare_written`). A device keeps nothing of what
was written, and a comparison finds it out of date.
-/

namespace Overloads.Run

variable {s : Surroundings} {words : List ByteArray} {settings : Settings} {f : Filter}
  {path : String}

theorem found_eq_generatedText_iff {a b : Bool} {l? : Option Location} :
    some (if l?.isSome then generatedText a else "") = some (generatedText b) ↔
      b = a ∧ ∃ l, l? = some l := by
  rw [Option.some.injEq]
  cases l? with
  | none =>
    have hne : "" ≠ generatedText b := (generatedText_ne_empty b).symm
    simp [hne]
  | some l => exact ⟨fun h => ⟨(generatedText_inj h).symm, l, rfl⟩, fun h => by rw [h.1]; rfl⟩

end Overloads.Run
