/-!
# Bytes of a text

Texts are stored and passed as bytes. Bytes are a text when they are its
encoding, and then of that text alone (`ofBytes?_eq_some_iff`).
-/

namespace Overloads.Text

/-- Bytes are compared one by one, whatever other ways there may be. -/
instance (priority := 2000) decidableEqBytes : DecidableEq ByteArray := ByteArray.instDecidableEq

def bytes (s : String) : ByteArray := s.toByteArray

def ofBytes? (b : ByteArray) : Option String := String.fromUTF8? b

/-- The characters at the beginning of a text that fit in so many bytes. -/
def fitting : Nat → List Char → List Char
  | _, [] => []
  | n, c :: cs => if c.utf8Size ≤ n then c :: fitting (n - c.utf8Size) cs else []

theorem ofBytes?_bytes (s : String) : ofBytes? (bytes s) = some s := by
  unfold ofBytes? String.fromUTF8?
  exact dif_pos s.isValidUTF8

theorem ofBytes?_eq_some_iff {b : ByteArray} {s : String} : ofBytes? b = some s ↔ b = bytes s := by
  constructor
  · intro h
    simp only [ofBytes?, String.fromUTF8?] at h
    split at h
    · cases h; rfl
    · cases h
  · rintro rfl; exact ofBytes?_bytes s

theorem bytes_inj {s t : String} : bytes s = bytes t ↔ s = t := by
  constructor
  · intro h
    have := ofBytes?_bytes s
    rw [h, ofBytes?_bytes] at this
    exact (Option.some.inj this).symm
  · rintro rfl; rfl

end Overloads.Text
