import ShaderLowering.Token.DecodeError

/-!
# Numbered enumerations

Many fields of a token hold the number of a case of a closed enumeration. `Numbered` ties such a
type to its numbers and labels; `Numbered.ofRaw?` looks a number up, and `Numbered.decode` does so
with an error that names the enumeration. `LawfulNumbered` says that every value is found by its
number, so no two values share one.
-/

namespace ShaderLowering

/-- A type whose values are the numbered cases of a token field. -/
class Numbered (α : Type) where
  /-- What a value is called in an error. -/
  what : String
  /-- All values, in the order of their numbers. -/
  all : List α
  /-- The number of a value. -/
  raw : α → Nat
  /-- The name of a value in assembly text. -/
  label : α → String

namespace Numbered

variable {α : Type} [Numbered α]

/-- The value with a number. -/
def ofRaw? (n : Nat) : Option α :=
  all.find? (raw · == n)

/-- The value with a number, or an error at `position`. -/
def decode (n position : Nat) : Except DecodeError α :=
  match ofRaw? n with
  | some a => .ok a
  | none => .error ⟨position, .invalidValue (what α) n⟩

/-- A number without a value is reported at its position. -/
theorem position_of_decode_eq_error {n position : Nat} {e : DecodeError}
    (h : decode (α := α) n position = .error e) : e.position = position := by
  rw [decode] at h
  split at h
  · cases h
  · cases h
    rfl

/-- A value that is found has the number it was looked up by. -/
theorem raw_of_ofRaw? {n : Nat} {a : α} (h : ofRaw? n = some a) : raw a = n := by
  simpa using List.find?_some h

end Numbered

/-- An enumeration in which every value is listed and found by its own number. -/
class LawfulNumbered (α : Type) [Numbered α] : Prop where
  /-- The first value with the number of `a` is `a`. -/
  find_raw (a : α) : Numbered.all.find? (Numbered.raw · == Numbered.raw a) = some a

namespace Numbered

variable {α : Type} [Numbered α] [LawfulNumbered α]

/-- Every value is found by its own number. -/
theorem ofRaw?_raw (a : α) : ofRaw? (raw a) = some a :=
  LawfulNumbered.find_raw a

/-- Two values never share a number. -/
theorem raw_inj {a b : α} (h : raw a = raw b) : a = b := by
  simpa [ofRaw?_raw] using congrArg (ofRaw? (α := α)) h

end Numbered

end ShaderLowering
