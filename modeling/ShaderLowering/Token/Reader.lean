import ShaderLowering.Token.Instruction

/-!
# Reading instructions one after the other

An `InstructionReader` walks over a list of words from a start position. It yields each instruction,
or the error that ended the walk, and then nothing more: a reader that has failed stays where it is
until it is restarted. Positions count from the start of the list.
-/

namespace ShaderLowering

/-- A walk over the instructions in a list of words. -/
structure InstructionReader where
  /-- The words. -/
  tokens : List Word
  /-- Where the first instruction stands. -/
  start : Nat
  /-- Where the next instruction stands. -/
  position : Nat
  /-- Whether the walk has ended with an error. -/
  failed : Bool

namespace InstructionReader

/-- A reader of the words from `start` on. -/
def ofTokens (tokens : List Word) (start : Nat) : InstructionReader :=
  { tokens, start, position := start, failed := false }

/-- The same words from the first instruction again. -/
def restart (r : InstructionReader) : InstructionReader :=
  ofTokens r.tokens r.start

/-- What the reader yields next, if anything, and the reader behind it. -/
def next (r : InstructionReader) : Option (Except DecodeError Instruction) × InstructionReader :=
  if r.failed then (none, r)
  else
    match r.tokens.drop r.position with
    | [] => (none, r)
    | w :: rest =>
      match Instruction.decode r.position w rest with
      | .ok i => (some (.ok i), { r with position := r.position + i.length })
      | .error e => (some (.error e), { r with failed := true })

/-- A bound on how much the reader still yields. -/
def left (r : InstructionReader) : Nat :=
  if r.failed then 0 else r.tokens.length - r.position

/-- Whatever the reader yields brings it closer to its end. -/
theorem left_next {r r' : InstructionReader} {item : Except DecodeError Instruction}
    (h : r.next = (some item, r')) : r'.left < r.left := by
  unfold next at h
  split at h
  · cases h
  · next hf =>
    split at h
    · cases h
    · next w rest hd =>
      have hlen := congrArg List.length hd
      simp only [List.length_drop, List.length_cons] at hlen
      split at h
      · next i _ =>
        cases h
        have := i.length_pos
        simp only [left, hf]
        simp only [Bool.false_eq_true, if_false]
        omega
      · cases h
        simp only [left, hf]
        simp only [Bool.false_eq_true, if_false, if_true]
        omega

/-- Everything that the reader still yields. -/
def items (r : InstructionReader) : List (Except DecodeError Instruction) :=
  match h : r.next with
  | (none, _) => []
  | (some item, r') =>
    have := left_next h
    item :: r'.items
termination_by r.left

end InstructionReader

end ShaderLowering
