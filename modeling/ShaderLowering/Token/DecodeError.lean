/-!
# Decoding errors

A token stream is read strictly from left to right, so every failure has one position: the word,
counted from the start of the stream, that could not be read. `DecodeFault` says what was wrong with
it, and `DecodeError.message` is the only place that puts a failure into words.
-/

namespace ShaderLowering

/-- What was wrong with a word of a token stream. -/
inductive DecodeFault where
  /-- The stream's bytes do not come in fours. -/
  | misaligned (length : Nat)
  /-- The stream has no room for the two header words. -/
  | tooShort (words : Nat)
  /-- The declared length leaves out the header or exceeds the stream. -/
  | declaredLength (declared available : Nat)
  /-- An instruction is shorter than its own head. -/
  | zeroLength
  /-- An instruction reaches past the end of the stream. -/
  | overrun (start length available : Nat)
  /-- A field was to be read behind the last word. -/
  | endOfStream (wanted remaining : Nat)
  /-- No opcode has this number. -/
  | unknownOpcode (raw : Nat)
  /-- No operand type has this number. -/
  | unknownOperandType (raw : Nat)
  /-- A numbered field holds a number that its enumeration lacks. -/
  | invalidValue (what : String) (value : Nat)
  /-- No index representation has this number. -/
  | unknownRepresentation (raw : Nat)
  /-- Relative indices are nested more than `limit` deep. -/
  | nestedTooDeep (limit : Nat)
  /-- The operand has fewer indices than that. -/
  | missingIndex (index dimension : Nat)
  /-- The operand has fewer immediate words than that. -/
  | missingImmediate (index count : Nat)
  deriving DecidableEq

/-- A failure to decode, with the position of the word it is about. -/
structure DecodeError where
  /-- The position of the word. -/
  position : Nat
  /-- What was wrong with it. -/
  fault : DecodeFault
  deriving DecidableEq

namespace DecodeFault

/-- The fault in words. -/
def message : DecodeFault → String
  | misaligned length => s!"token stream length {length} is not a multiple of 4 bytes"
  | tooShort words => s!"token stream too short ({words} dwords, need at least 2)"
  | declaredLength declared available =>
    s!"declared program length {declared} is out of bounds (available {available})"
  | zeroLength => "instruction length is zero"
  | overrun start length available =>
    s!"instruction at {start} with length {length} overruns program (available {available})"
  | endOfStream wanted remaining =>
    s!"unexpected end of token stream (wanted {wanted} dwords, {remaining} remaining)"
  | unknownOpcode raw => s!"unknown opcode {raw}"
  | unknownOperandType raw => s!"unknown operand type {raw}"
  | invalidValue what value => s!"invalid {what} value {value}"
  | unknownRepresentation raw => s!"unsupported index representation {raw}"
  | nestedTooDeep limit => s!"relative operand indices nest deeper than {limit}"
  | missingIndex index dimension => s!"operand has no index {index} (index dimension {dimension})"
  | missingImmediate index count => s!"operand has no immediate {index} ({count} present)"

end DecodeFault

namespace DecodeError

/-- One word was wanted at `position`, where the words had come to their end. -/
def endOfStream (position : Nat) : DecodeError :=
  ⟨position, .endOfStream 1 0⟩

/-- The failure in words. -/
def message (e : DecodeError) : String :=
  s!"SM4/5 decode error at dword {e.position}: {e.fault.message}"

end DecodeError

end ShaderLowering
