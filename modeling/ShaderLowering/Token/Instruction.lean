import ShaderLowering.Token.Operand

/-!
# Instructions

An instruction is its opcode token, a *head* and the argument words. The head holds the extended
tokens; the head of a `customdata` block is instead one word with the length of the block, for which
the field in the token is too short. `Instruction.decode` checks the length before it looks the
opcode up, so that an instruction that does not fit is reported as such whatever its opcode is.

Arguments are mostly operands. They are read from a cursor over the argument words,
`Instruction.cursor`, with `Operand.decode` and `Decoder.word`.
-/

namespace ShaderLowering

/-- A decoded instruction. -/
structure Instruction where
  /-- The position of the opcode token. -/
  position : Nat
  /-- The opcode token. -/
  token : OpcodeToken
  /-- The opcode, whose number the token holds. -/
  opcode : Opcode
  /-- The words between the token and the arguments. -/
  head : List Word
  /-- The argument words. -/
  args : List Word

namespace Instruction

/-- All words of the instruction. -/
def words (i : Instruction) : List Word := i.token.word :: (i.head ++ i.args)

/-- How many words the instruction has. -/
def length (i : Instruction) : Nat := i.words.length

/-- An instruction has at least its token. -/
theorem length_pos (i : Instruction) : 0 < i.length := by simp [length, words]

/-! ## Decoding -/

/-- The length in words of the instruction with a token, which a `customdata` block has in its
second word. -/
def declaredLength (position : Nat) (token : OpcodeToken) (rest : List Word) :
    Except DecodeError Nat :=
  if token.opcodeRaw = Opcode.customdata.raw then
    match rest with
    | [] => .error (.endOfStream (position + 1))
    | length :: _ => .ok length.toNat
  else .ok token.length

/-- The least length of the instruction with a token. -/
def leastLength (token : OpcodeToken) : Nat :=
  if token.opcodeRaw = Opcode.customdata.raw then 2 else 1

/-- Splits the words behind a token into the head and the arguments. -/
def splitHead (position : Nat) (token : OpcodeToken) (body : List Word) :
    Except DecodeError (List Word × List Word) :=
  if token.opcodeRaw = Opcode.customdata.raw then .ok (body.take 1, body.drop 1)
  else
    match Decoder.chain token.word.extended ⟨position + 1, body⟩ with
    | .ok (head, c) => .ok (head, c.rest)
    | .error e => .error e

/-- Decodes the instruction at the start of the words `w :: rest`, which stand at `position`. -/
def decode (position : Nat) (w : Word) (rest : List Word) : Except DecodeError Instruction := do
  let token := OpcodeToken.mk w
  let length ← declaredLength position token rest
  if length < leastLength token then throw ⟨position, .zeroLength⟩
  if rest.length + 1 < length then
    throw ⟨position, .overrun position length (position + rest.length + 1)⟩
  match token.opcode? with
  | none => throw ⟨position, .unknownOpcode token.opcodeRaw⟩
  | some opcode =>
    let (head, args) ← splitHead position token (rest.take (length - 1))
    return { position, token, opcode, head, args }

/-! ## Extended tokens and control bits -/

/-- The extended opcode tokens. -/
def extensions (i : Instruction) : List OpcodeExt :=
  if i.opcode = .customdata then [] else i.head.map .mk

/-- The first extended token of a kind. -/
def extension? (i : Instruction) (kind : OpcodeExtKind) : Option OpcodeExt :=
  i.extensions.find? (·.kind? == some kind)

/-- The texel offsets of the first sample-controls token, else zeros. -/
def sampleOffsets (i : Instruction) : List Int :=
  match i.extension? .sampleControls with
  | some e => e.sampleOffsets
  | none => [0, 0, 0]

/-- The control field. -/
def control (i : Instruction) : OpcodeControl := i.token.control

/-- The resource dimension in the control field. -/
def resourceDim (i : Instruction) : Except DecodeError ResourceDim :=
  Numbered.decode i.control.resourceDim i.position

/-- The interpolation mode in the control field. -/
def interpolationMode (i : Instruction) : Except DecodeError InterpolationMode :=
  Numbered.decode i.control.interpolationMode i.position

/-- The sampler mode in the control field. -/
def samplerMode (i : Instruction) : Except DecodeError SamplerMode :=
  Numbered.decode i.control.samplerMode i.position

/-! ## Arguments -/

/-- The position of the first argument word. -/
def argsPosition (i : Instruction) : Nat := i.position + 1 + i.head.length

/-- A cursor over the argument words from `offset` on. -/
def cursorAt (i : Instruction) (offset : Nat) : Cursor :=
  ⟨i.argsPosition + offset, i.args.drop offset⟩

/-- A cursor over all argument words. -/
def cursor (i : Instruction) : Cursor := ⟨i.argsPosition, i.args⟩

/-- The argument word at an offset. -/
def arg (i : Instruction) (offset : Nat) : Except DecodeError Word :=
  match Decoder.word (i.cursorAt offset) with
  | .ok (w, _) => .ok w
  | .error e => .error e

/-- The operand at an offset of the arguments. -/
def operand (i : Instruction) (offset : Nat) : Except DecodeError Operand :=
  Operand.parse (i.args.drop offset) (i.argsPosition + offset)

end Instruction

/-- What a cursor holds, read as operands. -/
structure OperandRun where
  /-- The operands. -/
  operands : List Operand
  /-- Why the words that are left are no operand, if any are left. -/
  error? : Option DecodeError
  /-- What is left. -/
  cursor : Cursor

/-- Reads operands as long as there are words and they are operands. -/
def Cursor.operands (c : Cursor) : OperandRun :=
  match c.rest with
  | [] => ⟨[], none, c⟩
  | _ :: _ =>
    match h : Operand.decode c with
    | .error e => ⟨[], some e, c⟩
    | .ok (operand, next) =>
      have := Operand.length_rest_decode h
      let run := next.operands
      { run with operands := operand :: run.operands }
termination_by c.rest.length

end ShaderLowering
