import ShaderLowering.Word
import ShaderLowering.Token.Field
import ShaderLowering.Token.Opcode

/-!
# Opcode tokens

The first word of an instruction holds, from bit 0 upwards, the opcode (11 bits), a control field
(13 bits) whose meaning depends on the opcode, and the length in words (7 bits). Bit 31 says that
extended tokens follow; each of these again says with bit 31 whether another one follows.
-/

namespace ShaderLowering

/-- The bit of a token that announces an extended token behind it. -/
def Word.extended (w : Word) : Bool := w.flag 31

/-! ## Control bits -/

/-- The control field of an opcode token. -/
structure OpcodeControl where
  /-- The field, moved down to bit 0. -/
  raw : Nat
  deriving DecidableEq

namespace OpcodeControl

/-- The token bits `first` to `last`, counted in the whole token. -/
def bits (c : OpcodeControl) (first last : Nat) : Nat :=
  ((c.raw <<< 11) >>> first) % (1 <<< (last + 1 - first))

/-- Whether the result is clamped to the unit interval. -/
def saturate (c : OpcodeControl) : Bool := c.bits 13 13 != 0

/-- Whether a condition holds for values other than zero. -/
def testNonzero (c : OpcodeControl) : Bool := c.bits 18 18 != 0

/-- The number of the resource dimension that a resource declaration gives. -/
def resourceDim (c : OpcodeControl) : Nat := c.bits 11 15

/-- The sample count that a resource declaration gives. -/
def sampleCount (c : OpcodeControl) : Nat := c.bits 16 22

/-- The number of the interpolation mode that an input declaration gives. -/
def interpolationMode (c : OpcodeControl) : Nat := c.bits 11 14

/-- The number of the mode that a sampler declaration gives. -/
def samplerMode (c : OpcodeControl) : Nat := c.bits 11 14

end OpcodeControl

/-- The flags of a global-flags declaration by their bits in the control field, the lowest first. -/
def globalFlagNames : List String :=
  ["REFACTORING_ALLOWED", "ENABLE_DOUBLE_PRECISION", "FORCE_EARLY_DEPTH_STENCIL",
   "ENABLE_RAW_AND_STRUCTURED_BUFFERS", "SKIP_OPTIMIZATION", "ENABLE_MINIMUM_PRECISION",
   "ENABLE_DOUBLE_EXTENSIONS", "ENABLE_SHADER_EXTENSIONS"]

/-- The names of the flags that a control field sets. -/
def OpcodeControl.flagNames (c : OpcodeControl) : List String :=
  (globalFlagNames.zipIdx.filter fun (_, i) => c.raw.testBit i).map (·.1)

/-! ## Opcode tokens -/

/-- The first word of an instruction. -/
structure OpcodeToken where
  /-- The whole word. -/
  word : Word
  deriving DecidableEq

namespace OpcodeToken

/-- The number of the opcode. -/
def opcodeRaw (t : OpcodeToken) : Nat := t.word.field 0 11

/-- The opcode, if one has the number. -/
def opcode? (t : OpcodeToken) : Option Opcode := Numbered.ofRaw? t.opcodeRaw

/-- The control field. -/
def control (t : OpcodeToken) : OpcodeControl := ⟨t.word.field 11 13⟩

/-- The length in words that the token declares. -/
def length (t : OpcodeToken) : Nat := t.word.field 24 7

end OpcodeToken

/-! ## Extended opcode tokens -/

/-- What an extended opcode token holds. -/
inductive OpcodeExtKind where
  | empty | sampleControls | resourceDim | resourceReturnType
  deriving DecidableEq

namespace OpcodeExtKind

/-- The number of a kind. -/
def raw : OpcodeExtKind → Nat
  | .empty => 0 | .sampleControls => 1 | .resourceDim => 2 | .resourceReturnType => 3

/-- The name of a kind. -/
def label : OpcodeExtKind → String
  | .empty => "empty" | .sampleControls => "sample_controls" | .resourceDim => "resource_dim"
  | .resourceReturnType => "resource_return_type"

/-- Every kind, in the order of the numbers. -/
def all : List OpcodeExtKind :=
  [.empty, .sampleControls, .resourceDim, .resourceReturnType]

instance : Numbered OpcodeExtKind where
  what := "extended opcode type"
  all := all
  raw := raw
  label := label

end OpcodeExtKind

/-- A word that extends an opcode token. -/
structure OpcodeExt where
  /-- The whole word. -/
  word : Word
  deriving DecidableEq

namespace OpcodeExt

/-- The number of the kind. -/
def kindRaw (e : OpcodeExt) : Nat := e.word.field 0 6

/-- The kind, if one has the number. -/
def kind? (e : OpcodeExt) : Option OpcodeExtKind := Numbered.ofRaw? e.kindRaw

/-- The texel offsets of a sample-controls token: three fields of four bits in two's complement. -/
def sampleOffsets (e : OpcodeExt) : List Int :=
  [9, 13, 17].map fun low => Int.bmod (e.word.field low 4) 16

end OpcodeExt

end ShaderLowering
