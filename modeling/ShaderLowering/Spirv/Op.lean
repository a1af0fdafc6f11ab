import ShaderLowering.Word

/-!
# Operations

The SPIR-V instructions that a module is made of, with their opcodes.
-/

namespace ShaderLowering.Spirv

/-- The operation of a SPIR-V instruction. -/
inductive Op where
  | name | memberName | extInstImport | extInst | memoryModel | entryPoint | executionMode
  | capability | typeVoid | typeBool | typeInt | typeFloat | typeVector | typeImage | typeSampler
  | typeSampledImage | typeArray | typeStruct | typePointer | typeFunction | constant
  | constantComposite | function | functionEnd | globalVariable | load | store | accessChain
  | decorate | memberDecorate | vectorShuffle | compositeConstruct | compositeExtract
  | compositeInsert | sampledImage | imageSampleImplicitLod | imageSampleExplicitLod | bitcast
  | sNegate | fNegate | iAdd | fAdd | iMul | fMul | dot | label | functionReturn
  deriving DecidableEq

namespace Op

/-- The opcode of an operation. -/
def code : Op → Nat
  | name => 5 | memberName => 6 | extInstImport => 11 | extInst => 12 | memoryModel => 14
  | entryPoint => 15 | executionMode => 16 | capability => 17 | typeVoid => 19 | typeBool => 20
  | typeInt => 21 | typeFloat => 22 | typeVector => 23 | typeImage => 25 | typeSampler => 26
  | typeSampledImage => 27 | typeArray => 28 | typeStruct => 30 | typePointer => 32
  | typeFunction => 33 | constant => 43 | constantComposite => 44 | function => 54
  | functionEnd => 56 | globalVariable => 59 | load => 61 | store => 62 | accessChain => 65
  | decorate => 71 | memberDecorate => 72 | vectorShuffle => 79 | compositeConstruct => 80
  | compositeExtract => 81 | compositeInsert => 82 | sampledImage => 86
  | imageSampleImplicitLod => 87 | imageSampleExplicitLod => 88 | bitcast => 124 | sNegate => 126
  | fNegate => 127 | iAdd => 128 | fAdd => 129 | iMul => 132 | fMul => 133 | dot => 148
  | label => 248 | functionReturn => 253

/-- An opcode fits the lower half of a word. -/
theorem code_lt (op : Op) : op.code < 0x10000 := by
  cases op <;> decide

end Op

/-- The first word of an instruction: the word count above the opcode. The count keeps 16 bits. -/
def headWord (opcode count : Nat) : Word :=
  UInt32.ofNat (((count % 0x10000) <<< 16) + opcode)

end ShaderLowering.Spirv
