import ShaderLowering.Spirv.Code
import ShaderLowering.Spirv.Literal

/-!
# Modules under construction

A module is built by adding instructions to its sections. The sections are kept apart, so types,
constants, variables and decorations can be added while the body of a function is being written;
`Module.code` puts them into the order that a finished module has.

Every new result gets the next id. Types and constants are *interned*: asking for one that the
module already has gives its id, so no two of them are alike. Arrays and structs are always new,
because each carries decorations of its own.
-/

namespace ShaderLowering.Spirv

/-! ## Instructions -/

/-- A SPIR-V instruction: the operation, the type and the id of its result where it has them, and
further operand words. -/
structure Inst where
  /-- The operation. -/
  op : Op
  /-- The id of the type of the result. -/
  resultType? : Option Word
  /-- The id of the result. -/
  result? : Option Word
  /-- The operands. -/
  operands : List Word
  deriving DecidableEq

namespace Inst

/-- The words behind the first one. -/
def tailWords (i : Inst) : List Word := i.resultType?.toList ++ (i.result?.toList ++ i.operands)

/-- The words of an instruction. -/
def words (i : Inst) : List Word := headWord i.op.code (i.tailWords.length + 1) :: i.tailWords

/-- An instruction without a result. -/
def effect (op : Op) (operands : List Word) : Inst := ⟨op, none, none, operands⟩

/-- Whether an instruction does the same as another and has the same type; the results may
differ. -/
def sameExpression (i j : Inst) : Bool :=
  i.op == j.op && i.resultType? == j.resultType? && i.operands == j.operands

end Inst

/-! ## Modules -/

/-- A module under construction. -/
structure Module where
  /-- One more than the largest id. -/
  bound : Nat
  /-- The features that the module needs. -/
  capabilities : Array Capability
  /-- The id of the extended instruction set, once it is used. -/
  glsl? : Option Word
  /-- How memory is addressed and ordered. -/
  memory : AddressingModel × MemoryModel
  /-- The entry points. -/
  entryPoints : Array Inst
  /-- The modes of the entry points. -/
  executionModes : Array Inst
  /-- The names for debuggers. -/
  names : Array Inst
  /-- The decorations. -/
  annotations : Array Inst
  /-- The types, constants and variables. -/
  globals : Array Inst
  /-- The functions. -/
  body : Array Inst

/-- A step of the construction of a module. -/
abbrev Build := StateM Module

namespace Module

/-- A module without contents. -/
def empty : Module where
  bound := 1
  capabilities := #[]
  glsl? := none
  memory := (.logical, .glsl450)
  entryPoints := #[]
  executionModes := #[]
  names := #[]
  annotations := #[]
  globals := #[]
  body := #[]

/-! ## Serialising -/

/-- The SPIR-V version in the header, 1.0. -/
def version : Word := 0x00010000

/-- The name of the extended instruction set. -/
def glslName : String := "GLSL.std.450"

/-- The imports of extended instruction sets. -/
def imports (m : Module) : List Inst :=
  match m.glsl? with
  | some id => [⟨.extInstImport, none, some id, stringWords glslName⟩]
  | none => []

/-- All instructions in the order of a finished module. -/
def instructions (m : Module) : List Inst :=
  m.capabilities.toList.map (fun c => .effect .capability [c.number]) ++ m.imports
    ++ [.effect .memoryModel [m.memory.1.number, m.memory.2.number]] ++ m.entryPoints.toList
    ++ m.executionModes.toList ++ m.names.toList ++ m.annotations.toList ++ m.globals.toList
    ++ m.body.toList

/-- The words of the header. -/
def header (m : Module) : List Word := [magicNumber, version, 0, UInt32.ofNat m.bound, 0]

/-- The finished module. -/
def code (m : Module) : Code := ⟨m.header ++ m.instructions.flatMap Inst.words⟩

end Module

namespace Build

/-! ## Ids and declarations about the module -/

/-- A new id. -/
def newId : Build Word :=
  modifyGet fun m => (UInt32.ofNat m.bound, { m with bound := m.bound + 1 })

/-- Asks for a feature; asking again changes nothing. -/
def enableCapability (c : Capability) : Build Unit :=
  modify fun m =>
    if c ∈ m.capabilities then m else { m with capabilities := m.capabilities.push c }

/-- The id of the extended instruction set, which is imported when it is first asked for. -/
def importGlsl : Build Word := do
  match (← get).glsl? with
  | some id => return id
  | none =>
    let id ← newId
    modify fun m => { m with glsl? := some id }
    return id

/-- Replaces the memory model. -/
def setMemoryModel (addressing : AddressingModel) (memory : MemoryModel) : Build Unit :=
  modify fun m => { m with memory := (addressing, memory) }

/-- Adds an entry point with the ids of the interface variables that it uses. -/
def addEntryPoint (model : ExecutionModel) (function : Word) (name : String)
    (interfaces : List Word) : Build Unit :=
  let i : Inst := .effect .entryPoint (model.number :: function :: (stringWords name ++ interfaces))
  modify fun m => { m with entryPoints := m.entryPoints.push i }

/-- Sets a mode of an entry point. -/
def setExecutionMode (entry : Word) (mode : ExecutionMode) (args : List Word) : Build Unit :=
  let i : Inst := .effect .executionMode (entry :: mode.number :: args)
  modify fun m => { m with executionModes := m.executionModes.push i }

/-- Names an id. -/
def setName (id : Word) (name : String) : Build Unit :=
  let i : Inst := .effect .name (id :: stringWords name)
  modify fun m => { m with names := m.names.push i }

/-- Names a member of a struct. -/
def setMemberName (id member : Word) (name : String) : Build Unit :=
  let i : Inst := .effect .memberName (id :: member :: stringWords name)
  modify fun m => { m with names := m.names.push i }

/-- Decorates an id. -/
def decorate (id : Word) (decoration : Decoration) (args : List Word) : Build Unit :=
  let i : Inst := .effect .decorate (id :: decoration.number :: args)
  modify fun m => { m with annotations := m.annotations.push i }

/-- Decorates a member of a struct. -/
def decorateMember (id member : Word) (decoration : Decoration) (args : List Word) : Build Unit :=
  let i : Inst := .effect .memberDecorate (id :: member :: decoration.number :: args)
  modify fun m => { m with annotations := m.annotations.push i }

/-- Ties a variable to one that the pipeline provides or consumes. -/
def decorateBuiltIn (id : Word) (builtIn : BuiltIn) : Build Unit :=
  decorate id .builtIn [builtIn.number]

/-- Ties a variable to a location. -/
def decorateLocation (id location : Word) : Build Unit :=
  decorate id .location [location]

/-- Ties a variable to a binding of a descriptor set. -/
def decorateBinding (id set binding : Word) : Build Unit := do
  decorate id .descriptorSet [set]
  decorate id .binding [binding]

/-! ## Types, constants and variables -/

/-- Adds a type, constant or variable under a new id. -/
def addGlobal (op : Op) (resultType? : Option Word) (operands : List Word) : Build Word := do
  let id ← newId
  modify fun m => { m with globals := m.globals.push ⟨op, resultType?, some id, operands⟩ }
  return id

/-- The id of a type or constant, which is added when it is first asked for. -/
def intern (op : Op) (resultType? : Option Word) (operands : List Word) : Build Word := do
  let wanted : Inst := ⟨op, resultType?, none, operands⟩
  match (← get).globals.find? wanted.sameExpression with
  | some ⟨_, _, some id, _⟩ => return id
  | _ => addGlobal op resultType? operands

/-- The type without values. -/
def voidType : Build Word := intern .typeVoid none []

/-- The type of truth values. -/
def boolType : Build Word := intern .typeBool none []

/-- A type of integers. -/
def intType (width : Word) (signed : Bool) : Build Word :=
  intern .typeInt none [width, if signed then 1 else 0]

/-- A type of floating-point numbers. -/
def floatType (width : Word) : Build Word := intern .typeFloat none [width]

/-- A type of vectors. -/
def vectorType (component count : Word) : Build Word := intern .typeVector none [component, count]

/-- A type of pointers. -/
def pointerType (pointee : Word) (storage : StorageClass) : Build Word :=
  intern .typePointer none [storage.number, pointee]

/-- A type of functions. -/
def functionType (result : Word) (params : List Word) : Build Word :=
  intern .typeFunction none (result :: params)

/-- A new type of arrays. -/
def newArrayType (element length : Word) : Build Word := addGlobal .typeArray none [element, length]

/-- A new type of structs. -/
def newStructType (members : List Word) : Build Word := addGlobal .typeStruct none members

/-- A type of images. `depth` and `sampled` are 0 for no, 1 for yes and 2 for unknown. -/
def imageType (sampledType : Word) (dim : Dim) (depth : Word) (arrayed multisampled : Bool)
    (sampled : Word) (format : ImageFormat) : Build Word :=
  intern .typeImage none
    [sampledType, dim.number, depth, if arrayed then 1 else 0, if multisampled then 1 else 0,
     sampled, format.number]

/-- The type of samplers. -/
def samplerType : Build Word := intern .typeSampler none []

/-- The type of an image together with a sampler. -/
def sampledImageType (image : Word) : Build Word := intern .typeSampledImage none [image]

/-- A constant of a scalar type. -/
def constant (type bits : Word) : Build Word := intern .constant (some type) [bits]

/-- A constant unsigned integer. -/
def constantU32 (value : Word) : Build Word := do constant (← intType 32 false) value

/-- A constant signed integer, given by its bits. -/
def constantI32 (bits : Word) : Build Word := do constant (← intType 32 true) bits

/-- A constant floating-point number, given by its bits. -/
def constantF32 (bits : Word) : Build Word := do constant (← floatType 32) bits

/-- A constant of a composite type. -/
def constantComposite (type : Word) (parts : List Word) : Build Word :=
  intern .constantComposite (some type) parts

/-- A new global variable. -/
def newVariable (pointerType : Word) (storage : StorageClass) : Build Word :=
  addGlobal .globalVariable (some pointerType) [storage.number]

/-! ## Functions -/

/-- Adds an instruction to the body. -/
def emit (i : Inst) : Build Unit := modify fun m => { m with body := m.body.push i }

/-- Adds an instruction without a result to the body. -/
def emitEffect (op : Op) (operands : List Word) : Build Unit := emit (.effect op operands)

/-- Adds an instruction with a new result to the body. -/
def emitValue (op : Op) (type : Word) (operands : List Word) : Build Word := do
  let id ← newId
  emit ⟨op, some type, some id, operands⟩
  return id

/-- Starts a function. -/
def beginFunction (result id type : Word) (control : FunctionControl) : Build Unit :=
  emit ⟨.function, some result, some id, [control.bits, type]⟩

/-- Ends a function. -/
def endFunction : Build Unit := emitEffect .functionEnd []

/-- Starts a block. -/
def emitLabel (id : Word) : Build Unit := emit ⟨.label, none, some id, []⟩

/-- Returns from a function without a value. -/
def emitReturn : Build Unit := emitEffect .functionReturn []

/-- Loads through a pointer. -/
def emitLoad (type pointer : Word) : Build Word := emitValue .load type [pointer]

/-- Stores through a pointer. -/
def emitStore (pointer value : Word) : Build Unit := emitEffect .store [pointer, value]

/-- Applies an extended instruction. -/
def emitGlsl (type : Word) (op : GlslOp) (args : List Word) : Build Word := do
  let set ← importGlsl
  emitValue .extInst type (set :: op.number :: args)

/-- Samples an image at a level of detail. -/
def emitSampleLod (type sampledImage coordinate lod : Word) : Build Word :=
  emitValue .imageSampleExplicitLod type [sampledImage, coordinate, ImageOperands.lod.bits, lod]

end Build

end ShaderLowering.Spirv
