import ShaderLowering.Generator.Error
import ShaderLowering.Options
import ShaderLowering.Shader
import ShaderLowering.Spirv.Module

/-!
# The state of the generator

A generator holds a module under construction, with one function whose body is being written, and
the registers that have been declared so far. It only knows the stages that have an execution model.

Operations run in `Generate`. An operation that fails keeps what it has emitted until then, as the
module only ever grows. `Generate.body` is the one way to write into the body: a `ret` closes the
current block, and the next instruction of the body opens a new one.
-/

namespace ShaderLowering

open Spirv (Build Module)

/-! ## Stages -/

/-- A stage that shaders can be lowered for. -/
inductive EntryStage where
  | vertex | pixel | compute
  deriving DecidableEq

namespace EntryStage

/-- The pipeline stage. -/
def stage : EntryStage → ShaderStage
  | vertex => .vertex
  | pixel => .pixel
  | compute => .compute

/-- The execution model of the entry point. -/
def executionModel : EntryStage → Spirv.ExecutionModel
  | vertex => .vertex
  | pixel => .fragment
  | compute => .glCompute

/-- A pipeline stage as one that shaders can be lowered for. -/
def ofStage? : ShaderStage → Option EntryStage
  | .vertex => some vertex
  | .pixel => some pixel
  | .compute => some compute
  | _ => none

/-- Exactly the stages of entry points are found. -/
theorem ofStage?_eq_some_iff {s : ShaderStage} {e : EntryStage} :
    ofStage? s = some e ↔ e.stage = s := by
  cases s <;> cases e <;> simp [ofStage?, stage]

end EntryStage

/-! ## Declared registers -/

/-- The two classes of registers that connect a shader to its neighbours. -/
inductive InterfaceClass where
  | input | output
  deriving DecidableEq

namespace InterfaceClass

/-- The storage of the registers. -/
def storage : InterfaceClass → Storage
  | input => .input
  | output => .output

/-- What the names of the registers start with. -/
def letters : InterfaceClass → String
  | input => OperandType.input.label
  | output => OperandType.output.label

/-- The class of the registers that operands of a type name. -/
def ofOperandType? : OperandType → Option InterfaceClass
  | .input => some input
  | .output => some output
  | _ => none

end InterfaceClass

/-- A declared input or output register. -/
structure InterfaceVariable where
  /-- Whether it is an input or an output register. -/
  kind : InterfaceClass
  /-- The number of the register. -/
  register : Word
  /-- The id of its variable. -/
  variableId : Word

/-- What a declared resource is. -/
inductive ResourceForm where
  /-- A constant buffer. -/
  | constantBuffer
  /-- A texture or buffer, with the id of its image type and the type of its components. -/
  | image (imageType : Word) (dim : ResourceDim) (sampled : ScalarType)
  /-- A sampler. -/
  | sampler

namespace ResourceForm

/-- The class of registers of a resource. -/
def kind : ResourceForm → ResourceClass
  | constantBuffer => .constantBuffer
  | image _ _ _ => .shaderResource
  | sampler => .sampler

/-- What stands behind the slot of a resource. -/
def resourceKind : ResourceForm → ResourceKind
  | constantBuffer => .uniformBuffer
  | image _ dim _ => if dim.isBuffer then .uniformTexelBuffer else .sampledImage
  | sampler => .sampler

end ResourceForm

/-- A declared resource. -/
structure DeclaredResource where
  /-- The number of the register. -/
  register : Word
  /-- The slot of the register. -/
  slot : Word
  /-- The id of its variable. -/
  variableId : Word
  /-- What it is. -/
  form : ResourceForm

/-! ## Generators -/

/-- A shader under construction. -/
structure Generator where
  /-- The stage. -/
  stage : EntryStage
  /-- The name of the entry point. -/
  entryName : String
  /-- Whether names are given for debuggers. -/
  debugNames : Bool
  /-- The module. -/
  module : Module
  /-- The id of the entry point. -/
  entryPoint : Word
  /-- Whether the last block of the body is still open. -/
  blockOpen : Bool
  /-- The size of the thread group, once it is declared. -/
  threadGroup? : Option (Word × Word × Word)
  /-- The ids of the variables of the temporary registers. -/
  temps : Array Word
  /-- The interface registers in the order of their declarations. -/
  interfaces : List InterfaceVariable
  /-- The resources in the order of their declarations. -/
  resources : List DeclaredResource

namespace Generator

/-- The declared resource behind a register. -/
def resource? (g : Generator) (kind : ResourceClass) (register : Word) : Option DeclaredResource :=
  g.resources.find? fun r => r.form.kind == kind && r.register == register

/-- The declared interface register of a number. -/
def interface? (g : Generator) (kind : InterfaceClass) (register : Word) :
    Option InterfaceVariable :=
  g.interfaces.find? fun v => v.kind == kind && v.register == register

/-- The declared slots in the order of their declarations. -/
def slots (g : Generator) : List ResourceSlot :=
  g.resources.map fun r => ⟨r.slot, r.form.resourceKind⟩

/-- The ids of the interface variables in the order of their declarations. -/
def interfaceIds (g : Generator) : List Word := g.interfaces.map (·.variableId)

end Generator

/-- An operation of the generator. -/
abbrev Generate := ExceptT GeneratorError (StateM Generator)

namespace Generate

/-- Fails for want of a feature. -/
def missing {α : Type} (feature : MissingFeature) : Generate α := throw (.missing feature)

/-- Fails because of a wrong use. -/
def fault {α : Type} (fault : GeneratorFault) : Generate α := throw (.fault fault)

/-- Adds to the module outside the body. -/
def build {α : Type} (b : Build α) : Generate α :=
  modifyGet fun g =>
    let r := b.run g.module
    (r.1, { g with module := r.2 })

/-- Opens a block unless one is open. -/
def openBlock : Generate Unit := do
  unless (← get).blockOpen do
    build do Build.emitLabel (← Build.newId)
    modify fun g => { g with blockOpen := true }

/-- Adds to the body. -/
def body {α : Type} (b : Build α) : Generate α := do
  openBlock
  build b

/-- Names an id, if names are wanted. -/
def name (id : Word) (text : String) : Generate Unit := do
  if (← get).debugNames then build (Build.setName id text)

/-- The slot of a register. -/
def slot (kind : ResourceClass) (register : Word) : Generate Word := do
  match slotOf? (← get).stage.stage kind register with
  | some slot => return slot
  | none => fault (.slotOutOfRange kind register)

end Generate

/-! ## Types -/

/-- The id of a scalar type. -/
def ScalarType.build : ScalarType → Build Word
  | .uint32 => Build.intType 32 false
  | .sint32 => Build.intType 32 true
  | .float32 => Build.floatType 32

/-- The id of a value type; a single component is no vector. -/
def ValueType.build (t : ValueType) : Build Word := do
  let scalar ← t.scalar.build
  if t.count = 1 then return scalar else Build.vectorType scalar (UInt32.ofNat t.count)

/-- The id of the type of pointers to values of a type. -/
def ValueType.buildPointer (t : ValueType) (storage : Storage) : Build Word := do
  Build.pointerType (← t.build) storage.spirvClass

end ShaderLowering
