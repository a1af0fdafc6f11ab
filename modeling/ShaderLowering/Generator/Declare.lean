import ShaderLowering.Generator.State

/-!
# Declarations

Every declared register becomes a variable of the module. A register that is declared again keeps
its first variable, whatever the second declaration says. Temporary, input and output registers hold
four floating-point components; constant buffers are arrays of such vectors; textures, buffers and
samplers are opaque. Resources are bound in descriptor set 0, with their slot as the binding.
-/

namespace ShaderLowering

open Spirv (Build)

/-- What an interface declaration says. -/
structure InterfaceDeclaration where
  /-- The operand type of the register. -/
  type : OperandType
  /-- The number of the register. -/
  register : Word
  /-- The first of two indices. -/
  region? : Option Word
  /-- The declared components. -/
  mask : ComponentMask
  /-- The value that the pipeline provides or consumes. -/
  systemValue : SystemValue
  /-- How a value is interpolated between vertices. -/
  interpolation : InterpolationMode

/-- The built-in variable for a system value of a register. -/
def EntryStage.builtIn? : EntryStage → OperandType → SystemValue → Option Spirv.BuiltIn
  | .vertex, .output, .position => some .position
  | .pixel, .input, .position => some .fragCoord
  | _, _, _ => none

/-- The decorations of an interpolation mode. -/
def InterpolationMode.decorations : InterpolationMode → List Spirv.Decoration
  | .undefined | .linear => []
  | .constant => [.flat]
  | .linearCentroid => [.centroid]
  | .linearNoPerspective => [.noPerspective]
  | .linearNoPerspectiveCentroid => [.noPerspective, .centroid]
  | .linearSample => [.sample]
  | .linearNoPerspectiveSample => [.noPerspective, .sample]

/-- Whether an interpolation mode evaluates inputs for every sample. -/
def InterpolationMode.perSample : InterpolationMode → Bool
  | .linearSample | .linearNoPerspectiveSample => true
  | _ => false

/-- The type of the components that a return type stands for. -/
def ResourceReturnType.sampled? : ResourceReturnType → Option ScalarType
  | .float | .unorm | .snorm => some .float32
  | .sint => some .sint32
  | .uint => some .uint32
  | _ => none

/-- The image dimension of a resource, and the feature that it needs. -/
def ResourceDim.image? : ResourceDim → Option (Spirv.Dim × Option Spirv.Capability)
  | .buffer => some (.buffer, some .sampledBuffer)
  | .texture1D | .texture1DArray => some (.dim1D, some .sampled1D)
  | .texture2D | .texture2DArray | .texture2DMs | .texture2DMsArray => some (.dim2D, none)
  | .texture3D => some (.dim3D, none)
  | .textureCube => some (.cube, none)
  | .textureCubeArray => some (.cube, some .sampledCubeArray)
  | .unknown | .rawBuffer | .structuredBuffer => none

namespace Generate

/-! ## Temporary registers -/

/-- Declares as many more temporary registers as given, named from `first` on. -/
def addTemps (pointerType : Word) (first : Nat) : Nat → Generate Unit
  | 0 => return
  | more + 1 => do
    let id ← build (Build.newVariable pointerType Storage.temporary.spirvClass)
    name id s!"r{first}"
    modify fun g => { g with temps := g.temps.push id }
    addTemps pointerType (first + 1) more

/-- Declares the temporary registers below `count`. -/
def declareTemps (count : Nat) : Generate Unit := do
  let pointerType ← build (ValueType.floatVector.buildPointer .temporary)
  let declared := (← get).temps.size
  addTemps pointerType declared (count - declared)

/-! ## Resources -/

/-- Binds a variable to a slot and records the resource. -/
def addResource (register slot variableId : Word) (form : ResourceForm) : Generate Unit := do
  build (Build.decorateBinding variableId 0 slot)
  modify fun g => { g with resources := g.resources ++ [⟨register, slot, variableId, form⟩] }

/-- The type of a constant buffer: a struct of one array, whose elements follow each other every
16 bytes. -/
def buildBlock (length : Word) : Build Word := do
  let element ← ValueType.floatVector.build
  let array ← Build.newArrayType element (← Build.constantU32 length)
  Build.decorate array .arrayStride [16]
  let block ← Build.newStructType [array]
  Build.decorate block .block []
  Build.decorateMember block 0 .offset [0]
  return block

/-- Declares a constant buffer of `size` elements, of which there is at least one. -/
def declareConstantBuffer (register size : Word) : Generate Unit := do
  let slot ← slot .constantBuffer register
  if ((← get).resource? .constantBuffer register).isSome then return
  let block ← build (buildBlock (max size 1))
  let pointerType ← build (Build.pointerType block Storage.uniform.spirvClass)
  let id ← build (Build.newVariable pointerType Storage.uniform.spirvClass)
  addResource register slot id .constantBuffer
  name block s!"cb{register.toNat}_t"
  if (← get).debugNames then build (Build.setMemberName block 0 "data")
  name id s!"cb{register.toNat}"

/-- Declares a texture or buffer. -/
def declareResource (register : Word) (dim : ResourceDim) (returnType : ResourceReturnType) :
    Generate Unit := do
  let slot ← slot .shaderResource register
  let some sampled := returnType.sampled? | missing (.returnType returnType)
  let some (imageDim, capability?) := dim.image? | missing (.resource dim)
  if ((← get).resource? .shaderResource register).isSome then return
  if let some capability := capability? then build (Build.enableCapability capability)
  let sampledType ← build sampled.build
  let imageType ← build
    (Build.imageType sampledType imageDim 0 dim.isArray dim.isMultisampled 1 .unknown)
  let pointerType ← build (Build.pointerType imageType Storage.uniformConstant.spirvClass)
  let id ← build (Build.newVariable pointerType Storage.uniformConstant.spirvClass)
  addResource register slot id (.image imageType dim sampled)
  name id s!"t{register.toNat}"

/-- Declares a sampler. All modes of samplers are declared alike. -/
def declareSampler (register : Word) (_mode : SamplerMode) : Generate Unit := do
  let slot ← slot .sampler register
  if ((← get).resource? .sampler register).isSome then return
  let pointerType ← build do
    Build.pointerType (← Build.samplerType) Storage.uniformConstant.spirvClass
  let id ← build (Build.newVariable pointerType Storage.uniformConstant.spirvClass)
  addResource register slot id .sampler
  name id s!"s{register.toNat}"

/-! ## Interface registers -/

/-- Decorates a pixel input with its interpolation mode. -/
def decorateInterpolation (id : Word) (mode : InterpolationMode) : Build Unit := do
  if mode.perSample then Build.enableCapability .sampleRateShading
  mode.decorations.forM fun decoration => Build.decorate id decoration []

/-- Declares an input or output register. -/
def declareInterface (d : InterfaceDeclaration) : Generate Unit := do
  if let some region := d.region? then
    missing (.twoDimensional d.type region d.register)
  let some kind := InterfaceClass.ofOperandType? d.type | missing (.interfaceType d.type)
  let g ← get
  if (g.interface? kind d.register).isSome then return
  let pointerType ← build (ValueType.floatVector.buildPointer kind.storage)
  let id ← build (Build.newVariable pointerType kind.storage.spirvClass)
  match g.stage.builtIn? d.type d.systemValue with
  | some builtIn => build (Build.decorateBuiltIn id builtIn)
  | none =>
    build (Build.decorateLocation id d.register)
    if kind = .input ∧ g.stage = .pixel then build (decorateInterpolation id d.interpolation)
  name id s!"{kind.letters}{d.register.toNat}"
  modify fun g => { g with interfaces := g.interfaces ++ [⟨kind, d.register, id⟩] }

/-- Declares the size of a thread group; the last declaration counts. -/
def declareThreadGroup (x y z : Word) : Generate Unit := do
  if (← get).stage ≠ .compute then missing .threadGroup
  modify fun g => { g with threadGroup? := some (x, y, z) }

end Generate

/-- Whether a system value of a register can be expressed. -/
def Generator.supports (g : Generator) (type : OperandType) (v : SystemValue) : Bool :=
  v == .undefined || (g.stage.builtIn? type v).isSome

end ShaderLowering
