import ShaderLowering.Generator.Arithmetic

/-!
# Sampling, returning, and the entry point

The operations that depend on the stage as a whole: sampling a texture, which only pixel shaders can
do with an implicit level of detail, and the beginning and end of the entry point.
-/

namespace ShaderLowering

open Spirv (Build)

/-- How many coordinates a texel of a resource has, without the layer of an array. -/
def ResourceDim.coordinates? : ResourceDim → Option Nat
  | .texture1D | .texture1DArray => some 1
  | .texture2D | .texture2DArray => some 2
  | .texture3D | .textureCube | .textureCubeArray => some 3
  | _ => none

namespace Generate

/-! ## Sampling -/

/-- Loads an image and a sampler and puts them together. -/
def loadSampled (imageType image samplerType sampler combinedType : Word) : Build Word := do
  let loadedImage ← Build.emitLoad imageType image
  let loadedSampler ← Build.emitLoad samplerType sampler
  Build.emitValue .sampledImage combinedType [loadedImage, loadedSampler]

/-- Samples at a level of detail, or with derivatives where there is none. -/
def emitSample (type combined coordinate : Word) : Option Word → Build Word
  | some lod => Build.emitSampleLod type combined coordinate lod
  | none => Build.emitValue .imageSampleImplicitLod type [combined, coordinate]

/-- The level of detail that a stage without derivatives samples at. -/
def levelOfDetail (stage : EntryStage) : Build (Option Word) :=
  match stage with
  | .pixel => return none
  | .vertex | .compute => return some (← Build.constantF32 0)

/-- Samples a texture; the layer of an array follows the coordinates of the texel. -/
def sample (texture sampler : Word) (coordinate : Value) : Generate Value := do
  let g ← get
  let some ⟨_, _, imageId, .image imageType dim sampled⟩ := g.resource? .shaderResource texture
    | fault (.undeclared ResourceClass.shaderResource.letters texture)
  let some samplerResource := g.resource? .sampler sampler
    | fault (.undeclared ResourceClass.sampler.letters sampler)
  let some coordinates := dim.coordinates? | missing (.sampling dim)
  let count := coordinates + if dim.isArray then 1 else 0
  expectFloat coordinate
  if coordinate.type.count < count then fault (.typeMismatch ⟨.float32, count⟩ coordinate.type)
  let coordinate ← extract coordinate (.firstN count)
  let samplerType ← build Build.samplerType
  let combinedType ← build (Build.sampledImageType imageType)
  let type : ValueType := ⟨sampled, 4⟩
  let typeId ← build type.build
  let lod? ← build (levelOfDetail g.stage)
  let id ← body do
    let combined ← loadSampled imageType imageId samplerType samplerResource.variableId combinedType
    emitSample typeId combined coordinate.id lod?
  return ⟨id, type⟩

/-! ## The entry point -/

/-- Returns from the shader; what follows goes into a new block. -/
def ret : Generate Unit := do
  body Build.emitReturn
  modify fun g => { g with blockOpen := false }

end Generate

namespace Generator

/-- The beginning of a module: its entry point with an open block. The result is the id of the entry
point. -/
def beginModule (options : Options) : Build Word := do
  Build.enableCapability .shader
  let void ← Build.voidType
  let functionType ← Build.functionType void []
  let entryPoint ← Build.newId
  Build.beginFunction void entryPoint functionType .none
  Build.emitLabel (← Build.newId)
  if options.debugNames then Build.setName entryPoint options.entryPoint
  return entryPoint

/-- A shader without instructions. -/
def start (stage : EntryStage) (options : Options) : Generator :=
  let (entryPoint, module) := (beginModule options).run .empty
  { stage, module, entryPoint
    entryName := options.entryPoint
    debugNames := options.debugNames
    blockOpen := true
    threadGroup? := none
    temps := #[]
    interfaces := []
    resources := [] }

/-- A shader of a pipeline stage, if shaders can be lowered for it. -/
def ofStage (stage : ShaderStage) (options : Options) : Except MissingFeature Generator :=
  match EntryStage.ofStage? stage with
  | some e => .ok (start e options)
  | none => .error (.stage stage)

/-- The end of a module: the last block is closed, and the entry point is declared. -/
def endModule (g : Generator) : Build Unit := do
  if g.blockOpen then Build.emitReturn
  Build.endFunction
  Build.addEntryPoint g.stage.executionModel g.entryPoint g.entryName g.interfaceIds
  match g.stage with
  | .vertex => return
  | .pixel => Build.setExecutionMode g.entryPoint .originUpperLeft []
  | .compute =>
    let (x, y, z) := g.threadGroup?.getD (1, 1, 1)
    Build.setExecutionMode g.entryPoint .localSize [x, y, z]

/-- The finished shader. -/
def finish (g : Generator) : Shader where
  stage := g.stage.stage
  slots := g.slots
  code := ((endModule g).run g.module).2.code

end Generator

end ShaderLowering
