import ShaderLowering.Binding.Mapping
import ShaderLowering.Spirv.Code

/-!
# Shaders

A lowered shader is a stage, the slots that it declares and its code, whose binding decorations hold
slots. Before the code is handed to a backend, `Shader.remap` puts the bindings of a mapping in
their place; the shader itself never changes.
-/

namespace ShaderLowering

open Spirv (Code)

/-- The name of a stage. -/
def ShaderStage.label : ShaderStage → String
  | .pixel => "Pixel"
  | .vertex => "Vertex"
  | .geometry => "Geometry"
  | .hull => "Hull"
  | .domain => "Domain"
  | .compute => "Compute"
  | .unknown n => s!"Unknown({n})"

/-- A lowered shader. -/
structure Shader where
  /-- The pipeline stage. -/
  stage : ShaderStage
  /-- The declared slots in the order of their declarations. -/
  slots : List ResourceSlot
  /-- The code, with slots as binding numbers. -/
  code : Code
  deriving DecidableEq

/-- Why a backend has no module for a shader. -/
inductive ShaderModuleError where
  /-- The slots do not fit the mapping. -/
  | slotMapping (error : SlotMappingError)
  /-- The backend has no such stage. -/
  | unsupportedStage (stage : ShaderStage)
  /-- The backend refuses the code. -/
  | backend (reason : String)

namespace ShaderModuleError

/-- The error in words. -/
def message : ShaderModuleError → String
  | slotMapping error => error.message
  | unsupportedStage stage => s!"shader stage {stage.label} cannot be compiled by this backend"
  | backend reason => s!"backend rejected shader module: {reason}"

end ShaderModuleError

/-- What a backend makes of a shader. -/
structure ShaderModule (M : Type) where
  /-- The stage of the shader. -/
  stage : ShaderStage
  /-- What the backend made. -/
  module : M

namespace Shader

/-- Defines the slots of a shader for its stage. -/
def defineSlots (s : Shader) (m : SlotMapping) : SlotMapping × Option SlotMappingError :=
  m.defineAll (.single s.stage) s.slots

/-- The binding that takes the place of a slot. -/
def bindingFor (m : SlotMapping) (slot : Word) : Word :=
  match m.binding? slot with
  | some binding => UInt32.ofNat binding
  | none => slot

/-- The code with the bindings of a mapping in place of the slots. -/
def remap (s : Shader) (m : SlotMapping) : Except SlotMappingError Code :=
  match s.code.bindings.find? fun slot => (m.binding? slot).isNone with
  | some slot => .error (.unmapped slot)
  | none => .ok (s.code.mapBindings (bindingFor m))

/-- Hands the remapped code to a backend. -/
def createModule {M : Type} (s : Shader) (m : SlotMapping)
    (backend : ShaderStage → Code → Except ShaderModuleError M) :
    Except ShaderModuleError (ShaderModule M) :=
  match s.remap m with
  | .error e => .error (.slotMapping e)
  | .ok code =>
    match backend s.stage code with
    | .error e => .error e
    | .ok module => .ok ⟨s.stage, module⟩

end Shader

end ShaderLowering
