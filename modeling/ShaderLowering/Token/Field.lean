import ShaderLowering.Token.Numbered

/-!
# Enumerated fields of operands and declarations

The closed enumerations that operand tokens and declaration tokens number: operand types, index
representations, resource dimensions and return types, system values, interpolation modes and
sampler modes. Each comes with its numbers and its labels.
-/

namespace ShaderLowering

/-! ## Operand types -/

/-- The register file or other kind of an operand. -/
inductive OperandType where
  | temp | input | output | indexableTemp | imm32 | imm64 | sampler | resource | constantBuffer
  | immediateConstantBuffer | subroutineLabel | inputPrimitiveId | outputDepth | null | rasterizer
  | outputCoverageMask | stream | functionBody | functionTable | interface | functionInput
  | functionOutput | outputControlPointId | inputForkInstanceId | inputJoinInstanceId
  | inputControlPoint | outputControlPoint | inputPatchConstant | inputDomainPoint | thisPointer
  | unorderedAccessView | threadGroupSharedMemory | inputThreadId | inputThreadGroupId
  | inputThreadIdInGroup | inputCoverageMask | inputThreadIdInGroupFlattened | inputGsInstanceId
  | outputDepthGreaterEqual | outputDepthLessEqual | cycleCounter
  deriving DecidableEq

namespace OperandType

/-- The number of a value in its token field. -/
def raw : OperandType → Nat
  | .temp => 0 | .input => 1 | .output => 2 | .indexableTemp => 3 | .imm32 => 4 | .imm64 => 5
  | .sampler => 6 | .resource => 7 | .constantBuffer => 8 | .immediateConstantBuffer => 9
  | .subroutineLabel => 10 | .inputPrimitiveId => 11 | .outputDepth => 12 | .null => 13
  | .rasterizer => 14 | .outputCoverageMask => 15 | .stream => 16 | .functionBody => 17
  | .functionTable => 18 | .interface => 19 | .functionInput => 20 | .functionOutput => 21
  | .outputControlPointId => 22 | .inputForkInstanceId => 23 | .inputJoinInstanceId => 24
  | .inputControlPoint => 25 | .outputControlPoint => 26 | .inputPatchConstant => 27
  | .inputDomainPoint => 28 | .thisPointer => 29 | .unorderedAccessView => 30
  | .threadGroupSharedMemory => 31 | .inputThreadId => 32 | .inputThreadGroupId => 33
  | .inputThreadIdInGroup => 34 | .inputCoverageMask => 35 | .inputThreadIdInGroupFlattened => 36
  | .inputGsInstanceId => 37 | .outputDepthGreaterEqual => 38 | .outputDepthLessEqual => 39
  | .cycleCounter => 40

/-- The register prefix in assembly text. -/
def label : OperandType → String
  | .temp => "r" | .input => "v" | .output => "o" | .indexableTemp => "x" | .imm32 => "l"
  | .imm64 => "d" | .sampler => "s" | .resource => "t" | .constantBuffer => "cb"
  | .immediateConstantBuffer => "icb" | .subroutineLabel => "label" | .inputPrimitiveId => "vPrim"
  | .outputDepth => "oDepth" | .null => "null" | .rasterizer => "rasterizer"
  | .outputCoverageMask => "oMask" | .stream => "m" | .functionBody => "fb"
  | .functionTable => "ft" | .interface => "fp" | .functionInput => "fi" | .functionOutput => "fo"
  | .outputControlPointId => "vOutputControlPointID" | .inputForkInstanceId => "vForkInstanceID"
  | .inputJoinInstanceId => "vJoinInstanceID" | .inputControlPoint => "vicp"
  | .outputControlPoint => "vocp" | .inputPatchConstant => "vpc" | .inputDomainPoint => "vDomain"
  | .thisPointer => "this" | .unorderedAccessView => "u" | .threadGroupSharedMemory => "g"
  | .inputThreadId => "vThreadID" | .inputThreadGroupId => "vThreadGroupID"
  | .inputThreadIdInGroup => "vThreadIDInGroup" | .inputCoverageMask => "vCoverage"
  | .inputThreadIdInGroupFlattened => "vThreadIDInGroupFlattened"
  | .inputGsInstanceId => "vGSInstanceID" | .outputDepthGreaterEqual => "oDepthGE"
  | .outputDepthLessEqual => "oDepthLE" | .cycleCounter => "vCycleCounter"

/-- Every value, in the order of the numbers. -/
def all : List OperandType :=
  [.temp, .input, .output, .indexableTemp, .imm32, .imm64, .sampler, .resource, .constantBuffer,
   .immediateConstantBuffer, .subroutineLabel, .inputPrimitiveId, .outputDepth, .null, .rasterizer,
   .outputCoverageMask, .stream, .functionBody, .functionTable, .interface, .functionInput,
   .functionOutput, .outputControlPointId, .inputForkInstanceId, .inputJoinInstanceId,
   .inputControlPoint, .outputControlPoint, .inputPatchConstant, .inputDomainPoint, .thisPointer,
   .unorderedAccessView, .threadGroupSharedMemory, .inputThreadId, .inputThreadGroupId,
   .inputThreadIdInGroup, .inputCoverageMask, .inputThreadIdInGroupFlattened, .inputGsInstanceId,
   .outputDepthGreaterEqual, .outputDepthLessEqual, .cycleCounter]

instance : Numbered OperandType where
  what := "operand type"
  all := all
  raw := raw
  label := label

end OperandType

instance : LawfulNumbered OperandType where
  find_raw a := by cases a <;> rfl

/-! ## Index representations -/

/-- How one index of an operand is encoded. -/
inductive IndexRepresentation where
  | imm32 | imm64 | relative | imm32Relative | imm64Relative
  deriving DecidableEq

namespace IndexRepresentation

/-- The number of a value in its token field. -/
def raw : IndexRepresentation → Nat
  | .imm32 => 0 | .imm64 => 1 | .relative => 2 | .imm32Relative => 3 | .imm64Relative => 4

/-- The name of a value in assembly text. -/
def label : IndexRepresentation → String
  | .imm32 => "imm32" | .imm64 => "imm64" | .relative => "relative"
  | .imm32Relative => "imm32+relative" | .imm64Relative => "imm64+relative"

/-- Every value, in the order of the numbers. -/
def all : List IndexRepresentation :=
  [.imm32, .imm64, .relative, .imm32Relative, .imm64Relative]

instance : Numbered IndexRepresentation where
  what := "index representation"
  all := all
  raw := raw
  label := label

/-- Whether the index has an immediate part. -/
def hasImmediate : IndexRepresentation → Bool
  | .relative => false
  | _ => true

/-- Whether the index has a relative part, the value of a register. -/
def hasRelative : IndexRepresentation → Bool
  | .relative | .imm32Relative | .imm64Relative => true
  | _ => false

/-- The words that the immediate part takes. -/
def immediateWords : IndexRepresentation → Nat
  | .imm32 | .imm32Relative => 1
  | .imm64 | .imm64Relative => 2
  | .relative => 0

end IndexRepresentation

instance : LawfulNumbered IndexRepresentation where
  find_raw a := by cases a <;> rfl

/-! ## Resource dimensions -/

/-- The shape of a declared resource. -/
inductive ResourceDim where
  | unknown | buffer | texture1D | texture2D | texture2DMs | texture3D | textureCube
  | texture1DArray | texture2DArray | texture2DMsArray | textureCubeArray | rawBuffer
  | structuredBuffer
  deriving DecidableEq

namespace ResourceDim

/-- The number of a value in its token field. -/
def raw : ResourceDim → Nat
  | .unknown => 0 | .buffer => 1 | .texture1D => 2 | .texture2D => 3 | .texture2DMs => 4
  | .texture3D => 5 | .textureCube => 6 | .texture1DArray => 7 | .texture2DArray => 8
  | .texture2DMsArray => 9 | .textureCubeArray => 10 | .rawBuffer => 11 | .structuredBuffer => 12

/-- The name of a value in assembly text. -/
def label : ResourceDim → String
  | .unknown => "unknown" | .buffer => "buffer" | .texture1D => "texture1d"
  | .texture2D => "texture2d" | .texture2DMs => "texture2dms" | .texture3D => "texture3d"
  | .textureCube => "texturecube" | .texture1DArray => "texture1darray"
  | .texture2DArray => "texture2darray" | .texture2DMsArray => "texture2dmsarray"
  | .textureCubeArray => "texturecubearray" | .rawBuffer => "raw_buffer"
  | .structuredBuffer => "structured_buffer"

/-- Every value, in the order of the numbers. -/
def all : List ResourceDim :=
  [.unknown, .buffer, .texture1D, .texture2D, .texture2DMs, .texture3D, .textureCube,
   .texture1DArray, .texture2DArray, .texture2DMsArray, .textureCubeArray, .rawBuffer,
   .structuredBuffer]

instance : Numbered ResourceDim where
  what := "resource dimension"
  all := all
  raw := raw
  label := label

/-- Whether the resource is one of the buffers. -/
def isBuffer : ResourceDim → Bool
  | .buffer | .rawBuffer | .structuredBuffer => true
  | _ => false

/-- Whether the resource keeps several samples a texel. -/
def isMultisampled : ResourceDim → Bool
  | .texture2DMs | .texture2DMsArray => true
  | _ => false

/-- Whether the resource has layers that a coordinate selects. -/
def isArray : ResourceDim → Bool
  | .texture1DArray | .texture2DArray | .texture2DMsArray | .textureCubeArray => true
  | _ => false

end ResourceDim

/-! ## Resource return types -/

/-- What reading one component of a declared resource gives. -/
inductive ResourceReturnType where
  | unorm | snorm | sint | uint | float | mixed | double | continued | unused
  deriving DecidableEq

namespace ResourceReturnType

/-- The number of a value in its token field. -/
def raw : ResourceReturnType → Nat
  | .unorm => 1 | .snorm => 2 | .sint => 3 | .uint => 4 | .float => 5 | .mixed => 6 | .double => 7
  | .continued => 8 | .unused => 9

/-- The name of a value in assembly text. -/
def label : ResourceReturnType → String
  | .unorm => "unorm" | .snorm => "snorm" | .sint => "sint" | .uint => "uint" | .float => "float"
  | .mixed => "mixed" | .double => "double" | .continued => "continued" | .unused => "unused"

/-- Every value, in the order of the numbers. -/
def all : List ResourceReturnType :=
  [.unorm, .snorm, .sint, .uint, .float, .mixed, .double, .continued, .unused]

instance : Numbered ResourceReturnType where
  what := "resource return type"
  all := all
  raw := raw
  label := label

end ResourceReturnType

/-! ## System values -/

/-- The meaning that the pipeline gives to an interface register. -/
inductive SystemValue where
  | undefined | position | clipDistance | cullDistance | renderTargetArrayIndex
  | viewportArrayIndex | vertexId | primitiveId | instanceId | isFrontFace | sampleIndex
  | finalQuadUEq0EdgeTessFactor | finalQuadVEq0EdgeTessFactor | finalQuadUEq1EdgeTessFactor
  | finalQuadVEq1EdgeTessFactor | finalQuadUInsideTessFactor | finalQuadVInsideTessFactor
  | finalTriUEq0EdgeTessFactor | finalTriVEq0EdgeTessFactor | finalTriWEq0EdgeTessFactor
  | finalTriInsideTessFactor | finalLineDetailTessFactor | finalLineDensityTessFactor
  deriving DecidableEq

namespace SystemValue

/-- The number of a value in its token field. -/
def raw : SystemValue → Nat
  | .undefined => 0 | .position => 1 | .clipDistance => 2 | .cullDistance => 3
  | .renderTargetArrayIndex => 4 | .viewportArrayIndex => 5 | .vertexId => 6 | .primitiveId => 7
  | .instanceId => 8 | .isFrontFace => 9 | .sampleIndex => 10 | .finalQuadUEq0EdgeTessFactor => 11
  | .finalQuadVEq0EdgeTessFactor => 12 | .finalQuadUEq1EdgeTessFactor => 13
  | .finalQuadVEq1EdgeTessFactor => 14 | .finalQuadUInsideTessFactor => 15
  | .finalQuadVInsideTessFactor => 16 | .finalTriUEq0EdgeTessFactor => 17
  | .finalTriVEq0EdgeTessFactor => 18 | .finalTriWEq0EdgeTessFactor => 19
  | .finalTriInsideTessFactor => 20 | .finalLineDetailTessFactor => 21
  | .finalLineDensityTessFactor => 22

/-- The name of a value in assembly text. -/
def label : SystemValue → String
  | .undefined => "undefined" | .position => "position" | .clipDistance => "clip_distance"
  | .cullDistance => "cull_distance" | .renderTargetArrayIndex => "rendertarget_array_index"
  | .viewportArrayIndex => "viewport_array_index" | .vertexId => "vertex_id"
  | .primitiveId => "primitive_id" | .instanceId => "instance_id"
  | .isFrontFace => "is_front_face" | .sampleIndex => "sampleIndex"
  | .finalQuadUEq0EdgeTessFactor => "finalQuadUeq0EdgeTessFactor"
  | .finalQuadVEq0EdgeTessFactor => "finalQuadVeq0EdgeTessFactor"
  | .finalQuadUEq1EdgeTessFactor => "finalQuadUeq1EdgeTessFactor"
  | .finalQuadVEq1EdgeTessFactor => "finalQuadVeq1EdgeTessFactor"
  | .finalQuadUInsideTessFactor => "finalQuadUInsideTessFactor"
  | .finalQuadVInsideTessFactor => "finalQuadVInsideTessFactor"
  | .finalTriUEq0EdgeTessFactor => "finalTriUeq0EdgeTessFactor"
  | .finalTriVEq0EdgeTessFactor => "finalTriVeq0EdgeTessFactor"
  | .finalTriWEq0EdgeTessFactor => "finalTriWeq0EdgeTessFactor"
  | .finalTriInsideTessFactor => "finalTriInsideTessFactor"
  | .finalLineDetailTessFactor => "finalLineDetailTessFactor"
  | .finalLineDensityTessFactor => "finalLineDensityTessFactor"

/-- Every value, in the order of the numbers. -/
def all : List SystemValue :=
  [.undefined, .position, .clipDistance, .cullDistance, .renderTargetArrayIndex,
   .viewportArrayIndex, .vertexId, .primitiveId, .instanceId, .isFrontFace, .sampleIndex,
   .finalQuadUEq0EdgeTessFactor, .finalQuadVEq0EdgeTessFactor, .finalQuadUEq1EdgeTessFactor,
   .finalQuadVEq1EdgeTessFactor, .finalQuadUInsideTessFactor, .finalQuadVInsideTessFactor,
   .finalTriUEq0EdgeTessFactor, .finalTriVEq0EdgeTessFactor, .finalTriWEq0EdgeTessFactor,
   .finalTriInsideTessFactor, .finalLineDetailTessFactor, .finalLineDensityTessFactor]

instance : Numbered SystemValue where
  what := "system value"
  all := all
  raw := raw
  label := label

end SystemValue

/-! ## Interpolation modes -/

/-- How a pixel shader input is interpolated. -/
inductive InterpolationMode where
  | undefined | constant | linear | linearCentroid | linearNoPerspective
  | linearNoPerspectiveCentroid | linearSample | linearNoPerspectiveSample
  deriving DecidableEq

namespace InterpolationMode

/-- The number of a value in its token field. -/
def raw : InterpolationMode → Nat
  | .undefined => 0 | .constant => 1 | .linear => 2 | .linearCentroid => 3
  | .linearNoPerspective => 4 | .linearNoPerspectiveCentroid => 5 | .linearSample => 6
  | .linearNoPerspectiveSample => 7

/-- The name of a value in assembly text. -/
def label : InterpolationMode → String
  | .undefined => "undefined" | .constant => "constant" | .linear => "linear"
  | .linearCentroid => "linear centroid" | .linearNoPerspective => "linear noperspective"
  | .linearNoPerspectiveCentroid => "linear noperspective centroid"
  | .linearSample => "linear sample" | .linearNoPerspectiveSample => "linear noperspective sample"

/-- Every value, in the order of the numbers. -/
def all : List InterpolationMode :=
  [.undefined, .constant, .linear, .linearCentroid, .linearNoPerspective,
   .linearNoPerspectiveCentroid, .linearSample, .linearNoPerspectiveSample]

instance : Numbered InterpolationMode where
  what := "interpolation mode"
  all := all
  raw := raw
  label := label

end InterpolationMode

/-! ## Sampler modes -/

/-- What a declared sampler is used for. -/
inductive SamplerMode where
  | default | comparison | mono
  deriving DecidableEq

namespace SamplerMode

/-- The number of a value in its token field. -/
def raw : SamplerMode → Nat
  | .default => 0 | .comparison => 1 | .mono => 2

/-- The name of a value in assembly text. -/
def label : SamplerMode → String
  | .default => "mode_default" | .comparison => "mode_comparison" | .mono => "mode_mono"

/-- Every value, in the order of the numbers. -/
def all : List SamplerMode :=
  [.default, .comparison, .mono]

instance : Numbered SamplerMode where
  what := "sampler mode"
  all := all
  raw := raw
  label := label

end SamplerMode

end ShaderLowering
