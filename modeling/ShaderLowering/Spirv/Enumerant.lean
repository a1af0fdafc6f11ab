import ShaderLowering.Word

/-!
# Enumerants

Operands of SPIR-V instructions that are numbers out of an open enumeration. Each enumeration is a
type of its own around the number, with names for the values that a lowered shader uses.
-/

namespace ShaderLowering.Spirv

/-- A feature that a module needs. -/
structure Capability where
  /-- The number. -/
  number : Word
  deriving DecidableEq

namespace Capability

def shader : Capability := ⟨1⟩
def sampleRateShading : Capability := ⟨35⟩
def sampled1D : Capability := ⟨43⟩
def sampledCubeArray : Capability := ⟨45⟩
def sampledBuffer : Capability := ⟨46⟩

end Capability

/-- How memory is addressed. -/
structure AddressingModel where
  /-- The number. -/
  number : Word

namespace AddressingModel

def logical : AddressingModel := ⟨0⟩

end AddressingModel

/-- How memory accesses are ordered. -/
structure MemoryModel where
  /-- The number. -/
  number : Word

namespace MemoryModel

def glsl450 : MemoryModel := ⟨1⟩

end MemoryModel

/-- The pipeline stage of an entry point. -/
structure ExecutionModel where
  /-- The number. -/
  number : Word

namespace ExecutionModel

def vertex : ExecutionModel := ⟨0⟩
def fragment : ExecutionModel := ⟨4⟩
def glCompute : ExecutionModel := ⟨5⟩

end ExecutionModel

/-- A mode that an entry point runs in. -/
structure ExecutionMode where
  /-- The number. -/
  number : Word

namespace ExecutionMode

def originUpperLeft : ExecutionMode := ⟨7⟩
def localSize : ExecutionMode := ⟨17⟩

end ExecutionMode

/-- What a decoration says about an id. -/
structure Decoration where
  /-- The number. -/
  number : Word

namespace Decoration

def block : Decoration := ⟨2⟩
def arrayStride : Decoration := ⟨6⟩
def builtIn : Decoration := ⟨11⟩
def noPerspective : Decoration := ⟨13⟩
def flat : Decoration := ⟨14⟩
def centroid : Decoration := ⟨16⟩
def sample : Decoration := ⟨17⟩
def location : Decoration := ⟨30⟩
def binding : Decoration := ⟨33⟩
def descriptorSet : Decoration := ⟨34⟩
def offset : Decoration := ⟨35⟩

end Decoration

/-- A variable that the pipeline itself provides or consumes. -/
structure BuiltIn where
  /-- The number. -/
  number : Word

namespace BuiltIn

def position : BuiltIn := ⟨0⟩
def fragCoord : BuiltIn := ⟨15⟩

end BuiltIn

/-- Where a variable lives. -/
structure StorageClass where
  /-- The number. -/
  number : Word
  deriving DecidableEq

namespace StorageClass

def uniformConstant : StorageClass := ⟨0⟩
def input : StorageClass := ⟨1⟩
def uniform : StorageClass := ⟨2⟩
def output : StorageClass := ⟨3⟩
def privateClass : StorageClass := ⟨6⟩

end StorageClass

/-- The shape of an image. -/
structure Dim where
  /-- The number. -/
  number : Word
  deriving DecidableEq

namespace Dim

def dim1D : Dim := ⟨0⟩
def dim2D : Dim := ⟨1⟩
def dim3D : Dim := ⟨2⟩
def cube : Dim := ⟨3⟩
def buffer : Dim := ⟨5⟩

end Dim

/-- The format of the texels of an image. -/
structure ImageFormat where
  /-- The number. -/
  number : Word

namespace ImageFormat

def unknown : ImageFormat := ⟨0⟩

end ImageFormat

/-- The hints of a function. -/
structure FunctionControl where
  /-- The bits. -/
  bits : Word

namespace FunctionControl

def none : FunctionControl := ⟨0⟩

end FunctionControl

/-- The operands that may follow the coordinate of an image access. -/
structure ImageOperands where
  /-- The bits. -/
  bits : Word

namespace ImageOperands

def lod : ImageOperands := ⟨2⟩

end ImageOperands

/-- An instruction of the extended set `GLSL.std.450`. -/
structure GlslOp where
  /-- The number. -/
  number : Word

namespace GlslOp

def fAbs : GlslOp := ⟨4⟩
def sAbs : GlslOp := ⟨5⟩
def inverseSqrt : GlslOp := ⟨32⟩
def fClamp : GlslOp := ⟨43⟩

end GlslOp

end ShaderLowering.Spirv
