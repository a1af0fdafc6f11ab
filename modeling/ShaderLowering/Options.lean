/-!
# Options

What a caller chooses about the lowering of a shader.
-/

namespace ShaderLowering

/-- The choices for one lowering. -/
structure Options where
  /-- The name of the entry point. -/
  entryPoint : String
  /-- Whether the first gap in the coverage of the instruction set is an error. -/
  strict : Bool
  /-- Whether registers and resources get names for debuggers. -/
  debugNames : Bool
  deriving DecidableEq

namespace Options

/-- The entry point `main`, gaps are recorded, names are kept. -/
def standard : Options := ⟨"main", false, true⟩

end Options

end ShaderLowering
