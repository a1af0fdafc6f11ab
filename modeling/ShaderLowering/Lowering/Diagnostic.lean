import ShaderLowering.Generator.Error

/-!
# Diagnostics

A gap is something in an instruction that the lowering leaves out or approximates. The rest of the
shader is still lowered; the gaps are recorded with the instructions that they were met in.
-/

namespace ShaderLowering

/-- What was left out or approximated. -/
inductive Gap where
  /-- The instruction was skipped because nothing is known about its opcode. -/
  | unhandledOpcode
  /-- The instruction was skipped for want of a feature. -/
  | missing (feature : MissingFeature)
  /-- A resource has several return types, of which the first was used. -/
  | mixedReturnTypes (register : Word) (types : List ResourceReturnType)
  /-- A register was declared without its system value. -/
  | unsupportedSystemValue (type : OperandType) (register : Word) (systemValue : SystemValue)
  /-- Texel offsets were left out. -/
  | ignoredOffsets (offsets : List Int)
  deriving DecidableEq

namespace Gap

/-- The gap in words. -/
def text : Gap → String
  | unhandledOpcode => "unhandled opcode"
  | missing f => f.message
  | mixedReturnTypes register types =>
    let labels := types.map ResourceReturnType.label
    let listed := ", ".intercalate labels
    let used := labels.headD ""
    s!"t{register.toNat} has mixed return types ({listed}); using {used}"
  | unsupportedSystemValue type register v =>
    s!"system value {v.label} on {type.label}{register.toNat} is not supported"
  | ignoredOffsets offsets =>
    let listed := ", ".intercalate (offsets.map toString)
    s!"texel offsets ({listed}) ignored"

end Gap

/-- A gap with the instruction that it was met in. -/
structure Diagnostic where
  /-- The position of the instruction. -/
  position : Nat
  /-- The opcode of the instruction. -/
  opcode : Opcode
  /-- What was left out or approximated. -/
  gap : Gap
  deriving DecidableEq

namespace Diagnostic

/-- The diagnostic in words. -/
def text (d : Diagnostic) : String :=
  s!"{d.opcode.label} at dword {d.position}: {d.gap.text}"

end Diagnostic

end ShaderLowering
