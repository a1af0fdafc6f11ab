import ShaderLowering.Lowering.Computation
import ShaderLowering.Lowering.Declaration

/-!
# Lowering programs

Instructions are lowered one after the other. A fault ends the lowering. Gaps are recorded, or, if
the options are strict, the first one ends the lowering as well; a fault hides the gaps of its own
instruction. Strictness has no other effect, so the handlers of instructions do not know of it.
-/

namespace ShaderLowering

/-! ## One instruction -/

/-- The handler of an instruction. -/
def Lower.instruction (i : Instruction) : Lower Unit :=
  match i.opcode with
  | .dclGlobalflags | .nop | .customdata => return
  | .dclConstantbuffer => Lower.declareConstantBuffer i
  | .dclResource => Lower.declareResource i
  | .dclSampler => Lower.declareSampler i
  | .dclInput | .dclInputSgv | .dclInputSiv | .dclInputPs | .dclInputPsSgv | .dclInputPsSiv
  | .dclOutput | .dclOutputSgv | .dclOutputSiv => Lower.declareInterface i
  | .dclTemps => Lower.declareTemps i
  | .dclThreadGroup => Lower.declareThreadGroup i
  | .add => Lower.binary i Generate.add
  | .mul => Lower.binary i Generate.mul
  | .mad => Lower.multiplyAdd i
  | .mov => Lower.unary i pure
  | .dp2 => Lower.dot i 2
  | .dp3 => Lower.dot i 3
  | .dp4 => Lower.dot i 4
  | .rsq => Lower.unary i Generate.inverseSqrt
  | .ret => Lower.generate Generate.ret
  | .sample => Lower.sample i
  | _ => Lower.gap .unhandledOpcode

/-- What handling an instruction comes to. -/
structure Handled where
  /-- The generator behind the instruction. -/
  generator : Generator
  /-- The gaps that were met, or the fault. -/
  outcome : Except CompileFault (List Gap)

/-- Handles an instruction. A missing feature is the last gap of the instruction. -/
def Generator.handle (g : Generator) (i : Instruction) : Handled :=
  let (result, s) := (Lower.instruction i).run ⟨g, []⟩
  { generator := s.generator
    outcome := match result with
      | .ok () => .ok s.gaps
      | .error (.missing feature) => .ok (s.gaps ++ [.missing feature])
      | .error (.fault f) => .error f }

/-! ## Many instructions -/

/-- A lowering under way. -/
structure Lowering where
  /-- Whether the first gap is an error. -/
  strict : Bool
  /-- The shader under construction. -/
  generator : Generator
  /-- The diagnostics so far. -/
  diagnostics : List Diagnostic

namespace Lowering

/-- A lowering without instructions. -/
def start (g : Generator) (options : Options) : Lowering := ⟨options.strict, g, []⟩

/-- Lowers one instruction. A failure leaves what was emitted until then in the generator, and the
diagnostics as they were. -/
def process (l : Lowering) (i : Instruction) : Except CompileError Unit × Lowering :=
  let handled := l.generator.handle i
  let next := { l with generator := handled.generator }
  match handled.outcome with
  | .error f => (.error ⟨i.position, some i.opcode, f⟩, next)
  | .ok gaps =>
    let new := gaps.map (Diagnostic.mk i.position i.opcode)
    match l.strict, new with
    | true, d :: _ => (.error ⟨i.position, some i.opcode, .coverageGap d⟩, next)
    | _, _ => (.ok (), { next with diagnostics := l.diagnostics ++ new })

/-- Lowers what a reader yields. -/
def processAll (l : Lowering) : List (Except DecodeError Instruction) → Except CompileError Lowering
  | [] => .ok l
  | .error e :: _ => .error (.ofDecode e)
  | .ok i :: items =>
    match l.process i with
    | (.ok (), l') => l'.processAll items
    | (.error e, _) => .error e

end Lowering

/-! ## Whole programs -/

/-- A shader with the diagnostics of its lowering. -/
structure LoweredShader where
  /-- The shader. -/
  shader : Shader
  /-- The gaps, in the order of the instructions. -/
  diagnostics : List Diagnostic
  deriving DecidableEq

/-- Whether anything was left out or approximated. -/
def LoweredShader.isPartial (s : LoweredShader) : Bool := !s.diagnostics.isEmpty

/-- The shader that a lowering has come to. -/
def Lowering.finish (l : Lowering) : LoweredShader := ⟨l.generator.finish, l.diagnostics⟩

/-- Lowers a program. -/
def Program.lower (p : Program) (options : Options) : Except CompileError LoweredShader :=
  match Generator.ofStage p.stage options with
  | .error _ => .error ⟨0, none, .unsupportedStage p.stage⟩
  | .ok g =>
    match (Lowering.start g options).processAll p.instructions.items with
    | .ok l => .ok l.finish
    | .error e => .error e

/-- Decodes and lowers the program at the start of a list of bytes. -/
def lowerBytes (bytes : List UInt8) (options : Options) : Except CompileError LoweredShader :=
  match Program.ofBytes bytes with
  | .error e => .error (.ofDecode e)
  | .ok p => p.lower options

end ShaderLowering
