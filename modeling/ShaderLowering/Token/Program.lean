import ShaderLowering.Token.Reader

/-!
# Programs

A program starts with two words: the version token, which names the pipeline stage and the shader
model, and the number of words of the whole program. The instructions follow. Words behind the
declared end are no part of the program.
-/

namespace ShaderLowering

/-! ## Stages and shader models -/

/-- The pipeline stage that a program is made for. -/
inductive ShaderStage where
  | pixel | vertex | geometry | hull | domain | compute
  /-- A number of no stage. -/
  | unknown (programType : Nat)
  deriving DecidableEq

namespace ShaderStage

/-- The stage with a number. -/
def ofProgramType : Nat → ShaderStage
  | 0 => pixel
  | 1 => vertex
  | 2 => geometry
  | 3 => hull
  | 4 => domain
  | 5 => compute
  | n => unknown n

/-- The number of a stage. -/
def programType : ShaderStage → Nat
  | pixel => 0
  | vertex => 1
  | geometry => 2
  | hull => 3
  | domain => 4
  | compute => 5
  | unknown n => n

/-- The two letters that stand for a stage. -/
def shortName : ShaderStage → String
  | pixel => "ps"
  | vertex => "vs"
  | geometry => "gs"
  | hull => "hs"
  | domain => "ds"
  | compute => "cs"
  | unknown _ => "??"

end ShaderStage

/-- A version of the shader model. -/
structure ShaderModel where
  /-- The number before the underscore. -/
  major : Nat
  /-- The number behind the underscore. -/
  minor : Nat
  deriving DecidableEq

namespace ShaderModel

/-- The text of a version. -/
def text (m : ShaderModel) : String := s!"{m.major}_{m.minor}"

/-- Whether a version comes before another. -/
def before (m n : ShaderModel) : Bool :=
  m.major < n.major || m.major == n.major && m.minor < n.minor

end ShaderModel

/-- The stage that a version token names. -/
def Word.stage (version : Word) : ShaderStage := .ofProgramType (version.field 16 16)

/-- The shader model that a version token names. -/
def Word.model (version : Word) : ShaderModel := ⟨version.field 4 4, version.field 0 4⟩

/-! ## Programs -/

/-- A program with a valid header. -/
structure Program where
  /-- The pipeline stage. -/
  stage : ShaderStage
  /-- The shader model. -/
  model : ShaderModel
  /-- All words, the header included. -/
  tokens : List Word

namespace Program

/-- How many words stand before the first instruction. -/
def headerWords : Nat := 2

/-- The program at the start of a list of words. -/
def ofTokens : List Word → Except DecodeError Program
  | version :: declared :: body =>
    let available := body.length + 2
    if declared.toNat < headerWords ∨ available < declared.toNat then
      .error ⟨1, .declaredLength declared.toNat available⟩
    else
      .ok { stage := version.stage, model := version.model,
            tokens := (version :: declared :: body).take declared.toNat }
  | short => .error ⟨0, .tooShort short.length⟩

/-- The program at the start of a list of bytes. -/
def ofBytes (bytes : List UInt8) : Except DecodeError Program :=
  match bytesWords? bytes with
  | none => .error ⟨0, .misaligned bytes.length⟩
  | some tokens => ofTokens tokens

/-- A reader of the instructions. -/
def instructions (p : Program) : InstructionReader :=
  .ofTokens p.tokens headerWords

/-- The words as bytes. -/
def toBytes (p : Program) : List UInt8 := wordBytes p.tokens

end Program

end ShaderLowering
