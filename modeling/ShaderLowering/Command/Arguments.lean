import ShaderLowering.Text.Quoted
import ShaderLowering.Options

/-!
# Command line arguments

Arguments are read from left to right, and the first one that settles the matter counts: a call for
help, or an argument that makes no sense. An option that needs a value takes the next argument,
whatever it looks like. Of two values for one option the later one counts.
-/

namespace ShaderLowering.Command

/-- How the command is used. -/
def usage : String :=
  "\n".intercalate
    ["dxbc_compile: translate a raw SM4/SM5 token stream to SPIR-V",
     "",
     "USAGE:",
     "    cargo run -p aero-d3d11 --bin dxbc_compile -- <program.bin> [-o out.spv] [--strict]",
     "        [--entry-point NAME] [--dump]",
     "",
     "FLAGS:",
     "    -o PATH              Write the SPIR-V binary to PATH (default: only report)",
     "    --strict             Fail on the first instruction that cannot be translated",
     "    --entry-point NAME   Name of the generated entry point (default: main)",
     "    --no-debug-names     Do not emit OpName for registers and resources",
     "    --dump               Print the decoded instructions before translating",
     ""]

/-- What the arguments ask for. -/
structure Invocation where
  /-- The path of the program. -/
  input : String
  /-- The path that the module is written to. -/
  output? : Option String
  /-- The options of the lowering. -/
  options : Options
  /-- Whether the instructions are listed. -/
  dump : Bool

/-- What is wrong with the arguments. -/
inductive ArgumentError where
  /-- `-o` is the last argument. -/
  | noPath
  /-- `--entry-point` is the last argument. -/
  | noName
  /-- No option is called like this. -/
  | unknownOption (arg : String)
  /-- There is a second path. -/
  | secondPath (arg : String)
  /-- There is no path. -/
  | noInput

namespace ArgumentError

/-- The error in words. -/
def message : ArgumentError → String
  | noPath => "-o requires a path"
  | noName => "--entry-point requires a name"
  | unknownOption arg => "unknown option " ++ quoted arg ++ "\n\n" ++ usage
  | secondPath arg => "unexpected positional argument " ++ quoted arg ++ "\n\n" ++ usage
  | noInput => "missing input path\n\n" ++ usage

end ArgumentError

/-- What the arguments come to. -/
inductive Request where
  /-- The usage is to be shown. -/
  | help
  /-- A program is to be lowered. -/
  | lower (invocation : Invocation)

/-- What the arguments so far have asked for. -/
structure Partial where
  /-- The path of the program. -/
  input? : Option String
  /-- The path that the module is written to. -/
  output? : Option String
  /-- The options of the lowering. -/
  options : Options
  /-- Whether the instructions are listed. -/
  dump : Bool

/-- Reads arguments. -/
def parse (p : Partial) : List String → Except ArgumentError Request
  | [] =>
    match p.input? with
    | some input => .ok (.lower ⟨input, p.output?, p.options, p.dump⟩)
    | none => .error .noInput
  | "-h" :: _ | "--help" :: _ => .ok .help
  | "-o" :: path :: args => parse { p with output? := some path } args
  | ["-o"] => .error .noPath
  | "--entry-point" :: name :: args =>
    parse { p with options := { p.options with entryPoint := name } } args
  | ["--entry-point"] => .error .noName
  | "--strict" :: args => parse { p with options := { p.options with strict := true } } args
  | "--no-debug-names" :: args =>
    parse { p with options := { p.options with debugNames := false } } args
  | "--dump" :: args => parse { p with dump := true } args
  | arg :: args =>
    if arg.toList.head? = some '-' then .error (.unknownOption arg)
    else if p.input?.isSome then .error (.secondPath arg)
    else parse { p with input? := some arg } args

/-- Reads all arguments. -/
def parseArguments (args : List String) : Except ArgumentError Request :=
  parse ⟨none, none, .standard, false⟩ args

end ShaderLowering.Command
