import ShaderLowering.Command.Arguments
import ShaderLowering.Command.Files
import ShaderLowering.Lowering.Program

/-!
# The command

Reads a program from a file, reports what it is lowered to, and writes the module to another file if
a path is given. What has been reported before a failure stays reported.
-/

namespace ShaderLowering.Command

/-- What a run of the command leaves behind. -/
structure Outcome where
  /-- The exit code. -/
  exitCode : Nat
  /-- The text on the standard output. -/
  output : String
  /-- The text on the standard error. -/
  errors : String

/-- What is reported, and what went wrong at the end. -/
structure Report where
  /-- The text so far. -/
  text : String
  /-- The failure: what was being done, and its causes. -/
  failure? : Option (List String)

/-- The outcome that a report stands for. -/
def Report.outcome (r : Report) : Outcome :=
  match r.failure? with
  | none => ⟨0, r.text, ""⟩
  | some causes => ⟨1, r.text, "error: " ++ ": ".intercalate causes ++ "\n"⟩

/-- A number at the right end of a field. -/
def aligned (width n : Nat) : String :=
  let digits := toString n
  String.ofList (List.replicate (width - digits.length) ' ') ++ digits

/-- The lines about the instructions of a program, up to the first error. -/
def listing : List (Except DecodeError Instruction) → List String
  | [] => []
  | .ok i :: items => s!"  {aligned 5 i.position}: {i.text}" :: listing items
  | .error e :: _ => [s!"  decode error: {e.message}"]

/-- The lines about a program. -/
def programLines (p : Program) (dump : Bool) : List String :=
  s!"{p.stage.shortName}_{p.model.text} ({p.tokens.length} dwords)"
    :: if dump then listing p.instructions.items else []

/-- The lines about a lowered shader. -/
def shaderLines (s : LoweredShader) : List String :=
  let shader := s.shader
  let mark := if s.isPartial then " (partial)" else ""
  s.diagnostics.map (fun d => s!"warning: {d.text}")
    ++ s!"spirv: {shader.code.words.length} words, {shader.slots.length} resource slots{mark}"
      :: shader.slots.map fun r => s!"  slot {aligned 4 r.slot.toNat} {r.kind.label}"

/-- Lines, each with its end. -/
def unlines (lines : List String) : String := String.join (lines.map (· ++ "\n"))

variable {m : Type → Type} [Monad m]

/-- Does what an invocation asks for. -/
def lower (files : Files m) (i : Invocation) : m Report := do
  match ← files.readAll i.input with
  | .error e => return ⟨"", some [s!"failed to read {i.input}", e.message]⟩
  | .ok bytes =>
    match Program.ofBytes bytes with
    | .error e => return ⟨"", some [s!"failed to parse {i.input} as a token program", e.message]⟩
    | .ok p =>
      let about := programLines p i.dump
      match p.lower i.options with
      | .error e =>
        return ⟨unlines about,
          some (s!"failed to translate {i.input}" :: e.message :: e.fault.cause?.toList)⟩
      | .ok s =>
        let text := unlines (about ++ shaderLines s)
        match i.output? with
        | none => return ⟨text, none⟩
        | some path =>
          match ← files.writeAll path s.shader.code.toBytes with
          | .error e => return ⟨text, some [s!"failed to write {path}", e.message]⟩
          | .ok () => return ⟨text ++ s!"wrote {path}\n", none⟩

/-- Runs the command. -/
def run (files : Files m) (args : List String) : m Outcome := do
  match parseArguments args with
  | .error e => return (Report.mk "" (some [e.message])).outcome
  | .ok .help => return (Report.mk usage none).outcome
  | .ok (.lower i) => return (← lower files i).outcome

end ShaderLowering.Command
