import ShaderLowering.Command.Run

/-!
# Entry point of the command

Connects the command to the disk and to the standard streams.
-/

open ShaderLowering.Command

/-- The number of a system failure. -/
def systemCode : IO.Error → Nat
  | .alreadyExists _ code _ | .otherError code _ | .resourceBusy code _ | .resourceVanished code _
  | .unsupportedOperation code _ | .hardwareFault code _ | .unsatisfiedConstraints code _
  | .illegalOperation code _ | .protocolError code _ | .timeExpired code _ | .interrupted _ code _
  | .noFileOrDirectory _ code _ | .invalidArgument _ code _ | .permissionDenied _ code _
  | .resourceExhausted _ code _ | .inappropriateType _ code _ | .noSuchThing _ code _ => code.toNat
  | .unexpectedEof | .userError _ => 5

/-- Goes on with the result of an action on files. -/
def attempt {α : Type} (action : IO α) : IO (Except FileFault α) := do
  match ← action.toBaseIO with
  | .ok a => return .ok a
  | .error e => return .error ⟨systemCode e⟩

/-- The files on the disk. -/
def disk : Files IO where
  readAll path := attempt do return (← IO.FS.readBinFile path).toList
  writeAll path bytes := attempt (IO.FS.writeBinFile path (ByteArray.mk bytes.toArray))

/-- Runs the command. -/
def main (args : List String) : IO UInt32 := do
  let outcome ← run disk args
  (← IO.getStdout).putStr outcome.output
  (← IO.getStderr).putStr outcome.errors
  return UInt32.ofNat outcome.exitCode
