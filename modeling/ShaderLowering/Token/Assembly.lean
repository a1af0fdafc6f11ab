import ShaderLowering.Decimal.Layout
import ShaderLowering.Token.Instruction

/-!
# Assembly text

How operands and instructions are written for a reader of a dump. An instruction is its mnemonic and
its arguments; argument words that are no operand (return types, system values, counts) are written
as hexadecimal numbers, so every argument word is written exactly once.
-/

namespace ShaderLowering

/-- Immediate numbers have as many digits as they need to read back, positional from `1e-4` to below
`1e16`, and always a fraction when they are positional. -/
def immediateLayout : DecimalLayout where
  positionalFrom := -4
  positionalBelow := 16
  integerTail := ".0"
  exponentMark := "e"
  nan := "NaN"
  infinity := "inf"

/-- The text of a 32-bit immediate. -/
def immediate32Text (w : Word) : String :=
  immediateLayout.text .binary32 w.toNat

/-- The texts of the 64-bit immediates that pairs of words spell, the upper half first. -/
def immediate64Texts : List Word → List String
  | [] => []
  | [high] => [immediateLayout.text .binary64 (IndexOf.wide high 0 : Nat)]
  | high :: low :: rest =>
    immediateLayout.text .binary64 (IndexOf.wide high low) :: immediate64Texts rest

/-- A number in base sixteen. -/
def hexText (w : Word) : String :=
  "0x" ++ String.ofList (Nat.toDigits 16 w.toNat)

namespace Operand

/-- The text of the components that an operand names; an empty mask is not written. -/
def selectionText (o : Operand) : String :=
  match o.selection? with
  | some (.mask m) => if m.isEmpty then "" else "." ++ m.text
  | some (.swizzle s) => "." ++ s.text
  | some (.single c) => "." ++ (ComponentMask.single c).text
  | none => ""

/-- Source modifiers around the text of a value. -/
def modified (m : OperandModifiers) (text : String) : String :=
  (if m.neg then "-" else "") ++ if m.abs then "|" ++ text ++ "|" else text

/-- The text of a register's value plus a number; zero is not written. -/
def sumText (register : String) (value : Nat) : String :=
  if value = 0 then register else register ++ " + " ++ toString value

mutual

/-- The text of an operand. -/
def text : Operand → String
  | ⟨position, token, type, extensions, indices, immediates⟩ =>
    let o : Operand := ⟨position, token, type, extensions, indices, immediates⟩
    modified o.modifiers <|
      match type with
      | .imm32 => "l(" ++ ", ".intercalate (immediates.map immediate32Text) ++ ")"
      | .imm64 => "d(" ++ ", ".intercalate (immediate64Texts immediates) ++ ")"
      | _ => type.label ++ firstIndicesText indices ++ o.selectionText

/-- The text of an index. -/
def indexText : IndexOf Operand → String
  | .imm32 v => toString v.toNat
  | .imm64 high low => toString (IndexOf.wide high low)
  | .relative r => r.text
  | .imm32Relative v r => sumText r.text v.toNat
  | .imm64Relative high low r => sumText r.text (IndexOf.wide high low)

/-- The text of the indices; the first one needs no brackets when it is a number. -/
def firstIndicesText : List (IndexOf Operand) → String
  | [] => ""
  | index :: indices =>
    (match index.register? with
      | none => indexText index
      | some _ => "[" ++ indexText index ++ "]") ++ bracketedIndicesText indices

/-- The text of indices in brackets. -/
def bracketedIndicesText : List (IndexOf Operand) → String
  | [] => ""
  | index :: indices => "[" ++ indexText index ++ "]" ++ bracketedIndicesText indices

end

end Operand

namespace Instruction

/-- Whether the arguments of an opcode are numbers and never operands. -/
def hasNumbersOnly : Opcode → Bool
  | .customdata | .dclTemps | .dclThreadGroup | .dclMaxout | .dclGsinstances
  | .dclInputControlPointCount | .dclOutputControlPointCount | .dclHsMaxTessfactor
  | .dclHsForkPhaseInstanceCount | .dclHsJoinPhaseInstanceCount | .dclFunctionBody
  | .dclFunctionTable | .dclInterface => true
  | _ => false

/-- The arguments as operands, and behind them the words that are no operand. -/
def argumentRun (i : Instruction) : OperandRun :=
  if hasNumbersOnly i.opcode then ⟨[], none, i.cursor⟩ else i.cursor.operands

/-- The text of an instruction. -/
def text (i : Instruction) : String :=
  let suffix := if !i.opcode.isDeclaration && i.control.saturate then "_sat" else ""
  let run := i.argumentRun
  let args := run.operands.map Operand.text ++ run.cursor.rest.map hexText
  let separator := if args.isEmpty then "" else " "
  i.opcode.label ++ suffix ++ separator ++ ", ".intercalate args

end Instruction

end ShaderLowering
