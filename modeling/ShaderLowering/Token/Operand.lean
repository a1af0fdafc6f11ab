import ShaderLowering.Token.Cursor
import ShaderLowering.Token.OperandToken

/-!
# Operands

An operand is a run of words: its token, the token's extended tokens, one encoded index for each
index dimension, and the immediate words. A relative index holds a whole operand, the register whose
value is added, so operands nest; the decoder allows `Operand.maxNesting` levels below the outermost
one. How long an operand is shows only once it has been decoded.

`Operand.decode` and `Operand.words` are the two directions of this format.
-/

namespace ShaderLowering

/-- One index of an operand, over the type of the registers that a relative index names. -/
inductive IndexOf (R : Type) where
  /-- A 32-bit number. -/
  | imm32 (value : Word)
  /-- A 64-bit number. -/
  | imm64 (high low : Word)
  /-- The value of a register. -/
  | relative (register : R)
  /-- A 32-bit number plus the value of a register. -/
  | imm32Relative (value : Word) (register : R)
  /-- A 64-bit number plus the value of a register. -/
  | imm64Relative (high low : Word) (register : R)

/-- A decoded operand. -/
structure Operand where
  /-- The position of the operand token. -/
  position : Nat
  /-- The operand token. -/
  token : OperandToken
  /-- The operand type, whose number the token holds. -/
  type : OperandType
  /-- The extended tokens. -/
  extensions : List OperandExt
  /-- The indices. -/
  indices : List (IndexOf Operand)
  /-- The immediate words. -/
  immediates : List Word

/-- One index of an operand. -/
abbrev OperandIndex := IndexOf Operand

namespace IndexOf

variable {R : Type}

/-- How the index is encoded. -/
def representation : IndexOf R → IndexRepresentation
  | imm32 _ => .imm32
  | imm64 _ _ => .imm64
  | relative _ => .relative
  | imm32Relative _ _ => .imm32Relative
  | imm64Relative _ _ _ => .imm64Relative

/-- The number that two words spell, the upper half first. -/
def wide (high low : Word) : Nat := (high.toNat <<< 32) + low.toNat

/-- The immediate part, zero where there is none. -/
def immediate : IndexOf R → Nat
  | imm32 v | imm32Relative v _ => v.toNat
  | imm64 high low | imm64Relative high low _ => wide high low
  | relative _ => 0

/-- The register of the relative part. -/
def register? : IndexOf R → Option R
  | imm32 _ | imm64 _ _ => none
  | relative r | imm32Relative _ r | imm64Relative _ _ r => some r

/-- The value of an index that is a plain 32-bit number. -/
def imm32? : IndexOf R → Option Word
  | imm32 v => some v
  | _ => none

end IndexOf

namespace Operand

/-! ## Decoding -/

/-- How many levels of relative indices an operand may have. -/
def maxNesting : Nat := 4

/-- Decodes an index of a representation, given a decoder for registers. -/
def decodeIndexAs {R : Type} (register : Decoder R) : IndexRepresentation → Decoder (IndexOf R)
  | .imm32 => do return .imm32 (← Decoder.word)
  | .imm64 => do
    let high ← Decoder.word
    let low ← Decoder.word
    return .imm64 high low
  | .relative => do return .relative (← register)
  | .imm32Relative => do
    let value ← Decoder.word
    let r ← register
    return .imm32Relative value r
  | .imm64Relative => do
    let high ← Decoder.word
    let low ← Decoder.word
    let r ← register
    return .imm64Relative high low r

/-- Decodes the indices whose representations have the given numbers; `position` is that of the
operand, which a number without a meaning is reported at. -/
def decodeIndices {R : Type} (register : Decoder R) (position : Nat) :
    List Nat → Decoder (List (IndexOf R))
  | [] => pure []
  | raw :: raws => do
    match Numbered.ofRaw? raw with
    | none => Decoder.fail position (.unknownRepresentation raw)
    | some representation =>
      let index ← decodeIndexAs register representation
      let indices ← decodeIndices register position raws
      return index :: indices

/-- Decodes what follows the token of an operand that stands at `position`. -/
def decodeBehind (register : Decoder Operand) (position : Nat) (token : OperandToken) :
    Decoder Operand :=
  match Numbered.ofRaw? token.typeRaw with
  | none => Decoder.fail position (.unknownOperandType token.typeRaw)
  | some type => do
    let extensions ← Decoder.chain token.word.extended
    let indices ← decodeIndices register position token.representations
    let immediates ← Decoder.words (token.immediateCount type)
    return { position, token, type, extensions := extensions.map .mk, indices, immediates }

/-- Decodes an operand that may use the given number of levels, its own included. -/
def decodeNested : Nat → Decoder Operand
  | 0 => do
    let c ← get
    Decoder.fail c.position (.nestedTooDeep maxNesting)
  | levels + 1 => do
    let c ← get
    let word ← Decoder.word
    decodeBehind (decodeNested levels) c.position ⟨word⟩

/-- Decodes an operand. -/
def decode : Decoder Operand := decodeNested (maxNesting + 1)

theorem forward_decodeIndexAs {R : Type} {register : Decoder R} (h : register.Forward)
    (representation : IndexRepresentation) : (decodeIndexAs register representation).Forward := by
  cases representation with
  | imm32 => exact .bind .word fun _ => .pure _
  | imm64 => exact .bind .word fun _ => .bind .word fun _ => .pure _
  | relative => exact .bind h fun _ => .pure _
  | imm32Relative => exact .bind .word fun _ => .bind h fun _ => .pure _
  | imm64Relative =>
    exact .bind .word fun _ => .bind .word fun _ => .bind h fun _ => .pure _

theorem forward_decodeIndices {R : Type} {register : Decoder R} (h : register.Forward)
    (position : Nat) (raws : List Nat) : (decodeIndices register position raws).Forward := by
  induction raws with
  | nil => exact .pure _
  | cons raw raws ih =>
    rw [decodeIndices]
    cases Numbered.ofRaw? (α := IndexRepresentation) raw with
    | none => exact .fail _ _
    | some r => exact .bind (forward_decodeIndexAs h r) fun _ => .bind ih fun _ => .pure _

theorem forward_decodeBehind {register : Decoder Operand} (h : register.Forward) (position : Nat)
    (token : OperandToken) : (decodeBehind register position token).Forward := by
  unfold decodeBehind
  split
  · exact .fail _ _
  · exact .bind (.chain _) fun _ => .bind (forward_decodeIndices h _ _) fun _ =>
      .bind (.words _) fun _ => .pure _

theorem forward_decodeNested (levels : Nat) : (decodeNested levels).Forward := by
  induction levels with
  | zero => exact .bind .get fun _ => .fail _ _
  | succ levels ih => exact .bind .get fun _ => .bind .word fun _ => forward_decodeBehind ih _ _

/-- Decoding an operand takes at least its token. -/
theorem length_rest_decode {c c' : Cursor} {o : Operand} (h : decode c = .ok (o, c')) :
    c'.rest.length < c.rest.length := by
  obtain ⟨c₁, c₂, h₁, h₂⟩ := Decoder.bind_eq_ok.1 h
  cases h₁
  obtain ⟨w, c₃, h₃, h₄⟩ := Decoder.bind_eq_ok.1 h₂
  have hw : c.rest = w :: c₃.rest := (Decoder.word_eq_ok.1 h₃).1
  have hs := (forward_decodeBehind (forward_decodeNested _) _ _ h₄).1.length_le
  rw [hw, List.length_cons]
  omega

/-- The operand at the start of a list of words, which stand at `position`. -/
def parse (words : List Word) (position : Nat) : Except DecodeError Operand :=
  match decode.run ⟨position, words⟩ with
  | .ok (operand, _) => .ok operand
  | .error e => .error e

/-! ## Encoding -/

mutual

/-- The words of an operand. -/
def words : Operand → List Word
  | ⟨_, token, _, extensions, indices, immediates⟩ =>
    token.word :: (extensions.map (·.word) ++ indexListWords indices ++ immediates)

/-- The words of one index. -/
def indexWords : IndexOf Operand → List Word
  | .imm32 v => [v]
  | .imm64 high low => [high, low]
  | .relative r => r.words
  | .imm32Relative v r => v :: r.words
  | .imm64Relative high low r => high :: low :: r.words

/-- The words of indices, one after the other. -/
def indexListWords : List (IndexOf Operand) → List Word
  | [] => []
  | index :: indices => indexWords index ++ indexListWords indices

end

/-- How many words the operand takes. -/
def length (o : Operand) : Nat := o.words.length

/-! ## Access -/

/-- The components that the operand names. -/
def selection? (o : Operand) : Option ComponentSelection := o.token.selection?

/-- How many indices the operand has. -/
def dimension (o : Operand) : Nat := o.indices.length

/-- An index by its number. -/
def index (o : Operand) (n : Nat) : Except DecodeError OperandIndex :=
  match o.indices[n]? with
  | some i => .ok i
  | none => .error ⟨o.position, .missingIndex n o.dimension⟩

/-- An immediate word by its number. -/
def immediate (o : Operand) (n : Nat) : Except DecodeError Word :=
  match o.immediates[n]? with
  | some w => .ok w
  | none => .error ⟨o.position, .missingImmediate n o.immediates.length⟩

/-- The value of an index that is a plain 32-bit number. -/
def index32? (o : Operand) (n : Nat) : Option Word :=
  o.indices[n]?.bind IndexOf.imm32?

/-- The first extended token of a kind. -/
def extension? (o : Operand) (kind : OperandExtKind) : Option OperandExt :=
  o.extensions.find? (·.kind? == some kind)

/-- The source modifiers: those of the first modifier token, else none. -/
def modifiers (o : Operand) : OperandModifiers :=
  match o.extension? .modifier with
  | some e => e.modifiers
  | none => .none

end Operand

end ShaderLowering
