import ShaderLowering.Proofs.Generator.Representing
import ShaderLowering.Proofs.Semantics.Instructions

/-!
# Instructions that can be lowered

Which instructions a generator can lower to code that does the same: those that compute with mov, add,
mul, mad, dp2, dp3, dp4, rsq and sample, and returns, provided that the registers that they name have
been declared by then and that each operand has one of the shapes that say what it stands for. An
immediate operand has none of these if it has modifiers, as nothing is done about them. Whether an
instruction is one of these can be computed.
-/

namespace ShaderLowering

namespace Operand

/-! ## Sources -/

/-- Whether an operand says which component feeds which: it has only one, or it names them by a
swizzle or a single one. -/
def selects (o : Operand) : Bool :=
  match o.token.componentCount, o.selection? with
  | .one, _ | .four, some (.swizzle _) | .four, some (.single _) => true
  | _, _ => false

mutual

/-- Whether a source operand is an immediate one without modifiers, or names a declared register or an
element of a declared constant buffer. -/
def isReadable (g : Generator) : Operand → Bool
  | ⟨position, token, type, extensions, indices, immediates⟩ =>
    let o : Operand := ⟨position, token, type, extensions, indices, immediates⟩
    if type = .imm32 then
      o.modifiers.isNone && (token.componentCount == .one || token.componentCount == .four)
    else if type = .constantBuffer then
      o.selects && o.dimension == 2 &&
        (o.index32? 0).any (fun n => (g.resource? .constantBuffer n).isSome) &&
        (areElements g indices).getD 1 false
    else o.selects && (o.register?.bind g.registerId?).isSome

/-- For each index, whether it can number an element. -/
def areElements (g : Generator) : List (IndexOf Operand) → List Bool
  | [] => []
  | index :: indices => isElement g index :: areElements g indices

/-- Whether an index can number an element: as a number, a register, or the sum of both. -/
def isElement (g : Generator) : IndexOf Operand → Bool
  | .imm32 _ => true
  | .relative r | .imm32Relative _ r => isReadable g r && r.modifiers.isNone
  | .imm64 _ _ | .imm64Relative _ _ _ => false

end

theorem isReadable_eq (g : Generator) (o : Operand) :
    o.isReadable g =
      if o.type = .imm32 then
        o.modifiers.isNone && (o.token.componentCount == .one || o.token.componentCount == .four)
      else if o.type = .constantBuffer then
        o.selects && o.dimension == 2 &&
          (o.index32? 0).any (fun n => (g.resource? .constantBuffer n).isSome) &&
          (areElements g o.indices).getD 1 false
      else o.selects && (o.register?.bind g.registerId?).isSome := by
  cases o
  rw [isReadable]

theorem areElements_eq (g : Generator) (indices : List (IndexOf Operand)) :
    areElements g indices = indices.map (isElement g) := by
  induction indices with
  | nil => rw [areElements, List.map_nil]
  | cons index indices ih => rw [areElements, ih, List.map_cons]

/-! ## Destinations, textures and samplers -/

/-- Whether a destination operand names components of a declared register that can be written. -/
def isWritable (g : Generator) (o : Operand) : Bool :=
  !o.writeMask.isEmpty &&
    o.register?.any fun r => r.storage.isWritable && (g.registerId? r).isSome

/-- Whether an operand names a declared texture that can be sampled, and which component of a texel
feeds which of the destination. -/
def isTexture (g : Generator) (o : Operand) (saturates : Bool) : Bool :=
  o.type == .resource && o.dimension == 1 && o.selection?.isSome && o.selects &&
    (o.index32? 0).any fun n => (g.resource? .shaderResource n).any fun d =>
      match d.form with
      | .image _ dim sampled => dim.coordinates?.isSome && (!saturates || sampled == .float32)
      | _ => false

/-- Whether an operand names a declared sampler. -/
def isSampler (g : Generator) (o : Operand) : Bool :=
  o.type == .sampler && o.dimension == 1 &&
    (o.index32? 0).any fun n => (g.resource? .sampler n).isSome

end Operand

/-- Whether a generator can lower an instruction to code that does the same. -/
def Instruction.isCovered (g : Generator) (i : Instruction) : Bool :=
  match i.opcode, i.operandList with
  | .mov, target :: a :: _ | .rsq, target :: a :: _ => target.isWritable g && a.isReadable g
  | .add, target :: a :: b :: _ | .mul, target :: a :: b :: _ | .dp2, target :: a :: b :: _
  | .dp3, target :: a :: b :: _ | .dp4, target :: a :: b :: _ =>
    target.isWritable g && a.isReadable g && b.isReadable g
  | .mad, target :: a :: b :: c :: _ =>
    target.isWritable g && a.isReadable g && b.isReadable g && c.isReadable g
  | .sample, target :: coordinate :: texture :: sampler :: _ =>
    i.sampleOffsets.all (· == 0) && target.isWritable g && coordinate.isReadable g &&
      texture.isTexture g i.control.saturate && sampler.isSampler g
  | .ret, _ => true
  | _, _ => false

/-- The generator behind instructions that are handled one after the other. -/
def Generator.handledAll (g : Generator) (instructions : List Instruction) : Generator :=
  instructions.foldl (fun g i => (g.handle i).generator) g

/-- Whether each instruction that is executed can be lowered where it stands. -/
def Generator.covers (g : Generator) : List Instruction → Bool
  | [] => true
  | i :: instructions =>
    (!i.opcode.isExecuted || i.isCovered g) && (g.handle i).generator.covers instructions

/-! ## Components -/

namespace Operand

variable {o : Operand}

/-- An operand with a selection has four components. -/
theorem componentCount_of_selection? {s : ComponentSelection} (h : o.selection? = some s) :
    o.token.componentCount = .four := by
  rw [selection?, OperandToken.selection?] at h
  split at h
  · next hc _ => exact hc
  · next hc _ => exact hc
  · next hc _ => exact hc
  · cases h

/-- A swizzle names one of four components for each component. -/
theorem get_lt_of_selection? {s : Swizzle} (h : o.selection? = some (.swizzle s)) (i : Nat) :
    s.get i < 4 := by
  rw [selection?, OperandToken.selection?] at h
  split at h
  · cases h
  · cases h
    rw [Swizzle.get]
    split <;> exact Nat.mod_lt _ (Nat.succ_pos 3)
  · cases h
  · cases h

/-- A single component is one of four. -/
theorem lt_of_selection? {c : Nat} (h : o.selection? = some (.single c)) : c < 4 := by
  rw [selection?, OperandToken.selection?] at h
  split at h
  · cases h
  · cases h
  · cases h
    exact o.token.word.field_lt 4 2
  · cases h

/-- The ways in which an operand says which component feeds which. -/
theorem selects_cases (h : o.selects = true) :
    (o.token.componentCount = .one ∧ ∀ i, o.lane i = 0) ∨
    (∃ s, o.token.componentCount = .four ∧ o.selection? = some (.swizzle s) ∧
      ∀ i, o.lane i = s.get i ∧ s.get i < 4) ∨
    (∃ c, o.token.componentCount = .four ∧ o.selection? = some (.single c) ∧
      c < 4 ∧ ∀ i, o.lane i = c) := by
  rw [selects] at h
  split at h
  · next hc =>
    have hnone : o.selection? = none := by
      rw [selection?, OperandToken.selection?, hc]
    refine .inl ⟨hc, fun i => ?_⟩
    rw [lane, hnone]
  · next s hc hs =>
    refine .inr (.inl ⟨s, hc, hs, fun i => ⟨?_, get_lt_of_selection? hs i⟩⟩)
    rw [lane, hs]
  · next c hc hs =>
    refine .inr (.inr ⟨c, hc, hs, lt_of_selection? hs, fun i => ?_⟩)
    rw [lane, hs]
  · cases h

end Operand

end ShaderLowering
