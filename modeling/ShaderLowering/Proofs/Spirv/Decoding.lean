import ShaderLowering.Proofs.Spirv.Blocks
import ShaderLowering.Spirv.Module

/-!
# Instructions read back from words

`Inst.ofWords?` reads an instruction from its words: the opcode names the operation, and the
operation says whether a result type and a result stand before the operands. `Code.decoded?` reads a
whole module. The code of a module decodes to its instructions (`Module.decoded?_code`) as long as
each instruction is laid out as its operation wants it, and is short enough for its length to fit
the first word.
-/

namespace ShaderLowering.Spirv

/-! ## Layouts -/

/-- What stands before the operands of an instruction. -/
inductive Layout where
  /-- Nothing. -/
  | plain
  /-- The result. -/
  | result
  /-- The type of the result, and the result. -/
  | typed
  deriving DecidableEq

namespace Op

/-- What stands before the operands of an operation. -/
def layout : Op → Layout
  | name | memberName | memoryModel | entryPoint | executionMode | capability | functionEnd | store
  | decorate | memberDecorate | functionReturn => .plain
  | extInstImport | typeVoid | typeBool | typeInt | typeFloat | typeVector | typeImage
  | typeSampler | typeSampledImage | typeArray | typeStruct | typePointer | typeFunction
  | label => .result
  | extInst | constant | constantComposite | function | globalVariable | load | accessChain
  | vectorShuffle | compositeConstruct | compositeExtract | compositeInsert | sampledImage
  | imageSampleImplicitLod | imageSampleExplicitLod | bitcast | sNegate | fNegate | iAdd | fAdd
  | iMul | fMul | dot => .typed

/-- All operations. -/
def all : List Op :=
  [name, memberName, extInstImport, extInst, memoryModel, entryPoint, executionMode, capability,
   typeVoid, typeBool, typeInt, typeFloat, typeVector, typeImage, typeSampler, typeSampledImage,
   typeArray, typeStruct, typePointer, typeFunction, constant, constantComposite, function,
   functionEnd, globalVariable, load, store, accessChain, decorate, memberDecorate, vectorShuffle,
   compositeConstruct, compositeExtract, compositeInsert, sampledImage, imageSampleImplicitLod,
   imageSampleExplicitLod, bitcast, sNegate, fNegate, iAdd, fAdd, iMul, fMul, dot, label,
   functionReturn]

/-- The operation of an opcode. -/
def ofCode? (code : Nat) : Option Op := all.find? (·.code == code)

/-- The opcode of an operation names it. -/
theorem ofCode?_code (op : Op) : ofCode? op.code = some op := by
  cases op <;> rfl

/-- An operation is known by its opcode. -/
theorem code_inj {op op' : Op} (h : op.code = op'.code) : op = op' :=
  Option.some.inj ((ofCode?_code op).symm.trans ((congrArg _ h).trans (ofCode?_code op')))

end Op

namespace Inst

/-- Whether an instruction has a result type and a result exactly where its operation wants them. -/
def IsLaidOut (i : Inst) : Prop :=
  match i.op.layout with
  | .plain => i.resultType? = none ∧ i.result? = none
  | .result => i.resultType? = none ∧ i.result?.isSome
  | .typed => i.resultType?.isSome ∧ i.result?.isSome

/-! ## One instruction -/

/-- Reads an instruction from its words. -/
def ofWords? : List Word → Option Inst
  | [] => none
  | head :: rest => do
    let op ← Op.ofCode? (head.field 0 16)
    match op.layout, rest with
    | .plain, operands => some ⟨op, none, none, operands⟩
    | .result, result :: operands => some ⟨op, none, some result, operands⟩
    | .typed, type :: result :: operands => some ⟨op, some type, some result, operands⟩
    | _, _ => none

end Inst

/-- The first word of an instruction as a number. -/
theorem toNat_headWord {opcode count : Nat} (ho : opcode < 0x10000) (hc : count < 0x10000) :
    (headWord opcode count).toNat = count * 0x10000 + opcode := by
  rw [headWord, Nat.mod_eq_of_lt hc, Nat.shiftLeft_eq, UInt32.toNat_ofNat']
  exact Nat.mod_eq_of_lt (by omega)

/-- The first word of an instruction tells the opcode. -/
theorem opcode_headWord {opcode count : Nat} (ho : opcode < 0x10000) (hc : count < 0x10000) :
    (headWord opcode count).field 0 16 = opcode := by
  rw [Word.field, toNat_headWord ho hc]
  simp only [Nat.shiftRight_zero, Nat.one_shiftLeft]
  omega

/-- The first word of an instruction tells its length. -/
theorem wordCount_headWord {opcode count : Nat} (ho : opcode < 0x10000) (hc : count < 0x10000) :
    Code.wordCount (headWord opcode count) = count := by
  rw [Code.wordCount, Word.field, toNat_headWord ho hc]
  simp only [Nat.shiftRight_eq_div_pow, Nat.one_shiftLeft]
  omega

namespace Inst

theorem length_words (i : Inst) : i.words.length = i.tailWords.length + 1 := rfl

/-- An instruction is read back from its words. -/
theorem ofWords?_words {i : Inst} (hi : i.IsLaidOut) (hl : i.words.length < 0x10000) :
    ofWords? i.words = some i := by
  obtain ⟨op, type?, result?, operands⟩ := i
  rw [length_words] at hl
  simp only [ofWords?, words, opcode_headWord op.code_lt hl, Op.ofCode?_code, Option.bind_eq_bind,
    Option.bind_some]
  rcases hop : op.layout <;> simp only [IsLaidOut, hop] at hi
  · obtain ⟨rfl, rfl⟩ := hi
    rfl
  · obtain ⟨rfl, hr⟩ := hi
    obtain ⟨r, rfl⟩ := Option.isSome_iff_exists.1 hr
    rfl
  · obtain ⟨ht, hr⟩ := hi
    obtain ⟨t, rfl⟩ := Option.isSome_iff_exists.1 ht
    obtain ⟨r, rfl⟩ := Option.isSome_iff_exists.1 hr
    rfl

end Inst

/-! ## Whole modules -/

namespace Code

/-- An instruction tells its length, if it is short enough. -/
theorem isFramed_words {i : Inst} (hl : i.words.length < 0x10000) : IsFramed i.words :=
  ⟨List.cons_ne_nil _ _, wordCount_headWord i.op.code_lt hl⟩

/-- Words that start with instructions are cut behind each of them. -/
theorem splitBlocks_flatMap_words_append {insts : List Inst}
    (hl : ∀ i ∈ insts, i.words.length < 0x10000) (rest : List Word) :
    splitBlocks (insts.flatMap Inst.words ++ rest) =
      (insts.map Inst.words ++ (splitBlocks rest).1, (splitBlocks rest).2) := by
  rw [List.flatMap_def]
  exact splitBlocks_flatten_append
    (List.forall_mem_map.2 fun i hi => isFramed_words (hl i hi)) rest

/-- The words of instructions are cut into these instructions. -/
theorem splitBlocks_flatMap_words {insts : List Inst}
    (hl : ∀ i ∈ insts, i.words.length < 0x10000) :
    splitBlocks (insts.flatMap Inst.words) = (insts.map Inst.words, []) := by
  have h := splitBlocks_flatMap_words_append hl []
  rwa [List.append_nil, splitBlocks, List.append_nil] at h

/-- The instructions of code, if all of it is instructions of a known layout. -/
def decoded? (c : Code) : Option (List Inst) :=
  if c.tail = [] then c.blocks.mapM Inst.ofWords? else none

/-- The bound on ids that the header of a module states. -/
def idBound (c : Code) : Nat := (c.words.getD 3 0).toNat

end Code

namespace Module

/-- Whether each instruction is short enough for its length to fit its first word. -/
def IsEncodable (m : Module) : Prop := ∀ i ∈ m.instructions, i.words.length ≤ 0xffff

instance (m : Module) : Decidable m.IsEncodable :=
  inferInstanceAs (Decidable (∀ i ∈ m.instructions, i.words.length ≤ 0xffff))

/-- The words behind the header are those of the instructions. -/
theorem drop_words_code (m : Module) :
    m.code.words.drop m.code.firstInstruction = m.instructions.flatMap Inst.words := rfl

/-- The bound in the header is that of the module, if it fits a word. -/
theorem idBound_code {m : Module} (h : m.bound < UInt32.size) : m.code.idBound = m.bound :=
  (UInt32.toNat_ofNat' ..).trans (Nat.mod_eq_of_lt h)

/-- The code of a module is cut into its instructions. -/
theorem blocks_code {m : Module} (hl : m.IsEncodable) :
    m.code.blocks = m.instructions.map Inst.words := by
  rw [Code.blocks, drop_words_code,
    Code.splitBlocks_flatMap_words fun i hi => Nat.lt_succ_of_le (hl i hi)]

theorem tail_code {m : Module} (hl : m.IsEncodable) : m.code.tail = [] := by
  rw [Code.tail, drop_words_code,
    Code.splitBlocks_flatMap_words fun i hi => Nat.lt_succ_of_le (hl i hi)]

/-- The code of a module decodes to its instructions. -/
theorem decoded?_code {m : Module} (hl : m.IsEncodable)
    (hm : ∀ i ∈ m.instructions, i.IsLaidOut) : m.code.decoded? = some m.instructions := by
  rw [Code.decoded?, if_pos (tail_code hl), blocks_code hl, List.mapM_map]
  have hall (insts : List Inst) (hi : ∀ i ∈ insts, i.IsLaidOut ∧ i.words.length ≤ 0xffff) :
      insts.mapM (Inst.ofWords? ∘ Inst.words) = some insts := by
    induction insts with
    | nil => rfl
    | cons i insts ih =>
      obtain ⟨hlaid, hlen⟩ := hi i (List.mem_cons_self ..)
      rw [List.mapM_cons, Function.comp_apply, Inst.ofWords?_words hlaid (Nat.lt_succ_of_le hlen),
        ih fun j hj => hi j (List.mem_cons_of_mem _ hj)]
      rfl
  exact hall _ fun i hi => ⟨hm i hi, hl i hi⟩

end Module

end ShaderLowering.Spirv
