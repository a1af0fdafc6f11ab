import ShaderLowering.Proofs.Spirv.Decoding

/-!
# Ids

Which ids an instruction refers to, in which section of a module it belongs, and how the code of a
function falls into blocks. `Disciplined` collects what a module has to keep to: every id is defined
once, every reference has its definition, in the right place where the place matters, and the
function section is one function of complete blocks.
-/

namespace ShaderLowering.Spirv

/-! ## Sections -/

/-- A section of a module. -/
inductive Section where
  | capability | importing | memory | entry | mode | name | decoration | global | code
  deriving DecidableEq

/-- The section that an operation belongs in. -/
def Op.section : Op → Section
  | capability => .capability
  | extInstImport => .importing
  | memoryModel => .memory
  | entryPoint => .entry
  | executionMode => .mode
  | name | memberName => .name
  | decorate | memberDecorate => .decoration
  | typeVoid | typeBool | typeInt | typeFloat | typeVector | typeImage | typeSampler
  | typeSampledImage | typeArray | typeStruct | typePointer | typeFunction | constant
  | constantComposite | globalVariable => .global
  | function | functionEnd | extInst | load | store | accessChain | vectorShuffle
  | compositeConstruct | compositeExtract | compositeInsert | sampledImage
  | imageSampleImplicitLod | imageSampleExplicitLod | bitcast | sNegate | fNegate | iAdd | fAdd
  | iMul | fMul | dot | label | functionReturn => .code

/-- The types, constants and variables among instructions. -/
def globalSection (insts : List Inst) : List Inst := insts.filter (·.op.section = .global)

/-- The instructions of functions among instructions. -/
def functionSection (insts : List Inst) : List Inst := insts.filter (·.op.section = .code)

/-! ## Definitions and references -/

/-- The ids that instructions define. -/
def results (insts : List Inst) : List Word := insts.filterMap Inst.result?

@[simp] theorem results_nil : results [] = [] := rfl

@[simp] theorem results_append (a b : List Inst) : results (a ++ b) = results a ++ results b :=
  List.filterMap_append ..

theorem results_cons (i : Inst) (insts : List Inst) :
    results (i :: insts) = i.result?.toList ++ results insts := by
  rw [results, List.filterMap_cons]
  cases i.result? <;> rfl

theorem mem_results {insts : List Inst} {id : Word} :
    id ∈ results insts ↔ ∃ i ∈ insts, i.result? = some id :=
  List.mem_filterMap

/-- What more instructions define include what some of them do. -/
theorem results_subset {a b : List Inst} (h : a ⊆ b) : results a ⊆ results b := by
  intro id hid
  obtain ⟨i, hi, hr⟩ := mem_results.1 hid
  exact mem_results.2 ⟨i, h hi, hr⟩

namespace Inst

/-- The ids among the operands of an instruction; other operands are numbers and texts. In an entry
point, the text takes `nameWords` words. -/
def operandIds (nameWords : Nat) (i : Inst) : List Word :=
  match i.op with
  | .capability | .extInstImport | .memoryModel | .typeVoid | .typeBool | .typeInt | .typeFloat
  | .typeSampler | .constant | .globalVariable | .label | .functionReturn | .functionEnd => []
  | .name | .memberName | .decorate | .memberDecorate | .executionMode | .typeVector | .typeImage
  | .compositeExtract => i.operands.take 1
  | .entryPoint => (i.operands.drop 1).take 1 ++ i.operands.drop (2 + nameWords)
  | .typePointer | .function => i.operands.drop 1
  | .vectorShuffle | .compositeInsert => i.operands.take 2
  | .extInst => i.operands.take 1 ++ i.operands.drop 2
  | .imageSampleExplicitLod => i.operands.take 2 ++ i.operands.drop 3
  | .typeSampledImage | .typeArray | .typeStruct | .typeFunction | .constantComposite | .load
  | .store | .accessChain | .compositeConstruct | .sampledImage | .imageSampleImplicitLod
  | .bitcast | .sNegate | .fNegate | .iAdd | .fAdd | .iMul | .fMul | .dot => i.operands

/-- All ids that an instruction refers to. -/
def references (nameWords : Nat) (i : Inst) : List Word :=
  i.resultType?.toList ++ i.operandIds nameWords

/-- The values among the operands of an instruction of a function. -/
def valueIds (i : Inst) : List Word :=
  match i.op with
  | .function => []
  | .extInst => i.operands.drop 2
  | _ => i.operandIds 0

end Inst

/-! ## Blocks -/

/-- Whether an instruction can stand between the label of a block and its end. -/
def Inst.IsInner (i : Inst) : Prop :=
  i.op ≠ .label ∧ i.op ≠ .functionReturn ∧ i.op ≠ .function ∧ i.op ≠ .functionEnd

/-- Whether instructions are a complete block: a label, instructions that stay in the block, and a
return. -/
def IsBlock (block : List Inst) : Prop :=
  ∃ first code last, block = first :: (code ++ [last]) ∧ first.op = .label ∧
    last.op = .functionReturn ∧ ∀ i ∈ code, i.IsInner

/-- How an instruction changes the code of the open block. -/
def stepBlock (block? : Option (List Inst)) (i : Inst) : Option (List Inst) :=
  match i.op with
  | .label => some []
  | .functionReturn => none
  | _ => block?.map (· ++ [i])

/-- The code of the open block behind its label, `none` if no block is open. -/
def openBlock (insts : List Inst) : Option (List Inst) := insts.foldl stepBlock none

theorem openBlock_concat (insts : List Inst) (i : Inst) :
    openBlock (insts ++ [i]) = stepBlock (openBlock insts) i := by
  rw [openBlock, List.foldl_append]
  rfl

theorem openBlock_concat_label {insts : List Inst} {i : Inst} (hi : i.op = .label) :
    openBlock (insts ++ [i]) = some [] := by
  rw [openBlock_concat, stepBlock, hi]

theorem openBlock_concat_return {insts : List Inst} {i : Inst} (hi : i.op = .functionReturn) :
    openBlock (insts ++ [i]) = none := by
  rw [openBlock_concat, stepBlock, hi]

theorem stepBlock_inner {block? : Option (List Inst)} {i : Inst} (hi : i.IsInner) :
    stepBlock block? i = block?.map (· ++ [i]) := by
  obtain ⟨hl, hr, -, -⟩ := hi
  rw [stepBlock]
  split <;> simp_all

theorem openBlock_concat_inner {insts : List Inst} {i : Inst} (hi : i.IsInner) :
    openBlock (insts ++ [i]) = (openBlock insts).map (· ++ [i]) := by
  rw [openBlock_concat, stepBlock_inner hi]

/-- Instructions that stay in the block are added to the open block. -/
theorem openBlock_append_inner {insts code : List Inst} (hc : ∀ i ∈ code, i.IsInner) :
    openBlock (insts ++ code) = (openBlock insts).map (· ++ code) := by
  induction code generalizing insts with
  | nil => simp
  | cons i code ih =>
    rw [List.append_cons, ih fun j hj => hc j (List.mem_cons_of_mem _ hj),
      openBlock_concat_inner (hc i (List.mem_cons_self ..)), Option.map_map]
    simp only [Function.comp_def, List.append_assoc, List.singleton_append]

/-- Behind a label, the code of the block is what has come since. -/
theorem openBlock_label_append {insts code : List Inst} {first : Inst} (hf : first.op = .label)
    (hc : ∀ i ∈ code, i.IsInner) : openBlock (insts ++ first :: code) = some code := by
  rw [List.append_cons, openBlock_append_inner hc, openBlock_concat_label hf]
  rfl

/-- The code of the open block is part of what has come so far. -/
theorem openBlock_subset {insts : List Inst} : (openBlock insts).getD [] ⊆ insts := by
  have hstep (before : List Inst) (block? : Option (List Inst)) (rest : List Inst)
      (hb : block?.getD [] ⊆ before) :
      (rest.foldl stepBlock block?).getD [] ⊆ before ++ rest := by
    induction rest generalizing before block? with
    | nil => simpa using hb
    | cons i rest ih =>
      rw [List.foldl_cons, List.append_cons]
      refine ih _ _ ?_
      rw [stepBlock]
      split
      · exact List.nil_subset _
      · exact List.nil_subset _
      · cases block? with
        | none => exact List.nil_subset _
        | some code =>
          intro j hj
          rcases List.mem_append.1 hj with hj | hj
          · exact List.mem_append_left _ (hb hj)
          · exact List.mem_append_right _ hj
  exact hstep [] none insts (List.nil_subset _)

/-! ## Discipline -/

/-- What a module keeps to, given its instructions, the bound on ids in its header, and the number
of words that the name of the entry point takes. -/
structure Disciplined (nameWords bound : Nat) (insts : List Inst) : Prop where
  /-- No result is zero or reaches the bound. -/
  bounded : ∀ id ∈ results insts, id ≠ 0 ∧ id.toNat < bound
  /-- Every result is defined once. -/
  once : (results insts).Nodup
  /-- Every reference has its definition. -/
  defined : ∀ i ∈ insts, ∀ id ∈ i.references nameWords, id ∈ results insts
  /-- Types, constants and variables refer to earlier ones. -/
  earlier : ∀ before i behind, globalSection insts = before ++ i :: behind →
    ∀ id ∈ i.references nameWords, id ∈ results before
  /-- There is one function, of complete blocks, and a value in it is a type, constant or variable,
  or it is defined before in the same block. -/
  function : ∃ first blocks last, functionSection insts = first :: (blocks.flatten ++ [last]) ∧
    first.op = .function ∧ last.op = .functionEnd ∧ blocks ≠ [] ∧
    ∀ block ∈ blocks, IsBlock block ∧
      ∀ before i behind, block = before ++ i :: behind → ∀ id ∈ i.valueIds,
        id ∈ results (globalSection insts) ∨ id ∈ results before

end ShaderLowering.Spirv
