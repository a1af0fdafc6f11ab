import ShaderLowering.Proofs.Spirv.Additions
import ShaderLowering.Proofs.Spirv.Decoding

/-!
# Binding decorations of modules

Finished code is changed in one way only: the numbers of its binding decorations are replaced. On
words this is `Code.mapBindings`; here it is described on the instructions of a module, for code that
is framed well. `decorations` lists what the decorations of one kind say of an id.
-/

namespace ShaderLowering.Spirv

namespace Inst

/-- The number of a binding decoration, if an instruction is one. -/
def binding? (i : Inst) : Option Word :=
  match i.op, i.operands with
  | .decorate, _ :: decoration :: number :: _ =>
    if decoration = Decoration.binding.number then some number else none
  | _, _ => none

/-- An instruction with another number, if it is a binding decoration. -/
def mapBinding (f : Word → Word) (i : Inst) : Inst :=
  match i.binding? with
  | some number => { i with operands := i.operands.set 2 (f number) }
  | none => i

/-- The number that a binding decoration comes to. -/
theorem binding?_mapBinding (f : Word → Word) (i : Inst) :
    (i.mapBinding f).binding? = i.binding?.map f := by
  rw [mapBinding]
  split
  · next number h =>
    obtain ⟨op, type?, result?, operands⟩ := i
    simp only [binding?] at h ⊢
    split at h
    · next heq =>
      split at h
      · next hdecoration =>
        cases h
        simp [hdecoration]
      · cases h
    · cases h
  · next h => rw [h, Option.map_none]

/-- A binding decoration says where a variable is bound. -/
theorem isBinding_of_binding? {i : Inst} {number : Word} (h : i.binding? = some number) :
    i.isBinding = true := by
  obtain ⟨op, type?, result?, operands⟩ := i
  simp only [binding?] at h
  split at h
  · split at h
    · next heq => simp [isBinding, heq]
    · cases h
  · cases h

/-- A binding decoration has no result, and its operands stand right behind its first word. -/
theorem words_of_isLaidOut {i : Inst} (hi : i.IsLaidOut) (hop : i.op = .decorate) :
    i.words = headWord Op.decorate.code (i.operands.length + 1) :: i.operands := by
  obtain ⟨op, type?, result?, operands⟩ := i
  simp only at hop
  subst hop
  obtain ⟨rfl, rfl⟩ := hi
  rfl

end Inst

/-- What the decorations of a kind say of an id. -/
def decorations (insts : List Inst) (id : Word) (d : Decoration) : List (List Word) :=
  insts.filterMap fun i =>
    match i.op, i.operands with
    | .decorate, target :: number :: args =>
      if target = id ∧ number = d.number then some args else none
    | _, _ => none

/-- Other instructions say nothing of where a variable is bound. -/
theorem decorations_filter_isBinding (insts : List Inst) (id : Word) {d : Decoration}
    (hd : d = .descriptorSet ∨ d = .binding) :
    decorations (insts.filter Inst.isBinding) id d = decorations insts id d := by
  rw [decorations, decorations, List.filterMap_filter]
  refine List.filterMap_congr fun i _ => ?_
  split
  · rfl
  · next hb =>
    obtain ⟨op, type?, result?, operands⟩ := i
    dsimp only
    split
    · rcases hd with rfl | rfl
      · simp_all [Inst.isBinding]
      · simp_all [Inst.isBinding]
    · rfl

namespace Code

variable {i : Inst}

/-- The words of an instruction tell whether it is a binding decoration. -/
theorem binding?_words (hi : i.IsLaidOut) (hl : i.words.length < 0x10000) :
    binding? i.words = i.binding? := by
  have hhead : (headWord i.op.code (i.tailWords.length + 1)).field 0 16 = i.op.code :=
    opcode_headWord i.op.code_lt hl
  by_cases hop : i.op = .decorate
  · rw [Inst.words_of_isLaidOut hi hop] at hl ⊢
    have hdecorate := opcode_headWord Op.decorate.code_lt hl
    generalize headWord Op.decorate.code (i.operands.length + 1) = head at hdecorate
    rw [Inst.binding?, hop]
    -- both sides look at the third operand, and there is nothing to say of fewer
    rcases i.operands with _ | ⟨id, _ | ⟨decoration, _ | ⟨number, rest⟩⟩⟩
    · rfl
    · rfl
    · rfl
    · simp only [binding?, hdecorate, true_and]
  · have hcode : i.op.code ≠ Op.decorate.code := fun h => hop (Op.code_inj h)
    have hnone : i.binding? = none := by
      rw [Inst.binding?]
      split
      · next h _ => exact (hop h).elim
      · rfl
    rw [hnone, Inst.words]
    generalize headWord i.op.code (i.tailWords.length + 1) = head at hhead
    rcases i.tailWords with _ | ⟨id, _ | ⟨decoration, _ | ⟨number, rest⟩⟩⟩
    · rfl
    · rfl
    · rfl
    · simp only [binding?, hhead, hcode, false_and, if_false]

/-- Replacing a number in the words of an instruction replaces it in the instruction. -/
theorem mapBinding_words (hi : i.IsLaidOut) (hl : i.words.length < 0x10000) (f : Word → Word) :
    mapBinding f i.words = (i.mapBinding f).words := by
  rw [mapBinding, Inst.mapBinding, binding?_words hi hl]
  rcases hb : i.binding? with _ | number
  · rfl
  · have hop : i.op = .decorate := by
      rw [Inst.binding?] at hb
      split at hb
      · next hop _ => exact hop
      · cases hb
    rw [Inst.words_of_isLaidOut hi hop]
    obtain ⟨op, type?, result?, operands⟩ := i
    simp only at hop
    subst hop
    obtain ⟨rfl, rfl⟩ := hi
    simp only [Inst.words, Inst.tailWords, Option.toList_none, List.nil_append, List.length_set,
      List.set_cons_succ]

end Code

namespace Module

variable {m : Module}

/-- The bindings of the code of a module are those of its instructions. -/
theorem bindings_code (hl : m.IsEncodable) (hm : ∀ i ∈ m.instructions, i.IsLaidOut) :
    m.code.bindings = m.instructions.filterMap Inst.binding? := by
  rw [Code.bindings, blocks_code hl, List.filterMap_map]
  exact List.filterMap_congr fun i hi =>
    Code.binding?_words (hm i hi) (Nat.lt_succ_of_le (hl i hi))

/-- Replacing the numbers in the code of a module replaces them in its instructions, and changes
nothing else. -/
theorem mapBindings_code (hl : m.IsEncodable) (hm : ∀ i ∈ m.instructions, i.IsLaidOut)
    (f : Word → Word) :
    m.code.mapBindings f =
      ⟨m.header ++ (m.instructions.map (Inst.mapBinding f)).flatMap Inst.words⟩ := by
  have hblocks : m.instructions.map (Code.mapBinding f ∘ Inst.words) =
      m.instructions.map (Inst.words ∘ Inst.mapBinding f) :=
    List.map_congr_left fun i hi => Code.mapBinding_words (hm i hi) (Nat.lt_succ_of_le (hl i hi)) f
  have hheader : m.code.header = m.header := rfl
  rw [Code.mapBindings, blocks_code hl, tail_code hl, hheader, List.append_nil, List.map_map,
    hblocks, ← List.map_map, List.flatMap_def]

end Module

end ShaderLowering.Spirv
