import ShaderLowering.Proofs.Spirv.Bindings
import ShaderLowering.Proofs.Spirv.Ids
import ShaderLowering.Proofs.Spirv.Literals

/-!
# Code with another name for its entry point

`Code.renamed` drops the names for debuggers from finished code and replaces the name of the entry
point. It works on words alone: it finds the end of the old name by the zero byte, and the new
length of the instruction goes into its first word. All other instructions stay as they are
(`filterMap_rename?_of_section`), and so does the header.
-/

namespace ShaderLowering.Spirv

/-! ## Renaming -/

namespace Code

/-- An instruction with another name, if it declares the entry point, and none, if it gives a name
to debuggers. -/
def rename? (name : String) : List Word → Option (List Word)
  | [] => some []
  | head :: rest =>
    let opcode := head.field 0 16
    if opcode = Op.name.code ∨ opcode = Op.memberName.code then none
    else if opcode = Op.entryPoint.code then
      let renamed := rest.take 2 ++ (stringWords name ++ behindLiteral (rest.drop 2))
      some (headWord opcode (renamed.length + 1) :: renamed)
    else some (head :: rest)

/-- Code with another name for its entry point and without names for debuggers. -/
def renamed (name : String) (c : Code) : Code :=
  ⟨c.header ++ ((c.blocks.filterMap (rename? name)).flatten ++ c.tail)⟩

variable {i : Inst} {insts : List Inst}

/-- The opcode of an instruction, read from its first word. -/
theorem opcode_words (hl : i.words.length ≤ 0xffff) :
    (headWord i.op.code (i.tailWords.length + 1)).field 0 16 = i.op.code :=
  opcode_headWord i.op.code_lt (Nat.lt_succ_of_le hl)

/-- Names for debuggers are dropped. -/
theorem rename?_of_name (hl : i.words.length ≤ 0xffff) (hi : i.op.section = .name) (name : String) :
    rename? name i.words = none := by
  have hop : i.op = .name ∨ i.op = .memberName := by
    revert hi
    cases i.op <;> simp [Op.section]
  rw [Inst.words, rename?]
  simp only [opcode_words hl]
  rcases hop with hop | hop <;> simp [hop]

/-- All other instructions stay, except for entry points. -/
theorem rename?_of_section (hl : i.words.length ≤ 0xffff) (hname : i.op.section ≠ .name)
    (hentry : i.op.section ≠ .entry) (name : String) : rename? name i.words = some i.words := by
  have hop (op : Op) (h : i.op.section ≠ op.section) : i.op.code ≠ op.code := fun hcode =>
    h (congrArg Op.section (Op.code_inj hcode))
  rw [Inst.words, rename?]
  simp only [opcode_words hl]
  rw [if_neg (not_or.2 ⟨hop .name hname, hop .memberName hname⟩), if_neg (hop .entryPoint hentry)]

/-- The declaration of an entry point gets the other name. -/
theorem rename?_entryPoint {model function : Word} {old : String} {interfaces : List Word}
    (hold : '\x00' ∉ old.toList)
    (hl : (Inst.effect .entryPoint
      (model :: function :: (stringWords old ++ interfaces))).words.length ≤ 0xffff)
    (name : String) :
    rename? name (Inst.effect .entryPoint
        (model :: function :: (stringWords old ++ interfaces))).words =
      some (Inst.effect .entryPoint
        (model :: function :: (stringWords name ++ interfaces))).words := by
  have hopcode := opcode_words hl
  rw [Inst.words, rename?]
  simp only [hopcode]
  have htail :
      (Inst.effect .entryPoint (model :: function :: (stringWords old ++ interfaces))).tailWords =
        model :: function :: (stringWords old ++ interfaces) := rfl
  rw [htail]
  simp only [List.take_succ_cons, List.take_zero, List.drop_succ_cons, List.drop_zero,
    behindLiteral_stringWords hold]
  rfl

theorem filterMap_rename?_of_name (hl : ∀ i ∈ insts, i.words.length ≤ 0xffff)
    (h : ∀ i ∈ insts, i.op.section = .name) (name : String) :
    (insts.map Inst.words).filterMap (rename? name) = [] := by
  rw [List.filterMap_map, List.filterMap_eq_nil_iff]
  exact fun i hi => rename?_of_name (hl i hi) (h i hi) name

theorem filterMap_rename?_of_section (hl : ∀ i ∈ insts, i.words.length ≤ 0xffff)
    (h : ∀ i ∈ insts, i.op.section ≠ .name ∧ i.op.section ≠ .entry) (name : String) :
    (insts.map Inst.words).filterMap (rename? name) = insts.map Inst.words := by
  rw [List.filterMap_map, ← List.filterMap_eq_map]
  refine List.filterMap_congr fun i hi => ?_
  obtain ⟨hname, hentry⟩ := h i hi
  exact rename?_of_section (hl i hi) hname hentry name

end Code

/-- The code of a module with another name: the header and the renamed instructions. -/
theorem Module.renamed_code {m : Module} (hl : m.IsEncodable) (name : String) :
    m.code.renamed name =
      ⟨m.header ++ ((m.instructions.map Inst.words).filterMap (Code.rename? name)).flatten⟩ := by
  rw [Code.renamed, blocks_code hl, tail_code hl, List.append_nil]
  rfl

end ShaderLowering.Spirv
