import ShaderLowering.Proofs.Token.WholeInstructions
import ShaderLowering.Proofs.Words

/-!
# Programs are read back as they were written

What is written is read back: `programWords_readBack`. The parts of a token do not overlap, so each
field of a written token is the part that was put there (`token_instruction`, `stage_versionToken`);
written instructions are sound, and a reader yields sound instructions that follow each other. In
the other direction, whatever bytes a program is read from, the program is written as the first of
them.
-/

namespace ShaderLowering

/-! ## Extended tokens -/

namespace InstructionDraft

@[simp] theorem length_chained (ws : List Word) : (chained ws).length = ws.length := by
  fun_induction chained ws with
  | case1 => rfl
  | case2 => rfl
  | case3 w ws _ ih => rw [List.length_cons, ih, List.length_cons]

/-- Written extended tokens announce each other. -/
theorem isChain_chained {ws : List Word} (h : ∀ w ∈ ws, w.extended = false) :
    IsChain (!ws.isEmpty) (chained ws) := by
  fun_induction chained ws with
  | case1 => rfl
  | case2 w =>
    change IsChain w.extended []
    rw [h w (List.mem_singleton_self w)]
    rfl
  | case3 w ws hne ih =>
    have hrest := ih fun v hv => h v (List.mem_cons_of_mem _ hv)
    have hannounced : (w ||| Word.extendedBit).extended = true := by
      rw [Word.extended, Word.flag_or, Word.flag_extendedBit, Bool.or_true]
    change IsChain (w ||| Word.extendedBit).extended (chained ws)
    cases ws with
    | nil => exact (hne rfl).elim
    | cons v ws =>
      rw [hannounced]
      exact hrest

/-- Apart from the bit that is set on writing, extended tokens are written as they are. -/
theorem map_cleared_chained (ws : List Word) :
    (chained ws).map (· &&& ~~~Word.extendedBit) = ws.map (· &&& ~~~Word.extendedBit) := by
  have hcleared (w : Word) :
      (w ||| Word.extendedBit) &&& ~~~Word.extendedBit = w &&& ~~~Word.extendedBit := by
    refine UInt32.toBitVec_inj.1 (BitVec.eq_of_getLsbD_eq fun i hi => ?_)
    simp only [UInt32.toBitVec_and, UInt32.toBitVec_or, BitVec.getLsbD_and, BitVec.getLsbD_or,
      UInt32.toBitVec_not, BitVec.getLsbD_not]
    cases Word.extendedBit.toBitVec.getLsbD i <;> simp
  fun_induction chained ws with
  | case1 => rfl
  | case2 w => rfl
  | case3 w ws _ ih => rw [List.map_cons, List.map_cons, ih, hcleared]

/-- Adding extended tokens to a draft keeps everything else. -/
theorem foldl_extension (extensions : List Word) (d : InstructionDraft) :
    extensions.foldl extension d =
      { d with extensions := d.extensions ++ extensions.map (· &&& ~~~Word.extendedBit) } := by
  induction extensions generalizing d with
  | nil => rw [List.foldl_nil, List.map_nil, List.append_nil]
  | cons w extensions ih =>
    rw [List.foldl_cons, ih, extension, List.map_cons, List.append_assoc, List.singleton_append]

end InstructionDraft

/-! ## Written instructions -/

/-- An instruction to be written, by what it is made of. -/
inductive WrittenInstruction where
  /-- An opcode with control bits at their places, extended tokens and argument words. -/
  | plain (opcode : Opcode) (control : Word) (extensions args : List Word)
  /-- Custom data of a class. -/
  | data (dataClass : Word) (payload : List Word)

namespace WrittenInstruction

/-- The words of the instruction. -/
def words : WrittenInstruction → List Word
  | plain opcode control extensions args =>
    ((extensions.foldl InstructionDraft.extension
      ((InstructionDraft.ofOpcode opcode).withControl control)).operand args).words
  | data dataClass payload =>
    (Opcode.customdata.raw.toUInt32 ||| dataClass <<< 11) :: UInt32.ofNat (payload.length + 2)
      :: payload

/-- The opcode of the instruction. -/
def opcode : WrittenInstruction → Opcode
  | plain opcode _ _ _ => opcode
  | data _ _ => .customdata

/-- The control field: the control bits moved down, or the class of custom data. -/
def control : WrittenInstruction → Nat
  | plain _ control _ _ => control.field 11 13
  | data dataClass _ => dataClass.field 0 13

/-- The extended tokens. -/
def extensions : WrittenInstruction → List Word
  | plain _ _ extensions _ => extensions
  | data _ _ => []

/-- The argument words. -/
def args : WrittenInstruction → List Word
  | plain _ _ _ args => args
  | data _ payload => payload

/-- Whether the parts fit their places: the control bits lie in the control field, and the length of
an instruction fits the token. Custom data has its length in a word of its own. -/
def Fits : WrittenInstruction → Prop
  | plain opcode control extensions args =>
    opcode ≠ .customdata ∧ control.Within 11 24 ∧ 1 + extensions.length + args.length ≤ 127
  | data _ _ => True

/-- Whether an instruction at a position is what was written there. -/
structure IsReadAs (w : WrittenInstruction) (position : Nat) (i : Instruction) : Prop where
  position : i.position = position
  opcode : i.opcode = w.opcode
  control : i.control.raw = w.control
  extensions : i.extensions.map (·.word &&& ~~~Word.extendedBit) =
    w.extensions.map (· &&& ~~~Word.extendedBit)
  args : i.args = w.args
  words : i.words = w.words
  length : i.length = w.words.length

/-- What the words are read as at a position. -/
def instruction (w : WrittenInstruction) (position : Nat) : Instruction where
  position
  token := ⟨w.words.headD 0⟩
  opcode := w.opcode
  head := match w with
    | plain _ _ extensions _ =>
      InstructionDraft.chained (extensions.map (· &&& ~~~Word.extendedBit))
    | data _ payload => [UInt32.ofNat (payload.length + 2)]
  args := w.args

/-- The words of an instruction that is made of an opcode. -/
theorem words_plain (opcode : Opcode) (control : Word) (extensions args : List Word) :
    (plain opcode control extensions args).words =
      (opcode.raw.toUInt32 ||| control |||
        Word.place ((1 + extensions.length + args.length) % 128) 24 |||
        (if extensions.isEmpty then 0 else Word.extendedBit)) ::
      (InstructionDraft.chained (extensions.map (· &&& ~~~Word.extendedBit)) ++ args) := by
  rw [words, InstructionDraft.foldl_extension]
  simp only [InstructionDraft.words, InstructionDraft.token, InstructionDraft.operand,
    InstructionDraft.withControl, InstructionDraft.ofOpcode, InstructionDraft.length,
    List.nil_append, List.length_map, List.isEmpty_map, UInt32.zero_or]
  split
  · rw [UInt32.or_zero]
  · rfl

theorem words_instruction (w : WrittenInstruction) (position : Nat) :
    (w.instruction position).words = w.words := by
  cases w with
  | plain opcode control extensions args =>
    rw [Instruction.words, instruction, words_plain]
    rfl
  | data dataClass payload => rfl

/-- The number of an opcode is the field for it, and has no bits outside. -/
theorem raw_toUInt32 (opcode : Opcode) :
    Word.field opcode.raw.toUInt32 0 11 = opcode.raw ∧ Word.Within opcode.raw.toUInt32 0 11 := by
  have hraw : opcode.raw < 2 ^ 11 := by cases opcode <;> decide
  rw [← Word.place_zero]
  exact ⟨Word.field_place hraw (by decide), by simpa using Word.within_place hraw 0⟩

/-- Each field of the token of an instruction that is made of an opcode is what was put there. -/
theorem token_plain {opcode : Opcode} {control : Word} {extensions args : List Word}
    (h : (plain opcode control extensions args).Fits) {token : OpcodeToken}
    (htoken : token.word = (plain opcode control extensions args).words.headD 0) :
    token.opcodeRaw = opcode.raw ∧ token.control.raw = control.field 11 13 ∧
      token.length = 1 + extensions.length + args.length ∧
      token.word.extended = !extensions.isEmpty := by
  obtain ⟨-, hcontrol, hlength⟩ := h
  obtain ⟨hopcode, hwithin⟩ := raw_toUInt32 opcode
  rw [words_plain, List.headD_cons, Nat.mod_eq_of_lt (by omega)] at htoken
  have hn : 1 + extensions.length + args.length < 2 ^ 7 := by omega
  have hplace := Word.within_place hn 24
  have hlast : (if extensions.isEmpty then (0 : Word) else Word.extendedBit).Within 31 32 := by
    split
    · intro n hbit
      simp at hbit
    · exact Word.within_extendedBit
  refine ⟨?_, ?_, ?_, ?_⟩
  · rw [OpcodeToken.opcodeRaw, htoken]
    simp only [Word.field_or]
    rw [hopcode, hcontrol.field_eq_zero (by omega), hplace.field_eq_zero (by omega),
      hlast.field_eq_zero (by omega), Nat.or_zero, Nat.or_zero, Nat.or_zero]
  · rw [OpcodeToken.control, htoken]
    simp only [Word.field_or]
    rw [hwithin.field_eq_zero (by omega), hplace.field_eq_zero (by omega),
      hlast.field_eq_zero (by omega), Nat.zero_or, Nat.or_zero, Nat.or_zero]
  · rw [OpcodeToken.length, htoken]
    simp only [Word.field_or]
    rw [hwithin.field_eq_zero (by omega), hcontrol.field_eq_zero (by omega),
      Word.field_place hn (by decide), hlast.field_eq_zero (by omega), Nat.zero_or, Nat.zero_or,
      Nat.or_zero]
  · rw [Word.extended, htoken]
    simp only [Word.flag_or]
    rw [hwithin.flag_eq_false (by omega), hcontrol.flag_eq_false (by omega),
      hplace.flag_eq_false (by omega), Bool.false_or, Bool.false_or, Bool.false_or]
    cases extensions.isEmpty
    · exact Word.flag_extendedBit
    · rfl

/-- The fields of the token of custom data are the opcode and the class. -/
theorem token_data (dataClass : Word) (payload : List Word) {token : OpcodeToken}
    (htoken : token.word = (data dataClass payload).words.headD 0) :
    token.opcodeRaw = Opcode.customdata.raw ∧ token.control.raw = dataClass.field 0 13 := by
  obtain ⟨hopcode, hwithin⟩ := raw_toUInt32 .customdata
  have hbit (n : Nat) : (dataClass <<< 11).toNat.testBit n =
      (decide (n < 32) && (decide (11 ≤ n) && dataClass.toNat.testBit (n - 11))) := by
    rw [UInt32.toNat_shiftLeft, Nat.testBit_mod_two_pow]
    have hshift : (11 : UInt32).toNat % 32 = 11 := by decide
    rw [hshift, Nat.testBit_shiftLeft]
  have hclass : (dataClass <<< 11).Within 11 32 := by
    intro n hn
    rw [hbit] at hn
    simp only [Bool.and_eq_true, decide_eq_true_eq] at hn
    exact ⟨hn.2.1, hn.1⟩
  rw [words, List.headD_cons] at htoken
  constructor
  · rw [OpcodeToken.opcodeRaw, htoken, Word.field_or, hopcode, hclass.field_eq_zero (by omega),
      Nat.or_zero]
  · rw [OpcodeToken.control, htoken, Word.field_or, hwithin.field_eq_zero (by omega), Nat.zero_or]
    refine Nat.eq_of_testBit_eq fun n => ?_
    rw [Word.testBit_field, Word.testBit_field, hbit, Nat.zero_add, Nat.add_sub_cancel_left]
    by_cases hn : n < 13
    · have hword : 11 + n < 32 := by omega
      simp [hn, hword]
    · simp [hn]

/-- A written instruction is one that can be decoded. -/
theorem isSound_instruction {w : WrittenInstruction} (hw : w.Fits)
    (hsize : w.words.length < 2 ^ 32) (position : Nat) : (w.instruction position).IsSound := by
  have hlength : (w.instruction position).length = w.words.length :=
    congrArg List.length (words_instruction w position)
  have hopcode {token : OpcodeToken} (h : token.opcodeRaw = w.opcode.raw) :
      token.opcode? = some w.opcode := by
    rw [OpcodeToken.opcode?, h]
    exact Numbered.ofRaw?_raw _
  cases w with
  | plain opcode control extensions args =>
    have hword : ((plain opcode control extensions args).instruction position).token.word =
        (plain opcode control extensions args).words.headD 0 := rfl
    obtain ⟨hraw, -, htoken, hextended⟩ := token_plain hw hword
    have hother :
        ((plain opcode control extensions args).instruction position).opcode ≠ .customdata := hw.1
    refine ⟨hopcode hraw, ?_⟩
    rw [if_neg hother, hlength, htoken, hextended, words_plain]
    constructor
    · have hcleared : ∀ v ∈ extensions.map (· &&& ~~~Word.extendedBit), v.extended = false := by
        intro v hv
        obtain ⟨w, -, rfl⟩ := List.mem_map.1 hv
        exact Word.extended_cleared w
      have hchain := InstructionDraft.isChain_chained hcleared
      rwa [List.isEmpty_map] at hchain
    · rw [List.length_cons, List.length_append, InstructionDraft.length_chained, List.length_map]
      omega
  | data dataClass payload =>
    have hword : ((data dataClass payload).instruction position).token.word =
        (data dataClass payload).words.headD 0 := rfl
    obtain ⟨hraw, -⟩ := token_data dataClass payload hword
    have hcustom : ((data dataClass payload).instruction position).opcode = .customdata := rfl
    refine ⟨hopcode hraw, ?_⟩
    rw [if_pos hcustom, hlength]
    refine ⟨UInt32.ofNat (payload.length + 2), rfl, ?_⟩
    exact UInt32.toNat_ofNat_of_lt' hsize

/-- What is read is what was written. -/
theorem isReadAs_instruction {w : WrittenInstruction} (hw : w.Fits) (position : Nat) :
    w.IsReadAs position (w.instruction position) where
  position := rfl
  opcode := rfl
  control := by
    cases w with
    | plain opcode control extensions args => exact (token_plain hw rfl).2.1
    | data dataClass payload => exact (token_data dataClass payload rfl).2
  extensions := by
    cases w with
    | plain opcode control extensions args =>
      have hexts : ((plain opcode control extensions args).instruction position).extensions =
          (InstructionDraft.chained (extensions.map (· &&& ~~~Word.extendedBit))).map .mk :=
        if_neg hw.1
      have hclear : ((· &&& ~~~Word.extendedBit) ∘ (· &&& ~~~Word.extendedBit)) =
          ((· &&& ~~~Word.extendedBit) : Word → Word) := by
        funext v
        exact (UInt32.and_assoc ..).trans (congrArg (v &&& ·) (by decide))
      rw [hexts, List.map_map]
      exact (InstructionDraft.map_cleared_chained _).trans
        (by rw [List.map_map, hclear]; rfl)
    | data dataClass payload => rfl
  args := rfl
  words := words_instruction w position
  length := congrArg List.length (words_instruction w position)

/-! ## Instructions that are written one after the other -/

/-- What written instructions are read as from a position on. -/
def readBack : Nat → List WrittenInstruction → List Instruction
  | _, [] => []
  | position, w :: written =>
    w.instruction position :: readBack (position + w.words.length) written

theorem length_readBack (position : Nat) (written : List WrittenInstruction) :
    (readBack position written).length = written.length := by
  induction written generalizing position with
  | nil => rfl
  | cons w written ih => rw [readBack, List.length_cons, ih, List.length_cons]

/-- Written instructions follow each other, and have the words that were written. -/
theorem contiguous_readBack {written : List WrittenInstruction} (hw : ∀ w ∈ written, w.Fits)
    (hsize : (written.flatMap words).length < 2 ^ 32) (position : Nat) :
    Contiguous position (readBack position written) ∧
      (readBack position written).flatMap Instruction.words = written.flatMap words := by
  induction written generalizing position with
  | nil => exact ⟨trivial, rfl⟩
  | cons w written ih =>
    rw [List.flatMap_cons, List.length_append] at hsize
    have hfirst := isSound_instruction (hw w (List.mem_cons_self ..)) (by omega) position
    have hlength : (w.instruction position).length = w.words.length :=
      congrArg List.length (words_instruction w position)
    obtain ⟨hcontiguous, hwords⟩ := ih (fun v hv => hw v (List.mem_cons_of_mem _ hv)) (by omega)
      (position + w.words.length)
    refine ⟨⟨rfl, hfirst, ?_⟩, ?_⟩
    · rw [hlength]
      exact hcontiguous
    · rw [readBack, List.flatMap_cons, hwords, words_instruction, List.flatMap_cons]

/-- Each written instruction is read behind those before it. -/
theorem isReadAs_of_getElem? {written : List WrittenInstruction} (hw : ∀ w ∈ written, w.Fits)
    {position n : Nat} {w : WrittenInstruction} {i : Instruction} (hwritten : written[n]? = some w)
    (hread : (readBack position written)[n]? = some i) :
    w.IsReadAs (position + ((written.take n).flatMap words).length) i := by
  induction written generalizing position n with
  | nil => cases hwritten
  | cons v written ih =>
    cases n with
    | zero =>
      cases hwritten
      cases hread
      exact isReadAs_instruction (hw w (List.mem_cons_self ..)) position
    | succ n =>
      rw [List.take_succ_cons, List.flatMap_cons, List.length_append, ← Nat.add_assoc]
      exact ih (fun u hu => hw u (List.mem_cons_of_mem _ hu)) hwritten hread

end WrittenInstruction

/-! ## Programs -/

namespace ShaderStage

/-- Whether the number of a stage is one that a version token can hold and that no other stage has.
-/
def IsNumbered (stage : ShaderStage) : Prop :=
  ∀ n, stage = .unknown n → 6 ≤ n ∧ n < 0x10000

theorem IsNumbered.ofProgramType {stage : ShaderStage} (h : stage.IsNumbered) :
    ofProgramType stage.programType = stage ∧ stage.programType < 2 ^ 16 := by
  cases stage with
  | unknown n =>
    obtain ⟨hmin, hmax⟩ := h n rfl
    refine ⟨?_, hmax⟩
    rw [programType]
    unfold ShaderStage.ofProgramType
    split
    iterate 6 omega
    rfl
  | _ => exact ⟨rfl, by decide⟩

end ShaderStage

/-- The version token tells the stage and the shader model. -/
theorem stage_versionToken {stage : ShaderStage} (h : stage.IsNumbered) :
    (versionToken stage 5 0).stage = stage ∧ (versionToken stage 5 0).model = ⟨5, 0⟩ := by
  obtain ⟨hstage, hnumber⟩ := h.ofProgramType
  have hwithin := Word.within_place hnumber 16
  have hfive : (Word.place 5 4).field 16 16 = 0 ∧ (Word.place 5 4).field 4 4 = 5 ∧
    (Word.place 5 4).field 0 4 = 0 := by decide
  have hzero : Word.field (UInt32.ofNat 0) 16 16 = 0 ∧ Word.field (UInt32.ofNat 0) 4 4 = 0 ∧
    Word.field (UInt32.ofNat 0) 0 4 = 0 := by decide
  constructor
  · rw [Word.stage, versionToken, Word.field_or, Word.field_or,
      Word.field_place hnumber (by decide), hfive.1, hzero.1, Nat.or_zero, Nat.or_zero, hstage]
  · rw [Word.model, versionToken]
    simp only [Word.field_or]
    rw [hwithin.field_eq_zero (by omega), hwithin.field_eq_zero (by omega), hfive.2.1, hfive.2.2,
      hzero.2.1, hzero.2.2]
    rfl

/-- A program is written as the first of the bytes that it was read from. -/
theorem Program.toBytes_prefix_of_ofBytes {bytes : List UInt8} {p : Program}
    (h : Program.ofBytes bytes = .ok p) : p.toBytes <+: bytes := by
  rw [ofBytes] at h
  split at h
  · cases h
  · next tokens htokens =>
    obtain ⟨-, -, behind, -, -, happend⟩ := ofTokens_eq_ok_iff.1 h
    refine ⟨wordBytes behind, ?_⟩
    rw [bytesWords?_eq_some_iff.1 htokens, happend, toBytes, wordBytes, wordBytes, wordBytes,
      ← List.flatMap_append]

open WrittenInstruction in
/-- What is written is read back. The program of instructions that fit is read from their words,
whatever follows them; it yields these instructions and nothing else; and it is read from its bytes.
In the other direction, a program is always written as the first of the bytes that it was read from.
-/
theorem programWords_readBack {stage : ShaderStage} {written : List WrittenInstruction}
    (hstage : stage.IsNumbered) (hw : ∀ w ∈ written, w.Fits)
    (hsize : 2 + (written.flatMap words).length < 2 ^ 32) :
    (∃ (p : Program) (instructions : List Instruction),
      (∀ trailing, Program.ofTokens (programWords stage (written.map words) ++ trailing) = .ok p) ∧
      p.stage = stage ∧ p.model = ⟨5, 0⟩ ∧ p.tokens = programWords stage (written.map words) ∧
      p.instructions.items = instructions.map .ok ∧ instructions.length = written.length ∧
      (∀ (n : Nat) (w : WrittenInstruction) (i : Instruction), written[n]? = some w →
        instructions[n]? = some i → w.IsReadAs (2 + ((written.take n).flatMap words).length) i) ∧
      Program.ofBytes p.toBytes = .ok p) ∧
    ∀ bytes q, Program.ofBytes bytes = .ok q → q.toBytes <+: bytes := by
  refine ⟨?_, fun bytes q => Program.toBytes_prefix_of_ofBytes⟩
  let body := written.flatMap words
  have hbody : (written.map words).flatten = body := List.flatMap_def.symm
  let p := Program.headed (versionToken stage 5 0) body
  have htokens : programWords stage (written.map words) = p.tokens := by
    rw [programWords, hbody]
    rfl
  obtain ⟨hversion, hmodel⟩ := stage_versionToken hstage
  have hread (trailing : List Word) :
      Program.ofTokens (programWords stage (written.map words) ++ trailing) = .ok p := by
    rw [htokens]
    exact Program.ofTokens_eq_ok_iff.2 ⟨versionToken stage 5 0, body, trailing, hsize, rfl, rfl⟩
  obtain ⟨hcontiguous, hwords⟩ := contiguous_readBack hw (by omega) 2
  refine ⟨p, readBack 2 written, hread, hversion, hmodel, htokens.symm, ?_,
    length_readBack 2 written, fun n w i => isReadAs_of_getElem? hw, ?_⟩
  · refine (InstructionReader.items_eq_map_iff rfl).2 ⟨?_, hcontiguous⟩
    rw [hwords]
    rfl
  · have hwhole := hread []
    rw [List.append_nil, htokens] at hwhole
    rw [Program.ofBytes, Program.toBytes, bytesWords?_wordBytes]
    exact hwhole

/-- A clamped sampling instruction with two extended tokens, custom data, and a return. -/
def sampleDataReturn : List WrittenInstruction :=
  [.plain .sample (Word.place 1 13) [0x00022001, 0x80000302] [0x00100012, 0], .data 3 [7, 8, 9],
    .plain .ret 0 [] []]

/-- They are read back one behind the other, in a program of a stage without a name. -/
theorem sampleDataReturn_readBack : ∃ (p : Program) (instructions : List Instruction),
    (∀ trailing, Program.ofTokens
      (programWords (.unknown 7) (sampleDataReturn.map WrittenInstruction.words) ++ trailing) =
        .ok p) ∧
      p.stage = .unknown 7 ∧ p.instructions.items = instructions.map .ok ∧
      instructions.map (·.position) = [2, 7, 12] := by
  have hstage : (ShaderStage.unknown 7).IsNumbered := by
    rintro n ⟨⟩
    decide
  have hfits : ∀ w ∈ sampleDataReturn, w.Fits := by
    have hsaturate : (Word.place 1 13).Within 11 24 :=
      (Word.within_place (by decide : 1 < 2 ^ 1) 13).mono (by decide) (by decide)
    have hnone : Word.Within 0 11 24 := fun n hn => by simp at hn
    simp only [sampleDataReturn, List.forall_mem_cons, WrittenInstruction.Fits]
    exact ⟨⟨by decide, hsaturate, by decide⟩, trivial, ⟨by decide, hnone, by decide⟩, nofun⟩
  obtain ⟨⟨p, instructions, hread, hp, -, -, hitems, hlength, heach, -⟩, -⟩ :=
    programWords_readBack hstage hfits (by decide)
  refine ⟨p, instructions, hread, hp, hitems, ?_⟩
  match instructions, hlength with
  | [a, b, c], _ =>
    have ha : a.position = 2 := (heach 0 _ a rfl rfl).position
    have hb : b.position = 7 := (heach 1 _ b rfl rfl).position
    have hc : c.position = 12 := (heach 2 _ c rfl rfl).position
    simp only [List.map_cons, List.map_nil, ha, hb, hc]

end ShaderLowering
