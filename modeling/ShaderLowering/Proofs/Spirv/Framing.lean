import ShaderLowering.Proofs.Spirv.Additions
import ShaderLowering.Proofs.Spirv.Decoding
import ShaderLowering.Proofs.Spirv.Typing
import ShaderLowering.Proofs.Words

/-!
# How code is framed

Each instruction of code tells its own length, in sixteen bits. An instruction that is too long for
them does not tell the truth (`Inst.wordCount_words_iff`); typed instructions never are
(`Typed.isShort`). Bytes are read exactly if the instructions of their words reach the end
(`Code.ofBytes_iff_reach`), so code whose instructions all tell the truth is read back from its bytes
(`Module.ofBytes_toBytes`).
-/

namespace ShaderLowering

namespace Spirv

/-! ## Lengths -/

/-- An instruction tells its length up to multiples of `2 ^ 16`. -/
theorem Inst.wordCount_words (i : Inst) :
    Code.wordCount (i.words.headD 0) = i.words.length % 0x10000 := by
  have hhead : headWord i.op.code i.words.length =
      headWord i.op.code (i.words.length % 0x10000) := by
    rw [headWord, headWord, Nat.mod_mod]
  exact (congrArg Code.wordCount hhead).trans
    (wordCount_headWord i.op.code_lt (Nat.mod_lt _ (by decide)))

/-- The length that an instruction tells is its true length exactly where sixteen bits are enough. -/
theorem Inst.wordCount_words_iff (i : Inst) :
    Code.wordCount (i.words.headD 0) = i.words.length ↔ i.words.length ≤ 0xffff := by
  rw [wordCount_words]
  omega

theorem IsType.count_le {known : List Inst} {t : ValueType} {type : Word}
    (h : IsType known t type) : t.count ≤ 4 := by
  rcases h with ⟨h, -⟩ | ⟨-, h, -⟩
  · omega
  · exact h

/-- Typed instructions are short. -/
theorem Typed.isShort {known block : List Inst} {i : Inst} (h : Typed known block i) :
    i.IsShort := by
  cases h with
  | @extended op s n type id set args hset hop ht ha =>
    have hargs : args.length ≤ 3 := by
      rw [glslSignature?] at hop
      split_ifs at hop <;> (obtain ⟨-, hn⟩ := Prod.mk.inj (Option.some.inj hop); omega)
    refine Inst.isShort_of_operands ?_
    simp only [List.length_cons]
    omega
  | vectorShuffle hm hn hl ha hat hb hbt hlanes ht =>
    replace ht := ht.count_le
    simp only at ht
    refine Inst.isShort_of_operands ?_
    simp only [List.length_cons]
    omega
  | compositeConstruct hl hp hpt ht =>
    exact Inst.isShort_of_operands (ht.count_le.trans (by decide))
  | _ => exact Inst.isShort_of_operands (by simp)

namespace Code

/-- Behind instructions that tell their lengths, the search for a malformed one goes on. -/
theorem malformedAt?_flatMap_words {insts : List Inst}
    (hl : ∀ i ∈ insts, i.words.length < 0x10000) (offset : Nat) (rest : List Word) :
    malformedAt? offset (insts.flatMap Inst.words ++ rest) =
      malformedAt? (offset + (insts.flatMap Inst.words).length) rest := by
  rw [malformedAt?_eq, malformedAt?_eq, splitBlocks_flatMap_words_append hl, List.flatten_append,
    List.length_append, ← List.flatMap_def, Nat.add_assoc]

/-- An instruction whose length is told as zero is malformed, and code is cut no further. -/
theorem malformed_of_mod_eq_zero {i : Inst} (h : i.words.length % 0x10000 = 0) (offset : Nat)
    (rest : List Word) :
    malformedAt? offset (i.words ++ rest) = some offset ∧
      (splitBlocks (i.words ++ rest)).1 = [] := by
  have hcount : wordCount (headWord i.op.code (i.tailWords.length + 1)) = 0 :=
    i.wordCount_words.trans h
  rw [Inst.words, List.cons_append, malformedAt?, splitBlocks]
  simp only [hcount, true_or, if_true, and_self]

/-! ## Reading bytes -/

/-- Bytes that come in fours spell words. -/
theorem exists_bytesWords? {bytes : List UInt8} (h : bytes.length % 4 = 0) :
    ∃ words, bytesWords? bytes = some words := by
  fun_induction bytesWords? bytes with
  | case1 => exact ⟨[], rfl⟩
  | case2 a b c d rest ih =>
    obtain ⟨words, hwords⟩ := ih (by
      simp only [List.length_cons] at h
      omega)
    exact ⟨_, by rw [hwords, Option.map_some]⟩
  | case3 bytes hnil hfour =>
    -- one, two or three bytes
    rcases bytes with _ | ⟨a, _ | ⟨b, _ | ⟨c, _ | ⟨d, rest⟩⟩⟩⟩
    · exact (hnil rfl).elim
    · simp at h
    · simp at h
    · simp at h
    · exact (hfour a b c d rest rfl).elim

/-- A word is known by its bytes. -/
theorem eq_of_bytes_eq {v w : Word} (h : v.bytes = w.bytes) : v = w := by
  have hwords : bytesWords? (wordBytes [v]) = bytesWords? (wordBytes [w]) := by
    simp only [wordBytes, List.flatMap_cons, h]
  rw [bytesWords?_wordBytes, bytesWords?_wordBytes] at hwords
  exact List.singleton_inj.1 (Option.some.inj hwords)

/-- Words with a header are read unless an instruction is malformed. -/
theorem ofBytes_wordBytes {words : List Word} (hroom : headerWords ≤ words.length)
    (hmagic : words.head? = some magicNumber) :
    ofBytes (wordBytes words) =
      match malformedAt? headerWords (words.drop headerWords) with
      | some offset => .error (.malformed offset)
      | none => .ok ⟨words⟩ := by
  rw [ofBytes, bytesWords?_wordBytes]
  simp only [if_neg (Nat.not_lt.2 hroom), hmagic]
  rfl

/-- Words with a header are read if nothing is left behind their instructions; else the error is
where the instructions end. -/
theorem ofBytes_wordBytes_eq_ite {words : List Word} (hroom : headerWords ≤ words.length)
    (hmagic : words.head? = some magicNumber) :
    ofBytes (wordBytes words) =
      if Code.tail ⟨words⟩ = [] then .ok ⟨words⟩
      else .error (.malformed (headerWords + reach ⟨words⟩)) := by
  have hfirst : Code.firstInstruction ⟨words⟩ = headerWords := if_pos hmagic
  rw [ofBytes_wordBytes hroom hmagic, malformedAt?_eq, reach_eq, tail, blocks, hfirst]
  split_ifs <;> rfl

/-- Bytes that spell at least a header with the magic number are read if and only if the
instructions reach the end of the words; else the error is where they end. What is read are the
words that the bytes spell, the instructions tile what is behind the header, and the bytes can be had
back. -/
theorem ofBytes_iff_reach {bytes : List UInt8} (hfours : bytes.length % 4 = 0)
    (hroom : 4 * headerWords ≤ bytes.length) (hmagic : bytes.take 4 = magicNumber.bytes) :
    ∃ words, bytesWords? bytes = some words ∧
      ((∃ c, ofBytes bytes = .ok c) ↔ reach ⟨words⟩ = words.length - headerWords) ∧
      ((¬∃ c, ofBytes bytes = .ok c) →
        ofBytes bytes = .error (.malformed (headerWords + reach ⟨words⟩))) ∧
      ∀ c, ofBytes bytes = .ok c → c = ⟨words⟩ ∧ c.toBytes = bytes ∧
        Tile words headerWords c.instructions words.length := by
  obtain ⟨words, hwords⟩ := exists_bytesWords? hfours
  obtain rfl := bytesWords?_eq_some_iff.1 hwords
  rw [length_wordBytes] at hroom
  have hlength : headerWords ≤ words.length := by omega
  have hhead : words.head? = some magicNumber := by
    cases words with
    | nil => cases hlength
    | cons w words => exact congrArg some (eq_of_bytes_eq hmagic)
  have hfirst : Code.firstInstruction ⟨words⟩ = headerWords := if_pos hhead
  have hcount : headerWords + (reach ⟨words⟩ + (Code.tail ⟨words⟩).length) = words.length := by
    have h := length_words ⟨words⟩
    rwa [header, hfirst, List.length_take, Nat.min_eq_left hlength] at h
  have hread := ofBytes_wordBytes_eq_ite hlength hhead
  refine ⟨words, hwords, ?_⟩
  by_cases htail : Code.tail ⟨words⟩ = []
  · -- nothing is left: the words are read
    rw [if_pos htail] at hread
    rw [htail, List.length_nil, Nat.add_zero] at hcount
    refine ⟨⟨fun _ => by omega, fun _ => ⟨_, hread⟩⟩, fun h => (h ⟨_, hread⟩).elim, ?_⟩
    intro c hc
    cases hread.symm.trans hc
    have htile := tile_instructions ⟨words⟩
    rw [hfirst, hcount] at htile
    exact ⟨rfl, rfl, htile⟩
  · -- the first word that is left is malformed
    rw [if_neg htail] at hread
    have hleft := List.length_pos_iff.2 htail
    have hnone : ¬∃ c, ofBytes (wordBytes words) = .ok c := by
      rintro ⟨c, hc⟩
      cases hread.symm.trans hc
    exact ⟨⟨fun h => (hnone h).elim, fun h => by omega⟩, fun _ => hread,
      fun c hc => (hnone ⟨c, hc⟩).elim⟩

/-- A capability, and the first word of three. -/
def truncatedWords : List Word := [magicNumber, 0x00010000, 0, 1, 0, 0x00020011, 1, 0x0003000e]

/-- The last instruction is malformed, and cutting ends in front of it. -/
theorem truncatedWords_reach :
    (wordBytes truncatedWords).length % 4 = 0 ∧
      4 * headerWords ≤ (wordBytes truncatedWords).length ∧
      (wordBytes truncatedWords).take 4 = magicNumber.bytes ∧ reach ⟨truncatedWords⟩ = 2 ∧
      ofBytes (wordBytes truncatedWords) = .error (.malformed 7) := by
  have hfours : (wordBytes truncatedWords).length % 4 = 0 := by decide
  have hroom : 4 * headerWords ≤ (wordBytes truncatedWords).length := by decide
  have hmagic : (wordBytes truncatedWords).take 4 = magicNumber.bytes := by decide
  have hreach : reach ⟨truncatedWords⟩ = 2 := by decide +kernel
  obtain ⟨words, hwords, hiff, herror, -⟩ := ofBytes_iff_reach hfours hroom hmagic
  obtain rfl := Option.some.inj ((bytesWords?_wordBytes _).symm.trans hwords)
  rw [hreach] at hiff herror
  exact ⟨hfours, hroom, hmagic, hreach, herror fun h => absurd (hiff.1 h) (by decide)⟩

end Code

/-! ## Modules -/

namespace Module

variable {m : Module}

/-- The code of a module has a header, so reading it back can fail only where an instruction is
malformed. -/
theorem ofBytes_toBytes_eq (m : Module) :
    Code.ofBytes m.code.toBytes =
      match Code.malformedAt? headerWords (m.instructions.flatMap Inst.words) with
      | some offset => .error (.malformed offset)
      | none => .ok m.code := by
  have hroom : headerWords ≤ m.code.words.length := Nat.le_add_left ..
  exact Code.ofBytes_wordBytes hroom rfl

/-- The code of a module is read back from its bytes, if all instructions tell their lengths. -/
theorem ofBytes_toBytes (hl : m.IsEncodable) : Code.ofBytes m.code.toBytes = .ok m.code := by
  have hnone := Code.malformedAt?_flatMap_words (fun i hi => Nat.lt_succ_of_le (hl i hi))
    headerWords []
  rw [List.append_nil, Code.malformedAt?] at hnone
  rw [ofBytes_toBytes_eq, hnone]

/-- The code of a module ends for its readers before an instruction whose length is told as zero. -/
theorem code_of_mod_eq_zero {before behind : List Inst} {i : Inst}
    (h : m.instructions = before ++ i :: behind) (hl : ∀ j ∈ before, j.words.length ≤ 0xffff)
    (hi : i.words.length % 0x10000 = 0) :
    Code.ofBytes m.code.toBytes =
        .error (.malformed (headerWords + (before.flatMap Inst.words).length)) ∧
      m.code.blocks = before.map Inst.words := by
  have hbefore : ∀ j ∈ before, j.words.length < 0x10000 := fun j hj => Nat.lt_succ_of_le (hl j hj)
  obtain ⟨hmalformed, hblocks⟩ := Code.malformed_of_mod_eq_zero hi
    (headerWords + (before.flatMap Inst.words).length) (behind.flatMap Inst.words)
  constructor
  · rw [ofBytes_toBytes_eq, h, List.flatMap_append, List.flatMap_cons,
      Code.malformedAt?_flatMap_words hbefore, hmalformed]
  · rw [Code.blocks, drop_words_code, h, List.flatMap_append, List.flatMap_cons,
      Code.splitBlocks_flatMap_words_append hbefore, hblocks, List.append_nil]

end Module

end Spirv

end ShaderLowering
