import Mathlib.Algebra.Group.Nat.Defs
import ShaderLowering.Proofs.Token.ReaderOrder
import ShaderLowering.Token.Program

/-!
# Instructions and their words

An instruction is decoded from its own words and from nothing else. `Instruction.IsSound` says which
instructions there are to be decoded, and `Instruction.decode_eq_ok_iff` that each of them is
decoded wherever its words stand, whatever follows them. A reader that meets no error has cut its
words into those of the instructions that it yields (`InstructionReader.items_eq_map_iff`), so a
list of words can be read in one way at most, and cutting instructions out of it leaves the others
as they are. A program is read exactly from the words that start with its own
(`Program.ofTokens_eq_ok_iff`).
-/

namespace ShaderLowering

/-! ## Extended tokens -/

/-- Whether words are the extended tokens behind a token: there are none unless the token announces
one, and then each but the last announces another. -/
def IsChain : Bool → List Word → Prop
  | false, ws => ws = []
  | true, [] => False
  | true, w :: ws => IsChain w.extended ws

namespace Decoder

/-- The chain that is read behind a token that announces one is the one that stands there. -/
theorem chainFrom_eq_ok_iff {rest : List Word} {position : Nat} {ws : List Word} {c : Cursor} :
    chainFrom rest position = .ok (ws, c) ↔
      IsChain true ws ∧ rest = ws ++ c.rest ∧ c.position = position + ws.length := by
  induction rest generalizing position ws c with
  | nil =>
    constructor
    · intro h
      cases h
    · rintro ⟨hchain, hrest, -⟩
      obtain ⟨rfl, -⟩ := List.append_eq_nil_iff.1 hrest.symm
      exact hchain.elim
  | cons w rest ih =>
    rw [chainFrom]
    by_cases hw : w.extended = true
    · rw [if_pos hw]
      constructor
      · intro h
        split at h
        · next ws' c' h' =>
          obtain ⟨hchain, hrest, hposition⟩ := ih.1 h'
          cases h
          refine ⟨?_, by rw [hrest, List.cons_append], by rw [hposition, List.length_cons]; omega⟩
          rw [IsChain, hw]
          exact hchain
        · cases h
      · rintro ⟨hchain, hrest, hposition⟩
        cases ws with
        | nil => exact hchain.elim
        | cons v ws =>
          obtain ⟨rfl, htail⟩ := List.cons.inj hrest
          rw [IsChain, hw] at hchain
          rw [List.length_cons] at hposition
          rw [ih.2 ⟨hchain, htail, by omega⟩]
    · rw [if_neg hw]
      have hw : w.extended = false := Bool.eq_false_iff.2 hw
      constructor
      · intro h
        cases h
        refine ⟨?_, rfl, rfl⟩
        rw [IsChain, hw, IsChain]
      · rintro ⟨hchain, hrest, hposition⟩
        cases ws with
        | nil => exact hchain.elim
        | cons v ws =>
          obtain ⟨rfl, htail⟩ := List.cons.inj hrest
          rw [IsChain, hw, IsChain] at hchain
          subst hchain
          obtain ⟨position', rest'⟩ := c
          obtain rfl : rest = rest' := htail
          obtain rfl : position' = position + 1 := hposition
          rfl

theorem chain_eq_ok_iff {announced : Bool} {c c' : Cursor} {ws : List Word} :
    chain announced c = .ok (ws, c') ↔
      IsChain announced ws ∧ c.rest = ws ++ c'.rest ∧ c'.position = c.position + ws.length := by
  cases announced with
  | true => exact chainFrom_eq_ok_iff
  | false =>
    obtain ⟨position, rest⟩ := c
    obtain ⟨position', rest'⟩ := c'
    simp only [chain, Bool.false_eq_true, if_false, Except.ok.injEq, Prod.mk.injEq,
      Cursor.mk.injEq, IsChain]
    constructor
    · rintro ⟨rfl, rfl, rfl⟩
      exact ⟨rfl, rfl, rfl⟩
    · rintro ⟨rfl, rfl, rfl⟩
      exact ⟨rfl, rfl, rfl⟩

end Decoder

namespace Instruction

/-! ## Sound instructions -/

/-- Whether an instruction is what its words are decoded to: the token names the opcode, and the
length and the head are those that the words announce. -/
structure IsSound (i : Instruction) : Prop where
  opcode : i.token.opcode? = some i.opcode
  head : if i.opcode = .customdata then ∃ length, i.head = [length] ∧ length.toNat = i.length
    else IsChain i.token.word.extended i.head ∧ i.token.length = i.length

/-- The number in the token tells customdata from other instructions. -/
theorem opcodeRaw_eq_iff {token : OpcodeToken} {opcode : Opcode} (h : token.opcode? = some opcode) :
    token.opcodeRaw = Opcode.customdata.raw ↔ opcode = .customdata := by
  have hraw : opcode.raw = token.opcodeRaw := Numbered.raw_of_ofRaw? h
  rw [← hraw]
  exact ⟨fun heq => Numbered.raw_inj heq, congrArg Opcode.raw⟩

theorem leastLength_pos (token : OpcodeToken) : 0 < leastLength token := by
  rw [leastLength]
  split <;> decide

/-- The length is the word behind the token of customdata, and for others what the token says. -/
theorem declaredLength_eq_ok_iff {position length : Nat} {token : OpcodeToken} {rest : List Word} :
    declaredLength position token rest = .ok length ↔
      if token.opcodeRaw = Opcode.customdata.raw then
        ∃ l behind, rest = l :: behind ∧ l.toNat = length
      else token.length = length := by
  unfold declaredLength
  split
  · cases rest with
    | nil =>
      constructor
      · intro h
        cases h
      · rintro ⟨l, behind, hrest, -⟩
        cases hrest
    | cons l rest =>
      constructor
      · intro h
        exact ⟨l, rest, rfl, Except.ok.inj h⟩
      · rintro ⟨l', behind, hrest, hl⟩
        obtain ⟨rfl, rfl⟩ := List.cons.inj hrest
        exact congrArg _ hl
  · rw [Except.ok.injEq]

/-- The words behind a token are split after the one word of customdata, and for others after the
chain. -/
theorem splitHead_eq_ok_iff {position : Nat} {token : OpcodeToken} {body head args : List Word}
    (hbody : leastLength token ≤ body.length + 1) :
    splitHead position token body = .ok (head, args) ↔ body = head ++ args ∧
      if token.opcodeRaw = Opcode.customdata.raw then head.length = 1
      else IsChain token.word.extended head := by
  unfold splitHead
  split
  · next hc =>
    rw [leastLength, if_pos hc] at hbody
    rw [Except.ok.injEq, Prod.mk.injEq]
    constructor
    · rintro ⟨rfl, rfl⟩
      exact ⟨(List.take_append_drop ..).symm, by rw [List.length_take]; omega⟩
    · rintro ⟨rfl, hhead⟩
      exact ⟨by rw [← hhead, List.take_left], by rw [← hhead, List.drop_left]⟩
  · constructor
    · intro h
      split at h
      · next ws c hread =>
        obtain ⟨rfl, rfl⟩ := Prod.mk.inj (Except.ok.inj h)
        obtain ⟨hchain, hrest, -⟩ := Decoder.chain_eq_ok_iff.1 hread
        exact ⟨hrest, hchain⟩
      · cases h
    · rintro ⟨rfl, hchain⟩
      have hread : Decoder.chain token.word.extended ⟨position + 1, head ++ args⟩ =
          .ok (head, ⟨position + 1 + head.length, args⟩) :=
        Decoder.chain_eq_ok_iff.2 ⟨hchain, rfl, rfl⟩
      rw [hread]

/-- Decoding succeeds with exactly the sound instruction whose words come first. -/
theorem decode_eq_ok_iff {position : Nat} {w : Word} {rest : List Word} {i : Instruction} :
    decode position w rest = .ok i ↔
      i.position = position ∧ i.IsSound ∧ ∃ behind, w :: rest = i.words ++ behind := by
  simp only [decode, bind, Except.bind, throw, throwThe, MonadExceptOf.throw, pure, Except.pure]
  constructor
  · intro h
    repeat' split at h
    case h_2 length hlength hleast hroom _ opcode hopcode _ parts hparts =>
      cases h
      obtain ⟨head, args⟩ := parts
      have hpos := leastLength_pos ⟨w⟩
      -- the announced length is that of the words that were taken
      have hsize : (rest.take (length - 1)).length + 1 = length := by
        rw [List.length_take]
        omega
      obtain ⟨hbody, hhead⟩ := (splitHead_eq_ok_iff (by omega)).1 hparts
      have hrest : rest = head ++ args ++ rest.drop (length - 1) := by
        rw [← hbody, List.take_append_drop]
      refine ⟨rfl, ⟨hopcode, ?_⟩, rest.drop (length - 1), congrArg (w :: ·) hrest⟩
      rw [Instruction.length, words, List.length_cons, ← hbody, hsize]
      have hdeclared := declaredLength_eq_ok_iff.1 hlength
      by_cases hc : opcode = .customdata
      · rw [if_pos ((opcodeRaw_eq_iff hopcode).2 hc)] at hhead hdeclared
        rw [if_pos hc]
        obtain ⟨l, rfl⟩ := List.length_eq_one_iff.1 hhead
        obtain ⟨l', behind, hcons, hl⟩ := hdeclared
        obtain ⟨rfl, -⟩ := List.cons.inj (hrest.symm.trans hcons)
        exact ⟨l, rfl, hl⟩
      · rw [if_neg (mt (opcodeRaw_eq_iff hopcode).1 hc)] at hhead hdeclared
        rw [if_neg hc]
        exact ⟨hhead, hdeclared⟩
    all_goals cases h
  · rintro ⟨rfl, ⟨hopcode, hhead⟩, behind, hwords⟩
    obtain ⟨position, token, opcode, head, args⟩ := i
    obtain rfl : w = token.word := (List.cons.inj hwords).1
    have hrest : rest = head ++ args ++ behind := (List.cons.inj hwords).2
    -- what the words announce is that they are the head and the arguments
    have hannounced : declaredLength position token rest = .ok ((head ++ args).length + 1) ∧
        leastLength token ≤ (head ++ args).length + 1 ∧
        if token.opcodeRaw = Opcode.customdata.raw then head.length = 1
        else IsChain token.word.extended head := by
      rw [declaredLength_eq_ok_iff, leastLength]
      by_cases hc : opcode = .customdata
      · rw [if_pos hc] at hhead
        obtain ⟨l, rfl, hl⟩ := hhead
        simp only [if_pos ((opcodeRaw_eq_iff hopcode).2 hc)]
        exact ⟨⟨l, _, hrest, hl⟩, Nat.succ_le_succ (Nat.succ_le_succ (Nat.zero_le _)), rfl⟩
      · rw [if_neg hc] at hhead
        simp only [if_neg (mt (opcodeRaw_eq_iff hopcode).1 hc)]
        exact ⟨hhead.2, Nat.succ_le_succ (Nat.zero_le _), hhead.1⟩
    obtain ⟨hlength, hleast, hsplit⟩ := hannounced
    have hparts : splitHead position token (head ++ args) = .ok (head, args) :=
      (splitHead_eq_ok_iff hleast).2 ⟨rfl, hsplit⟩
    have hroom : ¬rest.length + 1 < (head ++ args).length + 1 := by
      rw [hrest, List.length_append]
      omega
    simp only [hlength, hopcode, if_neg (Nat.not_lt.2 hleast), if_neg hroom, Nat.add_sub_cancel]
    rw [hrest, List.take_left, hparts]

/-- A sound instruction is told by its position and its words. -/
theorem IsSound.eq_of_words {i j : Instruction} (hi : i.IsSound) (hj : j.IsSound)
    (hposition : i.position = j.position) (hwords : i.words = j.words) : i = j := by
  have hdecode {k : Instruction} (hk : k.IsSound) :
      decode k.position k.token.word (k.head ++ k.args) = .ok k :=
    decode_eq_ok_iff.2 ⟨rfl, hk, [], (List.append_nil _).symm⟩
  obtain ⟨htoken, hrest⟩ := List.cons.inj hwords
  have h := hdecode hi
  rw [hposition, htoken, hrest, hdecode hj] at h
  exact (Except.ok.inj h).symm

/-- The instruction at another position. -/
def placedAt (i : Instruction) (position : Nat) : Instruction := { i with position }

@[simp] theorem position_placedAt (i : Instruction) (position : Nat) :
    (i.placedAt position).position = position := rfl

theorem IsSound.placedAt {i : Instruction} (h : i.IsSound) (position : Nat) :
    (i.placedAt position).IsSound := ⟨h.opcode, h.head⟩

end Instruction

/-! ## Instructions that follow each other -/

/-- Sound instructions, each where the one before it ends. -/
def Contiguous : Nat → List Instruction → Prop
  | _, [] => True
  | position, i :: instructions =>
    i.position = position ∧ i.IsSound ∧ Contiguous (position + i.length) instructions

/-- The positions of instructions that follow each other do not go back. -/
theorem Contiguous.le_position {position : Nat} {instructions : List Instruction}
    (h : Contiguous position instructions) : ∀ i ∈ instructions, position ≤ i.position := by
  induction instructions generalizing position with
  | nil => exact nofun
  | cons i instructions ih =>
    obtain ⟨hposition, -, hrest⟩ := h
    intro j hj
    rcases List.mem_cons.1 hj with rfl | hj
    · exact Nat.le_of_eq hposition.symm
    · exact Nat.le_trans (Nat.le_add_right ..) (ih hrest j hj)

theorem Contiguous.isSound {position : Nat} {instructions : List Instruction}
    (h : Contiguous position instructions) : ∀ i ∈ instructions, i.IsSound := by
  induction instructions generalizing position with
  | nil => exact nofun
  | cons i instructions ih =>
    obtain ⟨-, hsound, hrest⟩ := h
    exact List.forall_mem_cons.2 ⟨hsound, ih hrest⟩

/-- In words that start with those of instructions that follow each other, each of these is found where
it stands. -/
theorem Contiguous.exists_drop {position : Nat} {instructions : List Instruction}
    (h : Contiguous position instructions) {tokens behind : List Word}
    (hwords : tokens.drop position = instructions.flatMap Instruction.words ++ behind) :
    ∀ i ∈ instructions, ∃ rest, tokens.drop i.position = i.words ++ rest := by
  induction instructions generalizing position with
  | nil => exact nofun
  | cons i instructions ih =>
    obtain ⟨rfl, -, hrest⟩ := h
    rw [List.flatMap_cons, List.append_assoc] at hwords
    intro j hj
    rcases List.mem_cons.1 hj with rfl | hj
    · exact ⟨_, hwords⟩
    · have hbehind : tokens.drop (i.position + i.length) =
          instructions.flatMap Instruction.words ++ behind := by
        rw [← List.drop_drop, hwords]
        exact List.drop_left
      exact ih hrest hbehind j hj

namespace InstructionReader

/-- A reader yields an instruction exactly if its words are the next ones. -/
theorem next_eq_ok_iff {r r' : InstructionReader} {i : Instruction} (hr : r.failed = false) :
    r.next = (some (.ok i), r') ↔ i.position = r.position ∧ i.IsSound ∧
      (∃ behind, r.tokens.drop r.position = i.words ++ behind) ∧
      r' = { r with position := r.position + i.length } := by
  rw [next, if_neg (by simp [hr])]
  rcases hdrop : r.tokens.drop r.position with _ | ⟨w, rest⟩
  · simp [Instruction.words]
  · simp only
    constructor
    · intro h
      split at h
      · next j hj =>
        obtain ⟨hitem, rfl⟩ := Prod.mk.inj h
        obtain rfl : j = i := Except.ok.inj (Option.some.inj hitem)
        obtain ⟨hposition, hsound, hbehind⟩ := Instruction.decode_eq_ok_iff.1 hj
        exact ⟨hposition, hsound, hbehind, rfl⟩
      · cases h
    · rintro ⟨hposition, hsound, hbehind, rfl⟩
      rw [Instruction.decode_eq_ok_iff.2 ⟨hposition, hsound, hbehind⟩]

/-- A reader yields nothing exactly if it has failed or there are no words left, and it stays as it
is. -/
theorem next_eq_none_iff {r r' : InstructionReader} :
    r.next = (none, r') ↔ (r.failed = true ∨ r.tokens.drop r.position = []) ∧ r = r' := by
  rw [next]
  split
  · next hfailed => simp [hfailed]
  · next hfailed =>
    split
    · next hdrop => simp [hdrop]
    · next w rest hdrop => split <;> simp [hdrop, hfailed]

/-- A reader yields an error exactly if the next words start no instruction. -/
theorem next_eq_error_iff {r r' : InstructionReader} {e : DecodeError} (hr : r.failed = false) :
    r.next = (some (.error e), r') ↔ (∃ w rest, r.tokens.drop r.position = w :: rest ∧
      Instruction.decode r.position w rest = .error e) ∧ { r with failed := true } = r' := by
  rw [next, if_neg (by simp [hr])]
  split
  · next hdrop => simp [hdrop]
  · next w rest hdrop =>
    constructor
    · intro h
      split at h
      · cases h
      · next e' he =>
        obtain ⟨hitem, rfl⟩ := Prod.mk.inj h
        obtain rfl : e' = e := Except.error.inj (Option.some.inj hitem)
        exact ⟨⟨w, rest, hdrop, he⟩, rfl⟩
    · rintro ⟨⟨w', rest', hcons, he⟩, rfl⟩
      obtain ⟨rfl, rfl⟩ := List.cons.inj (hdrop.symm.trans hcons)
      rw [he]

/-- A reader yields nothing but instructions exactly if its words are those of the instructions,
which follow each other from its position on. -/
theorem items_eq_map_iff {r : InstructionReader} (hr : r.failed = false)
    {instructions : List Instruction} :
    r.items = instructions.map .ok ↔
      r.tokens.drop r.position = instructions.flatMap Instruction.words ∧
        Contiguous r.position instructions := by
  induction instructions generalizing r with
  | nil =>
    simp only [List.map_nil, List.flatMap_nil, Contiguous, and_true]
    rw [items_eq, next, if_neg (by simp [hr])]
    rcases hdrop : r.tokens.drop r.position with _ | ⟨w, rest⟩
    · simp
    · rcases hdecode : Instruction.decode r.position w rest with e | i <;> simp [hdecode]
  | cons i instructions ih =>
    -- behind an instruction come the words of the others
    have hstep (behind : List Word) (h : r.tokens.drop r.position = i.words ++ behind) :
        r.tokens.drop (r.position + i.length) = behind := by
      rw [← List.drop_drop, h]
      exact List.drop_left
    rw [List.map_cons, List.flatMap_cons, items_eq]
    constructor
    · intro h
      split at h
      · cases h
      · next item r' hnext =>
        obtain ⟨rfl, hitems⟩ := List.cons.inj h
        obtain ⟨hposition, hsound, ⟨behind, hbehind⟩, rfl⟩ := (next_eq_ok_iff hr).1 hnext
        obtain ⟨hdrop, hcontiguous⟩ := (ih (r := { r with position := r.position + i.length })
          hr).1 hitems
        rw [hstep behind hbehind] at hdrop
        exact ⟨by rw [hbehind, hdrop], hposition, hsound, hcontiguous⟩
    · rintro ⟨hdrop, hposition, hsound, hcontiguous⟩
      rw [(next_eq_ok_iff hr).2 ⟨hposition, hsound, ⟨_, hdrop⟩, rfl⟩]
      simp only
      rw [(ih (r := { r with position := r.position + i.length }) hr).2
        ⟨hstep _ hdrop, hcontiguous⟩]

end InstructionReader

/-! ## Programs and their words -/

namespace Program

/-- The program of a version token and the words behind the header. -/
def headed (version : Word) (body : List Word) : Program :=
  { stage := version.stage, model := version.model,
    tokens := version :: UInt32.ofNat (headerWords + body.length) :: body }

/-- A program is read exactly from words that start with its own. -/
theorem ofTokens_eq_ok_iff {tokens : List Word} {p : Program} :
    ofTokens tokens = .ok p ↔ ∃ version body behind,
      headerWords + body.length < 2 ^ 32 ∧ p = headed version body ∧
        tokens = p.tokens ++ behind := by
  constructor
  · intro h
    unfold ofTokens at h
    split at h
    · next version declared body =>
      dsimp only at h
      split at h
      · cases h
      · next hfits =>
        obtain ⟨n, hn⟩ : ∃ n, declared.toNat = headerWords + n :=
          ⟨declared.toNat - headerWords, by omega⟩
        have hlength : (body.take n).length = n := by
          rw [List.length_take]
          rw [headerWords] at hfits hn
          omega
        have hdeclared : UInt32.ofNat (headerWords + (body.take n).length) = declared := by
          rw [hlength, ← hn, UInt32.ofNat_toNat]
        have htake : (version :: declared :: body).take declared.toNat =
            version :: declared :: body.take n := by
          rw [hn, headerWords, Nat.add_comm, List.take_succ_cons, List.take_succ_cons]
        refine ⟨version, body.take n, body.drop n, ?_, ?_, ?_⟩
        · rw [hlength, ← hn]
          exact declared.toNat_lt
        · rw [headed, hdeclared, ← htake]
          exact (Except.ok.inj h).symm
        · rw [← Except.ok.inj h, htake]
          simp only [List.cons_append, List.take_append_drop]
    · cases h
  · rintro ⟨version, body, behind, hbound, rfl, rfl⟩
    have hdeclared : (UInt32.ofNat (headerWords + body.length)).toNat = headerWords + body.length :=
      UInt32.toNat_ofNat_of_lt' hbound
    have hfits : ¬(headerWords + body.length < headerWords ∨
        (body ++ behind).length + 2 < headerWords + body.length) := by
      rw [List.length_append, headerWords]
      omega
    simp only [headed, ofTokens, List.cons_append, hdeclared, if_neg hfits]
    rw [headerWords, Nat.add_comm 2, List.take_succ_cons, List.take_succ_cons, List.take_left]

end Program

end ShaderLowering
