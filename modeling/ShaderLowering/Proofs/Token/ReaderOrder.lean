import ShaderLowering.Token.Reader

/-!
# The order of what a reader yields

A reader only goes forward: whatever it yields lies at or behind its own position, and behind the
end of every instruction that it has yielded before. The position of an item is that of its first
word, or the position that its error names.
-/

namespace ShaderLowering

/-! ## Where decoding fails -/

/-- Extended tokens are missed at the end of the words that they were looked for in. -/
theorem Decoder.range_of_chainFrom_eq_error {rest : List Word} {position : Nat} {e : DecodeError}
    (h : chainFrom rest position = .error e) :
    position ≤ e.position ∧ e.position ≤ position + rest.length := by
  induction rest generalizing position with
  | nil =>
    cases h
    exact ⟨Nat.le_refl _, Nat.le_refl _⟩
  | cons w rest ih =>
    rw [chainFrom] at h
    split at h
    · split at h
      · cases h
      · next e' h' =>
        cases h
        have := ih h'
        rw [List.length_cons]
        omega
    · cases h

namespace Instruction

/-- An instruction stands where it was decoded. -/
theorem position_of_decode {position : Nat} {w : Word} {rest : List Word} {i : Instruction}
    (h : decode position w rest = .ok i) : i.position = position := by
  simp only [decode, bind, Except.bind, throw, throwThe, MonadExceptOf.throw, pure,
    Except.pure] at h
  repeat' split at h
  case h_2 =>
    cases h
    rfl
  all_goals cases h

/-- The length of a customdata block is missed behind its token. -/
theorem position_of_declaredLength_eq_error {position : Nat} {token : OpcodeToken}
    {rest : List Word} {e : DecodeError} (h : declaredLength position token rest = .error e) :
    e.position = position + 1 := by
  unfold declaredLength at h
  split at h
  · split at h
    · cases h
      rfl
    · cases h
  · cases h

/-- Extended tokens are missed behind the token, and within the words of the instruction. -/
theorem range_of_splitHead_eq_error {position : Nat} {token : OpcodeToken} {body : List Word}
    {e : DecodeError} (h : splitHead position token body = .error e) :
    position ≤ e.position ∧ e.position ≤ position + 1 + body.length := by
  unfold splitHead at h
  split at h
  · cases h
  · split at h
    · cases h
    · next e' h' =>
      cases h
      unfold Decoder.chain at h'
      split at h'
      · obtain ⟨hlow, hhigh⟩ := Decoder.range_of_chainFrom_eq_error h'
        exact ⟨Nat.le_of_succ_le hlow, hhigh⟩
      · cases h'

/-- A word that is no instruction is reported at its own position or behind it, and not behind the end
of the words. -/
theorem range_of_decode_eq_error {position : Nat} {w : Word} {rest : List Word} {e : DecodeError}
    (h : decode position w rest = .error e) :
    position ≤ e.position ∧ e.position ≤ position + 1 + rest.length := by
  simp only [decode, bind, Except.bind, throw, throwThe, MonadExceptOf.throw, pure,
    Except.pure] at h
  have hself : position ≤ position + 1 + rest.length := by omega
  split at h
  · next e' h' =>
    cases h
    rw [position_of_declaredLength_eq_error h']
    exact ⟨Nat.le_succ _, Nat.le_add_right ..⟩
  · split at h
    · cases h
      exact ⟨Nat.le_refl _, hself⟩
    · split at h
      · cases h
        exact ⟨Nat.le_refl _, hself⟩
      · split at h
        · cases h
          exact ⟨Nat.le_refl _, hself⟩
        · split at h
          · next e' h' =>
            cases h
            obtain ⟨hlow, hhigh⟩ := range_of_splitHead_eq_error h'
            rw [List.length_take] at hhigh
            exact ⟨hlow, by omega⟩
          · cases h

end Instruction

/-! ## Items follow each other -/

/-- The position of what a reader yields. -/
def itemPosition : Except DecodeError Instruction → Nat
  | .ok i => i.position
  | .error e => e.position

namespace InstructionReader

/-- What a reader yields from its next item on. -/
theorem items_eq (r : InstructionReader) :
    r.items = match r.next with
      | (none, _) => []
      | (some item, r') => item :: r'.items := by
  rw [items]
  split
  · next h => simp only [h]
  · next h => simp only [h]

/-- What a reader yields next lies at its position or behind it. The reader then stands behind a
yielded instruction, and it yields nothing behind an error. -/
theorem next_eq_some {r r' : InstructionReader} {item : Except DecodeError Instruction}
    (h : r.next = (some item, r')) :
    r.position ≤ itemPosition item ∧
      ((∃ i, item = .ok i ∧ r'.position = i.position + i.length) ∨ r'.failed = true) := by
  unfold next at h
  split at h
  · cases h
  · split at h
    · cases h
    · split at h
      · next i hi =>
        cases h
        have hp := Instruction.position_of_decode hi
        exact ⟨Nat.le_of_eq hp.symm, .inl ⟨i, rfl, by rw [hp]⟩⟩
      · next e he =>
        cases h
        exact ⟨(Instruction.range_of_decode_eq_error he).1, .inr rfl⟩

/-- A reader that has failed yields nothing more. -/
theorem items_of_failed {r : InstructionReader} (h : r.failed = true) : r.items = [] := by
  rw [items_eq, next, if_pos h]

/-- Everything that a reader still yields lies at its position or behind it. -/
theorem le_of_mem_items {r : InstructionReader} {item : Except DecodeError Instruction}
    (h : item ∈ r.items) : r.position ≤ itemPosition item := by
  induction r using items.induct with
  | case1 r r' hnext =>
    rw [items_eq, hnext] at h
    cases h
  | case2 r first r' hnext hleft ih =>
    obtain ⟨hfirst, hbehind⟩ := next_eq_some hnext
    rw [items_eq, hnext] at h
    rcases List.mem_cons.1 h with rfl | hmem
    · exact hfirst
    · rcases hbehind with ⟨i, rfl, hi⟩ | hfailed
      · have := ih hmem
        simp only [itemPosition] at hfirst
        omega
      · rw [items_of_failed hfailed] at hmem
        cases hmem

/-- What a reader yields does not go back. -/
theorem pairwise_items (r : InstructionReader) :
    r.items.Pairwise fun item item' => itemPosition item ≤ itemPosition item' := by
  induction r using items.induct with
  | case1 r r' hnext =>
    rw [items_eq, hnext]
    exact .nil
  | case2 r first r' hnext hleft ih =>
    rw [items_eq, hnext]
    refine .cons (fun item hitem => ?_) ih
    rcases (next_eq_some hnext).2 with ⟨i, rfl, hi⟩ | hfailed
    · have hle := le_of_mem_items hitem
      rw [hi] at hle
      exact Nat.le_trans (Nat.le_add_right ..) hle
    · rw [items_of_failed hfailed] at hitem
      cases hitem

/-- Whatever a reader yields after an instruction lies behind the instruction's end. -/
theorem end_le_of_items_eq {r : InstructionReader} {i : Instruction}
    {before behind : List (Except DecodeError Instruction)}
    (h : r.items = before ++ .ok i :: behind) {item : Except DecodeError Instruction}
    (hitem : item ∈ behind) : i.position + i.length ≤ itemPosition item := by
  induction r using items.induct generalizing before with
  | case1 r r' hnext =>
    rw [items_eq, hnext] at h
    exact absurd h.symm (List.append_ne_nil_of_right_ne_nil _ (List.cons_ne_nil _ _))
  | case2 r first r' hnext hleft ih =>
    rw [items_eq, hnext] at h
    cases before with
    | nil =>
      obtain ⟨rfl, hbehind⟩ := List.cons.inj h
      rcases (next_eq_some hnext).2 with ⟨j, hj, hp⟩ | hfailed
      · cases hj
        rw [← hbehind] at hitem
        have := le_of_mem_items hitem
        omega
      · rw [← hbehind, items_of_failed hfailed] at hitem
        cases hitem
    | cons _ before => exact ih (List.cons.inj h).2

end InstructionReader

end ShaderLowering
