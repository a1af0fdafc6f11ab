import ShaderLowering.Token.Instruction

/-!
# Operands as they are decoded

An operand is whole (`Operand.IsWhole`) if it has as many immediate words as its token announces, and
so have the registers of its relative indices, however deep they are nested. What the words of an
instruction are read as from left to right is what a handler decodes one after the other.
-/

namespace ShaderLowering

/-! ## What decoders return -/

namespace Decoder

variable {α β : Type} {d : Decoder α} {f : α → Decoder β} {Q : α → Prop} {R : β → Prop}

/-- Whatever a decoder returns has a property. -/
def Returns (d : Decoder α) (Q : α → Prop) : Prop := ∀ ⦃c a c'⦄, d c = .ok (a, c') → Q a

theorem Returns.pure {a : α} (h : Q a) : Returns (Pure.pure a) Q := by
  intro c b c' hb
  obtain ⟨rfl, -⟩ := pure_eq_ok.1 hb
  exact h

theorem Returns.bind (hd : Returns d Q) (hf : ∀ a, Q a → Returns (f a) R) :
    Returns (d >>= f) R := by
  intro c b c'' h
  obtain ⟨a, c', ha, hb⟩ := bind_eq_ok.1 h
  exact hf a (hd ha) hb

end Decoder

/-! ## Nested operands -/

namespace Operand

/-- A property of all operands, if an operand has it as soon as the registers of its indices have. -/
theorem nested_induction {Q : Operand → Prop}
    (h : ∀ o : Operand, (∀ index ∈ o.indices, ∀ r, index.register? = some r → Q r) → Q o)
    (o : Operand) : Q o := by
  refine @Operand.rec Q (fun indices => ∀ index ∈ indices, ∀ r, index.register? = some r → Q r)
    (fun index => ∀ r, index.register? = some r → Q r) ?_ ?_ ?_ ?_ ?_ ?_ ?_ ?_ o
  · intro position token type extensions indices immediates ih
    exact h _ ih
  · intro index hindex
    cases hindex
  · intro index indices hfirst hrest other hother
    rcases List.mem_cons.1 hother with rfl | hother
    · exact hfirst
    · exact hrest other hother
  · rintro v r ⟨⟩
  · rintro high low r ⟨⟩
  · rintro register ih r ⟨⟩
    exact ih
  · rintro v register ih r ⟨⟩
    exact ih
  · rintro high low register ih r ⟨⟩
    exact ih

/-- An operand has the immediate words that its token announces, and the registers of its indices
have theirs. -/
inductive IsWhole : Operand → Prop
  | intro {o : Operand} (immediates : o.immediates.length = o.token.immediateCount o.type)
    (registers : ∀ index ∈ o.indices, ∀ r, index.register? = some r → IsWhole r) : IsWhole o

theorem IsWhole.length_immediates {o : Operand} (h : o.IsWhole) :
    o.immediates.length = o.token.immediateCount o.type := by
  cases h with
  | intro immediates registers => exact immediates

theorem IsWhole.register {o : Operand} (h : o.IsWhole) {index : IndexOf Operand}
    (hi : index ∈ o.indices) {r : Operand} (hr : index.register? = some r) : r.IsWhole := by
  cases h with
  | intro immediates registers => exact registers index hi r hr

end Operand

/-! ## Operands of instructions -/

namespace Cursor

variable {c next : Cursor} {o : Operand} {w : Word} {rest : List Word}

/-- A cursor without words has no operands. -/
theorem operands_of_nil (h : c.rest = []) : c.operands = ⟨[], none, c⟩ := by
  rw [operands]
  split
  · rfl
  · next hrest => cases h.symm.trans hrest

/-- Words that are no operand are left. -/
theorem operands_of_error (h : c.rest = w :: rest) {e : DecodeError}
    (he : Operand.decode c = .error e) : c.operands = ⟨[], some e, c⟩ := by
  rw [operands]
  split
  · next hrest => cases h.symm.trans hrest
  · split
    · next hdecode =>
      cases he.symm.trans hdecode
      rfl
    · next hdecode => cases he.symm.trans hdecode

/-- Behind an operand, others are read. -/
theorem operands_of_ok (h : c.rest = w :: rest) (ho : Operand.decode c = .ok (o, next)) :
    c.operands = ⟨o :: next.operands.operands, next.operands.error?, next.operands.cursor⟩ := by
  rw [operands]
  split
  · next hrest => cases h.symm.trans hrest
  · split
    · next hdecode => cases ho.symm.trans hdecode
    · next hdecode =>
      cases ho.symm.trans hdecode
      rfl

/-- The first of the operands that a cursor is read as is decoded at the cursor, and the others are
what is read behind it. -/
theorem decode_of_operands {os : List Operand} (h : c.operands.operands = o :: os) :
    ∃ next, Operand.decode c = .ok (o, next) ∧ next.operands.operands = os := by
  rcases hrest : c.rest with _ | ⟨w, rest⟩
  · rw [operands_of_nil hrest] at h
    cases h
  · rcases hdecode : Operand.decode c with e | ⟨first, next⟩
    · rw [operands_of_error hrest hdecode] at h
      cases h
    · rw [operands_of_ok hrest hdecode] at h
      obtain ⟨rfl, rfl⟩ := List.cons.inj h
      exact ⟨next, rfl, rfl⟩

end Cursor

end ShaderLowering
