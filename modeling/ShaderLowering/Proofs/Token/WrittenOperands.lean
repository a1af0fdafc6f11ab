import ShaderLowering.Proofs.Token.DraftTokens
import ShaderLowering.Proofs.Token.PrefixFree

/-!
# Operands are read back as they were written

A `WrittenOperand` is what an operand is made of: registers of relative indices are written operands
again. Its words are those of a draft whose registers are handed over as words. They are taken by the
decoder for what they were written for, whatever follows them (`exists_takes`), as long as there are
no more levels of registers than the decoder allows; otherwise they are refused at the first register
that is too deep (`refuses`). Both are inductions on the operand, with the levels that are left
generalized, and `parse_readBack` puts them together.
-/

namespace ShaderLowering

/-! ## Written operands -/

/-- An index to be written, over the type of the registers that a relative index names. -/
inductive WrittenIndexOf (R : Type) where
  /-- A 32-bit number. -/
  | imm32 (value : Word)
  /-- The value of a register. -/
  | relative (register : R)
  /-- A 32-bit number plus the value of a register. -/
  | imm32Relative (value : Word) (register : R)

/-- The components of an operand to be written. -/
inductive WrittenComponents where
  /-- No component. -/
  | none
  /-- One component. -/
  | one
  /-- Four components, some of which are named. -/
  | four (selection : ComponentSelection)

/-- An operand to be written, by what it is made of. -/
structure WrittenOperand where
  /-- The operand type. -/
  type : OperandType
  /-- The components. -/
  components : WrittenComponents
  /-- The indices. -/
  indices : List (WrittenIndexOf WrittenOperand)
  /-- The source modifiers. -/
  modifiers : OperandModifiers
  /-- The immediate words. -/
  immediates : List Word

/-- An index of an operand to be written. -/
abbrev WrittenIndex := WrittenIndexOf WrittenOperand

namespace WrittenIndexOf

variable {R : Type}

/-- How the index is encoded. -/
def representation : WrittenIndexOf R → IndexRepresentation
  | imm32 _ => .imm32
  | relative _ => .relative
  | imm32Relative _ _ => .imm32Relative

/-- The register of the relative part. -/
def register? : WrittenIndexOf R → Option R
  | imm32 _ => none
  | relative r | imm32Relative _ r => some r

end WrittenIndexOf

namespace ComponentSelection

/-- The selection with every number of a component taken modulo four. -/
def reduced : ComponentSelection → ComponentSelection
  | mask m => mask m
  | swizzle s => swizzle ⟨s.x % 4, s.y % 4, s.z % 4, s.w % 4⟩
  | single component => single (component % 4)

/-- Whether the selection names no component from four upwards. -/
def IsProper : ComponentSelection → Prop
  | mask _ => True
  | swizzle s => s.x < 4 ∧ s.y < 4 ∧ s.z < 4 ∧ s.w < 4
  | single component => component < 4

theorem IsProper.reduced_eq {s : ComponentSelection} (h : s.IsProper) : s.reduced = s := by
  cases s with
  | mask m => rfl
  | swizzle s =>
    obtain ⟨hx, hy, hz, hw⟩ := h
    rw [reduced, Nat.mod_eq_of_lt hx, Nat.mod_eq_of_lt hy, Nat.mod_eq_of_lt hz, Nat.mod_eq_of_lt hw]
  | single component => rw [reduced, Nat.mod_eq_of_lt h]

end ComponentSelection

namespace WrittenComponents

/-- Gives the components to a draft. -/
def draft (o : OperandDraft) : WrittenComponents → OperandDraft
  | none => o.noComponents
  | one => o.scalar
  | four (.mask m) => o.mask m
  | four (.swizzle s) => o.swizzle s
  | four (.single component) => o.single component

/-- How many components there are. -/
def count : WrittenComponents → ComponentCount
  | none => .zero
  | one => .one
  | four _ => .four

/-- The components that are named. -/
def selection? : WrittenComponents → Option ComponentSelection
  | none | one => .none
  | four s => some s

/-- Whether no component from four upwards is named. -/
def IsProper (c : WrittenComponents) : Prop := ∀ s, c.selection? = some s → s.IsProper

theorem IsProper.map_reduced {c : WrittenComponents} (h : c.IsProper) :
    c.selection?.map ComponentSelection.reduced = c.selection? := by
  cases hs : c.selection? with
  | none => rfl
  | some s => exact congrArg some (h s hs).reduced_eq

/-- The fields of the components fit their places. -/
theorem small_draft (c : WrittenComponents) (o : OperandDraft) :
    (c.draft o).count.toNat < 4 ∧ (c.draft o).mode.toNat < 4 ∧
      (c.draft o).components.toNat < 256 := by
  have h0 : (0 : Word).toNat < 4 := by decide
  have h1 : (1 : Word).toNat < 4 := by decide
  have h2 : (2 : Word).toNat < 4 := by decide
  have hnone : (0 : Word).toNat < 256 := by decide
  have hsmall {n : Nat} (h : n < 256) : (UInt32.ofNat n).toNat < 256 := by
    rwa [Word.toNat_components h]
  rcases c with _ | _ | m | s | component
  · exact ⟨h0, h0, hnone⟩
  · exact ⟨h1, h0, hnone⟩
  · exact ⟨h2, h0, hsmall (Nat.lt_trans m.bits_lt (by decide))⟩
  · exact ⟨h2, h1, hsmall s.packed_lt⟩
  · exact ⟨h2, h2, hsmall (Nat.lt_trans (Nat.mod_lt component (by decide)) (by decide))⟩

theorem count_draft (c : WrittenComponents) (o : OperandDraft) :
    ComponentCount.ofBits (c.draft o).count.toNat = c.count := by
  rcases c with _ | _ | _ | _ | _ <;> rfl

end WrittenComponents

namespace WrittenOperand

open Decoder (Takes)

mutual

/-- What is handed over to be written. -/
def draft : WrittenOperand → OperandDraft
  | ⟨type, components, indices, modifiers, immediates⟩ =>
    ((indexDrafts indices).foldl .addIndex (components.draft (.ofType type))
      |>.withModifiers modifiers).withImmediates immediates

/-- What is handed over for an index. A register is handed over as its words. -/
def indexDraft : WrittenIndexOf WrittenOperand → IndexDraft
  | .imm32 v => .imm32 v
  | .relative r => .relative r.draft.words
  | .imm32Relative v r => .imm32Relative v r.draft.words

/-- What is handed over for indices, one after the other. -/
def indexDrafts : List (WrittenIndexOf WrittenOperand) → List IndexDraft
  | [] => []
  | index :: indices => indexDraft index :: indexDrafts indices

end

/-- The words of the operand. -/
def words (w : WrittenOperand) : List Word := w.draft.words

mutual

/-- How many levels of relative indices there are below the operand. -/
def nesting : WrittenOperand → Nat
  | ⟨_, _, indices, _, _⟩ => listNesting indices

/-- How many levels an index has, one for the register and those below it. -/
def indexNesting : WrittenIndexOf WrittenOperand → Nat
  | .imm32 _ => 0
  | .relative r | .imm32Relative _ r => r.nesting + 1

/-- The largest number of levels of some indices. -/
def listNesting : List (WrittenIndexOf WrittenOperand) → Nat
  | [] => 0
  | index :: indices => max (indexNesting index) (listNesting indices)

end

/-- How many immediate words belong to the operand: one or two for each of one or four components. -/
def immediateCount (w : WrittenOperand) : Nat :=
  match w.type, w.components with
  | .imm32, .one => 1
  | .imm32, .four _ => 4
  | .imm64, .one => 2
  | .imm64, .four _ => 8
  | _, _ => 0

/-- Whether an operand has at most three indices and as many immediate words as belong to it, and so
have the registers of its indices. -/
inductive Fits : WrittenOperand → Prop
  | intro {w : WrittenOperand} (dimension : w.indices.length ≤ 3)
    (immediates : w.immediates.length = w.immediateCount)
    (registers : ∀ index ∈ w.indices, ∀ r, index.register? = some r → Fits r) : Fits w

namespace Fits

variable {w : WrittenOperand}

theorem length_indices (h : w.Fits) : w.indices.length ≤ 3 := by
  cases h with
  | intro dimension immediates registers => exact dimension

theorem length_immediates (h : w.Fits) : w.immediates.length = w.immediateCount := by
  cases h with
  | intro dimension immediates registers => exact immediates

theorem register (h : w.Fits) {v : WrittenIndex} (hv : v ∈ w.indices) {r : WrittenOperand}
    (hr : v.register? = some r) : r.Fits := by
  cases h with
  | intro dimension immediates registers => exact registers v hv r hr

end Fits

/-- Whether a decoded index is the one that was written, over a relation of registers. -/
inductive IndexIsReadAs (R : WrittenOperand → Operand → Prop) : WrittenIndex → OperandIndex → Prop
  | imm32 (value : Word) : IndexIsReadAs R (.imm32 value) (.imm32 value)
  | relative {r : WrittenOperand} {o : Operand} (register : R r o) :
    IndexIsReadAs R (.relative r) (.relative o)
  | imm32Relative (value : Word) {r : WrittenOperand} {o : Operand} (register : R r o) :
    IndexIsReadAs R (.imm32Relative value r) (.imm32Relative value o)

/-- Whether a decoded operand is the one that was written: its parts are given back, and so are
those of the registers of its indices. Components are numbered modulo four. -/
inductive IsReadAs : WrittenOperand → Operand → Prop
  | intro {w : WrittenOperand} {o : Operand} (type : o.type = w.type)
    (count : o.token.componentCount = w.components.count)
    (selection : o.selection? = w.components.selection?.map ComponentSelection.reduced)
    (proper : w.components.IsProper → o.selection? = w.components.selection?)
    (indices : List.Forall₂ (IndexIsReadAs IsReadAs) w.indices o.indices)
    (modifiers : o.modifiers = w.modifiers) (immediates : o.immediates = w.immediates) :
    IsReadAs w o

/-- A property of all written operands, if an operand has it as soon as the registers of its indices
have. -/
theorem nested_induction {Q : WrittenOperand → Prop}
    (h : ∀ w : WrittenOperand,
      (∀ index ∈ w.indices, ∀ r, index.register? = some r → Q r) → Q w) (w : WrittenOperand) :
    Q w := by
  refine @WrittenOperand.rec Q
    (fun indices => ∀ index ∈ indices, ∀ r, index.register? = some r → Q r)
    (fun index => ∀ r, index.register? = some r → Q r) ?_ ?_ ?_ ?_ ?_ ?_ w
  · intro type components indices modifiers immediates ih
    exact h _ ih
  · intro index hindex
    cases hindex
  · intro index indices hfirst hrest other hother
    rcases List.mem_cons.1 hother with rfl | hother
    · exact hfirst
    · exact hrest other hother
  · rintro v r ⟨⟩
  · rintro register ih r ⟨⟩
    exact ih
  · rintro v register ih r ⟨⟩
    exact ih

/-! ## The draft of a written operand -/

theorem indexDrafts_eq (indices : List WrittenIndex) :
    indexDrafts indices = indices.map indexDraft := by
  induction indices with
  | nil => rw [indexDrafts, List.map_nil]
  | cons index indices ih => rw [indexDrafts, ih, List.map_cons]

theorem draft_eq (w : WrittenOperand) :
    w.draft = { w.components.draft (.ofType w.type) with
      indices := w.indices.map indexDraft, modifiers := w.modifiers, immediates := w.immediates } := by
  obtain ⟨type, components, indices, modifiers, immediates⟩ := w
  have hnone : (components.draft (.ofType type)).indices = [] := by
    rcases components with _ | _ | _ | _ | _ <;> rfl
  rw [draft, OperandDraft.foldl_addIndex, hnone, indexDrafts_eq]
  rfl

theorem representation_indexDraft (v : WrittenIndex) :
    (indexDraft v).representation = v.representation := by
  cases v <;> rfl

theorem words_eq (w : WrittenOperand) :
    w.words = w.draft.token ::
      (w.draft.modifierTokens ++ w.indices.flatMap (fun v => (indexDraft v).words) ++
        w.immediates) := by
  rw [words, OperandDraft.words, draft_eq, List.flatMap_map]

/-- The draft of an operand with at most three indices fits. -/
theorem fits_draft {w : WrittenOperand} (h : w.indices.length ≤ 3) : w.draft.Fits := by
  obtain ⟨hcount, hmode, hcomponents⟩ := w.components.small_draft (.ofType w.type)
  rw [draft_eq]
  exact ⟨hcount, hmode, hcomponents, by simpa using h⟩

/-- How many components there are is read back. -/
theorem componentCount_words {w : WrittenOperand} (h : w.indices.length ≤ 3) :
    (OperandToken.mk w.draft.token).componentCount = w.components.count := by
  rw [OperandDraft.componentCount_token (fits_draft h), draft_eq]
  exact w.components.count_draft _

/-- The components that are named are read back. -/
theorem selection?_words {w : WrittenOperand} (h : w.indices.length ≤ 3) :
    (OperandToken.mk w.draft.token).selection? =
      w.components.selection?.map ComponentSelection.reduced := by
  have hcount := componentCount_words h
  have hmode := OperandDraft.selectionMode_token (fits_draft h)
  have hfield := OperandDraft.components_token (fits_draft h)
  have hnarrow (width : Nat) (hwidth : width ≤ 8) :
      w.draft.token.field 4 width = w.draft.components.toNat % 2 ^ width := by
    rw [← Word.field_mod _ _ hwidth, hfield]
  rw [OperandToken.selection?, hcount, hmode, OperandToken.mask, OperandToken.swizzle,
    OperandToken.single, hnarrow 4 (by decide), hnarrow 2 (by decide), hfield, draft_eq]
  rcases w.components with _ | _ | m | s | component
  · rfl
  · rfl
  · change some (ComponentSelection.mask (.ofBits ((UInt32.ofNat m.bits).toNat % 16))) = _
    rw [Word.toNat_components (Nat.lt_trans m.bits_lt (by decide)), Nat.mod_eq_of_lt m.bits_lt,
      ComponentMask.ofBits_bits]
    rfl
  · change some (ComponentSelection.swizzle (.ofPacked (UInt32.ofNat s.packed).toNat)) = _
    rw [Word.toNat_components s.packed_lt, Swizzle.ofPacked_packed]
    rfl
  · change some (ComponentSelection.single ((UInt32.ofNat (component % 4)).toNat % 4)) = _
    have hsmall : component % 4 < 256 := Nat.lt_trans (Nat.mod_lt component (by decide)) (by decide)
    rw [Word.toNat_components hsmall, Nat.mod_mod]
    rfl

/-- The type is read back. -/
theorem type?_words {w : WrittenOperand} (h : w.indices.length ≤ 3) :
    Numbered.ofRaw? (OperandToken.mk w.draft.token).typeRaw = some w.type := by
  rw [OperandDraft.typeRaw_token (fits_draft h), draft_eq]
  rcases w.components with _ | _ | _ | _ | _ <;> exact Numbered.ofRaw?_raw _

/-- As many immediate words are announced as belong to the operand. -/
theorem immediateCount_words {w : WrittenOperand} (h : w.indices.length ≤ 3) :
    (OperandToken.mk w.draft.token).immediateCount w.type = w.immediateCount := by
  unfold OperandToken.immediateCount immediateCount
  rw [componentCount_words h]
  rcases w.components with _ | _ | _ <;> cases w.type <;> rfl

/-- The indices are announced as they are written. -/
theorem representations_words {w : WrittenOperand} (h : w.indices.length ≤ 3) :
    (OperandToken.mk w.draft.token).representations = w.indices.map (·.representation.raw) := by
  rw [OperandDraft.representations_token (fits_draft h), draft_eq, List.map_map]
  refine List.map_congr_left fun v _ => ?_
  rw [Function.comp_apply, representation_indexDraft]

/-! ## Levels -/

theorem nesting_eq (w : WrittenOperand) : w.nesting = listNesting w.indices := by
  cases w
  rw [nesting]

theorem indexNesting_eq {v : WrittenIndex} {r : WrittenOperand} (h : v.register? = some r) :
    indexNesting v = r.nesting + 1 := by
  cases v with
  | imm32 value => cases h
  | relative register =>
    cases h
    rw [indexNesting]
  | imm32Relative value register =>
    cases h
    rw [indexNesting]

/-- The registers of an operand have fewer levels below them. -/
theorem nesting_register {w : WrittenOperand} {v : WrittenIndex} (hv : v ∈ w.indices)
    {r : WrittenOperand} (hr : v.register? = some r) : r.nesting < w.nesting := by
  have hle {vs : List WrittenIndex} (h : v ∈ vs) : indexNesting v ≤ listNesting vs := by
    induction vs with
    | nil => cases h
    | cons first rest ih =>
      rw [listNesting]
      rcases List.mem_cons.1 h with rfl | h
      · exact Nat.le_max_left ..
      · exact Nat.le_trans (ih h) (Nat.le_max_right ..)
  rw [nesting_eq w, ← Nat.add_one_le_iff, ← indexNesting_eq hr]
  exact hle hv

/-! ## Reading an operand back -/


section

variable {register : Decoder Operand}

/-- Whether a decoder takes the register of an index from its words, wherever these stand. -/
def TakesRegister (register : Decoder Operand) (v : WrittenIndex) : Prop :=
  ∀ r, v.register? = some r → ∀ position, ∃ o, register.Takes position r.words o ∧ r.IsReadAs o

/-- An index is taken from its words, if its register is. -/
theorem exists_takes_index {v : WrittenIndex} (h : TakesRegister register v) (position : Nat) :
    ∃ index, (Operand.decodeIndexAs register v.representation).Takes position
      (indexDraft v).words index ∧ IndexIsReadAs IsReadAs v index := by
  cases v with
  | imm32 value => exact ⟨.imm32 value, (Takes.word position value).map _, .imm32 value⟩
  | relative r =>
    obtain ⟨o, ho, hread⟩ := h r rfl position
    refine ⟨.relative o, ?_, .relative hread⟩
    rw [indexDraft]
    exact ho.map _
  | imm32Relative value r =>
    obtain ⟨o, ho, hread⟩ := h r rfl (position + 1)
    refine ⟨.imm32Relative value o, ?_, .imm32Relative value hread⟩
    rw [indexDraft]
    exact (Takes.word position value).bind (ho.map _)

/-- The first of the indices is decoded by its representation. -/
theorem decodeIndices_cons (start : Nat) (v : WrittenIndex) (raws : List Nat) :
    Operand.decodeIndices register start (v.representation.raw :: raws) = do
      let index ← Operand.decodeIndexAs register v.representation
      let indices ← Operand.decodeIndices register start raws
      return index :: indices := by
  have hraw : Numbered.ofRaw? v.representation.raw = some v.representation := Numbered.ofRaw?_raw _
  rw [Operand.decodeIndices, hraw]

/-- Indices are taken from their words, if their registers are. -/
theorem exists_takes_indices {vs : List WrittenIndex} (h : ∀ v ∈ vs, TakesRegister register v)
    (start position : Nat) :
    ∃ indices, (Operand.decodeIndices register start (vs.map (·.representation.raw))).Takes position
      (vs.flatMap fun v => (indexDraft v).words) indices ∧
      List.Forall₂ (IndexIsReadAs IsReadAs) vs indices := by
  induction vs generalizing position with
  | nil => exact ⟨[], .pure position [], .nil⟩
  | cons v vs ih =>
    obtain ⟨index, hindex, hread⟩ := exists_takes_index (h v List.mem_cons_self) position
    obtain ⟨indices, hindices, hreads⟩ := ih (fun v' hv' => h v' (List.mem_cons_of_mem _ hv'))
      (position + (indexDraft v).words.length)
    refine ⟨index :: indices, ?_, .cons hread hreads⟩
    rw [List.map_cons, decodeIndices_cons]
    exact hindex.bind (hindices.map _)

/-- Behind its token an operand is taken from its other words, if the registers of its indices are. -/
theorem exists_takes_behind {w : WrittenOperand} (hw : w.Fits)
    (h : ∀ v ∈ w.indices, TakesRegister register v) (start position : Nat) :
    ∃ o, (Operand.decodeBehind register start ⟨w.draft.token⟩).Takes position
      (w.draft.modifierTokens ++ w.indices.flatMap (fun v => (indexDraft v).words) ++ w.immediates)
      o ∧ w.IsReadAs o := by
  have hdimension := hw.length_indices
  obtain ⟨indices, hindices, hreads⟩ := exists_takes_indices h start
    (position + w.draft.modifierTokens.length)
  refine ⟨⟨start, ⟨w.draft.token⟩, w.type, w.draft.modifierTokens.map .mk, indices, w.immediates⟩,
    ?_, ?_⟩
  · simp only [Operand.decodeBehind, type?_words hdimension]
    rw [representations_words hdimension, immediateCount_words hdimension, ← hw.length_immediates,
      List.append_assoc]
    refine (Takes.chain position (OperandDraft.isChain_modifierTokens (fits_draft hdimension))).bind
      (hindices.bind ?_)
    exact (Takes.words _ w.immediates).map _
  · have hselection := selection?_words hdimension
    refine .intro rfl (componentCount_words hdimension) hselection
      (fun hproper => hselection.trans hproper.map_reduced) hreads ?_ rfl
    rw [OperandDraft.modifiers_modifierTokens rfl, draft_eq]

end

/-- An operand is taken from its token on as it is behind it. -/
theorem takes_of_behind {w : WrittenOperand} {levels position : Nat} {o : Operand}
    (h : (Operand.decodeBehind (Operand.decodeNested levels) position ⟨w.draft.token⟩).Takes
      (position + 1) (w.draft.modifierTokens ++ w.indices.flatMap (fun v => (indexDraft v).words) ++
        w.immediates) o) :
    (Operand.decodeNested (levels + 1)).Takes position w.words o := by
  have hword := (Takes.word position w.draft.token).bind
    (f := fun t => Operand.decodeBehind (Operand.decodeNested levels) position ⟨t⟩) h
  rw [words_eq]
  exact Takes.at_position
    (f := fun p => Decoder.word >>= fun t => Operand.decodeBehind (Operand.decodeNested levels) p ⟨t⟩)
    hword

/-- An operand with fewer levels than the decoder allows is taken from its words. -/
theorem exists_takes {w : WrittenOperand} (hw : w.Fits) {levels : Nat} (hlevels : w.nesting < levels)
    (position : Nat) :
    ∃ o, (Operand.decodeNested levels).Takes position w.words o ∧ w.IsReadAs o := by
  induction w using nested_induction generalizing levels position with
  | h w ih =>
    cases levels with
    | zero => exact absurd hlevels (Nat.not_lt_zero _)
    | succ levels =>
      have hregisters : ∀ v ∈ w.indices, TakesRegister (Operand.decodeNested levels) v := by
        intro v hv r hr
        have hless := nesting_register hv hr
        exact ih v hv r hr (hw.register hv hr) (by omega)
      obtain ⟨o, ho, hread⟩ := exists_takes_behind hw hregisters position (position + 1)
      exact ⟨o, takes_of_behind ho, hread⟩

end WrittenOperand

/-! ## Refusing an operand -/

/-- A decoder refuses some words, whatever follows them: it reports the fault at one of them. -/
def Decoder.Refuses {α : Type} (d : Decoder α) (fault : DecodeFault) (position : Nat)
    (ws : List Word) : Prop :=
  ∀ behind, ∃ p, d ⟨position, ws ++ behind⟩ = .error ⟨p, fault⟩ ∧
    position ≤ p ∧ p < position + ws.length

namespace Decoder.Refuses

variable {α β : Type} {d : Decoder α} {f : α → Decoder β} {fault : DecodeFault} {position : Nat}
  {vs ws : List Word}

/-- With words that are refused, more words are refused. -/
theorem append (h : d.Refuses fault position vs) (ws : List Word) :
    d.Refuses fault position (vs ++ ws) := by
  intro behind
  obtain ⟨p, herror, hlow, hhigh⟩ := h (ws ++ behind)
  rw [List.append_assoc, List.length_append]
  exact ⟨p, herror, hlow, by omega⟩

/-- A decoder that first asks for its position refuses what it refuses there. -/
theorem at_position {f : Nat → Decoder α} (h : (f position).Refuses fault position ws) :
    Refuses (get >>= fun c => f c.position) fault position ws := h

/-- What is refused first is refused. -/
theorem bind_first (h : d.Refuses fault position ws) : (d >>= f).Refuses fault position ws := by
  intro behind
  obtain ⟨p, herror, hrange⟩ := h behind
  exact ⟨p, bind_of_error herror, hrange⟩

/-- What is refused behind words that are taken is refused. -/
theorem bind_second {a : α} (hd : d.Takes position vs a)
    (h : (f a).Refuses fault (position + vs.length) ws) :
    (d >>= f).Refuses fault position (vs ++ ws) := by
  intro behind
  obtain ⟨p, herror, hlow, hhigh⟩ := h behind
  rw [List.append_assoc, List.length_append, bind_of_ok (hd.whole _)]
  exact ⟨p, herror, by omega, by omega⟩

end Decoder.Refuses

namespace WrittenOperand

open Decoder (Takes Refuses)

section

variable {register : Decoder Operand}

/-- Whether a decoder refuses the register of an index for being nested too deep, wherever its words
stand. -/
def RefusesRegister (register : Decoder Operand) (v : WrittenIndex) : Prop :=
  ∃ r, v.register? = some r ∧
    ∀ position, register.Refuses (.nestedTooDeep Operand.maxNesting) position r.words

theorem refuses_index {v : WrittenIndex} (h : RefusesRegister register v) (position : Nat) :
    (Operand.decodeIndexAs register v.representation).Refuses (.nestedTooDeep Operand.maxNesting)
      position (indexDraft v).words := by
  obtain ⟨r, hr, hrefuses⟩ := h
  cases v with
  | imm32 value => cases hr
  | relative r =>
    obtain rfl := Option.some.inj hr
    rw [indexDraft]
    exact (hrefuses position).bind_first
  | imm32Relative value r =>
    obtain rfl := Option.some.inj hr
    rw [indexDraft]
    exact .bind_second (Takes.word position value) (hrefuses (position + 1)).bind_first

/-- Indices are refused at the first register that is refused. -/
theorem refuses_indices {vs : List WrittenIndex}
    (h : ∀ v ∈ vs, TakesRegister register v ∨ RefusesRegister register v)
    (hrefused : ∃ v ∈ vs, RefusesRegister register v) (start position : Nat) :
    (Operand.decodeIndices register start (vs.map (·.representation.raw))).Refuses
      (.nestedTooDeep Operand.maxNesting) position (vs.flatMap fun v => (indexDraft v).words) := by
  induction vs generalizing position with
  | nil =>
    obtain ⟨v, hv, -⟩ := hrefused
    cases hv
  | cons v vs ih =>
    rw [List.map_cons, decodeIndices_cons, List.flatMap_cons]
    rcases h v List.mem_cons_self with htakes | hrefuses
    · obtain ⟨index, hindex, -⟩ := exists_takes_index htakes position
      obtain ⟨v', hv', hrefuses⟩ := hrefused
      rcases List.mem_cons.1 hv' with rfl | hv'
      · exact (refuses_index hrefuses position).bind_first.append _
      · exact .bind_second hindex
          (ih (fun v hv => h v (List.mem_cons_of_mem _ hv)) ⟨v', hv', hrefuses⟩ _).bind_first
    · exact (refuses_index hrefuses position).bind_first.append _

/-- An operand is refused behind its token if the register of an index is. -/
theorem refuses_behind {w : WrittenOperand} (hw : w.Fits)
    (h : ∀ v ∈ w.indices, TakesRegister register v ∨ RefusesRegister register v)
    (hrefused : ∃ v ∈ w.indices, RefusesRegister register v) (start position : Nat) :
    (Operand.decodeBehind register start ⟨w.draft.token⟩).Refuses
      (.nestedTooDeep Operand.maxNesting) position
      (w.draft.modifierTokens ++ w.indices.flatMap (fun v => (indexDraft v).words) ++
        w.immediates) := by
  have hdimension := hw.length_indices
  simp only [Operand.decodeBehind, type?_words hdimension]
  rw [representations_words hdimension, List.append_assoc]
  exact .bind_second (.chain position (OperandDraft.isChain_modifierTokens (fits_draft hdimension)))
    ((refuses_indices h hrefused start _).bind_first.append _)

end

/-- Some register has one level less than the operand, if that has any. -/
theorem exists_register {w : WrittenOperand} (h : 0 < w.nesting) :
    ∃ v ∈ w.indices, ∃ r, v.register? = some r ∧ w.nesting = r.nesting + 1 := by
  have hmost (vs : List WrittenIndex) (h : 0 < listNesting vs) :
      ∃ v ∈ vs, indexNesting v = listNesting vs := by
    induction vs with
    | nil =>
      rw [listNesting] at h
      cases h
    | cons first rest ih =>
      rw [listNesting] at h ⊢
      rcases Nat.le_total (listNesting rest) (indexNesting first) with hle | hle
      · exact ⟨first, List.mem_cons_self, (Nat.max_eq_left hle).symm⟩
      · rw [Nat.max_eq_right hle] at h ⊢
        obtain ⟨v, hv, heq⟩ := ih h
        exact ⟨v, List.mem_cons_of_mem _ hv, heq⟩
  rw [nesting_eq w] at h ⊢
  obtain ⟨v, hv, heq⟩ := hmost w.indices h
  cases hr : v.register? with
  | none =>
    -- an index without a register has no level
    cases v with
    | imm32 value =>
      rw [← heq, indexNesting] at h
      cases h
    | relative r => cases hr
    | imm32Relative value r => cases hr
  | some r => exact ⟨v, hv, r, hr, heq.symm.trans (indexNesting_eq hr)⟩

/-- An operand with as many levels as the decoder allows, or more, is refused. -/
theorem refuses {w : WrittenOperand} (hw : w.Fits) {levels : Nat} (hlevels : levels ≤ w.nesting)
    (position : Nat) :
    (Operand.decodeNested levels).Refuses (.nestedTooDeep Operand.maxNesting) position w.words := by
  induction w using nested_induction generalizing levels position with
  | h w ih =>
    rw [words_eq]
    cases levels with
    | zero => exact fun behind => ⟨position, rfl, Nat.le_refl _, by simp⟩
    | succ levels =>
      have hregisters : ∀ v ∈ w.indices, TakesRegister (Operand.decodeNested levels) v ∨
          RefusesRegister (Operand.decodeNested levels) v := by
        intro v hv
        by_cases hdeep : ∃ r, v.register? = some r ∧ levels ≤ r.nesting
        · obtain ⟨r, hr, hdeep⟩ := hdeep
          right
          exact ⟨r, hr, ih v hv r hr (hw.register hv hr) hdeep⟩
        · left
          intro r hr
          have hlevels : r.nesting < levels := Nat.lt_of_not_le fun h => hdeep ⟨r, hr, h⟩
          exact exists_takes (hw.register hv hr) hlevels
      have hrefused : ∃ v ∈ w.indices, RefusesRegister (Operand.decodeNested levels) v := by
        obtain ⟨v, hv, r, hr, hnesting⟩ := exists_register (Nat.zero_lt_of_lt hlevels)
        exact ⟨v, hv, r, hr, ih v hv r hr (hw.register hv hr) (by omega)⟩
      exact .at_position (f := fun p => Decoder.word >>= fun t =>
          Operand.decodeBehind (Operand.decodeNested levels) p ⟨t⟩)
        (.bind_second (Takes.word position _) (refuses_behind hw hregisters hrefused position _))

/-- Operands are read back as they were written, whatever follows them: the type, the components, the
indices with the registers below them, the modifiers and the immediate words. An operand that is
nested deeper than the decoder allows is refused. -/
theorem parse_readBack {w : WrittenOperand} (hw : w.Fits) (position : Nat) (behind : List Word) :
    (w.nesting ≤ Operand.maxNesting →
      ∃ o, Operand.parse (w.words ++ behind) position = .ok o ∧ o.length = w.words.length ∧
        w.IsReadAs o) ∧
    (Operand.maxNesting < w.nesting →
      ∃ p, Operand.parse (w.words ++ behind) position =
          .error ⟨p, .nestedTooDeep Operand.maxNesting⟩ ∧
        position ≤ p ∧ p < position + w.words.length) := by
  constructor
  · intro hnesting
    obtain ⟨o, ho, hread⟩ := exists_takes hw (Nat.lt_succ_of_le hnesting) position
    exact ⟨o, Operand.parse_eq_ok_iff.2 ⟨_, ho.whole behind⟩,
      congrArg List.length (Operand.words_of_takes ho), hread⟩
  · intro hnesting
    obtain ⟨p, herror, hrange⟩ := refuses hw (Nat.succ_le_of_lt hnesting) position behind
    exact ⟨p, Operand.parse_eq_error_iff.2 herror, hrange⟩

/-- A register whose value is negated, with some levels of relative indices below it. -/
def tower : Nat → WrittenOperand
  | 0 => ⟨.temp, .four (.single 2), [.imm32 7], ⟨true, false⟩, []⟩
  | levels + 1 =>
    ⟨.constantBuffer, .four (.swizzle ⟨3, 1, 0, 0⟩), [.imm32 1, .imm32Relative 4 (tower levels)],
      ⟨true, false⟩, []⟩

theorem fits_tower (levels : Nat) : (tower levels).Fits := by
  induction levels with
  | zero =>
    refine .intro (by decide) rfl fun v hv r hr => ?_
    obtain rfl := List.mem_singleton.1 hv
    cases hr
  | succ levels ih =>
    refine .intro (Nat.le_succ 2) rfl fun v hv r hr => ?_
    rcases List.mem_cons.1 hv with rfl | hv
    · cases hr
    · obtain rfl := List.mem_singleton.1 hv
      obtain rfl := Option.some.inj hr
      exact ih

/-- Four levels are read back, five are refused. -/
theorem tower_readBack :
    (∃ o, Operand.parse ((tower 4).words ++ [8, 9]) 5 = .ok o ∧ o.length = 19 ∧
      (tower 4).IsReadAs o) ∧
    ∃ p, Operand.parse ((tower 5).words ++ [8, 9]) 5 = .error ⟨p, .nestedTooDeep 4⟩ ∧
      5 ≤ p ∧ p < 28 := by
  have hfour : (tower 4).nesting ≤ Operand.maxNesting := by decide
  have hfive : Operand.maxNesting < (tower 5).nesting := by decide
  exact ⟨(parse_readBack (fits_tower 4) 5 [8, 9]).1 hfour,
    (parse_readBack (fits_tower 5) 5 [8, 9]).2 hfive⟩

end WrittenOperand

end ShaderLowering
