import ShaderLowering.Proofs.Token.WholeInstructions
import ShaderLowering.Proofs.Words

/-!
# The tokens of operand drafts

The token of an operand has six fields, three more bits for the representation of each index, and a
bit that announces a modifier token. If every part of a draft is as small as its place
(`OperandDraft.Fits`), the token is put together from parts that follow each other from bit 0 to
bit 31 (`token_eq_pack`, `fit_parts`), so each of them is read back.
-/

namespace ShaderLowering

/-! ## Numbers that fit their places -/

theorem IndexRepresentation.raw_lt (r : IndexRepresentation) : r.raw < 8 := by cases r <;> decide

theorem OperandType.raw_lt (type : OperandType) : type.raw < 256 := by cases type <;> decide

theorem ComponentMask.bits_lt (m : ComponentMask) : m.bits < 16 := by
  obtain ⟨x, y, z, w⟩ := m
  cases x <;> cases y <;> cases z <;> cases w <;> decide

theorem Swizzle.packed_lt (s : Swizzle) : s.packed < 256 := by
  rw [Swizzle.packed]
  omega

/-- Packing takes every number modulo four. -/
theorem Swizzle.ofPacked_packed (s : Swizzle) :
    Swizzle.ofPacked s.packed = ⟨s.x % 4, s.y % 4, s.z % 4, s.w % 4⟩ := by
  rw [packed, ofPacked, Swizzle.mk.injEq]
  omega

/-- A number that fits the place of the components is what its word says. -/
theorem Word.toNat_components {n : Nat} (h : n < 256) : (UInt32.ofNat n).toNat = n :=
  UInt32.toNat_ofNat_of_lt' (Nat.lt_trans h (by decide))

/-! ## The operand token -/

namespace OperandDraft

/-- Whether the fields of a draft are small enough for their places in the token. -/
structure Fits (d : OperandDraft) : Prop where
  count : d.count.toNat < 4
  mode : d.mode.toNat < 4
  components : d.components.toNat < 256
  dimension : d.indices.length ≤ 3

/-- The representations of the indices, each with its place. -/
def representationParts (d : OperandDraft) : List Word.Part :=
  d.indices.mapIdx fun n index => ⟨index.representation.raw, 22 + 3 * n, 3⟩

/-- What the token of a draft is put together from, from bit 0 upwards. -/
def parts (d : OperandDraft) : List Word.Part :=
  [⟨d.count.toNat, 0, 2⟩, ⟨d.mode.toNat, 2, 2⟩, ⟨d.components.toNat, 4, 8⟩, ⟨d.type.raw, 12, 8⟩,
    ⟨d.indices.length, 20, 2⟩] ++ d.representationParts ++
    [⟨if d.modifiers.isNone then 0 else 1, 31, 1⟩]

theorem word_representationParts {d : OperandDraft} (h : d.indices.length ≤ 3) :
    d.representationParts.map Word.Part.word = d.representationBits := by
  refine List.ext_getElem (by simp [representationParts, representationBits]) fun n hn _ => ?_
  have hdimension : n < d.indices.length := by simpa [representationParts] using hn
  have hplace : 22 + 3 * n < 32 := by omega
  have hsmall : d.indices[n].representation.raw.toUInt32.toNat = d.indices[n].representation.raw := by
    cases d.indices[n].representation <;> rfl
  simp only [representationParts, representationBits, List.getElem_map, List.getElem_mapIdx]
  rw [Word.shiftLeft_eq_place _ hplace, hsmall, Word.Part.word]

theorem token_eq_pack {d : OperandDraft} (h : d.Fits) : d.token = Word.pack d.parts := by
  have hcount : Word.place d.count.toNat 0 = d.count := by
    rw [Word.place_zero]
    exact UInt32.ofNat_toNat
  have hmode : Word.place d.mode.toNat 2 = d.mode <<< 2 :=
    (Word.shiftLeft_eq_place d.mode (by decide : 2 < 32)).symm
  have hcomponents : Word.place d.components.toNat 4 = d.components <<< 4 :=
    (Word.shiftLeft_eq_place d.components (by decide : 4 < 32)).symm
  have hextended : Word.place (if d.modifiers.isNone then 0 else 1) 31 =
      if d.modifiers.isNone then 0 else Word.extendedBit := by
    split
    · rfl
    · rfl
  simp only [Word.pack, parts, List.map_append, List.foldl_append, List.map_cons, List.map_nil,
    List.foldl_cons, List.foldl_nil, word_representationParts h.dimension, Word.Part.word, hcount,
    hmode, hcomponents, hextended, UInt32.zero_or]
  rfl

/-- Every representation has its own three bits between the dimension and the announcing bit. -/
theorem representationParts_fit {d : OperandDraft} (h : d.indices.length ≤ 3) :
    (∀ part ∈ d.representationParts,
      part.value < 2 ^ part.width ∧ 22 ≤ part.low ∧ part.low + part.width ≤ 31) ∧
    d.representationParts.Pairwise fun first second => first.low + first.width ≤ second.low := by
  constructor
  · intro part hpart
    obtain ⟨n, hn, rfl⟩ := List.mem_mapIdx.1 hpart
    exact ⟨IndexRepresentation.raw_lt _, Nat.le_add_right .., by dsimp only; omega⟩
  · refine List.pairwise_iff_getElem.2 fun m n hm hn hlt => ?_
    simp only [representationParts, List.getElem_mapIdx]
    omega

/-- The parts of the token of a draft follow each other from bit 0 to bit 31. -/
theorem fit_parts {d : OperandDraft} (h : d.Fits) : Word.Fit d.parts := by
  obtain ⟨hrepresentations, hapart⟩ := representationParts_fit h.dimension
  have hdimension : d.indices.length < 2 ^ 2 := Nat.lt_succ_of_le h.dimension
  have hextended : (if d.modifiers.isNone then 0 else 1) < 2 ^ 1 := by split <;> decide
  constructor
  · simp only [parts, List.forall_mem_append, List.forall_mem_cons]
    exact ⟨⟨⟨h.count, h.mode, h.components, OperandType.raw_lt _, hdimension, nofun⟩,
      fun part hpart => (hrepresentations part hpart).1⟩, hextended, nofun⟩
  · simp only [parts, List.forall_mem_append, List.forall_mem_cons]
    refine ⟨⟨by decide, fun part hpart => ?_⟩, by decide, nofun⟩
    exact Nat.le_succ_of_le (hrepresentations part hpart).2.2
  · have hfields : ∀ part ∈ [(⟨d.count.toNat, 0, 2⟩ : Word.Part), ⟨d.mode.toNat, 2, 2⟩,
        ⟨d.components.toNat, 4, 8⟩, ⟨d.type.raw, 12, 8⟩, ⟨d.indices.length, 20, 2⟩],
        part.low + part.width ≤ 22 := by
      simp
    refine List.pairwise_append.2 ⟨List.pairwise_append.2 ⟨by simp, hapart, ?_⟩, by simp, ?_⟩
    · intro first hfirst second hsecond
      exact Nat.le_trans (hfields first hfirst) (hrepresentations second hsecond).2.1
    · intro first hfirst second hsecond
      obtain rfl := List.mem_singleton.1 hsecond
      rcases List.mem_append.1 hfirst with hfirst | hfirst
      · exact Nat.le_trans (hfields first hfirst) (by simp)
      · exact (hrepresentations first hfirst).2.2

/-- Each part of the token of a draft is the field at its place. -/
theorem field_token {d : OperandDraft} (h : d.Fits) (part : Word.Part) (hpart : part ∈ d.parts) :
    d.token.field part.low part.width = part.value := by
  rw [token_eq_pack h]
  exact Word.field_pack (fit_parts h) hpart

theorem componentCount_token {d : OperandDraft} (h : d.Fits) :
    (OperandToken.mk d.token).componentCount = .ofBits d.count.toNat :=
  congrArg ComponentCount.ofBits (field_token h ⟨d.count.toNat, 0, 2⟩ (by simp [parts]))

theorem selectionMode_token {d : OperandDraft} (h : d.Fits) :
    (OperandToken.mk d.token).selectionMode = .ofBits d.mode.toNat :=
  congrArg SelectionMode.ofBits (field_token h ⟨d.mode.toNat, 2, 2⟩ (by simp [parts]))

theorem components_token {d : OperandDraft} (h : d.Fits) :
    d.token.field 4 8 = d.components.toNat :=
  field_token h ⟨d.components.toNat, 4, 8⟩ (by simp [parts])

theorem typeRaw_token {d : OperandDraft} (h : d.Fits) :
    (OperandToken.mk d.token).typeRaw = d.type.raw :=
  field_token h ⟨d.type.raw, 12, 8⟩ (by simp [parts])

theorem extended_token {d : OperandDraft} (h : d.Fits) :
    d.token.extended = !d.modifiers.isNone := by
  have hfield := field_token h ⟨if d.modifiers.isNone then 0 else 1, 31, 1⟩ (by simp [parts])
  rw [Word.extended, Word.flag_eq_field, hfield]
  cases d.modifiers.isNone
  · rfl
  · rfl

theorem representations_token {d : OperandDraft} (h : d.Fits) :
    (OperandToken.mk d.token).representations = d.indices.map (·.representation.raw) := by
  have hdimension : (OperandToken.mk d.token).dimension = d.indices.length :=
    field_token h ⟨d.indices.length, 20, 2⟩ (by simp [parts])
  refine List.ext_getElem (by simp [OperandToken.representations, hdimension]) fun n _ hn => ?_
  have hn : n < d.indices.length := by simpa using hn
  have hpart : (⟨d.indices[n].representation.raw, 22 + 3 * n, 3⟩ : Word.Part) ∈ d.parts :=
    List.mem_append_left _ (List.mem_append_right _ (List.mem_mapIdx.2 ⟨n, hn, rfl⟩))
  simp only [OperandToken.representations, List.getElem_map, List.getElem_range]
  exact field_token h _ hpart

/-- Adding indices to a draft keeps everything else. -/
theorem foldl_addIndex (indices : List IndexDraft) (d : OperandDraft) :
    indices.foldl addIndex d = { d with indices := d.indices ++ indices } := by
  induction indices generalizing d with
  | nil => rw [List.foldl_nil, List.append_nil]
  | cons index indices ih =>
    rw [List.foldl_cons, ih, addIndex, List.append_assoc, List.singleton_append]

/-! ## The modifier token -/

/-- A modifier token is found by its kind, gives the modifiers back and announces no other token. -/
theorem modifierToken (m : OperandModifiers) :
    (OperandExt.mk (1 ||| Word.place m.bits 6)).kind? = some .modifier ∧
      (OperandExt.mk (1 ||| Word.place m.bits 6)).modifiers = m ∧
      (1 ||| Word.place m.bits 6).extended = false := by
  obtain ⟨neg, abs⟩ := m
  cases neg <;> cases abs <;> decide

/-- The modifier token is announced exactly if there is one. -/
theorem isChain_modifierTokens {d : OperandDraft} (h : d.Fits) :
    IsChain d.token.extended d.modifierTokens := by
  rw [extended_token h, modifierTokens]
  cases d.modifiers.isNone
  · change IsChain (1 ||| Word.place d.modifiers.bits 6).extended []
    rw [(modifierToken d.modifiers).2.2]
    rfl
  · rfl

/-- The modifiers are read back from the modifier token, and from none if none is needed. -/
theorem modifiers_modifierTokens {d : OperandDraft} {o : Operand}
    (h : o.extensions = d.modifierTokens.map .mk) : o.modifiers = d.modifiers := by
  rw [Operand.modifiers, Operand.extension?, h, modifierTokens]
  cases hnone : d.modifiers.isNone with
  | true => exact (beq_iff_eq.1 hnone).symm
  | false =>
    obtain ⟨hkind, hmodifiers, -⟩ := modifierToken d.modifiers
    rw [if_neg Bool.false_ne_true, List.map_cons, List.find?_cons, hkind]
    exact hmodifiers

end OperandDraft

end ShaderLowering
