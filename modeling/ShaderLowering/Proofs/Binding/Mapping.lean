import Mathlib.Data.List.Nodup
import Mathlib.Data.List.Perm.Subperm
import Mathlib.Data.Nat.Bitwise
import ShaderLowering.Shader

/-!
# Mappings that grow

Definitions add to a mapping: a slot keeps its binding and its kind, and is seen by no fewer stages
than before. So what one shader defines is still there when all shaders of a pipeline have defined
their slots (`Shader.shows_of_defineAll?`). Since no slot is in two places, its binding is where it is
(`SlotMapping.binding?_eq_some`), and as a word the binding does not wrap.
-/

namespace ShaderLowering

/-! ## Stages -/

namespace StageSet

/-- Whether a set holds a stage. -/
def Has (s : StageSet) (stage : ShaderStage) : Prop :=
  ∃ index, stage.index? = some index ∧ s.bits.testBit index = true

variable {s t : StageSet} {stage : ShaderStage}

theorem has_single {index : Nat} (h : stage.index? = some index) : (single stage).Has stage := by
  refine ⟨index, h, ?_⟩
  simp only [single, h, Nat.one_shiftLeft, Nat.testBit_two_pow_self]

theorem Has.union_left (h : s.Has stage) : (s.union t).Has stage := by
  obtain ⟨index, hindex, hbit⟩ := h
  exact ⟨index, hindex, by rw [union, Nat.testBit_or, hbit, Bool.true_or]⟩

theorem Has.union_right (h : t.Has stage) : (s.union t).Has stage := by
  obtain ⟨index, hindex, hbit⟩ := h
  exact ⟨index, hindex, by rw [union, Nat.testBit_or, hbit, Bool.or_true]⟩

end StageSet

/-! ## Definitions -/

namespace SlotMapping

/-- No slot is in two places. -/
def Valid (m : SlotMapping) : Prop := (m.entries.map (·.slot)).Nodup

/-- One mapping goes on from another: entries stay in their places. -/
def Extends (m m' : SlotMapping) : Prop :=
  ∀ (i : Nat) (e : MappedSlot), m.entries[i]? = some e →
    ∃ e' : MappedSlot, m'.entries[i]? = some e' ∧ e'.slot = e.slot ∧ e'.kind = e.kind ∧
      ∀ stage, e.stages.Has stage → e'.stages.Has stage

/-- A mapping has a slot of a kind, seen by a stage. -/
def Shows (m : SlotMapping) (slot : Word) (kind : ResourceKind) (stage : ShaderStage) : Prop :=
  ∃ (i : Nat) (e : MappedSlot), m.entries[i]? = some e ∧ e.slot = slot ∧ e.kind = kind ∧
    e.stages.Has stage

/-- A mapping in which more stages see a slot. -/
def widen (m : SlotMapping) (slot : Word) (stages : StageSet) : SlotMapping :=
  ⟨m.entries.map fun e =>
    if e.slot = slot then { e with stages := e.stages.union stages } else e⟩

variable {m m' m'' : SlotMapping} {slot : Word} {kind : ResourceKind} {stages : StageSet}
variable {stage : ShaderStage}

theorem Extends.refl (m : SlotMapping) : m.Extends m :=
  fun _ e he => ⟨e, he, rfl, rfl, fun _ => id⟩

theorem Extends.trans (h : m.Extends m') (h' : m'.Extends m'') : m.Extends m'' := by
  intro i e he
  obtain ⟨e', he', hslot, hkind, hstages⟩ := h i e he
  obtain ⟨e'', he'', hslot', hkind', hstages'⟩ := h' i e' he'
  exact ⟨e'', he'', hslot'.trans hslot, hkind'.trans hkind,
    fun stage hs => hstages' stage (hstages stage hs)⟩

theorem Shows.mono (hs : m.Shows slot kind stage) (h : m.Extends m') : m'.Shows slot kind stage := by
  obtain ⟨i, e, he, hslot, hkind, hstage⟩ := hs
  obtain ⟨e', he', hslot', hkind', hstages⟩ := h i e he
  exact ⟨i, e', he', hslot'.trans hslot, hkind'.trans hkind, hstages stage hstage⟩

theorem valid_empty : empty.Valid := List.nodup_nil

/-- What a definition comes to: a new slot, a refusal, or more stages for a known slot. -/
theorem define_cases (m : SlotMapping) (slot : Word) (kind : ResourceKind) (stages : StageSet) :
    (m.find? slot = none ∧
      m.define slot kind stages = .ok ⟨m.entries ++ [⟨slot, kind, stages⟩]⟩) ∨
    (∃ existing, m.find? slot = some existing ∧ existing.kind ≠ kind ∧
      m.define slot kind stages = .error (.kindConflict slot existing.kind kind)) ∨
    ∃ existing, m.find? slot = some existing ∧ existing.kind = kind ∧
      m.define slot kind stages = .ok (m.widen slot stages) := by
  rw [define]
  rcases hfind : m.find? slot with _ | existing
  · exact .inl ⟨rfl, rfl⟩
  · refine .inr ?_
    by_cases hkind : existing.kind = kind
    · exact .inr ⟨existing, rfl, hkind, if_neg (not_not.2 hkind)⟩
    · exact .inl ⟨existing, rfl, hkind, if_pos hkind⟩

theorem slots_widen (m : SlotMapping) (slot : Word) (stages : StageSet) :
    (m.widen slot stages).entries.map (·.slot) = m.entries.map (·.slot) := by
  rw [widen, List.map_map]
  refine List.map_congr_left fun e _ => ?_
  rw [Function.comp_apply]
  split <;> rfl

/-- The entry that is found is one of the slot. -/
theorem slot_of_find? {e : MappedSlot} (h : m.find? slot = some e) : e.slot = slot := by
  have hsame := List.find?_some h
  exact beq_iff_eq.1 hsame

/-- A slot that is not found is no entry's. -/
theorem ne_of_find?_eq_none (h : m.find? slot = none) : ∀ e ∈ m.entries, e.slot ≠ slot :=
  fun e he hslot => List.find?_eq_none.1 h e he (beq_iff_eq.2 hslot)

/-- A new slot goes to the end. -/
theorem extends_concat (hm : m.Valid) (hnew : m.find? slot = none) (kind : ResourceKind)
    (stages : StageSet) :
    Valid ⟨m.entries ++ [⟨slot, kind, stages⟩]⟩ ∧
      m.Extends ⟨m.entries ++ [⟨slot, kind, stages⟩]⟩ ∧
      ∀ stage, stages.Has stage →
        Shows ⟨m.entries ++ [⟨slot, kind, stages⟩]⟩ slot kind stage := by
  refine ⟨?_, fun i e he => ⟨e, ?_, rfl, rfl, fun _ => id⟩, fun stage hs =>
    ⟨m.entries.length, ⟨slot, kind, stages⟩, List.getElem?_concat_length, rfl, rfl, hs⟩⟩
  · rw [Valid, List.map_append, List.nodup_append]
    refine ⟨hm, List.nodup_singleton _, fun s hs s' hs' heq => ?_⟩
    obtain ⟨e, he, rfl⟩ := List.mem_map.1 hs
    exact ne_of_find?_eq_none hnew e he (heq.trans (List.mem_singleton.1 hs'))
  · obtain ⟨hi, -⟩ := List.getElem?_eq_some_iff.1 he
    rwa [List.getElem?_append_left hi]

/-- A known slot stays in its place, and more stages see it. -/
theorem extends_widen (hm : m.Valid) {existing : MappedSlot} (hfind : m.find? slot = some existing)
    (stages : StageSet) :
    (m.widen slot stages).Valid ∧ m.Extends (m.widen slot stages) ∧
      ∀ stage, stages.Has stage → (m.widen slot stages).Shows slot existing.kind stage := by
  have hslot := slot_of_find? hfind
  refine ⟨?_, fun i e he => ?_, fun stage hs => ?_⟩
  · rw [Valid, slots_widen]
    exact hm
  · rw [widen, List.getElem?_map, he]
    refine ⟨_, rfl, ?_⟩
    dsimp only
    split
    · exact ⟨rfl, rfl, fun _ => StageSet.Has.union_left⟩
    · exact ⟨rfl, rfl, fun _ => id⟩
  · obtain ⟨i, hi⟩ := List.mem_iff_getElem?.1 (List.mem_of_find?_eq_some hfind)
    refine ⟨i, { existing with stages := existing.stages.union stages }, ?_, hslot, rfl,
      hs.union_right⟩
    rw [widen, List.getElem?_map, hi, Option.map_some, if_pos hslot]

/-- What one definition does that is not refused. -/
theorem define_ok (hm : m.Valid) (h : m.define slot kind stages = .ok m') :
    m'.Valid ∧ m.Extends m' ∧ ∀ stage, stages.Has stage → m'.Shows slot kind stage := by
  rcases m.define_cases slot kind stages with
    ⟨hnew, hdefine⟩ | ⟨existing, -, -, hdefine⟩ | ⟨existing, hfind, rfl, hdefine⟩
  · cases hdefine.symm.trans h
    exact extends_concat hm hnew kind stages
  · cases hdefine.symm.trans h
  · cases hdefine.symm.trans h
    exact extends_widen hm hfind stages

/-- What the definitions of one shader do, if none is refused. -/
theorem defineAll_ok {slots : List ResourceSlot} (hm : m.Valid)
    (h : defineAll stages slots m = (m', none)) :
    m'.Valid ∧ m.Extends m' ∧
      ∀ s ∈ slots, ∀ stage, stages.Has stage → m'.Shows s.slot s.kind stage := by
  induction slots generalizing m with
  | nil =>
    cases h
    exact ⟨hm, .refl _, nofun⟩
  | cons s slots ih =>
    rw [defineAll] at h
    split at h
    · next m₁ hdefine =>
      obtain ⟨hm₁, hextends, hshows⟩ := define_ok hm hdefine
      obtain ⟨hm', hextends', hshows'⟩ := ih hm₁ h
      refine ⟨hm', hextends.trans hextends', fun s' hs' stage hstage => ?_⟩
      rcases List.mem_cons.1 hs' with rfl | hs'
      · exact (hshows stage hstage).mono hextends'
      · exact hshows' s' hs' stage hstage
    · cases h

/-! ## Bindings -/

/-- The binding of a slot is its place. -/
theorem binding?_eq_some (hm : m.Valid) {i : Nat} {e : MappedSlot} (he : m.entries[i]? = some e) :
    m.binding? e.slot = some i := by
  obtain ⟨hi, rfl⟩ := List.getElem?_eq_some_iff.1 he
  rw [binding?, List.findIdx?_eq_some_iff_getElem]
  refine ⟨hi, beq_self_eq_true _, fun j hj => ?_⟩
  have hne := List.pairwise_iff_getElem.1 (List.pairwise_map.1 hm) j i (hj.trans hi) hi hj
  simpa using hne

/-- There are no more entries than words. -/
theorem Valid.length_le (hm : m.Valid) : m.entries.length ≤ UInt32.size := by
  -- the slots are different words, read as numbers here
  have hnodup : (m.entries.map fun e => e.slot.toNat).Nodup := by
    rw [Valid, ← List.nodup_map_iff (fun _ _ => UInt32.toNat_inj.1), List.map_map] at hm
    exact hm
  have hsubset : (m.entries.map fun e => e.slot.toNat) ⊆ List.range UInt32.size := by
    intro n hn
    obtain ⟨e, -, rfl⟩ := List.mem_map.1 hn
    exact List.mem_range.2 e.slot.toNat_lt
  have hlength := (List.subperm_of_subset hnodup hsubset).length_le
  rwa [List.length_map, List.length_range] at hlength

/-- The binding of a slot is small enough for a word. -/
theorem toNat_bindingFor (hm : m.Valid) {i : Nat} {e : MappedSlot} (he : m.entries[i]? = some e) :
    (Shader.bindingFor m e.slot).toNat = i := by
  obtain ⟨hi, -⟩ := List.getElem?_eq_some_iff.1 he
  simp only [Shader.bindingFor, binding?_eq_some hm he]
  exact (UInt32.toNat_ofNat' ..).trans (Nat.mod_eq_of_lt (hi.trans_le hm.length_le))

end SlotMapping

/-! ## Pipelines -/

namespace Shader

/-- A mapping with the slots of shaders, defined one after the other; `none` if one is refused. -/
def defineAll? (m : SlotMapping) : List Shader → Option SlotMapping
  | [] => some m
  | s :: shaders =>
    match s.defineSlots m with
    | (m', none) => defineAll? m' shaders
    | (_, some _) => none

/-- Where the slots of all shaders are defined, each shader finds its own. -/
theorem shows_of_defineAll? {m m' : SlotMapping} {shaders : List Shader} (hm : m.Valid)
    (h : defineAll? m shaders = some m') :
    m'.Valid ∧ m.Extends m' ∧ ∀ s ∈ shaders, ∀ index, s.stage.index? = some index →
      ∀ slot ∈ s.slots, m'.Shows slot.slot slot.kind s.stage := by
  induction shaders generalizing m with
  | nil =>
    cases h
    exact ⟨hm, .refl _, nofun⟩
  | cons s shaders ih =>
    rw [defineAll?] at h
    split at h
    · next m₁ hdefine =>
      obtain ⟨hm₁, hextends, hshows⟩ := SlotMapping.defineAll_ok hm hdefine
      obtain ⟨hm', hextends', hshows'⟩ := ih hm₁ h
      refine ⟨hm', hextends.trans hextends', fun s' hs' index hindex slot hslot => ?_⟩
      rcases List.mem_cons.1 hs' with rfl | hs'
      · exact (hshows slot hslot _ (StageSet.has_single hindex)).mono hextends'
      · exact hshows' s' hs' index hindex slot hslot
    · cases h

end Shader

end ShaderLowering
