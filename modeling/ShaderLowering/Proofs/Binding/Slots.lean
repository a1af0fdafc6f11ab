import ShaderLowering.Binding.Slot

/-!
# Slots tell registers apart

No two registers share a slot, of whatever class and whatever stage they are.
-/

namespace ShaderLowering

/-- A position tells its stage. -/
theorem ShaderStage.eq_of_index? {stage stage' : ShaderStage} {index : Nat}
    (h : stage.index? = some index) (h' : stage'.index? = some index) : stage = stage' := by
  cases stage <;> cases h <;> cases stage' <;> cases h' <;> rfl

theorem ShaderStage.index?_lt {stage : ShaderStage} {index : Nat} (h : stage.index? = some index) :
    index < 6 := by
  cases stage <;> cases h <;> decide

/-- A slot as a number: the range of its stage, the part of its class, and the register. -/
theorem slotOf?_eq_some {stage : ShaderStage} {kind : ResourceClass} {register slot : Word}
    (h : slotOf? stage kind register = some slot) :
    register.toNat < kind.registers ∧ ∃ index, stage.index? = some index ∧
      slot.toNat = index * slotsPerStage + (kind.base + register.toNat) := by
  rw [slotOf?] at h
  split at h
  · cases h
  · next hregister =>
    obtain ⟨index, hindex, rfl⟩ := Option.map_eq_some_iff.1 h
    have hbelow := ResourceClass.base_add_lt (Nat.lt_of_not_le hregister)
    have hstage := ShaderStage.index?_lt hindex
    refine ⟨Nat.lt_of_not_le hregister, index, hindex, ?_⟩
    -- the ranges of all six stages fit a word
    rw [UInt32.toNat_ofNat', Nat.mod_eq_of_lt, Nat.add_assoc]
    rw [slotsPerStage] at *
    omega

/-- No two registers share a slot. -/
theorem slotOf?_inj {stage stage' : ShaderStage} {kind kind' : ResourceClass}
    {register register' slot : Word} (h : slotOf? stage kind register = some slot)
    (h' : slotOf? stage' kind' register' = some slot) :
    stage = stage' ∧ kind = kind' ∧ register = register' := by
  obtain ⟨hregister, index, hindex, hslot⟩ := slotOf?_eq_some h
  obtain ⟨hregister', index', hindex', hslot'⟩ := slotOf?_eq_some h'
  have hbelow := ResourceClass.base_add_lt hregister
  have hbelow' := ResourceClass.base_add_lt hregister'
  have hsame : index = index' ∧
      kind.base + register.toNat = kind'.base + register'.toNat := by
    rw [slotsPerStage] at *
    omega
  obtain ⟨rfl, hoffset⟩ := hsame
  obtain ⟨hkind, hnumber⟩ := ResourceClass.eq_of_base_add hregister hregister' hoffset
  exact ⟨ShaderStage.eq_of_index? hindex hindex', hkind, UInt32.toNat_inj.1 hnumber⟩

end ShaderLowering
