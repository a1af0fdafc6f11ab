import Mathlib.Data.List.Nodup
import ShaderLowering.Proofs.Generator.Accessing

/-!
# Memory that represents registers

Behind every declared register stands a variable. `Represents` says that the variables of a generator
hold what the registers of a token program do, and what is bound to its resources. It is kept when the
two are written alike, as registers have variables of their own, and what holds of the tables of a
generator holds of those of an earlier one.
-/

namespace ShaderLowering

open Spirv

/-- Where a register lies. -/
def Register.storage : Register → Storage
  | temp _ => .temporary
  | interface kind _ => kind.storage

/-- The dimension of a declared texture. -/
def DeclaredResource.dim? (r : DeclaredResource) : Option ResourceDim :=
  match r.form with
  | .image _ dim _ => some dim
  | _ => none

/-! ## Variables of registers -/

namespace Generator

variable {g g' : Generator} {r r' : Register} {id : Word}

/-- The variable of a register. -/
def registerId? (g : Generator) : Register → Option Word
  | .temp n => g.temps[n.toNat]?
  | .interface kind n => (g.interface? kind n).map (·.variableId)

theorem Grows.registerId? (h : g.Grows g') (hr : g.registerId? r = some id) :
    g'.registerId? r = some id := by
  cases r with
  | temp n =>
    obtain ⟨more, hmore⟩ := h.temps
    simp only [Generator.registerId?, ← Array.getElem?_toList] at hr ⊢
    rw [← hmore, List.getElem?_append_left (List.getElem?_eq_some_iff.1 hr).1]
    exact hr
  | interface kind n =>
    obtain ⟨more, hmore⟩ := h.interfaces
    obtain ⟨v, hv, rfl⟩ := Option.map_eq_some_iff.1 hr
    simp only [Generator.registerId?, interface?] at hv ⊢
    rw [← hmore, List.find?_append, hv]
    rfl

theorem Grows.resource? (h : g.Grows g') {kind : ResourceClass} {n : Word} {d : DeclaredResource}
    (hd : g.resource? kind n = some d) : g'.resource? kind n = some d := by
  obtain ⟨more, hmore⟩ := h.resources
  rw [Generator.resource?] at hd ⊢
  rw [← hmore, List.find?_append, hd]
  rfl

theorem mem_variableIds (h : g.registerId? r = some id) :
    id ∈ g.temps.toList ++ g.interfaceIds := by
  cases r with
  | temp n => exact List.mem_append_left _ (Array.mem_toList_iff.2 (Array.mem_of_getElem? h))
  | interface kind n =>
    obtain ⟨v, hv, rfl⟩ := Option.map_eq_some_iff.1 h
    exact List.mem_append_right _ (List.mem_map_of_mem (interface?_eq_some hv).1)

/-- Registers have variables of their own. -/
theorem WellFormed.registerId?_inj (hg : g.WellFormed) (hfit : g.module.bound < UInt32.size)
    (h : g.registerId? r = some id) (h' : g.registerId? r' = some id) : r = r' := by
  have hnodup := hg.distinct hfit
  obtain ⟨htemps, hrest, hdisjoint⟩ := List.nodup_append.1 hnodup
  have hinterfaces := (List.nodup_append.1 hrest).1
  have hne {n kind m} (ht : g.registerId? (.temp n) = some id)
      (hi : g.registerId? (.interface kind m) = some id) : False := by
    obtain ⟨v, hv, hid⟩ := Option.map_eq_some_iff.1 hi
    refine hdisjoint id (Array.mem_toList_iff.2 (Array.mem_of_getElem? ht)) id ?_ rfl
    rw [← hid]
    exact List.mem_append_left _ (List.mem_map_of_mem (interface?_eq_some hv).1)
  cases r with
  | temp n =>
    cases r' with
    | temp m =>
      simp only [registerId?, ← Array.getElem?_toList] at h h'
      have hlt := (List.getElem?_eq_some_iff.1 h).1
      rw [UInt32.toNat_inj.1 ((List.getElem?_inj hlt htemps).1 (h.trans h'.symm))]
    | interface kind m => exact (hne h h').elim
  | interface kind n =>
    cases r' with
    | temp m => exact (hne h' h).elim
    | interface kind' m =>
      obtain ⟨v, hv, hid⟩ := Option.map_eq_some_iff.1 h
      obtain ⟨v', hv', hid'⟩ := Option.map_eq_some_iff.1 h'
      obtain ⟨hmem, rfl, rfl⟩ := interface?_eq_some hv
      obtain ⟨hmem', rfl, rfl⟩ := interface?_eq_some hv'
      rw [List.inj_on_of_nodup_map hinterfaces hmem hmem' (hid.trans hid'.symm)]

/-- The variables of registers are not those of resources. -/
theorem WellFormed.registerId?_ne (hg : g.WellFormed) (hfit : g.module.bound < UInt32.size)
    (h : g.registerId? r = some id) {d : DeclaredResource} (hd : d ∈ g.resources) :
    d.variableId ≠ id := by
  have hnodup := hg.distinct hfit
  rw [variableIds, ← List.append_assoc] at hnodup
  exact fun heq => (List.nodup_append.1 hnodup).2.2 id (mem_variableIds h) d.variableId
    (List.mem_map_of_mem hd) heq.symm

/-- The variable of a register stands for a pointer to itself. -/
theorem WellFormed.isRegisterVariable (hg : g.WellFormed) (h : g.registerId? r = some id) :
    IsRegisterVariable g.module.globals.toList r.storage id := by
  cases r with
  | temp n => exact hg.temps id (Array.mem_toList_iff.2 (Array.mem_of_getElem? h))
  | interface kind n =>
    obtain ⟨v, hv, rfl⟩ := Option.map_eq_some_iff.1 h
    obtain ⟨hmem, rfl, -⟩ := interface?_eq_some hv
    exact hg.interfaces v hmem

end Generator

/-! ## Memory and registers -/

variable {P : Platform}

/-- The variables of a generator hold what the registers of a program do, and what it runs with. -/
structure Represents (g : Generator) (E : Environment P) (R : Registers) (M : Memory P) : Prop where
  stage : E.stage = g.stage
  registers : ∀ r id, g.registerId? r = some id → M id = .lanes (fourLanes (R r))
  buffers : ∀ n d, g.resource? .constantBuffer n = some d → M d.variableId = .buffer (E.buffer n)
  /-- What is bound to a texture register has the declared dimension. -/
  textures : ∀ n d, g.resource? .shaderResource n = some d →
    M d.variableId = .image (E.texture n) ∧ d.dim? = some (E.dim n)
  samplers : ∀ n d, g.resource? .sampler n = some d → M d.variableId = .sampler (E.sampler n)

namespace Represents

variable {g g' : Generator} {E : Environment P} {R : Registers} {M : Memory P}

/-- What is declared later does not matter. -/
theorem mono (h : Represents g' E R M) (hg : g.Grows g') : Represents g E R M where
  stage := h.stage.trans hg.fixed.1
  registers r id hr := h.registers r id (hg.registerId? hr)
  buffers n d hd := h.buffers n d (hg.resource? hd)
  textures n d hd := h.textures n d (hg.resource? hd)
  samplers n d hd := h.samplers n d (hg.resource? hd)

/-- A register and its variable are written alike, and the others are left alone. -/
theorem write (h : Represents g E R M) (hg : g.WellFormed) (hfit : g.module.bound < UInt32.size)
    {r : Register} {id : Word} (hr : g.registerId? r = some id) (mask : ComponentMask)
    (value : Nat → Word) :
    Represents g E (R.write r mask value)
      (M.write id (.lanes (fourLanes (merged mask (R r) value)))) := by
  have hresource {kind n d} (hd : g.resource? kind n = some d) :
      M.write id (.lanes (fourLanes (merged mask (R r) value))) d.variableId = M d.variableId :=
    M.write_of_ne _ (hg.registerId?_ne hfit hr (Generator.resource?_eq_some hd).1)
  refine ⟨h.stage, fun r' id' hr' => ?_, fun n d hd => ?_, fun n d hd => ?_, fun n d hd => ?_⟩
  · by_cases heq : r' = r
    · subst heq
      cases hr.symm.trans hr'
      rw [Memory.write_self, R.write_self]
    · have hne : id' ≠ id := by
        rintro rfl
        exact heq (hg.registerId?_inj hfit hr' hr)
      rw [M.write_of_ne _ hne, R.write_of_ne mask value heq]
      exact h.registers r' id' hr'
  · rw [hresource hd]
    exact h.buffers n d hd
  · rw [hresource hd]
    exact h.textures n d hd
  · rw [hresource hd]
    exact h.samplers n d hd

/-- What a platform binds to a declared resource. -/
def bound (E : Environment P) (d : DeclaredResource) : Datum P :=
  match d.form with
  | .constantBuffer => .buffer (E.buffer d.register)
  | .image _ _ _ => .image (E.texture d.register)
  | .sampler => .sampler (E.sampler d.register)

/-- Registers can always be represented, as long as ids fit a word and textures have the declared
dimensions. -/
theorem exists_memory (hg : g.WellFormed) (hfit : g.module.bound < UInt32.size)
    (E : Environment P) (R : Registers) (hstage : E.stage = g.stage)
    (hdim : ∀ n d, g.resource? .shaderResource n = some d → d.dim? = some (E.dim n)) :
    ∃ M, Represents g E R M := by
  classical
  let M : Memory P := fun id =>
    if h : ∃ r, g.registerId? r = some id then .lanes (fourLanes (R h.choose))
    else if h : ∃ d ∈ g.resources, d.variableId = id then bound E h.choose
    else .lanes []
  have hresources : (g.resources.map (·.variableId)).Nodup :=
    (List.nodup_append.1 (List.nodup_append.1 (hg.distinct hfit)).2.1).2.1
  have hbound {kind n d} (hd : g.resource? kind n = some d) : M d.variableId = bound E d := by
    have hmem := (Generator.resource?_eq_some hd).1
    have hnone : ¬∃ r, g.registerId? r = some d.variableId := fun ⟨r, hr⟩ =>
      hg.registerId?_ne hfit hr hmem rfl
    have hsome : ∃ d' ∈ g.resources, d'.variableId = d.variableId := ⟨d, hmem, rfl⟩
    simp only [M, dif_neg hnone, dif_pos hsome]
    rw [List.inj_on_of_nodup_map hresources hsome.choose_spec.1 hmem hsome.choose_spec.2]
  refine ⟨M, hstage, fun r id hr => ?_, fun n d hd => ?_, fun n d hd => ⟨?_, hdim n d hd⟩,
    fun n d hd => ?_⟩
  · have hsome : ∃ r, g.registerId? r = some id := ⟨r, hr⟩
    simp only [M, dif_pos hsome]
    rw [hg.registerId?_inj hfit hsome.choose_spec hr]
  all_goals
    rw [hbound hd]
    obtain ⟨-, hkind, rfl⟩ := Generator.resource?_eq_some hd
    obtain ⟨register, slot, variableId, form⟩ := d
    cases form <;> first | rfl | cases hkind

end Represents

end ShaderLowering
