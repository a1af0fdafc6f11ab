import ShaderLowering.Proofs.Binding.Mapping
import ShaderLowering.Proofs.Lowering.Framing

/-!
# Remapping a pipeline

The shaders of a pipeline define their slots in one mapping, and the bindings of the mapping take the
place of the slots in the code. `LoweredProgram.remap_pipeline` says that this works for every shader
whose slots are defined, changes nothing but the numbers of binding decorations, and gives two
registers the same binding only if they are the same register of the same stage. A mapping that lacks
a slot is refused.
-/

namespace ShaderLowering

open Spirv

namespace LoweredProgram

variable {x y : LoweredProgram} {m : SlotMapping}

/-! ## One shader -/

/-- What has become of the code of a shader with the bindings of a mapping in it. -/
structure Remapped (x : LoweredProgram) (m : SlotMapping) (code : Code) : Prop where
  /-- The words of the shader are those of its module. -/
  original : x.shader.code.words = x.module.header ++ x.module.instructions.flatMap Inst.words
  /-- Nothing has changed but the numbers of binding decorations. -/
  words : code.words = x.module.header ++
    (x.module.instructions.map (Inst.mapBinding (Shader.bindingFor m))).flatMap Inst.words
  /-- The binding decorations bind the variables of the resources to their bindings. -/
  decorations : (x.module.instructions.map (Inst.mapBinding (Shader.bindingFor m))).filter
      (·.binding?.isSome) =
    x.generator.resources.map fun r => r.bindingDecoration (Shader.bindingFor m r.slot)
  /-- The resources are those that the program declares. -/
  resources : x.generator.resources.map (·.declaration) = firstDeclarations x.events
  /-- At the binding of a resource, the mapping has its slot and kind, and the stage of the shader
  sees it. -/
  mapped : ∀ r ∈ x.generator.resources,
    slotOf? x.program.stage r.form.kind r.register = some r.slot ∧
    (Shader.bindingFor m r.slot).toNat < m.entries.length ∧
    ∃ e : MappedSlot, m.entries[(Shader.bindingFor m r.slot).toNat]? = some e ∧
      e.slot = r.slot ∧ e.kind = r.form.resourceKind ∧ e.stages.Has x.program.stage

/-- A mapping has all slots of a shader, of the kinds that the shader gives them. -/
def Fits (x : LoweredProgram) (m : SlotMapping) : Prop :=
  ∀ r ∈ x.generator.resources, m.Shows r.slot r.form.resourceKind x.program.stage

/-- The code is remapped by a mapping that has all its slots. -/
theorem Fits.remap (h : x.Fits m) (hm : m.Valid) (hl : x.module.IsEncodable) :
    ∃ code, x.shader.remap m = .ok code ∧ x.Remapped m code := by
  have hbound : ∀ r ∈ x.generator.resources, (m.binding? r.slot).isSome := by
    intro r hr
    obtain ⟨i, e, he, hslot, -⟩ := h r hr
    rw [← hslot, SlotMapping.binding?_eq_some hm he]
    rfl
  have hnone : x.shader.code.bindings.find? (fun slot => (m.binding? slot).isNone) = none := by
    rw [List.find?_eq_none, x.bindings_code hl, x.slots_eq, Generator.slots, List.map_map]
    intro slot hslot
    obtain ⟨r, hr, rfl⟩ := List.mem_map.1 hslot
    simpa [Option.isNone_iff_eq_none, ← Option.isSome_iff_ne_none] using hbound r hr
  refine ⟨_, by rw [Shader.remap, hnone], ?_⟩
  constructor
  case original => exact congrArg Code.words x.code_eq
  case words =>
    rw [x.code_eq, Module.mapBindings_code hl x.wellFormed_generator.laidOut]
  case decorations =>
    have hfilter : (fun i : Inst => i.binding?.isSome) ∘ Inst.mapBinding (Shader.bindingFor m) =
        fun i => i.binding?.isSome := by
      funext i
      rw [Function.comp_apply, Inst.binding?_mapBinding, Option.isSome_map]
    rw [List.filter_map, hfilter, x.bindingDecorations_module, List.map_map]
    rfl
  case resources => exact x.declarations_resources
  case mapped =>
    intro r hr
    obtain ⟨i, e, he, hslot, hkind, hstage⟩ := h r hr
    have hbinding := SlotMapping.toNat_bindingFor hm he
    rw [hslot] at hbinding
    rw [hbinding]
    exact ⟨x.slotOf?_resource hr, (List.getElem?_eq_some_iff.1 he).1, e, he, hslot, hkind, hstage⟩

/-- A mapping that lacks a slot of a shader refuses its code, with the first slot that the mapping
lacks, and no backend is asked. -/
theorem remap_unmapped (x : LoweredProgram) (hl : x.module.IsEncodable) {m : SlotMapping}
    (h : ∃ s ∈ x.shader.slots, m.binding? s.slot = none) :
    ∃ before slot behind, x.shader.code.bindings = before ++ slot :: behind ∧
      (∀ s ∈ before, (m.binding? s).isSome) ∧ m.binding? slot = none ∧
      x.shader.remap m = .error (.unmapped slot) ∧
      ∀ (M : Type) (backend : ShaderStage → Code → Except ShaderModuleError M),
        x.shader.createModule m backend = .error (.slotMapping (.unmapped slot)) := by
  obtain ⟨s, hs, hnone⟩ := h
  have hfind : (x.shader.code.bindings.find? fun slot => (m.binding? slot).isNone).isSome := by
    rw [List.find?_isSome, x.bindings_code hl]
    exact ⟨s.slot, List.mem_map_of_mem hs, by rw [hnone]; rfl⟩
  obtain ⟨slot, hslot⟩ := Option.isSome_iff_exists.1 hfind
  obtain ⟨hunmapped, before, behind, heq, hbefore⟩ := List.find?_eq_some_iff_append.1 hslot
  have hremap : x.shader.remap m = .error (.unmapped slot) := by rw [Shader.remap, hslot]
  refine ⟨before, slot, behind, heq, fun s hs => ?_, Option.isNone_iff_eq_none.1 hunmapped, hremap,
    fun M backend => by rw [Shader.createModule, hremap]⟩
  simpa using hbefore s hs

/-! ## All shaders of a pipeline -/

/-- Shaders whose slots are all defined find them. -/
theorem fits_of_defineAll? {pipeline : List LoweredProgram}
    (h : Shader.defineAll? .empty (pipeline.map shader) = some m) :
    m.Valid ∧ ∀ x ∈ pipeline, x.Fits m := by
  obtain ⟨hm, -, hshows⟩ := Shader.shows_of_defineAll? SlotMapping.valid_empty h
  refine ⟨hm, fun x hx r hr => ?_⟩
  obtain ⟨-, index, hindex, -⟩ := slotOf?_eq_some (x.slotOf?_resource hr)
  have hslot : ⟨r.slot, r.form.resourceKind⟩ ∈ x.shader.slots := by
    rw [x.slots_eq]
    exact List.mem_map_of_mem hr
  rw [← x.stage_shader] at hindex ⊢
  exact hshows _ (List.mem_map_of_mem hx) index hindex _ hslot

/-- Resources that a mapping has share a binding only if they are the same register of the same
stage. -/
theorem bindingFor_eq_iff (hx : x.Fits m) (hy : y.Fits m) (hm : m.Valid) {r r' : DeclaredResource}
    (hr : r ∈ x.generator.resources) (hr' : r' ∈ y.generator.resources) :
    Shader.bindingFor m r.slot = Shader.bindingFor m r'.slot ↔
      x.program.stage = y.program.stage ∧ r.form.kind = r'.form.kind ∧ r.register = r'.register := by
  have hslot := x.slotOf?_resource hr
  have hslot' := y.slotOf?_resource hr'
  constructor
  · -- equal bindings are one place of the mapping, and one slot stands there
    intro heq
    obtain ⟨i, e, he, hs, -⟩ := hx r hr
    obtain ⟨i', e', he', hs', -⟩ := hy r' hr'
    have hi := SlotMapping.toNat_bindingFor hm he
    have hi' := SlotMapping.toNat_bindingFor hm he'
    rw [hs] at hi
    rw [hs', ← heq, hi] at hi'
    rw [← hi', he] at he'
    rw [← hs', ← Option.some.inj he', hs] at hslot'
    exact slotOf?_inj hslot hslot'
  · rintro ⟨hstage, hkind, hregister⟩
    rw [hstage, hkind, hregister, hslot'] at hslot
    rw [Option.some.inj hslot]

/-- Every shader of a pipeline whose slots are defined one shader after the other is remapped; the
bindings are those of its resources, and no two registers share one. A mapping that lacks a slot is
refused. -/
theorem remap_pipeline {pipeline : List LoweredProgram}
    (hl : ∀ x ∈ pipeline, x.module.IsEncodable)
    (h : Shader.defineAll? .empty (pipeline.map shader) = some m) :
    (∀ x ∈ pipeline, ∃ code, x.shader.remap m = .ok code ∧ x.Remapped m code) ∧
    (∀ x ∈ pipeline, ∀ y ∈ pipeline, ∀ r ∈ x.generator.resources, ∀ r' ∈ y.generator.resources,
      (Shader.bindingFor m r.slot = Shader.bindingFor m r'.slot ↔
        x.program.stage = y.program.stage ∧ r.form.kind = r'.form.kind ∧
          r.register = r'.register)) ∧
    ∀ x ∈ pipeline, ∀ m' : SlotMapping, (∃ s ∈ x.shader.slots, m'.binding? s.slot = none) →
      ∃ before slot behind, x.shader.code.bindings = before ++ slot :: behind ∧
        (∀ s ∈ before, (m'.binding? s).isSome) ∧ m'.binding? slot = none ∧
        x.shader.remap m' = .error (.unmapped slot) ∧
        ∀ (M : Type) (backend : ShaderStage → Code → Except ShaderModuleError M),
          x.shader.createModule m' backend = .error (.slotMapping (.unmapped slot)) := by
  obtain ⟨hm, hfits⟩ := fits_of_defineAll? h
  exact ⟨fun x hx => (hfits x hx).remap hm (hl x hx),
    fun x hx y hy r hr r' hr' => bindingFor_eq_iff (hfits x hx) (hfits y hy) hm hr hr',
    fun x hx m' hlacks => x.remap_unmapped (hl x hx) hlacks⟩

/-- A pixel shader and a vertex shader share a mapping. -/
theorem litTexture_declareAndReturn_remapped :
    ∃ (x y : LoweredProgram) (m : SlotMapping), x.program = .litTexture ∧
      y.program = declareAndReturn ∧
      (∃ code, x.shader.remap m = .ok code ∧ x.Remapped m code) ∧
      ∃ code, y.shader.remap m = .ok code ∧ y.Remapped m code := by
  have hsome : (Program.litTexture.lower .standard).toOption.isSome ∧
      (declareAndReturn.lower .standard).toOption.isSome := by decide +kernel
  have hlength : ((Generator.start .pixel .standard).handledAll
        Program.litTexture.instructionList).finished.IsEncodable ∧
      ((Generator.start .vertex .standard).handledAll
        declareAndReturn.instructionList).finished.IsEncodable := by decide +kernel
  have hdefined : (Shader.defineAll? .empty
      [((Generator.start .pixel .standard).handledAll Program.litTexture.instructionList).finish,
        ((Generator.start .vertex .standard).handledAll
          declareAndReturn.instructionList).finish]).isSome := by decide +kernel
  let x : LoweredProgram := .ofSome .litTexture .standard hsome.1
  let y : LoweredProgram := .ofSome declareAndReturn .standard hsome.2
  have hmapping : (Shader.defineAll? .empty [x.shader, y.shader]).isSome := by
    rw [x.shader_eq, y.shader_eq]
    exact hdefined
  obtain ⟨m, hm⟩ := Option.isSome_iff_exists.1 hmapping
  have hencodable : ∀ z ∈ [x, y], z.module.IsEncodable := by
    simp only [List.mem_cons, List.not_mem_nil, or_false, forall_eq_or_imp, forall_eq]
    exact hlength
  obtain ⟨hremap, -, -⟩ := remap_pipeline hencodable hm
  exact ⟨x, y, m, rfl, rfl, hremap x (List.mem_cons_self ..),
    hremap y (List.mem_cons_of_mem _ (List.mem_cons_self ..))⟩

end LoweredProgram

end ShaderLowering
