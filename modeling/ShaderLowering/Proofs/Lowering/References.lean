import ShaderLowering.Proofs.Lowering.LoweredProgram

/-!
# References and bindings agree

A register is named in many places: where it is declared, where instructions use it, in the list of
slots, and in the decorations and the code of the shader. `LoweredProgram.References` says that all of
them mean the same variable, and `LoweredProgram.references_agree` that this is so for every program.
-/

namespace ShaderLowering

open Spirv

namespace LoweredProgram

variable {x : LoweredProgram}

/-- How registers, variables, slots and code belong together. -/
structure References (x : LoweredProgram) (insts : List Inst) : Prop where
  /-- At every point, registers have variables of their own. -/
  distinct : ∀ n r r' id, (x.generatorAt n).id? r = some id → (x.generatorAt n).id? r' = some id →
    r = r'
  /-- A register keeps its variable. -/
  stable : ∀ m n r id, m ≤ n → (x.generatorAt m).id? r = some id →
    (x.generatorAt n).id? r = some id
  /-- At every point, exactly the registers that are declared before have variables. -/
  declared : ∀ n r, ((x.generatorAt n).id? r).isSome ↔ ∃ e ∈ x.eventsAt n, e.Declares r
  /-- The variables are variables of the module. -/
  variable_of_id : ∀ n r id, (x.generatorAt n).id? r = some id → ∃ type storage,
    ⟨.globalVariable, some type, some id, [storage]⟩ ∈ insts
  /-- The variable of a resource is bound once, in descriptor set 0 and with the slot of its
  register. -/
  bound : ∀ n kind number id, (x.generatorAt n).resourceId? kind number = some id →
    ∃ slot, slotOf? x.program.stage kind number = some slot ∧
      decorations insts id .descriptorSet = [[0]] ∧ decorations insts id .binding = [[slot]]
  /-- The code binds the slots that the shader lists, in the same order. -/
  bindings : x.shader.code.bindings = x.shader.slots.map (·.slot)
  nodup : (x.shader.slots.map (·.slot)).Nodup
  /-- The slots are those of the registers that are declared, in the order of the first declarations
  and with the kinds that these give. -/
  slots : List.Forall₂ (fun d s => slotOf? x.program.stage d.kind d.number = some s.slot ∧
      s.kind = d.behind)
    (firstDeclarations x.events) x.shader.slots
  /-- The code reaches into the resources that instructions name, and into no others. -/
  accesses : ∃ traces, (Generator.start x.stage x.options).Traces x.instructions traces ∧
    List.Forall₂ (Reaches x.generator.resourceId? insts) (traces.flatten.filter Event.isAccess)
      (insts.filter (·.op.isAccess))

theorem bound_generatorAt_le (n : Nat) : (x.generatorAt n).module.bound ≤ x.module.bound := by
  have hfinished : x.module.bound = x.generator.closed.bound := by
    rw [module, Generator.finished_eq x.wellFormed_generator]
  rw [hfinished]
  exact (x.grows_generator n).module.bound.trans x.wellFormed_generator.closed.1.bound

/-- What takes place declares the registers that the events of finished handlers declare. -/
theorem declares_iff {n : Nat} {traces : List (List Event)}
    (h : (Generator.start x.stage x.options).Traces (x.instructions.take n) traces) (r : Reference) :
    (∃ e ∈ traces.flatten, e.Declares r) ↔ ∃ e ∈ x.eventsAt n, e.Declares r := by
  have hfilter (events : List Event) : (∃ e ∈ events, e.Declares r) ↔
      ∃ e ∈ events.filter (!·.isAccess), e.Declares r := by
    constructor
    · rintro ⟨e, he, hr⟩
      refine ⟨e, List.mem_filter.2 ⟨he, ?_⟩, hr⟩
      cases e with
      | temps | interface | resource => rfl
      | element | sample => exact hr.elim
    · rintro ⟨e, he, hr⟩
      exact ⟨e, (List.mem_filter.1 he).1, hr⟩
  rw [hfilter, h.declarations, ← hfilter, eventsAt]

/-- References and bindings agree in the code of every program that is lowered, if ids fit a word and
no instruction is too long for its length to be written. -/
theorem references_agree (x : LoweredProgram) (hfit : x.module.bound < UInt32.size)
    (hlength : x.module.IsEncodable) :
    ∃ insts, x.shader.code.decoded? = some insts ∧ x.References insts := by
  have hw := x.wellFormed_generator
  have hfitAt (n : Nat) := (x.bound_generatorAt_le n).trans_lt hfit
  have hfitEnd : x.generator.module.bound < UInt32.size :=
    x.generatorAt_length ▸ hfitAt x.instructions.length
  obtain ⟨traces, htraces, hfollows⟩ := x.follows_generator
  refine ⟨x.module.instructions, ?_, ?_⟩
  · rw [x.code_eq]
    exact Module.decoded?_code hlength hw.laidOut
  · constructor
    case distinct => exact fun n r r' id => (x.wellFormed_generatorAt n).id?_inj (hfitAt n)
    case stable => exact fun m n r id hmn => (x.grows hmn).id?
    case declared =>
      intro n r
      obtain ⟨traces, htraces, hfollows⟩ := x.follows n
      rw [hfollows.isSome_id?, declares_iff htraces]
    case variable_of_id =>
      intro n r id hid
      -- the register still has the variable when the run is over
      obtain ⟨type, storage, hmem⟩ := hw.variable_of_id? ((x.grows_generator n).id? hid)
      exact ⟨type, storage, x.globals_subset hmem⟩
    case bound =>
      intro n kind number id hid
      obtain ⟨r, hr, rfl⟩ := Option.map_eq_some_iff.1 ((x.grows_generator n).id? hid)
      obtain ⟨hmem, rfl, rfl⟩ := Generator.resource?_eq_some hr
      exact ⟨r.slot, x.slotOf?_resource hmem, hfollows.decorations_finished hw hfitEnd hmem⟩
    case bindings => exact x.bindings_code hlength
    case nodup =>
      rw [x.slots_eq, Generator.slots, List.map_map]
      exact hfollows.nodup_slots
    case slots =>
      rw [x.slots_eq, ← x.declarations_resources, Generator.slots, List.forall₂_map_left_iff,
        List.forall₂_map_right_iff, List.forall₂_same]
      exact fun r hr => ⟨x.slotOf?_resource hr, rfl⟩
    case accesses => exact ⟨traces, htraces, hfollows.accesses_finished hw⟩

/-- In a program with a constant buffer, a texture and a sampler they agree. -/
theorem litTexture_references :
    ∃ x : LoweredProgram, x.program = .litTexture ∧ x.options = .standard ∧
      ∃ insts, x.shader.code.decoded? = some insts ∧ x.References insts := by
  have hsome : (Program.litTexture.lower .standard).toOption.isSome := by decide +kernel
  have hfit : ((Generator.start .pixel .standard).handledAll
      Program.litTexture.instructionList).finished.bound < UInt32.size := by decide +kernel
  have hlength : ((Generator.start .pixel .standard).handledAll
      Program.litTexture.instructionList).finished.IsEncodable := by decide +kernel
  exact ⟨.ofSome _ _ hsome, rfl, rfl, references_agree (.ofSome _ _ hsome) hfit hlength⟩

end LoweredProgram

end ShaderLowering
