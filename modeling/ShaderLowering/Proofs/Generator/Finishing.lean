import ShaderLowering.Proofs.Generator.Computing

/-!
# Finished modules

`Generator.finished` is the module whose words a finished shader has. From a well-formed generator
it comes out disciplined (`Generator.WellFormed.disciplined`): its last block is closed, its entry
point is declared, and everything else is what the invariant says of the module under construction.
-/

namespace ShaderLowering

open Spirv

namespace Generator

variable {g : Generator}

/-! ## Closing -/

/-- The module with its last block closed. -/
def closed (g : Generator) : Module :=
  if g.blockOpen then g.module.withCode (.effect .functionReturn []) else g.module

theorem WellFormed.closed (hg : g.WellFormed) :
    g.module.Grows g.closed ∧ g.closed.WellFormed ∧ openBlock g.closed.body.toList = none := by
  rw [Generator.closed]
  split
  · next ho =>
    have hopen : (openBlock g.module.body.toList).isSome := hg.blockOpen ▸ ho
    refine ⟨g.module.grows_withCode _, hg.module.withCode rfl
      (hg.module.body.concat_return hopen rfl) .functionReturn, ?_⟩
    rw [Module.withCode, Array.toList_push, openBlock_concat_return rfl]
  · next ho =>
    refine ⟨.refl _, hg.module, ?_⟩
    rwa [← Option.not_isSome_iff_eq_none, ← hg.blockOpen]

/-- The declaration of the entry point. -/
def entryDeclaration (g : Generator) : Inst :=
  .effect .entryPoint (g.stage.executionModel.number :: g.entryPoint ::
    (stringWords g.entryName ++ g.interfaceIds))

/-- The entry point refers to its function and to the interface. -/
theorem references_entryDeclaration (g : Generator) :
    g.entryDeclaration.references (stringWords g.entryName).length =
      g.entryPoint :: g.interfaceIds := by
  simp [Inst.references, Inst.operandIds, entryDeclaration, Inst.effect, Nat.add_comm 2]

/-- The modes of the entry point. -/
def entryModes (g : Generator) : List Inst :=
  match g.stage with
  | .vertex => []
  | .pixel => [.effect .executionMode [g.entryPoint, ExecutionMode.originUpperLeft.number]]
  | .compute =>
    let (x, y, z) := g.threadGroup?.getD (1, 1, 1)
    [.effect .executionMode [g.entryPoint, ExecutionMode.localSize.number, x, y, z]]

/-- The finished module. -/
def finished (g : Generator) : Module := ((endModule g).run g.module).2

theorem code_finish (g : Generator) : g.finish.code = g.finished.code := rfl

/-- The finished module is the closed one with the end of the function and the entry point. -/
theorem finished_eq (hg : g.WellFormed) :
    g.finished = { g.closed with
      entryPoints := #[g.entryDeclaration]
      executionModes := g.entryModes.toArray
      body := g.closed.body.push (.effect .functionEnd []) } := by
  obtain ⟨he, hx⟩ := hg.module.unentered
  obtain ⟨stage, entryName, debugNames, module, entryPoint, blockOpen, threadGroup?, temps,
    interfaces, resources⟩ := g
  obtain ⟨bound, capabilities, glsl?, memory, entryPoints, executionModes, names, annotations,
    globals, body⟩ := module
  simp only [Array.toList_eq_nil_iff] at he hx
  subst he hx
  cases blockOpen <;> cases stage <;> rfl

/-! ## Instructions of a finished module -/

/-- The instructions of a finished module, section by section. -/
theorem instructions_finished (hg : g.WellFormed) :
    g.finished.instructions =
      g.closed.capabilities.toList.map (fun c => .effect .capability [c.number]) ++
        (g.closed.imports ++ (.effect .memoryModel
          [g.closed.memory.1.number, g.closed.memory.2.number] :: g.entryDeclaration ::
        (g.entryModes ++ (g.closed.names.toList ++ (g.closed.annotations.toList ++
          (g.closed.globals.toList ++ (g.closed.body.toList ++ [.effect .functionEnd []]))))))) := by
  rw [finished_eq hg]
  simp [Module.instructions, Module.imports]

theorem op_of_mem_entryModes {i : Inst} (hi : i ∈ g.entryModes) :
    ∃ rest, i = .effect .executionMode (g.entryPoint :: rest) := by
  rw [entryModes] at hi
  split at hi
  · cases hi
  · exact ⟨_, List.mem_singleton.1 hi⟩
  · exact ⟨_, List.mem_singleton.1 hi⟩

theorem op_of_mem_imports {m : Module} {i : Inst} (hi : i ∈ m.imports) :
    ∃ id, i = ⟨.extInstImport, none, some id, stringWords Module.glslName⟩ := by
  rw [Module.imports] at hi
  split at hi
  · exact ⟨_, List.mem_singleton.1 hi⟩
  · cases hi

end Generator

/-! ## Sections of well-formed modules -/

namespace Spirv.Module.WellFormed

variable {m : Module}

theorem grounded (hm : m.WellFormed) {i : Inst} (hi : i ∈ m.globals.toList) :
    ∃ before, Grounded before i := by
  obtain ⟨before, -, h⟩ := hm.globals.of_mem hi
  exact ⟨before, h⟩

theorem typed_of_mem (hm : m.WellFormed) {i : Inst} (hi : i ∈ m.body.toList) :
    ∃ before, before ⊆ m.body.toList ∧ Typed m.known ((openBlock before).getD []) i :=
  hm.typed.of_mem hi

end Spirv.Module.WellFormed

namespace Generator

variable {g : Generator}

/-- The section that an instruction of a finished module belongs in, and its layout. -/
theorem WellFormed.laidOut (hg : g.WellFormed) :
    ∀ i ∈ g.finished.instructions, i.IsLaidOut := by
  obtain ⟨-, hm, -⟩ := hg.closed
  rw [instructions_finished hg]
  have hrefers {i : Inst} {s : Section} {ids : List Word} (hs : s = .name ∨ s = .decoration)
      (hi : i.RefersTo s ids) : i.IsLaidOut := by
    obtain ⟨op, id, rest, rfl, hop, -⟩ := hi
    subst hop
    cases op <;> first | exact ⟨rfl, rfl⟩ | (rcases hs with hs | hs <;> cases hs)
  intro i hi
  simp only [List.mem_append, List.mem_cons, List.mem_map, List.not_mem_nil, or_false] at hi
  rcases hi with ⟨c, -, rfl⟩ | hi | rfl | rfl | hi | hi | hi | hi | hi | rfl
  · exact ⟨rfl, rfl⟩
  · obtain ⟨id, rfl⟩ := op_of_mem_imports hi
    exact ⟨rfl, rfl⟩
  · exact ⟨rfl, rfl⟩
  · exact ⟨rfl, rfl⟩
  · obtain ⟨rest, rfl⟩ := op_of_mem_entryModes hi
    exact ⟨rfl, rfl⟩
  · exact hrefers (.inl rfl) (hm.names i hi)
  · exact hrefers (.inr rfl) (hm.annotations i hi)
  · obtain ⟨before, h⟩ := hm.grounded hi
    exact h.isLaidOut
  · obtain ⟨before, -, h⟩ := hm.typed_of_mem hi
    exact h.isLaidOut
  · exact ⟨rfl, rfl⟩

/-- The instructions of a finished module before its declarations. -/
def prologue (g : Generator) : List Inst :=
  g.closed.capabilities.toList.map (fun c => .effect .capability [c.number]) ++
    (g.closed.imports ++ (.effect .memoryModel
      [g.closed.memory.1.number, g.closed.memory.2.number] :: g.entryDeclaration ::
    (g.entryModes ++ (g.closed.names.toList ++ g.closed.annotations.toList))))

theorem instructions_finished_eq_prologue (hg : g.WellFormed) :
    g.finished.instructions = g.prologue ++
      (g.closed.globals.toList ++ (g.closed.body.toList ++ [.effect .functionEnd []])) := by
  rw [instructions_finished hg]
  simp [prologue]

/-- What comes before the declarations is neither a declaration nor code. -/
theorem WellFormed.section_of_mem_prologue (hg : g.WellFormed) {i : Inst} (hi : i ∈ g.prologue) :
    i.op.section ≠ .global ∧ i.op.section ≠ .code := by
  obtain ⟨-, hm, -⟩ := hg.closed
  have hrefers {s : Section} {ids : List Word} (hi : i.RefersTo s ids) : i.op.section = s := by
    obtain ⟨op, id, rest, rfl, hop, -⟩ := hi
    exact hop
  simp only [prologue, List.mem_append, List.mem_cons, List.mem_map] at hi
  rcases hi with ⟨c, -, rfl⟩ | hi | rfl | rfl | hi | hi | hi
  · exact ⟨nofun, nofun⟩
  · obtain ⟨id, rfl⟩ := op_of_mem_imports hi
    exact ⟨nofun, nofun⟩
  · exact ⟨nofun, nofun⟩
  · exact ⟨nofun, nofun⟩
  · obtain ⟨rest, rfl⟩ := op_of_mem_entryModes hi
    exact ⟨nofun, nofun⟩
  · rw [hrefers (hm.names i hi)]
    exact ⟨nofun, nofun⟩
  · rw [hrefers (hm.annotations i hi)]
    exact ⟨nofun, nofun⟩

/-- The instructions of one section of a finished module: those of the closed one, with the entry
point and the end of the function. -/
def sectionCode (g : Generator) : Section → List Inst
  | .capability => g.closed.capabilities.toList.map fun c => .effect .capability [c.number]
  | .importing => g.closed.imports
  | .memory => [.effect .memoryModel [g.closed.memory.1.number, g.closed.memory.2.number]]
  | .entry => [g.entryDeclaration]
  | .mode => g.entryModes
  | .name => g.closed.names.toList
  | .decoration => g.closed.annotations.toList
  | .global => g.closed.globals.toList
  | .code => g.closed.body.toList ++ [.effect .functionEnd []]

/-- The sections hold what belongs in them. -/
theorem WellFormed.section_of_mem (hg : g.WellFormed) (s : Section) :
    ∀ i ∈ g.sectionCode s, i.op.section = s := by
  obtain ⟨-, hm, -⟩ := hg.closed
  have hrefers {i : Inst} {t : Section} {ids : List Word} (hi : i.RefersTo t ids) :
      i.op.section = t := by
    obtain ⟨op, id, rest, rfl, hop, -⟩ := hi
    exact hop
  intro i hi
  cases s with
  | capability =>
    obtain ⟨c, -, rfl⟩ := List.mem_map.1 hi
    rfl
  | importing =>
    obtain ⟨id, rfl⟩ := op_of_mem_imports hi
    rfl
  | memory | entry =>
    rw [List.mem_singleton.1 hi]
    rfl
  | mode =>
    obtain ⟨rest, rfl⟩ := op_of_mem_entryModes hi
    rfl
  | name => exact hrefers (hm.names i hi)
  | decoration => exact hrefers (hm.annotations i hi)
  | global =>
    obtain ⟨before, h⟩ := hm.grounded hi
    exact h.section_eq
  | code =>
    rcases List.mem_append.1 hi with hi | hi
    · obtain ⟨before, -, h⟩ := hm.typed_of_mem hi
      exact h.section_eq
    · rw [List.mem_singleton.1 hi]
      rfl

/-- A finished module is its sections, one after the other. -/
theorem WellFormed.instructions_eq_sections (hg : g.WellFormed) :
    g.finished.instructions =
      [Section.capability, .importing, .memory, .entry, .mode, .name, .decoration, .global,
        .code].flatMap g.sectionCode := by
  rw [instructions_finished hg]
  simp [sectionCode]

/-- What is looked for in a finished module is found in the section where it belongs. -/
theorem WellFormed.filterMap_of_section (hg : g.WellFormed) {β : Type} {f : Inst → Option β}
    (s : Section) (hf : ∀ i b, f i = some b → i.op.section = s) :
    g.finished.instructions.filterMap f = (g.sectionCode s).filterMap f := by
  have hother (t : Section) (ht : t ≠ s) : (g.sectionCode t).filterMap f = [] :=
    List.filterMap_eq_nil_iff.2 fun i hi => Option.eq_none_iff_forall_ne_some.2 fun b hb =>
      ht ((hg.section_of_mem t i hi).symm.trans (hf i b hb))
  rw [hg.instructions_eq_sections, List.filterMap_flatMap]
  cases s <;> simp [hother]

theorem WellFormed.filter_of_section (hg : g.WellFormed) {p : Inst → Bool} (s : Section)
    (hp : ∀ i, p i = true → i.op.section = s) :
    g.finished.instructions.filter p = (g.sectionCode s).filter p := by
  rw [← List.filterMap_eq_filter]
  exact hg.filterMap_of_section s fun i _ hi => hp i (Option.guard_eq_some_iff.1 hi).2

/-- The instructions of a section are those that belong in it. -/
theorem WellFormed.filter_section (hg : g.WellFormed) (s : Section) :
    g.finished.instructions.filter (·.op.section = s) = g.sectionCode s := by
  rw [hg.filter_of_section s fun i hi => of_decide_eq_true hi]
  exact List.filter_eq_self.2 fun i hi => decide_eq_true (hg.section_of_mem s i hi)

/-- What the sections of a finished module declare and define. -/
theorem WellFormed.sections (hg : g.WellFormed) :
    globalSection g.finished.instructions = g.closed.globals.toList ∧
    functionSection g.finished.instructions =
      g.closed.body.toList ++ [.effect .functionEnd []] ∧
    declarations g.finished.instructions = g.closed.known ∧
    results g.finished.instructions = results g.closed.defining := by
  refine ⟨hg.filter_section .global, hg.filter_section .code, ?_, ?_⟩
  · have hdeclared (s : Section) :
        (g.sectionCode s).filter (fun i => i.op.section = .importing ∨ i.op.section = .global) =
          if s = .importing ∨ s = .global then g.sectionCode s else [] := by
      have hs := hg.section_of_mem s
      split
      · next h => exact List.filter_eq_self.2 fun i hi => by simpa [hs i hi] using h
      · next h => exact List.filter_eq_nil_iff.2 fun i hi => by simpa [hs i hi] using h
    rw [declarations, hg.instructions_eq_sections, List.filter_flatMap]
    simp only [hdeclared]
    simp [sectionCode, Module.known]
  · obtain ⟨-, hm, -⟩ := hg.closed
    have hnone {insts : List Inst} (h : ∀ i ∈ insts, i.result? = none) : results insts = [] :=
      List.filterMap_eq_nil_iff.2 h
    have hrefers {i : Inst} {s : Section} {ids : List Word} (hi : i.RefersTo s ids) :
        i.result? = none := by
      obtain ⟨op, id, rest, rfl, -⟩ := hi
      rfl
    have hcapabilities : results (g.closed.capabilities.toList.map
        (fun c => Inst.effect .capability [c.number])) = [] := hnone fun i hi => by
      obtain ⟨c, -, rfl⟩ := List.mem_map.1 hi
      rfl
    have hmodes : results g.entryModes = [] := hnone fun i hi => by
      obtain ⟨rest, rfl⟩ := op_of_mem_entryModes hi
      rfl
    have hnames := hnone fun i hi => hrefers (hm.names i hi)
    have hannotations := hnone fun i hi => hrefers (hm.annotations i hi)
    rw [instructions_finished hg]
    simp only [results_append, results_cons, hcapabilities, hmodes, hnames, hannotations]
    simp [entryDeclaration, Inst.effect, Module.defining, Module.known]

/-! ## Discipline -/

/-- The values of an instruction of a complete block are declared, or defined before in the
block. -/
theorem values_of_block {m : Module} (hm : m.WellFormed) {first : Inst}
    {blocks : List (List Inst)} (hbody : m.body.toList = first :: blocks.flatten)
    {block : List Inst} (hblock : block ∈ blocks) (hshape : IsBlock block)
    {before behind : List Inst} {i : Inst} (heq : block = before ++ i :: behind) :
    ∀ id ∈ i.valueIds, id ∈ results m.globals.toList ∨ id ∈ results before := by
  intro id hid
  obtain ⟨front, back, rfl⟩ := List.append_of_mem hblock
  obtain ⟨label, code, last, hcode, hlabel, hlast, hinner⟩ := hshape
  have htyped := hm.typed (first :: (front.flatten ++ before)) i (behind ++ back.flatten) (by
    rw [hbody, List.flatten_append, List.flatten_cons, heq]
    simp)
  obtain ⟨t, j, hj, hr, ht⟩ := htyped.has_of_mem_valueIds hid
  rcases List.mem_append.1 hj with hj | hj
  · rcases List.mem_append.1 hj with hj | hj
    · -- imports have no type
      obtain ⟨id', rfl⟩ := op_of_mem_imports hj
      cases ht
    · exact .inl (mem_results.2 ⟨j, hj, hr⟩)
  · refine .inr (mem_results.2 ⟨j, ?_, hr⟩)
    cases before with
    | nil =>
      obtain ⟨rfl, -⟩ := List.cons.inj (hcode.symm.trans heq)
      simp [Inst.valueIds, Inst.operandIds, hlabel] at hid
    | cons first' before =>
      obtain ⟨rfl, hrest⟩ := List.cons.inj (hcode.symm.trans heq)
      replace hrest : code ++ [last] = before ++ i :: behind := hrest
      have hbefore : ∀ k ∈ before, k.IsInner := by
        intro k hk
        refine hinner k ?_
        rcases List.eq_nil_or_concat behind with rfl | ⟨behind, z, rfl⟩
        · obtain ⟨rfl, -⟩ := List.append_inj' hrest rfl
          exact hk
        · rw [List.concat_eq_append, ← List.cons_append, ← List.append_assoc] at hrest
          obtain ⟨rfl, -⟩ := List.append_inj' hrest rfl
          exact List.mem_append_left _ hk
      rw [← List.cons_append, openBlock_label_append hlabel hbefore] at hj
      exact List.mem_cons_of_mem _ hj

/-- All ids that a well-formed module refers to are defined in it. -/
theorem references_defined {m : Module} (hm : m.WellFormed) (nameWords : Nat) {i : Inst}
    (hi : i ∈ m.globals.toList ++ m.body.toList) :
    ∀ id ∈ i.references nameWords, id ∈ results m.defining := by
  intro id hid
  rcases List.mem_append.1 hi with hi | hi
  · exact results_subset (fun _ h => List.mem_append_left _ h)
      (hm.known_closed nameWords i (m.globals_subset_known hi) id hid)
  · obtain ⟨before, hbefore, ht⟩ := hm.typed_of_mem hi
    rcases ht.references_defined (hm.known_closed 0) nameWords id hid with h | h
    · exact results_subset (fun _ h => List.mem_append_left _ h) h
    · refine results_subset (fun j hj => List.mem_append_right _ (hbefore ?_)) h
      exact openBlock_subset hj

/-- The module of a well-formed generator keeps to what modules have to keep to. -/
theorem WellFormed.disciplined (hg : g.WellFormed) (hfit : g.finished.bound < UInt32.size) :
    Disciplined (stringWords g.entryName).length g.finished.bound g.finished.instructions := by
  obtain ⟨hgrows, hm, hopen⟩ := hg.closed
  obtain ⟨hglobals, hcode, -, hresults⟩ := hg.sections
  have hbound : g.finished.bound = g.closed.bound := by rw [finished_eq hg]
  obtain ⟨hbounded, hnodup⟩ := hm.fresh (hbound ▸ hfit)
  obtain ⟨first, blocks, hfirst, hblocks, hbody⟩ := hm.body
  simp only [hopen] at hbody
  obtain ⟨hnonempty, hbody⟩ := hbody
  refine ⟨fun id hid => ?_, ?_, fun i hi id hid => ?_, ?_, ?_⟩
  · rw [hresults] at hid
    obtain ⟨hpos, hlt⟩ := hbounded id hid
    exact ⟨fun h => by simp [h] at hpos, hbound ▸ hlt⟩
  · rw [hresults]
    exact hnodup
  · rw [hresults]
    have hentry : g.entryPoint ∈ results g.closed.defining :=
      results_subset (fun _ h => List.mem_append_right _ (hgrows.body.subset h)) hg.entryPoint
    have hinterfaces : ∀ id ∈ g.interfaceIds, id ∈ results g.closed.defining := fun id hid =>
      results_subset hgrows.defining (Module.mem_defining_of_globals (hg.variableIds_subset
        (List.mem_append_right _ (List.mem_append_left _ hid))))
    -- names and decorations are about one id, and it is defined
    have hrefers {i : Inst} {s : Section} (hs : s = .name ∨ s = .decoration)
        (hi : i.RefersTo s (results g.closed.defining))
        (hid : id ∈ i.references (stringWords g.entryName).length) :
        id ∈ results g.closed.defining := by
      obtain ⟨op, id', rest, rfl, hop, hid'⟩ := hi
      subst hop
      have hids : id = id' := by
        cases op <;> first
          | (exfalso; rcases hs with hs | hs <;> cases hs; done)
          | simpa [Inst.references, Inst.operandIds, Inst.effect] using hid
      rw [hids]
      exact hid'
    rw [instructions_finished hg] at hi
    simp only [List.mem_append, List.mem_cons, List.mem_map, List.not_mem_nil, or_false] at hi
    -- the sections in their order; capabilities, imports and the memory model refer to no ids
    rcases hi with ⟨c, -, rfl⟩ | hi | rfl | rfl | hi | hi | hi | hi | hi | rfl
    · cases hid
    · obtain ⟨id', rfl⟩ := op_of_mem_imports hi
      cases hid
    · cases hid
    · rw [references_entryDeclaration] at hid
      rcases List.mem_cons.1 hid with rfl | hid
      · exact hentry
      · exact hinterfaces id hid
    · obtain ⟨rest, rfl⟩ := op_of_mem_entryModes hi
      rw [List.mem_singleton.1 hid]
      exact hentry
    · exact hrefers (.inl rfl) (hm.names i hi) hid
    · exact hrefers (.inr rfl) (hm.annotations i hi) hid
    · exact references_defined hm _ (List.mem_append_left _ hi) id hid
    · exact references_defined hm _ (List.mem_append_right _ hi) id hid
    · cases hid
  · rw [hglobals]
    exact fun before i behind heq id hid =>
      (hm.globals before i behind heq).references _ id hid
  · rw [hcode, hglobals]
    refine ⟨first, blocks, .effect .functionEnd [], ?_, hfirst, rfl, hnonempty,
      fun block hblock => ⟨hblocks block hblock, ?_⟩⟩
    · rw [hbody, List.cons_append]
    · exact fun before i behind heq =>
        values_of_block hm hbody hblock (hblocks block hblock) heq

/-- The instructions of the module of a well-formed generator are typed. -/
theorem WellFormed.wellTyped (hg : g.WellFormed) (hfit : g.finished.bound < UInt32.size) :
    WellTyped g.finished.instructions := by
  obtain ⟨-, hm, -⟩ := hg.closed
  obtain ⟨hglobals, hcode, hknown, hresults⟩ := hg.sections
  have hbound : g.finished.bound = g.closed.bound := by rw [finished_eq hg]
  refine ⟨?_, ?_, ?_⟩
  · rw [hresults]
    exact (hm.fresh (hbound ▸ hfit)).nodup
  · rw [hglobals]
    intro i hi j hj hop hsame
    obtain ⟨_, hi'⟩ := hm.grounded hi
    obtain ⟨_, hj'⟩ := hm.grounded hj
    obtain ⟨id, hid⟩ := hi'.result
    obtain ⟨id', hid'⟩ := hj'.result
    obtain ⟨op, type?, result?, operands⟩ := i
    obtain ⟨op', type?', result?', operands'⟩ := j
    simp only [Inst.sameExpression, Bool.and_eq_true, beq_iff_eq] at hsame hid hid' hop
    obtain ⟨⟨rfl, rfl⟩, rfl⟩ := hsame
    subst hid hid'
    rw [(hm.interned _ _ _ _ hop hi).unique (hm.interned _ _ _ _ hop hj)]
  · rw [hcode, hknown]
    exact ⟨_, _, rfl, rfl, hm.typed⟩

end Generator

end ShaderLowering
