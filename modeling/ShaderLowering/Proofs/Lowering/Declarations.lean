import ShaderLowering.Proofs.Lowering.Interfaces
import ShaderLowering.Proofs.Lowering.Storing

/-!
# What declarations say

Where a program is lowered without a diagnostic, the variable of each register that it declares is as
the first declaration of the register says (`LoweredProgram.declarations_honoured`). What a constant
buffer, texture or buffer is declared to be is read off an instruction by `Instruction.resource?`;
`Generator.Provides` says what a generator has of these registers, and every instruction that meets no
gap keeps it (`Generator.Provides.handle`). Later declarations of a register are passed over, and that
is no gap, whatever they say (`declaredTwice_ignored`).
-/

namespace ShaderLowering

open Spirv

/-! ## Declarations as they are read -/

/-- Whether instructions declare constant buffers, textures or buffers. -/
def Opcode.declaresResource : Opcode → Bool
  | .dclConstantbuffer | .dclResource => true
  | _ => false

namespace Instruction

/-- The return type that the declaration of a texture or buffer gives to all four components. -/
def returnType? (i : Instruction) (o : Operand) : Option ResourceReturnType := do
  let w ← (i.arg o.length).toOption
  let types ← (Lower.returnTypes w (i.argsPosition + o.length)).toOption
  let type := types.headD .float
  if types.any (· ≠ type) then none else some type

/-- The constant buffer, texture or buffer that an instruction declares. -/
def resource? (i : Instruction) : Option ResourceRegister :=
  match i.opcode with
  | .dclConstantbuffer => do
    let o ← i.declared?
    let number ← o.index32? 0
    let size ← o.index32? 1
    return ⟨number, .constantBuffer size⟩
  | .dclResource => do
    let o ← i.declared?
    let number ← o.index32? 0
    let dim ← i.resourceDim.toOption
    let type ← i.returnType? o
    return ⟨number, .image dim type⟩
  | _ => none

variable {i : Instruction} {o : Operand} {number : Word}

theorem resource?_constantBuffer {size : Word} (hi : i.opcode = .dclConstantbuffer)
    (ho : i.operand 0 = .ok o) (hnumber : o.index32? 0 = some number)
    (hsize : o.index32? 1 = some size) :
    i.resource? = some ⟨number, .constantBuffer size⟩ := by
  simp [resource?, hi, declared?, ho, Except.toOption, hnumber, hsize]

theorem resource?_image {dim : ResourceDim} {w : Word} {types : List ResourceReturnType}
    (hi : i.opcode = .dclResource) (ho : i.operand 0 = .ok o) (hnumber : o.index32? 0 = some number)
    (hdim : i.resourceDim = .ok dim) (hw : i.arg o.length = .ok w)
    (htypes : Lower.returnTypes w (i.argsPosition + o.length) = .ok types)
    (hsame : ¬types.any (· ≠ types.headD .float) = true) :
    i.resource? = some ⟨number, .image dim (types.headD .float)⟩ := by
  simp only [resource?, returnType?, hi, declared?, ho, Except.toOption, hnumber, hdim, hw, htypes,
    Option.bind_eq_bind, Option.bind_some, if_neg hsame]
  rfl

theorem resource?_eq_none (hi : i.opcode.declaresResource = false) : i.resource? = none := by
  rw [resource?]
  split
  · next h => rw [h] at hi; cases hi
  · next h => rw [h] at hi; cases hi
  · rfl

/-- Other instructions declare no resources but samplers. -/
theorem kind_of_event (hi : i.opcode.declaresResource = false) {kind : ResourceClass}
    {behind : ResourceKind} (h : .resource kind number behind ∈ i.events) : kind = .sampler := by
  by_cases hexecuted : i.opcode.isExecuted = true
  · -- computations only reach into resources
    cases isAccess_events hexecuted _ h
  · rw [events] at h
    split at h
    iterate 2 next hop => rw [hop] at hi; cases hi
    · unfold resourceEvents at h
      split at h
      · cases List.mem_singleton.1 h
        rfl
      · cases h
    iterate 9
      next =>
        unfold interfaceEvents at h
        split at h
        · cases List.mem_singleton.1 h
        · cases h
    · obtain ⟨_, -, heq⟩ := List.mem_map.1 h
      cases heq
    iterate 9 next hop => exact absurd (by rw [hop]; rfl) hexecuted
    · cases h

end Instruction

/-! ## Handlers that meet no gap -/

namespace Lower

variable {α β : Type} {s s' : LowerState} {i : Instruction}

/-- What a handler finds is found where the handler ends well. -/
theorem Finds.exists_of_run {op : Lower α} {f : α → Lower β} {P : α → Prop} (h : Finds op P) {b : β}
    (hrun : (op >>= f).run s = (.ok b, s')) :
    ∃ a s₁, s₁.generator = s.generator ∧ P a ∧ (f a).run s₁ = (.ok b, s') := by
  obtain ⟨a, s₁, hop, hrun⟩ := run_bind_eq_ok.1 hrun
  have hfound := h s
  rw [hop] at hfound
  exact ⟨a, s₁, hfound.1, hfound.2, hrun⟩

theorem finds_expectType (o : Operand) (type : OperandType) (role : OperandRole) :
    Finds (expectType o type role) fun _ => o.type = type := by
  rw [expectType]
  split
  · exact .fault
  · next h => exact .pure (Decidable.not_not.1 h)

theorem finds_expectDimension (o : Operand) (n : Nat) (role : OperandRole) :
    Finds (expectDimension o n role) fun _ => o.dimension = n := by
  rw [expectDimension]
  split
  · exact .fault
  · next h => exact .pure (Decidable.not_not.1 h)

/-- What a declaration of a constant buffer, texture or buffer does where no gap is met: a register is
read off it that has been declared before, or that the generator now has as it is declared. No other
resource is new. -/
def Provided (i : Instruction) (g g' : Generator) : Prop :=
  ∃ r, i.resource? = some r ∧ ((g.resource? r.shape.kind r.number).isSome ∨ g'.Describes r) ∧
    ∀ d ∈ g'.resources, d ∈ g.resources ∨ (d.form.kind, d.register) = r.key

theorem provided_declareConstantBuffer (hs : s.generator.WellFormed)
    (hi : i.opcode = .dclConstantbuffer)
    (hrun : (declareConstantBuffer i).run s = (.ok (), s')) :
    Provided i s.generator s'.generator := by
  obtain ⟨o, s₁, hs₁, ho, hrun⟩ := (finds_decoded _).exists_of_run hrun
  obtain ⟨_, s₂, hs₂, -, hrun⟩ := (finds_expectType _ _ _).exists_of_run hrun
  obtain ⟨_, s₃, hs₃, -, hrun⟩ := (finds_expectDimension _ _ _).exists_of_run hrun
  obtain ⟨number, s₄, hs₄, hnumber, hrun⟩ := (finds_plainIndex _ _ _).exists_of_run hrun
  obtain ⟨size, s₅, hs₅, hsize, hrun⟩ := (finds_plainIndex _ _ _).exists_of_run hrun
  obtain ⟨hop, -⟩ := run_generate_eq_ok hrun
  rw [hs₅.trans (hs₄.trans (hs₃.trans (hs₂.trans hs₁)))] at hop
  obtain ⟨-, -, hdescribes⟩ := (Generate.keeps_declareConstantBuffer hs number size).of_run hop
  obtain ⟨-, hsteps⟩ := (Generate.takes_declareConstantBuffer number size).of_run hop
  exact ⟨_, Instruction.resource?_constantBuffer hi ho hnumber hsize, hdescribes,
    fun d hd => hsteps.mem_resources_of_resource hd⟩

theorem provided_declareResource (hs : s.generator.WellFormed) (hi : i.opcode = .dclResource)
    (hrun : (declareResource i).run s = (.ok (), s')) (hgaps : s'.gaps = []) :
    Provided i s.generator s'.generator := by
  obtain ⟨o, s₁, hs₁, ho, hrun⟩ := (finds_decoded _).exists_of_run hrun
  obtain ⟨_, s₂, hs₂, -, hrun⟩ := (finds_expectType _ _ _).exists_of_run hrun
  obtain ⟨_, s₃, hs₃, -, hrun⟩ := (finds_expectDimension _ _ _).exists_of_run hrun
  obtain ⟨number, s₄, hs₄, hnumber, hrun⟩ := (finds_plainIndex _ _ _).exists_of_run hrun
  obtain ⟨dim, s₅, hs₅, hdim, hrun⟩ := (finds_decoded _).exists_of_run hrun
  obtain ⟨w, s₆, hs₆, hw, hrun⟩ := (finds_decoded _).exists_of_run hrun
  obtain ⟨types, s₇, hs₇, htypes, hrun⟩ := (finds_decoded _).exists_of_run hrun
  dsimp only at hrun
  split at hrun
  · -- return types that differ are a gap
    obtain ⟨_, s₈, hop, hrun⟩ := run_bind_eq_ok.1 hrun
    obtain ⟨-, hsame⟩ := run_generate_eq_ok hrun
    cases hop
    rw [hgaps] at hsame
    cases List.append_ne_nil_of_right_ne_nil _ (List.cons_ne_nil _ _) hsame.symm
  · next hsame =>
    obtain ⟨hop, -⟩ := run_generate_eq_ok hrun
    rw [hs₇.trans (hs₆.trans (hs₅.trans (hs₄.trans (hs₃.trans (hs₂.trans hs₁)))))] at hop
    obtain ⟨-, -, hdescribes⟩ := (Generate.keeps_declareResource hs number dim _).of_run hop
    obtain ⟨-, hsteps⟩ := (Generate.takes_declareResource number dim _).of_run hop
    exact ⟨_, Instruction.resource?_image hi ho hnumber hdim hw htypes hsame, hdescribes,
      fun d hd => hsteps.mem_resources_of_resource hd⟩

/-- A declaration of an input or output register that meets no gap has no system value, or one that can
be expressed. -/
theorem supported_declareInterface (hi : i.opcode.isInterface = true) {r : InterfaceRegister}
    (hr : i.interface? = some r) (hrun : (declareInterface i).run s = (.ok (), s'))
    (hgaps : s'.gaps = []) :
    r.systemValue = .undefined ∨ (r.builtIn? s.generator.stage).isSome := by
  obtain ⟨o, s₁, hs₁, ho, hrun⟩ := (finds_decoded _).exists_of_run hrun
  simp only [missing_bind] at hrun
  split at hrun
  · cases hrun
  · obtain ⟨indices, s₂, hs₂, -, hrun⟩ := (finds_interfaceIndices _).exists_of_run hrun
    obtain ⟨mask, s₃, hs₃, -, hrun⟩ := (finds_targetMask _).exists_of_run hrun
    obtain ⟨wanted, s₄, hs₄, hwanted, hrun⟩ := (finds_systemValue _ _).exists_of_run hrun
    obtain ⟨_, _, hget, hrun⟩ := run_bind_eq_ok.1 hrun
    cases hget
    have hsame : s₄.generator = s.generator := hs₄.trans (hs₃.trans (hs₂.trans hs₁))
    -- the register that is read has the type of the operand and the system value that is wanted
    have hread : InterfaceClass.ofOperandType? o.type = some r.kind ∧ r.systemValue = wanted := by
      simp only [Instruction.interface?, if_pos hi, Instruction.declared?, ho, Except.toOption,
        Option.bind_eq_bind, Option.bind_some] at hr
      obtain ⟨kind, hkind, hr⟩ := Option.bind_eq_some_iff.1 hr
      split at hr
      · obtain ⟨number, -, hr⟩ := Option.bind_eq_some_iff.1 hr
        obtain ⟨value, hvalue, hr⟩ := Option.bind_eq_some_iff.1 hr
        obtain ⟨mode, -, hr⟩ := Option.bind_eq_some_iff.1 hr
        cases hr
        exact ⟨hkind, Option.some.inj (hvalue.symm.trans hwanted)⟩
      · cases hr
    obtain ⟨hkind, hvalue⟩ := hread
    split at hrun
    · next hsupported =>
      rw [hsame, Generator.supports, Bool.or_eq_true, beq_iff_eq, ← hvalue,
        EntryStage.builtIn?_eq hkind] at hsupported
      exact hsupported
    · -- a value that cannot be expressed is a gap, and gaps stay
      obtain ⟨_, s₅, hop, hrun⟩ := run_bind_eq_ok.1 hrun
      cases hop
      have hgap : s'.gaps = s₄.gaps ++ [.unsupportedSystemValue o.type indices.2 wanted] := by
        split at hrun
        · obtain ⟨mode, s₅, hop, hrun⟩ := run_bind_eq_ok.1 hrun
          rw [(run_generate_eq_ok hrun).2]
          rcases hmode : i.interpolationMode with e | mode <;> rw [hmode] at hop
          · cases hop
          · cases hop
            rfl
        · obtain ⟨mode, s₅, hop, hrun⟩ := run_bind_eq_ok.1 hrun
          rw [(run_generate_eq_ok hrun).2]
          cases hop
          rfl
      rw [hgaps] at hgap
      cases List.append_ne_nil_of_right_ne_nil _ (List.cons_ne_nil _ _) hgap.symm

end Lower

/-! ## Declared registers -/

namespace Generator

variable {g : Generator} {i : Instruction} {declared : List ResourceRegister}
variable {instructions : List Instruction}

/-- Whether no instruction meets a gap, one after the other. -/
def MeetsNoGap (g : Generator) : List Instruction → Prop
  | [] => True
  | i :: instructions => (g.handle i).outcome = .ok [] ∧ (g.handle i).generator.MeetsNoGap instructions

theorem MeetsNoGap.exists_of_mem (h : g.MeetsNoGap instructions) (hi : i ∈ instructions) :
    ∃ before, ((g.handledAll before).handle i).outcome = .ok [] := by
  induction instructions generalizing g with
  | nil => cases hi
  | cons j instructions ih =>
    obtain ⟨hok, hrest⟩ := h
    rcases List.mem_cons.1 hi with rfl | hi
    · exact ⟨[], hok⟩
    · obtain ⟨before, hbefore⟩ := ih hrest hi
      exact ⟨j :: before, hbefore⟩

theorem WellFormed.provided_handle (hg : g.WellFormed) (hi : i.opcode.declaresResource = true)
    (hok : (g.handle i).outcome = .ok []) : Lower.Provided i g (g.handle i).generator := by
  have hrun := run_of_handle hok (List.forall_mem_nil _)
  unfold Opcode.declaresResource at hi
  split at hi
  · next h =>
    have hhandler : Lower.instruction i = Lower.declareConstantBuffer i := by rw [Lower.instruction, h]
    rw [hhandler] at hrun
    have hprovided := Lower.provided_declareConstantBuffer hg h hrun
    exact hprovided
  · next h =>
    have hhandler : Lower.instruction i = Lower.declareResource i := by rw [Lower.instruction, h]
    rw [hhandler] at hrun
    have hprovided := Lower.provided_declareResource hg h hrun rfl
    exact hprovided
  · cases hi

/-- A declaration of an input or output register that meets no gap can be read, and its system value
can be expressed. -/
theorem supported_handle (hi : i.opcode.isInterface = true) (hok : (g.handle i).outcome = .ok []) :
    ∃ r, i.interface? = some r ∧ (r.systemValue = .undefined ∨ (r.builtIn? g.stage).isSome) := by
  rcases introduces_handle hi hok with ⟨hleft, -, -⟩ | ⟨-, r, hr, -⟩
  · rw [leavesOut_eq hok] at hleft
    cases hleft
  · have hrun := run_of_handle hok (List.forall_mem_nil _)
    rw [Lower.instruction_of_isInterface hi] at hrun
    have hsupported := Lower.supported_declareInterface hi hr hrun rfl
    exact ⟨r, hr, hsupported⟩

/-- What a generator has of the constant buffers, textures and buffers that are declared: there are no
others, and each of them is as it is declared first. -/
structure Provides (g : Generator) (declared : List ResourceRegister) : Prop where
  /-- Samplers apart, all resources are declared. -/
  only : ∀ d ∈ g.resources, d.form.kind = .sampler ∨
    (d.form.kind, d.register) ∈ declared.map ResourceRegister.key
  /-- The first declaration of a register is the one that is described. -/
  describes : ∀ key first, declared.find? (fun r => r.key = key) = some first → g.Describes first

namespace Provides

/-- What has been declared before is a register of the list. -/
theorem mem_of_isSome (h : g.Provides declared) {r : ResourceRegister}
    (hr : (g.resource? r.shape.kind r.number).isSome) : r.key ∈ declared.map ResourceRegister.key := by
  obtain ⟨d, hd⟩ := Option.isSome_iff_exists.1 hr
  obtain ⟨hmem, hkind, hregister⟩ := resource?_eq_some hd
  have hkey := h.only d hmem
  rw [hkind, hregister] at hkey
  refine hkey.resolve_left fun hsampler => ?_
  cases hshape : r.shape <;> rw [hshape] at hsampler <;> cases hsampler

/-- An instruction that meets no gap provides what it declares. -/
theorem handle (h : g.Provides declared) (hg : g.WellFormed)
    (hok : (g.handle i).outcome = .ok []) :
    (g.handle i).generator.Provides (declared ++ i.resource?.toList) := by
  obtain ⟨hgrows, -⟩ := hg.handle i
  cases hi : i.opcode.declaresResource with
  | false =>
    rw [Instruction.resource?_eq_none hi, Option.toList_none, List.append_nil]
    refine ⟨fun d hd => ?_, fun key first hfirst => (h.describes key first hfirst).mono hgrows⟩
    obtain ⟨trace, hsteps, htrace⟩ := g.exists_steps_handle i
    rw [completes, run_of_handle hok (List.forall_mem_nil _)] at htrace
    obtain rfl : trace = i.events := htrace
    rcases hsteps.mem_resources hd with hd | hd
    · exact h.only d hd
    · exact .inl (Instruction.kind_of_event hi hd)
  | true =>
    obtain ⟨r, hr, hdescribes, hnew⟩ := hg.provided_handle hi hok
    rw [hr, Option.toList_some]
    constructor
    · intro d hd
      rw [List.map_append, List.mem_append]
      rcases hnew d hd with hd | hkey
      · exact (h.only d hd).imp id .inl
      · exact .inr (.inr (List.mem_singleton.2 hkey))
    · intro key first hfirst
      rw [List.find?_append, List.find?_singleton] at hfirst
      rcases hold : declared.find? (fun r => r.key = key) with _ | old
      · rw [hold, Option.none_or] at hfirst
        split at hfirst
        · next hkey =>
          -- nothing declared before has this key, so the register is new
          cases hfirst
          refine hdescribes.resolve_left fun hbefore => ?_
          obtain ⟨r', hr', hkey'⟩ := List.mem_map.1 (h.mem_of_isSome hbefore)
          have hne := List.find?_eq_none.1 hold r' hr'
          rw [hkey'] at hne
          exact hne hkey
        · cases hfirst
      · rw [hold, Option.some_or] at hfirst
        cases hfirst
        exact (h.describes key _ hold).mono hgrows

/-- Instructions that meet no gap provide what they declare. -/
theorem handledAll (h : g.Provides declared) (hg : g.WellFormed)
    (hgap : g.MeetsNoGap instructions) :
    (g.handledAll instructions).Provides
      (declared ++ instructions.filterMap Instruction.resource?) := by
  induction instructions generalizing g declared with
  | nil =>
    rw [List.filterMap_nil, List.append_nil]
    exact h
  | cons i instructions ih =>
    obtain ⟨hok, hrest⟩ := hgap
    have hall := ih (h.handle hg hok) (hg.handle i).2 hrest
    rw [List.append_assoc] at hall
    rw [List.filterMap_cons]
    cases hr : i.resource? <;> rw [hr] at hall <;> exact hall

end Provides

/-- A resource is found by its register. -/
theorem Follows.resource?_of_mem {trace : List Event} (h : g.Follows trace) {d : DeclaredResource}
    (hd : d ∈ g.resources) : g.resource? d.form.kind d.register = some d := by
  have hnodup := nodup_firstDeclarations trace
  rw [← h.resources, List.map_map] at hnodup
  have hsome : (g.resource? d.form.kind d.register).isSome := by
    rw [resource?, List.find?_isSome]
    exact ⟨d, hd, by simp⟩
  obtain ⟨d', hd'⟩ := Option.isSome_iff_exists.1 hsome
  obtain ⟨hmem, hkind, hregister⟩ := resource?_eq_some hd'
  rw [hd', List.inj_on_of_nodup_map hnodup hmem hd (Prod.ext hkind hregister)]

end Generator

/-- A run that succeeds without a diagnostic has met no gap. -/
theorem Lowering.meetsNoGap_of_run {l l' : Lowering} {instructions : List Instruction}
    (hrun : l.run (instructions.map .ok) = (.ok (), l')) (hsilent : l'.diagnostics = []) :
    l.generator.MeetsNoGap instructions := by
  induction instructions generalizing l with
  | nil => trivial
  | cons i instructions ih =>
    rw [List.map_cons, run] at hrun
    rcases process_cases l i with ⟨f, -, hp⟩ | ⟨gap, gaps, -, -, hp⟩ | ⟨gaps, hgaps, -, hp⟩ <;>
      rw [hp] at hrun
    · cases hrun
    · cases hrun
    · have hnext : run { l.handled i with diagnostics := l.diagnostics ++ diagnosticsOf i gaps }
        (instructions.map .ok) = (.ok (), l') := hrun
      -- what is recorded stays recorded
      obtain ⟨more, hmore, -⟩ := diagnostics_run { l.handled i with
        diagnostics := l.diagnostics ++ diagnosticsOf i gaps } (instructions.map .ok)
      rw [hnext] at hmore
      have hnil : l.diagnostics ++ diagnosticsOf i gaps = [] :=
        (List.append_eq_nil_iff.1 (hmore.trans hsilent)).1
      obtain rfl : gaps = [] := List.map_eq_nil_iff.1 (List.append_eq_nil_iff.1 hnil).2
      exact ⟨hgaps, ih hnext⟩

/-! ## Lowered programs -/

namespace LoweredProgram

/-- What code has of the declarations of a program. Each declaration can be read, and the variable of
its register is as the first declaration of that register says. -/
structure Honours (x : LoweredProgram) (insts : List Inst) : Prop where
  /-- The variable of a constant buffer, texture or buffer is bound to the slot of its register. -/
  resources : ∀ i ∈ x.instructions, i.opcode.declaresResource = true → ∃ r first id slot,
    i.resource? = some r ∧
    (x.instructions.filterMap Instruction.resource?).find? (fun d => d.key = r.key) = some first ∧
    x.generator.resourceId? r.shape.kind r.number = some id ∧
    slotOf? x.program.stage r.shape.kind r.number = some slot ∧
    decorations insts id .binding = [[slot]] ∧ first.shape.Describes insts id
  /-- System values can be expressed. An input or output register is the built-in variable for its
  system value, or it has a location, and is interpolated if a pixel shader reads it from there. -/
  interfaces : ∀ i ∈ x.instructions, i.opcode.isInterface = true → ∃ r first id,
    i.interface? = some r ∧ (r.systemValue = .undefined ∨ (r.builtIn? x.stage).isSome) ∧
    (x.instructions.filterMap Instruction.interface?).find? (fun d => d.key = r.key) = some first ∧
    x.generator.registerId? (.interface r.kind r.number) = some id ∧
    (r.kind, id) ∈ insts.filterMap Inst.interface? ∧
    insts.filter (fun i => i.operands.head? == some id && i.isConnection) =
      first.connections x.stage id

variable (x : LoweredProgram)

theorem meetsNoGap (hsilent : x.result.diagnostics = []) :
    (Generator.start x.stage x.options).MeetsNoGap x.instructions :=
  Lowering.meetsNoGap_of_run x.run_eq.2.1 hsilent

theorem provides_generator (hsilent : x.result.diagnostics = []) :
    x.generator.Provides (x.instructions.filterMap Instruction.resource?) := by
  have hstart : (Generator.start x.stage x.options).Provides [] := by
    rw [Generator.start_eq]
    exact ⟨nofun, nofun⟩
  exact hstart.handledAll (Generator.wellFormed_start x.stage x.options) (x.meetsNoGap hsilent)

/-- Each instruction has been handled without a gap. -/
theorem exists_handled (hsilent : x.result.diagnostics = []) {i : Instruction}
    (hi : i ∈ x.instructions) :
    ∃ g : Generator, g.WellFormed ∧ g.stage = x.stage ∧ (g.handle i).outcome = .ok [] := by
  obtain ⟨before, hok⟩ := (x.meetsNoGap hsilent).exists_of_mem hi
  obtain ⟨hgrows, hg⟩ := (Generator.wellFormed_start x.stage x.options).handledAll before
  exact ⟨_, hg, hgrows.fixed.1.trans (by rw [Generator.start_eq]), hok⟩

/-- Code without a diagnostic honours the declarations of its program, the first one of each register,
if ids fit a word and no instruction is too long for its length to be written. -/
theorem declarations_honoured (x : LoweredProgram) (hsilent : x.result.diagnostics = [])
    (hfit : x.module.bound < UInt32.size) (hlength : x.module.IsEncodable) :
    ∃ insts, x.shader.code.decoded? = some insts ∧ x.Honours insts := by
  have hw := x.wellFormed_generator
  have hfitEnd : x.generator.module.bound < UInt32.size :=
    x.generatorAt_length ▸ (x.bound_generatorAt_le x.instructions.length).trans_lt hfit
  refine ⟨x.module.instructions, ?_, ?_⟩
  · rw [x.code_eq]
    exact Module.decoded?_code hlength hw.laidOut
  · constructor
    case resources =>
      intro i hi hdeclares
      obtain ⟨g, hg, -, hok⟩ := x.exists_handled hsilent hi
      obtain ⟨r, hr, -, -⟩ := hg.provided_handle hdeclares hok
      obtain ⟨first, hfirst, hsame⟩ := exists_find?_key ResourceRegister.key
        (List.mem_filterMap.2 ⟨i, hi, hr⟩)
      obtain ⟨d, hd, hkey, hdescribes⟩ := (x.provides_generator hsilent).describes r.key first hfirst
      obtain ⟨hkind, hregister⟩ := Prod.mk.inj (hkey.trans hsame)
      obtain ⟨traces, -, hfollows⟩ := x.follows_generator
      have hslot := x.slotOf?_resource hd
      have hfound := hfollows.resource?_of_mem hd
      rw [hkind, hregister] at hslot hfound
      refine ⟨r, first, d.variableId, d.slot, hr, hfirst, ?_, hslot,
        (hfollows.decorations_finished hw hfitEnd hd).2, hdescribes.mono x.globals_subset⟩
      rw [Generator.resourceId?, Generator.id?, hfound]
      rfl
    case interfaces =>
      intro i hi hinterface
      obtain ⟨g, -, hstage, hok⟩ := x.exists_handled hsilent hi
      obtain ⟨r, hr, hsupported⟩ := Generator.supported_handle hinterface hok
      obtain ⟨first, hfirst, hsame⟩ := exists_find?_key InterfaceRegister.key
        (List.mem_filterMap.2 ⟨i, hi, hr⟩)
      obtain ⟨table, hpresents, hregisters⟩ := x.presents_generator
      have hnodup := nodup_firstInterfaces x.instructions
      rw [← hregisters] at hnodup
      have hdistinct := hpresents.nodup_ids hw hfitEnd
      -- the table has a register with this key, which is the first that is declared
      have hkey := mem_firstInterfaces.2 ⟨i, hi, r, hr, rfl⟩
      rw [← hregisters] at hkey
      obtain ⟨r', hr', hkey'⟩ := List.mem_map.1 hkey
      obtain ⟨v, hv, rfl⟩ := List.mem_map.1 hr'
      have hrecorded : v.1 ∈ firstInterfaces x.instructions := hregisters ▸ hr'
      have hfound := find?_of_mem_recordNew hrecorded
      rw [hkey', hfirst] at hfound
      obtain rfl := Option.some.inj hfound
      obtain ⟨hkind, hnumber⟩ := Prod.mk.inj hsame
      have hid := hpresents.registerId?_of_mem hnodup hv
      have hvariables := hpresents.variables_finished hw
      rw [hkind, hnumber] at hid
      refine ⟨r, v.1, v.2, hr, hstage ▸ hsupported, hfirst, hid, ?_, ?_⟩
      · rw [module, hvariables, ← hkind]
        exact List.mem_map_of_mem (f := fun v => (v.1.kind, v.2)) hv
      · rw [← x.stage_generator]
        exact hpresents.connections_of_mem hw hdistinct hv

end LoweredProgram

/-! ### Registers that are declared twice -/

/-- A pixel program that declares a constant buffer of one element and then of four, a texture of two
dimensions and then of three, and an input that is flat and then one that is interpolated. -/
def Program.declaredTwice : Program :=
  ⟨.pixel, ⟨4, 0⟩,
    [0x00000040, 25,
     0x04000059, 0x00208e46, 0, 1, 0x04000059, 0x00208e46, 0, 4,
     0x04001858, 0x00107000, 0, 0x00005555, 0x04002858, 0x00107000, 0, 0x00004444,
     0x03000862, 0x001010f2, 1, 0x03002062, 0x001010f2, 1, 0x0100003e]⟩

/-- The registers that it declares. -/
theorem Program.resources_declaredTwice :
    declaredTwice.instructionList.filterMap Instruction.resource? =
      [⟨0, .constantBuffer 1⟩, ⟨0, .constantBuffer 4⟩, ⟨0, .image .texture2D .float⟩,
        ⟨0, .image .texture3D .uint⟩] ∧
    declaredTwice.instructionList.filterMap Instruction.interface? =
      [⟨.input, 1, .undefined, .constant⟩, ⟨.input, 1, .undefined, .linearNoPerspective⟩] := by
  constructor <;> decide +kernel

/-- It is lowered without a diagnostic. -/
theorem Program.lower_declaredTwice :
    (declaredTwice.lower .standard).toOption.map LoweredShader.diagnostics = some [] := by
  decide +kernel

namespace LoweredProgram

/-- The first declarations are honoured: there is a buffer of one element, a flat texture of
floating-point numbers, and a flat input. -/
theorem declaredTwice_honoured :
    ∃ x : LoweredProgram, x.program = .declaredTwice ∧ x.options = .standard ∧
      x.result.diagnostics = [] ∧ ∃ insts buffer texture input,
        x.shader.code.decoded? = some insts ∧ x.Honours insts ∧
        decorations insts buffer .binding = [[184]] ∧
        (ResourceShape.constantBuffer 1).Describes insts buffer ∧
        decorations insts texture .binding = [[216]] ∧
        (ResourceShape.image .texture2D .float).Describes insts texture ∧
        insts.filter (fun i => i.operands.head? == some input && i.isConnection) =
          [.effect .decorate [input, Decoration.location.number, 1],
            .effect .decorate [input, Decoration.flat.number]] := by
  obtain ⟨hsome, hsilent⟩ := diagnostics_ofSome Program.lower_declaredTwice
  let x := ofSome Program.declaredTwice .standard hsome
  have hfit : ((Generator.start .pixel .standard).handledAll
      Program.declaredTwice.instructionList).finished.bound < UInt32.size := by decide +kernel
  have hlength : ((Generator.start .pixel .standard).handledAll
      Program.declaredTwice.instructionList).finished.IsEncodable := by decide +kernel
  obtain ⟨insts, hdecoded, hhonours⟩ := declarations_honoured x hsilent hfit hlength
  obtain ⟨hresources, hinterfaces⟩ := Program.resources_declaredTwice
  have hresource (r : ResourceRegister)
      (hr : r ∈ Program.declaredTwice.instructionList.filterMap Instruction.resource?) :
      ∃ first id slot, (Program.declaredTwice.instructionList.filterMap Instruction.resource?).find?
          (fun d => d.key = r.key) = some first ∧
        slotOf? .pixel r.shape.kind r.number = some slot ∧
        decorations insts id .binding = [[slot]] ∧ first.shape.Describes insts id := by
    obtain ⟨i, hi, hr⟩ := List.mem_filterMap.1 hr
    have hdeclares : i.opcode.declaresResource = true := by
      by_contra hnot
      rw [Instruction.resource?_eq_none (by simpa using hnot)] at hr
      cases hr
    obtain ⟨r', first, id, slot, hr', hfirst, -, hslot, hbound, hdescribes⟩ :=
      hhonours.resources i hi hdeclares
    cases hr.symm.trans hr'
    exact ⟨first, id, slot, hfirst, hslot, hbound, hdescribes⟩
  rw [hresources] at hresource
  obtain ⟨first, buffer, slot, hfirst, hslot, hbuffer, hblock⟩ :=
    hresource ⟨0, .constantBuffer 1⟩ (by simp)
  obtain rfl : ⟨0, .constantBuffer 1⟩ = first := Option.some.inj hfirst
  obtain rfl : 184 = slot := Option.some.inj hslot
  obtain ⟨first, texture, slot, hfirst, hslot, htexture, himage⟩ :=
    hresource ⟨0, .image .texture2D .float⟩ (by simp)
  obtain rfl : ⟨0, .image .texture2D .float⟩ = first := Option.some.inj hfirst
  obtain rfl : 216 = slot := Option.some.inj hslot
  -- the only input is the one that is declared flat first
  obtain ⟨i, hi, hr⟩ := List.mem_filterMap.1
    (show (⟨.input, 1, .undefined, .constant⟩ : InterfaceRegister) ∈
      Program.declaredTwice.instructionList.filterMap Instruction.interface? by
        rw [hinterfaces]
        exact List.mem_cons_self ..)
  have hinterface : i.opcode.isInterface = true := by
    by_contra hnot
    rw [Instruction.interface?, if_neg hnot] at hr
    cases hr
  obtain ⟨r, first, input, hr', -, hfirst, -, -, hconnections⟩ :=
    hhonours.interfaces i hi hinterface
  cases hr.symm.trans hr'
  have hfirst' : (Program.declaredTwice.instructionList.filterMap Instruction.interface?).find?
      (fun d => d.key = (.input, 1)) = some first := hfirst
  rw [hinterfaces] at hfirst'
  obtain rfl : ⟨.input, 1, .undefined, .constant⟩ = first := Option.some.inj hfirst'
  exact ⟨x, rfl, rfl, hsilent, insts, buffer, texture, input, hdecoded, hhonours, hbuffer, hblock,
    htexture, himage, hconnections⟩

/-- The second declarations are not honoured, and there is no diagnostic. -/
theorem declaredTwice_ignored :
    ∃ x : LoweredProgram, x.program = .declaredTwice ∧ x.options = .standard ∧
      x.result.diagnostics = [] ∧
      x.instructions.filterMap Instruction.resource? =
        [⟨0, .constantBuffer 1⟩, ⟨0, .constantBuffer 4⟩, ⟨0, .image .texture2D .float⟩,
          ⟨0, .image .texture3D .uint⟩] ∧
      x.instructions.filterMap Instruction.interface? =
        [⟨.input, 1, .undefined, .constant⟩, ⟨.input, 1, .undefined, .linearNoPerspective⟩] ∧
      ∃ insts, x.shader.code.decoded? = some insts ∧
        (∀ id, ¬(ResourceShape.constantBuffer 4).Describes insts id) ∧
        (∀ id, ¬(ResourceShape.image .texture3D .uint).Describes insts id) ∧
        ∀ id, .effect .decorate [id, Decoration.noPerspective.number] ∉ insts := by
  obtain ⟨hsome, hsilent⟩ := diagnostics_ofSome Program.lower_declaredTwice
  let x := ofSome Program.declaredTwice .standard hsome
  have hlength : x.module.IsEncodable := by
    change ((Generator.start .pixel .standard).handledAll
      Program.declaredTwice.instructionList).finished.IsEncodable
    decide +kernel
  have hnone : x.module.instructions.all (fun i =>
      !(i.op == .constant && i.operands == [4]) &&
      !(i.op == .typeImage && i.operands[1]? == some Dim.dim3D.number) &&
      !(i.op == .decorate && i.operands[1]? == some Decoration.noPerspective.number)) = true := by
    change ((Generator.start .pixel .standard).handledAll
      Program.declaredTwice.instructionList).finished.instructions.all _ = true
    decide +kernel
  obtain ⟨hresources, hinterfaces⟩ := Program.resources_declaredTwice
  rw [List.all_eq_true] at hnone
  refine ⟨x, rfl, rfl, hsilent, hresources, hinterfaces, x.module.instructions, ?_,
    ?_, ?_, ?_⟩
  · rw [x.code_eq]
    exact Module.decoded?_code hlength x.wellFormed_generator.laidOut
  · rintro id ⟨scalar, vector, number, length, array, block, -, -, -, hconstant, -⟩
    cases hnone _ hconstant
  · rintro id ⟨imageDim, capability?, sampled, scalar, type, hdim, -, -, himage, -⟩
    cases hdim
    cases hnone _ himage
  · intro id hmem
    cases hnone _ hmem

end LoweredProgram

end ShaderLowering
