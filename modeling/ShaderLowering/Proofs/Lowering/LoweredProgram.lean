import ShaderLowering.Proofs.Generator.Referencing
import ShaderLowering.Proofs.Lowering.Events
import ShaderLowering.Proofs.Lowering.MeaningKept

/-!
# Lowered programs

A `LoweredProgram` is a program together with the shader that it is lowered to. All its instructions
can be read and are handled, so there is a generator at each point of the run, one behind each
instruction; the last of them makes the module of the shader. `Generator.Traces` says which events
take place, instruction by instruction, and `LoweredProgram.follows` that the generators follow from
them.
-/

namespace ShaderLowering

open Spirv

namespace Generator

variable {g : Generator} {instructions : List Instruction} {traces : List (List Event)}

/-! ## The events of many instructions -/

/-- What takes place while instructions are handled, an event list for each: all events of an
instruction whose handler ends, and what comes before the stop for others. -/
inductive Traces : Generator → List Instruction → List (List Event) → Prop
  | nil {g : Generator} : Traces g [] []
  | cons {g : Generator} {i : Instruction} {trace : List Event} {instructions : List Instruction}
      {traces : List (List Event)}
      (first : if g.completes i then trace = i.events else i.Stops trace)
      (rest : Traces (g.handle i).generator instructions traces) :
      Traces g (i :: instructions) (trace :: traces)

/-- The events of the instructions whose handlers end. -/
def completedEvents (g : Generator) : List Instruction → List Event
  | [] => []
  | i :: instructions =>
    (if g.completes i then i.events else []) ++ (g.handle i).generator.completedEvents instructions

/-- Handling instructions takes the steps of what takes place. -/
theorem exists_traces (g : Generator) (instructions : List Instruction) :
    ∃ traces, g.Traces instructions traces ∧
      g.Steps traces.flatten (g.handledAll instructions) := by
  induction instructions generalizing g with
  | nil => exact ⟨[], .nil, .refl⟩
  | cons i instructions ih =>
    obtain ⟨trace, hsteps, htrace⟩ := g.exists_steps_handle i
    obtain ⟨traces, htraces, hsteps'⟩ := ih (g.handle i).generator
    exact ⟨trace :: traces, .cons htrace htraces, hsteps.trans hsteps'⟩

/-- Registers are declared by instructions whose handlers end, and by no others. -/
theorem Traces.declarations (h : g.Traces instructions traces) :
    traces.flatten.filter (!·.isAccess) =
      (g.completedEvents instructions).filter (!·.isAccess) := by
  induction h with
  | nil => rfl
  | @cons g i trace instructions traces first rest ih =>
    rw [List.flatten_cons, completedEvents, List.filter_append, List.filter_append, ih]
    congr 1
    split at first
    · next hcompletes => rw [first, if_pos hcompletes]
    · next hcompletes =>
      rw [if_neg hcompletes, List.filter_nil, List.filter_eq_nil_iff]
      intro e he
      rw [first.isAccess e he]
      exact Bool.false_ne_true

/-- A shader without instructions declares nothing. -/
theorem follows_start (stage : EntryStage) (options : Options) :
    (Generator.start stage options).Follows [] := by
  rw [start_eq]
  exact ⟨rfl, fun _ _ => ⟨nofun, nofun⟩, List.nodup_nil, rfl, nofun, rfl, .nil⟩

end Generator

/-- What a run that succeeds reads can be read. -/
theorem Lowering.isOk_of_run {l : Lowering} {items : List (Except DecodeError Instruction)}
    (h : (l.run items).1 = .ok ()) : items.all (·.isOk) = true := by
  induction items generalizing l with
  | nil => rfl
  | cons item items ih =>
    cases item with
    | error e => cases h
    | ok i =>
      rw [run] at h
      rcases hp : l.process i with ⟨e | u, l'⟩ <;> rw [hp] at h
      · cases h
      · exact ih h

/-- What stands behind accepted instructions is accepted there. -/
theorem Generator.Accepts.behind {g : Generator} {before behind : List Instruction}
    (h : g.Accepts (before ++ behind)) : (g.handledAll before).Accepts behind := by
  induction before generalizing g with
  | nil => exact h
  | cons i before ih => exact ih h.2

/-! ## Lowered programs -/

/-- A program that can be lowered, with its shader. -/
structure LoweredProgram where
  /-- The program. -/
  program : Program
  /-- The choices for its lowering. -/
  options : Options
  /-- The shader, with the diagnostics. -/
  result : LoweredShader
  /-- The shader is that of the program. -/
  lowered : program.lower options = .ok result

namespace LoweredProgram

/-- A program with the shader that lowering it succeeds with. -/
def ofSome (program : Program) (options : Options)
    (h : (program.lower options).toOption.isSome) : LoweredProgram where
  program := program
  options := options
  result := (program.lower options).toOption.get h
  lowered := eq_ok_of_toOption (Option.some_get h).symm

/-- What is recorded while a program is lowered is recorded with the shader. -/
theorem diagnostics_ofSome {program : Program} {options : Options} {diagnostics : List Diagnostic}
    (h : (program.lower options).toOption.map LoweredShader.diagnostics = some diagnostics) :
    ∃ hsome, (ofSome program options hsome).result.diagnostics = diagnostics := by
  obtain ⟨s, hs, rfl⟩ := Option.map_eq_some_iff.1 h
  have hresult := Option.get_of_eq_some (Option.isSome_of_eq_some hs) hs
  exact ⟨Option.isSome_of_eq_some hs, congrArg LoweredShader.diagnostics hresult⟩

variable (x : LoweredProgram)

/-- The shader. -/
def shader : Shader := x.result.shader

/-- The instructions of the program. -/
def instructions : List Instruction := x.program.instructionList

theorem isSome_ofStage? : (EntryStage.ofStage? x.program.stage).isSome := by
  have h := x.lowered
  rw [Program.lower, Generator.ofStage] at h
  rcases hstage : EntryStage.ofStage? x.program.stage with _ | stage
  · rw [hstage] at h
    cases h
  · rfl

/-- The stage of the program, as one that shaders can be lowered for. -/
def stage : EntryStage := (EntryStage.ofStage? x.program.stage).get x.isSome_ofStage?

theorem stage_stage : x.stage.stage = x.program.stage :=
  EntryStage.ofStage?_eq_some_iff.1 (Option.some_get _).symm

/-- The generator that the lowering starts with. -/
theorem ofStage_program :
    Generator.ofStage x.program.stage x.options = .ok (.start x.stage x.options) := by
  rw [Generator.ofStage, ← Option.some_get x.isSome_ofStage?]
  rfl

/-- The generator behind the first `n` instructions. -/
def generatorAt (n : Nat) : Generator :=
  (Generator.start x.stage x.options).handledAll (x.instructions.take n)

/-- The generator behind all instructions. -/
def generator : Generator := (Generator.start x.stage x.options).handledAll x.instructions

/-- The module of the shader. -/
def module : Module := x.generator.finished

/-- The events of those of the first `n` instructions whose handlers end. -/
def eventsAt (n : Nat) : List Event :=
  (Generator.start x.stage x.options).completedEvents (x.instructions.take n)

theorem generatorAt_length : x.generatorAt x.instructions.length = x.generator := by
  rw [generatorAt, List.take_length, generator]

/-- The run comes to its end: everything could be read, and the generator behind all instructions is
what the shader is made of. -/
theorem run_eq :
    x.program.instructions.items = x.instructions.map .ok ∧
      (Lowering.start (.start x.stage x.options) x.options).run (x.instructions.map .ok) =
        (.ok (), ⟨x.options.strict, x.generator, x.result.diagnostics⟩) ∧
      x.result = Lowering.finish ⟨x.options.strict, x.generator, x.result.diagnostics⟩ := by
  have h := x.lowered
  rw [Program.lower_eq_run, ofStage_program] at h
  rcases hrun : (Lowering.start (.start x.stage x.options) x.options).run
    x.program.instructions.items with ⟨e | u, l⟩ <;> simp only [hrun] at h
  · cases h
  · have hitems := Program.items_eq_map (Lowering.isOk_of_run (congrArg Prod.fst hrun))
    have hstrict := Lowering.strict_run (.start (.start x.stage x.options) x.options)
      x.program.instructions.items
    rw [hitems] at hrun hstrict
    have hgenerator := Lowering.generator_run (congrArg Prod.fst hrun)
    rw [hrun] at hgenerator hstrict
    have hresult : l.finish = x.result := Except.ok.inj h
    obtain ⟨strict, generator, diagnostics⟩ := l
    obtain rfl : strict = x.options.strict := hstrict
    obtain rfl : generator = x.generator := hgenerator
    obtain rfl : diagnostics = x.result.diagnostics := congrArg LoweredShader.diagnostics hresult
    exact ⟨hitems, hrun, hresult.symm⟩

/-- All instructions are accepted. -/
theorem accepts : (Generator.start x.stage x.options).Accepts x.instructions :=
  Lowering.accepts_of_run (congrArg Prod.fst x.run_eq.2.1)

/-- Each instruction is accepted where it stands. -/
theorem accepted {n : Nat} (hn : n < x.instructions.length) :
    ∃ gaps, ((x.generatorAt n).handle x.instructions[n]).outcome = .ok gaps := by
  have haccepts := x.accepts
  rw [← List.take_append_drop n x.instructions, List.drop_eq_getElem_cons hn] at haccepts
  exact haccepts.behind.1

/-- The shader is what the generator behind all instructions finishes with. -/
theorem shader_eq : x.shader = x.generator.finish :=
  congrArg LoweredShader.shader x.run_eq.2.2

theorem code_eq : x.shader.code = x.module.code := by
  rw [shader_eq]
  rfl

theorem slots_eq : x.shader.slots = x.generator.slots := by
  rw [shader_eq]
  rfl

theorem wellFormed_generatorAt (n : Nat) : (x.generatorAt n).WellFormed :=
  ((Generator.wellFormed_start x.stage x.options).handledAll _).2

theorem wellFormed_generator : x.generator.WellFormed :=
  ((Generator.wellFormed_start x.stage x.options).handledAll _).2

/-- What is declared in the module of the last generator is in the module of the shader. -/
theorem globals_subset : x.generator.module.globals.toList ⊆ x.module.instructions := by
  intro i hi
  have hglobals := x.wellFormed_generator.closed.1.globals.subset hi
  rw [module, Generator.instructions_finished x.wellFormed_generator]
  simp [hglobals]

theorem stage_generator : x.generator.stage = x.stage := by
  obtain ⟨hstage, -⟩ :=
    ((Generator.wellFormed_start x.stage x.options).handledAll x.instructions).1.fixed
  rw [generator, hstage, Generator.start_eq]

theorem entryName_generator : x.generator.entryName = x.options.entryPoint := by
  obtain ⟨-, hname, -⟩ :=
    ((Generator.wellFormed_start x.stage x.options).handledAll x.instructions).1.fixed
  rw [generator, hname, Generator.start_eq]

theorem stage_shader : x.shader.stage = x.program.stage := by
  rw [shader_eq, ← stage_stage, ← stage_generator]
  rfl

theorem grows_of_prefix {before instructions : List Instruction} (h : before <+: instructions) :
    ((Generator.start x.stage x.options).handledAll before).Grows
      ((Generator.start x.stage x.options).handledAll instructions) := by
  obtain ⟨behind, rfl⟩ := h
  rw [Generator.handledAll_append]
  have hwell := ((Generator.wellFormed_start x.stage x.options).handledAll before).2
  exact (hwell.handledAll behind).1

/-- What is there at one point of the run is there at every later one. -/
theorem grows {m n : Nat} (h : m ≤ n) : (x.generatorAt m).Grows (x.generatorAt n) :=
  x.grows_of_prefix (List.take_prefix_take_left h)

theorem grows_generator (n : Nat) : (x.generatorAt n).Grows x.generator :=
  x.grows_of_prefix (List.take_prefix ..)

/-- The generators follow from what takes place. -/
theorem follows (n : Nat) :
    ∃ traces, (Generator.start x.stage x.options).Traces (x.instructions.take n) traces ∧
      (x.generatorAt n).Follows traces.flatten := by
  obtain ⟨traces, htraces, hsteps⟩ :=
    (Generator.start x.stage x.options).exists_traces (x.instructions.take n)
  exact ⟨traces, htraces, (Generator.follows_start x.stage x.options).steps hsteps⟩

/-- The generator behind all instructions follows from what takes place. -/
theorem follows_generator :
    ∃ traces, (Generator.start x.stage x.options).Traces x.instructions traces ∧
      x.generator.Follows traces.flatten := by
  obtain ⟨traces, htraces, hfollows⟩ := x.follows x.instructions.length
  rw [List.take_length] at htraces
  rw [x.generatorAt_length] at hfollows
  exact ⟨traces, htraces, hfollows⟩

/-! ## Resources and bindings -/

/-- All events of the instructions whose handlers end. -/
def events : List Event := x.eventsAt x.instructions.length

theorem events_eq : x.events = (Generator.start x.stage x.options).completedEvents x.instructions := by
  rw [events, eventsAt, List.take_length]

/-- The resources are those of the first declarations. -/
theorem declarations_resources :
    x.generator.resources.map (·.declaration) = firstDeclarations x.events := by
  obtain ⟨traces, htraces, hfollows⟩ := x.follows_generator
  rw [hfollows.resources, ← Generator.firstDeclarations_filter, htraces.declarations,
    Generator.firstDeclarations_filter, events_eq]

/-- Each resource has the slot of its register. -/
theorem slotOf?_resource {r : DeclaredResource} (hr : r ∈ x.generator.resources) :
    slotOf? x.program.stage r.form.kind r.register = some r.slot := by
  obtain ⟨traces, -, hfollows⟩ := x.follows_generator
  have hslot := hfollows.slots r hr
  rwa [stage_generator, stage_stage] at hslot

/-- The code binds the variables of the resources to their slots. -/
theorem bindingDecorations_module :
    x.module.instructions.filter (·.binding?.isSome) =
      x.generator.resources.map fun r => r.bindingDecoration r.slot := by
  obtain ⟨traces, -, hfollows⟩ := x.follows_generator
  exact hfollows.bindingDecorations_finished x.wellFormed_generator

/-- The code binds the slots that the shader lists, in the same order. -/
theorem bindings_code (hl : x.module.IsEncodable) :
    x.shader.code.bindings = x.shader.slots.map (·.slot) := by
  obtain ⟨traces, -, hfollows⟩ := x.follows_generator
  have hw := x.wellFormed_generator
  rw [x.code_eq, Module.bindings_code hl hw.laidOut, module, hfollows.bindings_finished hw,
    x.slots_eq, Generator.slots, List.map_map]
  rfl

end LoweredProgram

end ShaderLowering
