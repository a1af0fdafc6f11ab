import ShaderLowering.Proofs.Lowering.Composition
import ShaderLowering.Proofs.Lowering.Soundness

/-!
# An instruction takes effect as a whole or not at all

The handler of an instruction can fail at many points, with types, constants and instructions
already added to the module. All of these are of no consequence on their own: `Generator.Unnoticed`
says that a generator has the same registers, names, decorations and capabilities, and that none of
the added instructions stores, returns or is a variable. A handler that fails or skips its
instruction goes unnoticed (`Generator.unnoticed_handle`), and one that computes and succeeds stores
exactly once (`Generator.storesOnce_handle`). Gaps of an instruction that fails are forgotten with
it.
-/

namespace ShaderLowering

open Spirv (Build Inst Module)

variable {α β : Type}

/-! ## Additions that go unnoticed -/

/-- Instructions are added, none of which can be noticed. -/
def AddsUnnoticed (insts insts' : List Inst) : Prop :=
  ∃ more, insts' = insts ++ more ∧ ∀ i ∈ more, i.op.isNoticeable = false

namespace AddsUnnoticed

variable {insts insts' insts'' : List Inst}

theorem refl (insts : List Inst) : AddsUnnoticed insts insts :=
  ⟨[], (List.append_nil _).symm, nofun⟩

theorem trans (h : AddsUnnoticed insts insts') (h' : AddsUnnoticed insts' insts'') :
    AddsUnnoticed insts insts'' := by
  obtain ⟨more, rfl, hmore⟩ := h
  obtain ⟨more', rfl, hmore'⟩ := h'
  refine ⟨more ++ more', List.append_assoc .., fun i hi => ?_⟩
  rcases List.mem_append.1 hi with hi | hi
  · exact hmore i hi
  · exact hmore' i hi

/-- One more instruction. -/
theorem push {insts : Array Inst} {i : Inst} (hi : i.op.isNoticeable = false) :
    AddsUnnoticed insts.toList (insts.push i).toList := by
  refine ⟨[i], Array.toList_push .., fun j hj => ?_⟩
  rw [List.mem_singleton.1 hj]
  exact hi

end AddsUnnoticed

/-- Nothing has happened to a module that can be noticed. -/
structure Spirv.Module.Unnoticed (m m' : Module) : Prop where
  capabilities : m'.capabilities = m.capabilities
  names : m'.names = m.names
  annotations : m'.annotations = m.annotations
  globals : AddsUnnoticed m.globals.toList m'.globals.toList
  body : AddsUnnoticed m.body.toList m'.body.toList

/-- Nothing has happened to a generator that can be noticed: the registers and the size of the
thread group are what they were, and so is all of the module but for unnoticed instructions. -/
structure Generator.Unnoticed (g g' : Generator) : Prop where
  registers : g.SameRegisters g'
  threadGroup : g'.threadGroup? = g.threadGroup?
  module : g.module.Unnoticed g'.module

/-- The same, with a store at the end. -/
structure Generator.StoresOnce (g g' : Generator) : Prop where
  registers : g.SameRegisters g'
  threadGroup : g'.threadGroup? = g.threadGroup?
  globals : AddsUnnoticed g.module.globals.toList g'.module.globals.toList
  body : ∃ code pointer value, AddsUnnoticed g.module.body.toList code ∧
    g'.module.body.toList = code ++ [.effect .store [pointer, value]]

section

variable {m m' m'' : Module} {g g' g'' : Generator}

theorem Spirv.Module.Unnoticed.refl (m : Module) : m.Unnoticed m :=
  ⟨rfl, rfl, rfl, .refl _, .refl _⟩

theorem Spirv.Module.Unnoticed.trans (h : m.Unnoticed m') (h' : m'.Unnoticed m'') :
    m.Unnoticed m'' :=
  ⟨h'.capabilities.trans h.capabilities, h'.names.trans h.names,
    h'.annotations.trans h.annotations, h.globals.trans h'.globals, h.body.trans h'.body⟩

theorem Generator.Unnoticed.refl (g : Generator) : g.Unnoticed g := ⟨.refl g, rfl, .refl _⟩

theorem Generator.Unnoticed.trans (h : g.Unnoticed g') (h' : g'.Unnoticed g'') : g.Unnoticed g'' :=
  ⟨h.registers.trans h'.registers, h'.threadGroup.trans h.threadGroup, h.module.trans h'.module⟩

/-- What goes unnoticed before a store makes no difference to it. -/
theorem Generator.Unnoticed.storesOnce (h : g.Unnoticed g') (h' : g'.StoresOnce g'') :
    g.StoresOnce g'' := by
  obtain ⟨code, pointer, value, hcode, hstore⟩ := h'.body
  exact ⟨h.registers.trans h'.registers, h'.threadGroup.trans h.threadGroup,
    h.module.globals.trans h'.globals, code, pointer, value, h.module.body.trans hcode, hstore⟩

end

/-! ## Steps of the construction -/

namespace Spirv.Build

/-- Looking at the module first makes no difference. -/
theorem unnoticed_get_bind {f : Module → Build α} (hf : ∀ m : Module, m.Unnoticed ((f m).run m).2)
    (m : Module) : m.Unnoticed ((get >>= f : Build α).run m).2 := hf m

theorem unnoticed_intern {op : Spirv.Op} (hop : op.isNoticeable = false) (type? : Option Word)
    (operands : List Word) (m : Module) : m.Unnoticed ((intern op type? operands).run m).2 := by
  refine unnoticed_get_bind (fun m => ?_) m
  split
  · exact .refl m
  · exact ⟨rfl, rfl, rfl, .push hop, .refl _⟩

theorem unnoticed_importGlsl (m : Module) : m.Unnoticed (importGlsl.run m).2 := by
  refine unnoticed_get_bind (fun m => ?_) m
  split
  · exact .refl m
  · exact ⟨rfl, rfl, rfl, .refl _, .refl _⟩

/-- A step that computes goes unnoticed. -/
theorem Computes.unnoticed {b : Build α} (h : b.Computes) (m : Module) :
    m.Unnoticed (b.run m).2 := by
  induction h generalizing m with
  | pure a => exact .refl m
  | bind _ _ ih ihf => exact (ih m).trans (ihf _ _)
  | intern hop => exact unnoticed_intern hop _ _ m
  | importGlsl => exact unnoticed_importGlsl m
  | emitValue hop => exact ⟨rfl, rfl, rfl, .refl _, .push hop⟩

end Spirv.Build

/-! ## Operations -/

namespace Generate

theorem unnoticed_build {b : Build α} (h : b.Computes) (g : Generator) :
    g.Unnoticed ((build b).run g).2 :=
  ⟨⟨rfl, rfl, rfl, rfl⟩, rfl, h.unnoticed g.module⟩

/-- A new block goes unnoticed. -/
theorem unnoticed_opened (g : Generator) : g.Unnoticed g.opened := by
  rw [Generator.opened]
  split
  · exact .refl g
  · exact ⟨⟨rfl, rfl, rfl, rfl⟩, rfl, rfl, rfl, rfl, .refl _, .push rfl⟩

theorem run_body (b : Build α) (g : Generator) : (body b).run g = (build b).run g.opened := by
  rw [body, run_bind, run_openBlock]

/-- An operation that computes goes unnoticed, whether it fails or not. -/
theorem Computes.unnoticed {op : Generate α} (h : Computes op) (g : Generator) :
    g.Unnoticed (op.run g).2 := by
  induction h generalizing g with
  | pure a => exact .refl g
  | throw e => exact .refl g
  | @bind _ _ op f _ _ ih ihf =>
    have hop := ih g
    rw [run_bind]
    rcases hrun : op.run g with ⟨e | a, g'⟩ <;> rw [hrun] at hop
    · exact hop
    · exact hop.trans (ihf a g')
  | observe _ _ ih => exact ih g g
  | build h => exact unnoticed_build h g
  | body h =>
    rw [run_body]
    exact (unnoticed_opened g).trans (unnoticed_build h _)

/-- An operation that stores goes unnoticed if it fails, and stores once otherwise. -/
theorem Stores.storesOnce {op : Generate Unit} (h : Stores op) (g : Generator) :
    (∀ e, (op.run g).1 = .error e → g.Unnoticed (op.run g).2) ∧
      ((op.run g).1 = .ok () → g.StoresOnce (op.run g).2) := by
  induction h generalizing g with
  | throw e => exact ⟨fun _ _ => .refl g, nofun⟩
  | @bind _ op f h _ ih =>
    have hop := h.unnoticed g
    rw [run_bind]
    rcases hrun : op.run g with ⟨e | a, g'⟩ <;> rw [hrun] at hop
    · exact ⟨fun _ _ => hop, nofun⟩
    · obtain ⟨hfail, hstore⟩ := ih a g'
      exact ⟨fun e he => hop.trans (hfail e he), fun hok => hop.storesOnce (hstore hok)⟩
  | store pointer value =>
    rw [run_body]
    obtain ⟨hregisters, hgroup, hmodule⟩ := unnoticed_opened g
    exact ⟨nofun, fun _ => ⟨hregisters.trans ⟨rfl, rfl, rfl, rfl⟩, hgroup, hmodule.globals, _,
      pointer, value, hmodule.body, Array.toList_push ..⟩⟩

/-- An operation that declares goes unnoticed if it fails. -/
theorem Declares.unnoticed {op : Generate Unit} (h : Declares op) (g : Generator)
    {e : GeneratorError} (he : (op.run g).1 = .error e) : g.Unnoticed (op.run g).2 := by
  induction h generalizing g with
  | throw e => exact .refl g
  | @bind _ op f h _ ih =>
    have hop := h.unnoticed g
    rw [run_bind] at he ⊢
    rcases hrun : op.run g with ⟨e' | a, g'⟩ <;> rw [hrun] at he hop
    · exact hop
    · exact hop.trans (ih a g' he)
  | observe _ _ ih => exact ih g g he
  | extend h =>
    obtain ⟨a, g', hop⟩ := h.isOk g
    rw [hop] at he
    cases he

end Generate

/-! ## Handlers -/

/-- Gaps are met, none of which means that the instruction was left out. -/
def NotesDetails (gaps gaps' : List Gap) : Prop :=
  ∃ more, gaps' = gaps ++ more ∧ ∀ gap ∈ more, gap.isSkip = false

namespace NotesDetails

variable {gaps gaps' gaps'' : List Gap}

theorem refl (gaps : List Gap) : NotesDetails gaps gaps :=
  ⟨[], (List.append_nil _).symm, List.forall_mem_nil _⟩

theorem trans (h : NotesDetails gaps gaps') (h' : NotesDetails gaps' gaps'') :
    NotesDetails gaps gaps'' := by
  obtain ⟨more, rfl, hmore⟩ := h
  obtain ⟨more', rfl, hmore'⟩ := h'
  refine ⟨more ++ more', List.append_assoc .., fun gap hgap => ?_⟩
  rcases List.mem_append.1 hgap with hgap | hgap
  · exact hmore gap hgap
  · exact hmore' gap hgap

end NotesDetails

namespace Lower

theorem Computes.unnoticed {op : Lower α} (h : Computes op) (s : LowerState) :
    s.generator.Unnoticed (op.run s).2.generator ∧ NotesDetails s.gaps (op.run s).2.gaps := by
  induction h generalizing s with
  | pure a => exact ⟨.refl _, .refl _⟩
  | throw e => exact ⟨.refl _, .refl _⟩
  | @bind _ _ op f _ _ ih ihf =>
    have hop := ih s
    rw [run_bind]
    rcases hrun : op.run s with ⟨e | a, s'⟩ <;> rw [hrun] at hop
    · exact hop
    · obtain ⟨hgenerator, hgaps⟩ := ihf a s'
      exact ⟨hop.1.trans hgenerator, hop.2.trans hgaps⟩
  | observe _ _ ih => exact ih s s
  | @gap g hg => exact ⟨.refl _, [g], rfl, List.forall_mem_singleton.2 hg⟩
  | generate h => exact ⟨h.unnoticed s.generator, .refl _⟩

theorem exists_error_of_generate {op : Generate α} {s : LowerState} {e : Interruption}
    (h : ((generate op).run s).1 = .error e) : ∃ e', (op.run s.generator).1 = .error e' := by
  rw [run_generate] at h
  rcases hop : (op.run s.generator).1 with e' | a
  · exact ⟨e', rfl⟩
  · rw [hop] at h
    cases h

/-- A handler that stores goes unnoticed if it fails, and stores once otherwise. -/
theorem Stores.storesOnce {op : Lower Unit} (h : Stores op) (s : LowerState) :
    (∀ e, (op.run s).1 = .error e → s.generator.Unnoticed (op.run s).2.generator) ∧
      ((op.run s).1 = .ok () → s.generator.StoresOnce (op.run s).2.generator) ∧
      NotesDetails s.gaps (op.run s).2.gaps := by
  induction h generalizing s with
  | @bind _ op f h _ ih =>
    obtain ⟨hop, hgaps⟩ := h.unnoticed s
    rw [run_bind]
    rcases hrun : op.run s with ⟨e | a, s'⟩ <;> rw [hrun] at hop hgaps
    · exact ⟨fun _ _ => hop, nofun, hgaps⟩
    · obtain ⟨hfail, hstore, hgaps'⟩ := ih a s'
      exact ⟨fun e he => hop.trans (hfail e he), fun hok => hop.storesOnce (hstore hok),
        hgaps.trans hgaps'⟩
  | @generate op h =>
    obtain ⟨hfail, hstore⟩ := h.storesOnce s.generator
    refine ⟨fun e he => ?_, fun hok => hstore ?_, .refl _⟩
    · obtain ⟨e', he'⟩ := exists_error_of_generate he
      exact hfail e' he'
    · rw [run_generate] at hok
      rcases hop : (op.run s.generator).1 with e | a
      · rw [hop] at hok
        cases hok
      · rfl

/-- A handler that declares goes unnoticed if it fails. -/
theorem Declares.unnoticed {op : Lower Unit} (h : Declares Generate.Declares op) (s : LowerState) :
    (∀ e, (op.run s).1 = .error e → s.generator.Unnoticed (op.run s).2.generator) ∧
      NotesDetails s.gaps (op.run s).2.gaps := by
  induction h generalizing s with
  | throw e => exact ⟨fun _ _ => .refl _, .refl _⟩
  | @bind _ op f h _ ih =>
    obtain ⟨hop, hgaps⟩ := h.computes.unnoticed s
    rw [run_bind]
    rcases hrun : op.run s with ⟨e | a, s'⟩ <;> rw [hrun] at hop hgaps
    · exact ⟨fun _ _ => hop, hgaps⟩
    · obtain ⟨hfail, hgaps'⟩ := ih a s'
      exact ⟨fun e he => hop.trans (hfail e he), hgaps.trans hgaps'⟩
  | observe _ _ ih => exact ih s s
  | generate h =>
    refine ⟨fun e he => ?_, .refl _⟩
    obtain ⟨e', he'⟩ := exists_error_of_generate he
    exact h.unnoticed s.generator he'

/-- A handler that stops goes unnoticed, and so does one that skips its instruction. -/
theorem unnoticed_instruction (i : Instruction) (s : LowerState) :
    (∀ e, ((instruction i).run s).1 = .error e →
      s.generator.Unnoticed ((instruction i).run s).2.generator) ∧
    (NotesDetails s.gaps ((instruction i).run s).2.gaps ∨
      s.generator.Unnoticed ((instruction i).run s).2.generator) := by
  have hok {op : Lower Unit} {s' : LowerState} (h : op.run s = (.ok (), s')) :
      ∀ e, (op.run s).1 = .error e → s.generator.Unnoticed (op.run s).2.generator := by
    intro e he
    rw [h] at he
    cases he
  have hkind := instruction_kinds i
  generalize instruction i = op at hkind
  cases hkind with
  | skip => exact ⟨hok (run_pure () s), .inl (.refl _)⟩
  | declares _ h =>
    obtain ⟨hfail, hgaps⟩ := h.unnoticed s
    exact ⟨hfail, .inl hgaps⟩
  | stores _ h =>
    obtain ⟨hfail, -, hgaps⟩ := h.storesOnce s
    exact ⟨hfail, .inl hgaps⟩
  | ret => exact ⟨hok (by rw [run_generate, Generate.run_ret]; rfl), .inl (.refl _)⟩
  | unhandled => exact ⟨hok (run_gap _ s), .inr (.refl _)⟩

end Lower

/-! ## Instructions -/

namespace Generator

/-- An instruction that fails or is left out goes unnoticed. -/
theorem unnoticed_handle (g : Generator) (i : Instruction)
    (h : ∀ gaps, (g.handle i).outcome = .ok gaps → ∃ gap ∈ gaps, gap.isSkip = true) :
    g.Unnoticed (g.handle i).generator := by
  obtain ⟨hfail, hgaps⟩ := Lower.unnoticed_instruction i ⟨g, []⟩
  rw [handle] at h ⊢
  rcases hrun : (Lower.instruction i).run ⟨g, []⟩ with ⟨e | u, s⟩ <;> rw [hrun] at h hfail hgaps
  · exact hfail e rfl
  · obtain ⟨gap, hgap, hskip⟩ := h s.gaps rfl
    rcases hgaps with ⟨more, hmore, hdetails⟩ | hquiet
    · replace hmore : s.gaps = more := hmore
      rw [hdetails gap (hmore ▸ hgap)] at hskip
      cases hskip
    · exact hquiet

/-- A computation that neither fails nor is left out stores once. -/
theorem storesOnce_handle (g : Generator) {i : Instruction} (hi : i.opcode.isComputation = true)
    {gaps : List Gap} (h : (g.handle i).outcome = .ok gaps)
    (hgaps : ∀ gap ∈ gaps, gap.isSkip = false) : g.StoresOnce (g.handle i).generator := by
  have hstores : Lower.Stores (Lower.instruction i) := by
    have hkind := Lower.instruction_kinds i
    generalize Lower.instruction i = op at hkind
    cases hkind with
    | stores _ h => exact h
    | skip hno | declares hno | ret hno | unhandled hno =>
      rw [hi] at hno
      cases hno
  obtain ⟨-, hstore, -⟩ := hstores.storesOnce ⟨g, []⟩
  rw [handle] at h ⊢
  rcases hrun : (Lower.instruction i).run ⟨g, []⟩ with ⟨(feature | f) | u, s⟩ <;>
    rw [hrun] at h hstore
  · -- a missing feature is recorded as a gap
    obtain rfl := Except.ok.inj h
    cases hgaps (.missing feature) (List.mem_append_right _ (List.mem_singleton_self _))
  · cases h
  · exact hstore rfl

/-- What lenient handling of instructions reports, one after the other; instructions that fail
report nothing. -/
def reported (g : Generator) : List Instruction → List Diagnostic
  | [] => []
  | i :: instructions =>
    (match (g.handle i).outcome with
      | .ok gaps => Lowering.diagnosticsOf i gaps
      | .error _ => []) ++ (g.handle i).generator.reported instructions

/-- Each instruction reports its own gaps only. -/
theorem exists_of_mem_reported {g : Generator} {instructions : List Instruction} {d : Diagnostic}
    (hd : d ∈ g.reported instructions) :
    ∃ i ∈ instructions, d.position = i.position ∧ d.opcode = i.opcode := by
  induction instructions generalizing g with
  | nil => cases hd
  | cons i instructions ih =>
    rw [reported] at hd
    rcases List.mem_append.1 hd with hd | hd
    · refine ⟨i, List.mem_cons_self .., ?_⟩
      split at hd
      · obtain ⟨gap, -, rfl⟩ := List.mem_map.1 hd
        exact ⟨rfl, rfl⟩
      · cases hd
    · obtain ⟨j, hj, hjd⟩ := ih hd
      exact ⟨j, List.mem_cons_of_mem _ hj, hjd⟩

end Generator

namespace Lowering

variable {l : Lowering}

/-- What lenient processing of an instruction comes to. -/
theorem process_of_lenient (hl : l.strict = false) (i : Instruction) :
    (∃ f, (l.generator.handle i).outcome = .error f ∧
      l.process i = (.error ⟨i.position, some i.opcode, f⟩, l.handled i)) ∨
    (∃ gaps, (l.generator.handle i).outcome = .ok gaps ∧
      l.process i = (.ok (), { l.handled i with
        diagnostics := l.diagnostics ++ diagnosticsOf i gaps })) := by
  rcases l.process_cases i with h | ⟨_, _, -, hs, -⟩ | ⟨gaps, hgaps, -, h⟩
  · exact .inl h
  · rw [hl] at hs
    cases hs
  · exact .inr ⟨gaps, hgaps, h⟩

/-- The diagnostics of many instructions are what each of them reports. -/
theorem diagnostics_handledAll (hl : l.strict = false) (instructions : List Instruction) :
    (l.handledAll instructions).diagnostics =
      l.diagnostics ++ l.generator.reported instructions := by
  induction instructions generalizing l with
  | nil => exact (List.append_nil _).symm
  | cons i instructions ih =>
    have hnext : l.handledAll (i :: instructions) = (l.process i).2.handledAll instructions := rfl
    rw [hnext, Generator.reported]
    rcases process_of_lenient hl i with ⟨f, hf, h⟩ | ⟨gaps, hgaps, h⟩
    · rw [h, hf, List.nil_append]
      exact ih hl
    · rw [h, hgaps, ← List.append_assoc]
      exact ih hl

/-- Lenient processing of an instruction takes effect as a whole or not at all, whatever has been
processed before: one that fails or is left out goes unnoticed, and one that fails is not reported,
then or later. A computation that succeeds stores exactly once. -/
theorem process_atomic (hl : l.strict = false) (i : Instruction) :
    ∃ new, (l.process i).2.diagnostics = l.diagnostics ++ new ∧
      ((∃ e, (l.process i).1 = .error e) ∨ (∃ d ∈ new, d.gap.isSkip = true) →
        l.generator.Unnoticed (l.process i).2.generator) ∧
      (∀ e, (l.process i).1 = .error e → new = [] ∧ ∀ later,
        ((l.process i).2.handledAll later).diagnostics =
          l.diagnostics ++ (l.process i).2.generator.reported later ∧
        ∀ d ∈ (l.process i).2.generator.reported later,
          ∃ j ∈ later, d.position = j.position ∧ d.opcode = j.opcode) ∧
      (i.opcode.isComputation = true → (l.process i).1 = .ok () →
        (∀ d ∈ new, d.gap.isSkip = false) → l.generator.StoresOnce (l.process i).2.generator) := by
  rcases process_of_lenient hl i with ⟨f, hf, h⟩ | ⟨gaps, hgaps, h⟩
  · rw [h]
    refine ⟨[], (List.append_nil _).symm, fun _ => ?_, fun e _ => ⟨rfl, fun later => ?_⟩,
      fun _ hok => by cases hok⟩
    · exact l.generator.unnoticed_handle i fun gaps hgaps => by rw [hf] at hgaps; cases hgaps
    · have hhandled : (l.handled i).strict = false := hl
      exact ⟨diagnostics_handledAll hhandled later, fun d hd => Generator.exists_of_mem_reported hd⟩
  · rw [h]
    refine ⟨diagnosticsOf i gaps, rfl, fun hskip => ?_, fun e he => (by cases he),
      fun hi _ hnew => ?_⟩
    · obtain ⟨d, hd, hdskip⟩ := hskip.resolve_left fun ⟨_, he⟩ => by cases he
      obtain ⟨gap, hgap, rfl⟩ := List.mem_map.1 hd
      refine l.generator.unnoticed_handle i fun gaps' hgaps' => ⟨gap, ?_, hdskip⟩
      obtain rfl := Except.ok.inj (hgaps.symm.trans hgaps')
      exact hgap
    · refine l.generator.storesOnce_handle hi hgaps fun gap hgap => ?_
      exact hnew _ (List.mem_map_of_mem hgap)

/-- A sum of a constant and an input register. -/
def addInput : Instruction :=
  ⟨2, ⟨0x0a000000⟩, .add, [],
    [0x001000f2, 0, 0x00004002, 0x3f800000, 0, 0, 0x3f800000, 0x00101e46, 7]⟩

/-- Where the input register is not declared, the constant has been added to the module when the
handler fails, but that goes unnoticed. -/
theorem addInput_atomic :
    let l := start (.start .vertex .standard) .standard
    (l.process addInput).2.generator.module.globals.size = 7 ∧ l.generator.module.globals.size = 2 ∧
      l.generator.Unnoticed (l.process addInput).2.generator ∧
      (l.process addInput).2.diagnostics = [] := by
  intro l
  have hfails : (l.process addInput).1.toOption = none := by decide +kernel
  obtain ⟨new, hnew, hquiet, hforgotten, -⟩ := process_atomic (l := l) rfl addInput
  rcases he : (l.process addInput).1 with e | u
  · obtain ⟨rfl, -⟩ := hforgotten e he
    exact ⟨by decide +kernel, by decide +kernel, hquiet (.inl ⟨e, he⟩), hnew⟩
  · rw [he] at hfails
    cases hfails

end Lowering

end ShaderLowering
