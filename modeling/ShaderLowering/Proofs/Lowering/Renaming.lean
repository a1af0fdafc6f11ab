import ShaderLowering.Proofs.Lowering.Composition
import ShaderLowering.Proofs.Lowering.Soundness

/-!
# Names and nothing else

`Generator.renamed` is a generator as it would be with another name for its entry point and without
names for debuggers. No operation reads a name, so each of them does to a renamed generator what it
does to the generator itself, with the same result: it *commutes* with renaming. In particular, it
asks for the same ids. So do the handlers of instructions, and so does a whole run
(`Lowering.processAll_renamed`).
-/

namespace ShaderLowering

open Spirv (Build Inst Module)

variable {ε S α β : Type}

/-! ## Renaming -/

/-- A module without its names for debuggers. -/
def Spirv.Module.unnamed (m : Module) : Module := { m with names := #[] }

/-- A generator with another name for its entry point and without names for debuggers. -/
def Generator.renamed (name : String) (g : Generator) : Generator :=
  { g with entryName := name, debugNames := false, module := g.module.unnamed }

/-- The state of a handler with a renamed generator. -/
def LowerState.renamed (name : String) (s : LowerState) : LowerState :=
  { s with generator := s.generator.renamed name }

/-- A lowering under way with a renamed generator. -/
def Lowering.renamed (name : String) (l : Lowering) : Lowering :=
  { l with generator := l.generator.renamed name }

theorem Generator.sameRegisters_renamed (g : Generator) (name : String) :
    g.SameRegisters (g.renamed name) := ⟨rfl, rfl, rfl, rfl⟩

/-! ## Steps of the construction -/

namespace Spirv.Build

/-- A step that does the same to a module without names. -/
def IgnoresNames (b : Build α) : Prop := ∀ m, b.run m.unnamed = ((b.run m).1, (b.run m).2.unnamed)

theorem IgnoresNames.bind {b : Build α} {f : α → Build β} (h : IgnoresNames b)
    (hf : ∀ a, IgnoresNames (f a)) : IgnoresNames (b >>= f) := by
  intro m
  have hfirst := h m
  have hrest := hf (b.run m).1 (b.run m).2
  change (f (b.run m.unnamed).1).run (b.run m.unnamed).2 = _
  rw [hfirst]
  exact hrest

theorem IgnoresNames.observe {f : Module → Build α} (same : ∀ m, f m.unnamed = f m)
    (hf : ∀ m, IgnoresNames (f m)) : IgnoresNames (get >>= f) := by
  intro m
  change (f m.unnamed).run m.unnamed = _
  rw [same m]
  exact hf m m

theorem ignoresNames_enableCapability (c : Spirv.Capability) :
    IgnoresNames (enableCapability c) := by
  intro m
  have hrun (m : Module) : (enableCapability c).run m =
      ((), if c ∈ m.capabilities then m else { m with capabilities := m.capabilities.push c }) := rfl
  rw [hrun, hrun]
  by_cases hc : c ∈ m.capabilities
  · rw [if_pos hc, if_pos (show c ∈ m.unnamed.capabilities from hc)]
  · rw [if_neg hc, if_neg (show c ∉ m.unnamed.capabilities from hc)]
    rfl

theorem ignoresNames_intern (op : Spirv.Op) (type? : Option Word) (operands : List Word) :
    IgnoresNames (intern op type? operands) := by
  refine .observe (fun _ => rfl) fun m => ?_
  split
  · exact fun _ => rfl
  · exact fun _ => rfl

theorem ignoresNames_importGlsl : IgnoresNames importGlsl := by
  refine .observe (fun _ => rfl) fun m => ?_
  split
  · exact fun _ => rfl
  · exact fun _ => rfl

theorem Computes.ignoresNames {b : Build α} (h : Computes b) : IgnoresNames b := by
  induction h with
  | pure a => exact fun _ => rfl
  | bind _ _ ih ihf => exact ih.bind ihf
  | intern hop => exact ignoresNames_intern _ _ _
  | importGlsl => exact ignoresNames_importGlsl
  | emitValue hop => exact fun _ => rfl

theorem Extends.ignoresNames {b : Build α} (h : Extends b) : IgnoresNames b := by
  induction h with
  | computes h => exact h.ignoresNames
  | bind _ _ ih ihf => exact ih.bind ihf
  | addGlobal op type? operands => exact fun _ => rfl
  | decorate id d args => exact fun _ => rfl
  | decorateMember id member d args => exact fun _ => rfl
  | enableCapability c => exact ignoresNames_enableCapability c

end Spirv.Build

/-! ## Operations -/

/-- An operation that does to a changed state what it does to the state, with the same result. -/
def CommutesWith (change : S → S) (op : ExceptT ε (StateM S) α) : Prop :=
  ∀ s, op.run (change s) = ((op.run s).1, change (op.run s).2)

namespace CommutesWith

variable {change : S → S}

theorem pure (a : α) : CommutesWith change (Pure.pure a : ExceptT ε (StateM S) α) := fun _ => rfl

theorem throw (e : ε) : CommutesWith change (MonadExcept.throw e : ExceptT ε (StateM S) α) :=
  fun _ => rfl

theorem bind {op : ExceptT ε (StateM S) α} {f : α → ExceptT ε (StateM S) β}
    (h : CommutesWith change op) (hf : ∀ a, CommutesWith change (f a)) :
    CommutesWith change (op >>= f) := by
  intro s
  rw [run_bind, run_bind, h s]
  rcases op.run s with ⟨e | a, s'⟩
  · rfl
  · exact hf a s'

theorem observe {f : S → ExceptT ε (StateM S) α} (same : ∀ s, f (change s) = f s)
    (hf : ∀ s, CommutesWith change (f s)) : CommutesWith change (get >>= f) := by
  intro s
  rw [run_bind, run_bind, run_get, run_get]
  dsimp only
  rw [same s]
  exact hf s s

end CommutesWith

namespace Generate

variable {name : String}

/-- An operation that does not depend on names. -/
abbrev IgnoresNames (name : String) (op : Generate α) : Prop :=
  CommutesWith (Generator.renamed name) op

theorem ignoresNames_build {b : Build α} (h : b.IgnoresNames) : IgnoresNames name (build b) := by
  intro g
  have hb := h g.module
  rw [run_build, run_build]
  change (Except.ok (b.run g.module.unnamed).1, { g.renamed name with
    module := (b.run g.module.unnamed).2 }) = _
  rw [hb]
  rfl

theorem ignoresNames_openBlock : IgnoresNames name openBlock := by
  refine .observe (fun _ => rfl) fun g => ?_
  split
  · exact .pure ()
  · exact .bind (ignoresNames_build fun _ => rfl) fun _ => fun _ => rfl

theorem ignoresNames_body {b : Build α} (h : b.IgnoresNames) : IgnoresNames name (body b) :=
  .bind ignoresNames_openBlock fun _ => ignoresNames_build h

/-- Names are given only where names are wanted, and nothing else depends on that. -/
theorem ignoresNames_label {op : Generate Unit} (i : Inst) (h : IgnoresNames name op) :
    IgnoresNames name (do
      if (← get).debugNames then build (modify fun m => { m with names := m.names.push i })
      op) := by
  intro g
  obtain ⟨stage, entryName, debugNames, module, entryPoint, blockOpen, threadGroup?, temps,
    interfaces, resources⟩ := g
  cases debugNames with
  | false => exact h _
  | true => exact h ⟨stage, entryName, true, { module with names := module.names.push i },
      entryPoint, blockOpen, threadGroup?, temps, interfaces, resources⟩

theorem Computes.ignoresNames {op : Generate α} (h : Computes op) : IgnoresNames name op := by
  induction h with
  | pure a => exact .pure a
  | throw e => exact .throw e
  | bind _ _ ih ihf => exact ih.bind ihf
  | observe same _ ih => exact .observe (fun g => same g _ (g.sameRegisters_renamed name)) ih
  | build h => exact ignoresNames_build h.ignoresNames
  | body h => exact ignoresNames_body h.ignoresNames

theorem Stores.ignoresNames {op : Generate Unit} (h : Stores op) : IgnoresNames name op := by
  induction h with
  | throw e => exact .throw e
  | bind h _ ih => exact h.ignoresNames.bind ih
  | store pointer value => exact ignoresNames_body fun _ => rfl

theorem Extends.ignoresNames {op : Generate α} (h : Extends op) : IgnoresNames name op := by
  induction h with
  | pure a => exact .pure a
  | bind _ _ ih ihf => exact ih.bind ihf
  | observe same _ ih => exact .observe (fun g => same g _ (g.sameRegisters_renamed name)) ih
  | build h => exact ignoresNames_build h.ignoresNames
  | label i _ ih => exact ignoresNames_label i ih
  | temp id => exact fun _ => rfl
  | resource r => exact fun _ => rfl
  | interface v => exact fun _ => rfl
  | threadGroup size => exact fun _ => rfl

theorem Declares.ignoresNames {op : Generate Unit} (h : Declares op) : IgnoresNames name op := by
  induction h with
  | throw e => exact .throw e
  | bind h _ ih => exact h.ignoresNames.bind ih
  | observe same _ ih => exact .observe (fun g => same g _ (g.sameRegisters_renamed name)) ih
  | extend h => exact h.ignoresNames

theorem ignoresNames_ret : IgnoresNames name ret :=
  .bind (ignoresNames_body fun _ => rfl) fun _ => fun _ => rfl

end Generate

/-! ## Handlers -/

namespace Lower

variable {name : String}

/-- A handler that does not depend on names. -/
abbrev IgnoresNames (name : String) (op : Lower α) : Prop :=
  CommutesWith (LowerState.renamed name) op

theorem ignoresNames_generate {op : Generate α} (h : op.IgnoresNames name) :
    IgnoresNames name (generate op) := by
  intro s
  have hop := h s.generator
  rw [run_generate, run_generate]
  change (((op.run (s.generator.renamed name)).1.mapError interruption),
    { s.renamed name with generator := (op.run (s.generator.renamed name)).2 }) = _
  rw [hop]
  rfl

theorem Computes.ignoresNames {op : Lower α} (h : Computes op) : IgnoresNames name op := by
  induction h with
  | pure a => exact .pure a
  | throw e => exact .throw e
  | bind _ _ ih ihf => exact ih.bind ihf
  | observe same _ ih =>
    exact .observe (fun s => same s _ (s.generator.sameRegisters_renamed name)) ih
  | gap hg => exact fun _ => rfl
  | generate h => exact ignoresNames_generate h.ignoresNames

theorem Stores.ignoresNames {op : Lower Unit} (h : Stores op) : IgnoresNames name op := by
  induction h with
  | bind h _ ih => exact h.ignoresNames.bind ih
  | generate h => exact ignoresNames_generate h.ignoresNames

theorem Declares.ignoresNames {op : Lower Unit} (h : Declares Generate.Declares op) :
    IgnoresNames name op := by
  induction h with
  | throw e => exact .throw e
  | bind h _ ih => exact h.computes.ignoresNames.bind ih
  | observe same _ ih => exact .observe (fun s => same s _ rfl) ih
  | generate h => exact ignoresNames_generate h.ignoresNames

/-- No handler depends on names. -/
theorem ignoresNames_instruction (i : Instruction) : IgnoresNames name (instruction i) := by
  have hkind := instruction_kinds i
  generalize instruction i = op at hkind
  cases hkind with
  | skip => exact .pure ()
  | declares _ h => exact h.ignoresNames
  | stores _ h => exact h.ignoresNames
  | ret => exact ignoresNames_generate Generate.ignoresNames_ret
  | unhandled => exact fun _ => rfl

end Lower

/-! ## Runs -/

/-- Handling an instruction on a renamed generator. -/
theorem Generator.handle_renamed (g : Generator) (name : String) (i : Instruction) :
    (g.renamed name).handle i =
      ⟨(g.handle i).generator.renamed name, (g.handle i).outcome⟩ := by
  have hrun : (Lower.instruction i).run ⟨g.renamed name, []⟩ = _ :=
    Lower.ignoresNames_instruction i ⟨g, []⟩
  rw [handle, handle, hrun]
  rfl

namespace Lowering

theorem process_renamed (l : Lowering) (name : String) (i : Instruction) :
    (l.renamed name).process i = ((l.process i).1, (l.process i).2.renamed name) := by
  have hhandle : (l.renamed name).generator.handle i = _ := l.generator.handle_renamed name i
  rw [process, process, hhandle]
  dsimp only
  rcases (l.generator.handle i).outcome with f | gaps
  · rfl
  · cases hs : l.strict <;> cases gaps <;> simp only [renamed, hs] <;> rfl

/-- A run from a renamed generator ends like the run from the generator itself, renamed. -/
theorem processAll_renamed (l : Lowering) (name : String)
    (items : List (Except DecodeError Instruction)) :
    (l.renamed name).processAll items = (l.processAll items).map (renamed name) := by
  induction items generalizing l with
  | nil => rfl
  | cons item items ih =>
    cases item with
    | error e => rfl
    | ok i =>
      rw [processAll, processAll, process_renamed]
      rcases l.process i with ⟨e | u, l'⟩
      · rfl
      · exact ih l'

end Lowering

/-- The generator that a lowering starts with does not depend on names. -/
theorem Generator.renamed_start (stage : EntryStage) (options : Options) (name : String) :
    (Generator.start stage options).renamed name =
      Generator.start stage { options with entryPoint := name, debugNames := false } := by
  rw [start_eq, start_eq]
  rfl

end ShaderLowering
