import ShaderLowering.Proofs.Lowering.Framing
import ShaderLowering.Proofs.Lowering.Renaming
import ShaderLowering.Proofs.Spirv.Renaming

/-!
# What the naming options decide

Two options of a lowering are about names: how the entry point is called, and whether registers get
names for debuggers. `Program.lower_renamed` says that renaming the code of a shader gives the code
that lowering with the other name and without names for debuggers gives. So whatever the two options
are, up to names the code is the same (`Program.lower_names`).
-/

namespace ShaderLowering

open Spirv

/-! ## Finished modules -/

/-- A well-formed module stays well-formed without its names. -/
theorem Spirv.Module.WellFormed.unnamed {m : Module} (h : m.WellFormed) : m.unnamed.WellFormed where
  positive := h.positive
  globals := h.globals
  interned := h.interned
  body := h.body
  typed := h.typed
  names := nofun
  annotations := h.annotations
  unentered := h.unentered
  fresh hfit := ⟨(h.fresh hfit).bounded, (h.fresh hfit).nodup⟩

namespace Generator

variable {g : Generator}

theorem WellFormed.renamed (h : g.WellFormed) (name : String) : (g.renamed name).WellFormed where
  module := h.module.unnamed
  blockOpen := h.blockOpen
  entryPoint := h.entryPoint
  temps := h.temps
  interfaces := h.interfaces
  resources := h.resources
  distinct := h.distinct

theorem closed_renamed (g : Generator) (name : String) :
    (g.renamed name).closed = g.closed.unnamed := by
  have hopen : (g.renamed name).blockOpen = g.blockOpen := rfl
  rw [closed, closed, hopen]
  split <;> rfl

/-- What stands behind the names of a finished module. -/
def contents (g : Generator) : List Inst :=
  g.closed.annotations.toList ++
    (g.closed.globals.toList ++ (g.closed.body.toList ++ [.effect .functionEnd []]))

theorem instructions_finished_eq_contents (hg : g.WellFormed) :
    g.finished.instructions = g.preamble ++ g.entryDeclaration ::
      (g.entryModes ++ (g.closed.names.toList ++ g.contents)) :=
  instructions_finished_eq_preamble hg

/-- Renaming a generator changes how it declares the entry point, and takes the names away. -/
theorem instructions_finished_renamed (hg : g.WellFormed) (name : String) :
    (g.renamed name).finished.instructions = g.preamble ++ (g.renamed name).entryDeclaration ::
      (g.entryModes ++ g.contents) := by
  have hpreamble : (g.renamed name).preamble = g.preamble := by
    rw [preamble, preamble, closed_renamed]
    rfl
  have hcontents : (g.renamed name).contents = g.contents := by
    rw [contents, contents, closed_renamed]
    rfl
  have hnames : (g.renamed name).closed.names.toList = [] := by
    rw [closed_renamed]
    rfl
  rw [instructions_finished_eq_contents (hg.renamed name), hpreamble, hcontents, hnames]
  rfl

/-- Only the names and the declaration of the entry point are about names. -/
theorem WellFormed.section_ne (hg : g.WellFormed) {i : Inst}
    (hi : i ∈ g.preamble ∨ i ∈ g.entryModes ∨ i ∈ g.contents) :
    i.op.section ≠ .name ∧ i.op.section ≠ .entry := by
  obtain ⟨-, hm, -⟩ := hg.closed
  rcases hi with hi | hi | hi
  · simp only [preamble, List.mem_append, List.mem_map, List.mem_singleton] at hi
    rcases hi with ⟨c, -, rfl⟩ | hi | rfl
    · constructor <;> (intro h; cases h)
    · obtain ⟨id, rfl⟩ := op_of_mem_imports hi
      constructor <;> (intro h; cases h)
    · constructor <;> (intro h; cases h)
  · obtain ⟨rest, rfl⟩ := op_of_mem_entryModes hi
    constructor <;> (intro h; cases h)
  · simp only [contents, List.mem_append, List.mem_singleton] at hi
    rcases hi with hi | hi | hi | rfl
    · obtain ⟨op, id, rest, rfl, hop, -⟩ := hm.annotations i hi
      change op.section ≠ .name ∧ op.section ≠ .entry
      rw [hop]
      constructor <;> (intro h; cases h)
    · obtain ⟨before, hgrounded⟩ := hm.grounded hi
      rw [hgrounded.section_eq]
      constructor <;> (intro h; cases h)
    · obtain ⟨before, -, htyped⟩ := hm.typed_of_mem hi
      rw [htyped.section_eq]
      constructor <;> (intro h; cases h)
    · constructor <;> (intro h; cases h)

/-- The code of a finished shader, renamed, is that of the renamed generator. -/
theorem code_renamed (hg : g.WellFormed) (hl : g.finished.IsEncodable)
    (hname : '\x00' ∉ g.entryName.toList) (name : String) :
    g.finish.code.renamed name = (g.renamed name).finish.code := by
  have hheader : g.finished.header = (g.renamed name).finished.header := by
    rw [finished_eq hg, finished_eq (hg.renamed name), closed_renamed]
    rfl
  have hinsts := instructions_finished_eq_contents hg
  have hlength {insts : List Inst} (h : insts ⊆ g.finished.instructions) :
      ∀ i ∈ insts, i.words.length ≤ 0xffff := fun i hi => hl i (h hi)
  have hkept {insts : List Inst} (hsub : insts ⊆ g.finished.instructions)
      (h : ∀ i ∈ insts, i ∈ g.preamble ∨ i ∈ g.entryModes ∨ i ∈ g.contents) :
      (insts.map Inst.words).filterMap (Code.rename? name) = insts.map Inst.words :=
    Code.filterMap_rename?_of_section (hlength hsub) (fun i hi => hg.section_ne (h i hi)) name
  have hpreamble : (g.preamble.map Inst.words).filterMap (Code.rename? name) =
      g.preamble.map Inst.words :=
    hkept (fun i hi => by simp [hinsts, hi]) fun i hi => .inl hi
  have hmodes : (g.entryModes.map Inst.words).filterMap (Code.rename? name) =
      g.entryModes.map Inst.words :=
    hkept (fun i hi => by simp [hinsts, hi]) fun i hi => .inr (.inl hi)
  have hcontents : (g.contents.map Inst.words).filterMap (Code.rename? name) =
      g.contents.map Inst.words :=
    hkept (fun i hi => by simp [hinsts, hi]) fun i hi => .inr (.inr hi)
  have hnames : (g.closed.names.toList.map Inst.words).filterMap (Code.rename? name) = [] := by
    refine Code.filterMap_rename?_of_name (hlength fun i hi => ?_) (fun i hi => ?_) name
    · simp only [hinsts, List.mem_append, List.mem_cons]
      exact .inr (.inr (.inr (.inl hi)))
    · obtain ⟨op, id, rest, rfl, hop, -⟩ := hg.closed.2.1.names i hi
      exact hop
  have hentry : Code.rename? name g.entryDeclaration.words =
      some (g.renamed name).entryDeclaration.words :=
    Code.rename?_entryPoint hname (hl _ (by simp [hinsts, entryDeclaration])) name
  rw [code_finish, code_finish, Module.renamed_code hl, Module.code, hheader, hinsts,
    instructions_finished_renamed hg]
  simp only [List.map_append, List.map_cons, List.filterMap_append, List.filterMap_cons, hpreamble,
    hentry, hmodes, hnames, hcontents, List.nil_append, List.flatMap_def]

end Generator

/-! ## Lowered shaders -/

/-- A shader whose code is renamed. -/
def LoweredShader.renamed (name : String) (s : LoweredShader) : LoweredShader :=
  { s with shader := { s.shader with code := s.shader.code.renamed name } }

/-- The name of the entry point suits a program: it has no zero character, and all instructions of
the code are short enough to tell their lengths. -/
structure Options.NameSuits (options : Options) (p : Program) : Prop where
  noZero : '\x00' ∉ options.entryPoint.toList
  encodable : ∀ x : LoweredProgram, x.program = p → x.options = options → x.module.IsEncodable

/-- Options with another name of the entry point and without names for debuggers. -/
def Options.renamed (name : String) (options : Options) : Options :=
  { options with entryPoint := name, debugNames := false }

/-- Lowering with another name, without names for debuggers, gives the same shader with its code
renamed, or fails with the same error. -/
theorem Program.lower_renamed {p : Program} {options : Options} (h : options.NameSuits p)
    (name : String) :
    p.lower (options.renamed name) = (p.lower options).map (LoweredShader.renamed name) := by
  rw [Program.lower, Program.lower]
  rcases hstage : EntryStage.ofStage? p.stage with _ | stage
  · simp only [Generator.ofStage, hstage]
    rfl
  · have hstart : Lowering.start (.start stage (options.renamed name)) (options.renamed name) =
        (Lowering.start (.start stage options) options).renamed name := by
      rw [Lowering.renamed, Lowering.start, Lowering.start, Generator.renamed_start]
      rfl
    simp only [Generator.ofStage, hstage, hstart, Lowering.processAll_renamed]
    rcases hrun : (Lowering.start (.start stage options) options).processAll p.instructions.items
      with e | l
    · rfl
    · -- the generator at the end of the run is the one behind all instructions
      have hlower : p.lower options = .ok l.finish := by
        simp only [Program.lower, Generator.ofStage, hstage, hrun]
      let x : LoweredProgram := ⟨p, options, l.finish, hlower⟩
      have hxstage : x.stage = stage :=
        Option.some.inj ((Option.some_get x.isSome_ofStage?).trans hstage)
      obtain ⟨hitems, hxrun, -⟩ := x.run_eq
      rw [hxstage, ← hitems] at hxrun
      replace hxrun : (Lowering.start (.start stage options) options).run p.instructions.items = _ :=
        hxrun
      rw [Lowering.processAll_eq_run, hxrun] at hrun
      have hgenerator : x.generator = l.generator :=
        congrArg Lowering.generator (Except.ok.inj hrun)
      have hcode := Generator.code_renamed x.wellFormed_generator (h.encodable x rfl rfl)
        (x.entryName_generator ▸ h.noZero) name
      rw [hgenerator] at hcode
      change Except.ok (LoweredShader.mk (l.generator.renamed name).finish l.diagnostics) =
        .ok ⟨{ l.generator.finish with code := l.generator.finish.code.renamed name }, l.diagnostics⟩
      rw [hcode]
      rfl

/-- Naming options do not influence the code: lowering with any two choices fails with the same
error, or succeeds with the same slots and diagnostics, and with the same code up to names. -/
theorem Program.lower_names {p : Program} {a b : Options} (hstrict : a.strict = b.strict)
    (ha : a.NameSuits p) (hb : b.NameSuits p) :
    (∃ e, p.lower a = .error e ∧ p.lower b = .error e) ∨
    (∃ s t, p.lower a = .ok s ∧ p.lower b = .ok t ∧ s.shader.stage = t.shader.stage ∧
      s.shader.slots = t.shader.slots ∧ s.diagnostics = t.diagnostics ∧
      ∀ name, s.shader.code.renamed name = t.shader.code.renamed name) := by
  have heq (name : String) : (p.lower a).map (LoweredShader.renamed name) =
      (p.lower b).map (LoweredShader.renamed name) := by
    have hoptions : a.renamed name = b.renamed name := by
      rw [Options.renamed, Options.renamed, hstrict]
    rw [← lower_renamed ha, ← lower_renamed hb, hoptions]
  rcases hlowerA : p.lower a with e | s <;> rcases hlowerB : p.lower b with e' | t <;>
    rw [hlowerA, hlowerB] at heq
  · exact .inl ⟨e, rfl, (heq "").symm⟩
  · cases heq ""
  · cases heq ""
  · have hrenamed (name : String) : s.renamed name = t.renamed name := Except.ok.inj (heq name)
    have hshader (name : String) := congrArg LoweredShader.shader (hrenamed name)
    have hstage := congrArg Shader.stage (hshader "")
    have hslots := congrArg Shader.slots (hshader "")
    have hdiagnostics := congrArg LoweredShader.diagnostics (hrenamed "")
    exact .inr ⟨s, t, rfl, rfl, hstage, hslots, hdiagnostics,
      fun name => congrArg Shader.code (hshader name)⟩

/-- Another name of the entry point, and no names for debuggers. -/
def shadeOptions : Options := ⟨"shade", false, false⟩

/-- A textured shader has the same code under both names. -/
theorem litTexture_names : ∃ s t, Program.litTexture.lower .standard = .ok s ∧
    Program.litTexture.lower shadeOptions = .ok t ∧ s.shader.code ≠ t.shader.code ∧
    ∀ name, s.shader.code.renamed name = t.shader.code.renamed name := by
  have hsuits (options : Options) (hzero : '\x00' ∉ options.entryPoint.toList)
      (hencodable : ((Generator.start .pixel options).handledAll
        Program.litTexture.instructionList).finished.IsEncodable) :
      options.NameSuits .litTexture := by
    refine ⟨hzero, fun x hprogram hoptions => ?_⟩
    obtain ⟨program, options', result, lowered⟩ := x
    obtain rfl : program = .litTexture := hprogram
    obtain rfl : options' = options := hoptions
    exact hencodable
  have hne : (Program.litTexture.lower .standard).map (·.shader.code) ≠
      (Program.litTexture.lower shadeOptions).map (·.shader.code) := by decide +kernel
  have hok : (Program.litTexture.lower .standard).toOption.isSome := by decide +kernel
  have hstrict : Options.standard.strict = shadeOptions.strict := rfl
  rcases Program.lower_names hstrict (hsuits .standard (by decide +kernel) (by decide +kernel))
    (hsuits shadeOptions (by decide +kernel) (by decide +kernel)) with
    ⟨e, h, -⟩ | ⟨s, t, hs, ht, -, -, -, hcode⟩
  · rw [h] at hok
    cases hok
  · rw [hs, ht] at hne
    exact ⟨s, t, hs, ht, fun h => hne (congrArg Except.ok h), hcode⟩

end ShaderLowering
