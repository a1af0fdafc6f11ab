import ShaderLowering.Proofs.Lowering.LoweredProgram
import ShaderLowering.Proofs.Spirv.Framing

/-!
# How the code of lowered programs is framed

Almost all instructions of a lowered shader are short, whatever the program. Two are as long as the
caller wants: both hold the name of the entry point, and the declaration of the entry point lists the
interface variables as well. So the code is framed well exactly if that declaration fits sixteen bits
(`LoweredProgram.isEncodable_iff`). Nothing checks that it does.
-/

namespace ShaderLowering

open Spirv

namespace Generator

variable {g g' : Generator} {name : String} {events : List Event}

/-! ## Short instructions -/

/-- The name of the entry point for debuggers. -/
def nameDeclaration (name : String) : Inst := .effect .name (3 :: stringWords name)

/-- Declarations, decorations and names are short, except for the name of the entry point. -/
structure Concise (g : Generator) (name : String) : Prop where
  names : ∀ i ∈ g.module.names.toList, i.IsShort ∨ i = nameDeclaration name
  annotations : ∀ i ∈ g.module.annotations.toList, i.IsShort
  globals : ∀ i ∈ g.module.globals.toList, i.IsShort

namespace Concise

theorem of_adds (h : g.Concise name) (ha : g.module.Adds g'.module) : g'.Concise name :=
  ⟨ha.names.forall_mem h.names fun _ => .inl, ha.annotations.forall_mem h.annotations fun _ hi => hi.1,
    ha.globals.forall_mem h.globals fun _ => id⟩

/-- A step adds short instructions. -/
theorem step (h : g.Concise name) (hs : g.Step events g') : g'.Concise name := by
  cases hs with
  | calm _ adds => exact h.of_adds adds
  | temps _ _ _ _ _ adds => exact h.of_adds adds
  | interface | interfaceAgain | resourceAgain => exact ⟨h.names, h.annotations, h.globals⟩
  | @resource r =>
    refine ⟨h.names, ?_, h.globals⟩
    rw [r.annotations_decorateBinding]
    intro i hi
    rcases List.mem_append.1 hi with hi | hi
    · exact h.annotations i hi
    · simp only [DeclaredResource.decorations, List.mem_cons, List.not_mem_nil, or_false] at hi
      rcases hi with rfl | rfl <;> exact Inst.isShort_of_operands (by simp)
  | access _ sections =>
    obtain ⟨hnames, hglobals, hannotations⟩ := sections
    exact ⟨hnames ▸ h.names, hannotations ▸ h.annotations, hglobals ▸ h.globals⟩

theorem steps (h : g.Concise name) (hs : g.Steps events g') : g'.Concise name := by
  induction hs with
  | refl => exact h
  | step before last ih => exact ih.step last

end Concise

theorem concise_start (stage : EntryStage) (options : Options) :
    (Generator.start stage options).Concise options.entryPoint := by
  rw [start_eq]
  refine ⟨fun i hi => ?_, nofun, fun i hi => ?_⟩
  · simp only [startModule] at hi
    split at hi
    · exact .inr (List.mem_singleton.1 hi)
    · cases hi
  · simp only [startModule, List.mem_cons, List.not_mem_nil, or_false] at hi
    rcases hi with rfl | rfl <;> exact Inst.isShort_of_operands (by simp)

/-- What stands before the declaration of the entry point. -/
def preamble (g : Generator) : List Inst :=
  g.closed.capabilities.toList.map (fun c => .effect .capability [c.number]) ++
    (g.closed.imports ++
      [.effect .memoryModel [g.closed.memory.1.number, g.closed.memory.2.number]])

theorem instructions_finished_eq_preamble (hg : g.WellFormed) :
    g.finished.instructions = g.preamble ++ g.entryDeclaration ::
      (g.entryModes ++ (g.closed.names.toList ++ (g.closed.annotations.toList ++
        (g.closed.globals.toList ++ (g.closed.body.toList ++ [.effect .functionEnd []]))))) := by
  rw [instructions_finished hg, preamble]
  simp

/-- What stands before the declaration of the entry point is short and binds nothing. -/
theorem short_of_mem_preamble {i : Inst} (hi : i ∈ g.preamble) : i.IsShort ∧ i.binding? = none := by
  simp only [preamble, List.mem_append, List.mem_map, List.mem_singleton] at hi
  rcases hi with ⟨c, -, rfl⟩ | hi | rfl
  · exact ⟨Inst.isShort_of_operands (by simp), rfl⟩
  · obtain ⟨id, rfl⟩ := op_of_mem_imports hi
    exact ⟨Inst.isShort_of_operands (by decide +kernel), rfl⟩
  · exact ⟨Inst.isShort_of_operands (by simp), rfl⟩

/-- The instructions of a finished module are short, except for those that hold the name of the entry
point. -/
theorem Concise.finished (h : g.Concise name) (hg : g.WellFormed) {i : Inst}
    (hi : i ∈ g.finished.instructions) :
    i.IsShort ∨ i = nameDeclaration name ∨ i = g.entryDeclaration := by
  obtain ⟨-, hm, -⟩ := hg.closed
  have hsections : g.closed.names = g.module.names ∧ g.closed.annotations = g.module.annotations ∧
      g.closed.globals = g.module.globals := by
    rw [Generator.closed]
    split <;> exact ⟨rfl, rfl, rfl⟩
  obtain ⟨hnames, hannotations, hglobals⟩ := hsections
  rw [instructions_finished_eq_preamble hg, hnames, hannotations, hglobals] at hi
  simp only [List.mem_append, List.mem_cons, List.not_mem_nil, or_false] at hi
  rcases hi with hi | rfl | hi | hi | hi | hi | hi | rfl
  · exact .inl (short_of_mem_preamble hi).1
  · exact .inr (.inr rfl)
  · rw [entryModes] at hi
    split at hi
    · cases hi
    · rw [List.mem_singleton.1 hi]
      exact .inl (Inst.isShort_of_operands (by simp))
    · rw [List.mem_singleton.1 hi]
      exact .inl (Inst.isShort_of_operands (by simp))
  · exact (h.names i hi).imp_right .inl
  · exact .inl (h.annotations i hi)
  · exact .inl (h.globals i hi)
  · obtain ⟨before, -, htyped⟩ := hm.typed_of_mem hi
    exact .inl htyped.isShort
  · exact .inl (Inst.isShort_of_operands (by simp))

/-- How many words the declaration of the entry point has. -/
theorem length_entryDeclaration (g : Generator) :
    g.entryDeclaration.words.length = 4 + g.entryName.utf8ByteSize / 4 + g.interfaces.length := by
  simp only [entryDeclaration, Inst.effect, Inst.words, Inst.tailWords, Option.toList_none,
    List.nil_append, List.length_cons, List.length_append, length_stringWords, interfaceIds,
    List.length_map]
  omega

end Generator

namespace LoweredProgram

variable (x : LoweredProgram)

/-- How many words the declaration of the entry point takes: three before the name, one more than a
word for every four bytes of it, and one for each input and output register. -/
def entryWords : Nat :=
  4 + x.options.entryPoint.utf8ByteSize / 4 +
    (interfaceRegisters x.events).length

theorem length_entryDeclaration : x.generator.entryDeclaration.words.length = x.entryWords := by
  obtain ⟨traces, htraces, hfollows⟩ := x.follows_generator
  rw [Generator.length_entryDeclaration, x.entryName_generator, hfollows.length_interfaces,
    ← Generator.interfaceRegisters_filter, htraces.declarations, Generator.interfaceRegisters_filter,
    entryWords, events_eq]

/-- The lengths of all instructions can be written exactly if that of the declaration of the entry
point can. -/
theorem isEncodable_iff : x.module.IsEncodable ↔ x.entryWords ≤ 0xffff := by
  have hw := x.wellFormed_generator
  obtain ⟨traces, -, hsteps⟩ := (Generator.start x.stage x.options).exists_traces x.instructions
  have hconcise := (Generator.concise_start x.stage x.options).steps hsteps
  constructor
  · intro h
    rw [← length_entryDeclaration]
    refine h _ ?_
    rw [module, Generator.instructions_finished_eq_preamble hw]
    simp
  · intro h i hi
    rcases hconcise.finished hw hi with hshort | rfl | rfl
    · exact hshort.trans (by decide)
    · -- the name alone takes fewer words than the declaration that holds it
      have hname : (Generator.nameDeclaration x.options.entryPoint).words.length =
          3 + x.options.entryPoint.utf8ByteSize / 4 := by
        simp only [Generator.nameDeclaration, Inst.effect, Inst.words, Inst.tailWords,
          Option.toList_none, List.nil_append, List.length_cons, length_stringWords]
        omega
      rw [entryWords] at h
      omega
    · exact x.length_entryDeclaration.trans_le h

/-- Where the length of the declaration of the entry point is told as zero, the code cannot be read
back, and nobody finds a binding in it. -/
theorem code_of_mod_eq_zero (h : x.entryWords % 0x10000 = 0) :
    Code.ofBytes x.shader.code.toBytes = .error
        (.malformed (headerWords + (x.generator.preamble.flatMap Inst.words).length)) ∧
      x.shader.code.bindings = [] := by
  have hw := x.wellFormed_generator
  have hinsts := Generator.instructions_finished_eq_preamble hw
  have hlength : x.generator.entryDeclaration.words.length % 0x10000 = 0 := by
    rw [x.length_entryDeclaration, h]
  have hshort : ∀ i ∈ x.generator.preamble, i.words.length ≤ 0xffff := fun i hi =>
    (Generator.short_of_mem_preamble hi).1.trans (by decide)
  obtain ⟨hbytes, hblocks⟩ := Module.code_of_mod_eq_zero hinsts hshort hlength
  rw [x.code_eq]
  refine ⟨hbytes, ?_⟩
  -- all bindings stand behind the declaration of the entry point
  rw [Code.bindings, module, hblocks, List.filterMap_map, List.filterMap_eq_nil_iff]
  intro i hi
  have hlaid : i.IsLaidOut := hw.laidOut i (hinsts ▸ List.mem_append_left _ hi)
  exact (Code.binding?_words hlaid (Nat.lt_succ_of_le (hshort i hi))).trans
    (Generator.short_of_mem_preamble hi).2

end LoweredProgram

/-- Bytes that can be lowered come to code whose instructions tell their lengths exactly if the
declaration of the entry point fits sixteen bits; then the code is read back from its bytes. Where the
length of that declaration is a multiple of `2 ^ 16`, the code is not, and its bindings are lost. -/
theorem lowerBytes_framing {bytes : List UInt8} {options : Options} {s : LoweredShader}
    (h : lowerBytes bytes options = .ok s) :
    ∃ x : LoweredProgram, Program.ofBytes bytes = .ok x.program ∧ x.options = options ∧
      x.result = s ∧
      s.shader.code.words = x.module.header ++ x.module.instructions.flatMap Inst.words ∧
      ((∀ i ∈ x.module.instructions, Code.wordCount (i.words.headD 0) = i.words.length) ↔
        x.entryWords ≤ 0xffff) ∧
      (x.entryWords ≤ 0xffff → Code.ofBytes s.shader.code.toBytes = .ok s.shader.code) ∧
      (x.entryWords % 0x10000 = 0 → s.shader.code.bindings = [] ∧
        ∃ offset, Code.ofBytes s.shader.code.toBytes = .error (.malformed offset)) := by
  rw [lowerBytes] at h
  rcases hp : Program.ofBytes bytes with e | p <;> rw [hp] at h
  · cases h
  · let x : LoweredProgram := ⟨p, options, s, h⟩
    have hcode : s.shader.code = x.module.code := x.code_eq
    refine ⟨x, rfl, rfl, rfl, congrArg Code.words hcode, ?_, fun hwords => ?_, fun hwords => ?_⟩
    · rw [← x.isEncodable_iff]
      exact forall₂_congr fun i _ => i.wordCount_words_iff
    · rw [hcode]
      exact Module.ofBytes_toBytes (x.isEncodable_iff.2 hwords)
    · obtain ⟨hbytes, hbindings⟩ := x.code_of_mod_eq_zero hwords
      exact ⟨hbindings, _, hbytes⟩

/-- A vertex program that declares a constant buffer and returns. -/
def declareAndReturn : Program :=
  ⟨.vertex, ⟨4, 0⟩, [0x00010040, 7, 0x04000059, 0x00208e46, 0, 1, 0x0100003e]⟩

/-- A name of a number of bytes. -/
def nameOfSize (n : Nat) : String := String.ofList (List.replicate n 'a')

theorem utf8ByteSize_nameOfSize (n : Nat) : (nameOfSize n).utf8ByteSize = n := by
  rw [nameOfSize, String.utf8ByteSize_ofList]
  induction n with
  | zero => rfl
  | succ n ih =>
    rw [List.replicate_succ, String.utf8Len_cons, ih]
    rfl

theorem ofBytes_declareAndReturn :
    Program.ofBytes declareAndReturn.toBytes = .ok declareAndReturn := by
  rw [Program.ofBytes, Program.toBytes, bytesWords?_wordBytes]
  rfl

theorem lowerBytes_declareAndReturn (options : Options) :
    lowerBytes declareAndReturn.toBytes options = declareAndReturn.lower options :=
  Program.lowerBytes_of_ofBytes ofBytes_declareAndReturn options

/-- With an entry point of an ordinary name the code is read back. -/
theorem declareAndReturn_framing :
    ∃ s, lowerBytes declareAndReturn.toBytes .standard = .ok s ∧
      Code.ofBytes s.shader.code.toBytes = .ok s.shader.code := by
  have hsome : (declareAndReturn.lower .standard).toOption.isSome := by decide +kernel
  have hwords : 4 + Options.standard.entryPoint.utf8ByteSize / 4 +
      (interfaceRegisters ((Generator.start .vertex .standard).completedEvents
        (declareAndReturn.instructionList.take declareAndReturn.instructionList.length))).length ≤
      0xffff := by
    decide +kernel
  have hlower := (lowerBytes_declareAndReturn .standard).trans
    (LoweredProgram.ofSome _ _ hsome).lowered
  obtain ⟨⟨program, options, result, lowered⟩, hprogram, hoptions, -, -, -, hframed, -⟩ :=
    lowerBytes_framing hlower
  obtain rfl : declareAndReturn = program :=
    Except.ok.inj (ofBytes_declareAndReturn.symm.trans hprogram)
  obtain rfl : options = .standard := hoptions
  exact ⟨_, hlower, hframed hwords⟩

/-- A name of 262128 bytes for the entry point. -/
def overlongOptions : Options := ⟨nameOfSize 262128, false, false⟩

/-- With it the code is not read back: the declaration of the entry point has `2 ^ 16` words, and
tells a length of zero. -/
theorem declareAndReturn_not_framed :
    ∃ x : LoweredProgram,
      lowerBytes declareAndReturn.toBytes overlongOptions = .ok x.result ∧
      (∃ i ∈ x.module.instructions, i.words.length = 0x10000 ∧
        Code.wordCount (i.words.headD 0) = 0) ∧
      Code.ofBytes x.shader.code.toBytes = .error (.malformed 10) := by
  have hsome : (declareAndReturn.lower overlongOptions).toOption.isSome := by decide +kernel
  have hinterfaces : interfaceRegisters ((Generator.start .vertex overlongOptions).completedEvents
      (declareAndReturn.instructionList.take declareAndReturn.instructionList.length)) = [] := by
    decide +kernel
  have hpreamble : (((Generator.start .vertex overlongOptions).handledAll
      declareAndReturn.instructionList).preamble.flatMap Inst.words).length = 5 := by
    decide +kernel
  let x : LoweredProgram := .ofSome declareAndReturn overlongOptions hsome
  have hname : x.options.entryPoint.utf8ByteSize = 262128 := utf8ByteSize_nameOfSize 262128
  have hregisters : interfaceRegisters x.events = [] := hinterfaces
  have hoffset : (x.generator.preamble.flatMap Inst.words).length = 5 := hpreamble
  have hwords : x.entryWords = 0x10000 := by
    rw [LoweredProgram.entryWords, hname, hregisters]
    rfl
  have hentry := x.length_entryDeclaration
  obtain ⟨hbytes, -⟩ := x.code_of_mod_eq_zero (by rw [hwords])
  rw [hwords] at hentry
  rw [hoffset] at hbytes
  refine ⟨x, (lowerBytes_declareAndReturn _).trans x.lowered, ⟨_, ?_, hentry, ?_⟩, hbytes⟩
  · rw [LoweredProgram.module,
      Generator.instructions_finished_eq_preamble x.wellFormed_generator]
    exact List.mem_append_right _ (List.mem_cons_self ..)
  · rw [Inst.wordCount_words, hentry]

end ShaderLowering
