import ShaderLowering.Proofs.Lowering.CodeKept
import ShaderLowering.Proofs.Lowering.Computations
import ShaderLowering.Proofs.Lowering.WellFormedCode

/-!
# Lowering keeps the meaning of programs

The shader of a covered program computes what the program does: if the variables hold what the
registers do at the start, they do so again where the program returns. Instruction by instruction, the
code that a handler emits does to the memory what the instruction does to the registers
(`handle_simulates`); declarations do nothing to either. Code behind the first return is there, but it
is not reached.
-/

namespace ShaderLowering

open Spirv

variable {P : Platform} {l : Launch P} {g G : Generator} {M : Memory P} {E : Environment P}
variable {R : Registers} {i : Instruction}

/-! ## One instruction -/

/-- Only instructions that are executed compute, and returns do not. -/
theorem Instruction.step_eq_self (hi : i.opcode.isExecuted = false ∨ i.opcode = .ret) :
    i.step E R = R := by
  have hnone : i.compute? E R = none := by
    rw [compute?]
    split
    case h_10 => rfl
    all_goals
      next hop _ =>
      rw [hop] at hi
      rcases hi with hi | hi
      · exact (Bool.noConfusion (hi : true = false))
      · cases hi
  rw [step, hnone]
  split
  · next h => cases h
  · rfl

theorem handle_ret (hi : i.opcode = .ret) : g.handle i = ⟨g.returned, .ok []⟩ := by
  rw [Generator.handle, Lower.instruction_ret hi, Lower.run_generate, Generate.run_ret]
  rfl

/-- A return leaves the memory as it is. -/
theorem reaches_returned (hg : g.WellFormed) (hM : l.Reaches g.module M) :
    l.Reaches g.returned.module M := by
  have hopened := (Generate.performs_openBlock hg hM).reaches
  rw [Generate.run_openBlock] at hopened
  exact hopened.idle (g.opened.module.grows_withCode _) (Array.toList_push ..) nofun rfl

/-- The handler of a covered instruction reports nothing, and what is done to the memory is what the
instruction does to the registers; any other handler leaves both alone. -/
theorem handle_simulates (hg : g.WellFormed) (hG : G.WellFormed)
    (hfit : G.module.bound < UInt32.size) (hgrows : (g.handle i).generator.Grows G)
    (hi : i.opcode.isExecuted = true → i.isCovered g = true) (hR : Represents G E R M)
    (hM : l.Reaches g.module M) :
    (i.opcode.isExecuted = true → (g.handle i).outcome = .ok []) ∧
      ∃ M', Represents G E (i.step E R) M' ∧ l.Reaches (g.handle i).generator.module M' := by
  have hgrows' := (hg.handle i).1
  by_cases hexecuted : i.opcode.isExecuted = true
  · by_cases hret : i.opcode = .ret
    · rw [handle_ret hret, Instruction.step_eq_self (.inr hret)]
      exact ⟨fun _ => rfl, M, hR, reaches_returned hg hM⟩
    -- all other instructions that are executed write one register
    · obtain ⟨r, id, mask, value, hstep, hid, hp⟩ := Lower.simulates_instruction (s := ⟨g, []⟩)
        (hR.mono (hgrows'.trans hgrows)) hg hM (hi hexecuted) hret
      obtain ⟨⟨u, hok, -⟩, hgaps, hM'⟩ := hp
      refine ⟨fun _ => ?_, _, ?_, hM'⟩
      · have hrun : (Lower.instruction i).run ⟨g, []⟩ =
            (.ok u, ((Lower.instruction i).run ⟨g, []⟩).2) := Prod.ext hok rfl
        rw [Generator.handle, hrun]
        exact congrArg Except.ok hgaps
      · rw [hstep]
        exact hR.write hG hfit ((hgrows'.trans hgrows).registerId? hid) mask value
  · have hfalse : i.opcode.isExecuted = false := Bool.not_eq_true _ ▸ hexecuted
    refine ⟨fun h => absurd h hexecuted, M, ?_, ?_⟩
    · rw [Instruction.step_eq_self (.inl hfalse)]
      exact hR
    · exact hM.of_body hgrows'.module (Lower.leavesCode_instruction i hfalse ⟨g, []⟩)

/-! ## Many instructions -/

namespace Generator

variable {instructions before behind : List Instruction}

theorem WellFormed.handledAll (hg : g.WellFormed) (instructions : List Instruction) :
    g.Grows (g.handledAll instructions) ∧ (g.handledAll instructions).WellFormed := by
  induction instructions generalizing g with
  | nil => exact ⟨.refl g, hg⟩
  | cons i instructions ih =>
    obtain ⟨hgrows, hg'⟩ := hg.handle i
    obtain ⟨hgrows', hg''⟩ := ih hg'
    exact ⟨hgrows.trans hgrows', hg''⟩

theorem handledAll_append (g : Generator) (before behind : List Instruction) :
    g.handledAll (before ++ behind) = (g.handledAll before).handledAll behind :=
  List.foldl_append ..

theorem covers_append (g : Generator) (before behind : List Instruction) :
    g.covers (before ++ behind) = (g.covers before && (g.handledAll before).covers behind) := by
  induction before generalizing g with
  | nil => rfl
  | cons i before ih =>
    rw [List.cons_append, covers, covers, ih, Bool.and_assoc]
    rfl

end Generator

/-- Instructions that are handled one after the other are accepted where they are covered, and the
code does to the memory what they do to the registers. -/
theorem handledAll_simulates (hg : g.WellFormed) (hG : G.WellFormed)
    (hfit : G.module.bound < UInt32.size) {instructions : List Instruction}
    (hgrows : (g.handledAll instructions).Grows G) (hc : g.covers instructions = true)
    (hR : Represents G E R M) (hM : l.Reaches g.module M) :
    (∀ before i behind, instructions = before ++ i :: behind → i.opcode.isExecuted = true →
      ((g.handledAll before).handle i).outcome = .ok []) ∧
    ∃ M', Represents G E (instructions.foldl (Instruction.step E) R) M' ∧
      l.Reaches (g.handledAll instructions).module M' := by
  -- the instructions before an accepted one have changed generator, registers and memory
  induction instructions generalizing g R M with
  | nil =>
    refine ⟨fun before i behind h => ?_, M, hR, hM⟩
    cases before <;> cases h
  | cons i instructions ih =>
    rw [Generator.covers, Bool.and_eq_true, Bool.or_eq_true, Bool.not_eq_true'] at hc
    obtain ⟨hi, hc⟩ := hc
    have hg' := (hg.handle i).2
    have hgrows' : (g.handle i).generator.Grows G :=
      (hg'.handledAll instructions).1.trans hgrows
    have hi (hexecuted : i.opcode.isExecuted = true) : i.isCovered g = true := by
      rcases hi with hi | hi
      · rw [hexecuted] at hi
        cases hi
      · exact hi
    obtain ⟨haccepted, M₁, hR₁, hM₁⟩ := handle_simulates hg hG hfit hgrows' hi hR hM
    obtain ⟨hall, M', hR', hM'⟩ := ih hg' hgrows hc hR₁ hM₁
    refine ⟨fun before j behind heq hj => ?_, M', hR', hM'⟩
    cases before with
    | nil =>
      obtain ⟨rfl, -⟩ := List.cons.inj heq
      exact haccepted hj
    | cons first before =>
      obtain ⟨rfl, hrest⟩ := List.cons.inj heq
      exact hall before j behind hrest hj

/-! ## Up to the first return -/

/-- Instructions up to the first return, with what follows. -/
theorem exists_returning (instructions : List Instruction) :
    ∃ before behind, instructions = before ++ behind ∧ (∀ i ∈ before, i.opcode ≠ .ret) ∧
      (∀ i, behind.head? = some i → i.opcode = .ret) ∧
      ∀ (E : Environment P) R,
        runRegisters E R instructions = before.foldl (Instruction.step E) R := by
  induction instructions with
  | nil => exact ⟨[], [], rfl, nofun, nofun, fun _ _ => rfl⟩
  | cons i instructions ih =>
    by_cases hret : i.opcode = .ret
    · refine ⟨[], i :: instructions, rfl, nofun, fun j hj => ?_, fun E R => ?_⟩
      · cases hj
        exact hret
      · rw [runRegisters, if_pos hret, List.foldl_nil]
    · obtain ⟨before, behind, heq, hbefore, hbehind, hrun⟩ := ih
      refine ⟨i :: before, behind, by rw [heq, List.cons_append], fun j hj => ?_, hbehind,
        fun E R => ?_⟩
      · rcases List.mem_cons.1 hj with rfl | hj
        · exact hret
        · exact hbefore j hj
      · rw [runRegisters, if_neg hret, List.foldl_cons, hrun]

/-- Instructions that do not return go on with the open block. -/
theorem Generator.WellFormed.continues_handledAll (hg : g.WellFormed)
    {instructions : List Instruction} (h : ∀ i ∈ instructions, i.opcode ≠ .ret) :
    g.Continues (g.handledAll instructions) := by
  induction instructions generalizing g with
  | nil => exact .refl g
  | cons i instructions ih =>
    have hkeeps := Lower.keeps_instruction (s := ⟨g, []⟩) i (h i (List.mem_cons_self ..)) hg
    exact Generator.Continues.trans hkeeps.continues
      (ih hkeeps.wellFormed fun j hj => h j (List.mem_cons_of_mem _ hj))

section

variable {stage : EntryStage} {options : Options}

/-- The block that a shader starts with does not hold a return while it is open. -/
theorem body_of_continues (hg : g.WellFormed) (hc : (Generator.start stage options).Continues g) :
    (∀ i ∈ g.module.body.toList, i.op ≠ .functionReturn) ∧ g.blockOpen = true := by
  have hmodule : (Generator.start stage options).module = Generator.startModule options := by
    rw [Generator.start_eq]
  have hopen : (openBlock (Generator.start stage options).module.body.toList).isSome := by
    rw [hmodule]
    rfl
  refine ⟨fun i hi => ?_, hg.blockOpen.trans (hc.continues.isOpen hopen)⟩
  obtain ⟨more, hmore, hinner⟩ := hc.continues.inner hopen
  rw [hmore, hmodule] at hi
  rcases List.mem_append.1 hi with hi | hi
  · simp only [Generator.startModule, List.mem_cons, List.not_mem_nil, or_false] at hi
    rcases hi with rfl | rfl <;> (intro h; cases h)
  · exact (hinner i hi).2.1

/-- The code of a finished shader returns where the program does, or behind all of it. -/
theorem exists_return (stage : EntryStage) (options : Options) {before behind : List Instruction}
    (hbefore : ∀ i ∈ before, i.opcode ≠ .ret)
    (hbehind : ∀ i, behind.head? = some i → i.opcode = .ret) :
    ∃ more, ((Generator.start stage options).handledAll (before ++ behind)).closed.body.toList =
      ((Generator.start stage options).handledAll before).module.body.toList ++
        .effect .functionReturn [] :: more := by
  have hstart := Generator.wellFormed_start stage options
  obtain ⟨hgrows, hg⟩ := hstart.handledAll before
  obtain ⟨-, hopen⟩ := body_of_continues hg (hstart.continues_handledAll hbefore)
  rw [Generator.handledAll_append]
  generalize (Generator.start stage options).handledAll before = g at hg hopen
  -- the block is closed at the end, or by the first return
  cases behind with
  | nil =>
    refine ⟨[], ?_⟩
    rw [Generator.handledAll, List.foldl_nil, Generator.closed, if_pos hopen]
    exact Array.toList_push ..
  | cons i behind =>
    have hret := hbehind i rfl
    have hgenerator : g.handledAll (i :: behind) = g.returned.handledAll behind := by
      rw [Generator.handledAll, List.foldl_cons, handle_ret hret]
      rfl
    have hg' := hg.returned.2
    obtain ⟨more, hmore⟩ :=
      ((hg'.handledAll behind).1.module.trans (hg'.handledAll behind).2.closed.1).body
    refine ⟨more, ?_⟩
    have hreturned : g.returned.module.body.toList =
        g.module.body.toList ++ [.effect .functionReturn []] := by
      rw [Generator.returned, Generator.opened, if_pos hopen]
      exact Array.toList_push ..
    rw [hgenerator, ← hmore, hreturned, List.append_assoc]
    rfl

end

/-! ## Executions -/

/-- The finished module of a generator, launched with a memory. -/
def Generator.WellFormed.launch (hg : g.WellFormed) (hfit : g.module.bound < UInt32.size)
    (M : Memory P) : Launch P where
  module := g.closed
  memory := M
  globals := hg.closed.2.1.globals
  once := by
    refine (hg.closed.2.1.fresh ?_).nodup
    rw [Generator.closed]
    split <;> exact hfit

/-- Closing the block of a generator declares nothing. -/
theorem Generator.WellFormed.known_launch (hg : g.WellFormed)
    (hfit : g.module.bound < UInt32.size) (M : Memory P) :
    (hg.launch hfit M).module.known = g.module.known := by
  change g.closed.known = _
  rw [Generator.closed]
  split <;> rfl

/-- What comes before declarations and code is idle. -/
theorem Spirv.Op.idle_of_section {op : Op} (h : op.section ≠ .global) (h' : op.section ≠ .code) :
    op ≠ .store ∧ op.computes = false ∧ op ≠ .functionReturn := by
  cases op <;> first | exact absurd rfl h | exact absurd rfl h' | exact ⟨nofun, rfl, nofun⟩

/-- A shader executes its code up to the first return. -/
theorem execute_finished (hG : G.WellFormed) (hfit : G.module.bound < UInt32.size)
    {M₁ : Memory P} {m : Module} {more : List Inst} (hgrows : m.Grows G.closed)
    (hM : (hG.launch hfit M).Reaches m M₁)
    (hbody : G.closed.body.toList = m.body.toList ++ .effect .functionReturn [] :: more)
    (hnone : ∀ i ∈ m.body.toList, i.op ≠ .functionReturn) :
    State.execute ⟨fun _ => none, M⟩ G.finished.instructions = some M₁ := by
  have hprologue : ∀ i ∈ G.prologue, i.op ≠ .store ∧ i.op.computes = false ∧
      i.op ≠ .functionReturn := fun i hi =>
    Op.idle_of_section (hG.section_of_mem_prologue hi).1 (hG.section_of_mem_prologue hi).2
  have himports : ∀ i ∈ (hG.launch hfit M).module.imports,
      i.op ≠ .store ∧ i.op.computes = false := fun i hi => by
    obtain ⟨id, rfl⟩ := Generator.op_of_mem_imports hi
    exact ⟨nofun, rfl⟩
  -- no declaration returns, as it would be code then
  have hglobals : ∀ i ∈ G.closed.globals.toList, i.op ≠ .functionReturn := fun i hi hret => by
    obtain ⟨before, h⟩ := hG.closed.2.1.grounded hi
    have hsection := h.section_eq
    rw [hret] at hsection
    cases hsection
  have hinsts : G.finished.instructions =
      (G.prologue ++ (G.closed.globals.toList ++ m.body.toList)) ++
        .effect .functionReturn [] :: (more ++ [.effect .functionEnd []]) := by
    rw [Generator.instructions_finished_eq_prologue hG, hbody]
    simp only [List.append_assoc, List.cons_append]
  obtain ⟨s, hs, rfl⟩ := hM hgrows
  -- the prologue and the imports are idle, so the run is that of the launch
  have hrun : State.run ⟨fun _ => none, M⟩
      (G.prologue ++ (G.closed.globals.toList ++ m.body.toList)) = some s := by
    rw [Launch.state?, Module.known, List.append_assoc, State.run_append,
      State.run_of_idle himports] at hs
    rw [State.run_append, State.run_of_idle fun i hi => ⟨(hprologue i hi).1, (hprologue i hi).2.1⟩]
    exact hs
  rw [hinsts, State.execute_eq_run rfl, hrun, Option.map_some]
  intro i hi
  simp only [List.mem_append] at hi
  rcases hi with hi | hi | hi
  · exact (hprologue i hi).2.2
  · exact hglobals i hi
  · exact hnone i hi

/-! ## Programs -/

/-- A platform on which nothing can be told apart. -/
instance : Inhabited Platform where
  default :=
    { Texture := Unit, Sampler := Unit, add := fun a _ => a, mul := fun a _ => a, neg := id
      abs := id, inverseSqrt := id, clamp := fun a _ _ => a, dot := fun _ _ => 0
      sample := fun _ _ _ _ _ => 0 }

section

variable {stage : EntryStage} {options : Options} {instructions : List Instruction}

/-- The code of a shader without instructions does nothing. -/
theorem reaches_start : l.Reaches (Generator.start stage options).module l.memory := by
  intro _
  obtain ⟨s, hs, hM⟩ := l.exists_declared
  refine ⟨s, ?_, hM⟩
  have hidle : ∀ i ∈ (Generator.start stage options).module.body.toList,
      i.op ≠ .store ∧ i.op.computes = false := fun i hi => by
    simp only [Generator.start_eq, Generator.startModule, List.mem_cons, List.not_mem_nil,
      or_false] at hi
    rcases hi with rfl | rfl <;> exact ⟨(by intro h; cases h), rfl⟩
  rw [Launch.state?, State.run_append, hs]
  exact State.run_of_idle hidle

/-- The finished shader of covered instructions does to the memory what the instructions do to the
registers. -/
theorem execute_simulates
    (hfit : ((Generator.start stage options).handledAll instructions).module.bound < UInt32.size)
    (hc : (Generator.start stage options).covers instructions = true)
    (hR : Represents ((Generator.start stage options).handledAll instructions) E R M) :
    ∃ M', State.execute ⟨fun _ => none, M⟩
        ((Generator.start stage options).handledAll instructions).finished.instructions = some M' ∧
      Represents ((Generator.start stage options).handledAll instructions) E
        (runRegisters E R instructions) M' := by
  have hstart := Generator.wellFormed_start stage options
  obtain ⟨before, behind, rfl, hbefore, hbehind, hregisters⟩ := exists_returning (P := P) instructions
  obtain ⟨hgrows₁, hg₁⟩ := hstart.handledAll before
  obtain ⟨more, hbody⟩ := exists_return stage options hbefore hbehind
  have hnone := (body_of_continues hg₁ (hstart.continues_handledAll hbefore)).1
  rw [Generator.covers_append, Bool.and_eq_true] at hc
  have hgrowsG := (hg₁.handledAll behind).1
  have hG := (hg₁.handledAll behind).2
  rw [← Generator.handledAll_append] at hgrowsG hG
  have hclosed := hG.closed.1
  have hgrows := hgrowsG.module.trans hclosed
  have hM : (hG.launch hfit M).Reaches (Generator.start stage options).module M := reaches_start
  obtain ⟨-, M', hR', hM'⟩ := handledAll_simulates hstart hG hfit hgrowsG hc.1 hR hM
  refine ⟨M', execute_finished hG hfit hgrows hM' hbody hnone, ?_⟩
  rw [hregisters]
  exact hR'

/-- Executed instructions are accepted where they are covered, as registers can always be
represented. -/
theorem accepted_of_covers
    (hfit : ((Generator.start stage options).handledAll instructions).module.bound < UInt32.size)
    (hc : (Generator.start stage options).covers instructions = true) :
    ∀ before i behind, instructions = before ++ i :: behind → i.opcode.isExecuted = true →
      (((Generator.start stage options).handledAll before).handle i).outcome = .ok [] := by
  have hstart := Generator.wellFormed_start stage options
  obtain ⟨-, hG⟩ := hstart.handledAll instructions
  let G := (Generator.start stage options).handledAll instructions
  let E : Environment default :=
    { stage := G.stage, buffer := fun _ _ _ => 0, texture := fun _ => ()
      dim := fun n => ((G.resource? .shaderResource n).bind (·.dim?)).getD .unknown
      sampler := fun _ => () }
  have hdim : ∀ n d, G.resource? .shaderResource n = some d → d.dim? = some (E.dim n) := by
    intro n d hd
    obtain ⟨-, hkind, -⟩ := Generator.resource?_eq_some hd
    obtain ⟨register, slot, variableId, form⟩ := d
    cases form with
    | constantBuffer | sampler => cases hkind
    | image imageType dim sampled =>
      simp only [E, hd]
      rfl
  obtain ⟨M, hR⟩ := Represents.exists_memory hG hfit E (fun _ _ => 0) rfl hdim
  have hM : (hG.launch hfit M).Reaches (Generator.start stage options).module M := reaches_start
  exact (handledAll_simulates hstart hG hfit (.refl G) hc hR hM).1

end

namespace Lowering

/-- A run over instructions that are accepted ends with the generator behind all of them. -/
theorem run_of_accepted {l : Lowering} {instructions : List Instruction}
    (h : ∀ before i behind, instructions = before ++ i :: behind → ∃ gaps,
      ((l.generator.handledAll before).handle i).outcome = .ok gaps ∧
        (l.strict = true → gaps = [])) :
    (l.run (instructions.map .ok)).1 = .ok () := by
  induction instructions generalizing l with
  | nil => rfl
  | cons i instructions ih =>
    obtain ⟨gaps, hgaps, hstrict⟩ := h [] i instructions rfl
    replace hgaps : (l.generator.handle i).outcome = .ok gaps := hgaps
    rw [List.map_cons, run]
    rcases l.process_cases i with ⟨f, hf, -⟩ | ⟨gap, rest, hgap, hs, -⟩ | ⟨rest, -, -, hp⟩
    · rw [hgaps] at hf
      cases hf
    · rw [hgaps] at hgap
      cases hgap
      cases hstrict hs
    · rw [hp]
      refine ih fun before j behind heq => ?_
      exact h (i :: before) j behind (by rw [heq, List.cons_append])

/-- A run that ends has handled all instructions. -/
theorem generator_run {l : Lowering} {instructions : List Instruction}
    (h : (l.run (instructions.map .ok)).1 = .ok ()) :
    (l.run (instructions.map .ok)).2.generator = l.generator.handledAll instructions := by
  induction instructions generalizing l with
  | nil => rfl
  | cons i instructions ih =>
    rw [List.map_cons, run] at h ⊢
    have hgenerator := l.generator_process i
    rcases hp : l.process i with ⟨e | u, l'⟩ <;> rw [hp] at h hgenerator
    · cases h
    · replace hgenerator : l'.generator = (l.generator.handle i).generator := hgenerator
      rw [Generator.handledAll, List.foldl_cons, ← hgenerator]
      exact ih h

end Lowering

namespace Program

/-- The instructions of a program that can be read. -/
def instructionList (p : Program) : List Instruction :=
  p.instructions.items.filterMap Except.toOption

theorem items_eq_map {p : Program} (h : p.instructions.items.all (·.isOk) = true) :
    p.instructions.items = p.instructionList.map .ok := by
  rw [instructionList]
  generalize p.instructions.items = items at h
  induction items with
  | nil => rfl
  | cons item items ih =>
    rw [List.all_cons, Bool.and_eq_true] at h
    cases item with
    | error e => cases h.1
    | ok i =>
      have hrest := ih h.2
      have hfirst : (Except.ok i : Except DecodeError Instruction).toOption = some i := rfl
      rw [List.filterMap_cons_some hfirst, List.map_cons, ← hrest]

/-- A readable program whose executed instructions are covered has them all accepted without a fault
or gap, so it is lowered if its declarations are accepted as well; and its shader executes, on any
platform, to what the program makes of the registers. -/
theorem lower_preserves_meaning {p : Program} {options : Options} {stage : EntryStage}
    (hstage : EntryStage.ofStage? p.stage = some stage)
    (hread : p.instructions.items.all (·.isOk) = true)
    (hc : (Generator.start stage options).covers p.instructionList = true)
    (hfit : ((Generator.start stage options).handledAll p.instructionList).module.bound <
      UInt32.size) :
    (∀ before i behind, p.instructionList = before ++ i :: behind → i.opcode.isExecuted = true →
      (((Generator.start stage options).handledAll before).handle i).outcome = .ok []) ∧
    ((∀ before i behind, p.instructionList = before ++ i :: behind → i.opcode.isExecuted = false →
      ∃ gaps, (((Generator.start stage options).handledAll before).handle i).outcome = .ok gaps ∧
        (options.strict = true → gaps = [])) → ∃ s, p.lower options = .ok s) ∧
    ∀ s, p.lower options = .ok s → ∃ m, p.module? options = some m ∧ s.shader.code = m.code ∧
      (m.IsEncodable → s.shader.code.decoded? = some m.instructions) ∧
      ∀ (P : Platform) (E : Environment P) R M,
        Represents ((Generator.start stage options).handledAll p.instructionList) E R M →
        ∃ M', State.execute ⟨fun _ => none, M⟩ m.instructions = some M' ∧
          Represents ((Generator.start stage options).handledAll p.instructionList) E
            (runRegisters E R p.instructionList) M' := by
  have hitems := items_eq_map hread
  have haccepted := accepted_of_covers hfit hc
  have hg : Generator.ofStage p.stage options = .ok (.start stage options) := by
    simp only [Generator.ofStage, hstage]
  refine ⟨haccepted, fun hdeclared => ?_, fun s hs => ?_⟩
  · have hall : ∀ before i behind, p.instructionList = before ++ i :: behind → ∃ gaps,
        (((Generator.start stage options).handledAll before).handle i).outcome = .ok gaps ∧
          (options.strict = true → gaps = []) := by
      intro before i behind heq
      by_cases hexecuted : i.opcode.isExecuted = true
      · exact ⟨[], haccepted before i behind heq hexecuted, fun _ => rfl⟩
      · exact hdeclared before i behind heq (Bool.not_eq_true _ ▸ hexecuted)
    have hrun := Lowering.run_of_accepted (l := .start (.start stage options) options) hall
    rw [lower_eq_run, hg, hitems]
    rcases hr : (Lowering.start (.start stage options) options).run (p.instructionList.map .ok)
      with ⟨e | u, l⟩ <;> rw [hr] at hrun
    · cases hrun
    · exact ⟨l.finish, by simp only [hr]⟩
  · rw [lower_eq_run, hg, hitems] at hs
    rcases hr : (Lowering.start (.start stage options) options).run (p.instructionList.map .ok)
      with ⟨e | u, l⟩ <;> simp only [hr] at hs
    · cases hs
    · cases hs
      have hgenerator := Lowering.generator_run (by rw [hr])
      rw [hr] at hgenerator
      replace hgenerator : l.generator = (Generator.start stage options).handledAll p.instructionList :=
        hgenerator
      obtain ⟨-, hG⟩ := (Generator.wellFormed_start stage options).handledAll p.instructionList
      rw [← hgenerator] at hG
      refine ⟨l.module, ?_, rfl, fun hlength => ?_, fun P E R M hR => ?_⟩
      · simp only [module?, hg, hitems, hr]
      · exact Module.decoded?_code hlength hG.laidOut
      · rw [Lowering.module, hgenerator]
        exact execute_simulates hfit hc hR

/-- A pixel program that reads an element of a constant buffer whose number it computes, clamps a sum
of products, samples a texture, and has code behind its first return. -/
def litTexture : Program :=
  ⟨.pixel, ⟨4, 0⟩,
    [0x00000040, 70,
     0x04000059, 0x00208e46, 0, 4, 0x0300005a, 0x00106000, 0,
     0x04001858, 0x00107000, 0, 0x00005555, 0x03001062, 0x001010f2, 0,
     0x03000065, 0x001020f2, 0, 0x02000068, 2,
     0x05000036, 0x00100012, 0, 0x00004001, 2,
     0x09000036, 0x00100072, 1, 0x86208c66, 0x000000c1, 0, 1, 0x0010000a, 0,
     0x0c002032, 0x00100032, 1, 0x00101046, 0, 0x00100a26, 1,
     0x00004002, 0, 0x3f000000, 0x3f800000, 0x40000000,
     0x07000010, 0x00102082, 0, 0x00100246, 1, 0x00101246, 0,
     0x09000045, 0x00102072, 0, 0x00101046, 0, 0x00107c66, 0, 0x00106000, 0,
     0x0100003e, 0x05000036, 0x00102012, 0, 0x00004001, 0, 0x0100003e]⟩

/-- The program is lowered, and its shader does what it does to any registers. There is a memory that
represents them. -/
theorem litTexture_preserves_meaning :
    ∃ (s : LoweredShader) (m : Module), litTexture.lower .standard = .ok s ∧
      s.shader.code.decoded? = some m.instructions ∧
      ∀ (P : Platform) (E : Environment P) R, E.stage = .pixel → (∀ n, E.dim n = .texture2D) →
        ∃ M M', Represents ((Generator.start .pixel .standard).handledAll litTexture.instructionList)
            E R M ∧
          State.execute ⟨fun _ => none, M⟩ m.instructions = some M' ∧
          Represents ((Generator.start .pixel .standard).handledAll litTexture.instructionList) E
            (runRegisters E R litTexture.instructionList) M' := by
  have hfit : ((Generator.start .pixel .standard).handledAll litTexture.instructionList).module.bound <
      UInt32.size := by decide +kernel
  have hread : litTexture.instructions.items.all (·.isOk) = true := by decide +kernel
  have hc : (Generator.start .pixel .standard).covers litTexture.instructionList = true := by
    decide +kernel
  obtain ⟨-, -, hmeaning⟩ := lower_preserves_meaning rfl hread hc hfit
  have hsome : (litTexture.lower .standard).toOption.isSome := by decide +kernel
  have hlength : ∀ m ∈ litTexture.module? .standard, m.IsEncodable := by decide +kernel
  have hwell := ((Generator.wellFormed_start .pixel .standard).handledAll
    litTexture.instructionList).2
  have hdim : ∀ d ∈ ((Generator.start .pixel .standard).handledAll
      litTexture.instructionList).resources,
      d.form.kind = .shaderResource → d.dim? = some .texture2D := by
    decide +kernel
  rcases hs : litTexture.lower .standard with e | s
  · rw [hs] at hsome
    cases hsome
  · obtain ⟨m, hm, -, hdecoded, hrun⟩ := hmeaning s hs
    refine ⟨s, m, rfl, hdecoded (hlength m hm), fun P E R hstage hE => ?_⟩
    obtain ⟨M, hM⟩ := Represents.exists_memory hwell hfit E R (hstage.trans (by decide +kernel))
      fun n d hd => by
        obtain ⟨hmem, hkind, -⟩ := Generator.resource?_eq_some hd
        rw [hE n]
        exact hdim d hmem hkind
    obtain ⟨M', hexecute, hM'⟩ := hrun P E R M hM
    exact ⟨M, M', hM, hexecute, hM'⟩

end Program

end ShaderLowering
