import ShaderLowering.Proofs.Lowering.Run

/-!
# Strict and lenient lowering

A strict and a lenient lowering of one program do the same up to the first gap. There the strict one
fails, with that gap; the lenient one records it as its first diagnostic and goes on, to an end or to
a fault of a later instruction. Without a gap, both come to the same end. The two runs start from one
generator and go in step (`agreement`), and `Program.lower_strict_lenient` reads off what follows for
whole programs.
-/

namespace ShaderLowering

namespace Lowering

/-- What a strict and a lenient run over the same items come to: either there is no gap and they end
alike, or they part at the instruction with the first gap. -/
inductive Agreement (items : List (Except DecodeError Instruction))
    (strict lenient : Except CompileError Unit × Lowering) : Prop
  /-- Nothing is left out, and the runs end alike. -/
  | alike (result : strict.1 = lenient.1) (generator : strict.2.generator = lenient.2.generator)
      (strictly : strict.2.diagnostics = []) (leniently : lenient.2.diagnostics = [])
  /-- The strict run fails with the first gap, and the lenient one goes on behind its instruction. -/
  | part (before behind : List (Except DecodeError Instruction)) (i : Instruction) (gap : Gap)
      (split : items = before ++ .ok i :: behind)
      (result : strict.1 = .error (.ofGap ⟨i.position, i.opcode, gap⟩))
      (recorded : lenient.2.diagnostics.head? = some ⟨i.position, i.opcode, gap⟩)
      (later : ∀ e, lenient.1 = .error e → ∃ item ∈ behind, e.position = itemPosition item)

/-- Runs that agree on what follows an item agree on the whole. -/
theorem Agreement.cons {items : List (Except DecodeError Instruction)}
    {strict lenient : Except CompileError Unit × Lowering} (h : Agreement items strict lenient)
    (item : Except DecodeError Instruction) : Agreement (item :: items) strict lenient := by
  rcases h with ⟨hr, hg, hs, hl⟩ | ⟨before, behind, i, gap, hsplit, hr, hrec, hlater⟩
  · exact .alike hr hg hs hl
  · exact .part (item :: before) behind i gap (by rw [hsplit, List.cons_append]) hr hrec hlater

/-- A strict and a lenient run from one generator agree. -/
theorem agreement (g : Generator) (items : List (Except DecodeError Instruction)) :
    Agreement items (run ⟨true, g, []⟩ items) (run ⟨false, g, []⟩ items) := by
  induction items generalizing g with
  | nil => exact .alike rfl rfl rfl rfl
  | cons item items ih =>
    cases item with
    | error e => exact .alike rfl rfl rfl rfl
    | ok i =>
      simp only [run]
      rcases h : (g.handle i).outcome with f | gaps
      · -- the handler fails, which hides its gaps in both runs
        have hs : process ⟨true, g, []⟩ i =
            (.error ⟨i.position, some i.opcode, f⟩, ⟨true, (g.handle i).generator, []⟩) := by
          simp only [process, h]
        have hl : process ⟨false, g, []⟩ i =
            (.error ⟨i.position, some i.opcode, f⟩, ⟨false, (g.handle i).generator, []⟩) := by
          simp only [process, h]
        rw [hs, hl]
        exact .alike rfl rfl rfl rfl
      · cases gaps with
        | nil =>
          have hs : process ⟨true, g, []⟩ i =
              (.ok (), ⟨true, (g.handle i).generator, []⟩) := by
            simp [process, h]
          have hl : process ⟨false, g, []⟩ i =
              (.ok (), ⟨false, (g.handle i).generator, []⟩) := by
            simp [process, h]
          rw [hs, hl]
          exact (ih _).cons _
        | cons gap gaps =>
          have hs : process ⟨true, g, []⟩ i = (.error (.ofGap ⟨i.position, i.opcode, gap⟩),
              ⟨true, (g.handle i).generator, []⟩) := by
            simp [process, h, CompileError.ofGap]
          have hl : process ⟨false, g, []⟩ i = (.ok (), ⟨false, (g.handle i).generator,
              ⟨i.position, i.opcode, gap⟩ :: diagnosticsOf i gaps⟩) := by
            simp [process, h, diagnosticsOf]
          rw [hs, hl]
          refine .part [] items i gap rfl rfl ?_ fun e he => position_of_run_eq_error he
          obtain ⟨more, hmore, -⟩ := diagnostics_run ⟨false, (g.handle i).generator,
            ⟨i.position, i.opcode, gap⟩ :: diagnosticsOf i gaps⟩ items
          rw [← hmore]
          rfl

end Lowering

/-! ## Whole programs -/

/-- The shader that a run over all instructions comes to, if it does not fail. -/
def Lowering.ended (run : Except CompileError Unit × Lowering) :
    Except CompileError LoweredShader :=
  run.1.map fun _ => run.2.finish

namespace Program

variable {p : Program} {options : Options}

/-- The diagnostics that lowering a program records until it ends, with or without an error. -/
def recorded (p : Program) (options : Options) : List Diagnostic :=
  match Generator.ofStage p.stage options with
  | .ok g => ((Lowering.start g options).run p.instructions.items).2.diagnostics
  | .error _ => []

theorem lower_eq_ended {g : Generator} (hg : Generator.ofStage p.stage options = .ok g) :
    p.lower options = Lowering.ended ((Lowering.start g options).run p.instructions.items) := by
  rw [lower_eq_run, hg]
  dsimp only
  rcases (Lowering.start g options).run p.instructions.items with ⟨_ | _, l⟩ <;> rfl

/-- How a strict and a lenient lowering of a program belong together, given what the lenient one
records until it ends. -/
structure LoweringsAgree (p : Program) (strict lenient : Except CompileError LoweredShader)
    (recorded : List Diagnostic) : Prop where
  /-- They succeed alike where there is no gap. -/
  success : ∀ s, strict = .ok s ↔ lenient = .ok s ∧ s.diagnostics = []
  /-- The strict one fails with a gap if it is the first that the lenient one records. -/
  gap : ∀ e d, e.fault = .coverageGap d →
    (strict = .error e ↔ recorded.head? = some d ∧ e = .ofGap d)
  /-- Behind the first gap, the lenient one ends well or fails at a later instruction. -/
  behind : ∀ d, recorded.head? = some d →
    (∃ s, lenient = .ok s ∧ s.diagnostics.head? = some d) ∨
    (∃ e i, lenient = .error e ∧ .ok i ∈ p.instructions.items ∧ i.position = d.position ∧
      i.opcode = d.opcode ∧ i.position + i.length ≤ e.position)
  /-- Any other error is common to both, and nothing is recorded before it. -/
  failure : ∀ e, (∀ d, e.fault ≠ .coverageGap d) →
    (strict = .error e ↔ lenient = .error e ∧ recorded = [])

/-- Without a gap, both lowerings come to the same. -/
theorem LoweringsAgree.of_alike {result : Except CompileError LoweredShader}
    (hfault : ∀ e, result = .error e → ∀ d, e.fault ≠ .coverageGap d)
    (hcomplete : ∀ s, result = .ok s → s.diagnostics = []) : p.LoweringsAgree result result [] where
  success s := ⟨fun h => ⟨h, hcomplete s h⟩, And.left⟩
  gap e d he := ⟨fun h => absurd he (hfault e h d), fun h => by cases h.1⟩
  behind d hd := by cases hd
  failure e _ := ⟨fun h => ⟨h, rfl⟩, And.left⟩

/-- Where the strict lowering fails with the first gap, the lenient one has more to come. -/
theorem LoweringsAgree.of_part {lenient : Except CompileError LoweredShader}
    {recorded : List Diagnostic} {d : Diagnostic} (hhead : recorded.head? = some d)
    (hrecorded : ∀ s, lenient = .ok s → s.diagnostics.head? = some d)
    (hlater : ∀ e, lenient = .error e → ∃ i, .ok i ∈ p.instructions.items ∧
      i.position = d.position ∧ i.opcode = d.opcode ∧ i.position + i.length ≤ e.position) :
    p.LoweringsAgree (.error (.ofGap d)) lenient recorded := by
  constructor
  case success =>
    refine fun s => ⟨nofun, fun ⟨h, hs⟩ => ?_⟩
    have hnone := hrecorded s h
    rw [hs] at hnone
    cases hnone
  case gap =>
    refine fun e d' he => ⟨?_, ?_⟩
    · rintro ⟨⟩
      cases he
      exact ⟨hhead, rfl⟩
    · rintro ⟨hd', rfl⟩
      rw [Option.some.inj (hhead.symm.trans hd')]
  case behind =>
    intro d' hd'
    obtain rfl := Option.some.inj (hhead.symm.trans hd')
    rcases hl : lenient with e | s
    · obtain ⟨i, hi⟩ := hlater e hl
      exact .inr ⟨e, i, rfl, hi⟩
    · exact .inl ⟨s, rfl, hrecorded s hl⟩
  case failure =>
    refine fun e he => ⟨?_, fun ⟨_, hnone⟩ => ?_⟩
    · rintro ⟨⟩
      exact absurd rfl (he d)
    · rw [hnone] at hhead
      cases hhead

/-- Lowerings agree if their runs do, as no gap is a fault of the lenient one. -/
theorem LoweringsAgree.of_agreement {strict lenient : Except CompileError Unit × Lowering}
    (h : Lowering.Agreement p.instructions.items strict lenient)
    (hfault : ∀ e, lenient.1 = .error e → ∀ d, e.fault ≠ .coverageGap d) :
    p.LoweringsAgree (Lowering.ended strict) (Lowering.ended lenient) lenient.2.diagnostics := by
  obtain ⟨result, l⟩ := lenient
  rcases h with ⟨hresult, hgenerator, hs, hl⟩ |
    ⟨before, behind, i, gap, hsplit, hresult, hhead, hlater⟩
  · have hfinish : strict.2.finish = l.finish := by
      rw [Lowering.finish, Lowering.finish, hgenerator, hs, ← hl]
    have hended : Lowering.ended strict = Lowering.ended (result, l) := by
      rw [Lowering.ended, Lowering.ended, hresult, hfinish]
    rw [hended, hl]
    refine .of_alike (fun e he => ?_) fun s hs => ?_
    · rcases result with e' | _ <;> cases he
      exact hfault e rfl
    · rcases result with e' | _ <;> cases hs
      exact hl
  · have hended : Lowering.ended strict = .error (.ofGap ⟨i.position, i.opcode, gap⟩) := by
      rw [Lowering.ended, hresult]
      rfl
    rw [hended]
    refine .of_part hhead (fun s hs => ?_) fun e he => ?_
    · rcases result with e' | _ <;> cases hs
      exact hhead
    · rcases result with e' | _ <;> cases he
      obtain ⟨item, hitem, hposition⟩ := hlater e rfl
      refine ⟨i, ?_, rfl, rfl, ?_⟩
      · rw [hsplit]
        exact List.mem_append_right _ (List.mem_cons_self ..)
      · rw [hposition]
        exact InstructionReader.end_le_of_items_eq hsplit hitem

/-- Strict and lenient lowering agree: they succeed alike where there is no gap, the strict one fails
with the first gap that the lenient one records, and any other error is common to both. Behind the
first gap, the lenient lowering ends well or fails at a later instruction. -/
theorem lower_strict_lenient (p : Program) (options : Options) :
    p.LoweringsAgree (p.lower { options with strict := true })
      (p.lower { options with strict := false }) (p.recorded { options with strict := false }) := by
  rcases hstage : EntryStage.ofStage? p.stage with _ | stage
  · -- no shader of this stage can be lowered, strictly or not
    simp only [lower_eq_run, recorded, Generator.ofStage, hstage]
    refine .of_alike (fun e he d => ?_) fun s hs => ?_
    · cases he
      exact nofun
    · cases hs
  · let g := Generator.start stage options
    have hg (b : Bool) : Generator.ofStage p.stage { options with strict := b } = .ok g := by
      simp only [Generator.ofStage, hstage]
      rfl
    rw [lower_eq_ended (hg true), lower_eq_ended (hg false), recorded, hg]
    exact .of_agreement (Lowering.agreement g p.instructions.items) fun e he =>
      Lowering.fault_ne_coverageGap_of_run_eq_error rfl he

end Program

end ShaderLowering
