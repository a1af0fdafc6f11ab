import Mathlib.Data.List.Flatten
import ShaderLowering.Proofs.Generator.Repeating
import ShaderLowering.Proofs.Lowering.Atomicity
import ShaderLowering.Proofs.Lowering.LoweredProgram
import ShaderLowering.Proofs.Lowering.Moving

/-!
# Instructions that can be left out

An instruction is *inert* if it is one of those that are skipped, if there is no handler for it, or
if it repeats a declaration word for word. An inert instruction leaves the generator as it is
(`Generator.handle_of_isInert`), and the instructions behind it do the same wherever they stand
(`Generator.handle_placedAt`). So a program without some of its inert instructions is lowered to the
same shader, step by step, and reports what is reported of the instructions that are left
(`Program.lower_without_inert`).
-/

namespace ShaderLowering

variable {α : Type}

/-! ## Inert instructions -/

/-- Whether nothing is done about the instructions of an opcode, and nothing reported. -/
def Opcode.isSkipped : Opcode → Bool
  | .nop | .customdata | .dclGlobalflags => true
  | _ => false

/-- Whether the instructions of an opcode declare registers that can be declared again: constant
buffers, resources, samplers, inputs, outputs, and temporary registers. -/
def Opcode.isRepeatable : Opcode → Bool
  | .dclConstantbuffer | .dclResource | .dclSampler | .dclInput | .dclInputSgv | .dclInputSiv
  | .dclInputPs | .dclInputPsSgv | .dclInputPsSiv | .dclOutput | .dclOutputSgv | .dclOutputSiv
  | .dclTemps => true
  | _ => false

/-- Whether an instruction is inert behind others: it is skipped, there is no handler for it, or it
is a declaration that stands among the others word for word. -/
def Instruction.IsInert (i : Instruction) (before : List Instruction) : Prop :=
  i.opcode.isSkipped = true ∨ i.opcode.isHandled = false ∨
    i.opcode.isRepeatable = true ∧ ∃ j ∈ before, j.words = i.words

instance (i : Instruction) (before : List Instruction) : Decidable (i.IsInert before) :=
  inferInstanceAs (Decidable (_ ∨ _ ∨ _))

namespace Lower

theorem instruction_of_isSkipped {i : Instruction} (h : i.opcode.isSkipped = true) :
    instruction i = pure () := by
  unfold Opcode.isSkipped at h
  split at h
  iterate 3 next hop => rw [instruction, hop]
  cases h

theorem instruction_of_not_isHandled {i : Instruction} (h : i.opcode.isHandled = false) :
    instruction i = gap .unhandledOpcode := by
  unfold instruction
  split
  iterate 27 next hop => rw [hop] at h; cases h
  rfl

/-- A handler of a declaration that can be repeated changes nothing where it has been before. -/
theorem Declares.run_again {op : Lower Unit} (h : Declares Generate.Repeats op) {s s' : LowerState}
    (hs : s.generator.WellFormed) (hgrows : s.generator.Grows s'.generator)
    (hafter : (op.run s).2.generator.Grows s'.generator) :
    (op.run s').2.generator = s'.generator := by
  induction h generalizing s s' with
  | throw e => rfl
  | @bind _ op f h _ ih =>
    -- what is checked does not depend on the state, so it comes to the same
    obtain ⟨r, more, hop⟩ := h.run_eq
    rw [run_bind, hop] at hafter ⊢
    cases r with
    | error e => rfl
    | ok a =>
      let t : LowerState := { s with gaps := s.gaps ++ more }
      let t' : LowerState := { s' with gaps := s'.gaps ++ more }
      have ht : t.generator.WellFormed := hs
      have hgrows' : t.generator.Grows t'.generator := hgrows
      exact ih a ht hgrows' hafter
  | @observe f same _ ih =>
    rw [run_bind, run_get] at hafter ⊢
    have hsame := same s s' hgrows.fixed.1
    dsimp only at hafter ⊢
    rw [hsame]
    exact ih s hs hgrows hafter
  | @generate op h =>
    rw [run_generate] at hafter ⊢
    exact h hs hgrows hafter

/-- The handlers of declarations that can be repeated. -/
theorem declares_of_isRepeatable {i : Instruction} (h : i.opcode.isRepeatable = true) :
    Declares Generate.Repeats (instruction i) := by
  unfold Opcode.isRepeatable at h
  split at h
  · next hop =>
    rw [instruction, hop]
    exact declares_declareConstantBuffer i Generate.repeats_declareConstantBuffer
  · next hop =>
    rw [instruction, hop]
    exact declares_declareResource i Generate.repeats_declareResource
  · next hop =>
    rw [instruction, hop]
    exact declares_declareSampler i Generate.repeats_declareSampler
  iterate 9
    next hop =>
      rw [instruction, hop]
      exact declares_declareInterface i Generate.repeats_declareInterface
  · next hop =>
    rw [instruction, hop]
    exact declares_declareTemps i fun _ => Generate.repeats_declareTemps
  · cases h

end Lower

namespace Generator

variable {g g' : Generator}

/-- A declaration that can be repeated changes nothing where it has been handled before. -/
theorem WellFormed.handle_again (hg : g.WellFormed) {i : Instruction}
    (hi : i.opcode.isRepeatable = true) (hgrows : g.Grows g')
    (hafter : (g.handle i).generator.Grows g') : (g'.handle i).generator = g' := by
  let s : LowerState := ⟨g, []⟩
  let s' : LowerState := ⟨g', []⟩
  rw [Generator.handle] at hafter ⊢
  have hs : s.generator.WellFormed := hg
  have hgrows' : s.generator.Grows s'.generator := hgrows
  exact (Lower.declares_of_isRepeatable hi).run_again hs hgrows' hafter

/-- An inert instruction leaves the generator behind the others as it is. -/
theorem WellFormed.handle_of_isInert (hg : g.WellFormed) {before : List Instruction}
    {i : Instruction} (hbefore : ∀ j ∈ before, j.IsSound) (hsound : i.IsSound)
    (hi : i.IsInert before) :
    ((g.handledAll before).handle i).generator = g.handledAll before := by
  rcases hi with hskipped | hunhandled | ⟨hrepeatable, j, hj, hwords⟩
  · rw [Generator.handle, Lower.instruction_of_isSkipped hskipped]
    rfl
  · rw [Generator.handle, Lower.instruction_of_not_isHandled hunhandled]
    rfl
  · -- the instruction is the earlier one at another position
    have hsame : j.placedAt i.position = i :=
      (hbefore j hj |>.placedAt i.position).eq_of_words hsound rfl hwords
    obtain ⟨first, rest, rfl⟩ := List.append_of_mem hj
    have hopcode : j.opcode = i.opcode := by rw [← hsame]; rfl
    have hplaced := (g.handledAll (first ++ j :: rest)).handle_placedAt j i.position
    rw [hsame] at hplaced
    rw [hplaced.1, handledAll_append]
    obtain ⟨-, hfirst⟩ := hg.handledAll first
    obtain ⟨hgrows, hthen⟩ := hfirst.handle j
    have hafter := (hthen.handledAll rest).1
    exact hfirst.handle_again (hopcode ▸ hrepeatable) (hgrows.trans hafter) hafter

end Generator

/-! ## Leaving instructions out -/

/-- The instructions that are kept, each at a new place. -/
def keptAt (removed : Nat → Bool) (place : Nat → Nat) (instructions : List Instruction) :
    List Instruction :=
  (instructions.filter fun i => !removed i.position).map fun i => i.placedAt (place i.position)

/-- The diagnostics of the instructions that are kept, each at a new place. -/
def reportedAt (removed : Nat → Bool) (place : Nat → Nat) (diagnostics : List Diagnostic) :
    List Diagnostic :=
  (diagnostics.filter fun d => !removed d.position).map fun d =>
    { d with position := place d.position }

section

variable {removed : Nat → Bool} (place : Nat → Nat) {i : Instruction}

theorem keptAt_removed (hi : removed i.position = true) (instructions : List Instruction) :
    keptAt removed place (i :: instructions) = keptAt removed place instructions := by
  rw [keptAt, List.filter_cons_of_neg (by rw [hi]; decide), keptAt]

theorem keptAt_kept (hi : removed i.position = false) (instructions : List Instruction) :
    keptAt removed place (i :: instructions) =
      i.placedAt (place i.position) :: keptAt removed place instructions := by
  rw [keptAt, List.filter_cons_of_pos (by rw [hi]; rfl), List.map_cons, keptAt]

/-- Only the places of the instructions matter. -/
theorem keptAt_congr (removed : Nat → Bool) {place place' : Nat → Nat}
    {instructions : List Instruction}
    (h : ∀ i ∈ instructions, place i.position = place' i.position) :
    keptAt removed place instructions = keptAt removed place' instructions := by
  rw [keptAt, keptAt]
  refine List.map_congr_left fun i hi => ?_
  rw [h i (List.mem_of_mem_filter hi)]

theorem words_keptAt (instructions : List Instruction) :
    (keptAt removed place instructions).flatMap Instruction.words =
      (instructions.filter fun i => !removed i.position).flatMap Instruction.words := by
  rw [keptAt, List.flatMap_map]
  rfl

theorem reportedAt_append (diagnostics diagnostics' : List Diagnostic) :
    reportedAt removed place (diagnostics ++ diagnostics') =
      reportedAt removed place diagnostics ++ reportedAt removed place diagnostics' := by
  rw [reportedAt, List.filter_append, List.map_append, reportedAt, reportedAt]

theorem reportedAt_removed (hi : removed i.position = true) (gaps : List Gap) :
    reportedAt removed place (Lowering.diagnosticsOf i gaps) = [] := by
  have hnone : (Lowering.diagnosticsOf i gaps).filter (fun d => !removed d.position) = [] := by
    rw [List.filter_eq_nil_iff]
    intro d hd
    obtain ⟨gap, -, rfl⟩ := List.mem_map.1 hd
    rw [hi]
    decide
  rw [reportedAt, hnone, List.map_nil]

theorem reportedAt_kept (hi : removed i.position = false) (gaps : List Gap) :
    reportedAt removed place (Lowering.diagnosticsOf i gaps) =
      Lowering.diagnosticsOf (i.placedAt (place i.position)) gaps := by
  have hall : (Lowering.diagnosticsOf i gaps).filter (fun d => !removed d.position) =
      Lowering.diagnosticsOf i gaps := by
    rw [List.filter_eq_self]
    intro d hd
    obtain ⟨gap, -, rfl⟩ := List.mem_map.1 hd
    rw [hi]
    rfl
  rw [reportedAt, hall, Lowering.diagnosticsOf, List.map_map]
  rfl

end

namespace Generator

/-- Leaving out instructions that leave the generator as it is makes no difference to the others. -/
theorem Accepts.keptAt {g : Generator} {removed : Nat → Bool} {instructions : List Instruction}
    (h : g.Accepts instructions) (place : Nat → Nat)
    (hidle : ∀ before i behind, instructions = before ++ i :: behind → removed i.position = true →
      ((g.handledAll before).handle i).generator = g.handledAll before) :
    g.Accepts (keptAt removed place instructions) ∧
      g.handledAll (keptAt removed place instructions) = g.handledAll instructions ∧
      g.reported (keptAt removed place instructions) =
        reportedAt removed place (g.reported instructions) := by
  induction instructions generalizing g with
  | nil => exact ⟨trivial, rfl, rfl⟩
  | cons i instructions ih =>
    obtain ⟨⟨gaps, hgaps⟩, hrest⟩ := h
    obtain ⟨haccepts, hhandled, hreported⟩ := ih hrest fun before j behind heq =>
      hidle (i :: before) j behind (by rw [heq, List.cons_append])
    have hstep : g.handledAll (i :: instructions) =
      (g.handle i).generator.handledAll instructions := rfl
    rw [hstep, reported, hgaps, reportedAt_append, ← hreported, ← hhandled]
    -- an instruction that is left out has changed nothing, one that is kept does the same elsewhere
    cases hi : removed i.position with
    | true =>
      have hsame : (g.handle i).generator = g := hidle [] i instructions rfl hi
      rw [hsame] at haccepts ⊢
      rw [keptAt_removed place hi, reportedAt_removed place hi, List.nil_append]
      exact ⟨haccepts, rfl, rfl⟩
    | false =>
      obtain ⟨hgenerator, houtcome⟩ := g.handle_placedAt i (place i.position)
      rw [keptAt_kept place hi, reportedAt_kept place hi, reported, (houtcome gaps).2 hgaps,
        hgenerator]
      refine ⟨⟨⟨gaps, (houtcome gaps).2 hgaps⟩, hgenerator ▸ haccepts⟩, ?_, rfl⟩
      rw [← hgenerator]
      rfl

end Generator

namespace Lowering

/-- A lenient run comes to its end exactly if all instructions are accepted, and then with what they
report. -/
theorem run_eq_ok_iff {l l' : Lowering} (hl : l.strict = false) {instructions : List Instruction} :
    l.run (instructions.map .ok) = (.ok (), l') ↔ l.generator.Accepts instructions ∧
      l' = ⟨false, l.generator.handledAll instructions,
        l.diagnostics ++ l.generator.reported instructions⟩ := by
  induction instructions generalizing l with
  | nil =>
    obtain ⟨strict, generator, diagnostics⟩ := l
    obtain rfl : strict = false := hl
    rw [Generator.reported, List.append_nil]
    exact ⟨fun h => ⟨trivial, (Prod.mk.inj h).2.symm⟩, fun h => by rw [h.2]; rfl⟩
  | cons i instructions ih =>
    rw [List.map_cons, run, Generator.reported, Generator.Accepts]
    rcases process_of_lenient hl i with ⟨f, hf, h⟩ | ⟨gaps, hgaps, h⟩
    · rw [h, hf]
      constructor
      · intro heq
        cases heq
      · rintro ⟨⟨⟨gaps, hgaps⟩, -⟩, -⟩
        cases hgaps
    · rw [h, hgaps]
      have hrest := ih (l := { l.handled i with
        diagnostics := l.diagnostics ++ diagnosticsOf i gaps }) hl
      rw [List.append_assoc] at hrest
      refine hrest.trans (and_congr_left' ?_)
      exact ⟨fun h => ⟨⟨gaps, rfl⟩, h⟩, fun h => h.2⟩

end Lowering

/-! ## Programs without some of their instructions -/

/-- How many words of kept instructions stand before a position. -/
def keptBefore (removed : Nat → Bool) (instructions : List Instruction) (position : Nat) : Nat :=
  ((instructions.filter fun i => !removed i.position && decide (i.position < position)).flatMap
    Instruction.words).length

section

variable {removed : Nat → Bool} {position : Nat} {i : Instruction} {instructions : List Instruction}

theorem keptBefore_start (h : Contiguous position instructions) :
    keptBefore removed instructions position = 0 := by
  have hnone : instructions.filter
      (fun i => !removed i.position && decide (i.position < position)) = [] := by
    rw [List.filter_eq_nil_iff]
    intro i hi
    have := h.le_position i hi
    simp only [Bool.and_eq_true, decide_eq_true_eq]
    omega
  rw [keptBefore, hnone]
  rfl

theorem keptBefore_removed (hi : removed i.position = true) (position : Nat) :
    keptBefore removed (i :: instructions) position = keptBefore removed instructions position := by
  rw [keptBefore, List.filter_cons_of_neg (by simp [hi]), keptBefore]

theorem keptBefore_kept (hi : removed i.position = false) (hposition : i.position < position) :
    keptBefore removed (i :: instructions) position =
      i.length + keptBefore removed instructions position := by
  rw [keptBefore, List.filter_cons_of_pos (by simp [hi, hposition]), List.flatMap_cons,
    List.length_append, keptBefore, Instruction.length]

/-- The kept instructions follow each other if each is placed behind those before it. -/
theorem Contiguous.keptAt (h : Contiguous position instructions) (removed : Nat → Bool)
    (start : Nat) :
    Contiguous start (keptAt removed (start + keptBefore removed instructions ·) instructions) := by
  induction instructions generalizing position start with
  | nil => trivial
  | cons i instructions ih =>
    have hstart : keptBefore removed (i :: instructions) position = 0 := keptBefore_start h
    obtain ⟨rfl, hsound, hrest⟩ := h
    have hlater : ∀ j ∈ instructions, i.position < j.position := by
      intro j hj
      have := hrest.le_position j hj
      have := i.length_pos
      omega
    cases hi : removed i.position with
    | true =>
      rw [keptAt_removed _ hi]
      simp only [keptBefore_removed hi]
      exact ih hrest start
    | false =>
      have hplaces : ShaderLowering.keptAt removed
            (start + keptBefore removed (i :: instructions) ·) instructions =
          ShaderLowering.keptAt removed
            (start + i.length + keptBefore removed instructions ·) instructions := by
        refine keptAt_congr removed fun j hj => ?_
        rw [keptBefore_kept hi (hlater j hj), Nat.add_assoc]
      rw [keptAt_kept _ hi, hplaces, hstart, Nat.add_zero]
      exact ⟨rfl, hsound.placedAt start, ih hrest (start + i.length)⟩

end

namespace Program

variable {p : Program} {removed : Nat → Bool}

/-- The words of the instructions that are kept. -/
def keptWords (p : Program) (removed : Nat → Bool) : List Word :=
  (p.instructionList.filter fun i => !removed i.position).flatMap Instruction.words

/-- The program without some of its instructions, which are told by their positions. The version
token stays, and the length is that of the remaining words. -/
def without (p : Program) (removed : Nat → Bool) : Program :=
  { p with tokens := p.tokens.headD 0 ::
      UInt32.ofNat (headerWords + (p.keptWords removed).length) :: p.keptWords removed }

/-- Where an instruction stands in the program without some of its instructions: behind the header
and the kept instructions before it. -/
def placeWithout (p : Program) (removed : Nat → Bool) (position : Nat) : Nat :=
  headerWords + keptBefore removed p.instructionList position

/-- The program without some of its instructions is read as the others at their new places. -/
theorem items_without (h : p.instructions.items = p.instructionList.map .ok) :
    (p.without removed).instructions.items =
      (keptAt removed (p.placeWithout removed) p.instructionList).map .ok := by
  obtain ⟨-, hcontiguous⟩ := (InstructionReader.items_eq_map_iff rfl).1 h
  refine (InstructionReader.items_eq_map_iff rfl).2 ⟨?_, hcontiguous.keptAt removed headerWords⟩
  rw [words_keptAt]
  rfl

/-- What is left of the words is no longer than the words. -/
theorem length_keptWords_le (h : p.instructions.items = p.instructionList.map .ok) :
    (p.keptWords removed).length ≤ p.tokens.length - headerWords := by
  obtain ⟨hwords, -⟩ := (InstructionReader.items_eq_map_iff rfl).1 h
  have hkept := (List.filter_sublist.flatMap Instruction.words :
    (p.keptWords removed).Sublist (p.instructionList.flatMap Instruction.words)).length_le
  rw [← hwords, List.length_drop] at hkept
  exact hkept

/-- A program without some of its instructions is read again from its words. -/
theorem ofTokens_without {tokens : List Word} (hp : ofTokens tokens = .ok p)
    (h : p.instructions.items = p.instructionList.map .ok) :
    ofTokens (p.without removed).tokens = .ok (p.without removed) := by
  have hkept : (p.keptWords removed).length ≤ p.tokens.length - headerWords :=
    length_keptWords_le h
  obtain ⟨version, body, behind, hbound, hheaded, -⟩ := ofTokens_eq_ok_iff.1 hp
  have hwithout : p.without removed = headed version (p.keptWords removed) := by
    rw [without, hheaded]
    rfl
  have hlength : p.tokens.length = body.length + headerWords := by
    rw [hheaded]
    rfl
  refine ofTokens_eq_ok_iff.2 ⟨version, p.keptWords removed, [], ?_, hwithout,
    (List.append_nil _).symm⟩
  omega

end Program

namespace LoweredProgram

variable (x : LoweredProgram)

/-- The diagnostics of a program that is lowered leniently are what its instructions report. -/
theorem diagnostics_eq (h : x.options.strict = false) : x.result.diagnostics =
    (Generator.start x.stage x.options).reported x.instructions := by
  obtain ⟨-, hrun, -⟩ := x.run_eq
  exact congrArg Lowering.diagnostics ((Lowering.run_eq_ok_iff h).1 hrun).2

/-- An inert instruction of a program leaves the generator as it is. -/
theorem handle_of_isInert {before behind : List Instruction} {i : Instruction}
    (h : x.instructions = before ++ i :: behind) (hi : i.IsInert before) :
    (((Generator.start x.stage x.options).handledAll before).handle i).generator =
      (Generator.start x.stage x.options).handledAll before := by
  obtain ⟨-, hcontiguous⟩ := (InstructionReader.items_eq_map_iff rfl).1 x.run_eq.1
  have hsound := hcontiguous.isSound
  rw [h] at hsound
  refine (Generator.wellFormed_start x.stage x.options).handle_of_isInert ?_ ?_ hi
  · exact fun j hj => hsound j (List.mem_append_left _ hj)
  · exact hsound i (List.mem_append_right _ (List.mem_cons_self ..))

/-- The shader of a program is that of the program without instructions that leave the generator as
it is. -/
theorem lower_without {removed : Nat → Bool} (h : x.options.strict = false)
    (hidle : ∀ before i behind, x.instructions = before ++ i :: behind →
      removed i.position = true →
      (((Generator.start x.stage x.options).handledAll before).handle i).generator =
        (Generator.start x.stage x.options).handledAll before) :
    (x.program.without removed).lower x.options = .ok ⟨x.result.shader,
      reportedAt removed (x.program.placeWithout removed) x.result.diagnostics⟩ := by
  obtain ⟨hitems, -, hresult⟩ := x.run_eq
  obtain ⟨haccepts, hhandled, hreported⟩ :=
    x.accepts.keptAt (x.program.placeWithout removed) hidle
  have hrun := (Lowering.run_eq_ok_iff
    (l := .start (.start x.stage x.options) x.options) h).2 ⟨haccepts, rfl⟩
  have hstage : Generator.ofStage (x.program.without removed).stage x.options =
      .ok (.start x.stage x.options) := x.ofStage_program
  rw [Program.lower_eq_run, hstage, Program.items_without hitems]
  dsimp only
  rw [show x.program.instructionList = x.instructions from rfl, hrun]
  simp only [Lowering.finish, Lowering.start, hhandled, hreported, List.nil_append]
  rw [← x.diagnostics_eq h, hresult]
  rfl

end LoweredProgram

/-- A program without some of its inert instructions is lowered to the same shader, and what is
reported of the instructions that are left is reported again, at their new places. These are where
the instructions stand in the shorter program, which is read again from its words. -/
theorem Program.lower_without_inert {p : Program} {options : Options} {s : LoweredShader}
    {removed : Nat → Bool} (hoptions : options.strict = false) (hlowered : p.lower options = .ok s)
    (hinert : ∀ n (h : n < p.instructionList.length),
      removed p.instructionList[n].position = true →
        p.instructionList[n].IsInert (p.instructionList.take n)) :
    (p.without removed).lower options =
        .ok ⟨s.shader, reportedAt removed (p.placeWithout removed) s.diagnostics⟩ ∧
      (p.without removed).instructions.items =
        (keptAt removed (p.placeWithout removed) p.instructionList).map .ok ∧
      ∀ tokens, ofTokens tokens = .ok p →
        ofTokens (p.without removed).tokens = .ok (p.without removed) := by
  let x : LoweredProgram := ⟨p, options, s, hlowered⟩
  obtain ⟨hitems, -⟩ := x.run_eq
  refine ⟨x.lower_without hoptions fun before i behind heq hi => x.handle_of_isInert heq ?_,
    items_without hitems, fun tokens htokens => ofTokens_without htokens hitems⟩
  -- the instruction is the one with the number of those before it
  replace heq : p.instructionList = before ++ i :: behind := heq
  have hn : before.length < p.instructionList.length := by
    rw [heq, List.length_append, List.length_cons]
    omega
  have hget : p.instructionList[before.length] = i := List.getElem_of_append heq rfl
  have htake : p.instructionList.take before.length = before := by rw [heq, List.take_left]
  rw [← htake, ← hget]
  exact hinert before.length hn (by rw [hget]; exact hi)

/-- Temporary registers are declared twice, with instructions around them that are not executed. -/
def declareTempsTwice : Program :=
  ⟨.vertex, ⟨5, 0⟩,
    [0x00010050, 15, 0x0100003a, 0x02000068, 2,
     0x05000019, 0x00100012, 0, 0x00100e46, 1, 0x02000068, 2,
     0x01000012, 0x0100006a, 0x0100003e]⟩

/-- The first of the two instructions without a handler is kept, and reported two words earlier. -/
theorem declareTempsTwice_without_inert :
    ∃ (p : Program) (s : LoweredShader), declareTempsTwice.lower .standard = .ok s ∧
      p.tokens = [0x00010050, 10, 0x02000068, 2, 0x05000019, 0x00100012, 0, 0x00100e46, 1,
        0x0100003e] ∧
      p.lower .standard = .ok ⟨s.shader, [⟨4, .exp, .unhandledOpcode⟩]⟩ := by
  let removed (position : Nat) : Bool := position ∈ [2, 10, 12, 13]
  have hsome : (declareTempsTwice.lower .standard).toOption.isSome := by decide +kernel
  have hinert : ∀ n (h : n < declareTempsTwice.instructionList.length),
      removed declareTempsTwice.instructionList[n].position = true →
        declareTempsTwice.instructionList[n].IsInert (declareTempsTwice.instructionList.take n) := by
    decide +kernel
  have hreported : (declareTempsTwice.lower .standard).toOption.map (fun s => reportedAt removed
      (declareTempsTwice.placeWithout removed) s.diagnostics) =
        some [⟨4, .exp, .unhandledOpcode⟩] := by decide +kernel
  rcases hs : declareTempsTwice.lower .standard with e | s
  · rw [hs] at hsome
    cases hsome
  · obtain ⟨hlower, -, -⟩ := Program.lower_without_inert rfl hs hinert
    rw [hs] at hreported
    have hdiagnostics : reportedAt removed (declareTempsTwice.placeWithout removed) s.diagnostics =
        [⟨4, .exp, .unhandledOpcode⟩] := Option.some.inj hreported
    rw [hdiagnostics] at hlower
    exact ⟨_, s, rfl, by decide +kernel, hlower⟩

end ShaderLowering
