import ShaderLowering.Proofs.Lowering.Faults
import ShaderLowering.Proofs.Token.ReaderOrder

/-!
# Runs of a lowering

`Lowering.processAll` says what a lowering comes to, but not where it has come to when it fails.
`Lowering.run` tells both, and `processAll_eq_run` says that it is the same lowering. What one
instruction can do is said once, in `process_cases`; what holds of a run follows by induction over
what the reader yields.
-/

namespace ShaderLowering

/-- The error for a gap where no gap is allowed. -/
def CompileError.ofGap (d : Diagnostic) : CompileError :=
  ⟨d.position, some d.opcode, .coverageGap d⟩

/-- A diagnostic names the instruction that a gap was met in. -/
def Diagnostic.Names (d : Diagnostic) (i : Instruction) : Prop :=
  d.position = i.position ∧ d.opcode = i.opcode

namespace Lowering

/-- Lowers what a reader yields up to the first error. -/
def run (l : Lowering) :
    List (Except DecodeError Instruction) → Except CompileError Unit × Lowering
  | [] => (.ok (), l)
  | .error e :: _ => (.error (.ofDecode e), l)
  | .ok i :: items =>
    match l.process i with
    | (.ok (), l') => l'.run items
    | (.error e, l') => (.error e, l')

/-- Lowering what a reader yields comes to what a run of it comes to. -/
theorem processAll_eq_run (l : Lowering) (items : List (Except DecodeError Instruction)) :
    l.processAll items =
      match l.run items with
      | (.ok (), l') => .ok l'
      | (.error e, _) => .error e := by
  induction items generalizing l with
  | nil => rfl
  | cons item items ih =>
    cases item with
    | error e => rfl
    | ok i =>
      simp only [processAll, run]
      rcases l.process i with ⟨e | _, l'⟩
      · rfl
      · exact ih l'

/-- A lowering behind the handling of an instruction, before anything is recorded. -/
def handled (l : Lowering) (i : Instruction) : Lowering :=
  { l with generator := (l.generator.handle i).generator }

/-- The diagnostics that gaps of an instruction give. -/
def diagnosticsOf (i : Instruction) (gaps : List Gap) : List Diagnostic :=
  gaps.map (Diagnostic.mk i.position i.opcode)

/-- What lowering one instruction can come to: a fault of the handler, a gap where none is allowed,
or success with the gaps recorded. -/
theorem process_cases (l : Lowering) (i : Instruction) :
    (∃ f, (l.generator.handle i).outcome = .error f ∧
      l.process i = (.error ⟨i.position, some i.opcode, f⟩, l.handled i)) ∨
    (∃ gap gaps, (l.generator.handle i).outcome = .ok (gap :: gaps) ∧ l.strict = true ∧
      l.process i = (.error (.ofGap ⟨i.position, i.opcode, gap⟩), l.handled i)) ∨
    (∃ gaps, (l.generator.handle i).outcome = .ok gaps ∧ (l.strict = true → gaps = []) ∧
      l.process i = (.ok (), { l.handled i with
        diagnostics := l.diagnostics ++ diagnosticsOf i gaps })) := by
  rcases h : (l.generator.handle i).outcome with f | gaps
  · exact .inl ⟨f, rfl, by simp only [process, h, handled]⟩
  · refine .inr ?_
    cases gaps with
    | nil => exact .inr ⟨[], rfl, fun _ => rfl, by simp [process, h, handled, diagnosticsOf]⟩
    | cons gap gaps =>
      cases hs : l.strict with
      | true =>
        exact .inl ⟨gap, gaps, rfl, rfl, by simp [process, h, hs, handled, CompileError.ofGap]⟩
      | false =>
        exact .inr ⟨gap :: gaps, rfl, by simp, by simp [process, h, hs, handled, diagnosticsOf]⟩

/-- What a handler fails with lies within its instruction or at its end. -/
theorem liesWithin_handle {g : Generator} {i : Instruction} {f : CompileFault}
    (h : (g.handle i).outcome = .error f) :
    f.LiesWithin i.position (i.position + i.length) := by
  have hreports := Lower.reportsOf_instruction i ⟨g, []⟩
  unfold Generator.handle at h
  rcases hr : (Lower.instruction i).run ⟨g, []⟩ with ⟨(feature | f') | _, s⟩ <;>
    rw [hr] at h hreports
  · cases h
  · cases h
    exact hreports
  · cases h

/-- An error of an instruction names the instruction. It is a fault of the handler, or, in a strict
lowering, a gap. -/
theorem process_eq_error {l : Lowering} {i : Instruction} {e : CompileError}
    (h : (l.process i).1 = .error e) :
    e.position = i.position ∧ e.opcode? = some i.opcode ∧
      (e.fault.LiesWithin i.position (i.position + i.length) ∨
        l.strict = true ∧ ∃ gap, e.fault = .coverageGap ⟨i.position, i.opcode, gap⟩) := by
  rcases process_cases l i with ⟨f, hf, hp⟩ | ⟨gap, gaps, -, hs, hp⟩ | ⟨gaps, -, -, hp⟩ <;>
    rw [hp] at h <;> cases h
  · exact ⟨rfl, rfl, .inl (liesWithin_handle hf)⟩
  · exact ⟨rfl, rfl, .inr ⟨hs, gap, rfl⟩⟩

/-! ## What holds of a run -/

end Lowering

/-- Whether all instructions are accepted, one after the other. -/
def Generator.Accepts (g : Generator) : List Instruction → Prop
  | [] => True
  | i :: instructions =>
    (∃ gaps, (g.handle i).outcome = .ok gaps) ∧ (g.handle i).generator.Accepts instructions

namespace Lowering

/-- A run that succeeds accepts its instructions. -/
theorem accepts_of_run {l : Lowering} {instructions : List Instruction}
    (h : (l.run (instructions.map .ok)).1 = .ok ()) : l.generator.Accepts instructions := by
  induction instructions generalizing l with
  | nil => trivial
  | cons i instructions ih =>
    rw [List.map_cons, run] at h
    rcases process_cases l i with ⟨f, -, hp⟩ | ⟨gap, gaps, -, -, hp⟩ | ⟨gaps, hgaps, -, hp⟩ <;>
      rw [hp] at h
    · cases h
    · cases h
    · exact ⟨⟨gaps, hgaps⟩, ih h⟩

/-- What is recorded stays, and a run records gaps of the instructions that it is given, in their
order. -/
theorem diagnostics_run (l : Lowering) (items : List (Except DecodeError Instruction)) :
    ∃ more, l.diagnostics ++ more = (l.run items).2.diagnostics ∧
      (∀ d ∈ more, ∃ i, .ok i ∈ items ∧ d.Names i) ∧
      (items.Pairwise (fun item item' => itemPosition item ≤ itemPosition item') →
        more.Pairwise fun d d' => d.position ≤ d'.position) := by
  induction items generalizing l with
  | nil => exact ⟨[], List.append_nil _, List.forall_mem_nil _, fun _ => .nil⟩
  | cons item items ih =>
    cases item with
    | error e => exact ⟨[], List.append_nil _, List.forall_mem_nil _, fun _ => .nil⟩
    | ok i =>
      rw [run]
      rcases process_cases l i with ⟨f, -, h⟩ | ⟨gap, gaps, -, -, h⟩ | ⟨gaps, -, -, h⟩ <;> rw [h]
      · exact ⟨[], List.append_nil _, List.forall_mem_nil _, fun _ => .nil⟩
      · exact ⟨[], List.append_nil _, List.forall_mem_nil _, fun _ => .nil⟩
      · obtain ⟨more, hmore, hnames, hsorted⟩ :=
          ih { l.handled i with diagnostics := l.diagnostics ++ diagnosticsOf i gaps }
        have hown (d : Diagnostic) (hd : d ∈ diagnosticsOf i gaps) : d.Names i := by
          obtain ⟨gap, -, rfl⟩ := List.mem_map.1 hd
          exact ⟨rfl, rfl⟩
        refine ⟨diagnosticsOf i gaps ++ more, ?_, fun d hd => ?_, fun h => ?_⟩
        · rw [← List.append_assoc]
          exact hmore
        · rcases List.mem_append.1 hd with hd | hd
          · exact ⟨i, List.mem_cons_self .., hown d hd⟩
          · obtain ⟨j, hj, hd⟩ := hnames d hd
            exact ⟨j, List.mem_cons_of_mem _ hj, hd⟩
        · obtain ⟨hfirst, hrest⟩ := List.pairwise_cons.1 h
          refine List.pairwise_append.2 ⟨List.pairwise_of_forall_mem_list fun d hd d' hd' => ?_,
            hsorted hrest, fun d hd d' hd' => ?_⟩
          · exact Nat.le_of_eq ((hown d hd).1.trans (hown d' hd').1.symm)
          · obtain ⟨j, hj, hd', -⟩ := hnames d' hd'
            rw [(hown d hd).1, hd']
            exact hfirst _ hj

/-- A run stays strict or lenient. -/
theorem strict_run (l : Lowering) (items : List (Except DecodeError Instruction)) :
    (l.run items).2.strict = l.strict := by
  induction items generalizing l with
  | nil => rfl
  | cons item items ih =>
    cases item with
    | error e => rfl
    | ok i =>
      rw [run]
      rcases process_cases l i with ⟨f, -, h⟩ | ⟨gap, gaps, -, -, h⟩ | ⟨gaps, -, -, h⟩ <;> rw [h]
      · rfl
      · rfl
      · exact ih _

/-- A run fails at the first item that is an error or an instruction that cannot be lowered. The
instructions in front of it are lowered. -/
theorem run_eq_error {l : Lowering} {items : List (Except DecodeError Instruction)}
    {e : CompileError} (h : (l.run items).1 = .error e) :
    ∃ (before : List Instruction) (l' : Lowering), l.run (before.map .ok) = (.ok (), l') ∧
      ((∃ d behind, items = before.map .ok ++ .error d :: behind ∧ e = .ofDecode d) ∨
        ∃ i behind, items = before.map .ok ++ .ok i :: behind ∧ (l'.process i).1 = .error e) := by
  induction items generalizing l with
  | nil => cases h
  | cons item items ih =>
    cases item with
    | error d =>
      cases h
      exact ⟨[], l, rfl, .inl ⟨d, items, rfl, rfl⟩⟩
    | ok i =>
      rw [run] at h
      rcases hp : l.process i with ⟨e' | _, l'⟩ <;> rw [hp] at h
      · refine ⟨[], l, rfl, .inr ⟨i, items, rfl, ?_⟩⟩
        rw [hp]
        exact h
      · obtain ⟨before, l'', hrun, hend⟩ := ih h
        refine ⟨i :: before, l'', ?_, ?_⟩
        · rw [List.map_cons, run, hp]
          exact hrun
        · rcases hend with ⟨d, behind, rfl, he⟩ | ⟨j, behind, rfl, he⟩
          · exact .inl ⟨d, behind, rfl, he⟩
          · exact .inr ⟨j, behind, rfl, he⟩

/-- An error of a run lies where something that the reader yields does. -/
theorem position_of_run_eq_error {l : Lowering} {items : List (Except DecodeError Instruction)}
    {e : CompileError} (h : (l.run items).1 = .error e) :
    ∃ item ∈ items, e.position = itemPosition item := by
  obtain ⟨before, l', -, ⟨d, behind, rfl, rfl⟩ | ⟨i, behind, rfl, he⟩⟩ := run_eq_error h
  · exact ⟨.error d, List.mem_append_right _ (List.mem_cons_self ..), rfl⟩
  · exact ⟨.ok i, List.mem_append_right _ (List.mem_cons_self ..), (process_eq_error he).1⟩

/-- A lenient run never fails because of a gap. -/
theorem fault_ne_coverageGap_of_run_eq_error {l : Lowering} (hl : l.strict = false)
    {items : List (Except DecodeError Instruction)} {e : CompileError}
    (h : (l.run items).1 = .error e) (d : Diagnostic) : e.fault ≠ .coverageGap d := by
  obtain ⟨before, l', hrun, ⟨d', behind, -, rfl⟩ | ⟨i, behind, -, he⟩⟩ := run_eq_error h
  · exact nofun
  · have hstrict := strict_run l (before.map .ok)
    rw [hrun, hl] at hstrict
    rcases (process_eq_error he).2.2 with hfault | ⟨hs, -⟩
    · rintro hd
      rw [hd] at hfault
      exact hfault
    · rw [hstrict] at hs
      cases hs

end Lowering

/-- A program is lowered from its bytes if they have a valid header. -/
theorem Program.lowerBytes_of_ofBytes {bytes : List UInt8} {p : Program} (h : ofBytes bytes = .ok p)
    (options : Options) : lowerBytes bytes options = p.lower options := by
  rw [lowerBytes, h]

/-- Lowering a program is a run over its instructions. -/
theorem Program.lower_eq_run (p : Program) (options : Options) :
    p.lower options =
      match Generator.ofStage p.stage options with
      | .ok g =>
        match (Lowering.start g options).run p.instructions.items with
        | (.ok (), l) => .ok l.finish
        | (.error e, _) => .error e
      | .error _ => .error ⟨0, none, .unsupportedStage p.stage⟩ := by
  unfold Program.lower
  rcases Generator.ofStage p.stage options with _ | g
  · rfl
  · simp only [Lowering.processAll_eq_run]
    rcases (Lowering.start g options).run p.instructions.items with ⟨_ | _, l⟩ <;> rfl

end ShaderLowering
