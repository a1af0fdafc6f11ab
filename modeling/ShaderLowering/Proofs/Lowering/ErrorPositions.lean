import ShaderLowering.Proofs.Lowering.Strictness
import ShaderLowering.Proofs.Token.ReaderRuns

/-!
# Where errors point

An error of a lowering points into the program. That of an instruction names the instruction, which
the reader has yielded, and a decoding error in it names one of the words of the instruction or its
end; everything in front of the instruction has been lowered. An error without an opcode is one of the
reader, and it names one of the words that the reader stops at or their end. `Program.FailsAt` tells
the two apart, and `lowerBytes_points` says that there is nothing else behind the header of a program
whose stage can be lowered. Diagnostics name instructions too, in the order of these.
-/

namespace ShaderLowering

/-! ## Instructions inside a program -/

namespace InstructionReader

/-- Where a reader stands once it has yielded everything. -/
def stop (r : InstructionReader) : Nat := (advance^[r.items.length] r).position

variable {tokens : List Word} {start : Nat}

/-- The instructions that are yielded stand between the start and the end of the words. -/
theorem range_of_mem_items {i : Instruction} (h : .ok i ∈ (ofTokens tokens start).items) :
    start ≤ i.position ∧ i.position + i.length ≤ tokens.length := by
  obtain ⟨instructions, error?, hitems, hcontiguous, hcut, -⟩ := exists_tiling tokens start
  have hmem : i ∈ instructions := by
    rw [hitems] at h
    simpa using h
  exact ⟨hcontiguous.le_position i hmem, (hcut i hmem).inside⟩

/-- Where instructions are followed by an error, there is one way to tell them apart. -/
theorem eq_of_map_ok_append_error {before instructions : List Instruction} {e e' : DecodeError}
    {behind : List (Except DecodeError Instruction)}
    (h : before.map .ok ++ .error e :: behind = instructions.map .ok ++ [.error e']) :
    before = instructions ∧ e = e' ∧ behind = [] := by
  induction before generalizing instructions with
  | nil =>
    cases instructions with
    | nil =>
      obtain ⟨herror, hbehind⟩ := List.cons.inj h
      exact ⟨rfl, Except.error.inj herror, hbehind⟩
    | cons i instructions => cases (List.cons.inj h).1
  | cons j before ih =>
    cases instructions with
    | nil => cases (List.cons.inj h).1
    | cons i instructions =>
      obtain ⟨hfirst, hrest⟩ := List.cons.inj h
      obtain ⟨rfl, herror, hbehind⟩ := ih hrest
      exact ⟨congrArg (· :: before) (Except.ok.inj hfirst), herror, hbehind⟩

/-- An error that is yielded is the last item. It names one of the words that the reader stops at, or
their end. -/
theorem range_of_items_eq_error {before : List Instruction} {e : DecodeError}
    {behind : List (Except DecodeError Instruction)}
    (h : (ofTokens tokens start).items = before.map .ok ++ .error e :: behind) :
    behind = [] ∧ start ≤ (ofTokens tokens start).stop ∧
      (ofTokens tokens start).stop ≤ e.position ∧ e.position ≤ tokens.length := by
  obtain ⟨instructions, error?, hitems, -, -, hend⟩ := exists_tiling tokens start
  cases error? with
  | none =>
    have hmem : .error e ∈ (ofTokens tokens start).items := by
      rw [h]
      exact List.mem_append_right _ (List.mem_cons_self ..)
    rw [hitems] at hmem
    simp at hmem
  | some e' =>
    obtain ⟨rfl, rfl, rfl⟩ := eq_of_map_ok_append_error (h.symm.trans hitems)
    have hstop : (ofTokens tokens start).stop =
        start + (before.flatMap Instruction.words).length := by
      rw [stop, position_iterate, List.take_length, hitems, flatMap_itemWords]
      rfl
    obtain ⟨-, -, hlow, hhigh⟩ := hend
    rw [hstop]
    exact ⟨rfl, Nat.le_add_right .., hlow, hhigh⟩

end InstructionReader

/-! ## Headers -/

namespace Program

/-- The number of words that a program declares. -/
def declaredLength (p : Program) : Nat := (p.tokens.getD 1 0).toNat

/-- An error of the header names one of its words. -/
theorem position_of_ofBytes_eq_error {bytes : List UInt8} {e : DecodeError}
    (h : ofBytes bytes = .error e) : e.position = 0 ∨ e.position = 1 := by
  unfold ofBytes at h
  split at h
  · cases h
    exact .inl rfl
  · unfold ofTokens at h
    split at h
    · dsimp only at h
      split at h
      · cases h
        exact .inr rfl
      · cases h
    · cases h
      exact .inl rfl

/-- A program has the words that it declares. -/
theorem declaredLength_of_ofBytes {bytes : List UInt8} {p : Program} (h : ofBytes bytes = .ok p) :
    p.declaredLength = p.tokens.length := by
  unfold ofBytes at h
  split at h
  · cases h
  · obtain ⟨version, body, behind, hfits, rfl, -⟩ := ofTokens_eq_ok_iff.1 h
    have hdeclared : (UInt32.ofNat (headerWords + body.length)).toNat = headerWords + body.length :=
      UInt32.toNat_ofNat_of_lt' hfits
    rw [declaredLength, headed, List.getD_cons_succ, List.getD_cons_zero, hdeclared,
      List.length_cons, List.length_cons, headerWords]
    omega

/-! ## Programs -/

/-- Instructions at the start of a program are lowered without an error. -/
def Lowers (p : Program) (options : Options) (instructions : List Instruction) (l : Lowering) :
    Prop :=
  ∃ g, Generator.ofStage p.stage options = .ok g ∧
    (Lowering.start g options).run (instructions.map .ok) = (.ok (), l)

/-- How lowering the instructions of a program fails. -/
inductive FailsAt (p : Program) (options : Options) (e : CompileError) : Prop
  /-- The reader has yielded an instruction that cannot be lowered, behind others that are. -/
  | instruction (before : List Instruction) (i : Instruction)
      (behind : List (Except DecodeError Instruction)) (l : Lowering)
      (yields : p.instructions.items = before.map .ok ++ .ok i :: behind)
      (lowers : p.Lowers options before l) (fails : (l.process i).1 = .error e)
      (position : e.position = i.position) (opcode : e.opcode? = some i.opcode)
      (fault : e.fault.LiesWithin i.position (i.position + i.length) ∨
        options.strict = true ∧ ∃ gap, e.fault = .coverageGap ⟨i.position, i.opcode, gap⟩)
  /-- The reader stops with an error, and the instructions that it has yielded are lowered. -/
  | word (instructions : List Instruction) (d : DecodeError) (l : Lowering)
      (yields : p.instructions.items = instructions.map .ok ++ [.error d])
      (lowers : p.Lowers options instructions l) (error : e = .ofDecode d)
      (position : p.instructions.stop ≤ e.position)

/-- An error behind the header points to one of the words behind it, or to the end. -/
theorem FailsAt.range {p : Program} {options : Options} {e : CompileError}
    (h : p.FailsAt options e) : headerWords ≤ e.position ∧ e.position ≤ p.tokens.length := by
  cases h with
  | instruction before i behind l yields lowers fails position opcode fault =>
    have hmem : .ok i ∈ p.instructions.items := by
      rw [yields]
      exact List.mem_append_right _ (List.mem_cons_self ..)
    obtain ⟨hlow, hhigh⟩ := InstructionReader.range_of_mem_items hmem
    rw [position]
    exact ⟨hlow, Nat.le_trans (Nat.le_add_right ..) hhigh⟩
  | word instructions d l yields lowers error position =>
    obtain ⟨-, hlow, hstop, hhigh⟩ := InstructionReader.range_of_items_eq_error yields
    rw [error]
    exact ⟨Nat.le_trans hlow hstop, hhigh⟩

/-- Lowering a program fails for want of its stage, or at an instruction or a word. -/
theorem failsAt_of_lower {p : Program} {options : Options} {e : CompileError}
    (h : p.lower options = .error e) :
    e = ⟨0, none, .unsupportedStage p.stage⟩ ∨ p.FailsAt options e := by
  rw [lower_eq_run] at h
  rcases hg : Generator.ofStage p.stage options with feature | g <;> rw [hg] at h
  · exact .inl (Except.error.inj h).symm
  · right
    dsimp only at h
    rcases hrun : (Lowering.start g options).run p.instructions.items with ⟨e' | _, l⟩ <;>
      rw [hrun] at h
    · obtain rfl : e' = e := Except.error.inj h
      obtain ⟨before, l', hbefore, hfails⟩ := Lowering.run_eq_error (congrArg Prod.fst hrun)
      have hlowers : p.Lowers options before l' := ⟨g, hg, hbefore⟩
      rcases hfails with ⟨d, behind, hitems, rfl⟩ | ⟨i, behind, hitems, hprocess⟩
      · obtain ⟨rfl, -, hstop, -⟩ := InstructionReader.range_of_items_eq_error hitems
        exact .word before d l' hitems hlowers rfl hstop
      · obtain ⟨hposition, hopcode, hfault⟩ := Lowering.process_eq_error hprocess
        have hstrict := Lowering.strict_run (Lowering.start g options) (before.map .ok)
        rw [hbefore] at hstrict
        exact .instruction before i behind l' hitems hlowers hprocess hposition hopcode
          (hfault.imp_right fun ⟨hs, hgap⟩ => ⟨hstrict.symm.trans hs, hgap⟩)
    · cases h

/-- What lowering a program records names instructions of the program, in their order. -/
theorem recorded_names (p : Program) (options : Options) :
    (∀ d ∈ p.recorded options, ∃ i, .ok i ∈ p.instructions.items ∧ d.Names i) ∧
      (p.recorded options).Pairwise fun d d' => d.position ≤ d'.position := by
  rw [recorded]
  rcases Generator.ofStage p.stage options with feature | g
  · exact ⟨List.forall_mem_nil _, .nil⟩
  · obtain ⟨more, hmore, hnames, hsorted⟩ :=
      Lowering.diagnostics_run (Lowering.start g options) p.instructions.items
    dsimp only
    rw [← hmore]
    exact ⟨hnames, hsorted p.instructions.pairwise_items⟩

/-- A shader has the diagnostics that lowering its program has recorded. -/
theorem diagnostics_of_lower {p : Program} {options : Options} {s : LoweredShader}
    (h : p.lower options = .ok s) : s.diagnostics = p.recorded options := by
  rw [lower_eq_run] at h
  rw [recorded]
  rcases hg : Generator.ofStage p.stage options with feature | g <;> rw [hg] at h
  · cases h
  · dsimp only at h ⊢
    rcases hrun : (Lowering.start g options).run p.instructions.items with ⟨e | _, l⟩ <;>
      rw [hrun] at h
    · cases h
    · cases h
      rfl

end Program

/-- Errors point into the program. An error of the header points to one of its words, and an
unsupported stage to the start. Any other error lies behind the header and not behind the declared
length, and comes from an instruction or a word as `Program.FailsAt` says. Diagnostics, which a shader
has all of, name instructions that the reader yields, in their order. -/
theorem lowerBytes_points (bytes : List UInt8) (options : Options) :
    (∀ e, lowerBytes bytes options = .error e →
      (∃ d, Program.ofBytes bytes = .error d ∧ e = .ofDecode d ∧
        (e.position = 0 ∨ e.position = 1)) ∨
      ∃ p, Program.ofBytes bytes = .ok p ∧
        (e = ⟨0, none, .unsupportedStage p.stage⟩ ∨
          p.FailsAt options e ∧ 2 ≤ e.position ∧ e.position ≤ p.declaredLength)) ∧
    (∀ s, lowerBytes bytes options = .ok s →
      ∃ p, Program.ofBytes bytes = .ok p ∧ s.diagnostics = p.recorded options) ∧
    ∀ p, Program.ofBytes bytes = .ok p →
      (∀ d ∈ p.recorded options, ∃ i, .ok i ∈ p.instructions.items ∧ d.Names i) ∧
      (p.recorded options).Pairwise fun d d' => d.position ≤ d'.position := by
  refine ⟨fun e he => ?_, fun s hs => ?_, fun p _ => p.recorded_names options⟩
  · rcases hp : Program.ofBytes bytes with d | p
    · left
      rw [lowerBytes, hp] at he
      obtain rfl := Except.error.inj he
      exact ⟨d, rfl, rfl, Program.position_of_ofBytes_eq_error hp⟩
    · right
      rw [Program.lowerBytes_of_ofBytes hp] at he
      refine ⟨p, rfl, (Program.failsAt_of_lower he).imp_right fun hfails => ⟨hfails, ?_⟩⟩
      rw [Program.declaredLength_of_ofBytes hp]
      exact hfails.range
  · rcases hp : Program.ofBytes bytes with d | p
    · rw [lowerBytes, hp] at hs
      cases hs
    · rw [Program.lowerBytes_of_ofBytes hp] at hs
      exact ⟨p, rfl, Program.diagnostics_of_lower hs⟩

/-- A pixel program whose second instruction, the declaration of a texture, ends where its return
types should stand. -/
def resourceWithoutTypes : Program :=
  ⟨.pixel, ⟨4, 0⟩, [0x00000040, 7, 0x02000068, 1, 0x03001858, 0x00107000, 3]⟩

/-- The word that is missed is reported at the end of the declaration, which is also the declared end
of the program. -/
theorem resourceWithoutTypes_points :
    ∃ e, lowerBytes resourceWithoutTypes.toBytes .standard = .error e ∧
      e = ⟨4, some .dclResource, .decode (.endOfStream 7)⟩ ∧
      resourceWithoutTypes.FailsAt .standard e ∧ 2 ≤ e.position ∧
      e.position ≤ resourceWithoutTypes.declaredLength := by
  have hfails : lowerBytes resourceWithoutTypes.toBytes .standard =
      .error ⟨4, some .dclResource, .decode (.endOfStream 7)⟩ := by decide +kernel
  have hread : Program.ofBytes resourceWithoutTypes.toBytes = .ok resourceWithoutTypes := rfl
  refine ⟨_, hfails, rfl, ?_⟩
  rcases (lowerBytes_points resourceWithoutTypes.toBytes .standard).1 _ hfails with
    ⟨d, hd, -⟩ | ⟨p, hp, hpoints⟩
  · rw [hread] at hd
    cases hd
  · obtain rfl := Except.ok.inj (hread.symm.trans hp)
    exact hpoints.resolve_left (by decide)

end ShaderLowering
