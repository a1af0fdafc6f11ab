import ShaderLowering.Proofs.Lowering.Arithmetic

/-!
# Which elements computations read

Whatever computation is lowered without a diagnostic, and whatever elements of constant buffers its
sources name, as deep as their indices are nested: for each of them, the code takes the address of the
element whose number is what the index says plus what its register shows first, modulo `2 ^ 32`
(`Lowering.addresses_process`). Two indices that say numbers of 64 bits with the same lower half name
the same element (`wideElement_truncated`).
-/

namespace ShaderLowering

open Spirv

variable {P : Platform} {l : Launch P} {E : Environment P} {R : Registers} {M : Memory P}

namespace Lower

variable {s : LowerState} {v : Value} {x : Lanes} {o : Operand} {i : Instruction}

theorem reads_expectType (hs : Ready l E R M s.generator) (type : OperandType)
    (role : OperandRole) :
    Reads l E R M s (expectType o type role) fun _ _ => o.type = type := by
  rw [expectType]
  split
  · exact .throw
  · next h => exact .pure hs (Decidable.not_not.1 h)

theorem reads_gap (hs : Ready l E R M s.generator) (g : Gap) :
    Reads l E R M s (gap g) fun _ _ => True := by
  refine ⟨fun u s' hrun => ?_⟩
  cases hrun
  exact ⟨.refl _, hs, trivial⟩

/-! ## Texels -/

/-- Whatever is declared as a texture has components of a type. -/
theorem exists_suits (g : Generator) (E : Environment P) :
    ∃ E' : Surroundings P, E'.toEnvironment = E ∧ E'.Suits g := by
  refine ⟨⟨E, fun n => ((g.resource? .shaderResource n).bind (·.sampled?)).getD .float32⟩, rfl, ?_⟩
  intro n d hd
  obtain ⟨-, hkind, -⟩ := Generator.resource?_eq_some hd
  obtain ⟨register, slot, variableId, form⟩ := d
  cases form with
  | constantBuffer | sampler => cases hkind
  | image imageType dim sampled => simp only [hd, Option.bind_some, DeclaredResource.sampled?,
      Option.getD_some]

/-- A texel that is sampled stands for components. -/
theorem reads_sample (hs : Ready l E R M s.generator) (hv : l.Carries s.generator.module v x)
    (texture sampler : Word) :
    Reads l E R M s (generate (Generate.sample texture sampler v)) fun w g =>
      ∃ y : Lanes, l.Carries g.module w y := by
  obtain ⟨E', rfl, hE'⟩ := exists_suits s.generator E
  exact (reads_value hs (Generate.computes_sample texture sampler v)
    (Generate.keeps_sample hs.wellFormed texture sampler hv.value)
    (Generate.settles_sample hs.wellFormed hs.reaches hs.represents hE' hv.value hv.shows texture
      sampler)).imp fun w g hw => ⟨_, hw⟩

/-- What an operand that names no number selects of a value stands for components. -/
theorem reads_selected (hs : Ready l E R M s.generator) (htype : o.type ≠ .imm32)
    (hv : l.Carries s.generator.module v x) (mask : ComponentMask) :
    Reads l E R M s (select o v mask) fun w g => ∃ y : Lanes, l.Carries g.module w y := by
  cases hselection : o.selection? with
  | none =>
    rw [select, hselection]
    exact .throw
  | some selection =>
    have hfour := Operand.componentCount_of_selection? hselection
    exact (reads_select hs htype hfour hv mask).imp fun w g hw => ⟨_, hw⟩

/-! ## Handlers -/

/-- The code of a handler has come to its end, and takes the addresses of the elements that the sources
of an instruction involve. -/
def Addressed (l : Launch P) (E : Environment P) (R : Registers) (i : Instruction)
    (g g' : Generator) : Prop :=
  (∀ o ∈ i.sources, o.Addresses l E R g g') ∧ ∃ M', l.Reaches g'.module M'

/-- The coordinate of a texel is loaded before the texture is sampled. -/
theorem ends_sample (hs : Ready l E R M s.generator) (hcount : i.opcode.sourceCount = 1) :
    Ends s (sample i) fun g => Addressed l E R i s.generator g := by
  refine (reads_operands hs i).ends fun os s₁ hc₁ hs₁ h => ?_
  obtain ⟨target, coordinate, texture, sampler⟩ := os
  obtain ⟨next, h⟩ := h
  obtain ⟨_, c₁, h₁, h⟩ := Decoder.bind_eq_ok.1 h
  obtain ⟨_, c₂, h₂, h⟩ := Decoder.bind_eq_ok.1 h
  obtain ⟨_, c₃, h₃, h⟩ := Decoder.bind_eq_ok.1 h
  obtain ⟨_, c₄, h₄, h⟩ := Decoder.bind_eq_ok.1 h
  obtain ⟨⟨⟩, -⟩ := Decoder.pure_eq_ok.1 h
  have hi : i.operandList = target :: ([coordinate] ++ c₂.operands.operands) := by
    rw [Instruction.operandList, operands_of_decode h₁, operands_of_decode h₂]
    rfl
  refine (reads_expectType hs₁ _ _).ends fun _ s₂ hc₂ hs₂ htexture => ?_
  refine (reads_expectDimension hs₂ _ _).ends fun _ s₃ hc₃ hs₃ _ => ?_
  refine (reads_expectType hs₃ _ _).ends fun _ s₄ hc₄ hs₄ _ => ?_
  refine (reads_expectDimension hs₄ _ _).ends fun _ s₅ hc₅ hs₅ _ => ?_
  refine (reads_plainIndex hs₅ _ _).ends fun textureRegister s₆ hc₆ hs₆ _ => ?_
  refine (reads_plainIndex hs₆ _ _).ends fun samplerRegister s₇ hc₇ hs₇ _ => ?_
  have hbefore := hc₁.trans (hc₂.trans (hc₃.trans (hc₄.trans (hc₅.trans (hc₆.trans hc₇)))))
  have hregister : texture.type ≠ .imm32 := by
    rw [htexture]
    decide
  have hrest (s₈ : LowerState) (hc₈ : s.generator.Continues s₈.generator)
      (hs₈ : Ready l E R M s₈.generator) : Ends s₈ (do
        let mask ← targetMask target
        let coordinate ← load coordinate .xyzw .float32
        let v ← generate (Generate.sample textureRegister samplerRegister coordinate)
        let v ← select texture v mask
        storeResult i target v mask) fun g => Addressed l E R i s.generator g := by
    refine (reads_targetMask hs₈).ends fun mask s₉ hc₉ hs₉ hmask => ?_
    subst hmask
    refine (finds_load coordinate s₉ .xyzw .float32 hs₉ (by decide)).ends
      fun v s₁₀ hc₁₀ hs₁₀ hv => ?_
    refine (reads_sample hs₁₀ hv.1 _ _).ends fun texel s₁₁ hc₁₁ hs₁₁ htexel => ?_
    obtain ⟨y, htexel⟩ := htexel
    refine (reads_selected hs₁₁ hregister htexel _).ends fun w s₁₂ hc₁₂ hs₁₂ hw => ?_
    obtain ⟨z, hw⟩ := hw
    intro s' hrun
    obtain ⟨hc, r, id, -, -, hM'⟩ := ends_storeResult hs₁₂ hw i s' hrun
    refine ⟨hc, ?_, _, hM'⟩
    rw [Instruction.sources_of_operandList hi hcount]
    intro o ho
    obtain rfl := List.mem_singleton.1 ho
    exact hv.2.mono (hc₈.trans hc₉).toGrows (hc₁₁.trans (hc₁₂.trans hc))
  dsimp only
  split
  · exact (reads_gap hs₇ _).ends fun _ s₈ hc₈ hs₈ _ => hrest s₈ (hbefore.trans hc₈) hs₈
  · exact hrest s₇ hbefore hs₇

/-- Every computation takes the addresses of all elements that its sources involve. -/
theorem ends_addressed (hs : Ready l E R M s.generator) (hi : i.opcode.isComputation = true) :
    Ends s (instruction i) fun g => Addressed l E R i s.generator g := by
  by_cases harithmetic : i.opcode.isArithmetic = true
  · refine (ends_arithmetic hs harithmetic).imp fun g h => ?_
    obtain ⟨target, r, id, xs, -, haddresses, -, -, -, hM'⟩ := h
    exact ⟨haddresses, _, hM'⟩
  · have hsample : i.opcode = .sample := by
      revert hi harithmetic
      cases i.opcode <;> simp [Opcode.isComputation, Opcode.isArithmetic]
    rw [instruction, hsample]
    exact ends_sample hs (by rw [hsample]; rfl)

end Lower

/-- Where a computation is lowered without a diagnostic, its code takes the address of each element
that its sources involve, in the constant buffer that is named, by a number of 32 bits: what the index
says, of which only the lower half counts if it is wide, plus what its register shows first. -/
theorem Lowering.addresses_process {L : Lowering} {i : Instruction}
    (hi : i.opcode.isComputation = true) (hL : L.generator.WellFormed)
    (hfit : (L.process i).2.generator.module.bound < UInt32.size)
    (hok : (L.process i).1 = .ok ()) (hsilent : (L.process i).2.diagnostics = L.diagnostics)
    {s : State P} (hs : State.run ⟨fun _ => none, M⟩
      ((L.process i).2.generator.module.known ++ L.generator.module.body.toList) = some s)
    (hR : Represents L.generator E R s.memory) {o c : Operand} (ho : o ∈ i.sources)
    (hinvolved : o.Involves c) (hc : c.type = .constantBuffer) :
    ∃ buffer index d code t type id member element,
      c.index32? 0 = some buffer ∧ c.indices[1]? = some index ∧
      L.generator.resource? .constantBuffer buffer = some d ∧
      (L.process i).2.generator.module.body.toList = L.generator.module.body.toList ++ code ∧
      s.run code = some t ∧
      ⟨.accessChain, some type, some id, [d.variableId, member, element]⟩ ∈ code ∧
      t.lanes member = some [0] ∧
      t.lanes element = some [UInt32.ofNat index.immediate +
        (index.register?.map fun r => r.component E R .uint32 0).getD 0] := by
  have houtcome := outcome_of_process hok hsilent
  rw [generator_process] at hfit hs ⊢
  obtain ⟨hgrows, hG⟩ := hL.handle i
  have hreaches := hG.reaches_launch hfit hs
  obtain ⟨-, haddresses, M', hM'⟩ := Lower.ends_addressed (s := ⟨L.generator, []⟩)
    ⟨hL, hreaches, hR⟩ hi _ (Generator.run_of_handle houtcome (List.forall_mem_nil _))
  obtain ⟨buffer, index, d, hbuffer, hindex, hd, type, id, member, element, hemits, hmember,
    helement⟩ := haddresses o ho c hinvolved hc
  obtain ⟨code, hcode, hmem⟩ := hemits
  -- a computation changes nothing in the declared resources
  have hsame := (L.generator.storesOnce_handle hi houtcome (List.forall_mem_nil _)).registers
  rw [Generator.resource?, hsame.resources] at hd
  obtain ⟨code', t, hcode', ht, -, hstate⟩ := hG.exists_run hfit hgrows hs hM'
  obtain rfl : code = code' := List.append_cancel_left (hcode.symm.trans hcode')
  rw [Operand.elementNumber_eq] at helement
  exact ⟨buffer, index, d, code, t, type, id, member, element, hbuffer, hindex, hd, hcode, ht, hmem,
    State.lanes_of_values (hmember hG.closed.1 t hstate),
    State.lanes_of_values (helement hG.closed.1 t hstate)⟩

/-! ### Elements of one constant buffer -/

/-- A vertex shader with two temporary registers and a constant buffer of eight elements. -/
def bufferAndTemps : Generator :=
  ((Generate.declareConstantBuffer 0 8).run
    ((Generate.declareTemps 2).run (.start .vertex .standard)).2).2

theorem bufferAndTemps_wellFormed : (Generator.start .vertex .standard).Continues bufferAndTemps ∧
    bufferAndTemps.WellFormed ∧
    bufferAndTemps.module.body = (Generator.start .vertex .standard).module.body := by
  rw [bufferAndTemps]
  obtain ⟨hc₁, hg₁, hbody₁⟩ :=
    (Generate.keeps_declareTemps (Generator.wellFormed_start .vertex .standard) 2).declared
      (Generate.leavesCode_declareTemps 2)
  obtain ⟨hc₂, hg₂, hbody₂⟩ := (Generate.keeps_declareConstantBuffer hg₁ 0 8).declared
    (Generate.leavesCode_declareConstantBuffer 0 8)
  exact ⟨hc₁.trans hc₂, hg₂, hbody₂.trans hbody₁⟩

/-- The start of a lowering of that shader. -/
def lowerBufferAndTemps : Lowering := ⟨false, bufferAndTemps, []⟩

theorem generator_lowerBufferAndTemps : lowerBufferAndTemps.generator = bufferAndTemps := by
  rw [lowerBufferAndTemps]

/-- The move `r0.x = cb0[r1.y + 4].z`. -/
def moveIndexed : Instruction :=
  ⟨4, ⟨0x08000036⟩, .mov, [], [0x00100012, 0, 0x0620802a, 0, 4, 0x0010001a, 1]⟩

/-- The element is the one that lies four behind the one that the register numbers. -/
theorem addresses_moveIndexed :
    moveIndexed.opcode.isComputation = true ∧
    (lowerBufferAndTemps.process moveIndexed).1.toOption = some () ∧
    (lowerBufferAndTemps.process moveIndexed).2.diagnostics = lowerBufferAndTemps.diagnostics ∧
    ∀ (P : Platform) (E : Environment P) (R : Registers), E.stage = .vertex →
      ∃ (M : Memory P) (s t : State P) (code : List Inst) (type id member element : Word),
        Represents lowerBufferAndTemps.generator E R s.memory ∧
        State.run ⟨fun _ => none, M⟩
          ((lowerBufferAndTemps.process moveIndexed).2.generator.module.known ++
            lowerBufferAndTemps.generator.module.body.toList) = some s ∧
        (lowerBufferAndTemps.process moveIndexed).2.generator.module.body.toList =
          lowerBufferAndTemps.generator.module.body.toList ++ code ∧
        s.run code = some t ∧ ⟨.accessChain, some type, some id, [15, member, element]⟩ ∈ code ∧
        t.lanes element = some [4 + R (.temp 1) 1] := by
  have hcomputation : moveIndexed.opcode.isComputation = true := rfl
  have hsome : (lowerBufferAndTemps.process moveIndexed).1.toOption = some () := by decide +kernel
  have hsilent : (lowerBufferAndTemps.process moveIndexed).2.diagnostics =
      lowerBufferAndTemps.diagnostics := by decide +kernel
  have hfit : (lowerBufferAndTemps.process moveIndexed).2.generator.module.bound < UInt32.size := by
    decide +kernel
  refine ⟨hcomputation, hsome, hsilent, fun P E R hstage => ?_⟩
  have hok : (lowerBufferAndTemps.process moveIndexed).1 = .ok () := eq_ok_of_toOption hsome
  obtain ⟨hc, hg, hbody⟩ := bufferAndTemps_wellFormed
  have hnone : ∀ d ∈ lowerBufferAndTemps.generator.resources, d.form.kind ≠ .shaderResource := by
    decide +kernel
  rw [← generator_lowerBufferAndTemps] at hc hg hbody
  obtain ⟨hgrows, hw⟩ := hg.handle moveIndexed
  rw [← Lowering.generator_process] at hgrows hw
  obtain ⟨M, s, hR, hs⟩ := hg.exists_state hc hbody hnone hw hfit hgrows E R hstage
  have hshapes : moveIndexed.sources.map (fun o =>
      (o.type, o.index32? 0, o.indices[1]?.map IndexOf.immediate)) =
        [(.constantBuffer, some 0, some 4)] := by decide +kernel
  have hregisters : moveIndexed.sources.map (fun o =>
      (o.indices[1]?.bind (·.register?)).map fun r =>
        (r.type, r.register?, r.modifiers, r.shownLane 0)) =
          [some (.temp, some (.temp 1), .none, 1)] := by decide +kernel
  obtain ⟨o, rest, hsources, ho, -⟩ := List.map_eq_cons_iff.1 hshapes
  rw [hsources, List.map_cons, List.cons.injEq] at hregisters
  simp only [Prod.mk.injEq] at ho
  obtain ⟨htype, hbuffer, himmediate⟩ := ho
  have hmem : o ∈ moveIndexed.sources := by
    rw [hsources]
    exact List.mem_cons_self ..
  obtain ⟨buffer, index, d, code, t, type, id, member, element, hbuffer', hindex, hd, hcode, ht,
    hchain, -, helement⟩ := Lowering.addresses_process hcomputation hg hfit hok hsilent hs hR hmem
      (.self o) htype
  refine ⟨M, s, t, code, type, id, member, element, hR, hs, hcode, ht, ?_, ?_⟩
  · cases hbuffer.symm.trans hbuffer'
    have hvariable : (lowerBufferAndTemps.generator.resource? .constantBuffer 0).map
        (·.variableId) = some 15 := by decide +kernel
    rw [hd, Option.map_some, Option.some.injEq] at hvariable
    rwa [hvariable] at hchain
  · rw [hindex, Option.map_some, Option.some.injEq] at himmediate
    have hregister := hregisters.1
    rw [hindex, Option.bind_some] at hregister
    obtain ⟨r, hr, hshape⟩ := Option.map_eq_some_iff.1 hregister
    simp only [Prod.mk.injEq] at hshape
    obtain ⟨htemp, hname, hplain, hlane⟩ := hshape
    rw [himmediate, hr, Option.map_some, Option.getD_some,
      Operand.component_of_register htemp hname hplain, hlane] at helement
    exact helement

/-- The move `r0.x = cb0[2 ^ 32 + 1].x`, whose index has 64 bits. -/
def moveWide : Instruction :=
  ⟨4, ⟨0x07000036⟩, .mov, [], [0x00100012, 0, 0x0220800a, 0, 1, 1]⟩

/-- The move `r0.x = cb0[1].x`, with an index of 64 bits, too. -/
def moveNarrow : Instruction :=
  ⟨4, ⟨0x07000036⟩, .mov, [], [0x00100012, 0, 0x0220800a, 0, 0, 1]⟩

/-- Both are lowered without a diagnostic, and to the same code, which reads element 1. -/
theorem wideElement_truncated :
    moveWide.sources.map (·.indices.map IndexOf.immediate) = [[0, 2 ^ 32 + 1]] ∧
    moveNarrow.sources.map (·.indices.map IndexOf.immediate) = [[0, 1]] ∧
    (lowerBufferAndTemps.process moveWide).1.toOption = some () ∧
    (lowerBufferAndTemps.process moveWide).2.diagnostics = [] ∧
    (lowerBufferAndTemps.process moveNarrow).1.toOption = some () ∧
    (lowerBufferAndTemps.process moveNarrow).2.diagnostics = [] ∧
    ⟨.constant, some 10, some 16, [1]⟩ ∈
      (lowerBufferAndTemps.process moveWide).2.generator.module.globals.toList ∧
    (lowerBufferAndTemps.process moveWide).2.generator.module.body.toList =
      lowerBufferAndTemps.generator.module.body.toList ++
        [⟨.accessChain, some 17, some 19, [15, 18, 16]⟩, ⟨.load, some 6, some 20, [19]⟩,
         ⟨.compositeExtract, some 5, some 21, [20, 0]⟩, ⟨.load, some 6, some 22, [8]⟩,
         ⟨.compositeInsert, some 6, some 23, [21, 22, 0]⟩, .effect .store [8, 23]] ∧
    (lowerBufferAndTemps.process moveNarrow).2.generator.module.body =
      (lowerBufferAndTemps.process moveWide).2.generator.module.body ∧
    (lowerBufferAndTemps.process moveNarrow).2.generator.module.globals =
      (lowerBufferAndTemps.process moveWide).2.generator.module.globals := by
  decide +kernel

end ShaderLowering
