import ShaderLowering.Proofs.Lowering.Storing

/-!
# What dot products multiply

The code of dp2, dp3 and dp4 multiplies the first two, three or four components that its sources show,
whatever the mask of the destination is. There is one exception: where both sources are registers or
elements that are selected by masks of several components, as many of them are multiplied as the masks
have. If the masks do not have as many as the opcode says, this is not what the opcode says.
-/

namespace ShaderLowering

open Spirv

variable {P : Platform} {l : Launch P} {E : Environment P} {R : Registers} {M : Memory P}

/-- How many components a dot product is meant to multiply. -/
def Opcode.dotWidth? : Opcode → Option Nat
  | .dp2 => some 2
  | .dp3 => some 3
  | .dp4 => some 4
  | _ => none

/-- The code that a module has grown by multiplies two vectors that stand for components. -/
def Spirv.Launch.Multiplies (l : Launch P) (m m' : Module) (x y : Lanes) : Prop :=
  ∃ code type id v w, m'.body.toList = m.body.toList ++ code ∧
    ⟨.dot, some type, some id, [v.id, w.id]⟩ ∈ code ∧ l.Carries m' v x ∧ l.Carries m' w y

theorem Spirv.Launch.Multiplies.mono {m₀ m m' m'' : Module} {x y : Lanes}
    (h : l.Multiplies m m' x y) (hm : m₀.Grows m) (hm' : m'.Continues m'') :
    l.Multiplies m₀ m'' x y := by
  obtain ⟨code, type, id, v, w, hcode, hmem, hv, hw⟩ := h
  obtain ⟨code', hcode', hmem'⟩ := Module.Emits.mono ⟨code, hcode, hmem⟩ hm hm'.toGrows
  exact ⟨code', type, id, v, w, hcode', hmem', hv.mono hm', hw.mono hm'⟩

namespace Lower

variable {α β : Type} {s : LowerState} {v w : Value} {x y : Lanes} {o : Operand}

/-! ## Products -/

theorem reads_dot (hs : Ready l E R M s.generator) (hv : l.Carries s.generator.module v x)
    (hw : l.Carries s.generator.module w y) (htwo : 2 ≤ x.words.length) :
    Reads l E R M s (generate (Generate.dot v w)) fun z g =>
      x.type = y.type ∧ l.Carries g.module z ⟨.float32, [P.dot x.words y.words]⟩ ∧
      l.Multiplies s.generator.module g.module x y := by
  -- types that differ and integers are refused, and then there is nothing to show
  by_cases ht : v.type = w.type ∧ v.type.scalar = .float32
  · obtain ⟨ht, hf⟩ := ht
    have hreads := reads_value hs (Generate.computes_dot v w)
      ((Generate.keeps_dot hs.wellFormed hv.value hw.value).imp fun _ _ h => h.2)
      (Generate.settles_dot hs.wellFormed hs.reaches hv.value hv.shows hw.shows)
    have hmany : ¬v.type.count = 1 := by
      rw [hv.shows.denotes.count]
      omega
    have hdot : Generate.dot v w = Generate.emit .dot ⟨.float32, 1⟩ [v.id, w.id] := by
      simp only [Generate.dot, Generate.expectSameType_of_eq ht, pure_bind, Generate.missing_bind]
      rw [if_neg (not_not_intro hf), if_neg hmany]
    refine ⟨fun z s' hrun => ?_⟩
    obtain ⟨hc, hs', hz⟩ := hreads.of_run z s' hrun
    refine ⟨hc, hs', by rw [← hv.shows.type, ht, hw.shows.type], ?_, ?_⟩
    · rwa [Lanes.dot, if_neg (by omega)] at hz
    · obtain ⟨t, id, code, hcode, hmem⟩ :=
        Generate.emits_emit .dot ⟨.float32, 1⟩ [v.id, w.id] s.generator
      refine ⟨code, t, id, v, w, ?_, hmem, hv.mono hc.continues, hw.mono hc.continues⟩
      rw [run_generate] at hrun
      rw [← hcode, ← hdot, ← (Prod.mk.inj hrun).2]
  · have hthrow : ∃ e, Generate.dot v w = throw e := by
      by_cases hsame : v.type = w.type
      · simp only [Generate.dot, Generate.expectSameType_of_eq hsame, pure_bind,
          Generate.missing_bind]
        exact ⟨_, if_pos fun hf => ht ⟨hsame, hf⟩⟩
      · rw [Generate.dot, Generate.expectSameType_of_ne hsame, Generate.fault_bind]
        exact ⟨_, rfl⟩
    obtain ⟨e, he⟩ := hthrow
    rw [he]
    exact .throw

/-! ## Instructions -/

/-- What a source of a dot product is loaded as. -/
theorem places_firstN {n : Nat} (hfour : n ≤ 4) :
    o.places (.firstN n) = List.range (o.ownWidth?.getD n) := by
  rw [Operand.places]
  split
  · next hw => rw [hw, Option.getD_some]
  · next hw => rw [hw, Option.getD_none, Generate.components_firstN hfour]

/-- A source shows no single component of its own. -/
theorem ownWidth?_ne_one : o.ownWidth? ≠ some 1 := by
  rw [Operand.ownWidth?]
  split
  · decide
  · split
    · split
      · decide
      · next h => exact fun hone => h (Option.some.inj hone)
    · decide

/-- Single components are repeated, so whatever a source of a dot product shows has at least two. -/
theorem two_le_length_places {m : Module} {scalar : ScalarType} {f : Nat → Word} {n : Nat}
    (htwo : 2 ≤ n) (hfour : n ≤ 4)
    (hv : l.Carries m v ⟨scalar, (o.places (.firstN n)).map f⟩) :
    2 ≤ (o.places (.firstN n)).length := by
  have hpos := hv.value.positive
  rw [hv.shows.denotes.count, List.length_map] at hpos
  rw [places_firstN hfour, List.length_range] at hpos ⊢
  cases hw : o.ownWidth? with
  | none => exact htwo
  | some w =>
    have hne : w ≠ 1 := fun hone => ownWidth?_ne_one (o := o) (hone ▸ hw)
    rw [hw, Option.getD_some] at hpos
    rw [Option.getD_some]
    omega

/-- The components that an operand shows in the first places. -/
def firstShown (E : Environment P) (R : Registers) (o : Operand) (w : Nat) : Lanes :=
  ⟨.float32, (List.range w).map (o.read E R)⟩

/-- A dot product multiplies what both sources show, as many components as both show. -/
theorem ends_dot (hs : Ready l E R M s.generator) (i : Instruction) {n : Nat} (htwo : 2 ≤ n)
    (hfour : n ≤ 4) : Ends s (dot i n) fun g => ∃ target a b rest w r id,
      i.operandList = target :: a :: b :: rest ∧
      a.ownWidth?.getD n = w ∧ b.ownWidth?.getD n = w ∧
      target.register? = some r ∧ g.registerId? r = some id ∧
      l.Multiplies s.generator.module g.module (firstShown E R a w) (firstShown E R b w) ∧
      l.Reaches g.module (written i M R target r id fun _ =>
        P.dot (firstShown E R a w).words (firstShown E R b w).words) := by
  have hcount : 1 ≤ (ComponentMask.firstN n).count := by
    rw [ComponentMask.count, Generate.components_firstN hfour, List.length_range]
    omega
  refine (reads_binaryOperands hs i).ends fun operands s₁ hc₁ hs₁ hoperands => ?_
  obtain ⟨target, a, b⟩ := operands
  obtain ⟨rest, hi⟩ := hoperands
  refine (reads_targetMask hs₁).ends fun mask s₂ hc₂ hs₂ hmask => ?_
  subst hmask
  refine (reads_load a s₂ (.firstN n) .float32 hs₂ hcount).ends fun v s₃ hc₃ hs₃ hv => ?_
  refine (reads_load b s₃ (.firstN n) .float32 hs₃ hcount).ends fun u s₄ hc₄ hs₄ hu => ?_
  have hlength := two_le_length_places htwo hfour hv
  rw [places_firstN hfour] at hv hu hlength
  have hv₄ := hv.mono hc₄.continues
  refine (reads_dot hs₄ hv₄ hu (by rwa [List.length_map])).ends fun z s₅ hc₅ hs₅ hz => ?_
  obtain ⟨htype, hz, hmultiplies⟩ := hz
  intro s' hrun
  obtain ⟨hc, r, id, hr, hid, hM⟩ := ends_storeResult hs₅ hz i s' hrun
  rw [written_single] at hM
  -- the product of vectors of different lengths was refused
  have hwidth : a.ownWidth?.getD n = b.ownWidth?.getD n := by
    have hlengths := congrArg ValueType.count htype
    simpa only [Lanes.type, List.length_map, List.length_range] using hlengths
  -- the loads add code as well, before the product
  have hbefore := hc₁.trans (hc₂.trans (hc₃.trans hc₄))
  refine ⟨hc, target, a, b, rest, _, r, id, hi, rfl, hwidth.symm, hr, hid, ?_, ?_⟩
  · rw [← hwidth] at hmultiplies
    exact hmultiplies.mono hbefore.module hc.continues
  · rw [← hwidth] at hM
    exact hM

end Lower

/-! ## The handler -/

namespace Lower

/-- What is known of a dot product that is not left out, in terms of a launch. -/
theorem exists_product {g : Generator} {i : Instruction} {n : Nat} {gaps : List Gap}
    (hi : i.opcode.dotWidth? = some n) (hs : Ready l E R M g) (hok : (g.handle i).outcome = .ok gaps)
    (hgaps : ∀ gap ∈ gaps, gap.isSkip = false) :
    ∃ target a b rest r id w, i.operandList = target :: a :: b :: rest ∧
      (w = n ∨ a.ownWidth? = some w ∧ b.ownWidth? = some w) ∧
      target.register? = some r ∧ g.registerId? r = some id ∧
      l.Multiplies g.module (g.handle i).generator.module (firstShown E R a w)
        (firstShown E R b w) ∧
      l.Reaches (g.handle i).generator.module (written i M R target r id fun _ =>
        P.dot (firstShown E R a w).words (firstShown E R b w).words) := by
  have hinstruction : instruction i = dot i n ∧ 2 ≤ n ∧ n ≤ 4 ∧
      i.opcode.isComputation = true := by
    unfold Opcode.dotWidth? at hi
    split at hi
    iterate 3
      next h =>
      cases hi
      exact ⟨by rw [instruction, h], by decide, by decide, by rw [h]; rfl⟩
    · cases hi
  obtain ⟨hdot, htwo, hfour, hcomputation⟩ := hinstruction
  have hrun := Generator.run_of_handle hok hgaps
  rw [hdot] at hrun
  obtain ⟨hc, target, a, b, rest, w, r, id, hoperands, ha, hb, hr, hid, hmultiplies, hM'⟩ :=
    ends_dot (s := ⟨g, []⟩) hs i htwo hfour _ hrun
  have hsame := (g.storesOnce_handle hcomputation hok hgaps).registers
  refine ⟨target, a, b, rest, r, id, w, hoperands, ?_, hr, hsame.registerId?_eq r ▸ hid,
    hmultiplies, hM'⟩
  cases hwa : a.ownWidth? with
  | none => exact .inl (by rw [← ha, hwa, Option.getD_none])
  | some k =>
    cases hwb : b.ownWidth? with
    | none => exact .inl (by rw [← hb, hwb, Option.getD_none])
    | some k' =>
      rw [hwa, Option.getD_some] at ha
      rw [hwb, Option.getD_some] at hb
      exact .inr ⟨by rw [ha], by rw [hb]⟩

end Lower

/-- Code multiplies two vectors of floating-point numbers that stand for components in a state. -/
def Spirv.Module.Multiplies (m : Module) (code : List Inst) (t : State P) (xs ys : List Word) :
    Prop :=
  ∃ type id v u, ⟨.dot, some type, some id, [v.id, u.id]⟩ ∈ code ∧
    (m.HasValue v ∧ v.type = ⟨.float32, xs.length⟩ ∧ t.lanes v.id = some xs) ∧
    m.HasValue u ∧ u.type = ⟨.float32, ys.length⟩ ∧ t.lanes u.id = some ys

/-- Where a dot product is not left out, the code that its handler adds multiplies what both sources
show in the first places, and stores the product to the masked components of the destination. These are
as many places as the opcode says, unless both sources show another number of components of their
own. -/
theorem Generator.multiplies_handle {g : Generator} {i : Instruction} {n : Nat} {gaps : List Gap}
    (hi : i.opcode.dotWidth? = some n) (hg : g.WellFormed)
    (hfit : (g.handle i).generator.module.bound < UInt32.size)
    (hok : (g.handle i).outcome = .ok gaps) (hgaps : ∀ gap ∈ gaps, gap.isSkip = false)
    {s : State P} (hs : State.run ⟨fun _ => none, M⟩
      ((g.handle i).generator.module.known ++ g.module.body.toList) = some s)
    (hR : Represents g E R s.memory) :
    ∃ target a b rest r id w code t, i.operandList = target :: a :: b :: rest ∧
      (w = n ∨ a.ownWidth? = some w ∧ b.ownWidth? = some w) ∧
      target.register? = some r ∧ g.registerId? r = some id ∧
      (g.handle i).generator.module.body.toList = g.module.body.toList ++ code ∧
      s.run code = some t ∧
      (g.handle i).generator.module.Multiplies code t
        ((List.range w).map (a.read E R)) ((List.range w).map (b.read E R)) ∧
      t.memory = Lower.written i s.memory R target r id fun _ =>
        P.dot ((List.range w).map (a.read E R)) ((List.range w).map (b.read E R)) := by
  obtain ⟨hgrows, hG⟩ := hg.handle i
  obtain ⟨target, a, b, rest, r, id, w, hoperands, hw, hr, hid, hmultiplies, hM'⟩ :=
    Lower.exists_product hi ⟨hg, hG.reaches_launch hfit hs, hR⟩ hok hgaps
  obtain ⟨code, type, product, v, u, hcode, hmem, hv, hu⟩ := hmultiplies
  obtain ⟨code', t, hcode', hrun, hmemory, ht⟩ := hG.exists_run hfit hgrows hs hM'
  obtain rfl : code = code' := List.append_cancel_left (hcode.symm.trans hcode')
  have hclosed := hG.closed.1
  refine ⟨target, a, b, rest, r, id, w, code, t, hoperands, hw, hr, hid, hcode, hrun, ?_, hmemory⟩
  exact ⟨type, product, v, u, hmem, ⟨hv.value, hv.shows.type, hv.shows.denotes.lanes hclosed ht⟩,
    hu.value, hu.shows.type, hu.shows.denotes.lanes hclosed ht⟩

/-! ### Sources that are selected by masks -/

/-- A vertex shader with three temporary registers. -/
def threeTemps : Generator := ((Generate.declareTemps 3).run (.start .vertex .standard)).2

/-- The product of two components of two registers: the last ones of one, turned around by a swizzle,
and the first ones of the other, selected by a mask. -/
def dotMixed : Instruction :=
  ⟨4, ⟨0x0700000f⟩, .dp2, [], [0x00100012, 0, 0x001001b6, 1, 0x00100032, 2]⟩

/-- What a register shows without modifiers. -/
theorem Operand.component_of_register {o : Operand} {r : Register} (htype : o.type = .temp)
    (hr : o.register? = some r) (hm : o.modifiers = .none) (scalar : ScalarType) (i : Nat) :
    o.component E R scalar i = R r (o.shownLane i) := by
  rw [component, laneValue_eq, htype, place?, htype, hr, hm]
  rfl

theorem threeTemps_wellFormed : (Generator.start .vertex .standard).Continues threeTemps ∧
    threeTemps.WellFormed ∧
    threeTemps.module.body = (Generator.start .vertex .standard).module.body := by
  rw [threeTemps]
  exact (Generate.keeps_declareTemps (Generator.wellFormed_start .vertex .standard) 3).declared
    (Generate.leavesCode_declareTemps 3)

/-- Any registers can be held by the variables behind the declarations of a vertex shader with three
temporary registers that goes on. -/
theorem exists_state_threeTemps {g : Generator} (hg : threeTemps.Grows g) (hw : g.WellFormed)
    (hfit : g.module.bound < UInt32.size) (E : Environment P) (R : Registers)
    (hstage : E.stage = .vertex) : ∃ (M : Memory P) (s : State P), Represents threeTemps E R s.memory ∧
      State.run ⟨fun _ => none, M⟩ (g.module.known ++ threeTemps.module.body.toList) = some s := by
  obtain ⟨hc, hthree, hbody⟩ := threeTemps_wellFormed
  have hnone : ∀ d ∈ threeTemps.resources, d.form.kind ≠ .shaderResource := by decide +kernel
  exact hthree.exists_state hc hbody hnone hw hfit hg E R hstage

/-- Two components of each are multiplied. -/
theorem multiplies_dotMixed :
    dotMixed.opcode.dotWidth? = some 2 ∧ (threeTemps.handle dotMixed).outcome.toOption = some [] ∧
    ∀ (P : Platform) (E : Environment P) (R : Registers), E.stage = .vertex →
      ∃ (M : Memory P) (s t : State P) (code : List Inst), Represents threeTemps E R s.memory ∧
        State.run ⟨fun _ => none, M⟩ ((threeTemps.handle dotMixed).generator.module.known ++
          threeTemps.module.body.toList) = some s ∧
        (threeTemps.handle dotMixed).generator.module.body.toList =
          threeTemps.module.body.toList ++ code ∧
        s.run code = some t ∧ t.memory 8 = .lanes
          [P.dot [R (.temp 1) 3, R (.temp 1) 2] [R (.temp 2) 0, R (.temp 2) 1], R (.temp 0) 1,
            R (.temp 0) 2, R (.temp 0) 3] := by
  have hwidth : dotMixed.opcode.dotWidth? = some 2 := rfl
  have hfit : (threeTemps.handle dotMixed).generator.module.bound < UInt32.size := by decide +kernel
  have hsome : (threeTemps.handle dotMixed).outcome.toOption = some [] := by decide +kernel
  refine ⟨hwidth, hsome, fun P E R hstage => ?_⟩
  have hok : (threeTemps.handle dotMixed).outcome = .ok [] := by
    rcases h : (threeTemps.handle dotMixed).outcome with e | gaps <;> rw [h] at hsome <;>
      cases hsome
    rfl
  obtain ⟨-, hg, -⟩ := threeTemps_wellFormed
  obtain ⟨hgrows, hw⟩ := hg.handle dotMixed
  obtain ⟨M, s, hR, hs⟩ := exists_state_threeTemps hgrows hw hfit E R hstage
  obtain ⟨target, a, b, rest, r, id, w, code, t, hoperands, hw, hr, hid, hcode, ht, -, hmemory⟩ :=
    Generator.multiplies_handle hwidth hg hfit hok (List.forall_mem_nil _) hs hR
  have hshapes : dotMixed.operandList.map (fun o => (o.type, o.register?, o.modifiers)) =
      [(.temp, some (.temp 0), .none), (.temp, some (.temp 1), .none),
        (.temp, some (.temp 2), .none)] := by decide +kernel
  have hlanes : dotMixed.operandList.map (fun o => (o.shownLane 0, o.shownLane 1)) =
      [(0, 0), (3, 2), (0, 1)] := by decide +kernel
  have hwidths : dotMixed.operandList.map (fun o => (o.ownWidth?, o.writeMask)) =
      [(none, .single 0), (none, .empty), (some 2, ⟨true, true, false, false⟩)] := by
    decide +kernel
  have hvariable : threeTemps.registerId? (.temp 0) = some 8 := by decide +kernel
  rw [hoperands] at hshapes hlanes hwidths
  simp only [List.map_cons, List.cons.injEq, Prod.mk.injEq] at hshapes hlanes hwidths
  obtain ⟨⟨-, ht₀, -⟩, ⟨hta, hra, hma⟩, ⟨htb, hrb, hmb⟩, -⟩ := hshapes
  obtain ⟨-, ⟨ha₀, ha₁⟩, ⟨hb₀, hb₁⟩, -⟩ := hlanes
  obtain ⟨⟨-, hmask⟩, ⟨hwa, -⟩, -⟩ := hwidths
  cases ht₀.symm.trans hr
  cases hvariable.symm.trans hid
  have htwo : w = 2 := by
    rcases hw with hw | ⟨hw, -⟩
    · exact hw
    · rw [hwa] at hw
      cases hw
  subst htwo
  refine ⟨M, s, t, code, hR, hs, hcode, ht, ?_⟩
  rw [hmemory, Lower.written, Memory.write_self, hmask]
  simp only [List.range, List.range.loop, List.map_cons, List.map_nil, Operand.read,
    Operand.component_of_register hta hra hma, Operand.component_of_register htb hrb hmb, ha₀, ha₁,
    hb₀, hb₁]
  rfl

/-- Two registers that are both selected by masks of four components. -/
def dotMasked : Instruction :=
  ⟨4, ⟨0x0700000f⟩, .dp2, [], [0x00100012, 0, 0x001000f2, 1, 0x001000f2, 2]⟩

/-- All four components of each are multiplied, though the opcode says two. -/
theorem dotMasked_multiplies_four :
    dotMasked.opcode.dotWidth? = some 2 ∧
    (threeTemps.handle dotMasked).outcome.toOption = some [] ∧
    ⟨.typeVector, none, some 6, [5, 4]⟩ ∈
      (threeTemps.handle dotMasked).generator.module.globals.toList ∧
    (threeTemps.handle dotMasked).generator.module.body.toList =
      threeTemps.module.body.toList ++
        [⟨.load, some 6, some 11, [9]⟩, ⟨.load, some 6, some 12, [10]⟩,
         ⟨.dot, some 5, some 13, [11, 12]⟩, ⟨.load, some 6, some 14, [8]⟩,
         ⟨.compositeInsert, some 6, some 15, [13, 14, 0]⟩, .effect .store [8, 15]] := by
  decide +kernel

end ShaderLowering
