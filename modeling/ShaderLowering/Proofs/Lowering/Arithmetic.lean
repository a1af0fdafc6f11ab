import ShaderLowering.Proofs.Lowering.DotProducts
import ShaderLowering.Proofs.Lowering.Elements

/-!
# What arithmetic instructions compute from sources of any shape

An arithmetic instruction computes from the components that its sources show, whatever these are:
`Lowering.computes_process` holds of all instructions that are lowered without a diagnostic. What a
register or an element shows has gone through the modifiers of its operand, the absolute value before
the negation. Numbers show no modifiers: those of an immediate operand have no effect.
-/

namespace ShaderLowering

open Spirv

variable {P : Platform} {l : Launch P} {E : Environment P} {R : Registers} {M : Memory P}

/-! ## Sources -/

namespace Opcode

/-- How many operands of an instruction are loaded. -/
def sourceCount : Opcode → Nat
  | .mov | .rsq | .sample => 1
  | .add | .mul | .dp2 | .dp3 | .dp4 => 2
  | .mad => 3
  | _ => 0

/-- Whether an instruction computes from the components of its sources alone. -/
def isArithmetic : Opcode → Bool
  | .mov | .add | .mul | .mad | .dp2 | .dp3 | .dp4 | .rsq => true
  | _ => false

/-- The components of its sources that an arithmetic instruction asks for. -/
def asked (op : Opcode) (mask : ComponentMask) : ComponentMask :=
  match op.dotWidth? with
  | some n => .firstN n
  | none => mask

/-- What an arithmetic instruction makes of the components that its sources show. -/
def result? (P : Platform) : Opcode → List (List Word) → Option (List Word)
  | .mov, [x] => some x
  | .rsq, [x] => some (x.map P.inverseSqrt)
  | .add, [x, y] => some (List.zipWith P.add x y)
  | .mul, [x, y] => some (List.zipWith P.mul x y)
  | .mad, [x, y, z] => some (List.zipWith P.add (List.zipWith P.mul x y) z)
  | .dp2, [x, y] | .dp3, [x, y] | .dp4, [x, y] => some [P.dot x y]
  | _, _ => none

end Opcode

/-- The operands of an instruction that are loaded: the first ones behind the destination. -/
def Instruction.sources (i : Instruction) : List Operand :=
  i.operandList.tail.take i.opcode.sourceCount

theorem Instruction.sources_of_operandList {i : Instruction} {target : Operand}
    {sources rest : List Operand} (h : i.operandList = target :: (sources ++ rest))
    (hcount : i.opcode.sourceCount = sources.length) : i.sources = sources := by
  rw [Instruction.sources, h, List.tail_cons, hcount, List.take_left]

namespace Operand

/-- The component that an operand selects for a place, before its modifiers. -/
def selected (E : Environment P) (R : Registers) (o : Operand) (place : Nat) : Word :=
  if o.type = .imm32 then o.immediates.getD (o.shownLane place) 0
  else ((o.place? (elementNumbers E R o.indices)).map fun p =>
    p.read E R (o.shownLane place)).getD 0

/-- The component that a computation uses of an operand: the modifiers work on everything but
immediate numbers. -/
def used (E : Environment P) (R : Registers) (o : Operand) (place : Nat) : Word :=
  if o.type = .imm32 then o.selected E R place
  else o.modifiers.apply P .float32 (o.selected E R place)

theorem read_eq_used (o : Operand) (place : Nat) : o.read E R place = o.used E R place := by
  rw [read, component, laneValue_eq, used, selected]
  split
  · rfl
  · rfl

/-- The components that an operand shows where those of a mask are asked for. -/
def shown (E : Environment P) (R : Registers) (mask : ComponentMask) (o : Operand) : List Word :=
  (o.places mask).map (o.read E R)

end Operand

namespace Lower

variable {s : LowerState} {v w : Value} {x y : Lanes} {i : Instruction}

/-! ## Operations -/

theorem reads_mul (hs : Ready l E R M s.generator) (hv : l.Carries s.generator.module v x)
    (hw : l.Carries s.generator.module w y) : Reads l E R M s (generate (Generate.mul v w))
      fun z g => l.Carries g.module z (x.zip (x.scalar.mul P) y) :=
  reads_value hs (Generate.computes_mul _ _)
    ((Generate.keeps_mul hs.wellFormed hv.value hw.value).imp fun _ _ h => h.2)
    (Generate.settles_mul hs.wellFormed hs.reaches hv.shows hw.shows)

theorem reads_inverseSqrt (hs : Ready l E R M s.generator)
    (hv : l.Carries s.generator.module v x) :
    Reads l E R M s (generate (Generate.inverseSqrt v))
      fun w g => l.Carries g.module w (x.map P.inverseSqrt) :=
  reads_value hs (Generate.computes_inverseSqrt _)
    ((Generate.keeps_inverseSqrt hs.wellFormed hv.value).imp fun _ _ h => h.2)
    (Generate.settles_inverseSqrt hs.wellFormed hs.reaches hv.shows)

/-! ## Handlers -/

/-- The handler of an instruction has loaded the sources, and stored what a function makes of the
components that they show. -/
def Computed (l : Launch P) (E : Environment P) (R : Registers) (M : Memory P) (i : Instruction)
    (asked : ComponentMask → ComponentMask) (f : List (List Word) → Option (List Word))
    (g g' : Generator) : Prop :=
  ∃ target r id xs, i.operandList.head? = some target ∧
    (∀ o ∈ i.sources, o.Addresses l E R g g') ∧
    f (i.sources.map (·.shown E R (asked target.writeMask))) = some xs ∧
    target.register? = some r ∧ g'.registerId? r = some id ∧
    l.Reaches g'.module (written i M R target r id (resultLanes target xs))

/-- What has been computed is stored. -/
theorem ends_computed {g : Generator} {target : Operand} (sources : List Operand)
    {rest : List Operand}
    {asked : ComponentMask → ComponentMask} {f : List (List Word) → Option (List Word)}
    (hs : Ready l E R M s.generator) (hi : i.operandList = target :: (sources ++ rest))
    (hcount : i.opcode.sourceCount = sources.length)
    (haddresses : ∀ o ∈ sources, o.Addresses l E R g s.generator)
    (hv : l.Carries s.generator.module v x)
    (hf : f (sources.map (·.shown E R (asked target.writeMask))) = some x.words) :
    Ends s (storeResult i target v target.writeMask) fun g' =>
      Computed l E R M i asked f g g' := by
  intro s' hrun
  obtain ⟨hc, r, id, hr, hid, hM⟩ := ends_storeResult hs hv i s' hrun
  refine ⟨hc, target, r, id, x.words, by rw [hi]; rfl, ?_, ?_, hr, hid, hM⟩
  · rw [Instruction.sources_of_operandList hi hcount]
    intro o ho
    exact (haddresses o ho).mono (.refl _) hc
  · rw [Instruction.sources_of_operandList hi hcount]
    exact hf

theorem ends_unary (hs : Ready l E R M s.generator) (hcount : i.opcode.sourceCount = 1)
    {op : Value → Generate Value} {F : List Word → List Word}
    (hop : ∀ (s : LowerState) (v : Value) (xs : List Word), Ready l E R M s.generator →
      l.Carries s.generator.module v ⟨.float32, xs⟩ → Reads l E R M s (generate (op v)) fun w g =>
        l.Carries g.module w ⟨.float32, F xs⟩)
    {f : List (List Word) → Option (List Word)} (hf : ∀ xs, f [xs] = some (F xs)) :
    Ends s (unary i op) fun g => Computed l E R M i id f s.generator g := by
  refine (reads_operands hs i).ends fun os s₁ hc₁ hs₁ h => ?_
  obtain ⟨target, a⟩ := os
  obtain ⟨next, h⟩ := h
  obtain ⟨_, c₁, h₁, h⟩ := Decoder.bind_eq_ok.1 h
  obtain ⟨_, c₂, h₂, h⟩ := Decoder.bind_eq_ok.1 h
  obtain ⟨⟨⟩, -⟩ := Decoder.pure_eq_ok.1 h
  have hi : i.operandList = target :: ([a] ++ c₂.operands.operands) := by
    rw [Instruction.operandList, operands_of_decode h₁, operands_of_decode h₂]
    rfl
  refine (reads_targetMask hs₁).ends fun mask s₂ hc₂ hs₂ hmask => ?_
  subst hmask
  by_cases hpos : 1 ≤ target.writeMask.count
  · refine (finds_load a s₂ _ .float32 hs₂ hpos).ends fun v s₃ hc₃ hs₃ hv => ?_
    refine (hop s₃ v _ hs₃ hv.1).ends fun w s₄ hc₄ hs₄ hw => ?_
    refine ends_computed [a] hs₄ hi hcount ?_ hw (hf _)
    intro o ho
    obtain rfl := List.mem_singleton.1 ho
    exact hv.2.mono (hc₁.trans hc₂).toGrows hc₄
  · exact (Hopeless.bind fun v => .bind fun w => hopeless_storeResult hpos i target w).ends

/-- What is computed from two sources is stored behind them. -/
theorem ends_computeBinary (hs : Ready l E R M s.generator) (hcount : i.opcode.sourceCount = 2)
    {op : Value → Value → Generate Value} (maskOf : ComponentMask → ComponentMask)
    (hmask : ∀ mask, 1 ≤ mask.count → 1 ≤ (maskOf mask).count)
    {F : List Word → List Word → List Word}
    (hop : ∀ (s : LowerState) (v w : Value) (a b : Operand) (mask : ComponentMask),
      Ready l E R M s.generator →
      l.Carries s.generator.module v ⟨.float32, a.shown E R (maskOf mask)⟩ →
      l.Carries s.generator.module w ⟨.float32, b.shown E R (maskOf mask)⟩ →
      Reads l E R M s (generate (op v w)) fun z g => l.Carries g.module z
        ⟨.float32, F (a.shown E R (maskOf mask)) (b.shown E R (maskOf mask))⟩)
    {f : List (List Word) → Option (List Word)} (hf : ∀ xs ys, f [xs, ys] = some (F xs ys)) :
    Ends s (do
      let (target, sourceA, sourceB) ← binaryOperands i
      let mask ← targetMask target
      let a ← load sourceA (maskOf mask) .float32
      let b ← load sourceB (maskOf mask) .float32
      storeResult i target (← generate (op a b)) mask) fun g =>
        Computed l E R M i maskOf f s.generator g := by
  refine (reads_binaryOperands hs i).ends fun os s₁ hc₁ hs₁ hoperands => ?_
  obtain ⟨target, a, b⟩ := os
  obtain ⟨rest, hi⟩ := hoperands
  refine (reads_targetMask hs₁).ends fun mask s₂ hc₂ hs₂ hmask' => ?_
  subst hmask'
  by_cases hpos : 1 ≤ target.writeMask.count
  · have hasked := hmask _ hpos
    refine (finds_load a s₂ _ .float32 hs₂ hasked).ends fun v s₃ hc₃ hs₃ hv => ?_
    refine (finds_load b s₃ _ .float32 hs₃ hasked).ends fun w s₄ hc₄ hs₄ hw => ?_
    refine (hop s₄ v w a b _ hs₄ (hv.1.mono hc₄.continues) hw.1).ends fun z s₅ hc₅ hs₅ hz => ?_
    have hbefore := hc₁.trans hc₂
    refine ends_computed [a, b] hs₅ hi hcount ?_ hz (hf _ _)
    intro o ho
    rcases List.mem_cons.1 ho with rfl | ho
    · exact hv.2.mono hbefore.toGrows (hc₄.trans hc₅)
    · obtain rfl := List.mem_singleton.1 ho
      exact hw.2.mono (hbefore.trans hc₃).toGrows hc₅
  · exact (Hopeless.bind fun v => .bind fun w => .bind fun z =>
      hopeless_storeResult hpos i target z).ends

theorem ends_multiplyAdd (hs : Ready l E R M s.generator) (hcount : i.opcode.sourceCount = 3)
    {f : List (List Word) → Option (List Word)} (hf : ∀ xs ys zs, f [xs, ys, zs] =
      some (List.zipWith P.add (List.zipWith P.mul xs ys) zs)) :
    Ends s (multiplyAdd i) fun g => Computed l E R M i id f s.generator g := by
  refine (reads_operands hs i).ends fun os s₁ hc₁ hs₁ h => ?_
  obtain ⟨target, a, b, c⟩ := os
  obtain ⟨next, h⟩ := h
  obtain ⟨_, c₁, h₁, h⟩ := Decoder.bind_eq_ok.1 h
  obtain ⟨_, c₂, h₂, h⟩ := Decoder.bind_eq_ok.1 h
  obtain ⟨_, c₃, h₃, h⟩ := Decoder.bind_eq_ok.1 h
  obtain ⟨_, c₄, h₄, h⟩ := Decoder.bind_eq_ok.1 h
  obtain ⟨⟨⟩, -⟩ := Decoder.pure_eq_ok.1 h
  have hi : i.operandList = target :: ([a, b, c] ++ c₄.operands.operands) := by
    rw [Instruction.operandList, operands_of_decode h₁, operands_of_decode h₂,
      operands_of_decode h₃, operands_of_decode h₄]
    rfl
  refine (reads_targetMask hs₁).ends fun mask s₂ hc₂ hs₂ hmask => ?_
  subst hmask
  by_cases hpos : 1 ≤ target.writeMask.count
  · refine (finds_load a s₂ _ .float32 hs₂ hpos).ends fun u s₃ hc₃ hs₃ hu => ?_
    refine (finds_load b s₃ _ .float32 hs₃ hpos).ends fun v s₄ hc₄ hs₄ hv => ?_
    refine (finds_load c s₄ _ .float32 hs₄ hpos).ends fun w s₅ hc₅ hs₅ hw => ?_
    refine (reads_mul hs₅ (hu.1.mono (hc₄.trans hc₅).continues)
      (hv.1.mono hc₅.continues)).ends fun product s₆ hc₆ hs₆ hproduct => ?_
    refine (reads_add hs₆ hproduct (hw.1.mono hc₆.continues)).ends fun sum s₇ hc₇ hs₇ hsum => ?_
    have hbefore := hc₁.trans hc₂
    have hbehind := hc₆.trans hc₇
    refine ends_computed [a, b, c] hs₇ hi hcount ?_ hsum (hf _ _ _)
    intro o ho
    rcases List.mem_cons.1 ho with rfl | ho
    · exact hu.2.mono hbefore.toGrows (hc₄.trans (hc₅.trans hbehind))
    · rcases List.mem_cons.1 ho with rfl | ho
      · exact hv.2.mono (hbefore.trans hc₃).toGrows (hc₅.trans hbehind)
      · obtain rfl := List.mem_singleton.1 ho
        exact hw.2.mono (hbefore.trans (hc₃.trans hc₄)).toGrows hbehind
  · exact (Hopeless.bind fun u => .bind fun v => .bind fun w => .bind fun product => .bind fun sum =>
      hopeless_storeResult hpos i target sum).ends

/-- Every arithmetic instruction computes from what its sources show. -/
theorem ends_arithmetic (hs : Ready l E R M s.generator) (hi : i.opcode.isArithmetic = true) :
    Ends s (instruction i) fun g =>
      Computed l E R M i i.opcode.asked (i.opcode.result? P) s.generator g := by
  have hdot {n : Nat} (htwo : 2 ≤ n) (hfour : n ≤ 4) (hcount : i.opcode.sourceCount = 2)
      {f : List (List Word) → Option (List Word)} (hf : ∀ xs ys, f [xs, ys] = some [P.dot xs ys]) :
      Ends s (dot i n) fun g => Computed l E R M i (fun _ => .firstN n) f s.generator g := by
    refine ends_computeBinary (F := fun xs ys => [P.dot xs ys]) hs hcount (fun _ => .firstN n)
      (fun _ _ => ?_) ?_ hf
    · rw [ComponentMask.count, Generate.components_firstN hfour, List.length_range]
      omega
    · intro s v w a b mask hs hv hw
      have hlength := two_le_length_places htwo hfour hv
      exact (reads_dot hs hv hw (by rwa [Operand.shown, List.length_map])).imp fun _ _ h => h.2.1
  rw [instruction]
  cases h : i.opcode with
  | mov =>
    refine ends_unary (F := fun xs => xs) hs (by rw [h]; rfl) ?_ fun _ => rfl
    intro s v xs hs hv
    exact .pure hs hv
  | rsq =>
    refine ends_unary (F := fun xs => xs.map P.inverseSqrt) hs (by rw [h]; rfl) ?_ fun _ => rfl
    intro s v xs hs hv
    exact reads_inverseSqrt hs hv
  | add =>
    refine ends_computeBinary (F := List.zipWith P.add) hs (by rw [h]; rfl) id
      (fun _ hpos => hpos) ?_ fun _ _ => rfl
    intro s v w a b mask hs hv hw
    exact reads_add hs hv hw
  | mul =>
    refine ends_computeBinary (F := List.zipWith P.mul) hs (by rw [h]; rfl) id
      (fun _ hpos => hpos) ?_ fun _ _ => rfl
    intro s v w a b mask hs hv hw
    exact reads_mul hs hv hw
  | mad => exact ends_multiplyAdd hs (by rw [h]; rfl) fun _ _ _ => rfl
  | dp2 => exact hdot (n := 2) (by decide) (by decide) (by rw [h]; rfl) fun _ _ => rfl
  | dp3 => exact hdot (n := 3) (by decide) (by decide) (by rw [h]; rfl) fun _ _ => rfl
  | dp4 => exact hdot (n := 4) (by decide) (by decide) (by rw [h]; rfl) fun _ _ => rfl
  | _ =>
    rw [h] at hi
    cases hi

end Lower

/-! ## Instructions that are lowered -/

/-- An arithmetic instruction that is lowered without a diagnostic stores what it makes of the
components that it uses of its sources: those that they select, with the absolute value taken first
and then negated where an operand says so, unless they are immediate numbers, whose modifiers are not
looked at. -/
theorem Lowering.computes_process {L : Lowering} {i : Instruction}
    (hi : i.opcode.isArithmetic = true) (hL : L.generator.WellFormed)
    (hfit : (L.process i).2.generator.module.bound < UInt32.size)
    (hok : (L.process i).1 = .ok ()) (hsilent : (L.process i).2.diagnostics = L.diagnostics)
    {s : State P} (hs : State.run ⟨fun _ => none, M⟩
      ((L.process i).2.generator.module.known ++ L.generator.module.body.toList) = some s)
    (hR : Represents L.generator E R s.memory) :
    ∃ target r id code t xs, i.operandList.head? = some target ∧ target.register? = some r ∧
      L.generator.registerId? r = some id ∧
      (L.process i).2.generator.module.body.toList = L.generator.module.body.toList ++ code ∧
      s.run code = some t ∧
      i.opcode.result? P (i.sources.map fun o =>
        (o.places (i.opcode.asked target.writeMask)).map (o.used E R)) = some xs ∧
      t.memory = Lower.written i s.memory R target r id (Lower.resultLanes target xs) := by
  have houtcome := outcome_of_process hok hsilent
  rw [generator_process] at hfit hs ⊢
  have hcomputation : i.opcode.isComputation = true := by
    revert hi
    cases i.opcode <;> first | exact fun _ => rfl | exact nofun
  obtain ⟨hgrows, hG⟩ := hL.handle i
  obtain ⟨-, target, r, id, xs, htarget, -, hxs, hr, hid, hM'⟩ :=
    Lower.ends_arithmetic (s := ⟨L.generator, []⟩) ⟨hL, hG.reaches_launch hfit hs, hR⟩ hi _
      (Generator.run_of_handle houtcome (List.forall_mem_nil _))
  obtain ⟨code, t, hcode, ht, hmemory, -⟩ := hG.exists_run hfit hgrows hs hM'
  have hsame := (L.generator.storesOnce_handle hcomputation houtcome (List.forall_mem_nil _)).registers
  have hused (o : Operand) (mask : ComponentMask) :
      o.shown E R mask = (o.places mask).map (o.used E R) :=
    List.map_congr_left fun place _ => o.read_eq_used place
  simp only [hused] at hxs
  exact ⟨target, r, id, code, t, xs, htarget, hr, hsame.registerId?_eq r ▸ hid, hcode, ht, hxs,
    hmemory⟩

/-! ### Sources with modifiers -/

/-- A register shows its components with the modifiers of the operand. -/
theorem Operand.used_of_register {o : Operand} {r : Register} (htype : o.type = .temp)
    (hr : o.register? = some r) (place : Nat) :
    o.used E R place = o.modifiers.apply P .float32 (R r (o.shownLane place)) := by
  have hselected : o.selected E R place = R r (o.shownLane place) := by
    rw [selected, htype, place?, htype, hr]
    rfl
  rw [used, htype, hselected]
  rfl

/-- The start of a lowering of a vertex shader with three temporary registers. -/
def lowerThreeTemps : Lowering := ⟨false, threeTemps, []⟩

theorem generator_lowerThreeTemps : lowerThreeTemps.generator = threeTemps := by
  rw [lowerThreeTemps]

/-- The sum `r0.xy = -|r1.yx| + r2.xy`. -/
def addModified : Instruction :=
  ⟨4, ⟨0x08000000⟩, .add, [], [0x00100032, 0, 0x80100e16, 0xc1, 1, 0x00100e46, 2]⟩

/-- The absolute values of the first source are negated, and then the second source is added. -/
theorem computes_addModified :
    addModified.opcode.isArithmetic = true ∧
    (lowerThreeTemps.process addModified).1.toOption = some () ∧
    (lowerThreeTemps.process addModified).2.diagnostics = lowerThreeTemps.diagnostics ∧
    ∀ (P : Platform) (E : Environment P) (R : Registers), E.stage = .vertex →
      ∃ (M : Memory P) (s t : State P) (code : List Inst),
        Represents lowerThreeTemps.generator E R s.memory ∧
        State.run ⟨fun _ => none, M⟩
          ((lowerThreeTemps.process addModified).2.generator.module.known ++
            lowerThreeTemps.generator.module.body.toList) = some s ∧
        (lowerThreeTemps.process addModified).2.generator.module.body.toList =
          lowerThreeTemps.generator.module.body.toList ++ code ∧
        s.run code = some t ∧ t.memory 8 = .lanes
          [P.add (P.neg (P.abs (R (.temp 1) 1))) (R (.temp 2) 0),
            P.add (P.neg (P.abs (R (.temp 1) 0))) (R (.temp 2) 1), R (.temp 0) 2,
            R (.temp 0) 3] := by
  have harithmetic : addModified.opcode.isArithmetic = true := rfl
  have hsome : (lowerThreeTemps.process addModified).1.toOption = some () := by decide +kernel
  have hsilent : (lowerThreeTemps.process addModified).2.diagnostics =
      lowerThreeTemps.diagnostics := by decide +kernel
  have hfit : (lowerThreeTemps.process addModified).2.generator.module.bound < UInt32.size := by
    decide +kernel
  refine ⟨harithmetic, hsome, hsilent, fun P E R hstage => ?_⟩
  have hok : (lowerThreeTemps.process addModified).1 = .ok () := eq_ok_of_toOption hsome
  obtain ⟨-, hg, -⟩ := threeTemps_wellFormed
  rw [← generator_lowerThreeTemps] at hg
  obtain ⟨hgrows, hw⟩ := hg.handle addModified
  rw [← Lowering.generator_process, generator_lowerThreeTemps] at hgrows
  rw [← Lowering.generator_process] at hw
  obtain ⟨M, s, hR, hs⟩ := exists_state_threeTemps hgrows hw hfit E R hstage
  rw [← generator_lowerThreeTemps] at hR hs
  obtain ⟨target, r, id, code, t, xs, htarget, hr, hid, hcode, ht, hxs, hmemory⟩ :=
    Lowering.computes_process harithmetic hg hfit hok hsilent hs hR
  refine ⟨M, s, t, code, hR, hs, hcode, ht, ?_⟩
  have htargets : addModified.operandList.head?.map (fun o => (o.register?, o.writeMask)) =
      some (some (.temp 0), ⟨true, true, false, false⟩) := by decide +kernel
  have hvariable : lowerThreeTemps.generator.registerId? (.temp 0) = some 8 := by decide +kernel
  rw [htarget, Option.map_some, Option.some.injEq, Prod.mk.injEq] at htargets
  obtain ⟨hregister, hmask⟩ := htargets
  cases hregister.symm.trans hr
  cases hvariable.symm.trans hid
  have hshapes : addModified.sources.map (fun o => (o.type, o.register?, o.modifiers)) =
      [(.temp, some (.temp 1), ⟨true, true⟩), (.temp, some (.temp 2), ⟨false, false⟩)] := by
    decide +kernel
  have hlanes : addModified.sources.map (fun o => (o.ownWidth?, o.shownLane 0, o.shownLane 1)) =
      [(none, 1, 0), (none, 0, 1)] := by decide +kernel
  generalize addModified.sources = sources at hshapes hlanes hxs
  obtain ⟨a, sources, rfl, ha, hshapes⟩ := List.map_eq_cons_iff.1 hshapes
  obtain ⟨b, sources, rfl, hb, hshapes⟩ := List.map_eq_cons_iff.1 hshapes
  obtain rfl := List.map_eq_nil_iff.1 hshapes
  simp only [List.map_cons, List.cons.injEq, Prod.mk.injEq] at ha hb hlanes
  obtain ⟨hta, hra, hma⟩ := ha
  obtain ⟨htb, hrb, hmb⟩ := hb
  obtain ⟨⟨hwa, ha₀, ha₁⟩, ⟨hwb, hb₀, hb₁⟩, -⟩ := hlanes
  have hasked : addModified.opcode.asked ⟨true, true, false, false⟩ = ⟨true, true, false, false⟩ :=
    rfl
  have hcomponents : (ComponentMask.mk true true false false).components = [0, 1] := rfl
  simp only [hmask, hasked, List.map_cons, List.map_nil, Operand.places, hwa, hwb, hcomponents,
    Operand.used_of_register hta hra, Operand.used_of_register htb hrb, hma, hmb, ha₀, ha₁, hb₀,
    hb₁] at hxs
  obtain rfl := Option.some.inj hxs
  rw [hmemory, Lower.written, Memory.write_self, hmask, Lower.resultLanes, hmask]
  rfl

/-- The move `r0.x = -1` of an immediate number with a modifier. -/
def moveNegated : Instruction :=
  ⟨4, ⟨0x06000036⟩, .mov, [], [0x00100012, 0, 0x80004001, 0x41, 0x3f800000]⟩

/-- The number is stored as it is, though its operand says that it is to be negated, and nothing is
recorded. -/
theorem moveNegated_not_negated :
    moveNegated.opcode.isArithmetic = true ∧
    moveNegated.sources.map (fun o => (o.type, o.modifiers, o.immediates)) =
      [(.imm32, ⟨true, false⟩, [0x3f800000])] ∧
    (lowerThreeTemps.process moveNegated).1.toOption = some () ∧
    (lowerThreeTemps.process moveNegated).2.diagnostics = [] ∧
    ⟨.constant, some 5, some 11, [0x3f800000]⟩ ∈
      (lowerThreeTemps.process moveNegated).2.generator.module.globals.toList ∧
    (lowerThreeTemps.process moveNegated).2.generator.module.body.toList =
      threeTemps.module.body.toList ++
        [⟨.load, some 6, some 12, [8]⟩, ⟨.compositeInsert, some 6, some 13, [11, 12, 0]⟩,
         .effect .store [8, 13]] := by
  decide +kernel

end ShaderLowering
