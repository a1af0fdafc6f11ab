import ShaderLowering.Proofs.Generator.Computing
import ShaderLowering.Proofs.Generator.Declaring
import ShaderLowering.Proofs.Lowering.Run

/-!
# Handlers are sound

The handlers of instructions keep the generator well-formed, whatever the instructions are and
whether the handlers fail or not (`Lower.keeps_instruction`); only a return closes the open block. So
a lowering under way is well-formed after any instructions (`Lowering.wellFormed_handledAll`), whether
or not the caller stops at an error.
-/

namespace ShaderLowering

open Spirv

namespace Lower

variable {α : Type} {s : LowerState} {Q : α → Generator → Prop}

/-! ## Steps -/

theorem keeps_missing {feature : MissingFeature} (hs : s.generator.WellFormed) :
    Keeps s (missing feature : Lower α) Q := .throw hs

theorem keeps_fault {f : CompileFault} (hs : s.generator.WellFormed) :
    Keeps s (fault f : Lower α) Q := .throw hs

/-- An operation of the generator does to a handler what it does to the generator. -/
theorem keeps_generate {op : Generate α} (h : Keeps s.generator op Q) :
    Keeps s (generate op) Q := by
  obtain ⟨hc, hw, hr⟩ := h
  refine ⟨hc, hw, fun a ha => hr a ?_⟩
  rw [run_generate] at ha
  rcases hop : (op.run s.generator).1 with e | b
  · rw [hop] at ha
    cases ha
  · rw [hop] at ha
    cases ha
    rfl

theorem keeps_decoded (hs : s.generator.WellFormed) (r : Except DecodeError α) :
    Keeps s (decoded r) fun a g => r = .ok a ∧ g = s.generator := by
  cases r with
  | ok a => exact .pure hs ⟨rfl, rfl⟩
  | error e => exact keeps_fault hs

theorem keeps_mapM_decoded (hs : s.generator.WellFormed) {β : Type} (f : β → Except DecodeError α)
    (l : List β) : Keeps s (l.mapM fun x => decoded (f x)) fun as _ => as.length = l.length := by
  induction l generalizing s with
  | nil => exact .pure hs rfl
  | cons x l ih =>
    rw [List.mapM_cons]
    refine (keeps_decoded hs _).bind fun a s₁ _ hs₁ _ => (ih hs₁).bind fun as s₂ _ hs₂ has => ?_
    exact .pure hs₂ (by rw [List.length_cons, List.length_cons, has])

theorem keeps_gap (hs : s.generator.WellFormed) (g : Gap) : Keeps s (gap g) fun _ _ => True :=
  ⟨.refl _, hs, fun _ _ => trivial⟩

/-! ## Shapes of operands -/

variable {o : Operand}

theorem keeps_expectType (hs : s.generator.WellFormed) (type : OperandType) (role : OperandRole) :
    Keeps s (expectType o type role) fun _ _ => True := by
  rw [expectType]
  split
  · exact keeps_fault hs
  · exact .pure hs trivial

theorem keeps_expectDimension (hs : s.generator.WellFormed) (dimension : Nat)
    (role : OperandRole) : Keeps s (expectDimension o dimension role) fun _ _ => True := by
  rw [expectDimension]
  split
  · exact keeps_fault hs
  · exact .pure hs trivial

theorem keeps_plainIndex (hs : s.generator.WellFormed) (n : Nat) (role : OperandRole) :
    Keeps s (plainIndex o n role) fun _ _ => True := by
  refine (keeps_decoded hs _).bind fun index s' _ hs' _ => ?_
  split
  · exact .pure hs' trivial
  · exact keeps_fault hs'

theorem keeps_targetMask (hs : s.generator.WellFormed) :
    Keeps s (targetMask o) fun _ _ => True := by
  rw [targetMask]
  split
  · exact .pure hs trivial
  · exact .pure hs trivial
  · exact .pure hs trivial
  · exact keeps_fault hs
  · exact keeps_fault hs

theorem keeps_operands (hs : s.generator.WellFormed) (i : Instruction) (d : Decoder α) :
    Keeps s (operands i d) fun _ _ => True := by
  rw [operands]
  split
  · exact .pure hs trivial
  · exact keeps_fault hs

/-! ## Source operands -/

variable {v : Value}

theorem keeps_select (hs : s.generator.WellFormed) (hv : s.generator.module.HasValue v)
    (mask : ComponentMask) :
    Keeps s (select o v mask) fun w g => g.module.HasValue w := by
  rw [select]
  split
  · exact keeps_generate ((Generate.keeps_swizzle hs hv _ _).imp fun _ _ h => h.2)
  · exact keeps_generate ((Generate.keeps_extract hs hv _).imp fun _ _ h => h.2)
  · exact keeps_generate ((Generate.keeps_extract hs hv _).imp fun _ _ h => h.2)
  · exact keeps_fault hs

theorem keeps_applyModifiers (hs : s.generator.WellFormed) (hv : s.generator.module.HasValue v)
    (m : OperandModifiers) :
    Keeps s (applyModifiers m v) fun w g => g.module.HasValue w := by
  have hneg (s : LowerState) (w : Value) (hs : s.generator.WellFormed)
      (hw : s.generator.module.HasValue w) :
      Keeps s (if m.neg then generate (Generate.neg w) else pure w) fun w g =>
        g.module.HasValue w := by
    split
    · exact keeps_generate ((Generate.keeps_neg hs hw).imp fun _ _ h => h.2)
    · exact .pure hs hw
  rw [applyModifiers]
  split
  · exact (keeps_generate ((Generate.keeps_abs hs hv).imp fun _ _ h => h.2)).bind
      fun w s' _ hs' hw => hneg s' w hs' hw
  · exact hneg s v hs hv

theorem keeps_broadcast (hs : s.generator.WellFormed) (hv : s.generator.module.HasValue v)
    (mask : ComponentMask) :
    Keeps s (broadcast v mask) fun w g => g.module.HasValue w := by
  rw [broadcast]
  split
  · next h =>
    exact keeps_generate ((Generate.keeps_replicate hs hv (Nat.le_of_lt h.2)
      mask.length_components_le).imp fun _ _ h => h.2)
  · exact .pure hs hv

theorem keeps_loadImmediate (hs : s.generator.WellFormed) (mask : ComponentMask)
    (scalar : ScalarType) :
    Keeps s (loadImmediate o mask scalar) fun v g => g.module.HasValue v := by
  rw [loadImmediate]
  split
  · refine (keeps_decoded hs _).bind fun bits s' _ hs' _ => ?_
    exact keeps_generate ((Generate.keeps_constantScalar hs' _ _).imp fun _ _ h => h.2)
  · refine (keeps_mapM_decoded hs _ _).bind fun bits s₁ _ hs₁ hbits => ?_
    have hlength : bits.length = 4 := hbits
    refine (keeps_generate (Generate.keeps_constantVector hs₁ scalar (by omega) (by omega))).bind
      fun v s₂ _ hs₂ hv => ?_
    exact keeps_generate ((Generate.keeps_extract hs₂ hv.2 mask).imp fun _ _ h => h.2)
  · exact keeps_fault hs

theorem keeps_constantIndex (hs : s.generator.WellFormed) (bits : Word) :
    Keeps s (constantIndex bits) fun v g => g.module.HasValue v :=
  keeps_generate ((Generate.keeps_constantScalar hs _ _).imp fun _ _ h => h.2)

/-- A register is found, provided that the values of its indices are. -/
theorem keeps_pointer (hs : s.generator.WellFormed) {elements : List (Lower Value)}
    (he : ∀ e ∈ elements, ∀ s : LowerState, s.generator.WellFormed →
      Keeps s e fun v g => g.module.HasValue v) :
    Keeps s (pointer o elements) fun p g => g.module.HasPointer p := by
  have hinterface : Keeps s (do
      generate (Generate.interfacePointer o.type (← plainIndex o 0 .interfaceRegister)))
      fun p g => g.module.HasPointer p :=
    (keeps_plainIndex hs _ _).bind fun register s₁ _ hs₁ _ =>
      keeps_generate (Generate.keeps_interfacePointer hs₁ _ _)
  rw [pointer]
  split
  · refine (keeps_expectDimension hs _ _).bind fun _ s₁ _ hs₁ _ => ?_
    exact (keeps_plainIndex hs₁ _ _).bind fun register s₂ _ hs₂ _ =>
      keeps_generate (Generate.keeps_tempPointer hs₂ _)
  · split
    · exact hinterface
    · exact keeps_missing hs
    · exact keeps_fault hs
  · split
    · exact hinterface
    · exact keeps_missing hs
    · exact keeps_fault hs
  · refine (keeps_expectDimension hs _ _).bind fun _ s₁ _ hs₁ _ => ?_
    refine (keeps_plainIndex hs₁ _ _).bind fun register s₂ _ hs₂ _ => ?_
    have helement : Keeps s₂ (elements.getD 1 (fault (.indexDimension .constantBuffer o.dimension)))
        fun v g => g.module.HasValue v := by
      rw [List.getD_eq_getElem?_getD]
      rcases h : elements[1]? with _ | e
      · exact keeps_fault hs₂
      · exact he e (List.mem_of_getElem? h) s₂ hs₂
    exact helement.bind fun element s₃ _ hs₃ helement =>
      keeps_generate (Generate.keeps_constantBufferPointer hs₃ register helement)
  · exact keeps_fault hs

theorem keeps_loadRegister {pointer : Lower Pointer}
    (hp : Keeps s pointer fun p g => g.module.HasPointer p) (mask : ComponentMask)
    (scalar : ScalarType) :
    Keeps s (loadRegister o pointer mask scalar) fun v g => g.module.HasValue v := by
  refine hp.bind fun p s₁ _ hs₁ hp => ?_
  refine (keeps_generate (Generate.keeps_load hs₁ hp)).bind fun v s₂ _ hs₂ hv => ?_
  refine (keeps_generate (Generate.keeps_cast hs₂ hv.2 scalar)).bind fun v s₃ _ hs₃ hv => ?_
  split
  · exact (keeps_select hs₃ hv.2 mask).bind fun v s₄ _ hs₄ hv => keeps_applyModifiers hs₄ hv _
  · exact (keeps_generate (Generate.keeps_extract hs₃ hv.2 _)).bind fun v s₄ _ hs₄ hv =>
      keeps_applyModifiers hs₄ hv.2 _
  · exact keeps_fault hs₃

/-- A source operand is loaded, however deep its indices are nested. -/
theorem keeps_load (hs : s.generator.WellFormed) (o : Operand) (mask : ComponentMask)
    (scalar : ScalarType) : Keeps s (load o mask scalar) fun v g => g.module.HasValue v := by
  refine load_induction (P := fun op => ∀ s : LowerState, s.generator.WellFormed →
    Keeps s op fun v g => g.module.HasValue v) ?_ ?_ ?_ ?_ o mask scalar s hs
  · intro o mask scalar s hs
    exact (keeps_loadImmediate hs mask scalar).bind fun v s₁ _ hs₁ hv =>
      keeps_broadcast hs₁ hv mask
  · intro o elements mask scalar he s hs
    exact (keeps_loadRegister (keeps_pointer hs he) mask scalar).bind fun v s₁ _ hs₁ hv =>
      keeps_broadcast hs₁ hv mask
  · intro v s hs
    exact keeps_constantIndex hs v
  · intro v op hop s hs
    refine (keeps_constantIndex hs v).bind fun number s₁ hc₁ hs₁ hn => ?_
    refine (hop s₁ hs₁).bind fun register s₂ hc₂ hs₂ hr => ?_
    exact keeps_generate ((Generate.keeps_add hs₂ hr (hn.mono hc₂.continues)).imp
      fun _ _ h => h.2)

/-! ## Storing -/

/-- The values of the indices of a destination are found as well. -/
theorem keeps_indexValues (o : Operand) : ∀ e ∈ indexValues o.indices, ∀ s : LowerState,
    s.generator.WellFormed → Keeps s e fun v g => g.module.HasValue v := by
  rw [indexValues_eq]
  intro e he s hs
  obtain ⟨index, -, rfl⟩ := List.mem_map.1 he
  have hsum (v : Word) (r : Operand) : Keeps s (do
      let number ← constantIndex v
      let register ← load r (.single 0) .uint32
      generate (Generate.add register number)) fun v g => g.module.HasValue v := by
    refine (keeps_constantIndex hs v).bind fun number s₁ hc₁ hs₁ hn => ?_
    refine (keeps_load hs₁ r _ _).bind fun register s₂ hc₂ hs₂ hr => ?_
    exact keeps_generate ((Generate.keeps_add hs₂ hr (hn.mono hc₂.continues)).imp
      fun _ _ h => h.2)
  cases index with
  | imm32 v => rw [indexValue]; exact keeps_constantIndex hs v
  | imm64 high low => rw [indexValue]; exact keeps_constantIndex hs low
  | relative r => rw [indexValue]; exact keeps_load hs r _ _
  | imm32Relative v r => rw [indexValue]; exact hsum v r
  | imm64Relative high low r => rw [indexValue]; exact hsum low r

theorem keeps_store (hs : s.generator.WellFormed) (hv : s.generator.module.HasValue v)
    (mask : ComponentMask) : Keeps s (store o v mask) fun _ _ => True := by
  refine (keeps_pointer hs (keeps_indexValues o)).bind fun p s₁ hc₁ hs₁ hp => ?_
  refine (keeps_broadcast hs₁ (hv.mono hc₁.continues) mask).bind fun v s₂ hc₂ hs₂ hv => ?_
  refine (keeps_generate (Generate.keeps_cast hs₂ hv _)).bind fun v s₃ hc₃ hs₃ hv => ?_
  exact keeps_generate (Generate.keeps_store hs₃
    ((hp.mono hc₂.continues).mono hc₃.continues) hv.2 mask)

theorem keeps_storeResult (hs : s.generator.WellFormed) (hv : s.generator.module.HasValue v)
    (i : Instruction) (target : Operand) (mask : ComponentMask) :
    Keeps s (storeResult i target v mask) fun _ _ => True := by
  rw [storeResult]
  split
  · exact (keeps_generate (Generate.keeps_saturate hs hv)).bind fun v s₁ _ hs₁ hv =>
      keeps_store hs₁ hv.2 mask
  · exact keeps_store hs hv mask

/-! ## Computations -/

/-- An operation on one value that keeps the generator well-formed. -/
def IsSoundUnary (op : Value → Generate Value) : Prop :=
  ∀ (g : Generator) (v : Value), g.WellFormed → g.module.HasValue v →
    Keeps g (op v) fun w g' => g'.module.HasValue w

/-- An operation on two values that keeps the generator well-formed. -/
def IsSoundBinary (op : Value → Value → Generate Value) : Prop :=
  ∀ (g : Generator) (a b : Value), g.WellFormed → g.module.HasValue a → g.module.HasValue b →
    Keeps g (op a b) fun w g' => g'.module.HasValue w

theorem keeps_unary (hs : s.generator.WellFormed) (i : Instruction)
    {op : Value → Generate Value} (hop : IsSoundUnary op) :
    Keeps s (unary i op) fun _ _ => True := by
  refine (keeps_operands hs i _).bind fun operands s₁ _ hs₁ _ => ?_
  refine (keeps_targetMask hs₁).bind fun mask s₂ _ hs₂ _ => ?_
  refine (keeps_load hs₂ _ mask .float32).bind fun v s₃ _ hs₃ hv => ?_
  exact (keeps_generate (hop _ v hs₃ hv)).bind fun w s₄ _ hs₄ hw =>
    keeps_storeResult hs₄ hw i _ mask

/-- Two sources are loaded and computed with. -/
theorem keeps_computeBinary (hs : s.generator.WellFormed) (i : Instruction)
    {op : Value → Value → Generate Value} (hop : IsSoundBinary op)
    (target sourceA sourceB : Operand) (read mask : ComponentMask) :
    Keeps s (do
      let a ← load sourceA read .float32
      let b ← load sourceB read .float32
      storeResult i target (← generate (op a b)) mask) fun _ _ => True := by
  refine (keeps_load hs _ read .float32).bind fun a s₁ _ hs₁ ha => ?_
  refine (keeps_load hs₁ _ read .float32).bind fun b s₂ hc₂ hs₂ hb => ?_
  exact (keeps_generate (hop _ a b hs₂ (ha.mono hc₂.continues) hb)).bind fun w s₃ _ hs₃ hw =>
    keeps_storeResult hs₃ hw i target mask

theorem keeps_binary (hs : s.generator.WellFormed) (i : Instruction)
    {op : Value → Value → Generate Value} (hop : IsSoundBinary op) :
    Keeps s (binary i op) fun _ _ => True := by
  refine (keeps_operands hs i _).bind fun operands s₁ _ hs₁ _ => ?_
  exact (keeps_targetMask hs₁).bind fun mask s₂ _ hs₂ _ => keeps_computeBinary hs₂ i hop ..

theorem keeps_dot (hs : s.generator.WellFormed) (i : Instruction) (n : Nat) :
    Keeps s (dot i n) fun _ _ => True := by
  refine (keeps_operands hs i _).bind fun operands s₁ _ hs₁ _ => ?_
  exact (keeps_targetMask hs₁).bind fun mask s₂ _ hs₂ _ => keeps_computeBinary hs₂ i
    (fun g a b hg ha hb => (Generate.keeps_dot hg ha hb).imp fun _ _ h => h.2) ..

theorem keeps_multiplyAdd (hs : s.generator.WellFormed) (i : Instruction) :
    Keeps s (multiplyAdd i) fun _ _ => True := by
  refine (keeps_operands hs i _).bind fun operands s₁ _ hs₁ _ => ?_
  refine (keeps_targetMask hs₁).bind fun mask s₂ _ hs₂ _ => ?_
  refine (keeps_load hs₂ _ mask .float32).bind fun a s₃ _ hs₃ ha => ?_
  refine (keeps_load hs₃ _ mask .float32).bind fun b s₄ hc₄ hs₄ hb => ?_
  refine (keeps_load hs₄ _ mask .float32).bind fun c s₅ hc₅ hs₅ hc => ?_
  have ha₅ := (ha.mono hc₄.continues).mono hc₅.continues
  refine (keeps_generate (Generate.keeps_mul hs₅ ha₅ (hb.mono hc₅.continues))).bind
    fun product s₆ hc₆ hs₆ hp => ?_
  refine (keeps_generate (Generate.keeps_add hs₆ hp.2 (hc.mono hc₆.continues))).bind
    fun w s₇ _ hs₇ hw => keeps_storeResult hs₇ hw.2 i _ mask

theorem keeps_sample (hs : s.generator.WellFormed) (i : Instruction) :
    Keeps s (sample i) fun _ _ => True := by
  refine (keeps_operands hs i _).bind fun operands s₁ _ hs₁ _ => ?_
  refine (keeps_expectType hs₁ _ _).bind fun _ s₂ _ hs₂ _ => ?_
  refine (keeps_expectDimension hs₂ _ _).bind fun _ s₃ _ hs₃ _ => ?_
  refine (keeps_expectType hs₃ _ _).bind fun _ s₄ _ hs₄ _ => ?_
  refine (keeps_expectDimension hs₄ _ _).bind fun _ s₅ _ hs₅ _ => ?_
  refine (keeps_plainIndex hs₅ _ _).bind fun texture s₆ _ hs₆ _ => ?_
  refine (keeps_plainIndex hs₆ _ _).bind fun sampler s₇ _ hs₇ _ => ?_
  have hrest (s : LowerState) (hs : s.generator.WellFormed) :
      Keeps s (do
        let mask ← targetMask operands.1
        let coordinate ← load operands.2.1 .xyzw .float32
        let v ← generate (Generate.sample texture sampler coordinate)
        let v ← select operands.2.2.1 v mask
        storeResult i operands.1 v mask) fun _ _ => True := by
    refine (keeps_targetMask hs).bind fun mask s₁ _ hs₁ _ => ?_
    refine (keeps_load hs₁ _ _ _).bind fun coordinate s₂ _ hs₂ hx => ?_
    refine (keeps_generate (Generate.keeps_sample hs₂ texture sampler hx)).bind
      fun v s₃ _ hs₃ hv => ?_
    exact (keeps_select hs₃ hv mask).bind fun w s₄ _ hs₄ hw => keeps_storeResult hs₄ hw i _ mask
  dsimp only
  split
  · exact (keeps_gap hs₇ _).bind fun _ s₈ _ hs₈ _ => hrest s₈ hs₈
  · exact hrest s₇ hs₇

/-! ## Declarations -/

theorem keeps_declareConstantBuffer (hs : s.generator.WellFormed) (i : Instruction) :
    Keeps s (declareConstantBuffer i) fun _ _ => True := by
  refine (keeps_decoded hs _).bind fun o s₁ _ hs₁ _ => ?_
  refine (keeps_expectType hs₁ _ _).bind fun _ s₂ _ hs₂ _ => ?_
  refine (keeps_expectDimension hs₂ _ _).bind fun _ s₃ _ hs₃ _ => ?_
  refine (keeps_plainIndex hs₃ _ _).bind fun register s₄ _ hs₄ _ => ?_
  exact (keeps_plainIndex hs₄ _ _).bind fun size s₅ _ hs₅ _ =>
    keeps_generate ((Generate.keeps_declareConstantBuffer hs₅ register size).imp
      fun _ _ _ => trivial)

theorem keeps_declareResource (hs : s.generator.WellFormed) (i : Instruction) :
    Keeps s (declareResource i) fun _ _ => True := by
  refine (keeps_decoded hs _).bind fun o s₁ _ hs₁ _ => ?_
  refine (keeps_expectType hs₁ _ _).bind fun _ s₂ _ hs₂ _ => ?_
  refine (keeps_expectDimension hs₂ _ _).bind fun _ s₃ _ hs₃ _ => ?_
  refine (keeps_plainIndex hs₃ _ _).bind fun register s₄ _ hs₄ _ => ?_
  refine (keeps_decoded hs₄ _).bind fun dim s₅ _ hs₅ _ => ?_
  refine (keeps_decoded hs₅ _).bind fun w s₆ _ hs₆ _ => ?_
  refine (keeps_decoded hs₆ _).bind fun types s₇ _ hs₇ _ => ?_
  have hrest (s : LowerState) (hs : s.generator.WellFormed) (type : ResourceReturnType) :
      Keeps s (generate (Generate.declareResource register dim type)) fun _ _ => True :=
    keeps_generate ((Generate.keeps_declareResource hs register dim type).imp fun _ _ _ => trivial)
  dsimp only
  split
  · exact (keeps_gap hs₇ _).bind fun _ s₈ _ hs₈ _ => hrest s₈ hs₈ _
  · exact hrest s₇ hs₇ _

theorem keeps_declareSampler (hs : s.generator.WellFormed) (i : Instruction) :
    Keeps s (declareSampler i) fun _ _ => True := by
  refine (keeps_decoded hs _).bind fun o s₁ _ hs₁ _ => ?_
  refine (keeps_expectType hs₁ _ _).bind fun _ s₂ _ hs₂ _ => ?_
  refine (keeps_expectDimension hs₂ _ _).bind fun _ s₃ _ hs₃ _ => ?_
  refine (keeps_plainIndex hs₃ _ _).bind fun register s₄ _ hs₄ _ => ?_
  exact (keeps_decoded hs₄ _).bind fun mode s₅ _ hs₅ _ =>
    keeps_generate (Generate.keeps_declareSampler hs₅ register mode)

theorem keeps_interfaceIndices (hs : s.generator.WellFormed) :
    Keeps s (interfaceIndices o) fun _ _ => True := by
  rw [interfaceIndices]
  split
  · exact (keeps_plainIndex hs _ _).bind fun _ s₁ _ hs₁ _ => .pure hs₁ trivial
  · exact (keeps_plainIndex hs _ _).bind fun _ s₁ _ hs₁ _ =>
      (keeps_plainIndex hs₁ _ _).bind fun _ s₂ _ hs₂ _ => .pure hs₂ trivial
  · exact keeps_fault hs

theorem keeps_systemValue (hs : s.generator.WellFormed) (i : Instruction) :
    Keeps s (systemValue i o) fun _ _ => True := by
  rw [systemValue]
  split
  · exact (keeps_decoded hs _).bind fun w s₁ _ hs₁ _ =>
      (keeps_decoded hs₁ _).imp fun _ _ _ => trivial
  · exact .pure hs trivial

theorem keeps_declareInterface (hs : s.generator.WellFormed) (i : Instruction) :
    Keeps s (declareInterface i) fun _ _ => True := by
  refine (keeps_decoded hs _).bind fun o s₁ _ hs₁ _ => ?_
  simp only [missing_bind]
  split
  · exact keeps_missing hs₁
  · refine (keeps_interfaceIndices hs₁).bind fun indices s₂ _ hs₂ _ => ?_
    refine (keeps_targetMask hs₂).bind fun mask s₃ _ hs₃ _ => ?_
    refine (keeps_systemValue hs₃ i).bind fun wanted s₄ _ hs₄ _ => .get_bind ?_
    have hrest (s : LowerState) (hs : s.generator.WellFormed)
        (d : InterpolationMode → InterfaceDeclaration) :
        Keeps s (if hasInterpolation i.opcode then do
            let interpolation ← decoded i.interpolationMode
            generate (Generate.declareInterface (d interpolation))
          else do
            let interpolation ← pure .undefined
            generate (Generate.declareInterface (d interpolation))) fun _ _ => True := by
      split
      · exact (keeps_decoded hs _).bind fun interpolation s₁ _ hs₁ _ =>
          keeps_generate (Generate.keeps_declareInterface hs₁ _)
      · rw [pure_bind]
        exact keeps_generate (Generate.keeps_declareInterface hs _)
    split
    · exact hrest s₄ hs₄ fun _ => _
    · exact (keeps_gap hs₄ _).bind fun _ s₅ _ hs₅ _ => hrest s₅ hs₅ fun _ => _

theorem keeps_declareTemps (hs : s.generator.WellFormed) (i : Instruction) :
    Keeps s (declareTemps i) fun _ _ => True := by
  refine (keeps_decoded hs _).bind fun count s₁ _ hs₁ _ => ?_
  simp only [fault_bind]
  split
  · exact keeps_fault hs₁
  · exact keeps_generate ((Generate.keeps_declareTemps hs₁ _).imp fun _ _ _ => trivial)

theorem keeps_declareThreadGroup (hs : s.generator.WellFormed) (i : Instruction) :
    Keeps s (declareThreadGroup i) fun _ _ => True := by
  refine (keeps_decoded hs _).bind fun x s₁ _ hs₁ _ => ?_
  refine (keeps_decoded hs₁ _).bind fun y s₂ _ hs₂ _ => ?_
  exact (keeps_decoded hs₂ _).bind fun z s₃ _ hs₃ _ =>
    keeps_generate (Generate.keeps_declareThreadGroup hs₃ x y z)

/-! ## Instructions -/

/-- Every handler but the one of returns keeps the generator well-formed and goes on from it. -/
theorem keeps_instruction (i : Instruction) (hi : i.opcode ≠ .ret) (hs : s.generator.WellFormed) :
    Keeps s (instruction i) fun _ _ => True := by
  refine instruction_cases (P := fun op => Keeps s op fun _ _ => True) i
    ?_ ?_ ?_ ?_ ?_ ?_ ?_ ?_ ?_ ?_ ?_ ?_ ?_ ?_ ?_ ?_
  · exact .pure hs trivial
  · exact keeps_declareConstantBuffer hs i
  · exact keeps_declareResource hs i
  · exact keeps_declareSampler hs i
  · exact fun _ => keeps_declareInterface hs i
  · exact keeps_declareTemps hs i
  · exact keeps_declareThreadGroup hs i
  · exact fun _ => keeps_binary hs i fun _ _ _ hg ha hb =>
      (Generate.keeps_add hg ha hb).imp fun _ _ h => h.2
  · exact fun _ => keeps_binary hs i fun _ _ _ hg ha hb =>
      (Generate.keeps_mul hg ha hb).imp fun _ _ h => h.2
  · exact fun _ => keeps_multiplyAdd hs i
  · exact fun _ => keeps_unary hs i fun _ _ hg hv => .pure hg hv
  · exact fun n _ => keeps_dot hs i n
  · exact fun _ => keeps_unary hs i fun _ _ hg hv =>
      (Generate.keeps_inverseSqrt hg hv).imp fun _ _ h => h.2
  · exact fun h => absurd h hi
  · exact fun _ => keeps_sample hs i
  · exact keeps_gap hs _

theorem instruction_ret {i : Instruction} (hi : i.opcode = .ret) :
    instruction i = generate Generate.ret := by
  rw [instruction, hi]

end Lower

/-! ## Lowering -/

/-- The module of a shader without instructions. -/
def Generator.startModule (options : Options) : Module where
  bound := 5
  capabilities := #[.shader]
  glsl? := none
  memory := (.logical, .glsl450)
  entryPoints := #[]
  executionModes := #[]
  names := if options.debugNames then #[.effect .name (3 :: stringWords options.entryPoint)] else #[]
  annotations := #[]
  globals := #[⟨.typeVoid, none, some 1, []⟩, ⟨.typeFunction, none, some 2, [1]⟩]
  body := #[⟨.function, some 1, some 3, [FunctionControl.none.bits, 2]⟩, ⟨.label, none, some 4, []⟩]

theorem Generator.run_beginModule (options : Options) :
    (beginModule options).run .empty = (3, startModule options) := by
  have hbind {α β : Type} (b : Build α) (f : α → Build β) (m : Module) :
      (b >>= f).run m = (f (b.run m).1).run (b.run m).2 := rfl
  have hcapability : (Build.enableCapability .shader).run .empty =
      ((), { Module.empty with capabilities := #[.shader] }) := by
    rw [Build.run_enableCapability, if_neg (by simp [Module.empty])]
    rfl
  have hfunction : List.find? (Inst.sameExpression ⟨.typeFunction, none, none, [1]⟩)
      [⟨.typeVoid, none, some 1, []⟩] = none := by decide
  rw [beginModule, hbind, hcapability, hbind, Build.voidType, Build.run_intern_of_none (by rfl),
    hbind, Build.functionType, Build.run_intern_of_none hfunction, startModule]
  rcases options with ⟨entryPoint, strict, _ | _⟩ <;> rfl

theorem Generator.wellFormed_startModule (options : Options) :
    (startModule options).WellFormed := by
  have hvoid : Grounded [] ⟨.typeVoid, none, some 1, []⟩ :=
    .type rfl rfl fun x hx => by cases hx
  have hfunction : Grounded [⟨.typeVoid, none, some 1, []⟩] ⟨.typeFunction, none, some 2, [1]⟩ :=
    .type rfl rfl fun x hx => by
      rw [List.mem_singleton.1 hx]
      exact List.mem_singleton.2 rfl
  have hresults : results (startModule options).defining = [1, 2, 3, 4] := rfl
  refine ⟨Nat.succ_pos 4, (Stepwise.nil.concat hvoid).concat hfunction,
    fun op type? id operands _ hmem => ?_, ?_, ?_, fun i hi => ?_, nofun, ⟨rfl, rfl⟩,
    fun _ => ⟨?_, ?_⟩⟩
  · replace hmem : (⟨op, type?, some id, operands⟩ : Inst) ∈
        [⟨.typeVoid, none, some 1, []⟩, (⟨.typeFunction, none, some 2, [1]⟩ : Inst)] := hmem
    simp only [List.mem_cons, List.not_mem_nil, or_false] at hmem
    rcases hmem with h | h <;> cases h <;> rfl
  · exact ⟨⟨.function, some 1, some 3, [FunctionControl.none.bits, 2]⟩, [], rfl, nofun,
      ⟨.label, none, some 4, []⟩, rfl, nofun, rfl⟩
  · refine (Stepwise.nil.concat ?_).concat .label
    exact .function (List.mem_cons_self ..) (List.mem_cons_of_mem _ (List.mem_cons_self ..))
  · rw [hresults]
    simp only [startModule] at hi
    split at hi
    · rw [List.mem_singleton.1 hi]
      exact ⟨_, _, _, rfl, rfl, by decide⟩
    · cases hi
  · have hbound : (startModule options).bound = 5 := rfl
    rw [hresults, hbound]
    intro id hid
    simp only [List.mem_cons, List.not_mem_nil, or_false] at hid
    rcases hid with rfl | rfl | rfl | rfl <;> decide
  · rw [hresults]
    decide

theorem Generator.start_eq (stage : EntryStage) (options : Options) :
    Generator.start stage options =
      { stage, module := startModule options, entryPoint := 3, entryName := options.entryPoint,
        debugNames := options.debugNames, blockOpen := true, threadGroup? := none, temps := #[],
        interfaces := [], resources := [] } := by
  rw [Generator.start, run_beginModule]

/-- A shader without instructions is well-formed. -/
theorem Generator.wellFormed_start (stage : EntryStage) (options : Options) :
    (Generator.start stage options).WellFormed := by
  rw [start_eq]
  exact ⟨wellFormed_startModule options, rfl, List.mem_cons_self .., nofun, nofun, nofun,
    fun _ => List.nodup_nil⟩

/-- Handling an instruction adds to the generator and keeps it well-formed, whether it fails or
not. -/
theorem Generator.WellFormed.handle {g : Generator} (hg : g.WellFormed) (i : Instruction) :
    g.Grows (g.handle i).generator ∧ (g.handle i).generator.WellFormed := by
  by_cases hi : i.opcode = .ret
  · rw [Generator.handle, Lower.instruction_ret hi, Lower.run_generate, Generate.run_ret]
    exact hg.returned
  · have hkeeps := Lower.keeps_instruction (s := ⟨g, []⟩) i hi hg
    exact ⟨hkeeps.continues.toGrows, hkeeps.wellFormed⟩

namespace Lowering

theorem generator_process (l : Lowering) (i : Instruction) :
    (l.process i).2.generator = (l.generator.handle i).generator := by
  rcases l.process_cases i with ⟨_, _, h⟩ | ⟨_, _, _, _, h⟩ | ⟨_, _, _, h⟩ <;> rw [h] <;> rfl

/-- The lowering behind instructions that are handled one after the other, by a caller that goes on
behind errors. -/
def handledAll (l : Lowering) (instructions : List Instruction) : Lowering :=
  instructions.foldl (fun l i => (l.process i).2) l

/-- A lowering is well-formed after any instructions. -/
theorem wellFormed_handledAll {l : Lowering} (hl : l.generator.WellFormed)
    (instructions : List Instruction) :
    l.generator.Grows (l.handledAll instructions).generator ∧
      (l.handledAll instructions).generator.WellFormed := by
  induction instructions generalizing l with
  | nil => exact ⟨.refl _, hl⟩
  | cons i instructions ih =>
    obtain ⟨hgrows, hw⟩ := hl.handle i
    rw [← generator_process] at hgrows hw
    obtain ⟨hgrows', hw'⟩ := ih hw
    exact ⟨hgrows.trans hgrows', hw'⟩

/-- A lowering is well-formed where a run of it ends. -/
theorem wellFormed_run {l : Lowering} (hl : l.generator.WellFormed)
    (items : List (Except DecodeError Instruction)) :
    l.generator.Grows (l.run items).2.generator ∧ (l.run items).2.generator.WellFormed := by
  induction items generalizing l with
  | nil => exact ⟨.refl _, hl⟩
  | cons item items ih =>
    cases item with
    | error e => exact ⟨.refl _, hl⟩
    | ok i =>
      obtain ⟨hgrows, hw⟩ := hl.handle i
      rw [← generator_process] at hgrows hw
      rw [run]
      rcases hprocess : l.process i with ⟨e | u, l'⟩ <;> rw [hprocess] at hgrows hw
      · exact ⟨hgrows, hw⟩
      · obtain ⟨hgrows', hw'⟩ := ih hw
        exact ⟨hgrows.trans hgrows', hw'⟩

end Lowering

end ShaderLowering
