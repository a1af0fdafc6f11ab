import ShaderLowering.Proofs.Generator.Composition

/-!
# What the handlers of instructions are put together from

The handlers are of the same kinds as the operations of the generator: loading a source operand only
computes, the handler of an arithmetic instruction stores what it has computed, and the handler of a
declaration declares: it *checks* its operand, without a look at the generator, and then hands what
it has read to a single operation. `Lower.instruction_kinds` goes through all instructions.
-/

namespace ShaderLowering

variable {α β : Type}

/-- Whether a gap means that its instruction was left out altogether. -/
def Gap.isSkip : Gap → Bool
  | .unhandledOpcode | .missing _ => true
  | _ => false

/-- Whether an instruction stores what it has computed. -/
def Opcode.isComputation : Opcode → Bool
  | .mov | .add | .mul | .mad | .dp2 | .dp3 | .dp4 | .rsq | .sample => true
  | _ => false

/-- Whether there is a handler for an opcode. -/
def Opcode.isHandled : Opcode → Bool
  | .nop | .customdata | .dclGlobalflags | .dclConstantbuffer | .dclResource | .dclSampler
  | .dclInput | .dclInputSgv | .dclInputSiv | .dclInputPs | .dclInputPsSgv | .dclInputPsSiv
  | .dclOutput | .dclOutputSgv | .dclOutputSiv | .dclTemps | .dclThreadGroup | .mov | .add | .mul
  | .mad | .dp2 | .dp3 | .dp4 | .rsq | .ret | .sample => true
  | _ => false

namespace Lower

/-- Parts of handlers that only look at their instruction. They may leave out details. -/
inductive Checks : {α : Type} → Lower α → Prop
  | pure {α : Type} (a : α) : Checks (Pure.pure a)
  | throw {α : Type} (e : Interruption) : Checks (MonadExcept.throw e : Lower α)
  | bind {α β : Type} {op : Lower α} {f : α → Lower β} (h : Checks op)
      (hf : ∀ a, Checks (f a)) : Checks (op >>= f)
  | gap {g : Gap} (hg : g.isSkip = false) : Checks (gap g)

/-- Handlers, or parts of them, that only compute. They may leave out details. -/
inductive Computes : {α : Type} → Lower α → Prop
  | pure {α : Type} (a : α) : Computes (Pure.pure a)
  | throw {α : Type} (e : Interruption) : Computes (MonadExcept.throw e : Lower α)
  | bind {α β : Type} {op : Lower α} {f : α → Lower β} (h : Computes op)
      (hf : ∀ a, Computes (f a)) : Computes (op >>= f)
  | observe {α : Type} {f : LowerState → Lower α}
      (same : ∀ s s', s.generator.SameRegisters s'.generator → f s' = f s)
      (h : ∀ s, Computes (f s)) : Computes (get >>= f)
  | gap {g : Gap} (hg : g.isSkip = false) : Computes (gap g)
  | generate {α : Type} {op : Generate α} (h : op.Computes) : Computes (generate op)

/-- Handlers that end with a store, unless they fail. -/
inductive Stores : Lower Unit → Prop
  | bind {α : Type} {op : Lower α} {f : α → Lower Unit} (h : Computes op)
      (hf : ∀ a, Stores (f a)) : Stores (op >>= f)
  | generate {op : Generate Unit} (h : op.Stores) : Stores (generate op)

/-- Handlers that check, and then declare by an operation with a property, unless they fail. -/
inductive Declares (P : Generate Unit → Prop) : Lower Unit → Prop
  | throw (e : Interruption) : Declares P (MonadExcept.throw e)
  | bind {α : Type} {op : Lower α} {f : α → Lower Unit} (h : Checks op)
      (hf : ∀ a, Declares P (f a)) : Declares P (op >>= f)
  /-- What is declared may depend on the stage. -/
  | observe {f : LowerState → Lower Unit}
      (same : ∀ s s', s'.generator.stage = s.generator.stage → f s' = f s)
      (h : ∀ s, Declares P (f s)) : Declares P (get >>= f)
  | generate {op : Generate Unit} (h : P op) : Declares P (generate op)

/-- To check is to compute nothing. -/
theorem Checks.computes {op : Lower α} (h : Checks op) : Computes op := by
  induction h with
  | pure a => exact .pure a
  | throw e => exact .throw e
  | bind _ _ ih ihf => exact .bind ih ihf
  | gap hg => exact .gap hg

section

variable {op op' : Lower α} {c : Prop} [Decidable c]

theorem Checks.ite (h : Checks op) (h' : Checks op') : Checks (if c then op else op') := by
  split
  · exact h
  · exact h'

theorem Computes.ite (h : Computes op) (h' : Computes op') : Computes (if c then op else op') := by
  split
  · exact h
  · exact h'

theorem Declares.ite {P : Generate Unit → Prop} {op op' : Lower Unit} (h : Declares P op)
    (h' : Declares P op') : Declares P (if c then op else op') := by
  split
  · exact h
  · exact h'

end

/-! ## Runs -/

/-- What only looks at the instruction comes to the same for all states. -/
theorem Checks.run_eq {op : Lower α} (h : Checks op) :
    ∃ (r : Except Interruption α) (more : List Gap), ∀ s,
      op.run s = (r, { s with gaps := s.gaps ++ more }) := by
  induction h with
  | pure a => exact ⟨.ok a, [], fun s => by rw [List.append_nil, run_pure]⟩
  | throw e => exact ⟨.error e, [], fun s => by rw [List.append_nil, run_throw]⟩
  | @bind _ _ op f _ _ ih ihf =>
    obtain ⟨r, more, hop⟩ := ih
    cases r with
    | error e => exact ⟨.error e, more, fun s => by rw [run_bind, hop]⟩
    | ok a =>
      -- the first part fails for all states or for none
      obtain ⟨r', more', hf⟩ := ihf a
      exact ⟨r', more ++ more', fun s => by rw [run_bind, hop]; simp only [hf, List.append_assoc]⟩
  | @gap g _ => exact ⟨.ok (), [g], fun s => rfl⟩

/-- A handler of a declaration changes the generator only as the operation does that it ends with. -/
theorem Declares.respects {R : Generator → Generator → Prop} (hR : ∀ g, R g g) {op : Lower Unit}
    (h : Declares (Respects R) op) : Respects R op := by
  induction h with
  | throw e => exact fun s => hR _
  | @bind _ op f h _ ih =>
    intro s
    obtain ⟨r, more, hop⟩ := h.run_eq
    rw [run_bind, hop]
    cases r with
    | error e => exact hR _
    | ok a => exact ih a { s with gaps := s.gaps ++ more }
  | observe _ _ ih => exact fun s => ih s s
  | generate h => exact fun s => h s.generator

/-! ## Operands -/

theorem checks_decoded (r : Except DecodeError α) : Checks (decoded r) := by
  cases r with
  | ok a => exact .pure a
  | error e => exact .throw _

theorem checks_expectType (o : Operand) (type : OperandType) (role : OperandRole) :
    Checks (expectType o type role) := .ite (.throw _) (.pure ())

theorem checks_expectDimension (o : Operand) (dimension : Nat) (role : OperandRole) :
    Checks (expectDimension o dimension role) := .ite (.throw _) (.pure ())

theorem checks_plainIndex (o : Operand) (n : Nat) (role : OperandRole) :
    Checks (plainIndex o n role) := by
  refine .bind (checks_decoded _) fun index => ?_
  split
  · exact .pure _
  · exact .throw _

theorem checks_targetMask (o : Operand) : Checks (targetMask o) := by
  rw [targetMask]
  split
  iterate 3 exact .pure _
  · exact .throw _
  · exact .throw _

theorem computes_select (o : Operand) (v : Value) (mask : ComponentMask) :
    Computes (select o v mask) := by
  rw [select]
  split
  · exact .generate (Generate.computes_swizzle _ _ _)
  · exact .generate (Generate.computes_extract _ _)
  · exact .generate (Generate.computes_extract _ _)
  · exact .throw _

theorem computes_applyModifiers (m : OperandModifiers) (v : Value) :
    Computes (applyModifiers m v) := by
  have hneg (v : Value) : Computes (if m.neg then generate (Generate.neg v) else pure v) :=
    .ite (.generate (Generate.computes_neg v)) (.pure v)
  rw [applyModifiers]
  split
  · exact .bind (.generate (Generate.computes_abs v)) fun v => hneg v
  · exact hneg v

theorem computes_broadcast (v : Value) (mask : ComponentMask) : Computes (broadcast v mask) :=
  .ite (.generate (Generate.computes_replicate _ _)) (.pure v)

theorem computes_mapM_decoded {γ : Type} (f : γ → Except DecodeError α) (xs : List γ) :
    Computes (xs.mapM fun x => decoded (f x)) := by
  induction xs with
  | nil =>
    rw [List.mapM_nil]
    exact .pure []
  | cons x xs ih =>
    rw [List.mapM_cons]
    exact .bind (checks_decoded _).computes fun _ => .bind ih fun _ => .pure _

theorem computes_loadImmediate (o : Operand) (mask : ComponentMask) (scalar : ScalarType) :
    Computes (loadImmediate o mask scalar) := by
  rw [loadImmediate]
  split
  · exact .bind (checks_decoded _).computes fun _ =>
      .generate (Generate.computes_constantScalar _ _)
  · refine .bind (computes_mapM_decoded _ _) fun bits => ?_
    exact .bind (.generate (Generate.computes_constantVector _ _)) fun v =>
      .generate (Generate.computes_extract _ _)
  · exact .throw _

theorem computes_pointer (o : Operand) {elements : List (Lower Value)}
    (h : ∀ e ∈ elements, Computes e) : Computes (pointer o elements) := by
  rw [pointer]
  split
  · refine .bind (checks_expectDimension _ _ _).computes fun _ => ?_
    exact .bind (checks_plainIndex _ _ _).computes fun _ =>
      .generate (Generate.computes_tempPointer _)
  iterate 2
    split
    · exact .bind (checks_plainIndex _ _ _).computes fun _ =>
        .generate (Generate.computes_interfacePointer _ _)
    · exact .throw _
    · exact .throw _
  · refine .bind (checks_expectDimension _ _ _).computes fun _ => ?_
    refine .bind (checks_plainIndex _ _ _).computes fun register => .bind ?_ fun element =>
      .generate (Generate.computes_constantBufferPointer _ _)
    rw [List.getD_eq_getElem?_getD]
    rcases helement : elements[1]? with _ | e
    · exact .throw _
    · exact h e (List.mem_of_getElem? helement)
  · exact .throw _

theorem computes_loadRegister (o : Operand) {pointer : Lower Pointer} (h : Computes pointer)
    (mask : ComponentMask) (scalar : ScalarType) :
    Computes (loadRegister o pointer mask scalar) := by
  refine .bind h fun p => .bind (.generate (Generate.computes_load p)) fun v => ?_
  refine .bind (.generate (Generate.computes_cast v scalar)) fun v => ?_
  split
  · exact .bind (computes_select o v mask) fun v => computes_applyModifiers _ v
  · exact .bind (.generate (Generate.computes_extract _ _)) fun v => computes_applyModifiers _ v
  · exact .throw _

theorem computes_constantIndex (bits : Word) : Computes (constantIndex bits) :=
  .generate (Generate.computes_constantScalar _ _)

/-- Loading a source operand only computes. -/
theorem computes_load (o : Operand) (mask : ComponentMask) (scalar : ScalarType) :
    Computes (load o mask scalar) := by
  refine load_induction (P := Computes) (fun o mask scalar => ?_)
    (fun o elements mask scalar h => ?_) computes_constantIndex (fun v op h => ?_) o mask scalar
  · exact .bind (computes_loadImmediate _ _ _) fun v => computes_broadcast v mask
  · exact .bind (computes_loadRegister o (computes_pointer o h) mask scalar) fun v =>
      computes_broadcast v mask
  · exact .bind (computes_constantIndex v) fun number => .bind h fun register =>
      .generate (Generate.computes_add _ _)

theorem computes_indexValues (indices : List (IndexOf Operand)) :
    ∀ e ∈ indexValues indices, Computes e := by
  have hsum (v : Word) (r : Operand) : Computes (do
      let number ← constantIndex v
      let register ← load r (.single 0) .uint32
      generate (Generate.add register number)) :=
    .bind (computes_constantIndex v) fun _ => .bind (computes_load r _ _) fun _ =>
      .generate (Generate.computes_add _ _)
  rw [indexValues_eq]
  intro e he
  obtain ⟨index, -, rfl⟩ := List.mem_map.1 he
  cases index <;> rw [indexValue]
  · exact computes_constantIndex _
  · exact computes_constantIndex _
  · exact computes_load _ _ _
  · exact hsum _ _
  · exact hsum _ _

theorem stores_store (o : Operand) (v : Value) (mask : ComponentMask) :
    Stores (store o v mask) := by
  refine .bind (computes_pointer o (computes_indexValues _)) fun p => ?_
  refine .bind (computes_broadcast v mask) fun v => ?_
  exact .bind (.generate (Generate.computes_cast _ _)) fun v =>
    .generate (Generate.stores_store _ _ _)

/-! ## Computations -/

theorem computes_operands (i : Instruction) (d : Decoder α) : Computes (operands i d) := by
  rw [operands]
  split
  · exact .pure _
  · exact .throw _

theorem stores_storeResult (i : Instruction) (target : Operand) (v : Value) (mask : ComponentMask) :
    Stores (storeResult i target v mask) := by
  rw [storeResult]
  split
  · exact .bind (.generate (Generate.computes_saturate v)) fun v => stores_store _ _ _
  · exact stores_store _ _ _

theorem stores_unary (i : Instruction) {op : Value → Generate Value} (h : ∀ v, (op v).Computes) :
    Stores (unary i op) := by
  refine .bind (computes_operands _ _) fun ⟨target, source⟩ => ?_
  refine .bind (checks_targetMask _).computes fun mask => .bind (computes_load _ _ _) fun v => ?_
  exact .bind (.generate (h v)) fun v => stores_storeResult _ _ _ _

theorem stores_binary (i : Instruction) {op : Value → Value → Generate Value}
    (h : ∀ a b, (op a b).Computes) : Stores (binary i op) := by
  refine .bind (computes_operands _ _) fun ⟨target, sourceA, sourceB⟩ => ?_
  refine .bind (checks_targetMask _).computes fun mask => .bind (computes_load _ _ _) fun a => ?_
  refine .bind (computes_load _ _ _) fun b => .bind (.generate (h a b)) fun v => ?_
  exact stores_storeResult _ _ _ _

theorem stores_multiplyAdd (i : Instruction) : Stores (multiplyAdd i) := by
  refine .bind (computes_operands _ _) fun ⟨target, sourceA, sourceB, sourceC⟩ => ?_
  refine .bind (checks_targetMask _).computes fun mask => .bind (computes_load _ _ _) fun a => ?_
  refine .bind (computes_load _ _ _) fun b => .bind (computes_load _ _ _) fun c => ?_
  refine .bind (.generate (Generate.computes_mul _ _)) fun product => ?_
  exact .bind (.generate (Generate.computes_add _ _)) fun v => stores_storeResult _ _ _ _

theorem stores_dot (i : Instruction) (n : Nat) : Stores (dot i n) := by
  refine .bind (computes_operands _ _) fun ⟨target, sourceA, sourceB⟩ => ?_
  refine .bind (checks_targetMask _).computes fun mask => .bind (computes_load _ _ _) fun a => ?_
  refine .bind (computes_load _ _ _) fun b => ?_
  exact .bind (.generate (Generate.computes_dot _ _)) fun v => stores_storeResult _ _ _ _

theorem stores_sample (i : Instruction) : Stores (sample i) := by
  refine .bind (computes_operands _ _) fun ⟨target, coordinate, texture, sampler⟩ => ?_
  refine .bind (checks_expectType _ _ _).computes fun _ => ?_
  refine .bind (checks_expectDimension _ _ _).computes fun _ => ?_
  refine .bind (checks_expectType _ _ _).computes fun _ => ?_
  refine .bind (checks_expectDimension _ _ _).computes fun _ => ?_
  refine .bind (checks_plainIndex _ _ _).computes fun textureRegister => ?_
  refine .bind (checks_plainIndex _ _ _).computes fun samplerRegister => ?_
  have hrest : Stores (do
      let mask ← targetMask target
      let coordinate ← load coordinate .xyzw .float32
      let v ← generate (Generate.sample textureRegister samplerRegister coordinate)
      let v ← select texture v mask
      storeResult i target v mask) := by
    refine .bind (checks_targetMask _).computes fun mask => ?_
    refine .bind (computes_load _ _ _) fun coordinate => ?_
    refine .bind (.generate (Generate.computes_sample _ _ _)) fun v => ?_
    exact .bind (computes_select _ _ _) fun v => stores_storeResult _ _ _ _
  dsimp only
  split
  · exact .bind (.gap rfl) fun _ => hrest
  · exact hrest

/-! ## Declarations -/

section

variable {P : Generate Unit → Prop}

theorem declares_declareConstantBuffer (i : Instruction)
    (h : ∀ register size, P (Generate.declareConstantBuffer register size)) :
    Declares P (declareConstantBuffer i) := by
  refine .bind (checks_decoded _) fun o => .bind (checks_expectType _ _ _) fun _ => ?_
  refine .bind (checks_expectDimension _ _ _) fun _ => ?_
  refine .bind (checks_plainIndex _ _ _) fun register => ?_
  exact .bind (checks_plainIndex _ _ _) fun size => .generate (h register size)

theorem declares_declareResource (i : Instruction)
    (h : ∀ register dim type, P (Generate.declareResource register dim type)) :
    Declares P (declareResource i) := by
  refine .bind (checks_decoded _) fun o => .bind (checks_expectType _ _ _) fun _ => ?_
  refine .bind (checks_expectDimension _ _ _) fun _ => ?_
  refine .bind (checks_plainIndex _ _ _) fun register => .bind (checks_decoded _) fun dim => ?_
  refine .bind (checks_decoded _) fun w => .bind (checks_decoded _) fun types => .ite ?_ ?_
  · exact .bind (.gap rfl) fun _ => .generate (h _ _ _)
  · exact .generate (h _ _ _)

theorem declares_declareSampler (i : Instruction)
    (h : ∀ register mode, P (Generate.declareSampler register mode)) :
    Declares P (declareSampler i) := by
  refine .bind (checks_decoded _) fun o => .bind (checks_expectType _ _ _) fun _ => ?_
  refine .bind (checks_expectDimension _ _ _) fun _ => ?_
  refine .bind (checks_plainIndex _ _ _) fun register => .bind (checks_decoded _) fun mode => ?_
  exact .generate (h register mode)

theorem checks_interfaceIndices (o : Operand) : Checks (interfaceIndices o) := by
  rw [interfaceIndices]
  split
  · exact .bind (checks_plainIndex _ _ _) fun _ => .pure _
  · exact .bind (checks_plainIndex _ _ _) fun _ => .bind (checks_plainIndex _ _ _) fun _ =>
      .pure _
  · exact .throw _

theorem checks_systemValue (i : Instruction) (o : Operand) : Checks (systemValue i o) :=
  .ite (.bind (checks_decoded _) fun _ => checks_decoded _) (.pure _)

theorem declares_declareInterface (i : Instruction)
    (h : ∀ d, P (Generate.declareInterface d)) : Declares P (declareInterface i) := by
  refine .bind (checks_decoded _) fun o => .ite (.throw _) ?_
  refine .bind (checks_interfaceIndices o) fun indices => ?_
  refine .bind (checks_targetMask o) fun mask => ?_
  refine .bind (checks_systemValue i o) fun wanted => ?_
  have hrest (d : InterpolationMode → InterfaceDeclaration) :
      Declares P (if hasInterpolation i.opcode then do
          let interpolation ← decoded i.interpolationMode
          generate (Generate.declareInterface (d interpolation))
        else do
          let interpolation ← pure .undefined
          generate (Generate.declareInterface (d interpolation))) :=
    .ite (.bind (checks_decoded _) fun _ => .generate (h _))
      (.bind (.pure _) fun _ => .generate (h _))
  refine .observe (fun s s' hstage => ?_) fun s => ?_
  · have hsupports : s'.generator.supports o.type wanted = s.generator.supports o.type wanted := by
      rw [Generator.supports, Generator.supports, hstage]
    rw [hsupports]
  · exact .ite (hrest fun _ => _) (.bind (.gap rfl) fun _ => hrest fun _ => _)

/-- No more temporary registers are declared than a shader can have. -/
theorem declares_declareTemps (i : Instruction)
    (h : ∀ count ≤ maxTemps, P (Generate.declareTemps count)) : Declares P (declareTemps i) := by
  refine .bind (checks_decoded _) fun count => ?_
  dsimp only
  split
  · exact .throw _
  · next hcount => exact .generate (h _ (Nat.le_of_not_lt hcount))

theorem declares_declareThreadGroup (i : Instruction)
    (h : ∀ x y z, P (Generate.declareThreadGroup x y z)) : Declares P (declareThreadGroup i) :=
  .bind (checks_decoded _) fun _ => .bind (checks_decoded _) fun _ =>
    .bind (checks_decoded _) fun _ => .generate (h _ _ _)

end

/-! ## Instructions -/

/-- What the handler of an instruction can be. -/
inductive Kind (i : Instruction) : Lower Unit → Prop
  | skip (hi : i.opcode.isComputation = false) : Kind i (pure ())
  | declares {op : Lower Unit} (hi : i.opcode.isComputation = false)
      (h : Declares Generate.Declares op) : Kind i op
  | stores {op : Lower Unit} (hi : i.opcode.isComputation = true) (h : Stores op) : Kind i op
  | ret (hi : i.opcode.isComputation = false) : Kind i (generate Generate.ret)
  | unhandled (hi : i.opcode.isComputation = false) (hno : i.opcode.isHandled = false) :
    Kind i (gap .unhandledOpcode)

/-- The handler of every instruction is of one of the kinds. -/
theorem instruction_kinds (i : Instruction) : Kind i (instruction i) := by
  have hcomputation {op : Opcode} {b : Bool} (h : i.opcode = op) (hop : op.isComputation = b) :
      i.opcode.isComputation = b := h ▸ hop
  unfold instruction
  split
  iterate 3 next h => exact .skip (hcomputation h rfl)
  · next h =>
    exact .declares (hcomputation h rfl)
      (declares_declareConstantBuffer i Generate.declares_declareConstantBuffer)
  · next h =>
    exact .declares (hcomputation h rfl)
      (declares_declareResource i Generate.declares_declareResource)
  · next h =>
    exact .declares (hcomputation h rfl)
      (declares_declareSampler i Generate.declares_declareSampler)
  iterate 9 next h =>
    exact .declares (hcomputation h rfl)
      (declares_declareInterface i Generate.declares_declareInterface)
  · next h =>
    exact .declares (hcomputation h rfl)
      (declares_declareTemps i fun count _ => Generate.declares_declareTemps count)
  · next h =>
    exact .declares (hcomputation h rfl)
      (declares_declareThreadGroup i Generate.declares_declareThreadGroup)
  · next h => exact .stores (hcomputation h rfl) (stores_binary i Generate.computes_add)
  · next h => exact .stores (hcomputation h rfl) (stores_binary i Generate.computes_mul)
  · next h => exact .stores (hcomputation h rfl) (stores_multiplyAdd i)
  · next h => exact .stores (hcomputation h rfl) (stores_unary i .pure)
  iterate 3 next h => exact .stores (hcomputation h rfl) (stores_dot i _)
  · next h =>
    exact .stores (hcomputation h rfl) (stores_unary i Generate.computes_inverseSqrt)
  · next h => exact .ret (hcomputation h rfl)
  · next h => exact .stores (hcomputation h rfl) (stores_sample i)
  · refine .unhandled ?_ ?_
    · rw [Opcode.isComputation] <;> assumption
    · rw [Opcode.isHandled] <;> assumption

end Lower

end ShaderLowering
