import ShaderLowering.Proofs.Stateful
import ShaderLowering.Proofs.Token.ArgumentCalls

/-!
# Faults of handlers

A handler stops with a fault where the words of its instruction cannot be decoded, where it has no
use for what they say, or where the generator is used wrongly. If it is a decoding error, it names a
word of the instruction or the instruction's end (`reportsOf_instruction`): operands are decoded from
left to right, a number in the token is refused at the token, and a number behind an operand is
refused or missed at its own position. An index or an immediate word of an operand is never missed,
since an operand is whole and the number of its indices is checked first.

That a gap is an error is decided once for all handlers, in `Lowering.process`, so no handler stops
with a gap as its fault.
-/

namespace ShaderLowering

/-- What the handler of an instruction that reaches from one position to another can stop with. -/
def CompileFault.LiesWithin (low high : Nat) : CompileFault → Prop
  | decode e => low ≤ e.position ∧ e.position ≤ high
  | coverageGap _ | unsupportedStage _ => False
  | _ => True

variable {α β : Type}

/-- Where a list of reads fails, one of them does. -/
theorem exists_of_mapM_eq_error {ε : Type} {f : α → Except ε β} {xs : List α} {e : ε}
    (h : xs.mapM f = .error e) : ∃ x ∈ xs, f x = .error e := by
  induction xs with
  | nil => cases h
  | cons x xs ih =>
    rw [List.mapM_cons] at h
    rcases hx : f x with e' | y
    · rw [hx] at h
      cases h
      exact ⟨x, List.mem_cons_self .., hx⟩
    · rw [hx] at h
      rcases hxs : xs.mapM f with e' | ys
      · rw [hxs] at h
        cases h
        obtain ⟨x', hmem, hx'⟩ := ih hxs
        exact ⟨x', List.mem_cons_of_mem _ hmem, hx'⟩
      · rw [hxs] at h
        cases h

namespace Lower

variable {low high : Nat}

/-- Every fault that a handler stops with lies within the positions, and every result is as `R`
says. -/
def Reports (low high : Nat) (op : Lower α) (R : α → Prop := fun _ => True) : Prop :=
  ∀ s, match (op.run s).1 with
    | .ok a => R a
    | .error (.fault f) => f.LiesWithin low high
    | .error (.missing _) => True

/-! ## Sequences and primitives -/

namespace Reports

variable {R : α → Prop} {T : β → Prop}

theorem pure {a : α} (h : R a) : Reports low high (Pure.pure a) R := fun _ => h

theorem bind {op : Lower α} {f : α → Lower β} (hop : Reports low high op R)
    (hf : ∀ a, R a → Reports low high (f a) T) : Reports low high (op >>= f) T := by
  intro s
  have h := hop s
  rw [run_bind]
  rcases hrun : op.run s with ⟨(feature | f) | a, s'⟩ <;> rw [hrun] at h
  · trivial
  · exact h
  · exact hf a h s'

theorem imp {R' : α → Prop} {op : Lower α} (h : Reports low high op R)
    (hR : ∀ a, R a → R' a) : Reports low high op R' := by
  intro s
  have hs := h s
  rcases hrun : (op.run s).1 with (feature | f) | a <;> rw [hrun] at hs
  · trivial
  · exact hs
  · exact hR a hs

theorem missing (feature : MissingFeature) : Reports low high (Lower.missing feature) R :=
  fun _ => trivial

theorem fault {f : CompileFault} (h : f.LiesWithin low high) :
    Reports low high (Lower.fault f) R := fun _ => h

/-- The generator knows nothing of words. -/
theorem generate (op : Generate α) : Reports low high (generate op) := by
  intro s
  rw [run_generate]
  rcases (op.run s.generator).1 with (_ | _) | _ <;> trivial

theorem gap (g : Gap) : Reports low high (gap g) := fun _ => trivial

theorem get : Reports low high (MonadState.get : Lower LowerState) := fun _ => trivial

theorem decoded {r : Except DecodeError α}
    (h : ∀ e, r = .error e → low ≤ e.position ∧ e.position ≤ high) :
    Reports low high (decoded r) fun a => r = .ok a := by
  cases r with
  | ok a => exact .pure rfl
  | error e => exact .fault (h e rfl)

theorem ite {c : Prop} [Decidable c] {op op' : Lower α} (h : c → Reports low high op R)
    (h' : ¬c → Reports low high op' R) : Reports low high (if c then op else op') R := by
  split
  · exact h ‹_›
  · exact h' ‹_›

end Reports

/-! ## Operands -/

theorem reports_expectType (o : Operand) (type : OperandType) (role : OperandRole) :
    Reports low high (expectType o type role) :=
  .ite (fun _ => .fault trivial) fun _ => .pure trivial

/-- An operand that passes the check has the number of indices that is asked for. -/
theorem reports_expectDimension (o : Operand) (dimension : Nat) (role : OperandRole) :
    Reports low high (expectDimension o dimension role) fun _ => o.dimension = dimension :=
  .ite (fun _ => .fault trivial) fun h => .pure (Decidable.not_not.1 h)

/-- An index that an operand has is not missed. -/
theorem reports_plainIndex {o : Operand} {n : Nat} (h : n < o.dimension) (role : OperandRole) :
    Reports low high (plainIndex o n role) := by
  have hindex : o.index n = .ok o.indices[n] := by
    rw [Operand.index, List.getElem?_eq_getElem h]
  refine .bind (.decoded fun e he => ?_) fun index _ => ?_
  · rw [hindex] at he
    cases he
  · split
    · exact .pure trivial
    · exact .fault trivial

theorem reports_targetMask (o : Operand) : Reports low high (targetMask o) := by
  rw [targetMask]
  split
  iterate 3 exact .pure trivial
  · exact .fault trivial
  · exact .fault trivial

theorem reports_select (o : Operand) (v : Value) (mask : ComponentMask) :
    Reports low high (select o v mask) := by
  rw [select]
  split
  iterate 3 exact .generate _
  · exact .fault trivial

theorem reports_applyModifiers (m : OperandModifiers) (v : Value) :
    Reports low high (applyModifiers m v) := by
  have hneg (v : Value) :
      Reports low high (if m.neg then generate (Generate.neg v) else pure v) :=
    .ite (fun _ => .generate _) fun _ => .pure trivial
  rw [applyModifiers]
  split
  · exact .bind (.generate _) fun v _ => hneg v
  · exact hneg v

theorem reports_broadcast (v : Value) (mask : ComponentMask) :
    Reports low high (broadcast v mask) := .ite (fun _ => .generate _) fun _ => .pure trivial

/-- The immediate words of a whole operand are not missed. -/
theorem reports_loadImmediate {o : Operand} (ho : o.IsWhole) (htype : o.type = .imm32)
    (mask : ComponentMask) (scalar : ScalarType) :
    Reports low high (loadImmediate o mask scalar) := by
  have hlength := ho.length_immediates
  rw [htype] at hlength
  have hword (n : Nat) (hn : n < o.immediates.length) :
      Reports low high (decoded (o.immediate n)) fun w => o.immediate n = .ok w := by
    refine .decoded fun e he => ?_
    rw [Operand.immediate, List.getElem?_eq_getElem hn] at he
    cases he
  rw [loadImmediate]
  split
  · next hc =>
    have hone : o.immediates.length = 1 := by rw [hlength, OperandToken.immediateCount, hc]
    exact .bind (hword 0 (by omega)) fun w _ => .generate _
  · next hc =>
    have hfour : o.immediates.length = 4 := by rw [hlength, OperandToken.immediateCount, hc]
    have hwords (ns : List Nat) (hns : ∀ n ∈ ns, n < o.immediates.length) :
        Reports low high (ns.mapM fun n => decoded (o.immediate n)) := by
      induction ns with
      | nil => exact .pure trivial
      | cons n ns ih =>
        rw [List.mapM_cons]
        obtain ⟨hn, hns⟩ := List.forall_mem_cons.1 hns
        exact .bind (hword n hn) fun w _ => .bind (ih hns) fun ws _ => .pure trivial
    refine .bind (hwords [0, 1, 2, 3] ?_) fun bits _ => .bind (.generate _) fun v _ => .generate _
    rw [hfour]
    decide
  · exact .fault trivial

/-- The number of indices is checked before an index is looked up. -/
theorem reports_pointer (o : Operand) {elements : List (Lower Value)}
    (h : ∀ e ∈ elements, Reports low high e) : Reports low high (pointer o elements) := by
  rw [pointer]
  split
  · refine .bind (reports_expectDimension o 1 _) fun _ hdimension => ?_
    exact .bind (reports_plainIndex (by omega) _) fun _ _ => .generate _
  iterate 2
    split
    · next hdimension => exact .bind (reports_plainIndex (by omega) _) fun _ _ => .generate _
    · exact .missing _
    · exact .fault trivial
  · refine .bind (reports_expectDimension o 2 _) fun _ hdimension => ?_
    have hsecond : Reports low high
        (elements.getD 1 (fault (.indexDimension .constantBuffer o.dimension))) := by
      rw [List.getD_eq_getElem?_getD]
      rcases helement : elements[1]? with _ | e
      · exact .fault trivial
      · exact h e (List.mem_of_getElem? helement)
    refine .bind (reports_plainIndex (by omega) _) fun register _ => ?_
    exact .bind hsecond fun element _ => .generate _
  · exact .fault trivial

theorem reports_loadRegister (o : Operand) {pointer : Lower Pointer}
    (h : Reports low high pointer) (mask : ComponentMask) (scalar : ScalarType) :
    Reports low high (loadRegister o pointer mask scalar) := by
  refine .bind h fun p _ => .bind (.generate _) fun v _ => .bind (.generate _) fun v _ => ?_
  split
  · exact .bind (reports_select o v mask) fun v _ => reports_applyModifiers _ v
  · exact .bind (.generate _) fun v _ => reports_applyModifiers _ v
  · exact .fault trivial

theorem reports_sum (number : Word) {op : Lower Value} (h : Reports low high op) :
    Reports low high (do
      let number ← constantIndex number
      let register ← op
      generate (Generate.add register number)) :=
  .bind (.generate _) fun _ _ => .bind h fun _ _ => .generate _

/-- An index is loaded as the register is that it names. -/
theorem reports_indexValue {index : IndexOf Operand}
    (h : ∀ r, index.register? = some r → ∀ mask scalar, Reports low high (load r mask scalar)) :
    Reports low high (indexValue index) := by
  cases index with
  | imm32 v =>
    rw [indexValue]
    exact .generate _
  | imm64 w v =>
    rw [indexValue]
    exact .generate _
  | relative r =>
    rw [indexValue]
    exact h r rfl _ _
  | imm32Relative v r =>
    rw [indexValue]
    exact reports_sum v (h r rfl _ _)
  | imm64Relative w v r =>
    rw [indexValue]
    exact reports_sum v (h r rfl _ _)

theorem reports_indexValues {indices : List (IndexOf Operand)}
    (h : ∀ index ∈ indices, ∀ r, index.register? = some r →
      ∀ mask scalar, Reports low high (load r mask scalar)) :
    ∀ e ∈ indexValues indices, Reports low high e := by
  intro e he
  rw [indexValues_eq] at he
  obtain ⟨index, hindex, rfl⟩ := List.mem_map.1 he
  exact reports_indexValue (h index hindex)

/-- Loading a whole operand, by induction over the registers of its indices. -/
theorem reports_load {o : Operand} (ho : o.IsWhole) (mask : ComponentMask) (scalar : ScalarType) :
    Reports low high (load o mask scalar) := by
  induction o using Operand.nested_induction generalizing mask scalar with
  | h o ih =>
    have hregisters := reports_indexValues fun index hindex r hr =>
      ih index hindex r hr (ho.register hindex hr)
    rw [load_eq]
    split
    · next htype =>
      exact .bind (reports_loadImmediate ho htype mask scalar) fun v _ => reports_broadcast v mask
    · exact .bind (reports_loadRegister o (reports_pointer o hregisters) mask scalar) fun v _ =>
        reports_broadcast v mask

theorem reports_store {o : Operand} (ho : o.IsWhole) (v : Value) (mask : ComponentMask) :
    Reports low high (store o v mask) := by
  have hregisters : ∀ e ∈ indexValues o.indices, Reports low high e :=
    reports_indexValues fun index hindex r hr => reports_load (ho.register hindex hr)
  refine .bind (reports_pointer o hregisters) fun p _ => ?_
  refine .bind (reports_broadcast v mask) fun v _ => .bind (.generate _) fun v _ => ?_
  exact .generate _

/-! ## Computations -/

/-- Decoders that read operands and nothing else. What is said of the result can use that the operands
are whole. -/
inductive ReadsOperands : (α → Prop) → Decoder α → Prop
  | pure {R : α → Prop} {a : α} (h : R a) : ReadsOperands R (pure a)
  | next {R : α → Prop} {f : Operand → Decoder α}
      (h : ∀ o, ReadsOperands (fun a => o.IsWhole → R a) (f o)) :
      ReadsOperands R (Operand.decode >>= f)

theorem ReadsOperands.returns {R : α → Prop} {d : Decoder α} (h : ReadsOperands R d) :
    d.Returns R := by
  induction h with
  | pure h => exact .pure h
  | next _ ih => exact .bind Operand.returns_decode fun o ho _ _ _ hrest => ih o hrest ho

theorem ReadsOperands.failsFrom {R : α → Prop} {d : Decoder α} (h : ReadsOperands R d) (low : Nat) :
    d.FailsFrom low := by
  induction h with
  | pure h => exact .pure _
  | next _ ih =>
    exact .bind (Operand.forward_decodeNested _) (Operand.failsFrom_decodeNested _ low) ih

/-- What a handler reports of an instruction lies between its first word and its end. -/
abbrev ReportsOf (i : Instruction) (op : Lower α) (R : α → Prop := fun _ => True) : Prop :=
  Reports i.position (i.position + i.length) op R

variable (i : Instruction)

theorem reportsOf_operands {R : α → Prop} {d : Decoder α} (h : ReadsOperands R d) :
    ReportsOf i (operands i d) R := by
  rw [operands]
  split
  · next hd => exact .pure (h.returns hd)
  · next e hd =>
    obtain ⟨hlow, hhigh⟩ := h.failsFrom i.argsPosition (Nat.le_refl _) hd
    refine .fault ⟨Nat.le_trans i.position_le_argsPosition hlow, ?_⟩
    rw [← i.argsPosition_add_length]
    exact hhigh

theorem reportsOf_storeResult {target : Operand} (ht : target.IsWhole) (v : Value)
    (mask : ComponentMask) : ReportsOf i (storeResult i target v mask) := by
  rw [storeResult]
  split
  · exact .bind (.generate _) fun v _ => reports_store ht v mask
  · exact reports_store ht v mask

theorem reportsOf_unary (op : Value → Generate Value) : ReportsOf i (unary i op) := by
  refine .bind (R := fun os => os.1.IsWhole ∧ os.2.IsWhole) (reportsOf_operands i ?_) ?_
  · exact .next fun target => .next fun source => .pure fun hs ht => ⟨ht, hs⟩
  rintro ⟨target, source⟩ ⟨ht, hs⟩
  refine .bind (reports_targetMask target) fun mask _ => ?_
  refine .bind (reports_load hs mask _) fun v _ => .bind (.generate _) fun v _ => ?_
  exact reportsOf_storeResult i ht v mask

theorem reportsOf_binaryOperands : ReportsOf i (binaryOperands i) fun os =>
    os.1.IsWhole ∧ os.2.1.IsWhole ∧ os.2.2.IsWhole := by
  refine reportsOf_operands i ?_
  exact .next fun target => .next fun a => .next fun b => .pure fun hb ha ht => ⟨ht, ha, hb⟩

theorem reportsOf_binary (op : Value → Value → Generate Value) : ReportsOf i (binary i op) := by
  refine .bind (reportsOf_binaryOperands i) ?_
  rintro ⟨target, a, b⟩ ⟨ht, ha, hb⟩
  refine .bind (reports_targetMask target) fun mask _ => .bind (reports_load ha mask _) fun a _ => ?_
  refine .bind (reports_load hb mask _) fun b _ => .bind (.generate _) fun v _ => ?_
  exact reportsOf_storeResult i ht v mask

theorem reportsOf_dot (n : Nat) : ReportsOf i (dot i n) := by
  refine .bind (reportsOf_binaryOperands i) ?_
  rintro ⟨target, a, b⟩ ⟨ht, ha, hb⟩
  refine .bind (reports_targetMask target) fun mask _ => .bind (reports_load ha _ _) fun a _ => ?_
  refine .bind (reports_load hb _ _) fun b _ => .bind (.generate _) fun v _ => ?_
  exact reportsOf_storeResult i ht v mask

theorem reportsOf_multiplyAdd : ReportsOf i (multiplyAdd i) := by
  refine .bind (R := fun os => os.1.IsWhole ∧ os.2.1.IsWhole ∧ os.2.2.1.IsWhole ∧
    os.2.2.2.IsWhole) (reportsOf_operands i ?_) ?_
  · exact .next fun target => .next fun a => .next fun b => .next fun c =>
      .pure fun hc hb ha ht => ⟨ht, ha, hb, hc⟩
  rintro ⟨target, a, b, c⟩ ⟨ht, ha, hb, hc⟩
  refine .bind (reports_targetMask target) fun mask _ => .bind (reports_load ha mask _) fun a _ => ?_
  refine .bind (reports_load hb mask _) fun b _ => .bind (reports_load hc mask _) fun c _ => ?_
  refine .bind (.generate _) fun product _ => .bind (.generate _) fun v _ => ?_
  exact reportsOf_storeResult i ht v mask

theorem reportsOf_sample : ReportsOf i (sample i) := by
  refine .bind (R := fun os => os.1.IsWhole ∧ os.2.1.IsWhole) (reportsOf_operands i ?_) ?_
  · exact .next fun target => .next fun coordinate => .next fun texture => .next fun sampler =>
      .pure fun _ _ hc ht => ⟨ht, hc⟩
  rintro ⟨target, coordinate, texture, sampler⟩ ⟨ht, hc⟩
  refine .bind (reports_expectType _ _ _) fun _ _ => ?_
  refine .bind (reports_expectDimension texture 1 _) fun _ htexture => ?_
  refine .bind (reports_expectType _ _ _) fun _ _ => ?_
  refine .bind (reports_expectDimension sampler 1 _) fun _ hsampler => ?_
  refine .bind (reports_plainIndex (by omega) _) fun textureRegister _ => ?_
  refine .bind (reports_plainIndex (by omega) _) fun samplerRegister _ => ?_
  have hrest : ReportsOf i (do
      let mask ← targetMask target
      let coordinate ← load coordinate .xyzw .float32
      let v ← generate (Generate.sample textureRegister samplerRegister coordinate)
      let v ← select texture v mask
      storeResult i target v mask) := by
    refine .bind (reports_targetMask target) fun mask _ => .bind (reports_load hc _ _) fun c _ => ?_
    refine .bind (.generate _) fun v _ => .bind (reports_select texture v mask) fun v _ => ?_
    exact reportsOf_storeResult i ht v mask
  exact .ite (fun _ => .bind (.gap _) fun _ _ => hrest) fun _ => hrest

/-! ## Declarations -/

/-- The operand of a declaration has its words among the arguments. -/
theorem reportsOf_operand :
    ReportsOf i (decoded (i.operand 0)) fun o => o.length ≤ i.args.length := by
  refine (Reports.decoded fun e he => ?_).imp fun o ho => Instruction.length_le_of_operand_eq_ok ho
  obtain ⟨hlow, hhigh⟩ := Instruction.range_of_operand_eq_error he
  exact ⟨Nat.le_trans i.position_le_argsPosition hlow, hhigh⟩

/-- A word is missed where it should stand. -/
theorem reportsOf_arg {offset : Nat} (h : offset ≤ i.args.length) :
    ReportsOf i (decoded (i.arg offset)) fun _ => offset < i.args.length := by
  refine (Reports.decoded fun e he => ?_).imp fun w hw => Instruction.lt_of_arg_eq_ok hw
  have hbegin := i.position_le_argsPosition
  have hend := i.argsPosition_add_length
  rw [Instruction.position_of_arg_eq_error he]
  omega

/-- Numbers in the token are refused at the token. -/
theorem reportsOf_tokenField [Numbered α] (n : Nat) :
    ReportsOf i (decoded (Numbered.decode (α := α) n i.position)) :=
  .imp (.decoded fun e he => by
    rw [Numbered.position_of_decode_eq_error he]
    omega) fun _ _ => trivial

/-- Numbers in an argument are refused at the argument. -/
theorem reportsOf_argField {r : Except DecodeError α} {offset : Nat} (h : offset < i.args.length)
    (hr : ∀ e, r = .error e → e.position = i.argsPosition + offset) : ReportsOf i (decoded r) := by
  refine (Reports.decoded fun e he => ?_).imp fun _ _ => trivial
  have hbegin := i.position_le_argsPosition
  have hend := i.argsPosition_add_length
  rw [hr e he]
  omega

/-- Whichever of the return types is refused, it is at the position of their word. -/
theorem position_of_returnTypes_eq_error {w : Word} {position : Nat} {e : DecodeError}
    (h : returnTypes w position = .error e) : e.position = position := by
  obtain ⟨low, -, hlow⟩ := exists_of_mapM_eq_error h
  exact Numbered.position_of_decode_eq_error hlow

theorem reportsOf_declareConstantBuffer : ReportsOf i (declareConstantBuffer i) := by
  refine .bind (reportsOf_operand i) fun o _ => .bind (reports_expectType o _ _) fun _ _ => ?_
  refine .bind (reports_expectDimension o 2 _) fun _ hdimension => ?_
  refine .bind (reports_plainIndex (by omega) _) fun register _ => ?_
  exact .bind (reports_plainIndex (by omega) _) fun size _ => .generate _

theorem reportsOf_declareResource : ReportsOf i (declareResource i) := by
  refine .bind (reportsOf_operand i) fun o ho => .bind (reports_expectType o _ _) fun _ _ => ?_
  refine .bind (reports_expectDimension o 1 _) fun _ hdimension => ?_
  refine .bind (reports_plainIndex (by omega) _) fun register _ => ?_
  refine .bind (reportsOf_tokenField i _) fun dim _ => .bind (reportsOf_arg i ho) fun w hw => ?_
  refine .bind (reportsOf_argField i hw fun e he => position_of_returnTypes_eq_error he)
    fun types _ => ?_
  exact .ite (fun _ => .bind (.gap _) fun _ _ => .generate _) fun _ => .generate _

theorem reportsOf_declareSampler : ReportsOf i (declareSampler i) := by
  refine .bind (reportsOf_operand i) fun o _ => .bind (reports_expectType o _ _) fun _ _ => ?_
  refine .bind (reports_expectDimension o 1 _) fun _ hdimension => ?_
  refine .bind (reports_plainIndex (by omega) _) fun register _ => ?_
  exact .bind (reportsOf_tokenField i _) fun mode _ => .generate _

theorem reports_interfaceIndices (o : Operand) : Reports low high (interfaceIndices o) := by
  rw [interfaceIndices]
  split
  · next hdimension => exact .bind (reports_plainIndex (by omega) _) fun _ _ => .pure trivial
  · next hdimension =>
    exact .bind (reports_plainIndex (by omega) _) fun _ _ =>
      .bind (reports_plainIndex (by omega) _) fun _ _ => .pure trivial
  · exact .fault trivial

theorem reportsOf_systemValue {o : Operand} (ho : o.length ≤ i.args.length) :
    ReportsOf i (systemValue i o) := by
  refine .ite (fun _ => .bind (reportsOf_arg i ho) fun w hw => ?_) fun _ => .pure trivial
  exact reportsOf_argField i hw fun e he => Numbered.position_of_decode_eq_error he

theorem reportsOf_declareInterface : ReportsOf i (declareInterface i) := by
  refine .bind (reportsOf_operand i) fun o ho => .ite (fun _ => .missing _) fun _ => ?_
  refine .bind (reports_interfaceIndices o) fun indices _ => ?_
  refine .bind (reports_targetMask o) fun mask _ => ?_
  refine .bind (reportsOf_systemValue i ho) fun wanted _ => .bind .get fun s _ => ?_
  have hrest (d : InterpolationMode → InterfaceDeclaration) : ReportsOf i
      (if hasInterpolation i.opcode then do
        let interpolation ← decoded i.interpolationMode
        generate (Generate.declareInterface (d interpolation))
      else do
        let interpolation ← pure .undefined
        generate (Generate.declareInterface (d interpolation))) :=
    .ite (fun _ => .bind (reportsOf_tokenField i _) fun _ _ => .generate _) fun _ =>
      .bind (R := fun _ => True) (.pure trivial) fun _ _ => .generate _
  exact .ite (fun _ => hrest _) fun _ => .bind (.gap _) fun _ _ => hrest _

theorem reportsOf_declareTemps : ReportsOf i (declareTemps i) := by
  refine .bind (reportsOf_arg i (Nat.zero_le _)) fun count _ => .ite (fun _ => ?_) fun _ => ?_
  · exact .fault trivial
  · exact .generate _

/-- A word is looked for only if the one before it is there. -/
theorem reportsOf_declareThreadGroup : ReportsOf i (declareThreadGroup i) := by
  refine .bind (reportsOf_arg i (Nat.zero_le _)) fun x hx => .bind (reportsOf_arg i hx) fun y hy => ?_
  exact .bind (reportsOf_arg i hy) fun z _ => .generate _

/-! ## Instructions -/

/-- Whatever the handler of an instruction reports lies within the instruction or at its end, and is
neither a gap nor a stage. -/
theorem reportsOf_instruction : ReportsOf i (instruction i) :=
  instruction_cases (P := fun op => ReportsOf i op) i (.pure trivial)
    (reportsOf_declareConstantBuffer i)
    (reportsOf_declareResource i) (reportsOf_declareSampler i)
    (fun _ => reportsOf_declareInterface i) (reportsOf_declareTemps i)
    (reportsOf_declareThreadGroup i) (fun _ => reportsOf_binary i _)
    (fun _ => reportsOf_binary i _) (fun _ => reportsOf_multiplyAdd i)
    (fun _ => reportsOf_unary i _) (fun n _ => reportsOf_dot i n) (fun _ => reportsOf_unary i _)
    (fun _ => .generate _) (fun _ => reportsOf_sample i) (.gap _)

end Lower

end ShaderLowering
