import ShaderLowering.Proofs.Generator.ComputationSteps
import ShaderLowering.Proofs.Semantics.Instructions

/-!
# The events of instructions

What an instruction has to do with registers can be read off its operands: `Instruction.events`. A
declaration declares the register that its operand names. A computation finds the elements of
constant buffers that its sources name, the nested ones first, then samples, if it does, and at last
finds what its destination names. Handling an instruction takes the steps of these events
(`Generator.exists_steps_handle`), or if the handler stops, those that come before; a declaration
that stops has declared nothing.
-/

namespace ShaderLowering

open Spirv (Build Module)

/-! ## Events read off operands -/

namespace Operand

mutual

/-- The elements of constant buffers that are found for an operand, those for its indices first. -/
def events : Operand → List Event
  | ⟨position, token, type, extensions, indices, immediates⟩ =>
    let o : Operand := ⟨position, token, type, extensions, indices, immediates⟩
    if type = .constantBuffer then
      (indexEventsList indices).getD 1 [] ++ (o.index32? 0).toList.map .element
    else []

/-- The elements that are found for each of some indices. -/
def indexEventsList : List (IndexOf Operand) → List (List Event)
  | [] => []
  | index :: indices => indexEvents index :: indexEventsList indices

/-- The elements that are found for an index. -/
def indexEvents : IndexOf Operand → List Event
  | .imm32 _ | .imm64 _ _ => []
  | .relative r | .imm32Relative _ r | .imm64Relative _ _ r => r.events

end

theorem events_eq (o : Operand) : o.events =
    if o.type = .constantBuffer then
      (indexEventsList o.indices).getD 1 [] ++ (o.index32? 0).toList.map .element
    else [] := by
  cases o
  rw [events]

mutual

/-- An operand declares no register. -/
theorem isAccess_events : ∀ o : Operand, ∀ e ∈ o.events, e.isAccess = true
  | ⟨position, token, type, extensions, indices, immediates⟩ => by
    intro e he
    rw [events] at he
    split at he
    · rcases List.mem_append.1 he with he | he
      · rcases hnested : (indexEventsList indices)[1]? with _ | nested
        · simp [List.getD, hnested] at he
        · rw [List.getD, hnested] at he
          exact isAccess_indexEventsList indices nested (List.mem_of_getElem? hnested) e he
      · obtain ⟨buffer, -, rfl⟩ := List.mem_map.1 he
        rfl
    · cases he

theorem isAccess_indexEventsList : ∀ indices : List (IndexOf Operand),
    ∀ nested ∈ indexEventsList indices, ∀ e ∈ nested, e.isAccess = true
  | [] => nofun
  | index :: indices => by
    intro nested hnested
    rw [indexEventsList, List.mem_cons] at hnested
    rcases hnested with rfl | hnested
    · exact isAccess_indexEvents index
    · exact isAccess_indexEventsList indices nested hnested

theorem isAccess_indexEvents : ∀ index : IndexOf Operand, ∀ e ∈ indexEvents index,
    e.isAccess = true
  | .imm32 _ | .imm64 _ _ => by simp [indexEvents]
  | .relative r | .imm32Relative _ r | .imm64Relative _ _ r => by
    simpa [indexEvents] using isAccess_events r

end

end Operand

namespace Instruction

/-- The operand that a declaration names its register with. -/
def declared? (i : Instruction) : Option Operand := (i.operand 0).toOption

/-- The events of a declaration of a resource. -/
def resourceEvents (i : Instruction) (kind : ResourceClass) (behind : Option ResourceKind) :
    List Event :=
  match i.declared?.bind (·.index32? 0), behind with
  | some number, some behind => [.resource kind number behind]
  | _, _ => []

theorem resourceEvents_eq {i : Instruction} {o : Operand} {number : Word}
    (ho : i.operand 0 = .ok o) (hnumber : o.index32? 0 = some number) (kind : ResourceClass)
    (behind : ResourceKind) :
    i.resourceEvents kind (some behind) = [.resource kind number behind] := by
  simp only [resourceEvents, declared?, ho, Except.toOption, Option.bind_some, hnumber]

/-- The events of a declaration of an input or output register. -/
def interfaceEvents (i : Instruction) : List Event :=
  match i.declared?.bind fun o => InterfaceClass.ofOperandType? o.type,
    i.declared?.bind (·.index32? 0) with
  | some kind, some number => [.interface kind number]
  | _, _ => []

theorem interfaceEvents_eq {i : Instruction} {o : Operand} {kind : InterfaceClass} {number : Word}
    (ho : i.operand 0 = .ok o) (hkind : InterfaceClass.ofOperandType? o.type = some kind)
    (hnumber : o.index32? 0 = some number) : i.interfaceEvents = [.interface kind number] := by
  simp only [interfaceEvents, declared?, ho, Except.toOption, Option.bind_some, hkind, hnumber]

/-- The events of a declaration of temporary registers. -/
def tempEvents (i : Instruction) : List Event :=
  (i.arg 0).toOption.toList.map fun count => .temps count.toNat

/-- The event of sampling the texture that an operand names. -/
def sampledEvents (texture sampler : Operand) : List Event :=
  match texture.index32? 0, sampler.index32? 0 with
  | some texture, some sampler => [.sample texture sampler]
  | _, _ => []

/-- The events of a computation from one source. -/
def unaryEvents (i : Instruction) : List Event :=
  match i.operandList with
  | target :: a :: _ => a.events ++ target.events
  | _ => []

/-- The events of a computation from two sources. -/
def binaryEvents (i : Instruction) : List Event :=
  match i.operandList with
  | target :: a :: b :: _ => a.events ++ (b.events ++ target.events)
  | _ => []

/-- The events of a computation from three sources. -/
def ternaryEvents (i : Instruction) : List Event :=
  match i.operandList with
  | target :: a :: b :: c :: _ => a.events ++ (b.events ++ (c.events ++ target.events))
  | _ => []

/-- The events of sampling a texture. -/
def sampleEvents (i : Instruction) : List Event :=
  match i.operandList with
  | target :: coordinate :: texture :: sampler :: _ =>
    coordinate.events ++ (sampledEvents texture sampler ++ target.events)
  | _ => []

/-- What an instruction has to do with registers. -/
def events (i : Instruction) : List Event :=
  match i.opcode with
  | .dclConstantbuffer => i.resourceEvents .constantBuffer (some .uniformBuffer)
  | .dclResource => i.resourceEvents .shaderResource (i.resourceDim.toOption.map (·.behind))
  | .dclSampler => i.resourceEvents .sampler (some .sampler)
  | .dclInput | .dclInputSgv | .dclInputSiv | .dclInputPs | .dclInputPsSgv | .dclInputPsSiv
  | .dclOutput | .dclOutputSgv | .dclOutputSiv => i.interfaceEvents
  | .dclTemps => i.tempEvents
  | .mov | .rsq => i.unaryEvents
  | .add | .mul | .dp2 | .dp3 | .dp4 => i.binaryEvents
  | .mad => i.ternaryEvents
  | .sample => i.sampleEvents
  | _ => []

/-- What has taken place where the handler of an instruction stops: for a declaration nothing, and
else the first of the events. -/
def Stops (i : Instruction) (trace : List Event) : Prop :=
  if i.opcode.isExecuted then trace <+: i.events else trace = []

/-- Only declarations declare registers. -/
theorem isAccess_events {i : Instruction} (hi : i.opcode.isExecuted = true) :
    ∀ e ∈ i.events, e.isAccess = true := by
  have happend {before behind : List Event} (h : ∀ e ∈ before, e.isAccess = true)
      (h' : ∀ e ∈ behind, e.isAccess = true) : ∀ e ∈ before ++ behind, e.isAccess = true :=
    List.forall_mem_append.2 ⟨h, h'⟩
  have hsampled (texture sampler : Operand) :
      ∀ e ∈ sampledEvents texture sampler, e.isAccess = true := by
    rw [sampledEvents]
    split
    · exact List.forall_mem_singleton.2 rfl
    · exact List.forall_mem_nil _
  have hoperand := Operand.isAccess_events
  rw [events]
  split
  iterate 13
    next h =>
      rw [h] at hi
      cases hi
  iterate 2
    rw [unaryEvents]
    split
    · exact happend (hoperand _) (hoperand _)
    · exact List.forall_mem_nil _
  iterate 5
    rw [binaryEvents]
    split
    · exact happend (hoperand _) (happend (hoperand _) (hoperand _))
    · exact List.forall_mem_nil _
  · rw [ternaryEvents]
    split
    · exact happend (hoperand _) (happend (hoperand _) (happend (hoperand _) (hoperand _)))
    · exact List.forall_mem_nil _
  · rw [sampleEvents]
    split
    · exact happend (hoperand _) (happend (hsampled _ _) (hoperand _))
    · exact List.forall_mem_nil _
  · exact List.forall_mem_nil _

/-- Where a handler stops, no register has been declared. -/
theorem Stops.isAccess {i : Instruction} {trace : List Event} (h : i.Stops trace) :
    ∀ e ∈ trace, e.isAccess = true := by
  rw [Stops] at h
  split at h
  · next hi => exact fun e he => isAccess_events hi e (h.subset he)
  · rw [h]
    exact List.forall_mem_nil _

end Instruction

namespace Lower

variable {α β : Type} {s : LowerState} {failed : List Event → Prop} {events events' : List Event}
variable {Q : α → Prop} {v : Value} {o : Operand}

/-! ## Primitive operations -/

theorem takes_missing {feature : MissingFeature} :
    Takes s (missing feature : Lower α) Nothing events Q := .throw

theorem takes_fault {f : CompileFault} : Takes s (fault f : Lower α) Nothing events Q := .throw

theorem takes_pure {a : α} (h : Q a) : Takes s (pure a : Lower α) Nothing [] Q :=
  Takes.nothing_of_never (.pure h)

theorem takes_generate {op : Generate α} (h : Takes s.generator op failed events Q) :
    Takes s (generate op) failed events Q := by
  refine ⟨fun a ha => ?_, fun e he => ?_⟩ <;> rw [run_generate] at *
  · rcases hr : (op.run s.generator).1 with e | b
    · rw [hr] at ha
      cases ha
    · rw [hr] at ha
      cases ha
      exact h.ok _ hr
  · rcases hr : (op.run s.generator).1 with e' | b
    · exact h.error _ hr
    · rw [hr] at he
      cases he

/-- What follows a part without events, if declarations stop before anything has taken place. -/
theorem nothing_bind {op : Lower α} {f : α → Lower β} {R : β → Prop} (h : Takes s op Nothing [] Q)
    (hf : ∀ a s', Q a → Takes s' (f a) Nothing events R) :
    Takes s (op >>= f) Nothing events R :=
  h.calm_bind (fun _ => id) fun a s' ha _ => hf a s' ha

/-- What follows a part without events, where computations may stop in the middle. -/
theorem calm_bind {op : Lower α} {f : α → Lower β} {R : β → Prop} (h : Takes s op Nothing [] Q)
    (hf : ∀ a s', Q a → Takes s' (f a) (FirstOf events) events R) :
    Takes s (op >>= f) (FirstOf events) events R :=
  h.calm_bind (fun _ ht => ht ▸ List.nil_prefix) fun a s' ha _ => hf a s' ha

theorem takes_decoded (r : Except DecodeError α) :
    Takes s (decoded r) Nothing [] fun a => r = .ok a := by
  cases r with
  | ok a => exact takes_pure rfl
  | error e => exact takes_fault

theorem takes_mapM_decoded {γ : Type} (f : γ → Except DecodeError α) (xs : List γ) :
    Takes s (xs.mapM fun x => decoded (f x)) Nothing [] fun as => as.length = xs.length := by
  induction xs generalizing s with
  | nil => exact takes_pure rfl
  | cons x xs ih =>
    rw [List.mapM_cons]
    exact nothing_bind (takes_decoded _) fun a _ _ => nothing_bind ih fun as _ has =>
      takes_pure (by rw [List.length_cons, has, List.length_cons])

theorem takes_gap (gap : Gap) : Takes s (Lower.gap gap) Nothing [] fun _ => True :=
  ⟨fun _ _ => ⟨trivial, .refl⟩, fun _ he => by cases he⟩

theorem takes_expectType (type : OperandType) (role : OperandRole) :
    Takes s (expectType o type role) Nothing [] fun _ => True := by
  rw [expectType]
  split
  · exact takes_fault
  · exact takes_pure trivial

theorem takes_expectDimension (dimension : Nat) (role : OperandRole) :
    Takes s (expectDimension o dimension role) Nothing [] fun _ => True := by
  rw [expectDimension]
  split
  · exact takes_fault
  · exact takes_pure trivial

theorem takes_plainIndex (n : Nat) (role : OperandRole) :
    Takes s (plainIndex o n role) Nothing [] fun v => o.index32? n = some v := by
  refine nothing_bind (takes_decoded _) fun index s' hindex => ?_
  split
  · exact takes_pure (Operand.index32?_of_index hindex)
  · exact takes_fault

theorem takes_targetMask : Takes s (targetMask o) Nothing [] fun _ => True := by
  rw [targetMask]
  split <;> first | exact takes_pure trivial | exact takes_fault

/-! ## Loading -/

theorem takes_select (hv : v.IsNarrow) (mask : ComponentMask) :
    Takes s (select o v mask) Nothing [] Value.IsNarrow := by
  rw [select]
  split
  · exact takes_generate (Generate.takes_swizzle hv _ _)
  · exact takes_generate (Generate.takes_extract hv _)
  · exact takes_generate (Generate.takes_extract hv _)
  · exact takes_fault

theorem takes_applyModifiers (hv : v.IsNarrow) (m : OperandModifiers) :
    Takes s (applyModifiers m v) Nothing [] Value.IsNarrow := by
  have hneg (s' : LowerState) {v : Value} (hv : v.IsNarrow) :
      Takes s' (if m.neg then generate (Generate.neg v) else pure v) Nothing [] Value.IsNarrow := by
    split
    · exact takes_generate (Generate.takes_neg hv)
    · exact takes_pure hv
  rw [applyModifiers]
  split
  · exact nothing_bind (takes_generate (Generate.takes_abs hv)) fun v s' hv => hneg s' hv
  · exact nothing_bind (takes_pure hv) fun v s' hv => hneg s' hv

theorem takes_broadcast (hv : v.IsNarrow) (mask : ComponentMask) :
    Takes s (broadcast v mask) Nothing [] Value.IsNarrow := by
  rw [broadcast]
  split
  · exact takes_generate (Generate.takes_replicate hv mask.length_components_le)
  · exact takes_pure hv

theorem takes_loadImmediate (mask : ComponentMask) (scalar : ScalarType) :
    Takes s (loadImmediate o mask scalar) Nothing [] Value.IsNarrow := by
  rw [loadImmediate]
  split
  · exact nothing_bind (takes_decoded _) fun bits _ _ =>
      takes_generate (Generate.takes_constantScalar _ _)
  · refine nothing_bind (takes_mapM_decoded _ _) fun bits _ hbits => ?_
    refine nothing_bind (takes_generate (Generate.takes_constantVector _ hbits.le)) fun v _ hv => ?_
    exact takes_generate (Generate.takes_extract hv _)
  · exact takes_fault

theorem takes_constantIndex (bits : Word) :
    Takes s (constantIndex bits) Nothing [] Value.IsNarrow :=
  takes_generate (Generate.takes_constantScalar _ _)

/-- The values of indices take the steps that are read off the indices. -/
def TakesAll (elements : List (Lower Value)) (events : List (List Event)) : Prop :=
  List.Forall₂ (fun element events => ∀ s : LowerState,
    Takes s element (FirstOf events) events Value.IsNarrow) elements events

theorem TakesAll.getD {elements : List (Lower Value)} {events : List (List Event)}
    (h : TakesAll elements events) (n : Nat) (f : CompileFault) (s : LowerState) :
    Takes s (elements.getD n (fault f)) (FirstOf (events.getD n [])) (events.getD n [])
      Value.IsNarrow := by
  induction h generalizing n with
  | nil => exact takes_fault.firstOf
  | cons hfirst _ ih =>
    cases n with
    | zero => exact hfirst s
    | succ n => exact ih n

theorem takes_pointer {elements : List (Lower Value)}
    (h : TakesAll elements (Operand.indexEventsList o.indices)) :
    Takes s (pointer o elements) (FirstOf o.events) o.events fun p => p.value = .floatVector := by
  rw [Operand.events_eq, pointer]
  -- a register of another kind is its variable, and nothing is to be found in it
  split
  · next htype =>
    rw [if_neg (by rw [htype]; decide)]
    exact (nothing_bind (takes_expectDimension 1 _) fun _ _ _ =>
      nothing_bind (takes_plainIndex 0 _) fun n _ _ =>
        takes_generate (Generate.takes_tempPointer n)).firstOf
  iterate 2
    next htype =>
      rw [if_neg (by rw [htype]; decide)]
      refine Takes.firstOf ?_
      split
      · exact nothing_bind (takes_plainIndex 0 _) fun n _ _ =>
          takes_generate (Generate.takes_interfacePointer _ n)
      · exact takes_missing
      · exact takes_fault
  · next htype =>
    rw [if_pos htype]
    refine calm_bind (takes_expectDimension 2 _) fun _ s₁ _ => ?_
    refine calm_bind (takes_plainIndex 0 _) fun register s₂ hregister => ?_
    rw [hregister]
    refine (h.getD 1 _ s₂).firstOf_bind fun element s₃ _ => ?_
    exact (takes_generate (Generate.takes_constantBufferPointer register element)).firstOf
  · exact takes_fault.firstOf

theorem takes_loadRegister {op : Lower Pointer}
    (h : Takes s op (FirstOf events) events fun p => p.value = .floatVector)
    (mask : ComponentMask) (scalar : ScalarType) :
    Takes s (loadRegister o op mask scalar) (FirstOf events) events Value.IsNarrow := by
  refine h.bind_calm fun p s₁ hp => ?_
  refine nothing_bind (takes_generate (Generate.takes_load hp)) fun v s₂ hv => ?_
  refine nothing_bind (takes_generate (Generate.takes_cast hv scalar)) fun v s₃ hv => ?_
  have hrest {op : Lower Value} (h : Takes s₃ op Nothing [] Value.IsNarrow) :
      Takes s₃ (op >>= applyModifiers o.modifiers) Nothing [] Value.IsNarrow :=
    nothing_bind h fun v s₄ hv => takes_applyModifiers hv _
  dsimp only
  split
  · exact hrest (takes_select hv mask)
  · exact hrest (takes_generate (Generate.takes_extract hv _))
  · exact hrest takes_fault

/-- A register is loaded before a number is added to it. -/
theorem takes_sum {op : Lower Value}
    (h : ∀ s : LowerState, Takes s op (FirstOf events) events Value.IsNarrow) (number : Value)
    (s : LowerState) :
    Takes s (do
      let register ← op
      generate (Generate.add register number)) (FirstOf events) events Value.IsNarrow := by
  exact (h s).bind_calm fun register s' hregister => takes_generate (Generate.takes_add hregister)

/-- Loading an operand takes the steps of its events, and so does loading what its indices name. The
induction is that of the nesting. -/
theorem takes_nested :
    (∀ (o : Operand) (mask : ComponentMask) (scalar : ScalarType) (s : LowerState),
      Takes s (load o mask scalar) (FirstOf o.events) o.events Value.IsNarrow) ∧
    (∀ indices, TakesAll (indexValues indices) (Operand.indexEventsList indices)) ∧
    (∀ (index : IndexOf Operand) (s : LowerState),
      Takes s (indexValue index) (FirstOf (Operand.indexEvents index)) (Operand.indexEvents index)
        Value.IsNarrow) := by
  refine load.mutual_induct
    (fun o mask scalar => ∀ s : LowerState,
      Takes s (load o mask scalar) (FirstOf o.events) o.events Value.IsNarrow)
    (fun indices => TakesAll (indexValues indices) (Operand.indexEventsList indices))
    (fun index => ∀ s : LowerState,
      Takes s (indexValue index) (FirstOf (Operand.indexEvents index)) (Operand.indexEvents index)
        Value.IsNarrow)
    ?_ ?_ ?_ ?_ ?_ ?_ ?_ ?_ ?_
  · intro mask scalar position token extensions indices immediates s
    rw [load_eq, if_pos rfl, Operand.events_eq, if_neg (by rintro ⟨⟩)]
    exact (nothing_bind (takes_loadImmediate _ _) fun v s' hv => takes_broadcast hv _).firstOf
  · intro mask scalar position token type extensions indices immediates htype ih s
    rw [load_eq, if_neg htype]
    refine Takes.bind_calm (takes_loadRegister (takes_pointer ?_) mask scalar) fun v s' hv =>
      takes_broadcast hv mask
    exact ih
  · rw [indexValues, Operand.indexEventsList]
    exact .nil
  · intro index indices hindex ih
    rw [indexValues, Operand.indexEventsList]
    exact .cons hindex ih
  · intro v s
    rw [indexValue, Operand.indexEvents]
    exact (takes_constantIndex v).firstOf
  · intro high low s
    rw [indexValue, Operand.indexEvents]
    exact (takes_constantIndex low).firstOf
  · intro r ih s
    rw [indexValue, Operand.indexEvents]
    exact ih s
  · intro v r ih s
    rw [indexValue, Operand.indexEvents]
    exact calm_bind (takes_constantIndex v) fun number s₁ _ => takes_sum ih number s₁
  · intro high low r ih s
    rw [indexValue, Operand.indexEvents]
    exact calm_bind (takes_constantIndex low) fun number s₁ _ => takes_sum ih number s₁

theorem takes_load (mask : ComponentMask) (scalar : ScalarType) :
    Takes s (load o mask scalar) (FirstOf o.events) o.events Value.IsNarrow :=
  takes_nested.1 o mask scalar s

/-! ## Computations -/

theorem takes_store (hv : v.IsNarrow) (mask : ComponentMask) :
    Takes s (store o v mask) (FirstOf o.events) o.events fun _ => True := by
  refine (takes_pointer (takes_nested.2.1 _)).bind_calm fun p s₁ hp => ?_
  refine nothing_bind (takes_broadcast hv mask) fun v s₂ hv => ?_
  exact nothing_bind (takes_generate (Generate.takes_cast hv _)) fun v s₃ _ =>
    takes_generate (Generate.takes_store hp v mask)

theorem takes_storeResult (i : Instruction) (hv : v.IsNarrow) (mask : ComponentMask) :
    Takes s (storeResult i o v mask) (FirstOf o.events) o.events fun _ => True := by
  rw [storeResult]
  split
  · exact calm_bind (takes_generate (Generate.takes_saturate hv)) fun v s₁ hv =>
      takes_store hv mask
  · exact calm_bind (takes_pure hv) fun v s₁ hv => takes_store hv mask

/-- What is decoded at a cursor is the first of the operands that the cursor is read as. -/
theorem operands_of_decode {c next : Cursor} (h : Operand.decode c = .ok (o, next)) :
    c.operands.operands = o :: next.operands.operands := by
  have hrest := Operand.length_rest_decode h
  rw [Cursor.operands]
  split
  · next hnil =>
    rw [hnil] at hrest
    cases hrest
  · split
    · next herror =>
      rw [h] at herror
      cases herror
    · next hok =>
      rw [h] at hok
      cases hok
      rfl

variable {i : Instruction}

theorem takes_operands (i : Instruction) (d : Decoder α) :
    Takes s (operands i d) Nothing [] fun a => ∃ next, d i.cursor = .ok (a, next) := by
  rw [operands]
  split
  · next h => exact takes_pure ⟨_, h⟩
  · exact takes_fault

theorem takes_unary {op : Value → Generate Value}
    (hop : ∀ (g : Generator) v, v.IsNarrow → Takes g (op v) Nothing [] Value.IsNarrow) :
    Takes s (unary i op) (FirstOf i.unaryEvents) i.unaryEvents fun _ => True := by
  refine calm_bind (takes_operands i _) fun ⟨target, a⟩ s₁ ⟨next, h⟩ => ?_
  obtain ⟨_, c₁, h₁, h⟩ := Decoder.bind_eq_ok.1 h
  obtain ⟨_, c₂, h₂, h⟩ := Decoder.bind_eq_ok.1 h
  obtain ⟨⟨⟩, -⟩ := Decoder.pure_eq_ok.1 h
  rw [Instruction.unaryEvents, Instruction.operandList, operands_of_decode h₁,
    operands_of_decode h₂]
  refine calm_bind takes_targetMask fun mask s₂ _ => ?_
  refine (takes_load mask .float32).firstOf_bind fun v s₃ hv => ?_
  exact calm_bind (takes_generate (hop _ v hv)) fun v s₄ hv => takes_storeResult i hv mask

/-- What is computed from two sources is stored behind them. -/
theorem takes_computeBinary {op : Value → Value → Generate Value}
    (maskOf : ComponentMask → ComponentMask)
    (hop : ∀ (g : Generator) a b, a.IsNarrow → Takes g (op a b) Nothing [] Value.IsNarrow) :
    Takes s (do
      let (target, sourceA, sourceB) ← binaryOperands i
      let mask ← targetMask target
      let a ← load sourceA (maskOf mask) .float32
      let b ← load sourceB (maskOf mask) .float32
      storeResult i target (← generate (op a b)) mask) (FirstOf i.binaryEvents) i.binaryEvents
      fun _ => True := by
  refine calm_bind (takes_operands i _) fun ⟨target, a, b⟩ s₁ ⟨next, h⟩ => ?_
  obtain ⟨_, c₁, h₁, h⟩ := Decoder.bind_eq_ok.1 h
  obtain ⟨_, c₂, h₂, h⟩ := Decoder.bind_eq_ok.1 h
  obtain ⟨_, c₃, h₃, h⟩ := Decoder.bind_eq_ok.1 h
  obtain ⟨⟨⟩, -⟩ := Decoder.pure_eq_ok.1 h
  rw [Instruction.binaryEvents, Instruction.operandList, operands_of_decode h₁,
    operands_of_decode h₂, operands_of_decode h₃]
  refine calm_bind takes_targetMask fun mask s₂ _ => ?_
  refine (takes_load _ .float32).firstOf_bind fun a s₃ ha => ?_
  refine (takes_load _ .float32).firstOf_bind fun b s₄ hb => ?_
  exact calm_bind (takes_generate (hop _ a b ha)) fun v s₅ hv => takes_storeResult i hv mask

theorem takes_binary {op : Value → Value → Generate Value}
    (hop : ∀ (g : Generator) a b, a.IsNarrow → Takes g (op a b) Nothing [] Value.IsNarrow) :
    Takes s (binary i op) (FirstOf i.binaryEvents) i.binaryEvents fun _ => True :=
  takes_computeBinary id hop

theorem takes_dot (n : Nat) :
    Takes s (dot i n) (FirstOf i.binaryEvents) i.binaryEvents fun _ => True :=
  takes_computeBinary (fun _ => .firstN n) fun _ _ _ ha => Generate.takes_dot ha

theorem takes_multiplyAdd :
    Takes s (multiplyAdd i) (FirstOf i.ternaryEvents) i.ternaryEvents fun _ => True := by
  refine calm_bind (takes_operands i _) fun ⟨target, a, b, c⟩ s₁ ⟨next, h⟩ => ?_
  obtain ⟨_, c₁, h₁, h⟩ := Decoder.bind_eq_ok.1 h
  obtain ⟨_, c₂, h₂, h⟩ := Decoder.bind_eq_ok.1 h
  obtain ⟨_, c₃, h₃, h⟩ := Decoder.bind_eq_ok.1 h
  obtain ⟨_, c₄, h₄, h⟩ := Decoder.bind_eq_ok.1 h
  obtain ⟨⟨⟩, -⟩ := Decoder.pure_eq_ok.1 h
  rw [Instruction.ternaryEvents, Instruction.operandList, operands_of_decode h₁,
    operands_of_decode h₂, operands_of_decode h₃, operands_of_decode h₄]
  refine calm_bind takes_targetMask fun mask s₂ _ => ?_
  refine (takes_load _ .float32).firstOf_bind fun a s₃ ha => ?_
  refine (takes_load _ .float32).firstOf_bind fun b s₄ hb => ?_
  refine (takes_load _ .float32).firstOf_bind fun c s₅ hc => ?_
  refine calm_bind (takes_generate (Generate.takes_mul ha)) fun product s₆ hproduct => ?_
  exact calm_bind (takes_generate (Generate.takes_add hproduct)) fun v s₇ hv =>
    takes_storeResult i hv mask

theorem takes_sample :
    Takes s (sample i) (FirstOf i.sampleEvents) i.sampleEvents fun _ => True := by
  refine calm_bind (takes_operands i _) fun ⟨target, coordinate, texture, sampler⟩ s₁ ⟨next, h⟩ => ?_
  obtain ⟨_, c₁, h₁, h⟩ := Decoder.bind_eq_ok.1 h
  obtain ⟨_, c₂, h₂, h⟩ := Decoder.bind_eq_ok.1 h
  obtain ⟨_, c₃, h₃, h⟩ := Decoder.bind_eq_ok.1 h
  obtain ⟨_, c₄, h₄, h⟩ := Decoder.bind_eq_ok.1 h
  obtain ⟨⟨⟩, -⟩ := Decoder.pure_eq_ok.1 h
  rw [Instruction.sampleEvents, Instruction.operandList, operands_of_decode h₁,
    operands_of_decode h₂, operands_of_decode h₃, operands_of_decode h₄]
  refine calm_bind (takes_expectType _ _) fun _ _ _ => ?_
  refine calm_bind (takes_expectDimension _ _) fun _ _ _ => ?_
  refine calm_bind (takes_expectType _ _) fun _ _ _ => ?_
  refine calm_bind (takes_expectDimension _ _) fun _ _ _ => ?_
  refine calm_bind (takes_plainIndex 0 _) fun textureRegister _ htexture => ?_
  refine calm_bind (takes_plainIndex 0 _) fun samplerRegister s₂ hsampler => ?_
  simp only [Instruction.sampledEvents, htexture, hsampler]
  have hrest (s₂ : LowerState) : Takes s₂ (do
      let mask ← targetMask target
      let coordinate ← load coordinate .xyzw .float32
      let v ← generate (Generate.sample textureRegister samplerRegister coordinate)
      let v ← select texture v mask
      storeResult i target v mask)
      (FirstOf (coordinate.events ++ ([.sample textureRegister samplerRegister] ++ target.events)))
      (coordinate.events ++ ([.sample textureRegister samplerRegister] ++ target.events))
      fun _ => True := by
    refine calm_bind takes_targetMask fun mask s₃ _ => ?_
    refine (takes_load _ .float32).firstOf_bind fun v s₄ hv => ?_
    refine (takes_generate (Generate.takes_sample _ _ hv)).firstOf.firstOf_bind fun v s₅ hv => ?_
    exact calm_bind (takes_select hv mask) fun v s₆ hv => takes_storeResult i hv mask
  split
  · exact calm_bind (takes_gap _) fun _ s₃ _ => hrest s₃
  · exact hrest s₂

/-! ## Declarations -/

theorem takes_declareConstantBuffer :
    Takes s (declareConstantBuffer i) Nothing
      (i.resourceEvents .constantBuffer (some .uniformBuffer)) fun _ => True := by
  refine nothing_bind (takes_decoded _) fun o _ ho => ?_
  refine nothing_bind (takes_expectType _ _) fun _ _ _ => ?_
  refine nothing_bind (takes_expectDimension _ _) fun _ _ _ => ?_
  refine nothing_bind (takes_plainIndex 0 _) fun register _ hregister => ?_
  refine nothing_bind (takes_plainIndex 1 _) fun size _ _ => ?_
  rw [Instruction.resourceEvents_eq ho hregister]
  exact takes_generate (Generate.takes_declareConstantBuffer _ _)

theorem takes_declareResource :
    Takes s (declareResource i) Nothing
      (i.resourceEvents .shaderResource (i.resourceDim.toOption.map (·.behind))) fun _ => True := by
  refine nothing_bind (takes_decoded _) fun o _ ho => ?_
  refine nothing_bind (takes_expectType _ _) fun _ _ _ => ?_
  refine nothing_bind (takes_expectDimension _ _) fun _ _ _ => ?_
  refine nothing_bind (takes_plainIndex 0 _) fun register _ hregister => ?_
  refine nothing_bind (takes_decoded _) fun dim _ hdim => ?_
  refine nothing_bind (takes_decoded _) fun w _ _ => ?_
  refine nothing_bind (takes_decoded _) fun types s₁ _ => ?_
  rw [hdim, Except.toOption, Option.map_some, Instruction.resourceEvents_eq ho hregister]
  have hrest (s' : LowerState) (type : ResourceReturnType) :
      Takes s' (generate (Generate.declareResource register dim type)) Nothing
        [.resource .shaderResource register dim.behind] fun _ => True :=
    takes_generate (Generate.takes_declareResource _ _ _)
  dsimp only
  split
  · exact nothing_bind (takes_gap _) fun _ s₂ _ => hrest s₂ _
  · exact hrest s₁ _

theorem takes_declareSampler :
    Takes s (declareSampler i) Nothing (i.resourceEvents .sampler (some .sampler))
      fun _ => True := by
  refine nothing_bind (takes_decoded _) fun o _ ho => ?_
  refine nothing_bind (takes_expectType _ _) fun _ _ _ => ?_
  refine nothing_bind (takes_expectDimension _ _) fun _ _ _ => ?_
  refine nothing_bind (takes_plainIndex 0 _) fun register _ hregister => ?_
  refine nothing_bind (takes_decoded _) fun mode _ _ => ?_
  rw [Instruction.resourceEvents_eq ho hregister]
  exact takes_generate (Generate.takes_declareSampler _ _)

theorem takes_interfaceIndices :
    Takes s (interfaceIndices o) Nothing [] fun r => r.1 = none → o.index32? 0 = some r.2 := by
  rw [interfaceIndices]
  split
  · exact nothing_bind (takes_plainIndex 0 _) fun register _ hregister =>
      takes_pure fun _ => hregister
  · exact nothing_bind (takes_plainIndex 0 _) fun region _ _ =>
      nothing_bind (takes_plainIndex 1 _) fun register _ _ => takes_pure nofun
  · exact takes_fault

theorem takes_systemValue : Takes s (systemValue i o) Nothing [] fun _ => True := by
  rw [systemValue]
  split
  · exact nothing_bind (takes_decoded _) fun w _ _ => (takes_decoded _).imp fun _ _ => trivial
  · exact takes_pure trivial

theorem takes_declareInterface :
    Takes s (declareInterface i) Nothing i.interfaceEvents fun _ => True := by
  refine nothing_bind (takes_decoded _) fun o _ ho => ?_
  simp only [missing_bind]
  split
  · exact takes_missing
  · next hsome =>
    obtain ⟨kind, hkind⟩ := Option.ne_none_iff_exists'.1 fun h => hsome (Option.isNone_iff_eq_none.2 h)
    refine nothing_bind takes_interfaceIndices fun ⟨region?, register⟩ _ hregister => ?_
    refine nothing_bind takes_targetMask fun mask _ _ => ?_
    refine nothing_bind takes_systemValue fun wanted s₁ _ => .get_bind ?_
    have hrest (s' : LowerState) (d : InterpolationMode → InterfaceDeclaration)
        (htype : ∀ m, (d m).type = o.type)
        (hd : ∀ m, (d m).region? = region? ∧ (d m).register = register) :
        Takes s' (if hasInterpolation i.opcode then do
            let interpolation ← decoded i.interpolationMode
            generate (Generate.declareInterface (d interpolation))
          else do
            let interpolation ← pure .undefined
            generate (Generate.declareInterface (d interpolation))) Nothing i.interfaceEvents
          fun _ => True := by
      -- a register with a region stops the declaration, so its events are never asked for
      have hevents (m : InterpolationMode) (hnone : (d m).region? = none) :
          i.interfaceEvents = [.interface kind (d m).register] := by
        rw [(hd m).1] at hnone
        rw [(hd m).2, Instruction.interfaceEvents_eq ho hkind (hregister hnone)]
      have hdeclare (s' : LowerState) (m : InterpolationMode) :
          Takes s' (generate (Generate.declareInterface (d m))) Nothing i.interfaceEvents
            fun _ => True :=
        takes_generate (Generate.takes_declareInterface _ ((htype m).symm ▸ hkind) (hevents m))
      split
      · exact nothing_bind (takes_decoded _) fun m s₂ _ => hdeclare s₂ m
      · rw [pure_bind]
        exact hdeclare s' _
    split
    · exact hrest s₁ _ (fun _ => rfl) fun _ => ⟨rfl, rfl⟩
    · exact nothing_bind (takes_gap _) fun _ s₂ _ =>
        hrest s₂ _ (fun _ => rfl) fun _ => ⟨rfl, rfl⟩

theorem takes_declareTemps : Takes s (declareTemps i) Nothing i.tempEvents fun _ => True := by
  refine nothing_bind (takes_decoded _) fun count s₁ hcount => ?_
  rw [Instruction.tempEvents, hcount]
  simp only [fault_bind]
  split
  · exact takes_fault
  · next hmax =>
    have hcount : count.toNat ≤ 10 ^ 10 := (Nat.le_of_not_lt hmax).trans (by decide)
    exact takes_generate (Generate.takes_declareTemps hcount).nothing_of_never

theorem takes_declareThreadGroup : Takes s (declareThreadGroup i) Nothing [] fun _ => True :=
  nothing_bind (takes_decoded _) fun _ _ _ => nothing_bind (takes_decoded _) fun _ _ _ =>
    nothing_bind (takes_decoded _) fun _ _ _ =>
      takes_generate (Generate.takes_declareThreadGroup _ _ _)

/-! ## Instructions -/

theorem takes_of_nothing {op : Lower Unit} (hevents : i.events = events)
    (h : Takes s op Nothing events fun _ => True) : Takes s op i.Stops i.events fun _ => True := by
  rw [hevents]
  refine h.weaken fun t ht => ?_
  rw [Instruction.Stops, ht]
  split
  · exact List.nil_prefix
  · rfl

theorem takes_of_firstOf {op : Lower Unit} (hi : i.opcode.isExecuted = true)
    (hevents : i.events = events) (h : Takes s op (FirstOf events) events fun _ => True) :
    Takes s op i.Stops i.events fun _ => True := by
  rw [hevents]
  refine h.weaken fun t ht => ?_
  rwa [Instruction.Stops, if_pos hi, hevents]

/-- An instruction takes the steps of its events. -/
theorem takes_instruction (i : Instruction) (s : LowerState) :
    Takes s (instruction i) i.Stops i.events fun _ => True := by
  rw [instruction]
  split
  iterate 3
    next h => exact takes_of_nothing (by rw [Instruction.events, h]) (takes_pure trivial)
  · next h => exact takes_of_nothing (by rw [Instruction.events, h]) takes_declareConstantBuffer
  · next h => exact takes_of_nothing (by rw [Instruction.events, h]) takes_declareResource
  · next h => exact takes_of_nothing (by rw [Instruction.events, h]) takes_declareSampler
  iterate 9
    next h => exact takes_of_nothing (by rw [Instruction.events, h]) takes_declareInterface
  · next h => exact takes_of_nothing (by rw [Instruction.events, h]) takes_declareTemps
  · next h => exact takes_of_nothing (by rw [Instruction.events, h]) takes_declareThreadGroup
  · next h =>
    exact takes_of_firstOf (by rw [h]; rfl) (by rw [Instruction.events, h])
      (takes_binary fun _ _ _ ha => Generate.takes_add ha)
  · next h =>
    exact takes_of_firstOf (by rw [h]; rfl) (by rw [Instruction.events, h])
      (takes_binary fun _ _ _ ha => Generate.takes_mul ha)
  · next h => exact takes_of_firstOf (by rw [h]; rfl) (by rw [Instruction.events, h]) takes_multiplyAdd
  · next h =>
    exact takes_of_firstOf (by rw [h]; rfl) (by rw [Instruction.events, h])
      (takes_unary fun _ _ hv => Takes.nothing_of_never (.pure hv))
  iterate 3
    next h => exact takes_of_firstOf (by rw [h]; rfl) (by rw [Instruction.events, h]) (takes_dot _)
  · next h =>
    exact takes_of_firstOf (by rw [h]; rfl) (by rw [Instruction.events, h])
      (takes_unary fun _ _ hv => Generate.takes_inverseSqrt hv)
  · next h =>
    exact takes_of_nothing (by rw [Instruction.events, h]) (takes_generate Generate.takes_ret)
  · next h => exact takes_of_firstOf (by rw [h]; rfl) (by rw [Instruction.events, h]) takes_sample
  · have hevents : i.events = [] := by
      rw [Instruction.events]
      split <;> first | rfl | contradiction
    exact takes_of_nothing hevents (takes_gap _)

end Lower

/-! ## Handling -/

/-- Whether the handler of an instruction ends, rather than stops for want of a feature or because of
a fault. -/
def Generator.completes (g : Generator) (i : Instruction) : Bool :=
  ((Lower.instruction i).run ⟨g, []⟩).1.isOk

/-- Handling an instruction takes the steps of its events, if the handler ends. -/
theorem Generator.exists_steps_handle (g : Generator) (i : Instruction) :
    ∃ trace, g.Steps trace (g.handle i).generator ∧
      if g.completes i then trace = i.events else i.Stops trace := by
  obtain ⟨hok, herror⟩ := Lower.takes_instruction i ⟨g, []⟩
  rw [completes]
  rcases hrun : ((Lower.instruction i).run ⟨g, []⟩).1 with e | a
  · obtain ⟨trace, hstops, hsteps⟩ := herror e hrun
    exact ⟨trace, hsteps, hstops⟩
  · exact ⟨i.events, (hok a hrun).2, rfl⟩

end ShaderLowering
