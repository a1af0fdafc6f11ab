import ShaderLowering.Lowering.Program

/-!
# Runs of operations that change a state and can fail

The operations of the generator and the handlers of instructions are of one kind: they work on a
state, and they fail without taking back what they did to it. This module says what a run of such
an operation comes to (`run_bind` and its kin), and it names the generator inside a state, which is
what most properties of the operations are about.
-/

namespace ShaderLowering

open Spirv (Build)

variable {ε S α β : Type}

/-! ## Runs -/

/-- A sequence fails where its first part does, and goes on from where that part has come to. -/
theorem run_bind (op : ExceptT ε (StateM S) α) (f : α → ExceptT ε (StateM S) β) (s : S) :
    (op >>= f).run s =
      match op.run s with
      | (.ok a, s') => (f a).run s'
      | (.error e, s') => (.error e, s') := by
  simp only [ExceptT.run, bind, ExceptT.bind, ExceptT.mk, StateT.bind, ExceptT.bindCont]
  rcases op s with ⟨e | a, s'⟩ <;> rfl

/-- A sequence that succeeds has succeeded in both parts. -/
theorem run_bind_eq_ok {op : ExceptT ε (StateM S) α} {f : α → ExceptT ε (StateM S) β} {s s' : S}
    {b : β} :
    (op >>= f).run s = (.ok b, s') ↔
      ∃ a s₁, op.run s = (.ok a, s₁) ∧ (f a).run s₁ = (.ok b, s') := by
  rw [run_bind]
  constructor
  · intro h
    rcases hop : op.run s with ⟨e | a, s₁⟩ <;> rw [hop] at h
    · cases h
    · exact ⟨a, s₁, rfl, h⟩
  · rintro ⟨a, s₁, hop, hf⟩
    rw [hop]
    exact hf

theorem run_pure (a : α) (s : S) : (pure a : ExceptT ε (StateM S) α).run s = (.ok a, s) := rfl

theorem run_throw (e : ε) (s : S) : (throw e : ExceptT ε (StateM S) α).run s = (.error e, s) := rfl

theorem run_get (s : S) : (get : ExceptT ε (StateM S) S).run s = (.ok s, s) := rfl

theorem run_modify (f : S → S) (s : S) :
    (modify f : ExceptT ε (StateM S) Unit).run s = (.ok (), f s) := rfl

theorem eq_ok_of_toOption {result : Except ε α} {a : α} (h : result.toOption = some a) :
    result = .ok a := by
  cases result with
  | ok b => rw [Option.some.inj h]
  | error e => cases h

/-! ## Failures end a sequence -/

@[simp] theorem Generate.missing_bind {feature : MissingFeature} (f : α → Generate β) :
    Generate.missing feature >>= f = Generate.missing feature := rfl

@[simp] theorem Generate.fault_bind {fault : GeneratorFault} (f : α → Generate β) :
    Generate.fault fault >>= f = Generate.fault fault := rfl

@[simp] theorem Lower.missing_bind {feature : MissingFeature} (f : α → Lower β) :
    Lower.missing feature >>= f = Lower.missing feature := rfl

@[simp] theorem Lower.fault_bind {fault : CompileFault} (f : α → Lower β) :
    Lower.fault fault >>= f = Lower.fault fault := rfl

/-! ## Primitive operations -/

theorem Generate.run_build (b : Build α) (g : Generator) :
    (Generate.build b).run g =
      (.ok (b.run g.module).1, { g with module := (b.run g.module).2 }) := rfl

theorem Lower.run_generate (op : Generate α) (s : LowerState) :
    (Lower.generate op).run s =
      ((op.run s.generator).1.mapError Lower.interruption,
        { s with generator := (op.run s.generator).2 }) := rfl

/-- Operations of the generator meet no gaps. -/
theorem Lower.run_generate_eq_ok {op : Generate α} {a : α} {s s' : LowerState}
    (hrun : (Lower.generate op).run s = (.ok a, s')) :
    op.run s.generator = (.ok a, s'.generator) ∧ s'.gaps = s.gaps := by
  rw [run_generate] at hrun
  obtain ⟨hok, rfl⟩ := Prod.mk.inj hrun
  refine ⟨?_, rfl⟩
  rcases hop : op.run s.generator with ⟨e | b, g⟩ <;> rw [hop] at hok
  · cases hok
  · cases hok
    rfl

theorem Lower.run_gap (gap : Gap) (s : LowerState) :
    (Lower.gap gap).run s = (.ok (), { s with gaps := s.gaps ++ [gap] }) := rfl

/-! ## The generator inside a state -/

/-- A state with a generator in it. -/
class HasGenerator (S : Type) where
  /-- The generator. -/
  generator : S → Generator
  /-- The gaps met so far. -/
  gaps : S → List Gap

instance : HasGenerator Generator := ⟨id, fun _ => []⟩

instance : HasGenerator LowerState := ⟨LowerState.generator, LowerState.gaps⟩

@[simp] theorem generator_id (g : Generator) : HasGenerator.generator g = g := rfl

/-! ## What runs do to the generator -/

section

variable [HasGenerator S] {R : Generator → Generator → Prop}

/-- An operation that changes the generator only as a relation allows, whether it fails or not. -/
def Respects (R : Generator → Generator → Prop) (op : ExceptT ε (StateM S) α) : Prop :=
  ∀ s, R (HasGenerator.generator s) (HasGenerator.generator (op.run s).2)

/-- A sequence respects what its parts do: where the first part fails, it is all that was done. -/
theorem Respects.bind {op : ExceptT ε (StateM S) α} {f : α → ExceptT ε (StateM S) β}
    (trans : ∀ {g g' g'' : Generator}, R g g' → R g' g'' → R g g'') (h : Respects R op)
    (hf : ∀ a, Respects R (f a)) : Respects R (op >>= f) := by
  intro s
  have hop := h s
  rw [run_bind]
  rcases hrun : op.run s with ⟨e | a, s'⟩ <;> rw [hrun] at hop
  · exact hop
  · exact trans hop (hf a s')

end

/-! ## Handlers -/

/-- Whether an instruction does something when a program runs: declarations, custom data and the
instruction that does nothing do not. -/
def Opcode.isExecuted (op : Opcode) : Bool :=
  !op.isDeclaration && op != .nop && op != .customdata

/-- Whether the instructions of an opcode declare input or output registers. -/
def Opcode.isInterface : Opcode → Bool
  | .dclInput | .dclInputSgv | .dclInputSiv | .dclInputPs | .dclInputPsSgv | .dclInputPsSiv
  | .dclOutput | .dclOutputSgv | .dclOutputSiv => true
  | _ => false

/-- A property of the handlers of all instructions, if each of the handlers has it. -/
theorem Lower.instruction_cases {P : Lower Unit → Prop} (i : Instruction)
    (skip : P (pure ())) (constantBuffer : P (Lower.declareConstantBuffer i))
    (resource : P (Lower.declareResource i)) (sampler : P (Lower.declareSampler i))
    (interface : i.opcode.isInterface = true → P (Lower.declareInterface i))
    (temps : P (Lower.declareTemps i))
    (threadGroup : P (Lower.declareThreadGroup i))
    (add : i.opcode.isExecuted = true → P (Lower.binary i Generate.add))
    (mul : i.opcode.isExecuted = true → P (Lower.binary i Generate.mul))
    (mad : i.opcode.isExecuted = true → P (Lower.multiplyAdd i))
    (mov : i.opcode.isExecuted = true → P (Lower.unary i pure))
    (dot : ∀ n, i.opcode.isExecuted = true → P (Lower.dot i n))
    (rsq : i.opcode.isExecuted = true → P (Lower.unary i Generate.inverseSqrt))
    (ret : i.opcode = .ret → P (Lower.generate Generate.ret))
    (sample : i.opcode.isExecuted = true → P (Lower.sample i))
    (unhandled : P (Lower.gap .unhandledOpcode)) :
    P (Lower.instruction i) := by
  unfold Lower.instruction
  split
  iterate 3 exact skip
  · exact constantBuffer
  · exact resource
  · exact sampler
  iterate 9 next h => exact interface (by rw [h]; rfl)
  · exact temps
  · exact threadGroup
  · next h => exact add (by rw [h]; rfl)
  · next h => exact mul (by rw [h]; rfl)
  · next h => exact mad (by rw [h]; rfl)
  · next h => exact mov (by rw [h]; rfl)
  iterate 3 next h => exact dot _ (by rw [h]; rfl)
  · next h => exact rsq (by rw [h]; rfl)
  · next h => exact ret h
  · next h => exact sample (by rw [h]; rfl)
  · exact unhandled

/-! ## Source operands

Loading an operand loads the registers of its relative indices first. `Lower.load_induction` is the
recursion of `Lower.load` as a way to prove that all loads have a property. -/

/-- An index that is read as a plain number is one. -/
theorem Operand.index32?_of_index {o : Operand} {n : Nat} {v : Word}
    (h : o.index n = .ok (.imm32 v)) : o.index32? n = some v := by
  rw [index] at h
  split at h
  · next hindex =>
    cases h
    rw [index32?, hindex]
    rfl
  · cases h

namespace Lower

/-- How an operand is loaded, given how its indices are. -/
theorem load_eq (o : Operand) (mask : ComponentMask) (scalar : ScalarType) :
    load o mask scalar = (do
      let v ← if o.type = .imm32 then loadImmediate o mask scalar
        else loadRegister o (pointer o (indexValues o.indices)) mask scalar
      broadcast v mask) := by
  cases o
  rw [load]

/-- The values of indices are those of each of them. -/
theorem indexValues_eq (indices : List (IndexOf Operand)) :
    indexValues indices = indices.map indexValue := by
  induction indices with
  | nil => rw [indexValues, List.map_nil]
  | cons index indices ih => rw [indexValues, ih, List.map_cons]

/-- A property of all loads and index values, if immediates and constant indices have it, and if
registers and sums have it as soon as what is loaded for them has. -/
theorem load_induction {P : Lower Value → Prop}
    (immediate : ∀ o mask scalar, P (loadImmediate o mask scalar >>= (broadcast · mask)))
    (register : ∀ o elements mask scalar, (∀ e ∈ elements, P e) →
      P (loadRegister o (pointer o elements) mask scalar >>= (broadcast · mask)))
    (constant : ∀ v, P (constantIndex v))
    (sum : ∀ v op, P op → P (do
      let number ← constantIndex v
      let register ← op
      generate (Generate.add register number)))
    (o : Operand) (mask : ComponentMask) (scalar : ScalarType) : P (load o mask scalar) := by
  -- an operand and its indices are loaded by mutual recursion
  refine load.induct (fun o mask scalar => P (load o mask scalar))
    (fun indices => ∀ e ∈ indexValues indices, P e) (fun index => P (indexValue index))
    ?_ ?_ ?_ ?_ ?_ ?_ ?_ ?_ ?_ o mask scalar
  · intro mask scalar position token extensions indices immediates
    rw [load_eq, if_pos rfl]
    exact immediate _ _ _
  · intro mask scalar position token type extensions indices immediates htype ih
    rw [load_eq, if_neg htype]
    exact register _ _ _ _ ih
  · intro e he
    rw [indexValues] at he
    cases he
  · intro index indices hindex ih e he
    rw [indexValues] at he
    rcases List.mem_cons.1 he with rfl | he
    · exact hindex
    · exact ih e he
  · intro v
    rw [indexValue]
    exact constant v
  · intro high low
    rw [indexValue]
    exact constant low
  · intro r ih
    rw [indexValue]
    exact ih
  · intro v r ih
    rw [indexValue]
    exact sum v _ ih
  · intro high low r ih
    rw [indexValue]
    exact sum low _ ih

end Lower

end ShaderLowering
