import Mathlib.Data.List.Forall2
import ShaderLowering.Proofs.Stateful
import ShaderLowering.Proofs.Token.Moving

/-!
# Instructions that stand further on

A handler reports where an operand that it cannot use stands, and that is all that it makes of
positions. So an instruction that stands further on does the same to the generator, with the same
gaps; if it fails, the error lies further on (`Generator.handle_moved`).

The proof goes through the handlers once: each of them *moves*, because its parts do.
-/

namespace ShaderLowering

variable {α α' β β' : Type} {n : Nat}

/-- The fault of an instruction that stands `n` words further on. -/
def CompileFault.moved (n : Nat) : CompileFault → CompileFault
  | decode e => decode (e.moved n)
  | f => f

/-- Why the handler of an instruction stops that stands `n` words further on. -/
def Interruption.moved (n : Nat) : Interruption → Interruption
  | missing feature => missing feature
  | fault f => fault (f.moved n)

namespace Lower

/-! ## Handlers -/

/-- A handler does further on what another does, with the result replaced. -/
def Moves (n : Nat) (f : α → α') (op : Lower α) (op' : Lower α') : Prop :=
  ∀ s, op'.run s = (((op.run s).1.map f).mapError (Interruption.moved n), (op.run s).2)

namespace Moves

theorem pure (f : α → α') (a : α) : Moves n f (Pure.pure a) (Pure.pure (f a)) := fun _ => rfl

theorem missing {f : α → α'} (feature : MissingFeature) :
    Moves n f (missing feature) (missing feature) := fun _ => rfl

theorem fault {f : α → α'} (fault : CompileFault) :
    Moves n f (Lower.fault fault) (Lower.fault (fault.moved n)) := fun _ => rfl

theorem bind {f : α → α'} {h : β → β'} {op : Lower α} {op' : Lower α'} {k : α → Lower β}
    {k' : α' → Lower β'} (hop : Moves n f op op') (hk : ∀ a, Moves n h (k a) (k' (f a))) :
    Moves n h (op >>= k) (op' >>= k') := by
  intro s
  rw [run_bind, run_bind, hop s]
  rcases op.run s with ⟨e | a, s'⟩
  · rfl
  · exact hk a s'

/-- What is done may depend on the state, but not on positions. -/
theorem observe {f : α → α'} {k : LowerState → Lower α} {k' : LowerState → Lower α'}
    (hk : ∀ s, Moves n f (k s) (k' s)) : Moves n f (get >>= k) (get >>= k') := fun s => hk s s

theorem ite {f : α → α'} {c : Prop} [Decidable c] {a b : Lower α} {a' b' : Lower α'}
    (ha : Moves n f a a') (hb : Moves n f b b') :
    Moves n f (if c then a else b) (if c then a' else b') := by
  split
  · exact ha
  · exact hb

theorem gap (g : Gap) : Moves n id (gap g) (gap g) := fun _ => rfl

/-- The generator knows no positions. -/
theorem generate (op : Generate α) : Moves n id (generate op) (generate op) := by
  intro s
  rw [run_generate]
  rcases (op.run s.generator).1 with (feature | f) | a <;> rfl

theorem decoded (f : α → α') (r : Except DecodeError α) :
    Moves n f (decoded r) (decoded ((r.map f).mapError (DecodeError.moved n))) := by
  intro s
  cases r <;> rfl

theorem decodedWord (r : Except DecodeError α) :
    Moves n id (Lower.decoded r) (Lower.decoded (r.mapError (DecodeError.moved n))) := by
  intro s
  cases r <;> rfl

end Moves

/-! ## Operands -/

theorem moves_expectType (o : Operand) (type : OperandType) (role : OperandRole) :
    Moves n id (expectType o type role) (expectType (o.moved n) type role) := by
  rw [expectType, expectType, Operand.type_moved]
  exact .ite (.fault _) (.pure id ())

theorem moves_expectDimension (o : Operand) (dimension : Nat) (role : OperandRole) :
    Moves n id (expectDimension o dimension role) (expectDimension (o.moved n) dimension role) := by
  rw [expectDimension, expectDimension, Operand.dimension_moved]
  exact .ite (.fault _) (.pure id ())

theorem moves_plainIndex (o : Operand) (k : Nat) (role : OperandRole) :
    Moves n id (plainIndex o k role) (plainIndex (o.moved n) k role) := by
  rw [plainIndex, plainIndex, Operand.index_moved]
  refine .bind (.decoded _ _) fun index => ?_
  cases index with
  | imm32 v => exact .pure id v
  | imm64 | relative | imm32Relative | imm64Relative => exact .fault _

theorem moves_targetMask (o : Operand) : Moves n id (targetMask o) (targetMask (o.moved n)) := by
  rw [targetMask, targetMask, Operand.token_moved, Operand.selection?_moved]
  split
  iterate 3 exact .pure id _
  · exact .fault _
  · exact .fault _

theorem moves_select (o : Operand) (v : Value) (mask : ComponentMask) :
    Moves n id (select o v mask) (select (o.moved n) v mask) := by
  rw [select, select, Operand.token_moved, Operand.selection?_moved]
  split
  iterate 3 exact .generate _
  · exact .fault _

theorem moves_applyModifiers (m : OperandModifiers) (v : Value) :
    Moves n id (applyModifiers m v) (applyModifiers m v) := by
  have hneg (v : Value) : Moves n id
      (if m.neg then generate (Generate.neg v) else pure v)
      (if m.neg then generate (Generate.neg v) else pure v) := .ite (.generate _) (.pure id v)
  rw [applyModifiers]
  split
  · exact .bind (.generate _) hneg
  · exact hneg v

theorem moves_broadcast (v : Value) (mask : ComponentMask) :
    Moves n id (broadcast v mask) (broadcast v mask) := .ite (.generate _) (.pure id v)

theorem moves_loadImmediate (o : Operand) (mask : ComponentMask) (scalar : ScalarType) :
    Moves n id (loadImmediate o mask scalar) (loadImmediate (o.moved n) mask scalar) := by
  rw [loadImmediate, loadImmediate, Operand.token_moved]
  split
  · rw [Operand.immediate_moved]
    exact .bind (.decodedWord _) fun bits => .generate _
  · have hbits (ks : List Nat) : Moves n id (ks.mapM fun k => decoded (o.immediate k))
        (ks.mapM fun k => decoded ((o.moved n).immediate k)) := by
      induction ks with
      | nil => exact .pure id []
      | cons k ks ih =>
        rw [List.mapM_cons, List.mapM_cons, Operand.immediate_moved]
        exact .bind (.decodedWord _) fun w => .bind ih fun ws => .pure id (w :: ws)
    exact .bind (hbits _) fun bits => .bind (.generate _) fun v => .generate _
  · exact .fault _

/-- A pointer moves if what its indices are loaded with does. -/
theorem moves_pointer (o : Operand) {elements elements' : List (Lower Value)}
    (h : List.Forall₂ (Moves n id) elements elements') :
    Moves n id (pointer o elements) (pointer (o.moved n) elements') := by
  rw [pointer, pointer, Operand.type_moved, Operand.dimension_moved, Operand.text_moved]
  split
  · exact .bind (moves_expectDimension o _ _) fun _ =>
      .bind (moves_plainIndex o _ _) fun register => .generate _
  iterate 2
    split
    · exact .bind (moves_plainIndex o _ _) fun register => .generate _
    · exact .missing _
    · exact .fault _
  · refine .bind (moves_expectDimension o _ _) fun _ => ?_
    refine .bind (moves_plainIndex o _ _) fun register => .bind ?_ fun element => .generate _
    rcases h with _ | ⟨-, _ | ⟨hsecond, -⟩⟩
    · exact .fault _
    · exact .fault _
    · exact hsecond
  · exact .fault _

theorem moves_loadRegister (o : Operand) {pointer pointer' : Lower Pointer}
    (h : Moves n id pointer pointer') (mask : ComponentMask) (scalar : ScalarType) :
    Moves n id (loadRegister o pointer mask scalar)
      (loadRegister (o.moved n) pointer' mask scalar) := by
  rw [loadRegister, loadRegister, Operand.token_moved, Operand.modifiers_moved]
  refine .bind h fun p => .bind (.generate _) fun v => .bind (.generate _) fun v => ?_
  dsimp only [id]
  split
  · exact .bind (moves_select o v mask) fun v => moves_applyModifiers _ v
  · exact .bind (.generate _) fun v => moves_applyModifiers _ v
  · exact .fault _

theorem moves_constantIndex (bits : Word) :
    Moves n id (constantIndex bits) (constantIndex bits) := .generate _

theorem moves_sum (number : Word) {op op' : Lower Value} (h : Moves n id op op') :
    Moves n id
      (do
        let number ← constantIndex number
        let register ← op
        generate (Generate.add register number))
      (do
        let number ← constantIndex number
        let register ← op'
        generate (Generate.add register number)) :=
  .bind (moves_constantIndex number) fun _ => .bind h fun _ => .generate _

mutual

/-- Loading an operand that stands further on. -/
theorem moves_load : ∀ (o : Operand) (mask : ComponentMask) (scalar : ScalarType),
    Moves n id (load o mask scalar) (load (o.moved n) mask scalar)
  | ⟨position, token, type, extensions, indices, immediates⟩, mask, scalar => by
    let o : Operand := ⟨position, token, type, extensions, indices, immediates⟩
    have hindices : (o.moved n).indices = Operand.movedIndices n indices := by
      rw [Operand.indices_moved, Operand.movedIndices_eq]
    have hregister := moves_loadRegister o (moves_pointer o (moves_indexValues indices)) mask scalar
    rw [load_eq, load_eq, hindices, Operand.type_moved]
    split
    · exact .bind (moves_loadImmediate o mask scalar) fun v => moves_broadcast v mask
    · exact .bind hregister fun v => moves_broadcast v mask

theorem moves_indexValues : ∀ indices : List (IndexOf Operand), List.Forall₂ (Moves n id)
    (indexValues indices) (indexValues (Operand.movedIndices n indices))
  | [] => by
    rw [Operand.movedIndices, indexValues]
    exact .nil
  | index :: indices => by
    rw [Operand.movedIndices, indexValues, indexValues]
    exact .cons (moves_indexValue index) (moves_indexValues indices)

theorem moves_indexValue : ∀ index : IndexOf Operand,
    Moves n id (indexValue index) (indexValue (Operand.movedIndex n index))
  | .imm32 v => by
    rw [Operand.movedIndex, indexValue]
    exact moves_constantIndex v
  | .imm64 _ low => by
    rw [Operand.movedIndex, indexValue]
    exact moves_constantIndex low
  | .relative r => by
    rw [Operand.movedIndex, indexValue, indexValue]
    exact moves_load r _ _
  | .imm32Relative v r => by
    rw [Operand.movedIndex, indexValue, indexValue]
    exact moves_sum v (moves_load r _ _)
  | .imm64Relative _ low r => by
    rw [Operand.movedIndex, indexValue, indexValue]
    exact moves_sum low (moves_load r _ _)

end

theorem moves_store (o : Operand) (v : Value) (mask : ComponentMask) :
    Moves n id (store o v mask) (store (o.moved n) v mask) := by
  have hindices := moves_indexValues (n := n) o.indices
  rw [Operand.movedIndices_eq, ← Operand.indices_moved] at hindices
  refine .bind (moves_pointer o hindices) fun p => .bind (moves_broadcast v mask) fun v => ?_
  exact .bind (.generate _) fun v => .generate _

/-! ## Computations -/

theorem moves_operands (i : Instruction) {f : α → α} {d : Decoder α} (h : Decoder.Moves n f d d) :
    Moves n f (operands i d) (operands (i.moved n) d) := by
  intro s
  rw [operands, operands, Instruction.cursor_moved, h]
  rcases d i.cursor with e | ⟨a, c⟩ <;> rfl

theorem moves_storeResult (i : Instruction) (target : Operand) (v : Value) (mask : ComponentMask) :
    Moves n id (storeResult i target v mask) (storeResult (i.moved n) (target.moved n) v mask) := by
  rw [storeResult, storeResult]
  exact .ite (.bind (.generate _) fun v => moves_store target v mask) (moves_store target v mask)

theorem moves_unary (i : Instruction) (op : Value → Generate Value) :
    Moves n id (unary i op) (unary (i.moved n) op) := by
  refine .bind (f := Prod.map (Operand.moved n) (Operand.moved n)) (moves_operands i ?_)
    fun (target, source) => ?_
  · exact .bind Operand.moves_decode fun target => .bind Operand.moves_decode fun source =>
      .pure _ (target, source)
  · refine .bind (moves_targetMask target) fun mask => .bind (moves_load source mask _) fun v => ?_
    exact .bind (.generate _) fun v => moves_storeResult i target v mask

theorem moves_binaryOperands (i : Instruction) :
    Moves n (Prod.map (Operand.moved n) (Prod.map (Operand.moved n) (Operand.moved n)))
      (binaryOperands i) (binaryOperands (i.moved n)) := by
  refine moves_operands i ?_
  exact .bind Operand.moves_decode fun target => .bind Operand.moves_decode fun a =>
    .bind Operand.moves_decode fun b => .pure _ (target, a, b)

theorem moves_binary (i : Instruction) (op : Value → Value → Generate Value) :
    Moves n id (binary i op) (binary (i.moved n) op) := by
  refine .bind (moves_binaryOperands i) fun (target, sourceA, sourceB) => ?_
  refine .bind (moves_targetMask target) fun mask => .bind (moves_load sourceA mask _) fun a => ?_
  refine .bind (moves_load sourceB mask _) fun b => .bind (.generate _) fun v => ?_
  exact moves_storeResult i target v mask

theorem moves_dot (i : Instruction) (k : Nat) : Moves n id (dot i k) (dot (i.moved n) k) := by
  refine .bind (moves_binaryOperands i) fun (target, sourceA, sourceB) => ?_
  refine .bind (moves_targetMask target) fun mask => .bind (moves_load sourceA _ _) fun a => ?_
  refine .bind (moves_load sourceB _ _) fun b => .bind (.generate _) fun v => ?_
  exact moves_storeResult i target v mask

theorem moves_multiplyAdd (i : Instruction) :
    Moves n id (multiplyAdd i) (multiplyAdd (i.moved n)) := by
  refine .bind (moves_operands i (f := Prod.map (Operand.moved n) (Prod.map (Operand.moved n)
    (Prod.map (Operand.moved n) (Operand.moved n)))) ?_)
    fun (target, sourceA, sourceB, sourceC) => ?_
  · exact .bind Operand.moves_decode fun target => .bind Operand.moves_decode fun a =>
      .bind Operand.moves_decode fun b => .bind Operand.moves_decode fun c =>
        .pure _ (target, a, b, c)
  · refine .bind (moves_targetMask target) fun mask => .bind (moves_load sourceA mask _) fun a => ?_
    refine .bind (moves_load sourceB mask _) fun b => .bind (moves_load sourceC mask _) fun c => ?_
    refine .bind (.generate _) fun product => .bind (.generate _) fun v => ?_
    exact moves_storeResult i target v mask

theorem moves_sample (i : Instruction) : Moves n id (sample i) (sample (i.moved n)) := by
  refine .bind (moves_operands i (f := Prod.map (Operand.moved n) (Prod.map (Operand.moved n)
    (Prod.map (Operand.moved n) (Operand.moved n)))) ?_)
    fun (target, coordinate, texture, sampler) => ?_
  · exact .bind Operand.moves_decode fun target => .bind Operand.moves_decode fun coordinate =>
      .bind Operand.moves_decode fun texture => .bind Operand.moves_decode fun sampler =>
        .pure _ (target, coordinate, texture, sampler)
  · refine .bind (moves_expectType texture _ _) fun _ => ?_
    refine .bind (moves_expectDimension texture _ _) fun _ => ?_
    refine .bind (moves_expectType sampler _ _) fun _ => ?_
    refine .bind (moves_expectDimension sampler _ _) fun _ => ?_
    refine .bind (moves_plainIndex texture _ _) fun textureRegister => ?_
    refine .bind (moves_plainIndex sampler _ _) fun samplerRegister => ?_
    have hrest : Moves n id
        (do
          let mask ← targetMask target
          let coordinate ← load coordinate .xyzw .float32
          let v ← generate (Generate.sample textureRegister samplerRegister coordinate)
          let v ← select texture v mask
          storeResult i target v mask)
        (do
          let mask ← targetMask (target.moved n)
          let coordinate ← load (coordinate.moved n) .xyzw .float32
          let v ← generate (Generate.sample textureRegister samplerRegister coordinate)
          let v ← select (texture.moved n) v mask
          storeResult (i.moved n) (target.moved n) v mask) := by
      refine .bind (moves_targetMask target) fun mask => ?_
      refine .bind (moves_load coordinate _ _) fun coordinate => .bind (.generate _) fun v => ?_
      exact .bind (moves_select texture v mask) fun v => moves_storeResult i target v mask
    exact .ite (.bind (.gap _) fun _ => hrest) hrest

/-! ## Declarations -/

theorem moves_declareConstantBuffer (i : Instruction) :
    Moves n id (declareConstantBuffer i) (declareConstantBuffer (i.moved n)) := by
  rw [declareConstantBuffer, declareConstantBuffer, Instruction.operand_moved]
  refine .bind (.decoded _ _) fun o => .bind (moves_expectType o _ _) fun _ => ?_
  refine .bind (moves_expectDimension o _ _) fun _ => ?_
  exact .bind (moves_plainIndex o _ _) fun register => .bind (moves_plainIndex o _ _) fun size =>
    .generate _

theorem returnTypes_moved (n : Nat) (w : Word) (position : Nat) : returnTypes w (position + n) =
    (returnTypes w position).mapError (DecodeError.moved n) := by
  have hfields (lows : List Nat) : (lows.mapM fun low =>
      (Numbered.decode (w.field low 4) (position + n) : Except DecodeError ResourceReturnType)) =
      (lows.mapM fun low => Numbered.decode (w.field low 4) position).mapError
        (DecodeError.moved n) := by
    induction lows with
    | nil => rfl
    | cons low lows ih =>
      rw [List.mapM_cons, List.mapM_cons, Numbered.decode_moved, ih]
      rcases (Numbered.decode (w.field low 4) position :
        Except DecodeError ResourceReturnType) with e | type
      · rfl
      · rcases (lows.mapM fun low =>
          (Numbered.decode (w.field low 4) position : Except DecodeError ResourceReturnType))
          with e | types <;> rfl
  exact hfields _

theorem moves_declareResource (i : Instruction) :
    Moves n id (declareResource i) (declareResource (i.moved n)) := by
  rw [declareResource, declareResource, Instruction.operand_moved, Instruction.resourceDim_moved]
  refine .bind (.decoded _ _) fun o => .bind (moves_expectType o _ _) fun _ => ?_
  refine .bind (moves_expectDimension o _ _) fun _ => ?_
  refine .bind (moves_plainIndex o _ _) fun register => .bind (.decodedWord _) fun dim => ?_
  rw [Operand.length_moved, Instruction.arg_moved, Instruction.argsPosition_moved,
    Nat.add_right_comm]
  refine .bind (.decodedWord _) fun w => ?_
  rw [id, returnTypes_moved n]
  refine .bind (.decodedWord _) fun types => ?_
  exact .ite (.bind (.gap _) fun _ => .generate _) (.generate _)

theorem moves_declareSampler (i : Instruction) :
    Moves n id (declareSampler i) (declareSampler (i.moved n)) := by
  rw [declareSampler, declareSampler, Instruction.operand_moved, Instruction.samplerMode_moved]
  refine .bind (.decoded _ _) fun o => .bind (moves_expectType o _ _) fun _ => ?_
  refine .bind (moves_expectDimension o _ _) fun _ => ?_
  exact .bind (moves_plainIndex o _ _) fun register => .bind (.decodedWord _) fun mode =>
    .generate _

theorem moves_interfaceIndices (o : Operand) :
    Moves n id (interfaceIndices o) (interfaceIndices (o.moved n)) := by
  rw [interfaceIndices, interfaceIndices, Operand.dimension_moved]
  split
  · exact .bind (moves_plainIndex o _ _) fun register => .pure id _
  · exact .bind (moves_plainIndex o _ _) fun region =>
      .bind (moves_plainIndex o _ _) fun register => .pure id _
  · exact .fault _

theorem moves_systemValue (i : Instruction) (o : Operand) :
    Moves n id (systemValue i o) (systemValue (i.moved n) (o.moved n)) := by
  rw [systemValue, systemValue, Operand.length_moved, Instruction.arg_moved,
    Instruction.argsPosition_moved, Nat.add_right_comm]
  refine .ite (.bind (.decodedWord _) fun w => ?_) (.pure id _)
  rw [id, Numbered.decode_moved n]
  exact .decodedWord _

theorem moves_declareInterface (i : Instruction) :
    Moves n id (declareInterface i) (declareInterface (i.moved n)) := by
  have hrest (d : InterpolationMode → InterfaceDeclaration) : Moves n id
      (if hasInterpolation i.opcode then do
        let interpolation ← decoded i.interpolationMode
        generate (Generate.declareInterface (d interpolation))
      else do
        let interpolation ← pure .undefined
        generate (Generate.declareInterface (d interpolation)))
      (if hasInterpolation i.opcode then do
        let interpolation ← decoded (i.interpolationMode.mapError (DecodeError.moved n))
        generate (Generate.declareInterface (d interpolation))
      else do
        let interpolation ← pure .undefined
        generate (Generate.declareInterface (d interpolation))) :=
    .ite (.bind (.decodedWord _) fun _ => .generate _) (.bind (.pure id _) fun _ => .generate _)
  rw [declareInterface, declareInterface, Instruction.operand_moved,
    Instruction.interpolationMode_moved]
  refine .bind (.decoded _ _) fun o => ?_
  rw [Operand.type_moved, Operand.text_moved]
  refine .ite (fun _ => rfl) (.bind (moves_interfaceIndices o) fun (region?, register) => ?_)
  refine .bind (moves_targetMask o) fun mask => .bind (moves_systemValue i o) fun wanted => ?_
  refine .observe fun s => .ite (hrest _) (.bind (.gap _) fun _ => hrest _)

theorem moves_declareTemps (i : Instruction) :
    Moves n id (declareTemps i) (declareTemps (i.moved n)) := by
  rw [declareTemps, declareTemps, Instruction.arg_moved]
  exact .bind (.decodedWord _) fun count => .ite (.fault _) (.generate _)

theorem moves_declareThreadGroup (i : Instruction) :
    Moves n id (declareThreadGroup i) (declareThreadGroup (i.moved n)) := by
  rw [declareThreadGroup, declareThreadGroup, Instruction.arg_moved, Instruction.arg_moved,
    Instruction.arg_moved]
  exact .bind (.decodedWord _) fun x => .bind (.decodedWord _) fun y =>
    .bind (.decodedWord _) fun z => .generate _

/-! ## Instructions -/

/-- The handlers of all instructions move. -/
theorem moves_instruction (i : Instruction) :
    Moves n id (instruction i) (instruction (i.moved n)) := by
  have hopcode : (i.moved n).opcode = i.opcode := rfl
  unfold instruction
  rw [hopcode]
  split
  iterate 3 exact .pure id ()
  · exact moves_declareConstantBuffer i
  · exact moves_declareResource i
  · exact moves_declareSampler i
  iterate 9 exact moves_declareInterface i
  · exact moves_declareTemps i
  · exact moves_declareThreadGroup i
  · exact moves_binary i _
  · exact moves_binary i _
  · exact moves_multiplyAdd i
  · exact moves_unary i _
  iterate 3 exact moves_dot i _
  · exact moves_unary i _
  · exact .generate _
  · exact moves_sample i
  · exact .gap _

end Lower

namespace Generator

/-- An instruction that stands further on does the same, and fails further on. -/
theorem handle_moved (g : Generator) (n : Nat) (i : Instruction) : g.handle (i.moved n) =
    ⟨(g.handle i).generator, (g.handle i).outcome.mapError (CompileFault.moved n)⟩ := by
  have hrun : (Lower.instruction (i.moved n)).run ⟨g, []⟩ = _ := Lower.moves_instruction i ⟨g, []⟩
  rw [handle, handle, hrun]
  rcases (Lower.instruction i).run ⟨g, []⟩ with ⟨(feature | f) | u, s⟩ <;> rfl

/-- Wherever an instruction is placed, it does the same to the generator, with the same gaps. -/
theorem handle_placedAt (g : Generator) (i : Instruction) (position : Nat) :
    (g.handle (i.placedAt position)).generator = (g.handle i).generator ∧
      ∀ gaps, (g.handle (i.placedAt position)).outcome = .ok gaps ↔
        (g.handle i).outcome = .ok gaps := by
  have hself : i = (i.placedAt 0).moved i.position := i.placedAt_eq_moved i.position
  have hok (outcome : Except CompileFault (List Gap)) (k : Nat) (gaps : List Gap) :
      outcome.mapError (CompileFault.moved k) = .ok gaps ↔ outcome = .ok gaps := by
    cases outcome with
    | error f => exact ⟨nofun, nofun⟩
    | ok gaps' => exact Iff.rfl
  have hplaced := g.handle_moved position (i.placedAt 0)
  have hthere := g.handle_moved i.position (i.placedAt 0)
  rw [← i.placedAt_eq_moved] at hplaced
  rw [← hself] at hthere
  rw [hplaced, hthere]
  exact ⟨rfl, fun gaps => (hok _ _ _).trans (hok _ _ _).symm⟩

end Generator

end ShaderLowering
