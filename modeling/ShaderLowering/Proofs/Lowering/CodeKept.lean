import ShaderLowering.Proofs.Lowering.Composition

/-!
# Declarations leave the code alone

Handlers of declarations add to the module in many ways, but never to the function, whether they fail
or not: `Lower.leavesCode_instruction`. So what a program has computed so far is not touched by the
declarations between its instructions.
-/

namespace ShaderLowering

open Spirv (Build Module)

variable {ε S α β : Type} [HasGenerator S]

/-! ## Steps of the construction -/

namespace Spirv.Build

/-- A step that leaves the function of the module as it is. -/
def LeavesCode (b : Build α) : Prop := ∀ m, (b.run m).2.body = m.body

theorem LeavesCode.pure (a : α) : LeavesCode (pure a : Build α) := fun _ => rfl

theorem LeavesCode.bind {b : Build α} {f : α → Build β} (h : LeavesCode b)
    (hf : ∀ a, LeavesCode (f a)) : LeavesCode (b >>= f) :=
  fun m => (hf _ _).trans (h m)

theorem leavesCode_enableCapability (c : Spirv.Capability) : LeavesCode (enableCapability c) := by
  intro m
  change (if c ∈ m.capabilities then m else _).body = m.body
  split <;> rfl

theorem leavesCode_addGlobal (op : Spirv.Op) (type? : Option Word) (operands : List Word) :
    LeavesCode (addGlobal op type? operands) := fun _ => rfl

theorem leavesCode_intern (op : Spirv.Op) (type? : Option Word) (operands : List Word) :
    LeavesCode (intern op type? operands) := by
  refine LeavesCode.bind (fun m => rfl : LeavesCode get) fun m => ?_
  split
  · exact .pure _
  · exact leavesCode_addGlobal op type? operands

theorem leavesCode_scalar (s : ScalarType) : LeavesCode s.build := by
  cases s <;> exact leavesCode_intern _ _ _

theorem leavesCode_type (t : ValueType) : LeavesCode t.build := by
  refine (leavesCode_scalar t.scalar).bind fun s => ?_
  split
  · exact .pure _
  · exact leavesCode_intern _ _ _

theorem leavesCode_pointerTo (t : ValueType) (storage : Storage) :
    LeavesCode (t.buildPointer storage) :=
  (leavesCode_type t).bind fun _ => leavesCode_intern _ _ _

theorem leavesCode_constantU32 (value : Word) : LeavesCode (constantU32 value) :=
  (leavesCode_intern _ _ _).bind fun _ => leavesCode_intern _ _ _

theorem leavesCode_decorateBinding (id set binding : Word) :
    LeavesCode (decorateBinding id set binding) := fun _ => rfl

theorem leavesCode_buildBlock (length : Word) : LeavesCode (Generate.buildBlock length) :=
  (leavesCode_type _).bind fun _ => (leavesCode_constantU32 _).bind fun _ =>
    (leavesCode_addGlobal _ _ _).bind fun _ => fun _ => rfl

theorem leavesCode_decorateInterpolation (id : Word) (mode : InterpolationMode) :
    LeavesCode (Generate.decorateInterpolation id mode) := by
  have hdecorations : LeavesCode (mode.decorations.forM fun d => decorate id d []) := by
    generalize mode.decorations = decorations
    induction decorations with
    | nil => exact .pure _
    | cons d decorations ih => exact LeavesCode.bind (fun _ => rfl) fun _ => ih
  rw [Generate.decorateInterpolation]
  split
  · exact (leavesCode_enableCapability _).bind fun _ => hdecorations
  · exact hdecorations

end Spirv.Build

/-! ## Operations -/

/-- An operation that leaves the function of the module as it is, whether it fails or not. -/
def LeavesCode (op : ExceptT ε (StateM S) α) : Prop :=
  ∀ s, (HasGenerator.generator (op.run s).2).module.body = (HasGenerator.generator s).module.body

namespace LeavesCode

theorem pure (a : α) : LeavesCode (Pure.pure a : ExceptT ε (StateM S) α) := fun _ => rfl

theorem throw (e : ε) : LeavesCode (MonadExcept.throw e : ExceptT ε (StateM S) α) := fun _ => rfl

theorem get : LeavesCode (MonadState.get : ExceptT ε (StateM S) S) := fun _ => rfl

theorem bind {op : ExceptT ε (StateM S) α} {f : α → ExceptT ε (StateM S) β} (h : LeavesCode op)
    (hf : ∀ a, LeavesCode (f a)) : LeavesCode (op >>= f) :=
  Respects.bind (R := fun g g' => g'.module.body = g.module.body) (fun h h' => h'.trans h) h hf

theorem ite {c : Prop} [Decidable c] {op op' : ExceptT ε (StateM S) α} (h : LeavesCode op)
    (h' : LeavesCode op') : LeavesCode (if c then op else op') := by
  split
  · exact h
  · exact h'

end LeavesCode

namespace Generate

theorem leavesCode_build {b : Build α} (h : b.LeavesCode) : LeavesCode (build b) :=
  fun g => h g.module

theorem leavesCode_name (id : Word) (text : String) : LeavesCode (name id text) :=
  .bind .get fun _ => .ite (leavesCode_build fun _ => rfl) (.pure ())

theorem leavesCode_slot (kind : ResourceClass) (register : Word) :
    LeavesCode (slot kind register) := by
  refine .bind .get fun g => ?_
  split
  · exact .pure _
  · exact .throw _

theorem leavesCode_addTemps (pointerType : Word) (first more : Nat) :
    LeavesCode (addTemps pointerType first more) := by
  induction more generalizing first with
  | zero => exact .pure ()
  | succ more ih =>
    exact .bind (leavesCode_build (Spirv.Build.leavesCode_addGlobal _ _ _)) fun _ =>
      .bind (leavesCode_name _ _) fun _ => .bind (fun _ => rfl) fun _ => ih _

theorem leavesCode_declareTemps (count : Nat) : LeavesCode (declareTemps count) :=
  .bind (leavesCode_build (Spirv.Build.leavesCode_pointerTo _ _)) fun _ =>
    .bind .get fun _ => leavesCode_addTemps _ _ _

theorem leavesCode_addResource (register slot id : Word) (form : ResourceForm) :
    LeavesCode (addResource register slot id form) :=
  .bind (leavesCode_build (Spirv.Build.leavesCode_decorateBinding _ _ _)) fun _ => fun _ => rfl

theorem leavesCode_newVariable (type : Word) (storage : Spirv.StorageClass) :
    LeavesCode (build (Build.newVariable type storage)) :=
  leavesCode_build (Spirv.Build.leavesCode_addGlobal _ _ _)

theorem leavesCode_pointerType (pointee : Word) (storage : Spirv.StorageClass) :
    LeavesCode (build (Build.pointerType pointee storage)) :=
  leavesCode_build (Spirv.Build.leavesCode_intern _ _ _)

theorem leavesCode_declareConstantBuffer (register size : Word) :
    LeavesCode (declareConstantBuffer register size) := by
  refine .bind (leavesCode_slot _ _) fun slot => .bind .get fun g => .ite (.pure ()) ?_
  refine .bind (leavesCode_build (Spirv.Build.leavesCode_buildBlock _)) fun block => ?_
  refine .bind (leavesCode_pointerType _ _) fun pointerType => ?_
  refine .bind (leavesCode_newVariable _ _) fun id => ?_
  refine .bind (leavesCode_addResource _ _ _ _) fun _ => .bind (leavesCode_name _ _) fun _ => ?_
  refine .bind .get fun g => .ite (.bind (leavesCode_build fun _ => rfl) fun _ => ?_) ?_
  · exact leavesCode_name _ _
  · exact leavesCode_name _ _

theorem leavesCode_declareResource (register : Word) (dim : ResourceDim)
    (returnType : ResourceReturnType) :
    LeavesCode (declareResource register dim returnType) := by
  refine .bind (leavesCode_slot _ _) fun slot => ?_
  split
  · split
    · next capability? _ =>
      refine .bind .get fun g => .ite (.pure ()) ?_
      have hrest (sampled : ScalarType) (imageDim : Spirv.Dim) : LeavesCode (do
          let sampledType ← build sampled.build
          let imageType ← build
            (Build.imageType sampledType imageDim 0 dim.isArray dim.isMultisampled 1 .unknown)
          let pointerType ← build (Build.pointerType imageType Storage.uniformConstant.spirvClass)
          let id ← build (Build.newVariable pointerType Storage.uniformConstant.spirvClass)
          addResource register slot id (.image imageType dim sampled)
          name id s!"t{register.toNat}") :=
        .bind (leavesCode_build (Spirv.Build.leavesCode_scalar _)) fun _ =>
          .bind (leavesCode_build (Spirv.Build.leavesCode_intern _ _ _)) fun _ =>
          .bind (leavesCode_pointerType _ _) fun _ => .bind (leavesCode_newVariable _ _) fun _ =>
          .bind (leavesCode_addResource _ _ _ _) fun _ => leavesCode_name _ _
      cases capability? with
      | none => exact hrest _ _
      | some c =>
        exact .bind (leavesCode_build (Spirv.Build.leavesCode_enableCapability c)) fun _ =>
          hrest _ _
    · exact .throw _
  · exact .throw _

theorem leavesCode_declareSampler (register : Word) (mode : SamplerMode) :
    LeavesCode (declareSampler register mode) := by
  refine .bind (leavesCode_slot _ _) fun slot => .bind .get fun g => .ite (.pure ()) ?_
  refine .bind (leavesCode_build (.bind (Spirv.Build.leavesCode_intern _ _ _) fun _ =>
    Spirv.Build.leavesCode_intern _ _ _)) fun pointerType => ?_
  exact .bind (leavesCode_newVariable _ _) fun id => .bind (leavesCode_addResource _ _ _ _) fun _ =>
    leavesCode_name _ _

theorem leavesCode_declareInterface (d : InterfaceDeclaration) :
    LeavesCode (declareInterface d) := by
  rw [declareInterface]
  split
  · exact .throw _
  · split
    · next kind _ =>
      refine .bind .get fun g => .ite (.pure ()) ?_
      refine .bind (leavesCode_build (Spirv.Build.leavesCode_pointerTo _ _)) fun pointerType => ?_
      refine .bind (leavesCode_newVariable _ _) fun id => ?_
      have hrest (text : String) : LeavesCode (do
          name id text
          modify fun g => { g with interfaces := g.interfaces ++ [⟨kind, d.register, id⟩] }) :=
        .bind (leavesCode_name _ _) fun _ => fun _ => rfl
      dsimp only
      split
      · exact .bind (leavesCode_build fun _ => rfl) fun _ => hrest _
      · refine .bind (leavesCode_build fun _ => rfl) fun _ => .ite ?_ (hrest _)
        exact .bind (leavesCode_build (Spirv.Build.leavesCode_decorateInterpolation _ _))
          fun _ => hrest _
    · exact .throw _

theorem leavesCode_declareThreadGroup (x y z : Word) :
    LeavesCode (declareThreadGroup x y z) :=
  .bind .get fun _ => .ite (.throw _) fun _ => rfl

end Generate

/-! ## Handlers -/

namespace Lower

/-- The handlers of declarations leave the code alone as the operations do that they end with. -/
theorem Declares.leavesCode {op : Lower Unit} (h : Declares LeavesCode op) : LeavesCode op :=
  Declares.respects (R := fun g g' => g'.module.body = g.module.body) (fun _ => rfl) h

/-- What is not executed leaves the code alone. -/
theorem leavesCode_instruction (i : Instruction) (hi : i.opcode.isExecuted = false) :
    LeavesCode (instruction i) := by
  -- only the handlers of declarations are left
  have hexecuted {op : Lower Unit} (h : i.opcode.isExecuted = true) : LeavesCode op := by
    rw [hi] at h
    cases h
  refine instruction_cases (P := LeavesCode) i (.pure ()) ?_ ?_ ?_ (fun _ => ?_) ?_ ?_ hexecuted
    hexecuted hexecuted hexecuted (fun _ => hexecuted) hexecuted (fun h => hexecuted ?_) hexecuted
    (fun _ => rfl)
  · exact (declares_declareConstantBuffer i Generate.leavesCode_declareConstantBuffer).leavesCode
  · exact (declares_declareResource i Generate.leavesCode_declareResource).leavesCode
  · exact (declares_declareSampler i Generate.leavesCode_declareSampler).leavesCode
  · exact (declares_declareInterface i Generate.leavesCode_declareInterface).leavesCode
  · exact (declares_declareTemps i fun n _ => Generate.leavesCode_declareTemps n).leavesCode
  · exact (declares_declareThreadGroup i Generate.leavesCode_declareThreadGroup).leavesCode
  · rw [h]
    rfl

end Lower

end ShaderLowering
