import ShaderLowering.Proofs.Generator.Steps

/-!
# What the operations of the generator are put together from

There are three kinds of operations. Those that *compute* read which registers are declared, ask for
types and constants, and add instructions with a result to the body; they may fail at any point.
Those that *store* compute first, and then store once. Those that *declare* compute and check first,
and from there on *extend* the module, without a way to fail. Most of them are *guarded*: they look
whether a register is there, and extend only if it is not.

The kinds are inductive: an operation is of a kind because its parts are. What is to be shown of all
operations of a kind is shown for the parts, and then holds by induction.
-/

namespace ShaderLowering

open Spirv (Build Inst Module Op)

variable {α β : Type}

/-- Whether an instruction is something that the rest of a program can notice: memory, a store, or a
return. -/
def Spirv.Op.isNoticeable : Op → Bool
  | .globalVariable | .store | .functionReturn => true
  | _ => false

/-! ## Steps of the construction -/

namespace Spirv.Build

/-- Types, constants, the import, and instructions with a result. -/
inductive Computes : {α : Type} → Build α → Prop
  | pure {α : Type} (a : α) : Computes (Pure.pure a)
  | bind {α β : Type} {b : Build α} {f : α → Build β} (h : Computes b)
      (hf : ∀ a, Computes (f a)) : Computes (b >>= f)
  | intern {op : Op} {type? : Option Word} {operands : List Word}
      (hop : op.isNoticeable = false) : Computes (intern op type? operands)
  | importGlsl : Computes importGlsl
  | emitValue {op : Op} {type : Word} {operands : List Word} (hop : op.isNoticeable = false) :
      Computes (emitValue op type operands)

/-- Types, constants, variables, decorations and capabilities. -/
inductive Extends : {α : Type} → Build α → Prop
  | computes {α : Type} {b : Build α} (h : Computes b) : Extends b
  | bind {α β : Type} {b : Build α} {f : α → Build β} (h : Extends b)
      (hf : ∀ a, Extends (f a)) : Extends (b >>= f)
  | addGlobal (op : Op) (type? : Option Word) (operands : List Word) :
      Extends (addGlobal op type? operands)
  | decorate (id : Word) (decoration : Decoration) (args : List Word) :
      Extends (decorate id decoration args)
  | decorateMember (id member : Word) (decoration : Decoration) (args : List Word) :
      Extends (decorateMember id member decoration args)
  | enableCapability (c : Capability) : Extends (enableCapability c)

theorem computes_scalar (s : ScalarType) : Computes s.build := by
  cases s <;> exact .intern rfl

theorem computes_type (t : ValueType) : Computes t.build := by
  refine .bind (computes_scalar t.scalar) fun s => ?_
  split
  · exact .pure s
  · exact .intern rfl

theorem computes_pointerTo (t : ValueType) (storage : Storage) :
    Computes (t.buildPointer storage) :=
  .bind (computes_type t) fun _ => .intern rfl

theorem computes_constant (type bits : Word) : Computes (constant type bits) := .intern rfl

theorem computes_constantU32 (value : Word) : Computes (constantU32 value) :=
  .bind (.intern rfl) fun _ => computes_constant _ _

theorem computes_constantF32 (bits : Word) : Computes (constantF32 bits) :=
  .bind (.intern rfl) fun _ => computes_constant _ _

theorem computes_constants (type : Word) (bits : List Word) :
    Computes (bits.mapM (constant type)) := by
  induction bits with
  | nil =>
    rw [List.mapM_nil]
    exact .pure []
  | cons w bits ih =>
    rw [List.mapM_cons]
    exact .bind (computes_constant _ _) fun _ => .bind ih fun _ => .pure _

theorem computes_emitGlsl (type : Word) (op : GlslOp) (args : List Word) :
    Computes (emitGlsl type op args) :=
  .bind .importGlsl fun _ => .emitValue rfl

theorem computes_splat (bits : Word) (count : Nat) : Computes (Generate.splat bits count) := by
  refine .bind (computes_constantF32 bits) fun scalar => ?_
  split
  · exact .pure scalar
  · exact .bind (computes_type _) fun _ => .intern rfl

theorem computes_levelOfDetail (stage : EntryStage) : Computes (Generate.levelOfDetail stage) := by
  cases stage with
  | pixel => exact .pure none
  | vertex | compute => exact .bind (computes_constantF32 0) fun _ => .pure _

theorem computes_loadSampled (imageType image samplerType sampler combinedType : Word) :
    Computes (Generate.loadSampled imageType image samplerType sampler combinedType) :=
  .bind (.emitValue rfl) fun _ => .bind (.emitValue rfl) fun _ => .emitValue rfl

theorem computes_emitSample (type combined coordinate : Word) (lod? : Option Word) :
    Computes (Generate.emitSample type combined coordinate lod?) := by
  cases lod? with
  | none => exact .emitValue rfl
  | some lod => exact .emitValue rfl

theorem extends_buildBlock (length : Word) : Extends (Generate.buildBlock length) := by
  refine .bind (.computes (computes_type _)) fun element => ?_
  refine .bind (.computes (computes_constantU32 _)) fun number => ?_
  refine .bind (.addGlobal _ _ _) fun array => .bind (.decorate _ _ _) fun _ => ?_
  refine .bind (.addGlobal _ _ _) fun block => .bind (.decorate _ _ _) fun _ => ?_
  exact .bind (.decorateMember _ _ _ _) fun _ => .computes (.pure block)

theorem extends_decorateBinding (id set binding : Word) :
    Extends (decorateBinding id set binding) :=
  .bind (.decorate _ _ _) fun _ => .decorate _ _ _

theorem extends_decorateInterpolation (id : Word) (mode : InterpolationMode) :
    Extends (Generate.decorateInterpolation id mode) := by
  have hdecorations : Extends (mode.decorations.forM fun d => decorate id d []) := by
    generalize mode.decorations = decorations
    induction decorations with
    | nil => exact .computes (.pure ())
    | cons d decorations ih => exact .bind (.decorate _ _ _) fun _ => ih
  rw [Generate.decorateInterpolation]
  split
  · exact .bind (.enableCapability _) fun _ => hdecorations
  · exact hdecorations

end Spirv.Build

/-! ## Operations -/

namespace Generate

/-- Operations that only compute. -/
inductive Computes : {α : Type} → Generate α → Prop
  | pure {α : Type} (a : α) : Computes (Pure.pure a)
  | throw {α : Type} (e : GeneratorError) : Computes (MonadExcept.throw e : Generate α)
  | bind {α β : Type} {op : Generate α} {f : α → Generate β} (h : Computes op)
      (hf : ∀ a, Computes (f a)) : Computes (op >>= f)
  /-- What is done depends on the stage and the registers. -/
  | observe {α : Type} {f : Generator → Generate α}
      (same : ∀ g g', g.SameRegisters g' → f g' = f g) (h : ∀ g, Computes (f g)) :
      Computes (get >>= f)
  | build {α : Type} {b : Build α} (h : b.Computes) : Computes (build b)
  | body {α : Type} {b : Build α} (h : b.Computes) : Computes (body b)

/-- Operations that end with a store, unless they fail. -/
inductive Stores : Generate Unit → Prop
  | throw (e : GeneratorError) : Stores (MonadExcept.throw e)
  | bind {α : Type} {op : Generate α} {f : α → Generate Unit} (h : Computes op)
      (hf : ∀ a, Stores (f a)) : Stores (op >>= f)
  | store (pointer value : Word) : Stores (body (Build.emitStore pointer value))

/-- Operations that extend the module and the registers, and never fail. -/
inductive Extends : {α : Type} → Generate α → Prop
  | pure {α : Type} (a : α) : Extends (Pure.pure a)
  | bind {α β : Type} {op : Generate α} {f : α → Generate β} (h : Extends op)
      (hf : ∀ a, Extends (f a)) : Extends (op >>= f)
  | observe {α : Type} {f : Generator → Generate α}
      (same : ∀ g g', g.SameRegisters g' → f g' = f g) (h : ∀ g, Extends (f g)) :
      Extends (get >>= f)
  | build {α : Type} {b : Build α} (h : b.Extends) : Extends (build b)
  /-- A name is given, if names are wanted. -/
  | label {op : Generate Unit} (i : Inst) (h : Extends op) : Extends (do
      if (← get).debugNames then build (modify fun m => { m with names := m.names.push i })
      op)
  | temp (id : Word) : Extends (modify fun g => { g with temps := g.temps.push id })
  | resource (r : DeclaredResource) :
      Extends (modify fun g => { g with resources := g.resources ++ [r] })
  | interface (v : InterfaceVariable) :
      Extends (modify fun g => { g with interfaces := g.interfaces ++ [v] })
  | threadGroup (size : Word × Word × Word) :
      Extends (modify fun g => { g with threadGroup? := some size })

/-- Operations that extend, unless they fail before. -/
inductive Declares : Generate Unit → Prop
  | throw (e : GeneratorError) : Declares (MonadExcept.throw e)
  | bind {α : Type} {op : Generate α} {f : α → Generate Unit} (h : Computes op)
      (hf : ∀ a, Declares (f a)) : Declares (op >>= f)
  | observe {f : Generator → Generate Unit} (same : ∀ g g', g.SameRegisters g' → f g' = f g)
      (h : ∀ g, Declares (f g)) : Declares (get >>= f)
  | extend {op : Generate Unit} (h : Extends op) : Declares op

/-- Operations that change nothing if a register is there, and otherwise extend, unless they fail
before. -/
inductive Guarded (isThere : Generator → Bool) : Generate Unit → Prop
  | throw (e : GeneratorError) : Guarded isThere (MonadExcept.throw e)
  | slot {kind : ResourceClass} {register : Word} {f : Word → Generate Unit}
      (h : ∀ slot, Guarded isThere (f slot)) : Guarded isThere (slot kind register >>= f)
  | guard {f : Generator → Generate Unit} (same : ∀ g g', g.SameRegisters g' → f g' = f g)
      (h : ∀ g, Extends (f g)) :
      Guarded isThere (get >>= fun g => if isThere g = true then Pure.pure () else f g)

section

variable {op op' : Generate α} {c : Prop} [Decidable c]

theorem Computes.ite (h : Computes op) (h' : Computes op') : Computes (if c then op else op') := by
  split
  · exact h
  · exact h'

theorem Stores.ite {op op' : Generate Unit} (h : Stores op) (h' : Stores op') :
    Stores (if c then op else op') := by
  split
  · exact h
  · exact h'

theorem Extends.ite (h : Extends op) (h' : Extends op') : Extends (if c then op else op') := by
  split
  · exact h
  · exact h'

theorem Declares.ite {op op' : Generate Unit} (h : Declares op) (h' : Declares op') :
    Declares (if c then op else op') := by
  split
  · exact h
  · exact h'

end

/-- An operation that extends never fails. -/
theorem Extends.isOk {op : Generate α} (h : Extends op) (g : Generator) :
    ∃ a g', op.run g = (.ok a, g') := by
  induction h generalizing g with
  | pure a => exact ⟨a, g, rfl⟩
  | @bind _ _ op f _ _ ih ihf =>
    obtain ⟨a, g', hop⟩ := ih g
    rw [run_bind, hop]
    exact ihf a g'
  | observe _ _ ih => exact ih g g
  | @build _ b _ => exact ⟨_, _, run_build b g⟩
  | @label op i _ ih =>
    rw [run_bind, run_get]
    dsimp only
    split
    · exact ih _
    · exact ih g
  | temp | resource | interface | threadGroup => exact ⟨_, _, rfl⟩

/-! ### Computing -/

theorem computes_constantScalar (scalar : ScalarType) (bits : Word) :
    Computes (constantScalar scalar bits) :=
  .bind (.build (.bind (Spirv.Build.computes_scalar _) fun _ =>
    Spirv.Build.computes_constant _ _)) fun _ => .pure _

theorem computes_constantVector (scalar : ScalarType) (bits : List Word) :
    Computes (constantVector scalar bits) := by
  refine .bind (.build (.bind (Spirv.Build.computes_scalar _) fun _ => ?_)) fun _ => .pure _
  refine .bind (Spirv.Build.computes_constants _ _) fun _ => ?_
  exact .bind (Spirv.Build.computes_type _) fun _ => .intern rfl

theorem computes_tempPointer (register : Word) : Computes (tempPointer register) := by
  refine .observe (fun g g' h => by rw [h.temps]) fun g => ?_
  split
  · exact .pure _
  · exact .throw _

theorem computes_interfacePointer (type : OperandType) (register : Word) :
    Computes (interfacePointer type register) := by
  refine .observe (fun g g' h => by simp only [h.interface?_eq]) fun g => ?_
  split
  · exact .pure _
  · exact .throw _

theorem computes_emit {op : Op} (hop : op.isNoticeable = false) (type : ValueType)
    (operands : List Word) : Computes (emit op type operands) :=
  .bind (.build (Spirv.Build.computes_type _)) fun _ => .bind (.body (.emitValue hop)) fun _ =>
    .pure _

theorem computes_constantBufferPointer (register : Word) (element : Value) :
    Computes (constantBufferPointer register element) := by
  refine .observe (fun g g' h => by simp only [h.resource?_eq]) fun g => ?_
  split
  · refine .ite ?_ (.throw _)
    refine .bind (.build (Spirv.Build.computes_pointerTo _ _)) fun pointerType => ?_
    refine .bind (.build (Spirv.Build.computes_constantU32 _)) fun member => ?_
    exact .bind (.body (.emitValue rfl)) fun id => .pure _
  · exact .throw _

theorem computes_selectLanes (v : Value) (lanes : List Nat) : Computes (selectLanes v lanes) :=
  .ite (.pure v) (.ite (computes_emit rfl _ _) (.ite (computes_emit rfl _ _)
    (computes_emit rfl _ _)))

theorem computes_cast (v : Value) (scalar : ScalarType) : Computes (cast v scalar) :=
  .ite (.pure v) (computes_emit rfl _ _)

theorem computes_extract (v : Value) (mask : ComponentMask) : Computes (extract v mask) :=
  .ite (.ite (.pure v) (computes_selectLanes _ _)) (.throw _)

theorem computes_swizzle (v : Value) (s : Swizzle) (mask : ComponentMask) :
    Computes (swizzle v s mask) := by
  refine .ite (.throw _) ?_
  dsimp only
  split
  · exact .throw _
  · exact .ite (.pure v) (computes_selectLanes _ _)

theorem computes_replicate (v : Value) (count : Nat) : Computes (replicate v count) :=
  .ite (.throw _) (.ite (.pure v) (computes_selectLanes _ _))

theorem computes_load (p : Pointer) : Computes (load p) := computes_emit rfl _ _

theorem computes_merge (p : Pointer) (old v : Value) (mask : ComponentMask) :
    Computes (merge p old v mask) :=
  .ite (computes_emit rfl _ _) (computes_emit rfl _ _)

theorem computes_expectSameType (a b : Value) : Computes (expectSameType a b) :=
  .ite (.throw _) (.pure ())

theorem computes_expectFloat (v : Value) : Computes (expectFloat v) := .ite (.throw _) (.pure ())

theorem computes_emitExtended (op : Spirv.GlslOp) (type : ValueType) (args : List Word) :
    Computes (emitExtended op type args) :=
  .bind (.build (Spirv.Build.computes_type _)) fun _ =>
    .bind (.body (Spirv.Build.computes_emitGlsl _ _ _)) fun _ => .pure _

theorem computes_binary {float integer : Op} (hfloat : float.isNoticeable = false)
    (hinteger : integer.isNoticeable = false) (a b : Value) :
    Computes (binary float integer a b) := by
  refine .bind (computes_expectSameType a b) fun _ => computes_emit ?_ _ _
  split
  · exact hfloat
  · exact hinteger

theorem computes_add (a b : Value) : Computes (add a b) := computes_binary rfl rfl a b

theorem computes_mul (a b : Value) : Computes (mul a b) := computes_binary rfl rfl a b

theorem computes_dot (a b : Value) : Computes (dot a b) :=
  .bind (computes_expectSameType a b) fun _ => .ite (.throw _)
    (.ite (computes_mul a b) (computes_emit rfl _ _))

theorem computes_inverseSqrt (v : Value) : Computes (inverseSqrt v) :=
  .bind (computes_expectFloat v) fun _ => computes_emitExtended _ _ _

theorem computes_abs (v : Value) : Computes (abs v) := by
  rw [abs]
  split
  · exact computes_emitExtended _ _ _
  · exact computes_emitExtended _ _ _
  · exact .bind (.build (Spirv.Build.computes_type _)) fun _ => .pure v

theorem computes_neg (v : Value) : Computes (neg v) := by
  rw [neg]
  split <;> exact computes_emit rfl _ _

theorem computes_saturate (v : Value) : Computes (saturate v) := by
  refine .bind (computes_expectFloat v) fun _ => ?_
  refine .bind (.build (Spirv.Build.computes_type _)) fun typeId => ?_
  refine .bind (.build (Spirv.Build.computes_splat _ _)) fun zero => ?_
  refine .bind (.build (Spirv.Build.computes_splat _ _)) fun one => ?_
  exact .bind (.body (Spirv.Build.computes_emitGlsl _ _ _)) fun id => .pure _

theorem computes_sample (texture sampler : Word) (coordinate : Value) :
    Computes (sample texture sampler coordinate) := by
  refine .observe (fun g g' h => by simp only [h.resource?_eq, h.stage]) fun g => ?_
  split
  · split
    · split
      · refine .bind (computes_expectFloat _) fun _ => .ite (.throw _) ?_
        refine .bind (computes_extract _ _) fun coordinate => ?_
        refine .bind (.build (.intern rfl)) fun samplerType => ?_
        refine .bind (.build (.intern rfl)) fun combinedType => ?_
        refine .bind (.build (Spirv.Build.computes_type _)) fun typeId => ?_
        refine .bind (.build (Spirv.Build.computes_levelOfDetail _)) fun lod? => ?_
        refine .bind (.body (.bind (Spirv.Build.computes_loadSampled _ _ _ _ _) fun combined => ?_))
          fun id => .pure _
        exact Spirv.Build.computes_emitSample _ _ _ _
      · exact .throw _
    · exact .throw _
  · exact .throw _

theorem computes_slot (kind : ResourceClass) (register : Word) : Computes (slot kind register) := by
  refine .observe (fun g g' h => by rw [h.stage]) fun g => ?_
  split
  · exact .pure _
  · exact .throw _

/-! ### Storing -/

theorem stores_store (p : Pointer) (v : Value) (mask : ComponentMask) :
    Stores (store p v mask) := by
  refine .ite (.ite (.throw _) (.ite (.ite (.throw _) (.ite (.store _ _) ?_)) (.throw _))) (.throw _)
  refine .bind (computes_load p) fun old => .bind (computes_merge p old v mask) fun merged => ?_
  exact .store _ _

/-! ### Declaring -/

theorem extends_name (id : Word) (text : String) : Extends (name id text) :=
  .label (.effect .name (id :: Spirv.stringWords text)) (.pure ())

theorem extends_newVariable (type : Word) (storage : Spirv.StorageClass) :
    Extends (build (Build.newVariable type storage)) := .build (.addGlobal _ _ _)

theorem extends_pointerType (pointee : Word) (storage : Spirv.StorageClass) :
    Extends (build (Build.pointerType pointee storage)) := .build (.computes (.intern rfl))

theorem extends_addTemps (pointerType : Word) (first more : Nat) :
    Extends (addTemps pointerType first more) := by
  induction more generalizing first with
  | zero => exact .pure ()
  | succ more ih =>
    refine .bind (extends_newVariable _ _) fun id => .bind (extends_name _ _) fun _ => ?_
    exact .bind (.temp id) fun _ => ih _

theorem extends_addResource (register slot id : Word) (form : ResourceForm) :
    Extends (addResource register slot id form) :=
  .bind (.build (Spirv.Build.extends_decorateBinding _ _ _)) fun _ => .resource _

theorem declares_declareTemps (count : Nat) : Declares (declareTemps count) := by
  refine .bind (.build (Spirv.Build.computes_pointerTo _ _)) fun pointerType => ?_
  refine .observe (fun g g' h => by rw [h.temps]) fun g => ?_
  exact .extend (extends_addTemps _ _ _)

/-- Guarded operations declare. -/
theorem Guarded.declares {isThere : Generator → Bool} {op : Generate Unit} (h : Guarded isThere op)
    (hsame : ∀ g g', g.SameRegisters g' → isThere g' = isThere g) : Declares op := by
  induction h with
  | throw e => exact .throw e
  | slot _ ih => exact .bind (computes_slot _ _) ih
  | guard same h =>
    refine .observe (fun g g' hs => ?_) fun g => .ite (.extend (.pure ())) (.extend (h g))
    rw [hsame g g' hs, same g g' hs]

/-- A resource is declared unless its register is there. -/
theorem guarded_declareConstantBuffer (register size : Word) :
    Guarded (fun g => (g.resource? .constantBuffer register).isSome)
      (declareConstantBuffer register size) := by
  refine .slot fun slot => .guard (fun _ _ _ => rfl) fun g => ?_
  refine .bind (.build (Spirv.Build.extends_buildBlock _)) fun block => ?_
  refine .bind (extends_pointerType _ _) fun pointerType => ?_
  refine .bind (extends_newVariable _ _) fun id => ?_
  refine .bind (extends_addResource _ _ _ _) fun _ => .bind (extends_name _ _) fun _ => ?_
  exact .label _ (extends_name _ _)

theorem guarded_declareResource (register : Word) (dim : ResourceDim)
    (returnType : ResourceReturnType) :
    Guarded (fun g => (g.resource? .shaderResource register).isSome)
      (declareResource register dim returnType) := by
  refine .slot fun slot => ?_
  split
  · split
    · next sampled _ _ imageDim capability? _ =>
      refine .guard (fun _ _ _ => rfl) fun g => ?_
      have hrest : Extends (do
          let sampledType ← build sampled.build
          let imageType ← build
            (Build.imageType sampledType imageDim 0 dim.isArray dim.isMultisampled 1 .unknown)
          let pointerType ← build (Build.pointerType imageType Storage.uniformConstant.spirvClass)
          let id ← build (Build.newVariable pointerType Storage.uniformConstant.spirvClass)
          addResource register slot id (.image imageType dim sampled)
          name id s!"t{register.toNat}") := by
        refine .bind (.build (.computes (Spirv.Build.computes_scalar _))) fun sampledType => ?_
        refine .bind (.build (.computes (.intern rfl))) fun imageType => ?_
        refine .bind (extends_pointerType _ _) fun pointerType => ?_
        refine .bind (extends_newVariable _ _) fun id => ?_
        exact .bind (extends_addResource _ _ _ _) fun _ => extends_name _ _
      cases capability? with
      | none => exact hrest
      | some c => exact .bind (.build (.enableCapability c)) fun _ => hrest
    · exact .throw _
  · exact .throw _

theorem guarded_declareSampler (register : Word) (mode : SamplerMode) :
    Guarded (fun g => (g.resource? .sampler register).isSome) (declareSampler register mode) := by
  refine .slot fun slot => .guard (fun _ _ _ => rfl) fun g => ?_
  refine .bind (.build (.computes (.bind (.intern rfl) fun _ => .intern rfl))) fun pointerType => ?_
  refine .bind (extends_newVariable _ _) fun id => ?_
  exact .bind (extends_addResource _ _ _ _) fun _ => extends_name _ _

/-- An input or output register is declared unless it is there. -/
theorem guarded_declareInterface (d : InterfaceDeclaration) :
    Guarded (fun g => (InterfaceClass.ofOperandType? d.type).any fun kind =>
      (g.interface? kind d.register).isSome) (declareInterface d) := by
  rw [declareInterface]
  split
  · exact .throw _
  · split
    · next kind hkind =>
      rw [hkind]
      change Guarded (fun g => (g.interface? kind d.register).isSome) _
      refine .guard (fun g g' hs => by simp only [hs.stage]) fun g => ?_
      refine .bind (.build (.computes (Spirv.Build.computes_pointerTo _ _))) fun pointerType => ?_
      refine .bind (extends_newVariable _ _) fun id => ?_
      have hrest : Extends (do
          name id s!"{kind.letters}{d.register.toNat}"
          modify fun g => { g with interfaces := g.interfaces ++ [⟨kind, d.register, id⟩] }) :=
        .bind (extends_name _ _) fun _ => .interface _
      dsimp only
      split
      · exact .bind (.build (.decorate _ _ _)) fun _ => hrest
      · refine .bind (.build (.decorate _ _ _)) fun _ => .ite ?_ hrest
        exact .bind (.build (Spirv.Build.extends_decorateInterpolation _ _)) fun _ => hrest
    · exact .throw _

theorem declares_declareConstantBuffer (register size : Word) :
    Declares (declareConstantBuffer register size) :=
  (guarded_declareConstantBuffer register size).declares fun _ _ h => by rw [h.resource?_eq]

theorem declares_declareResource (register : Word) (dim : ResourceDim)
    (returnType : ResourceReturnType) : Declares (declareResource register dim returnType) :=
  (guarded_declareResource register dim returnType).declares fun _ _ h => by rw [h.resource?_eq]

theorem declares_declareSampler (register : Word) (mode : SamplerMode) :
    Declares (declareSampler register mode) :=
  (guarded_declareSampler register mode).declares fun _ _ h => by rw [h.resource?_eq]

theorem declares_declareInterface (d : InterfaceDeclaration) : Declares (declareInterface d) :=
  (guarded_declareInterface d).declares fun _ _ h => by simp only [h.interface?_eq]

theorem declares_declareThreadGroup (x y z : Word) : Declares (declareThreadGroup x y z) :=
  .observe (fun g g' h => by rw [h.stage]) fun _ => .ite (.throw _) (.extend (.threadGroup _))

end Generate

end ShaderLowering
