import ShaderLowering.Proofs.Generator.DeclarationSteps
import ShaderLowering.Proofs.Lowering.Atomicity

/-!
# The interface of a module

The input and output registers of a shader are the variables of two storage classes. What connects
them to the stages around is in decorations: a built-in variable or a location, and for some of them
how values are interpolated. `Module.Exposes` says which such variables and decorations are added to
a module. Declaring an input or output register for the first time adds one variable with its
decorations (`Generate.exposes_declareInterface`), and every other operation is *quiet*: it adds
none.
-/

namespace ShaderLowering

open Spirv (Build Capability Inst Module Op Decoration StorageClass)

variable {ε S α β : Type} [HasGenerator S]

/-! ## Instructions of an interface -/

/-- The class of the registers whose variables are in a storage class. -/
def InterfaceClass.ofStorage? (number : Word) : Option InterfaceClass :=
  [input, output].find? fun kind => kind.storage.spirvClass.number == number

theorem InterfaceClass.ofStorage?_storage (kind : InterfaceClass) :
    ofStorage? kind.storage.spirvClass.number = some kind := by
  cases kind <;> rfl

/-- The numbers of the decorations that say how values are interpolated. -/
def Spirv.Decoration.interpolations : List Word :=
  [noPerspective, flat, centroid, sample].map (·.number)

namespace Spirv.Inst

/-- The class and the id of a variable, if it is that of an input or output register. -/
def interface? (i : Inst) : Option (InterfaceClass × Word) :=
  match i.op, i.result?, i.operands with
  | .globalVariable, some id, storage :: _ => (InterfaceClass.ofStorage? storage).map (·, id)
  | _, _, _ => none

/-- The kind of a decoration. -/
def decoration? (i : Inst) : Option Word :=
  match i.op with
  | .decorate => i.operands[1]?
  | .memberDecorate => i.operands[2]?
  | _ => none

/-- Whether an instruction says how values are interpolated. -/
def isInterpolation (i : Inst) : Bool :=
  i.decoration?.any (Decoration.interpolations.contains ·)

/-- Whether an instruction connects a variable to the stages around. -/
def isConnection (i : Inst) : Bool :=
  i.decoration?.any fun number => number == Decoration.builtIn.number ||
    number == Decoration.location.number || Decoration.interpolations.contains number

theorem interface?_eq_none {i : Inst} (h : i.op ≠ .globalVariable) : i.interface? = none := by
  rw [interface?]
  split
  · next hop _ _ => exact (h hop).elim
  · rfl

theorem section_of_interface? {i : Inst} {kind : InterfaceClass} {id : Word}
    (h : i.interface? = some (kind, id)) : i.op.section = .global := by
  by_cases hop : i.op = .globalVariable
  · rw [hop]
    rfl
  · rw [interface?_eq_none hop] at h
    cases h

theorem section_of_isConnection {i : Inst} (h : i.isConnection = true) :
    i.op.section = .decoration := by
  rw [isConnection, decoration?] at h
  split at h
  · next hop => rw [hop]; rfl
  · next hop => rw [hop]; rfl
  · cases h

theorem isConnection_of_isInterpolation {i : Inst} (h : i.isInterpolation = true) :
    i.isConnection = true := by
  rw [isInterpolation, Option.any_eq_true] at h
  obtain ⟨number, hi, hnumber⟩ := h
  rw [isConnection, hi, Option.any_some, hnumber, Bool.or_true]

end Spirv.Inst

/-! ## What is exposed -/

namespace Spirv.Module

/-- The variables of input and output registers. -/
def interface (m : Module) : List (InterfaceClass × Word) :=
  m.globals.toList.filterMap Inst.interface?

/-- The decorations that connect variables to the stages around. -/
def connections (m : Module) : List Inst := m.annotations.toList.filter Inst.isConnection

/-- A module with more variables of input and output registers, and more that connects them. -/
structure Exposes (m : Module) (ids : List (InterfaceClass × Word)) (connections : List Inst)
    (m' : Module) : Prop where
  interface : m'.interface = m.interface ++ ids
  connections : m'.connections = m.connections ++ connections

variable {m m' m'' : Module} {ids ids' : List (InterfaceClass × Word)}
variable {connections connections' : List Inst}

theorem Exposes.refl (m : Module) : m.Exposes [] [] m :=
  ⟨(List.append_nil _).symm, (List.append_nil _).symm⟩

theorem Exposes.trans (h : m.Exposes ids connections m')
    (h' : m'.Exposes ids' connections' m'') :
    m.Exposes (ids ++ ids') (connections ++ connections') m'' :=
  ⟨by rw [h'.interface, h.interface, List.append_assoc],
    by rw [h'.connections, h.connections, List.append_assoc]⟩

/-- What goes unnoticed exposes nothing. -/
theorem Unnoticed.exposes (h : m.Unnoticed m') : m.Exposes [] [] m' := by
  obtain ⟨more, hglobals, hmore⟩ := h.globals
  have hnone : more.filterMap Inst.interface? = [] :=
    List.filterMap_eq_nil_iff.2 fun i hi => Inst.interface?_eq_none fun hop => by
      have hi := hmore i hi
      rw [hop] at hi
      cases hi
  constructor
  · rw [Module.interface, hglobals, List.filterMap_append, hnone]
    rfl
  · rw [Module.connections, h.annotations, List.append_nil]
    rfl

end Spirv.Module

namespace Generator

/-- A generator with more input and output registers, and more that connects their variables. -/
structure Exposes (g : Generator) (registers : List InterfaceVariable) (connections : List Inst)
    (g' : Generator) : Prop where
  stage : g'.stage = g.stage
  interfaces : g'.interfaces = g.interfaces ++ registers
  module : g.module.Exposes (registers.map fun v => (v.kind, v.variableId)) connections g'.module

variable {g g' g'' : Generator} {registers registers' : List InterfaceVariable}
variable {connections connections' : List Inst}

theorem Exposes.refl (g : Generator) : g.Exposes [] [] g :=
  ⟨rfl, (List.append_nil _).symm, .refl _⟩

theorem Exposes.trans (h : g.Exposes registers connections g')
    (h' : g'.Exposes registers' connections' g'') :
    g.Exposes (registers ++ registers') (connections ++ connections') g'' := by
  refine ⟨h'.stage.trans h.stage, ?_, ?_⟩
  · rw [h'.interfaces, h.interfaces, List.append_assoc]
  · rw [List.map_append]
    exact h.module.trans h'.module

theorem Unnoticed.exposes (h : g.Unnoticed g') : g.Exposes [] [] g' :=
  ⟨h.registers.stage, h.registers.interfaces.trans (List.append_nil _).symm, h.module.exposes⟩

end Generator

/-! ## Steps of the construction -/

namespace Spirv.Build

/-- A step that exposes nothing. -/
def Quiet (b : Build α) : Prop := ∀ m : Module, m.Exposes [] [] (b.run m).2

theorem Quiet.bind {b : Build α} {f : α → Build β} (h : Quiet b) (hf : ∀ a, Quiet (f a)) :
    Quiet (b >>= f) :=
  fun m => (h m).trans (hf _ _)

theorem Computes.quiet {b : Build α} (h : b.Computes) : Quiet b := fun m => (h.unnoticed m).exposes

theorem exposes_addGlobal (op : Op) (type? : Option Word) (operands : List Word) (m : Module) :
    let r := (addGlobal op type? operands).run m
    m.Exposes (Inst.interface? ⟨op, type?, some r.1, operands⟩).toList [] r.2 := by
  have hone (i : Inst) : [i].filterMap Inst.interface? = i.interface?.toList := by
    rw [List.filterMap_cons]
    cases i.interface? <;> rfl
  refine ⟨?_, (List.append_nil _).symm⟩
  change (m.globals.push _).toList.filterMap _ = _
  rw [Array.toList_push, List.filterMap_append, hone]
  rfl

theorem exposes_annotate (i : Inst) (m : Module) :
    m.Exposes [] ([i].filter Inst.isConnection)
      { m with annotations := m.annotations.push i } := by
  refine ⟨(List.append_nil _).symm, ?_⟩
  change (m.annotations.push _).toList.filter _ = _
  rw [Array.toList_push, List.filter_append]
  rfl

theorem quiet_addGlobal {op : Op} (hop : op ≠ .globalVariable) (type? : Option Word)
    (operands : List Word) : Quiet (addGlobal op type? operands) := by
  intro m
  have hadd := exposes_addGlobal op type? operands m
  have hnone (id : Word) : Inst.interface? ⟨op, type?, some id, operands⟩ = none :=
    Inst.interface?_eq_none hop
  simpa only [hnone, Option.toList_none] using hadd

/-- Variables in other storage classes are not those of input or output registers. -/
theorem quiet_newVariable {storage : StorageClass}
    (hstorage : InterfaceClass.ofStorage? storage.number = none) (type : Word) :
    Quiet (newVariable type storage) := by
  intro m
  have hadd := exposes_addGlobal .globalVariable (some type) [storage.number] m
  simp only [Inst.interface?, hstorage, Option.map_none, Option.toList_none] at hadd
  exact hadd

theorem exposes_newVariable (kind : InterfaceClass) (type : Word) (m : Module) :
    let r := (newVariable type kind.storage.spirvClass).run m
    m.Exposes [(kind, r.1)] [] r.2 := by
  have hadd := exposes_addGlobal .globalVariable (some type) [kind.storage.spirvClass.number] m
  simp only [Inst.interface?, kind.ofStorage?_storage, Option.map_some, Option.toList_some] at hadd
  exact hadd

theorem quiet_decorate {d : Decoration} {args : List Word}
    (h : ∀ id, (Inst.effect .decorate (id :: d.number :: args)).isConnection = false) (id : Word) :
    Quiet (decorate id d args) := by
  intro m
  have hdecorate := exposes_annotate (.effect .decorate (id :: d.number :: args)) m
  rwa [List.filter_cons_of_neg (by simp [h id]), List.filter_nil] at hdecorate

theorem exposes_decorate {d : Decoration} {args : List Word}
    (h : ∀ id, (Inst.effect .decorate (id :: d.number :: args)).isConnection = true) (id : Word)
    (m : Module) : m.Exposes [] [.effect .decorate (id :: d.number :: args)]
      ((decorate id d args).run m).2 := by
  have hdecorate := exposes_annotate (.effect .decorate (id :: d.number :: args)) m
  rwa [List.filter_cons_of_pos (h id), List.filter_nil] at hdecorate

theorem quiet_decorateMember {d : Decoration} {args : List Word} {member : Word}
    (h : ∀ id, (Inst.effect .memberDecorate (id :: member :: d.number :: args)).isConnection = false)
    (id : Word) : Quiet (decorateMember id member d args) := by
  intro m
  have hdecorate := exposes_annotate (.effect .memberDecorate (id :: member :: d.number :: args)) m
  rwa [List.filter_cons_of_neg (by simp [h id]), List.filter_nil] at hdecorate

theorem quiet_decorateBinding (id set binding : Word) : Quiet (decorateBinding id set binding) :=
  (quiet_decorate (fun _ => rfl) id).bind fun _ => quiet_decorate (fun _ => rfl) id

theorem quiet_enableCapability (c : Capability) : Quiet (enableCapability c) := by
  intro m
  change m.Exposes [] [] (if c ∈ m.capabilities then m else _)
  split <;> exact ⟨(List.append_nil _).symm, (List.append_nil _).symm⟩

theorem quiet_setName (id : Word) (text : String) : Quiet (setName id text) :=
  fun _ => ⟨(List.append_nil _).symm, (List.append_nil _).symm⟩

theorem quiet_setMemberName (id member : Word) (text : String) :
    Quiet (setMemberName id member text) :=
  fun _ => ⟨(List.append_nil _).symm, (List.append_nil _).symm⟩

theorem quiet_buildBlock (length : Word) : Quiet (Generate.buildBlock length) := by
  refine (computes_type _).quiet.bind fun element => ?_
  refine (computes_constantU32 _).quiet.bind fun number => ?_
  refine (quiet_addGlobal (by decide) _ _).bind fun array => ?_
  refine (quiet_decorate (fun _ => rfl) _).bind fun _ => ?_
  refine (quiet_addGlobal (by decide) _ _).bind fun block => ?_
  refine (quiet_decorate (fun _ => rfl) _).bind fun _ => ?_
  exact (quiet_decorateMember (fun _ => rfl) _).bind fun _ => .refl

end Spirv.Build

/-! ## Operations -/

/-- An operation that exposes nothing, whether it fails or not. -/
def Quiet (op : ExceptT ε (StateM S) α) : Prop :=
  ∀ s, (HasGenerator.generator s).Exposes [] [] (HasGenerator.generator (op.run s).2)

namespace Quiet

theorem pure (a : α) : Quiet (Pure.pure a : ExceptT ε (StateM S) α) := fun _ => .refl _

theorem throw (e : ε) : Quiet (MonadExcept.throw e : ExceptT ε (StateM S) α) := fun _ => .refl _

theorem get : Quiet (MonadState.get : ExceptT ε (StateM S) S) := fun _ => .refl _

theorem bind {op : ExceptT ε (StateM S) α} {f : α → ExceptT ε (StateM S) β} (h : Quiet op)
    (hf : ∀ a, Quiet (f a)) : Quiet (op >>= f) :=
  Respects.bind (R := fun g g' => g.Exposes [] [] g') (fun h h' => h.trans h') h hf

theorem ite {c : Prop} [Decidable c] {op op' : ExceptT ε (StateM S) α} (h : Quiet op)
    (h' : Quiet op') : Quiet (if c then op else op') := by
  split
  · exact h
  · exact h'

end Quiet

namespace Generate

theorem quiet_build {b : Build α} (h : b.Quiet) : Quiet (build b) :=
  fun g => ⟨rfl, (List.append_nil _).symm, h g.module⟩

theorem Computes.quiet {op : Generate α} (h : Computes op) : Quiet op :=
  fun g => (h.unnoticed g).exposes

theorem Stores.quiet {op : Generate Unit} (h : Stores op) : Quiet op := by
  induction h with
  | throw e => exact .throw e
  | bind h _ ih => exact .bind h.quiet ih
  | store pointer value =>
    intro g
    rw [run_body]
    exact (unnoticed_opened g).exposes.trans
      ⟨rfl, (List.append_nil _).symm, (List.append_nil _).symm, (List.append_nil _).symm⟩

/-- A return is code, and code is not part of the interface. -/
theorem quiet_ret : Quiet ret := by
  intro g
  rw [run_ret]
  exact (unnoticed_opened g).exposes.trans
    ⟨rfl, (List.append_nil _).symm, (List.append_nil _).symm, (List.append_nil _).symm⟩

theorem quiet_name (id : Word) (text : String) : Quiet (name id text) :=
  .bind .get fun _ => .ite (quiet_build (Build.quiet_setName id text)) (.pure ())

theorem quiet_newVariable {storage : StorageClass}
    (hstorage : InterfaceClass.ofStorage? storage.number = none) (type : Word) :
    Quiet (build (Build.newVariable type storage)) :=
  quiet_build (Build.quiet_newVariable hstorage type)

/-! ### Declarations of other registers -/

theorem quiet_addTemps (pointerType : Word) (first more : Nat) :
    Quiet (addTemps pointerType first more) := by
  induction more generalizing first with
  | zero => exact .pure ()
  | succ more ih =>
    refine .bind (quiet_newVariable rfl _) fun id => .bind (quiet_name _ _) fun _ => ?_
    exact .bind (fun g => ⟨rfl, (List.append_nil _).symm, .refl _⟩) fun _ => ih _

theorem quiet_declareTemps (count : Nat) : Quiet (declareTemps count) :=
  .bind (quiet_build (Build.computes_pointerTo _ _).quiet) fun _ =>
    .bind .get fun _ => quiet_addTemps _ _ _

theorem quiet_addResource (register slot id : Word) (form : ResourceForm) :
    Quiet (addResource register slot id form) :=
  .bind (quiet_build (Build.quiet_decorateBinding _ _ _)) fun _ =>
    fun _ => ⟨rfl, (List.append_nil _).symm, .refl _⟩

theorem quiet_slot (kind : ResourceClass) (register : Word) : Quiet (slot kind register) :=
  (computes_slot kind register).quiet

theorem quiet_pointerType (pointee : Word) (storage : StorageClass) :
    Quiet (build (Build.pointerType pointee storage)) :=
  quiet_build (Build.Computes.quiet (.intern rfl))

theorem quiet_declareConstantBuffer (register size : Word) :
    Quiet (declareConstantBuffer register size) := by
  refine .bind (quiet_slot _ _) fun slot => .bind .get fun g => .ite (.pure ()) ?_
  refine .bind (quiet_build (Build.quiet_buildBlock _)) fun block => ?_
  refine .bind (quiet_pointerType _ _) fun pointerType => ?_
  refine .bind (quiet_newVariable rfl _) fun id => ?_
  refine .bind (quiet_addResource _ _ _ _) fun _ => .bind (quiet_name _ _) fun _ => ?_
  refine .bind .get fun g => .ite (.bind (quiet_build ?_) fun _ => quiet_name _ _) (quiet_name _ _)
  exact Build.quiet_setMemberName _ _ _

theorem quiet_declareResource (register : Word) (dim : ResourceDim)
    (returnType : ResourceReturnType) : Quiet (declareResource register dim returnType) := by
  refine .bind (quiet_slot _ _) fun slot => ?_
  split
  · split
    · next capability? _ =>
      refine .bind .get fun g => .ite (.pure ()) ?_
      have hrest (sampled : ScalarType) (imageDim : Spirv.Dim) : Quiet (do
          let sampledType ← build sampled.build
          let imageType ← build
            (Build.imageType sampledType imageDim 0 dim.isArray dim.isMultisampled 1 .unknown)
          let pointerType ← build (Build.pointerType imageType Storage.uniformConstant.spirvClass)
          let id ← build (Build.newVariable pointerType Storage.uniformConstant.spirvClass)
          addResource register slot id (.image imageType dim sampled)
          name id s!"t{register.toNat}") := by
        refine .bind (quiet_build (Build.computes_scalar _).quiet) fun sampledType => ?_
        refine .bind (quiet_build (Build.Computes.quiet (.intern rfl))) fun imageType => ?_
        refine .bind (quiet_pointerType _ _) fun pointerType => ?_
        refine .bind (quiet_newVariable rfl _) fun id => ?_
        exact .bind (quiet_addResource _ _ _ _) fun _ => quiet_name _ _
      cases capability? with
      | none => exact hrest _ _
      | some c => exact .bind (quiet_build (Build.quiet_enableCapability c)) fun _ => hrest _ _
    · exact .throw _
  · exact .throw _

theorem quiet_declareSampler (register : Word) (mode : SamplerMode) :
    Quiet (declareSampler register mode) := by
  refine .bind (quiet_slot _ _) fun slot => .bind .get fun g => .ite (.pure ()) ?_
  refine .bind (quiet_build (Build.Computes.quiet (.bind (.intern rfl) fun _ => .intern rfl)))
    fun pointerType => ?_
  refine .bind (quiet_newVariable rfl _) fun id => ?_
  exact .bind (quiet_addResource _ _ _ _) fun _ => quiet_name _ _

theorem quiet_declareThreadGroup (x y z : Word) : Quiet (declareThreadGroup x y z) :=
  .bind .get fun _ => .ite (.throw _) fun _ => ⟨rfl, (List.append_nil _).symm, .refl _⟩

end Generate

/-! ## Input and output registers -/

/-- An input or output register as a program declares it. -/
structure InterfaceRegister where
  /-- Whether it is an input or an output register. -/
  kind : InterfaceClass
  /-- The number of the register. -/
  number : Word
  /-- The value that the pipeline provides or consumes. -/
  systemValue : SystemValue
  /-- How a value is interpolated between vertices. -/
  interpolation : InterpolationMode
  deriving DecidableEq

namespace InterfaceRegister

/-- What a register is to the pipeline: the position that a vertex shader writes, or the one that a
pixel shader reads. -/
def builtIn? (r : InterfaceRegister) (stage : EntryStage) : Option Spirv.BuiltIn :=
  match stage, r.kind, r.systemValue with
  | .vertex, .output, .position => some .position
  | .pixel, .input, .position => some .fragCoord
  | _, _, _ => none

/-- What connects the variable of a register to the stages around: the pipeline itself, or else the
location of its own number. What a pixel shader reads from a location is interpolated. -/
def connections (r : InterfaceRegister) (stage : EntryStage) (id : Word) : List Inst :=
  match r.builtIn? stage with
  | some builtIn => [.effect .decorate [id, Decoration.builtIn.number, builtIn.number]]
  | none =>
    .effect .decorate [id, Decoration.location.number, r.number] ::
      if r.kind = .input ∧ stage = .pixel then
        r.interpolation.decorations.map fun d => .effect .decorate [id, d.number]
      else []

variable {r : InterfaceRegister} {stage : EntryStage} {id : Word} {i : Inst}

/-- What connects a variable is about that variable. -/
theorem head?_of_mem_connections (h : i ∈ r.connections stage id) :
    i.operands.head? = some id := by
  rw [connections] at h
  split at h
  · rw [List.mem_singleton.1 h]
    rfl
  · rcases List.mem_cons.1 h with rfl | h
    · rfl
    · split at h
      · obtain ⟨d, -, rfl⟩ := List.mem_map.1 h
        rfl
      · cases h

/-- Only what a pixel shader reads from a location is interpolated. -/
theorem interpolated_of_mem_connections (h : i ∈ r.connections stage id)
    (hi : i.isInterpolation = true) :
    r.kind = .input ∧ stage = .pixel ∧ r.builtIn? stage = none := by
  rw [connections] at h
  split at h
  · rw [List.mem_singleton.1 h] at hi
    cases hi
  · next hnone =>
    rcases List.mem_cons.1 h with rfl | h
    · cases hi
    · split at h
      · next hpixel => exact ⟨hpixel.1, hpixel.2, hnone⟩
      · cases h

/-- The only location of a register is its number. -/
theorem eq_number_of_mem_connections {id' number : Word}
    (h : .effect .decorate [id', Decoration.location.number, number] ∈ r.connections stage id) :
    id' = id ∧ number = r.number := by
  rw [connections] at h
  split at h
  -- a built-in variable has no location
  · injection List.mem_singleton.1 h with _ _ _ hoperands
    injection hoperands with _ hoperands
    injection hoperands with hlocation
    cases hlocation
  · rcases List.mem_cons.1 h with heq | h
    · injection heq with _ _ _ hoperands
      injection hoperands with hid hoperands
      injection hoperands with _ hoperands
      injection hoperands with hnumber
      exact ⟨hid, hnumber⟩
    · split at h
      · obtain ⟨d, -, heq⟩ := List.mem_map.1 h
        injection heq with _ _ _ hoperands
        injection hoperands with _ hoperands
        injection hoperands with _ hoperands
        cases hoperands
      · cases h

end InterfaceRegister

/-- What the declaration of an input or output register does: the first one exposes the variable of
the register and what connects it, and the others nothing. -/
inductive Generator.Introduces (g : Generator) (r : InterfaceRegister) : Generator → Prop
  | first {id : Word} {g' : Generator} (new : g.interface? r.kind r.number = none)
      (exposes : g.Exposes [⟨r.kind, r.number, id⟩] (r.connections g.stage id) g') :
      Introduces g r g'
  | again (old : (g.interface? r.kind r.number).isSome) : Introduces g r g

/-- The built-in variable of an operand type is that of the class of its registers. -/
theorem EntryStage.builtIn?_eq {r : InterfaceRegister} {type : OperandType}
    (hkind : InterfaceClass.ofOperandType? type = some r.kind) (stage : EntryStage) :
    stage.builtIn? type r.systemValue = r.builtIn? stage := by
  obtain ⟨kind, number, systemValue, interpolation⟩ := r
  rw [InterfaceClass.ofOperandType?.eq_def] at hkind
  split at hkind
  · cases hkind
    cases stage <;> cases systemValue <;> rfl
  · cases hkind
    cases stage <;> cases systemValue <;> rfl
  · cases hkind

/-- A system value that cannot be expressed is as good as none. -/
theorem Generator.builtIn?_undefined {g : Generator} {type : OperandType} {v : SystemValue}
    (h : ¬g.supports type v = true) : g.stage.builtIn? type .undefined = g.stage.builtIn? type v := by
  rw [supports, Bool.or_eq_true, not_or, Option.not_isSome_iff_eq_none] at h
  -- there is no built-in variable for it, and none for no system value
  rw [h.2]
  cases g.stage <;> cases type <;> rfl

namespace Generate

/-- Interpolation adds what it says. -/
theorem exposes_decorateInterpolation (id : Word) (mode : InterpolationMode) (m : Module) :
    m.Exposes [] (mode.decorations.map fun d => .effect .decorate [id, d.number])
      ((decorateInterpolation id mode).run m).2 := by
  -- all decorations that interpolate are connections, and so none is lost
  have hmode : ∀ d ∈ mode.decorations, ∀ id,
      (Inst.effect .decorate [id, d.number]).isConnection = true := by
    intro d hd id
    cases mode <;>
      simp only [InterpolationMode.decorations, List.mem_cons, List.not_mem_nil, or_false] at hd
    all_goals rcases hd with rfl | rfl <;> rfl
  have hdecorations (m : Module) :
      m.Exposes [] (mode.decorations.map fun d => .effect .decorate [id, d.number])
        ((mode.decorations.forM fun d => Build.decorate id d []).run m).2 := by
    generalize mode.decorations = decorations at hmode
    induction decorations generalizing m with
    | nil => exact .refl m
    | cons d decorations ih =>
      exact (Build.exposes_decorate (hmode d (List.mem_cons_self ..)) id m).trans
        (ih _ fun d' hd' => hmode d' (List.mem_cons_of_mem _ hd'))
  rw [decorateInterpolation]
  split
  · exact (Build.quiet_enableCapability _ m).trans (hdecorations _)
  · exact hdecorations m

/-- A decorated variable of an interface register is named and recorded. -/
theorem exposes_recordInterface (v : InterfaceVariable) (text : String) (g : Generator) :
    ∃ g', (do
        name v.variableId text
        modify fun g => { g with interfaces := g.interfaces ++ [v] } : Generate Unit).run g =
      (.ok (), g') ∧
      g'.stage = g.stage ∧ g'.interfaces = g.interfaces ++ [v] ∧
      g.module.Exposes [] [] g'.module := by
  have hname : g.Exposes [] [] ((name v.variableId text).run g).2 := quiet_name v.variableId text g
  rw [run_bind]
  rw [run_name] at hname ⊢
  have hinterfaces := hname.interfaces.trans (List.append_nil _)
  exact ⟨_, rfl, hname.stage, congrArg (· ++ [v]) hinterfaces, hname.module⟩

/-- The first declaration of an input or output register exposes its variable and what connects
it. -/
theorem exposes_declareInterface {d : InterfaceDeclaration} {r : InterfaceRegister} {g : Generator}
    (hregion : d.region? = none) (hkind : InterfaceClass.ofOperandType? d.type = some r.kind)
    (hnumber : d.register = r.number)
    (hbuiltIn : g.stage.builtIn? d.type d.systemValue = r.builtIn? g.stage)
    (hinterpolation : d.interpolation = r.interpolation)
    (hnew : g.interface? r.kind r.number = none) :
    ∃ id g', (declareInterface d).run g = (.ok (), g') ∧
      g.Exposes [⟨r.kind, r.number, id⟩] (r.connections g.stage id) g' := by
  simp only [declareInterface, hregion, hkind, hnumber, hinterpolation, run_bind, run_get, run_build,
    hnew, Option.isSome_none, Bool.false_eq_true, if_false, hbuiltIn]
  have hpointer := (Build.computes_pointerTo .floatVector r.kind.storage).quiet g.module
  generalize (ValueType.floatVector.buildPointer r.kind.storage).run g.module = pointer at *
  obtain ⟨pointerType, m₁⟩ := pointer
  have hregister := Build.exposes_newVariable r.kind pointerType m₁
  generalize (Build.newVariable pointerType r.kind.storage.spirvClass).run m₁ = register at *
  obtain ⟨id, m₂⟩ := register
  -- whatever decorates the variable, what follows names and records it
  have hrest {m₃ : Module} {connections : List Inst} (h : m₂.Exposes [] connections m₃) :
      ∃ g', (do
        name id s!"{r.kind.letters}{r.number.toNat}"
        modify fun g => { g with interfaces := g.interfaces ++ [⟨r.kind, r.number, id⟩] } :
          Generate Unit).run { g with module := m₃ } = (.ok (), g') ∧
      g.Exposes [⟨r.kind, r.number, id⟩] connections g' := by
    obtain ⟨g', hrun, hstage, hinterfaces, hmodule⟩ := exposes_recordInterface
      ⟨r.kind, r.number, id⟩ s!"{r.kind.letters}{r.number.toNat}" { g with module := m₃ }
    have hexposes := hpointer.trans (hregister.trans (h.trans hmodule))
    simp only [List.nil_append, List.append_nil] at hexposes
    exact ⟨g', hrun, hstage, hinterfaces, hexposes⟩
  refine ⟨id, ?_⟩
  rw [InterfaceRegister.connections]
  cases r.builtIn? g.stage with
  | some builtIn => exact hrest (Build.exposes_decorate (fun _ => rfl) id m₂)
  | none =>
    have hlocation : m₂.Exposes [] [.effect .decorate [id, Decoration.location.number, r.number]]
        ((Build.decorateLocation id r.number).run m₂).2 :=
      Build.exposes_decorate (fun _ => rfl) id m₂
    dsimp only
    rw [run_bind, run_build]
    dsimp only
    split
    · rw [run_bind, run_build]
      exact hrest (hlocation.trans (exposes_decorateInterpolation id r.interpolation _))
    · exact hrest hlocation

/-- Declaring an input or output register introduces it. -/
theorem introduces_declareInterface {d : InterfaceDeclaration} {r : InterfaceRegister}
    {g : Generator} (hregion : d.region? = none)
    (hkind : InterfaceClass.ofOperandType? d.type = some r.kind) (hnumber : d.register = r.number)
    (hbuiltIn : g.stage.builtIn? d.type d.systemValue = r.builtIn? g.stage)
    (hinterpolation : d.interpolation = r.interpolation) :
    ∃ g', (declareInterface d).run g = (.ok (), g') ∧ g.Introduces r g' := by
  -- the table of the generator decides, not the module
  rcases hold : g.interface? r.kind r.number with _ | v
  · obtain ⟨id, g', hrun, hexposes⟩ :=
      exposes_declareInterface hregion hkind hnumber hbuiltIn hinterpolation hold
    exact ⟨g', hrun, .first hold hexposes⟩
  · refine ⟨g, ?_, .again (by rw [hold]; rfl)⟩
    simp only [declareInterface, hregion, hkind, hnumber, run_bind, run_get, hold,
      Option.isSome_some, if_true, run_pure]

end Generate

end ShaderLowering
