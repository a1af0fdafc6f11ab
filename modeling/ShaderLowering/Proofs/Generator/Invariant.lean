import ShaderLowering.Proofs.Spirv.Building
import ShaderLowering.Proofs.Stateful

/-!
# The invariant of the generator

`Generator.WellFormed` holds of a generator at every point of a lowering: its module is well-formed,
and behind every declared register stands a variable of the right type. `Generator.Continues` says
what an operation leaves alone: it only adds, and values of the open block can still be used.
`Keeps` puts the two together for an operation, whether it fails or not, with what its result is
good for; values and pointers are good for what `Module.HasValue` and `Module.HasPointer` say.
-/

namespace ShaderLowering

open Spirv

/-! ## Registers -/

/-- A variable of four floating-point components. -/
def IsRegisterVariable (globals : List Inst) (storage : Storage) (id : Word) : Prop :=
  ∃ pointee type, TypeId globals .floatVector pointee ∧
    PointerId globals storage.spirvClass pointee type ∧
    ⟨.globalVariable, some type, some id, [storage.spirvClass.number]⟩ ∈ globals

/-- A variable in memory of a class, with what it is a variable of. -/
def IsResourceVariable (globals : List Inst) (storage : Storage) (pointee id : Word) : Prop :=
  ∃ type, PointerId globals storage.spirvClass pointee type ∧
    ⟨.globalVariable, some type, some id, [storage.spirvClass.number]⟩ ∈ globals

/-- What the module knows of a declared resource. -/
def DeclaredResource.IsSound (globals : List Inst) (r : DeclaredResource) : Prop :=
  match r.form with
  | .constantBuffer => ∃ element array length block,
      TypeId globals .floatVector element ∧
      ⟨.typeArray, none, some array, [element, length]⟩ ∈ globals ∧
      ⟨.typeStruct, none, some block, [array]⟩ ∈ globals ∧
      IsResourceVariable globals .uniform block r.variableId
  | .image imageType dim sampled => ∃ imageDim capability? sampledType,
      dim.image? = some (imageDim, capability?) ∧ ScalarId globals sampled sampledType ∧
      ⟨.typeImage, none, some imageType, [sampledType, imageDim.number, 0,
        if dim.isArray then 1 else 0, if dim.isMultisampled then 1 else 0, 1,
        ImageFormat.unknown.number]⟩ ∈ globals ∧
      IsResourceVariable globals .uniformConstant imageType r.variableId
  | .sampler => ∃ type, Interned globals ⟨.typeSampler, none, none, []⟩ type ∧
      IsResourceVariable globals .uniformConstant type r.variableId

section

variable {globals globals' : List Inst} {id : Word}

theorem IsRegisterVariable.mono {storage : Storage} (h : IsRegisterVariable globals storage id)
    (hp : globals <+: globals') : IsRegisterVariable globals' storage id := by
  obtain ⟨pointee, type, hpointee, htype, hid⟩ := h
  exact ⟨pointee, type, hpointee.mono hp, htype.mono hp, hp.subset hid⟩

theorem IsRegisterVariable.mem_results {storage : Storage}
    (h : IsRegisterVariable globals storage id) : id ∈ results globals := by
  obtain ⟨pointee, type, -, -, hid⟩ := h
  exact mem_results_of_mem hid

theorem IsResourceVariable.mono {storage : Storage} {pointee : Word}
    (h : IsResourceVariable globals storage pointee id) (hp : globals <+: globals') :
    IsResourceVariable globals' storage pointee id := by
  obtain ⟨type, htype, hid⟩ := h
  exact ⟨type, htype.mono hp, hp.subset hid⟩

theorem IsResourceVariable.mem_results {storage : Storage} {pointee : Word}
    (h : IsResourceVariable globals storage pointee id) : id ∈ results globals := by
  obtain ⟨type, -, hid⟩ := h
  exact mem_results_of_mem hid

theorem IsResourceVariable.isRegisterVariable {storage : Storage} {pointee : Word}
    (h : IsResourceVariable globals storage pointee id)
    (hp : TypeId globals .floatVector pointee) : IsRegisterVariable globals storage id := by
  obtain ⟨type, htype, hid⟩ := h
  exact ⟨pointee, type, hp, htype, hid⟩

theorem DeclaredResource.IsSound.mono {r : DeclaredResource} (h : r.IsSound globals)
    (hp : globals <+: globals') : r.IsSound globals' := by
  obtain ⟨register, slot, variableId, form⟩ := r
  cases form with
  | constantBuffer =>
    obtain ⟨element, array, length, block, he, ha, hb, hv⟩ := h
    exact ⟨element, array, length, block, he.mono hp, hp.subset ha, hp.subset hb, hv.mono hp⟩
  | image imageType dim sampled =>
    obtain ⟨imageDim, capability?, sampledType, hd, hs, hi, hv⟩ := h
    exact ⟨imageDim, capability?, sampledType, hd, hs.mono hp, hp.subset hi, hv.mono hp⟩
  | sampler =>
    obtain ⟨type, ht, hv⟩ := h
    exact ⟨type, ht.mono hp, hv.mono hp⟩

theorem DeclaredResource.IsSound.mem_results {r : DeclaredResource} (h : r.IsSound globals) :
    r.variableId ∈ results globals := by
  obtain ⟨register, slot, variableId, form⟩ := r
  cases form with
  | constantBuffer =>
    obtain ⟨element, array, length, block, -, -, -, hv⟩ := h
    exact hv.mem_results
  | image imageType dim sampled =>
    obtain ⟨imageDim, capability?, sampledType, -, -, -, hv⟩ := h
    exact hv.mem_results
  | sampler =>
    obtain ⟨type, -, hv⟩ := h
    exact hv.mem_results

end

/-! ## Generators -/

namespace Generator

/-- The ids of the variables of all declared registers. -/
def variableIds (g : Generator) : List Word :=
  g.temps.toList ++ (g.interfaceIds ++ g.resources.map (·.variableId))

/-- What holds of a generator at every point of a lowering. -/
structure WellFormed (g : Generator) : Prop where
  module : g.module.WellFormed
  /-- The generator knows whether a block is open. -/
  blockOpen : g.blockOpen = (openBlock g.module.body.toList).isSome
  /-- The entry point is a function. -/
  entryPoint : g.entryPoint ∈ results g.module.body.toList
  temps : ∀ id ∈ g.temps.toList, IsRegisterVariable g.module.globals.toList .temporary id
  interfaces : ∀ v ∈ g.interfaces,
    IsRegisterVariable g.module.globals.toList v.kind.storage v.variableId
  resources : ∀ r ∈ g.resources, r.IsSound g.module.globals.toList
  /-- Registers have variables of their own. -/
  distinct : g.module.bound < UInt32.size → g.variableIds.Nodup

/-- What an operation adds to. -/
structure Grows (g g' : Generator) : Prop where
  module : g.module.Grows g'.module
  fixed : g'.stage = g.stage ∧ g'.entryName = g.entryName ∧ g'.debugNames = g.debugNames ∧
    g'.entryPoint = g.entryPoint
  temps : g.temps.toList <+: g'.temps.toList
  interfaces : g.interfaces <+: g'.interfaces
  resources : g.resources <+: g'.resources

/-- What an operation adds to while the open block stays open. -/
structure Continues (g g' : Generator) : Prop extends Grows g g' where
  continues : g.module.Continues g'.module

section

variable {g g' g'' : Generator}

theorem Grows.refl (g : Generator) : g.Grows g :=
  ⟨.refl _, ⟨rfl, rfl, rfl, rfl⟩, List.prefix_rfl, List.prefix_rfl, List.prefix_rfl⟩

theorem Grows.trans (h : g.Grows g') (h' : g'.Grows g'') : g.Grows g'' := by
  obtain ⟨hstage, hname, hdebug, hentry⟩ := h.fixed
  obtain ⟨hstage', hname', hdebug', hentry'⟩ := h'.fixed
  exact ⟨h.module.trans h'.module, ⟨hstage'.trans hstage, hname'.trans hname,
    hdebug'.trans hdebug, hentry'.trans hentry⟩, h.temps.trans h'.temps,
    h.interfaces.trans h'.interfaces, h.resources.trans h'.resources⟩

theorem Continues.refl (g : Generator) : g.Continues g := ⟨.refl g, .refl _⟩

theorem Continues.trans (h : g.Continues g') (h' : g'.Continues g'') : g.Continues g'' :=
  ⟨h.toGrows.trans h'.toGrows, h.continues.trans h'.continues⟩

/-- The variables of registers are variables of the module. -/
theorem WellFormed.variableIds_subset (h : g.WellFormed) :
    g.variableIds ⊆ results g.module.globals.toList := by
  intro id hid
  simp only [variableIds, interfaceIds, List.mem_append, List.mem_map] at hid
  rcases hid with hid | ⟨v, hv, rfl⟩ | ⟨r, hr, rfl⟩
  · exact (h.temps id hid).mem_results
  · exact (h.interfaces v hv).mem_results
  · exact (h.resources r hr).mem_results

/-- A well-formed generator with another module that goes on from its module. -/
theorem WellFormed.withModule (h : g.WellFormed) {m : Module} (hm : m.WellFormed)
    (hc : g.module.Continues m)
    (ho : (openBlock m.body.toList).isSome = (openBlock g.module.body.toList).isSome) :
    { g with module := m }.WellFormed ∧ g.Continues { g with module := m } := by
  refine ⟨⟨hm, h.blockOpen.trans ho.symm, results_subset hc.body.subset h.entryPoint,
    fun id hid => (h.temps id hid).mono hc.globals,
    fun v hv => (h.interfaces v hv).mono hc.globals,
    fun r hr => (h.resources r hr).mono hc.globals,
    fun hfit => h.distinct (Nat.lt_of_le_of_lt hc.bound hfit)⟩,
    ⟨⟨hc.toGrows, ⟨rfl, rfl, rfl, rfl⟩, List.prefix_rfl, List.prefix_rfl, List.prefix_rfl⟩, hc⟩⟩

end

end Generator

/-- The generator with an open block. -/
def Generator.opened (g : Generator) : Generator :=
  if g.blockOpen then g
  else { g with module := g.module.withResult .label none [], blockOpen := true }

theorem Generate.run_openBlock (g : Generator) : openBlock.run g = (.ok (), g.opened) := by
  simp only [openBlock, run_bind, run_get, Generator.opened]
  split <;> rfl

/-- Opening a block keeps the generator well-formed. -/
theorem Generator.WellFormed.opened {g : Generator} (hg : g.WellFormed) :
    g.Continues g.opened ∧ g.opened.WellFormed ∧ g.opened.blockOpen = true := by
  rw [Generator.opened]
  split
  · next ho => exact ⟨.refl g, hg, ho⟩
  · next ho =>
    have hnone : openBlock g.module.body.toList = none := by
      rwa [← Option.not_isSome_iff_eq_none, ← hg.blockOpen]
    have hbody : (g.module.withResult .label none []).body.toList =
        g.module.body.toList ++ [⟨.label, none, some (UInt32.ofNat g.module.bound), []⟩] :=
      Array.toList_push ..
    have hgrows := g.module.grows_withResult .label none []
    have hblock : g.module.Continues (g.module.withResult .label none []) :=
      ⟨hgrows, fun ho => by rw [hnone] at ho; cases ho⟩
    have hm : (g.module.withResult .label none []).WellFormed :=
      hg.module.withResult (fun _ => hg.module.body.concat_label hnone rfl) fun _ => .label
    refine ⟨⟨⟨hgrows, ⟨rfl, rfl, rfl, rfl⟩, List.prefix_rfl, List.prefix_rfl, List.prefix_rfl⟩,
      hblock⟩, ⟨hm, ?_, results_subset hgrows.body.subset hg.entryPoint,
        fun id hid => (hg.temps id hid).mono hgrows.globals,
        fun v hv => (hg.interfaces v hv).mono hgrows.globals,
        fun r hr => (hg.resources r hr).mono hgrows.globals,
        fun hfit => hg.distinct (Nat.lt_of_le_of_lt hgrows.bound hfit)⟩, rfl⟩
    rw [hbody, openBlock_concat_label rfl]
    rfl

/-! ## Values and pointers -/

namespace Spirv.Module

variable {m m' : Module} {v : Value} {p : Pointer}

/-- A value that the next instruction can use: its id has its type, of one to four components. -/
structure HasValue (m : Module) (v : Value) : Prop where
  positive : 1 ≤ v.type.count
  atMostFour : v.type.count ≤ 4
  type : ∃ t, TypeId m.globals.toList v.type t ∧ Has m.known m.block v.id t

/-- A pointer that the next instruction can use, to four floating-point components. -/
structure HasPointer (m : Module) (p : Pointer) : Prop where
  value : p.value = .floatVector
  type : ∃ t, TypeId m.globals.toList p.value t ∧
    PointsTo m.known m.block p.id p.storage.spirvClass t

theorem HasValue.mono (h : m.HasValue v) (hc : m.Continues m') : m'.HasValue v := by
  obtain ⟨t, ht, hid⟩ := h.type
  exact ⟨h.positive, h.atMostFour, t, ht.mono hc.globals, hid.mono hc.known hc.block_subset⟩

theorem HasPointer.mono (h : m.HasPointer p) (hc : m.Continues m') : m'.HasPointer p := by
  obtain ⟨t, ht, hid⟩ := h.type
  exact ⟨h.value, t, ht.mono hc.globals, hid.mono hc.known hc.block_subset⟩

/-- The type of a value, found by interning it again. -/
theorem HasValue.has {t : Word} (h : m.HasValue v) (ht : TypeId m.globals.toList v.type t) :
    Has m.known m.block v.id t := by
  obtain ⟨t', ht', hid⟩ := h.type
  rwa [ht.unique ht']

theorem HasPointer.pointsTo {t : Word} (h : m.HasPointer p)
    (ht : TypeId m.globals.toList p.value t) :
    PointsTo m.known m.block p.id p.storage.spirvClass t := by
  obtain ⟨t', ht', hid⟩ := h.type
  rwa [ht.unique ht']

end Spirv.Module

/-! ## Operations -/

variable {ε S α β : Type} [HasGenerator S]

/-- An operation keeps the generator well-formed and goes on from it, and its result, if it has one,
has a property. -/
structure Keeps (s : S) (op : ExceptT ε (StateM S) α) (Q : α → Generator → Prop) : Prop where
  continues : (HasGenerator.generator s).Continues (HasGenerator.generator (op.run s).2)
  wellFormed : (HasGenerator.generator (op.run s).2).WellFormed
  result : ∀ a, (op.run s).1 = .ok a → Q a (HasGenerator.generator (op.run s).2)

namespace Keeps

variable {s : S} {op : ExceptT ε (StateM S) α} {f : α → ExceptT ε (StateM S) β}
variable {Q Q' : α → Generator → Prop} {R : β → Generator → Prop}

theorem pure {a : α} (hs : (HasGenerator.generator s).WellFormed)
    (h : Q a (HasGenerator.generator s)) : Keeps s (Pure.pure a : ExceptT ε (StateM S) α) Q := by
  refine ⟨.refl _, hs, fun b hb => ?_⟩
  cases hb
  exact h

theorem throw {e : ε} (hs : (HasGenerator.generator s).WellFormed) :
    Keeps s (MonadExcept.throw e : ExceptT ε (StateM S) α) Q :=
  ⟨.refl _, hs, fun _ hb => by cases hb⟩

/-- Operations that keep the generator well-formed make up sequences that do. -/
theorem bind (h : Keeps s op Q)
    (hf : ∀ a s', (HasGenerator.generator s).Continues (HasGenerator.generator s') →
      (HasGenerator.generator s').WellFormed → Q a (HasGenerator.generator s') →
      Keeps s' (f a) R) : Keeps s (op >>= f) R := by
  obtain ⟨hc, hw, hr⟩ := h
  rcases hop : op.run s with ⟨e | a, s'⟩
  · have hrun : (op >>= f).run s = (.error e, s') := by rw [run_bind, hop]
    rw [hop] at hc hw
    refine ⟨?_, ?_, fun b hb => ?_⟩
    · rw [hrun]
      exact hc
    · rw [hrun]
      exact hw
    · rw [hrun] at hb
      cases hb
  · have hrun : (op >>= f).run s = (f a).run s' := by rw [run_bind, hop]
    rw [hop] at hc hw hr
    obtain ⟨hc', hw', hr'⟩ := hf a s' hc hw (hr a rfl)
    refine ⟨?_, ?_, fun b hb => ?_⟩
    · rw [hrun]
      exact hc.trans hc'
    · rw [hrun]
      exact hw'
    · rw [hrun] at hb ⊢
      exact hr' b hb

theorem imp (h : Keeps s op Q) (hQ : ∀ a g, Q a g → Q' a g) : Keeps s op Q' :=
  ⟨h.continues, h.wellFormed, fun a ha => hQ a _ (h.result a ha)⟩

/-- What an operation that succeeds has come to. -/
theorem of_run {a : α} {s' : S} (h : Keeps s op Q) (hrun : op.run s = (.ok a, s')) :
    (HasGenerator.generator s).Continues (HasGenerator.generator s') ∧
      (HasGenerator.generator s').WellFormed ∧ Q a (HasGenerator.generator s') := by
  obtain ⟨hc, hw, hQ⟩ := h
  have hresult := hQ a (by rw [hrun])
  rw [hrun] at hc hw hresult
  exact ⟨hc, hw, hresult⟩

/-- What is made of a result alone leaves the state as it is. -/
theorem bind_pure {f : α → β} (h : Keeps s op Q) (hQ : ∀ a g, Q a g → R (f a) g) :
    Keeps s (op >>= fun a => Pure.pure (f a)) R :=
  h.bind fun a _ _ hs ha => .pure hs (hQ a _ ha)

/-- Reading the state changes nothing. -/
theorem get_bind {f : S → ExceptT ε (StateM S) β} (h : Keeps s (f s) R) :
    Keeps s (get >>= f) R := by
  have hrun : (get >>= f).run s = (f s).run s := by rw [run_bind, run_get]
  refine ⟨?_, ?_, fun a ha => ?_⟩
  · rw [hrun]
    exact h.continues
  · rw [hrun]
    exact h.wellFormed
  · rw [hrun] at ha ⊢
    exact h.result a ha

end Keeps

namespace Generate

variable {g : Generator} {Q : α → Generator → Prop}

theorem keeps_missing {feature : MissingFeature} (hg : g.WellFormed) :
    Keeps g (missing feature : Generate α) Q := .throw hg

theorem keeps_fault {f : GeneratorFault} (hg : g.WellFormed) :
    Keeps g (fault f : Generate α) Q := .throw hg

/-- A step of the construction of the module. -/
theorem keeps_build {b : Build α} {P : α → Module → Prop} (hg : g.WellFormed)
    (h : Builds g.module b P) : Keeps g (build b) fun a g' => P a g'.module := by
  obtain ⟨hw, hc⟩ := hg.withModule h.wellFormed h.continues h.opened
  refine ⟨hc, hw, fun a ha => ?_⟩
  cases ha
  exact h.result

/-- After opening a block, one is open. -/
theorem keeps_openBlock (hg : g.WellFormed) :
    Keeps g openBlock fun _ g' => g'.blockOpen = true := by
  obtain ⟨hc, hw, ho⟩ := hg.opened
  refine ⟨?_, ?_, fun a _ => ?_⟩ <;> rw [run_openBlock]
  · exact hc
  · exact hw
  · exact ho

/-- Adding to the body, where a block is open by then. -/
theorem keeps_body {b : Build α} {P : α → Module → Prop} (hg : g.WellFormed)
    (h : ∀ m, g.module.Continues m → m.WellFormed → (Spirv.openBlock m.body.toList).isSome →
      Builds m b P) : Keeps g (body b) fun a g' => P a g'.module :=
  (keeps_openBlock hg).bind fun _ _ hc hg' ho =>
    keeps_build hg' (h _ hc.continues hg'.module (hg'.blockOpen ▸ ho))

/-- A value is emitted: the instruction is typed once the id of its type is known. -/
theorem keeps_emit {op : Spirv.Op} {type : ValueType} {operands : List Word} (hg : g.WellFormed)
    (hpos : 1 ≤ type.count) (hfour : type.count ≤ 4)
    (hi : ∀ t id, Inst.IsInner ⟨op, some t, some id, operands⟩)
    (ht : ∀ m t id, g.module.Continues m → TypeId m.globals.toList type t →
      IsType m.known type t → Typed m.known m.block ⟨op, some t, some id, operands⟩) :
    Keeps g (emit op type operands) fun v g' => v.type = type ∧ g'.module.HasValue v := by
  refine (keeps_build hg (Build.declares_type hg.module type).builds).bind fun t g' hc hg' hty => ?_
  refine (keeps_body (P := fun id m => TypeId m.globals.toList type t ∧ Has m.known m.block id t)
    hg' fun m hm hmw ho => ?_).bind fun id g'' _ hg'' hid => ?_
  · have hty' := TypeId.mono hty hm.globals
    have hemit := Build.builds_emitValue hmw ho (fun id => hi t id) fun id =>
      ht m t id (hc.continues.trans hm) hty'
        (hty'.isType m.globals_subset_known hpos hfour)
    exact ⟨hemit.continues, hemit.opened, hemit.wellFormed,
      hty'.mono hemit.continues.globals, hemit.result⟩
  · exact .pure hg'' ⟨rfl, hpos, hfour, t, hid⟩

end Generate

end ShaderLowering
