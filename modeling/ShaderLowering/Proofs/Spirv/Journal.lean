import ShaderLowering.Proofs.Spirv.Framing
import ShaderLowering.Proofs.Spirv.Ids

/-!
# A module as the record of its calls

Whoever builds a module calls operations in any order, and each call sees to it that its
instructions end up in their sections. A `Journal` does without sections: it is one list, to which
every call adds its instructions at the end. Both are kept in step (`Journal.Mirrors`), so the code
of a module is what the journal lists, sorted by section (`Module.code_ofCalls`): nothing is lost,
cut or merged, and sorting keeps the order within each section.
-/

namespace ShaderLowering.Spirv

/-! ## Sorting -/

namespace Section

/-- The sections in the order of a finished module. -/
def order : List Section :=
  [capability, importing, memory, entry, mode, name, decoration, global, code]

/-- What a section holds of instructions that are added one after the other: a memory model takes
the place of the one before, all else is kept. -/
def contents (s : Section) (insts : List Inst) : List Inst :=
  let own := insts.filter (·.op.section = s)
  if s = memory then own.getLast?.toList else own

/-- How a section changes when an instruction is added. -/
def added (s : Section) (i : Inst) (before : List Inst) : List Inst :=
  if i.op.section = s then if s = memory then [i] else before ++ [i] else before

theorem contents_concat (s : Section) (insts : List Inst) (i : Inst) :
    s.contents (insts ++ [i]) = s.added i (s.contents insts) := by
  by_cases hi : i.op.section = s
  · by_cases hs : s = memory <;> simp [contents, added, hi, hs]
  · simp [contents, added, hi]

theorem contents_of_ne {s : Section} (h : s ≠ memory) (insts : List Inst) :
    s.contents insts = insts.filter (·.op.section = s) :=
  if_neg h

theorem contents_subset (s : Section) (insts : List Inst) : s.contents insts ⊆ insts := by
  intro i hi
  by_cases hs : s = memory
  · rw [contents, if_pos hs, Option.mem_toList] at hi
    exact List.mem_of_mem_filter (List.mem_of_getLast? hi)
  · rw [contents_of_ne hs] at hi
    exact List.mem_of_mem_filter hi

end Section

/-- Instructions sorted by section. -/
def arranged (insts : List Inst) : List Inst := Section.order.flatMap (·.contents insts)

theorem arranged_subset (insts : List Inst) : arranged insts ⊆ insts := by
  intro i hi
  obtain ⟨s, -, hs⟩ := List.mem_flatMap.1 hi
  exact s.contents_subset insts hs

/-- Sorting keeps every instruction that is no memory model, as often as it is there. -/
theorem count_arranged {i : Inst} (h : i.op.section ≠ .memory) (insts : List Inst) :
    (arranged insts).count i = insts.count i := by
  have hcount (s : Section) :
      (s.contents insts).count i = if i.op.section = s then insts.count i else 0 := by
    by_cases hs : s = .memory
    · subst hs
      -- the section holds memory models only, and `i` is none
      rw [if_neg h]
      refine List.count_eq_zero.2 fun hi => h ?_
      rw [Section.contents, if_pos rfl, Option.mem_toList] at hi
      simpa using List.of_mem_filter (List.mem_of_getLast? hi)
    · rw [Section.contents_of_ne hs]
      split
      · next heq => exact List.count_filter (by simpa using heq)
      · next hne =>
        exact List.count_eq_zero.2 fun hi => hne (by simpa using List.of_mem_filter hi)
  simp only [arranged, Section.order, List.flatMap_cons, List.flatMap_nil, List.append_nil,
    List.count_append, hcount]
  -- one of the sections is that of `i`, and the others hold nothing of it
  cases i.op.section <;> simp

namespace Module

/-- The instructions of a section of a module. -/
def contents (m : Module) : Section → List Inst
  | .capability => m.capabilities.toList.map fun c => .effect .capability [c.number]
  | .importing => m.imports
  | .memory => [.effect .memoryModel [m.memory.1.number, m.memory.2.number]]
  | .entry => m.entryPoints.toList
  | .mode => m.executionModes.toList
  | .name => m.names.toList
  | .decoration => m.annotations.toList
  | .global => m.globals.toList
  | .code => m.body.toList

theorem instructions_eq (m : Module) : m.instructions = Section.order.flatMap m.contents := by
  simp [instructions, Section.order, contents]

end Module

/-! ## Journals -/

/-- The instructions that calls have added, in the order of the calls. -/
structure Journal where
  /-- The next new id. -/
  nextId : Nat
  /-- The instructions. -/
  entries : List Inst

namespace Journal

/-- The journal of a new module, which has a memory model. -/
def start : Journal where
  nextId := 1
  entries := [.effect .memoryModel [AddressingModel.logical.number, MemoryModel.glsl450.number]]

/-- A new id. -/
def newId : StateM Journal Word :=
  modifyGet fun j => (UInt32.ofNat j.nextId, { j with nextId := j.nextId + 1 })

/-- Adds an instruction. -/
def add (i : Inst) : StateM Journal Unit := modify fun j => { j with entries := j.entries ++ [i] }

/-- Adds an instruction that is not there yet. -/
def addOnce (i : Inst) : StateM Journal Unit :=
  modify fun j => if i ∈ j.entries then j else { j with entries := j.entries ++ [i] }

/-- Adds an instruction with a new result. -/
def addValue (op : Op) (type? : Option Word) (operands : List Word) : StateM Journal Word := do
  let id ← newId
  add ⟨op, type?, some id, operands⟩
  return id

/-- The result of the same instruction as before, or of a new one. -/
def intern (op : Op) (type? : Option Word) (operands : List Word) : StateM Journal Word := do
  let wanted : Inst := ⟨op, type?, none, operands⟩
  match (← get).entries.find? wanted.sameExpression with
  | some ⟨_, _, some id, _⟩ => return id
  | _ => addValue op type? operands

end Journal

/-! ## Calls -/

/-- A call of an operation that builds a module. Calls that only look at the module are left out. -/
inductive Call where
  /-- Takes a new id. -/
  | newId
  /-- Asks for a feature. -/
  | enableCapability (c : Capability)
  /-- Asks for the extended instruction set. -/
  | importGlsl
  /-- Sets the memory model. -/
  | setMemoryModel (addressing : AddressingModel) (memory : MemoryModel)
  /-- Adds an entry point. -/
  | addEntryPoint (model : ExecutionModel) (function : Word) (name : String)
    (interfaces : List Word)
  /-- Sets a mode of an entry point. -/
  | setExecutionMode (entry : Word) (mode : ExecutionMode) (args : List Word)
  /-- Names an id. -/
  | setName (id : Word) (name : String)
  /-- Names a member of a struct. -/
  | setMemberName (id member : Word) (name : String)
  /-- Decorates an id. -/
  | decorate (id : Word) (decoration : Decoration) (args : List Word)
  /-- Decorates a member of a struct. -/
  | decorateMember (id member : Word) (decoration : Decoration) (args : List Word)
  /-- Ties a variable to one of the pipeline. -/
  | decorateBuiltIn (id : Word) (builtIn : BuiltIn)
  /-- Ties a variable to a location. -/
  | decorateLocation (id location : Word)
  /-- Ties a variable to a binding of a descriptor set. -/
  | decorateBinding (id set binding : Word)
  /-- Asks for the type without values. -/
  | voidType
  /-- Asks for the type of truth values. -/
  | boolType
  /-- Asks for a type of integers. -/
  | intType (width : Word) (signed : Bool)
  /-- Asks for a type of floating-point numbers. -/
  | floatType (width : Word)
  /-- Asks for a type of vectors. -/
  | vectorType (component count : Word)
  /-- Asks for a type of pointers. -/
  | pointerType (pointee : Word) (storage : StorageClass)
  /-- Asks for a type of functions. -/
  | functionType (result : Word) (params : List Word)
  /-- Adds a type of arrays. -/
  | newArrayType (element length : Word)
  /-- Adds a type of structs. -/
  | newStructType (members : List Word)
  /-- Asks for a type of images. -/
  | imageType (sampledType : Word) (dim : Dim) (depth : Word) (arrayed multisampled : Bool)
    (sampled : Word) (format : ImageFormat)
  /-- Asks for the type of samplers. -/
  | samplerType
  /-- Asks for the type of an image together with a sampler. -/
  | sampledImageType (image : Word)
  /-- Asks for a constant of a scalar type. -/
  | constant (type bits : Word)
  /-- Asks for an unsigned constant. -/
  | constantU32 (value : Word)
  /-- Asks for a signed constant. -/
  | constantI32 (bits : Word)
  /-- Asks for a constant floating-point number. -/
  | constantF32 (bits : Word)
  /-- Asks for a constant of a composite type. -/
  | constantComposite (type : Word) (parts : List Word)
  /-- Adds a variable. -/
  | newVariable (type : Word) (storage : StorageClass)
  /-- Starts a function. -/
  | beginFunction (result id type : Word) (control : FunctionControl)
  /-- Ends a function. -/
  | endFunction
  /-- Starts a block. -/
  | emitLabel (id : Word)
  /-- Returns. -/
  | emitReturn
  /-- Stores through a pointer. -/
  | emitStore (pointer value : Word)
  /-- Adds code with a result: loads, access chains, arithmetic and the like. -/
  | emitValue (op : Op) (isCode : op.section = .code) (type : Word) (operands : List Word)
  /-- Applies an extended instruction. -/
  | emitGlsl (type : Word) (op : GlslOp) (args : List Word)
  /-- Samples an image at a level of detail. -/
  | emitSampleLod (type sampledImage coordinate lod : Word)

namespace Call

/-- What a call does to a module. -/
def run : Call → Build Unit
  | newId => discard <| Build.newId
  | enableCapability c => Build.enableCapability c
  | importGlsl => discard <| Build.importGlsl
  | setMemoryModel addressing memory => Build.setMemoryModel addressing memory
  | addEntryPoint model function name interfaces =>
    Build.addEntryPoint model function name interfaces
  | setExecutionMode entry mode args => Build.setExecutionMode entry mode args
  | setName id name => Build.setName id name
  | setMemberName id member name => Build.setMemberName id member name
  | decorate id decoration args => Build.decorate id decoration args
  | decorateMember id member decoration args => Build.decorateMember id member decoration args
  | decorateBuiltIn id builtIn => Build.decorateBuiltIn id builtIn
  | decorateLocation id location => Build.decorateLocation id location
  | decorateBinding id set binding => Build.decorateBinding id set binding
  | voidType => discard <| Build.voidType
  | boolType => discard <| Build.boolType
  | intType width signed => discard <| Build.intType width signed
  | floatType width => discard <| Build.floatType width
  | vectorType component count => discard <| Build.vectorType component count
  | pointerType pointee storage => discard <| Build.pointerType pointee storage
  | functionType result params => discard <| Build.functionType result params
  | newArrayType element length => discard <| Build.newArrayType element length
  | newStructType members => discard <| Build.newStructType members
  | imageType sampledType dim depth arrayed multisampled sampled format =>
    discard <| Build.imageType sampledType dim depth arrayed multisampled sampled format
  | samplerType => discard <| Build.samplerType
  | sampledImageType image => discard <| Build.sampledImageType image
  | constant type bits => discard <| Build.constant type bits
  | constantU32 value => discard <| Build.constantU32 value
  | constantI32 bits => discard <| Build.constantI32 bits
  | constantF32 bits => discard <| Build.constantF32 bits
  | constantComposite type parts => discard <| Build.constantComposite type parts
  | newVariable type storage => discard <| Build.newVariable type storage
  | beginFunction result id type control => Build.beginFunction result id type control
  | endFunction => Build.endFunction
  | emitLabel id => Build.emitLabel id
  | emitReturn => Build.emitReturn
  | emitStore pointer value => Build.emitStore pointer value
  | emitValue op _ type operands => discard <| Build.emitValue op type operands
  | emitGlsl type op args => discard <| Build.emitGlsl type op args
  | emitSampleLod type sampledImage coordinate lod =>
    discard <| Build.emitSampleLod type sampledImage coordinate lod

open Journal in
/-- What a call adds to a journal. -/
def record : Call → StateM Journal Unit
  | newId => discard <| Journal.newId
  | enableCapability c => addOnce (.effect .capability [c.number])
  | importGlsl => discard <| intern .extInstImport none (stringWords Module.glslName)
  | setMemoryModel addressing memory =>
    add (.effect .memoryModel [addressing.number, memory.number])
  | addEntryPoint model function name interfaces =>
    add (.effect .entryPoint (model.number :: function :: (stringWords name ++ interfaces)))
  | setExecutionMode entry mode args =>
    add (.effect .executionMode (entry :: mode.number :: args))
  | setName id name => add (.effect .name (id :: stringWords name))
  | setMemberName id member name =>
    add (.effect .memberName (id :: member :: stringWords name))
  | decorate id decoration args => add (.effect .decorate (id :: decoration.number :: args))
  | decorateMember id member decoration args =>
    add (.effect .memberDecorate (id :: member :: decoration.number :: args))
  | decorateBuiltIn id builtIn =>
    add (.effect .decorate [id, Decoration.builtIn.number, builtIn.number])
  | decorateLocation id location =>
    add (.effect .decorate [id, Decoration.location.number, location])
  | decorateBinding id set binding => do
    add (.effect .decorate [id, Decoration.descriptorSet.number, set])
    add (.effect .decorate [id, Decoration.binding.number, binding])
  | voidType => discard <| intern .typeVoid none []
  | boolType => discard <| intern .typeBool none []
  | intType width signed => discard <| intern .typeInt none [width, if signed then 1 else 0]
  | floatType width => discard <| intern .typeFloat none [width]
  | vectorType component count => discard <| intern .typeVector none [component, count]
  | pointerType pointee storage => discard <| intern .typePointer none [storage.number, pointee]
  | functionType result params => discard <| intern .typeFunction none (result :: params)
  | newArrayType element length => discard <| addValue .typeArray none [element, length]
  | newStructType members => discard <| addValue .typeStruct none members
  | imageType sampledType dim depth arrayed multisampled sampled format =>
    discard <| intern .typeImage none
      [sampledType, dim.number, depth, if arrayed then 1 else 0, if multisampled then 1 else 0,
       sampled, format.number]
  | samplerType => discard <| intern .typeSampler none []
  | sampledImageType image => discard <| intern .typeSampledImage none [image]
  | constant type bits => discard <| intern .constant (some type) [bits]
  | constantU32 value => do
    let type ← intern .typeInt none [32, 0]
    discard <| intern .constant (some type) [value]
  | constantI32 bits => do
    let type ← intern .typeInt none [32, 1]
    discard <| intern .constant (some type) [bits]
  | constantF32 bits => do
    let type ← intern .typeFloat none [32]
    discard <| intern .constant (some type) [bits]
  | constantComposite type parts => discard <| intern .constantComposite (some type) parts
  | newVariable type storage => discard <| addValue .globalVariable (some type) [storage.number]
  | beginFunction result id type control =>
    add ⟨.function, some result, some id, [control.bits, type]⟩
  | endFunction => add (.effect .functionEnd [])
  | emitLabel id => add ⟨.label, none, some id, []⟩
  | emitReturn => add (.effect .functionReturn [])
  | emitStore pointer value => add (.effect .store [pointer, value])
  | emitValue op _ type operands => discard <| addValue op (some type) operands
  | emitGlsl type op args => do
    let set ← intern .extInstImport none (stringWords Module.glslName)
    discard <| addValue .extInst (some type) (set :: op.number :: args)
  | emitSampleLod type sampledImage coordinate lod =>
    discard <| addValue .imageSampleExplicitLod (some type)
      [sampledImage, coordinate, ImageOperands.lod.bits, lod]

end Call

/-- The module that calls build. -/
def Module.ofCalls (calls : List Call) : Module :=
  calls.foldl (fun m c => (c.run.run m).2) .empty

/-- The journal that calls write. -/
def Journal.ofCalls (calls : List Call) : Journal :=
  calls.foldl (fun j c => (c.record.run j).2) .start

/-! ## A module and its journal -/

namespace Journal

/-- A module is what its journal says: each section holds its instructions in their order, and each
capability is there once. -/
structure Describes (j : Journal) (m : Module) : Prop where
  bound : m.bound = j.nextId
  contents : ∀ s, m.contents s = s.contents j.entries
  once : (Section.capability.contents j.entries).Nodup

theorem describes_start : start.Describes .empty where
  bound := rfl
  contents := fun s => by cases s <;> rfl
  once := List.nodup_nil

namespace Describes

variable {j : Journal} {m : Module}

/-- The instructions of a module are those of its journal, sorted. -/
theorem instructions_eq (h : j.Describes m) : m.instructions = arranged j.entries := by
  rw [Module.instructions_eq, arranged, funext h.contents]

/-- An instruction is added, a capability only where it is new. -/
theorem add {m' : Module} {i : Inst} (h : j.Describes m)
    (hi : i.op.section = .capability → i ∉ j.entries) (hbound : m'.bound = m.bound)
    (hcontents : ∀ s, m'.contents s = s.added i (m.contents s)) :
    ((add i).run j).2.Describes m' where
  bound := hbound.trans h.bound
  contents := fun s => (hcontents s).trans (by
    rw [h.contents, ← Section.contents_concat]
    rfl)
  once := by
    -- the section of the capabilities grows by `i`, which is new, or not at all
    refine Eq.subst (motive := List.Nodup) (Section.contents_concat ..).symm ?_
    rw [Section.added]
    split
    next hsection =>
      rw [if_neg (by decide), List.nodup_append]
      refine ⟨h.once, by simp, fun k hk l hl hkl => hi hsection ?_⟩
      rw [← List.mem_singleton.1 hl, ← hkl]
      exact Section.contents_subset _ _ hk
    · exact h.once

end Describes

/-- Two ways to do something that keep modules and journals in step and give the same. -/
def Mirrors {α : Type} (b : Build α) (r : StateM Journal α) : Prop :=
  ∀ m j, Describes j m → (b.run m).1 = (r.run j).1 ∧ (r.run j).2.Describes (b.run m).2

section Mirrors

variable {α β : Type}

theorem mirrors_pure (a : α) : Mirrors (pure a) (pure a) := fun _ _ h => ⟨rfl, h⟩

theorem Mirrors.bind {b : Build α} {r : StateM Journal α} {f : α → Build β}
    {g : α → StateM Journal β} (h : Mirrors b r) (hf : ∀ a, Mirrors (f a) (g a)) :
    Mirrors (b >>= f) (r >>= g) := by
  intro m j hj
  obtain ⟨heq, hdescribes⟩ := h m j hj
  have hrest := hf (b.run m).1 _ _ hdescribes
  change ((f (b.run m).1).run (b.run m).2).1 = ((g (r.run j).1).run (r.run j).2).1 ∧
    ((g (r.run j).1).run (r.run j).2).2.Describes ((f (b.run m).1).run (b.run m).2).2
  rwa [← heq]

theorem Mirrors.discard {b : Build α} {r : StateM Journal α} (h : Mirrors b r) :
    Mirrors (discard b) (discard r) :=
  fun m j hj => ⟨rfl, (h m j hj).2⟩

end Mirrors

/-! ### The operations -/

theorem mirrors_newId : Mirrors Build.newId newId :=
  fun _ _ h => ⟨congrArg UInt32.ofNat h.bound, congrArg Nat.succ h.bound, h.contents, h.once⟩

/-- Operations that add an instruction to its section. -/
theorem mirrors_add {f : Module → Module} {i : Inst} (hi : i.op.section ≠ .capability)
    (hbound : ∀ m, (f m).bound = m.bound)
    (hcontents : ∀ m s, (f m).contents s = s.added i (m.contents s)) :
    Mirrors (modify f) (add i) :=
  fun m _ h => ⟨rfl, h.add (fun heq => (hi heq).elim) (hbound m) (hcontents m)⟩

theorem mirrors_emit {i : Inst} (hi : i.op.section = .code) : Mirrors (Build.emit i) (add i) := by
  refine mirrors_add (by simp [hi]) (fun _ => rfl) fun m s => ?_
  cases s <;> simp [Module.contents, Module.imports, Section.added, hi]

theorem mirrors_emitValue {op : Op} (hop : op.section = .code) (type : Word)
    (operands : List Word) :
    Mirrors (Build.emitValue op type operands) (addValue op (some type) operands) :=
  mirrors_newId.bind fun id => (mirrors_emit hop).bind fun _ => mirrors_pure id

theorem mirrors_decorate (id : Word) (decoration : Decoration) (args : List Word) :
    Mirrors (Build.decorate id decoration args)
      (add (.effect .decorate (id :: decoration.number :: args))) := by
  refine mirrors_add nofun (fun _ => rfl) fun m s => ?_
  cases s <;> simp [Module.contents, Module.imports, Section.added, Inst.effect, Op.section]

theorem mirrors_addGlobal {op : Op} (hop : op.section = .global) (type? : Option Word)
    (operands : List Word) :
    Mirrors (Build.addGlobal op type? operands) (addValue op type? operands) := by
  refine mirrors_newId.bind fun id => Mirrors.bind ?_ fun _ => mirrors_pure id
  refine mirrors_add (by simp [hop]) (fun _ => rfl) fun m s => ?_
  cases s <;> simp [Module.contents, Module.imports, Section.added, hop]

/-- A section has what its journal has. -/
theorem Describes.find? {j : Journal} {m : Module} (h : j.Describes m) {i : Inst}
    (hi : i.op.section ≠ .memory) :
    (m.contents i.op.section).find? i.sameExpression = j.entries.find? i.sameExpression := by
  rw [h.contents, Section.contents_of_ne hi, List.find?_filter]
  congr 1
  funext k
  -- what is the same expression has the same operation, and so it is in the same section
  by_cases hk : k.op = i.op
  · simp [hk]
  · simp [Inst.sameExpression, Ne.symm hk]

theorem mirrors_intern {op : Op} (hop : op.section = .global) (type? : Option Word)
    (operands : List Word) :
    Mirrors (Build.intern op type? operands) (intern op type? operands) := by
  intro m j h
  have hfind := h.find? (i := ⟨op, type?, none, operands⟩) (by simp [hop])
  simp only [hop, Module.contents, Array.find?_toList] at hfind
  have hnew := mirrors_addGlobal hop type? operands m j h
  -- an instruction that is found without a result counts as new, in the module as well
  rcases hfound : j.entries.find? (Inst.sameExpression ⟨op, type?, none, operands⟩)
    with _ | ⟨_, _, _ | id, _⟩
  all_goals
    rw [hfound] at hfind
    simp only [Build.intern, intern, StateT.run_bind, StateT.run_get, pure_bind, hfind, hfound]
  · exact hnew
  · exact hnew
  · exact ⟨rfl, h⟩

theorem mirrors_importGlsl :
    Mirrors Build.importGlsl (intern .extInstImport none (stringWords Module.glslName)) := by
  intro m j h
  have hfind := h.find? (i := ⟨.extInstImport, none, none, stringWords Module.glslName⟩) nofun
  change m.imports.find? _ = _ at hfind
  -- a module has no list of imports: there is one as soon as it has an id
  rcases hglsl : m.glsl? with _ | id
  all_goals
    simp only [Module.imports, hglsl] at hfind
  · obtain ⟨hid, hnew⟩ := mirrors_newId m j h
    rw [List.find?_nil] at hfind
    simp only [Build.importGlsl, intern, StateT.run_bind, StateT.run_get, pure_bind, hglsl, ← hfind]
    refine ⟨hid, hnew.add nofun rfl fun s => ?_⟩
    cases s with
    | importing =>
      change [_] = m.imports ++ [_]
      rw [Module.imports, hglsl, hid]
      rfl
    | _ => rfl
  · rw [List.find?_cons_of_pos (by simp [Inst.sameExpression])] at hfind
    simp only [Build.importGlsl, intern, StateT.run_bind, StateT.run_get, pure_bind, hglsl, ← hfind]
    exact ⟨rfl, h⟩

theorem mirrors_enableCapability (c : Capability) :
    Mirrors (Build.enableCapability c) (addOnce (.effect .capability [c.number])) := by
  intro m j h
  have hmem : Inst.effect .capability [c.number] ∈ j.entries ↔ c ∈ m.capabilities := by
    -- the journal knows capabilities by their numbers
    have hinjective : Function.Injective fun c : Capability => Inst.effect .capability [c.number] :=
      fun ⟨a⟩ ⟨b⟩ hab => by simpa [Inst.effect] using hab
    rw [← Array.mem_toList_iff, ← List.mem_map_of_injective hinjective]
    change _ ↔ _ ∈ m.contents .capability
    rw [h.contents, Section.contents_of_ne (by decide), List.mem_filter]
    exact (and_iff_left rfl).symm
  have hbuild : (Build.enableCapability c).run m =
      ((), if c ∈ m.capabilities then m else { m with capabilities := m.capabilities.push c }) := rfl
  have hrecord : ((addOnce (.effect .capability [c.number])).run j).2 =
      if Inst.effect .capability [c.number] ∈ j.entries then j
      else ((add (.effect .capability [c.number])).run j).2 := rfl
  refine ⟨rfl, ?_⟩
  rw [hbuild, hrecord]
  by_cases hc : c ∈ m.capabilities
  · simp only [hmem, if_pos hc]
    exact h
  · simp only [hmem, if_neg hc]
    refine h.add (fun _ hin => hc (hmem.1 hin)) rfl fun s => ?_
    cases s <;> simp [Module.contents, Module.imports, Section.added, Inst.effect, Op.section]

/-- Every call keeps a module and its journal in step. -/
theorem mirrors_call (c : Call) : Mirrors c.run c.record := by
  cases c with
  | newId => exact mirrors_newId.discard
  | enableCapability c => exact mirrors_enableCapability c
  | importGlsl => exact mirrors_importGlsl.discard
  | decorate | decorateBuiltIn | decorateLocation => exact mirrors_decorate _ _ _
  | decorateBinding =>
    exact (mirrors_decorate _ .descriptorSet _).bind fun _ => mirrors_decorate _ .binding _
  | newArrayType | newStructType | newVariable => exact (mirrors_addGlobal rfl _ _).discard
  | constantU32 | constantI32 | constantF32 =>
    exact Mirrors.discard ((mirrors_intern rfl _ _).bind fun type => mirrors_intern rfl _ _)
  | beginFunction | endFunction | emitLabel | emitReturn | emitStore => exact mirrors_emit rfl
  | emitValue op hop type operands => exact (mirrors_emitValue hop type operands).discard
  | emitGlsl => exact Mirrors.discard (mirrors_importGlsl.bind fun set => mirrors_emitValue rfl _ _)
  | emitSampleLod => exact (mirrors_emitValue rfl _ _).discard
  | setMemoryModel | addEntryPoint | setExecutionMode | setName | setMemberName | decorateMember =>
    refine mirrors_add (fun h => by cases h) (fun _ => rfl) fun m s => ?_
    cases s <;> simp [Module.contents, Module.imports, Section.added, Inst.effect, Op.section]
  | _ => exact (mirrors_intern rfl _ _).discard

/-- All calls together do, too. -/
theorem describes_ofCalls (calls : List Call) :
    (Journal.ofCalls calls).Describes (Module.ofCalls calls) := by
  -- for all modules and journals in step, as the calls start from other ones each time
  have hrun (j : Journal) (m : Module) (h : j.Describes m) :
      (calls.foldl (fun j c => (c.record.run j).2) j).Describes
        (calls.foldl (fun m c => (c.run.run m).2) m) := by
    induction calls generalizing j m with
    | nil => exact h
    | cons c calls ih => exact ih _ _ (mirrors_call c m j h).2
  exact hrun .start .empty describes_start

end Journal

/-! ## Code -/

namespace Module

/-- The code of a module has a header of five words, and behind it the instructions that the calls
added, sorted, with each capability once and one memory model. It is read back from its bytes. -/
theorem code_ofCalls (calls : List Call)
    (hl : ∀ i ∈ (Journal.ofCalls calls).entries, i.words.length ≤ 0xffff) :
    let entries := (Journal.ofCalls calls).entries
    let code := (Module.ofCalls calls).code
    code.header = [magicNumber, version, 0, UInt32.ofNat (Journal.ofCalls calls).nextId, 0] ∧
      code.blocks = (arranged entries).map Inst.words ∧ code.tail = [] ∧
      (∀ i, i.op.section ≠ .memory → (arranged entries).count i = entries.count i) ∧
      (Section.capability.contents entries).Nodup ∧ (Section.memory.contents entries).length = 1 ∧
      Code.ofBytes code.toBytes = .ok code := by
  intro entries code
  have h := Journal.describes_ofCalls calls
  have hencodable : (Module.ofCalls calls).IsEncodable := by
    intro i hi
    rw [h.instructions_eq] at hi
    exact hl i (arranged_subset entries hi)
  refine ⟨?_, ?_, tail_code hencodable, fun i hi => count_arranged hi entries, h.once, ?_,
    ofBytes_toBytes hencodable⟩
  · rw [← h.bound]
    rfl
  · rw [blocks_code hencodable, h.instructions_eq]
  · rw [← h.contents]
    rfl

/-- A few calls out of order, one of them twice. -/
theorem code_ofCalls_outOfOrder :
    let calls : List Call :=
      [.emitReturn, .floatType 32, .enableCapability .shader, .setName 1 "f", .constantF32 0,
       .enableCapability .shader, .setMemoryModel .logical .glsl450]
    (∀ i ∈ (Journal.ofCalls calls).entries, i.words.length ≤ 0xffff) ∧
      Code.ofBytes (Module.ofCalls calls).code.toBytes = .ok (Module.ofCalls calls).code := by
  have h : ∀ i ∈ (Journal.ofCalls
      [.emitReturn, .floatType 32, .enableCapability .shader, .setName 1 "f", .constantF32 0,
       .enableCapability .shader, .setMemoryModel .logical .glsl450]).entries,
      i.words.length ≤ 0xffff := by decide +kernel
  exact ⟨h, (code_ofCalls _ h).2.2.2.2.2.2⟩

end Module

end ShaderLowering.Spirv
