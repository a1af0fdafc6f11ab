import ShaderLowering.Generator.State
import ShaderLowering.Proofs.Spirv.WellFormed

/-!
# Building well-formed modules

What each step of the construction of a module does to a well-formed module. A step outside the
function `Declares` something: it leaves the function as it is. A step in general `Builds`: it may
add typed instructions to the open block. Either way the module stays well-formed and only grows,
and the result of the step has the property that the next steps rely on.
-/

namespace ShaderLowering.Spirv

/-! ## Growing well-formed modules -/

/-- The next id goes with ids below it. -/
theorem insert_next {ids ids' : List Word} {n : Nat} (hbelow : ∀ id ∈ ids, id.toNat < n)
    (hnodup : ids.Nodup) (hp : ids'.Perm (UInt32.ofNat n :: ids)) (hfit : n + 1 < UInt32.size) :
    (∀ id ∈ ids', id.toNat < n + 1) ∧ ids'.Nodup := by
  have hid : (UInt32.ofNat n).toNat = n :=
    (UInt32.toNat_ofNat' ..).trans (Nat.mod_eq_of_lt (Nat.lt_of_succ_lt hfit))
  refine ⟨fun id hmem => ?_, hp.nodup_iff.2 (List.nodup_cons.2 ⟨fun hmem => ?_, hnodup⟩)⟩
  · rcases List.mem_cons.1 (hp.mem_iff.1 hmem) with rfl | hmem
    · exact hid.symm ▸ Nat.lt_succ_self n
    · exact Nat.lt_succ_of_lt (hbelow id hmem)
  · have hlt := hbelow _ hmem
    rw [hid] at hlt
    exact Nat.lt_irrefl n hlt

namespace Module

variable {m m' : Module} {i : Inst}

theorem toNat_ofNat_bound (hfit : m.bound < UInt32.size) : (UInt32.ofNat m.bound).toNat = m.bound := by
  rw [UInt32.toNat_ofNat']
  exact Nat.mod_eq_of_lt hfit

/-- The next id is not in use. -/
theorem Fresh.bound_notMem (h : m.Fresh) (hfit : m.bound < UInt32.size) :
    UInt32.ofNat m.bound ∉ results m.defining := by
  intro hmem
  have hlt := (h.bounded _ hmem).2
  rw [toNat_ofNat_bound hfit] at hlt
  exact Nat.lt_irrefl _ hlt

/-- A fresh result keeps results fresh. -/
theorem Fresh.insert (h : m.Fresh) (hpos : 0 < m.bound) (hb : m'.bound = m.bound + 1)
    (hfit : m'.bound < UInt32.size)
    (hp : (results m'.defining).Perm (UInt32.ofNat m.bound :: results m.defining)) : m'.Fresh := by
  obtain ⟨hbelow, hnodup⟩ := insert_next (fun id hid => (h.bounded id hid).2) h.nodup hp (hb ▸ hfit)
  refine ⟨fun id hmem => ⟨?_, hb ▸ hbelow id hmem⟩, hnodup⟩
  rcases List.mem_cons.1 (hp.mem_iff.1 hmem) with rfl | hmem
  · rwa [toNat_ofNat_bound (by omega)]
  · exact (h.bounded id hmem).1

/-- A module that has grown by sound instructions is well-formed. -/
theorem WellFormed.grow (h : m.WellFormed) (hg : m.Grows m')
    (globals : Stepwise Grounded m'.globals.toList)
    (interned : ∀ op type? id operands, op.isInterned = true →
      ⟨op, type?, some id, operands⟩ ∈ m'.globals.toList →
        Interned m'.globals.toList ⟨op, type?, none, operands⟩ id)
    (body : IsBody m'.body.toList)
    (typed : Stepwise (fun before i => Typed m'.known ((openBlock before).getD []) i) m'.body.toList)
    (rest : m'.names = m.names ∧ m'.annotations = m.annotations ∧
      m'.entryPoints = m.entryPoints ∧ m'.executionModes = m.executionModes)
    (fresh : m'.bound < UInt32.size → m'.Fresh) : m'.WellFormed := by
  obtain ⟨hn, ha, he, hx⟩ := rest
  have hrefers {s : Section} {i : Inst} (hi : i.RefersTo s (results m.defining)) :
      i.RefersTo s (results m'.defining) := by
    obtain ⟨op, id, operands, heq, hs, hid⟩ := hi
    exact ⟨op, id, operands, heq, hs, results_subset hg.defining hid⟩
  refine ⟨Nat.lt_of_lt_of_le h.positive hg.bound, globals, interned, body, typed, ?_, ?_, ?_, fresh⟩
  · rw [hn]
    exact fun i hi => hrefers (h.names i hi)
  · rw [ha]
    exact fun i hi => hrefers (h.annotations i hi)
  · rw [he, hx]
    exact h.unentered

/-- Types of instructions outlive the growth of what is known. -/
theorem WellFormed.typed_mono (h : m.WellFormed) (hk : m.known ⊆ m'.known) :
    Stepwise (fun before i => Typed m'.known ((openBlock before).getD []) i) m.body.toList :=
  h.typed.mono fun _ _ ht => ht.mono hk fun _ hi => hi

/-- A module with another type, constant or variable. -/
def withGlobal (m : Module) (op : Op) (type? : Option Word) (operands : List Word) : Module :=
  { m with
    bound := m.bound + 1
    globals := m.globals.push ⟨op, type?, some (UInt32.ofNat m.bound), operands⟩ }

theorem globals_withGlobal (m : Module) (op : Op) (type? : Option Word) (operands : List Word) :
    (m.withGlobal op type? operands).globals.toList =
      m.globals.toList ++ [⟨op, type?, some (UInt32.ofNat m.bound), operands⟩] :=
  Array.toList_push ..

theorem grows_withGlobal (m : Module) (op : Op) (type? : Option Word) (operands : List Word) :
    m.Grows (m.withGlobal op type? operands) := by
  refine ⟨Nat.le_succ _, fun _ h => h, ?_, List.prefix_rfl⟩
  rw [globals_withGlobal]
  exact List.prefix_append ..

theorem WellFormed.withGlobal (h : m.WellFormed) {op : Op} {type? : Option Word}
    {operands : List Word} (hi : ∀ id, Grounded m.globals.toList ⟨op, type?, some id, operands⟩)
    (hn : op.isInterned = true →
      m.globals.toList.find? (Inst.sameExpression ⟨op, type?, none, operands⟩) = none) :
    (m.withGlobal op type? operands).WellFormed := by
  have hg := m.grows_withGlobal op type? operands
  have hglobals := m.globals_withGlobal op type? operands
  refine h.grow hg ?_ (fun op' type' id operands' hop hmem => ?_) h.body (h.typed_mono hg.known)
    ⟨rfl, rfl, rfl, rfl⟩ fun hfit => ?_
  · rw [hglobals]
    exact h.globals.concat (hi _)
  · rw [hglobals] at hmem ⊢
    rcases List.mem_append.1 hmem with hmem | hmem
    · exact (h.interned _ _ _ _ hop hmem).mono (List.prefix_append ..)
    · cases List.mem_singleton.1 hmem
      exact Interned.concat (hn hop)
  · refine (h.fresh (Nat.lt_of_succ_lt hfit)).insert h.positive rfl hfit ?_
    simp only [defining, known, imports, Module.withGlobal, Array.toList_push, results_append,
      results_cons, results_nil, Option.toList_some, List.append_nil, List.append_assoc]
    exact (List.perm_middle.append_left _).trans List.perm_middle

/-- A module with the extended instruction set. -/
def withGlsl (m : Module) : Module :=
  { m with bound := m.bound + 1, glsl? := some (UInt32.ofNat m.bound) }

theorem grows_withGlsl (hn : m.glsl? = none) : m.Grows m.withGlsl := by
  refine ⟨Nat.le_succ _, ?_, List.prefix_rfl, List.prefix_rfl⟩
  rw [imports, hn]
  exact List.nil_subset _

theorem WellFormed.withGlsl (h : m.WellFormed) (hn : m.glsl? = none) : m.withGlsl.WellFormed := by
  have hg := grows_withGlsl hn
  refine h.grow hg h.globals h.interned h.body (h.typed_mono hg.known) ⟨rfl, rfl, rfl, rfl⟩
    fun hfit => ?_
  refine (h.fresh (Nat.lt_of_succ_lt hfit)).insert h.positive rfl hfit ?_
  simp only [defining, known, imports, Module.withGlsl, hn, results_append, results_cons,
    Option.toList_some, List.nil_append, List.cons_append]
  exact .refl _

/-- A module with another instruction in the function, with or without a result. -/
def withCode (m : Module) (i : Inst) : Module := { m with body := m.body.push i }

theorem grows_withCode (m : Module) (i : Inst) : m.Grows (m.withCode i) := by
  refine ⟨Nat.le_refl _, fun _ h => h, List.prefix_rfl, ?_⟩
  rw [withCode, Array.toList_push]
  exact List.prefix_append ..

/-- A module with another instruction in the function that has a new result. -/
def withResult (m : Module) (op : Op) (type? : Option Word) (operands : List Word) : Module :=
  { m with
    bound := m.bound + 1
    body := m.body.push ⟨op, type?, some (UInt32.ofNat m.bound), operands⟩ }

theorem grows_withResult (m : Module) (op : Op) (type? : Option Word) (operands : List Word) :
    m.Grows (m.withResult op type? operands) := by
  refine ⟨Nat.le_succ _, fun _ h => h, List.prefix_rfl, ?_⟩
  rw [withResult, Array.toList_push]
  exact List.prefix_append ..

theorem WellFormed.withCode (h : m.WellFormed) (hr : i.result? = none)
    (hb : IsBody (m.body.toList ++ [i])) (ht : Typed m.known m.block i) :
    (m.withCode i).WellFormed := by
  have hg := m.grows_withCode i
  have hbody : (m.withCode i).body.toList = m.body.toList ++ [i] := Array.toList_push ..
  refine h.grow hg h.globals h.interned ?_ ?_ ⟨rfl, rfl, rfl, rfl⟩ fun hfit => ?_
  · rw [hbody]
    exact hb
  · rw [hbody]
    exact (h.typed_mono hg.known).concat ht
  · have heq : results (m.withCode i).defining = results m.defining := by
      rw [defining, hbody]
      simp [results_cons, hr, defining, known, imports, Module.withCode]
    obtain ⟨hbounded, hnodup⟩ := h.fresh hfit
    exact ⟨by rw [heq]; exact hbounded, by rw [heq]; exact hnodup⟩

theorem WellFormed.withResult (h : m.WellFormed) {op : Op} {type? : Option Word}
    {operands : List Word}
    (hb : ∀ id, IsBody (m.body.toList ++ [⟨op, type?, some id, operands⟩]))
    (ht : ∀ id, Typed m.known m.block ⟨op, type?, some id, operands⟩) :
    (m.withResult op type? operands).WellFormed := by
  have hg := m.grows_withResult op type? operands
  have hbody : (m.withResult op type? operands).body.toList =
      m.body.toList ++ [⟨op, type?, some (UInt32.ofNat m.bound), operands⟩] := Array.toList_push ..
  refine h.grow hg h.globals h.interned ?_ ?_ ⟨rfl, rfl, rfl, rfl⟩ fun hfit => ?_
  · rw [hbody]
    exact hb _
  · rw [hbody]
    exact (h.typed_mono hg.known).concat (ht _)
  · refine (h.fresh (Nat.lt_of_succ_lt hfit)).insert h.positive rfl hfit ?_
    rw [defining, hbody]
    simp only [defining, known, imports, Module.withResult, results_append, results_cons,
      results_nil, Option.toList_some, List.append_nil, ← List.append_assoc]
    exact List.perm_append_singleton ..

end Module

/-! ## Steps -/

section

variable {α β : Type} {m : Module} {b : Build α} {f : α → Build β}
variable {Q Q' : α → Module → Prop} {R : β → Module → Prop}

/-- A step leaves the function of a module alone, keeps the module well-formed, and has a result
with a property. -/
structure Declares (m : Module) (b : Build α) (Q : α → Module → Prop) : Prop where
  grows : m.Grows (b.run m).2
  body : (b.run m).2.body = m.body
  wellFormed : (b.run m).2.WellFormed
  result : Q (b.run m).1 (b.run m).2

/-- A step keeps a module well-formed, goes on with its open block, and has a result with a
property. -/
structure Builds (m : Module) (b : Build α) (Q : α → Module → Prop) : Prop where
  continues : m.Continues (b.run m).2
  opened : (openBlock (b.run m).2.body.toList).isSome = (openBlock m.body.toList).isSome
  wellFormed : (b.run m).2.WellFormed
  result : Q (b.run m).1 (b.run m).2

theorem Declares.pure {a : α} (hm : m.WellFormed) (h : Q a m) : Declares m (pure a) Q :=
  ⟨.refl m, rfl, hm, h⟩

theorem Declares.bind (h : Declares m b Q)
    (hf : ∀ a m', m.Grows m' → m'.WellFormed → Q a m' → Declares m' (f a) R) :
    Declares m (b >>= f) R := by
  have h' := hf _ _ h.grows h.wellFormed h.result
  exact ⟨h.grows.trans h'.grows, h'.body.trans h.body, h'.wellFormed, h'.result⟩

theorem Declares.imp (h : Declares m b Q) (hQ : ∀ a m', Q a m' → Q' a m') : Declares m b Q' :=
  ⟨h.grows, h.body, h.wellFormed, hQ _ _ h.result⟩

/-- What leaves the function alone goes on with its open block. -/
theorem Declares.builds (h : Declares m b Q) : Builds m b Q := by
  refine ⟨⟨h.grows, fun _ => ⟨[], ?_, nofun⟩⟩, ?_, h.wellFormed, h.result⟩
  · rw [h.body, List.append_nil]
  · rw [h.body]

theorem Builds.bind (h : Builds m b Q)
    (hf : ∀ a m', m.Continues m' → m'.WellFormed → Q a m' → Builds m' (f a) R) :
    Builds m (b >>= f) R := by
  have h' := hf _ _ h.continues h.wellFormed h.result
  exact ⟨h.continues.trans h'.continues, h'.opened.trans h.opened, h'.wellFormed, h'.result⟩

end

namespace Build

variable {m : Module}

/-! ## Declarations about the module -/

theorem run_enableCapability (c : Capability) :
    (enableCapability c).run m = ((),
      if c ∈ m.capabilities then m else { m with capabilities := m.capabilities.push c }) := rfl

theorem declares_enableCapability (hm : m.WellFormed) (c : Capability) :
    Declares m (enableCapability c) fun _ _ => True := by
  have hrun : ((enableCapability c).run m).2 =
      { m with capabilities :=
        if c ∈ m.capabilities then m.capabilities else m.capabilities.push c } := by
    rw [run_enableCapability]
    dsimp only
    split <;> rfl
  refine ⟨?_, ?_, ?_, trivial⟩ <;> rw [hrun]
  · exact ⟨Nat.le_refl _, fun _ h => h, List.prefix_rfl, List.prefix_rfl⟩
  · exact ⟨hm.positive, hm.globals, hm.interned, hm.body, hm.typed, hm.names, hm.annotations,
      hm.unentered, fun hfit => ⟨(hm.fresh hfit).bounded, (hm.fresh hfit).nodup⟩⟩

/-- The extended instruction set is imported when it is first asked for. -/
theorem run_importGlsl_of_none (h : m.glsl? = none) :
    importGlsl.run m = (UInt32.ofNat m.bound, m.withGlsl) := by
  simp only [importGlsl, StateT.run_bind, StateT.run_get, pure_bind, h]
  rfl

theorem run_importGlsl_of_some {id : Word} (h : m.glsl? = some id) :
    importGlsl.run m = (id, m) := by
  simp only [importGlsl, StateT.run_bind, StateT.run_get, pure_bind, h]
  rfl

/-- The extended instruction set is imported. -/
theorem declares_importGlsl (hm : m.WellFormed) :
    Declares m importGlsl fun id m' =>
      ⟨.extInstImport, none, some id, stringWords Module.glslName⟩ ∈ m'.known := by
  rcases hg : m.glsl? with _ | id
  · refine ⟨?_, ?_, ?_, ?_⟩ <;> rw [run_importGlsl_of_none hg]
    · exact Module.grows_withGlsl hg
    · rfl
    · exact hm.withGlsl hg
    · exact List.mem_append_left _ (List.mem_singleton.2 rfl)
  · refine ⟨?_, ?_, ?_, ?_⟩ <;> rw [run_importGlsl_of_some hg]
    · exact .refl m
    · exact hm
    · refine List.mem_append_left _ ?_
      rw [Module.imports, hg]
      exact List.mem_singleton.2 rfl

/-- A name for something that is defined. -/
theorem declares_name {i : Inst} (hm : m.WellFormed)
    (hi : i.RefersTo .name (results m.defining)) :
    Declares m (modify fun m => { m with names := m.names.push i }) fun _ _ => True := by
  refine ⟨⟨Nat.le_refl _, fun _ h => h, List.prefix_rfl, List.prefix_rfl⟩, rfl, ?_, trivial⟩
  refine ⟨hm.positive, hm.globals, hm.interned, hm.body, hm.typed, fun j hj => ?_, hm.annotations,
    hm.unentered, fun hfit => ⟨(hm.fresh hfit).bounded, (hm.fresh hfit).nodup⟩⟩
  rcases List.mem_append.1 ((Array.toList_push ..) ▸ hj) with hj | hj
  · exact hm.names j hj
  · rw [List.mem_singleton.1 hj]
    exact hi

theorem declares_setName {id : Word} (hm : m.WellFormed) (hid : id ∈ results m.defining)
    (text : String) : Declares m (setName id text) fun _ _ => True :=
  declares_name hm ⟨_, _, _, rfl, rfl, hid⟩

theorem declares_setMemberName {id : Word} (hm : m.WellFormed) (hid : id ∈ results m.defining)
    (member : Word) (text : String) : Declares m (setMemberName id member text) fun _ _ => True :=
  declares_name hm ⟨_, _, _, rfl, rfl, hid⟩

/-- A decoration of something that is defined. -/
theorem declares_decoration {i : Inst} (hm : m.WellFormed)
    (hi : i.RefersTo .decoration (results m.defining)) :
    Declares m (modify fun m => { m with annotations := m.annotations.push i })
      fun _ _ => True := by
  refine ⟨⟨Nat.le_refl _, fun _ h => h, List.prefix_rfl, List.prefix_rfl⟩, rfl, ?_, trivial⟩
  refine ⟨hm.positive, hm.globals, hm.interned, hm.body, hm.typed, hm.names, fun j hj => ?_,
    hm.unentered, fun hfit => ⟨(hm.fresh hfit).bounded, (hm.fresh hfit).nodup⟩⟩
  rcases List.mem_append.1 ((Array.toList_push ..) ▸ hj) with hj | hj
  · exact hm.annotations j hj
  · rw [List.mem_singleton.1 hj]
    exact hi

theorem declares_decorate {id : Word} (hm : m.WellFormed) (hid : id ∈ results m.defining)
    (decoration : Decoration) (args : List Word) :
    Declares m (decorate id decoration args) fun _ _ => True :=
  declares_decoration hm ⟨_, _, _, rfl, rfl, hid⟩

theorem declares_decorateMember {id : Word} (hm : m.WellFormed) (hid : id ∈ results m.defining)
    (member : Word) (decoration : Decoration) (args : List Word) :
    Declares m (decorateMember id member decoration args) fun _ _ => True :=
  declares_decoration hm ⟨_, _, _, rfl, rfl, hid⟩

theorem declares_decorateBinding {id : Word} (hm : m.WellFormed) (hid : id ∈ results m.defining)
    (set binding : Word) : Declares m (decorateBinding id set binding) fun _ _ => True :=
  (declares_decorate hm hid _ _).bind fun _ _ hg hm' _ =>
    declares_decorate hm' (results_subset hg.defining hid) _ _

/-! ## Types, constants and variables -/

/-- A new type, constant or variable, under an id that nothing has had before. -/
theorem declares_addGlobal (hm : m.WellFormed) {op : Op} {type? : Option Word}
    {operands : List Word} (hi : ∀ id, Grounded m.globals.toList ⟨op, type?, some id, operands⟩)
    (hn : op.isInterned = true →
      m.globals.toList.find? (Inst.sameExpression ⟨op, type?, none, operands⟩) = none) :
    Declares m (addGlobal op type? operands) fun id m' =>
      ⟨op, type?, some id, operands⟩ ∈ m'.globals.toList ∧
      (m'.bound < UInt32.size → id ∉ results m.defining) := by
  have hrun : (addGlobal op type? operands).run m =
      (UInt32.ofNat m.bound, m.withGlobal op type? operands) := rfl
  refine ⟨?_, ?_, ?_, ?_⟩ <;> rw [hrun]
  · exact m.grows_withGlobal op type? operands
  · rfl
  · exact hm.withGlobal hi hn
  · refine ⟨by simp [Module.withGlobal], fun hfit => ?_⟩
    exact (hm.fresh (Nat.lt_of_succ_lt hfit)).bound_notMem (Nat.lt_of_succ_lt hfit)

/-- A type or constant that is not there yet is added. -/
theorem run_intern_of_none {op : Op} {type? : Option Word} {operands : List Word}
    (h : m.globals.toList.find? (Inst.sameExpression ⟨op, type?, none, operands⟩) = none) :
    (intern op type? operands).run m =
      (UInt32.ofNat m.bound, m.withGlobal op type? operands) := by
  simp only [intern, StateT.run_bind, StateT.run_get, pure_bind, ← Array.find?_toList, h]
  rfl

/-- A type or constant that is there already is found. -/
theorem run_intern_of_interned {op : Op} {type? : Option Word} {operands : List Word} {id : Word}
    (h : Interned m.globals.toList ⟨op, type?, none, operands⟩ id) :
    (intern op type? operands).run m = (id, m) := by
  rw [Interned] at h
  simp only [intern, StateT.run_bind, StateT.run_get, pure_bind, ← Array.find?_toList, h]
  rfl

/-- A type or constant is found, or it is new. -/
theorem declares_intern (hm : m.WellFormed) {op : Op} {type? : Option Word}
    {operands : List Word} (hi : ∀ id, Grounded m.globals.toList ⟨op, type?, some id, operands⟩) :
    Declares m (intern op type? operands) fun id m' =>
      Interned m'.globals.toList ⟨op, type?, none, operands⟩ id := by
  rcases hfind : m.globals.toList.find? (Inst.sameExpression ⟨op, type?, none, operands⟩)
    with _ | i
  · have hnew := declares_addGlobal hm hi fun _ => hfind
    refine ⟨?_, ?_, ?_, ?_⟩ <;> rw [run_intern_of_none hfind]
    · exact hnew.grows
    · exact hnew.body
    · exact hnew.wellFormed
    · rw [Module.globals_withGlobal]
      exact Interned.concat hfind
  · obtain ⟨before, -, hg⟩ := hm.globals.of_mem (List.mem_of_find?_eq_some hfind)
    obtain ⟨id, hid⟩ := hg.result
    have hinterned := Interned.of_find? hfind hid
    refine ⟨?_, ?_, ?_, ?_⟩ <;> rw [run_intern_of_interned hinterned]
    · exact .refl m
    · exact hm
    · exact hinterned

/-- A type that refers to types and constants. -/
theorem declares_internType (hm : m.WellFormed) {op : Op} {operands : List Word}
    (hs : op.section = .global) (hl : op.layout = .result)
    (hids : ∀ x ∈ Inst.operandIds 0 ⟨op, none, none, operands⟩, x ∈ results m.globals.toList) :
    Declares m (intern op none operands) fun id m' =>
      Interned m'.globals.toList ⟨op, none, none, operands⟩ id :=
  declares_intern hm fun _ => .type hs hl fun x hx => hids x (by cases op <;> exact hx)

theorem declares_pointerType (hm : m.WellFormed) {pointee : Word}
    (hp : pointee ∈ results m.globals.toList) (storage : StorageClass) :
    Declares m (pointerType pointee storage) fun id m' =>
      PointerId m'.globals.toList storage pointee id :=
  declares_internType hm rfl rfl fun x hx => by
    simp only [Inst.operandIds, List.drop_succ_cons, List.drop_zero, List.mem_singleton] at hx
    exact hx ▸ hp

theorem declares_samplerType (hm : m.WellFormed) :
    Declares m samplerType fun id m' =>
      Interned m'.globals.toList ⟨.typeSampler, none, none, []⟩ id :=
  declares_internType hm rfl rfl fun _ hx => by cases hx

theorem declares_sampledImageType (hm : m.WellFormed) {image : Word}
    (hi : image ∈ results m.globals.toList) :
    Declares m (sampledImageType image) fun id m' =>
      Interned m'.globals.toList ⟨.typeSampledImage, none, none, [image]⟩ id :=
  declares_internType hm rfl rfl fun _ hx => List.mem_singleton.1 hx ▸ hi

theorem declares_imageType (hm : m.WellFormed) {sampledType : Word}
    (hs : sampledType ∈ results m.globals.toList) (dim : Dim) (depth : Word)
    (arrayed multisampled : Bool) (sampled : Word) (format : ImageFormat) :
    Declares m (imageType sampledType dim depth arrayed multisampled sampled format)
      fun id m' => ⟨.typeImage, none, some id, [sampledType, dim.number, depth,
        if arrayed then 1 else 0, if multisampled then 1 else 0, sampled, format.number]⟩ ∈
          m'.globals.toList :=
  (declares_internType hm rfl rfl fun x hx => by
    simp only [Inst.operandIds, List.take_succ_cons, List.take_zero, List.mem_singleton] at hx
    exact hx ▸ hs).imp fun _ _ h => h.mem

theorem declares_newArrayType (hm : m.WellFormed) {element length : Word}
    (he : element ∈ results m.globals.toList) (hl : length ∈ results m.globals.toList) :
    Declares m (newArrayType element length) fun id m' =>
      ⟨.typeArray, none, some id, [element, length]⟩ ∈ m'.globals.toList := by
  have hgrounded (id : Word) :
      Grounded m.globals.toList ⟨.typeArray, none, some id, [element, length]⟩ :=
    .type rfl rfl fun x hx => by
      simp only [Inst.operandIds, List.mem_cons, List.not_mem_nil, or_false] at hx
      rcases hx with rfl | rfl
      · exact he
      · exact hl
  exact (declares_addGlobal hm hgrounded fun h => by cases h).imp fun _ _ h => h.1

theorem declares_newStructType (hm : m.WellFormed) {members : List Word}
    (hi : ∀ x ∈ members, x ∈ results m.globals.toList) :
    Declares m (newStructType members) fun id m' =>
      ⟨.typeStruct, none, some id, members⟩ ∈ m'.globals.toList := by
  have hgrounded (id : Word) :
      Grounded m.globals.toList ⟨.typeStruct, none, some id, members⟩ := .type rfl rfl hi
  exact (declares_addGlobal hm hgrounded nofun).imp fun _ _ h => h.1

theorem declares_newVariable (hm : m.WellFormed) {storage : StorageClass} {pointee type : Word}
    (ht : PointerId m.globals.toList storage pointee type) :
    Declares m (newVariable type storage) fun id m' =>
      ⟨.globalVariable, some type, some id, [storage.number]⟩ ∈ m'.globals.toList ∧
      (m'.bound < UInt32.size → id ∉ results m.defining) :=
  declares_addGlobal hm (fun _ => .memory (ht.isPointerType fun _ h => h)) nofun

theorem declares_scalar (hm : m.WellFormed) (s : ScalarType) :
    Declares m s.build fun id m' => ScalarId m'.globals.toList s id := by
  cases s <;> exact declares_internType hm rfl rfl fun _ hx => by cases hx

theorem declares_type (hm : m.WellFormed) (t : ValueType) :
    Declares m t.build fun id m' => TypeId m'.globals.toList t id := by
  refine (declares_scalar hm t.scalar).bind fun s m' _ hm' hs => ?_
  split
  · next h1 => exact .pure hm' ⟨s, hs, by rw [if_pos h1]⟩
  · next h1 =>
    have hvector : Declares m' (vectorType s (UInt32.ofNat t.count)) fun id m'' =>
        Interned m''.globals.toList ⟨.typeVector, none, none, [s, UInt32.ofNat t.count]⟩ id :=
      declares_internType hm' rfl rfl fun x hx => by
        simp only [Inst.operandIds, List.take_succ_cons, List.take_zero, List.mem_singleton] at hx
        exact hx ▸ (hs.isScalar fun _ h => h).mem_results
    refine ⟨hvector.grows, hvector.body, hvector.wellFormed, s, hs.mono hvector.grows.globals, ?_⟩
    rw [if_neg h1]
    exact hvector.result

theorem declares_pointerTo (hm : m.WellFormed) (t : ValueType) (storage : Storage) :
    Declares m (t.buildPointer storage) fun id m' => ∃ pointee,
      TypeId m'.globals.toList t pointee ∧
      PointerId m'.globals.toList storage.spirvClass pointee id := by
  refine (declares_type hm t).bind fun pointee m' _ hm' ht => ?_
  have hpointer := declares_pointerType hm' ht.mem_results storage.spirvClass
  exact ⟨hpointer.grows, hpointer.body, hpointer.wellFormed, pointee,
    ht.mono hpointer.grows.globals, hpointer.result⟩

theorem declares_constant (hm : m.WellFormed) {s : ScalarType} {type : Word}
    (ht : ScalarId m.globals.toList s type) (bits : Word) :
    Declares m (constant type bits) fun id m' =>
      ⟨.constant, some type, some id, [bits]⟩ ∈ m'.globals.toList :=
  (declares_intern hm fun _ => .constant (ht.isScalar fun _ h => h)).imp fun _ _ h => h.mem

/-- A constant of a scalar type together with its type. -/
theorem declares_scalarConstant (hm : m.WellFormed) (s : ScalarType) (bits : Word) :
    Declares m (do constant (← s.build) bits) fun id m' => ∃ type,
      ScalarId m'.globals.toList s type ∧
      ⟨.constant, some type, some id, [bits]⟩ ∈ m'.globals.toList := by
  refine (declares_scalar hm s).bind fun type m' _ hm' ht => ?_
  have hconstant := declares_constant hm' ht bits
  exact ⟨hconstant.grows, hconstant.body, hconstant.wellFormed, type,
    ht.mono hconstant.grows.globals, hconstant.result⟩

theorem declares_constantComposite (hm : m.WellFormed) {type : Word} {parts : List Word}
    (ht : type ∈ results m.globals.toList)
    (hp : ∀ p ∈ parts, ∃ s bits, ⟨.constant, some s, some p, [bits]⟩ ∈ m.globals.toList) :
    Declares m (constantComposite type parts) fun id m' =>
      ⟨.constantComposite, some type, some id, parts⟩ ∈ m'.globals.toList :=
  (declares_intern hm fun _ => .composite ht hp).imp fun _ _ h => h.mem

/-! ## The function -/

/-- A value that is emitted into the open block has its type there. -/
theorem builds_emitValue (hm : m.WellFormed) (ho : (openBlock m.body.toList).isSome) {op : Op}
    {type : Word} {operands : List Word}
    (hi : ∀ id, Inst.IsInner ⟨op, some type, some id, operands⟩)
    (ht : ∀ id, Typed m.known m.block ⟨op, some type, some id, operands⟩) :
    Builds m (emitValue op type operands) fun id m' => Has m'.known m'.block id type := by
  have hrun : (emitValue op type operands).run m =
      (UInt32.ofNat m.bound, m.withResult op (some type) operands) := rfl
  obtain ⟨code, hcode⟩ := Option.isSome_iff_exists.1 ho
  have hopen : openBlock (m.withResult op (some type) operands).body.toList =
      some (code ++ [⟨op, some type, some (UInt32.ofNat m.bound), operands⟩]) := by
    rw [Module.withResult, Array.toList_push, openBlock_concat_inner (hi _), hcode]
    rfl
  refine ⟨⟨m.grows_withResult op (some type) operands, fun _ => ⟨_, Array.toList_push .., ?_⟩⟩,
    ?_, ?_, ?_⟩
  · intro i hmem
    rw [List.mem_singleton.1 hmem]
    exact hi _
  · rw [hrun, hopen, hcode]
    rfl
  · rw [hrun]
    exact hm.withResult (fun id => hm.body.concat_inner ho (hi id)) ht
  · rw [hrun]
    refine ⟨⟨op, some type, some (UInt32.ofNat m.bound), operands⟩, List.mem_append_right _ ?_,
      rfl, rfl⟩
    rw [Module.block, hopen, Option.getD_some]
    exact List.mem_append_right _ (List.mem_singleton.2 rfl)

/-- A store is emitted into the open block. -/
theorem builds_emitStore (hm : m.WellFormed) (ho : (openBlock m.body.toList).isSome)
    {storage : StorageClass} {type pointer value : Word}
    (hp : PointsTo m.known m.block pointer storage type) (hv : Has m.known m.block value type) :
    Builds m (emitStore pointer value) fun _ _ => True := by
  have hi : Inst.IsInner (.effect .store [pointer, value]) := by
    simp [Inst.IsInner, Inst.effect]
  have hrun : (emitStore pointer value).run m =
      ((), m.withCode (.effect .store [pointer, value])) := rfl
  obtain ⟨code, hcode⟩ := Option.isSome_iff_exists.1 ho
  have hopen : openBlock (m.withCode (.effect .store [pointer, value])).body.toList =
      some (code ++ [.effect .store [pointer, value]]) := by
    rw [Module.withCode, Array.toList_push, openBlock_concat_inner hi, hcode]
    rfl
  refine ⟨⟨m.grows_withCode _, fun _ => ⟨_, Array.toList_push .., ?_⟩⟩, ?_, ?_, trivial⟩
  · intro i hmem
    rw [List.mem_singleton.1 hmem]
    exact hi
  · rw [hrun, hopen, hcode]
    rfl
  · rw [hrun]
    exact hm.withCode rfl (hm.body.concat_inner ho hi) (.store hp hv)

/-- An extended instruction takes operands of the type of its result. -/
theorem builds_emitGlsl (hm : m.WellFormed) (ho : (openBlock m.body.toList).isSome) {op : GlslOp}
    {s : ScalarType} {n : Nat} {type : Word} {args : List Word}
    (hop : glslSignature? op.number = some (s, args.length)) (ht : IsType m.known ⟨s, n⟩ type)
    (ha : ∀ a ∈ args, Has m.known m.block a type) :
    Builds m (emitGlsl type op args) fun id m' => Has m'.known m'.block id type := by
  refine (declares_importGlsl hm).builds.bind fun set m' hc hm' hset => ?_
  refine builds_emitValue hm' (hc.isOpen ho) (fun id => ?_) fun id => ?_
  · simp [Inst.IsInner]
  · exact .extended hset hop (ht.mono hc.known) fun a h => (ha a h).mono hc.known hc.block_subset

end Build

end ShaderLowering.Spirv
