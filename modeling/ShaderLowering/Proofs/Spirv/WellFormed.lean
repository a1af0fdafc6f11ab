import ShaderLowering.Proofs.Spirv.Typing

/-!
# Well-formed modules

What holds of a module at every point of its construction. `Module.WellFormed` says that types,
constants and variables refer to earlier ones, that the function consists of complete blocks and an
open one, that its instructions are typed, and that results are fresh as long as ids fit a word.
`Module.Continues` says how a module grows: nothing is taken away, and an open block stays open.
-/

namespace ShaderLowering.Spirv

/-! ## Lists that grow at the end -/

section

variable {α : Type} {P Q : List α → α → Prop} {l : List α} {x : α}

/-- A property of each element of a list together with the elements before it. -/
def Stepwise (P : List α → α → Prop) (l : List α) : Prop :=
  ∀ before x behind, l = before ++ x :: behind → P before x

theorem Stepwise.nil : Stepwise P [] := by
  intro before x behind h
  cases before <;> cases h

/-- A list keeps to a property when its last element does and the elements before it do. -/
theorem Stepwise.concat (h : Stepwise P l) (hx : P l x) : Stepwise P (l ++ [x]) := by
  intro before y behind heq
  rcases List.eq_nil_or_concat behind with rfl | ⟨behind, z, rfl⟩
  · obtain ⟨rfl, hxy⟩ := List.append_inj' heq rfl
    cases hxy
    exact hx
  · rw [List.concat_eq_append, ← List.cons_append, ← List.append_assoc] at heq
    obtain ⟨rfl, -⟩ := List.append_inj' heq rfl
    exact h before y behind rfl

theorem Stepwise.mono (h : Stepwise P l) (hPQ : ∀ before x, P before x → Q before x) :
    Stepwise Q l :=
  fun before x behind heq => hPQ before x (h before x behind heq)

theorem Stepwise.of_mem (h : Stepwise P l) (hx : x ∈ l) : ∃ before, before ⊆ l ∧ P before x := by
  obtain ⟨before, behind, rfl⟩ := List.append_of_mem hx
  exact ⟨before, fun y hy => List.mem_append_left _ hy, h before x behind rfl⟩

end

/-! ## Interning -/

/-- An instruction with a result. -/
def Inst.withResult (i : Inst) (id : Word) : Inst := { i with result? := some id }

/-- The first instruction with the expression of `wanted` has a result, and it is `id`. -/
def Interned (insts : List Inst) (wanted : Inst) (id : Word) : Prop :=
  insts.find? wanted.sameExpression = some (wanted.withResult id)

section

variable {insts insts' : List Inst} {wanted : Inst} {id id' : Word}

theorem Interned.mem (h : Interned insts wanted id) : wanted.withResult id ∈ insts :=
  List.mem_of_find?_eq_some h

/-- More instructions at the end do not come first. -/
theorem Interned.mono (h : Interned insts wanted id) (hp : insts <+: insts') :
    Interned insts' wanted id := by
  obtain ⟨more, rfl⟩ := hp
  rw [Interned, List.find?_append, h]
  rfl

theorem Interned.unique (h : Interned insts wanted id) (h' : Interned insts wanted id') :
    id = id' := by
  have heq := Option.some.inj (h.symm.trans h')
  exact Option.some.inj (congrArg Inst.result? heq)

/-- An instruction with an expression of its own is interned when it is added. -/
theorem Interned.concat (h : insts.find? wanted.sameExpression = none) :
    Interned (insts ++ [wanted.withResult id]) wanted id := by
  rw [Interned, List.find?_append, h, Option.none_or, List.find?_singleton, if_pos]
  simp [Inst.sameExpression, Inst.withResult]

/-- What is found is the wanted expression, if it has a result. -/
theorem Interned.of_find? {i : Inst} (h : insts.find? wanted.sameExpression = some i)
    (hi : i.result? = some id) : Interned insts wanted id := by
  have hsame := List.find?_some h
  simp only [Inst.sameExpression, Bool.and_eq_true, beq_iff_eq] at hsame
  obtain ⟨⟨hop, htype⟩, hargs⟩ := hsame
  rw [Interned, h]
  obtain ⟨op, type?, result?, operands⟩ := i
  simp only at hop htype hargs hi
  subst hop htype hargs hi
  rfl

end

/-- Whether instructions of an operation are interned; each array, struct and variable is one of its
own. -/
def Op.isInterned : Op → Bool
  | typeArray | typeStruct | globalVariable => false
  | _ => true

/-- The id of a scalar type, as interning finds it. -/
def ScalarId (globals : List Inst) (s : ScalarType) (type : Word) : Prop :=
  Interned globals (scalarDeclaration s none) type

/-- The id of a type of values, as interning finds it. -/
def TypeId (globals : List Inst) (t : ValueType) (type : Word) : Prop :=
  ∃ s, ScalarId globals t.scalar s ∧
    if t.count = 1 then type = s
    else Interned globals ⟨.typeVector, none, none, [s, UInt32.ofNat t.count]⟩ type

/-- The id of a type of pointers, as interning finds it. -/
def PointerId (globals : List Inst) (storage : StorageClass) (pointee type : Word) : Prop :=
  Interned globals ⟨.typePointer, none, none, [storage.number, pointee]⟩ type

section

variable {globals globals' known : List Inst} {s : ScalarType} {τ : ValueType} {t t' : Word}

theorem ScalarId.mono (h : ScalarId globals s t) (hp : globals <+: globals') :
    ScalarId globals' s t := Interned.mono h hp

theorem ScalarId.isScalar (h : ScalarId globals s t) (hk : globals ⊆ known) :
    IsScalar known s t := by
  have hmem := hk h.mem
  cases s <;> exact hmem

theorem TypeId.mono (h : TypeId globals τ t) (hp : globals <+: globals') :
    TypeId globals' τ t := by
  obtain ⟨s, hs, ht⟩ := h
  refine ⟨s, hs.mono hp, ?_⟩
  split at ht
  · next h1 => rw [if_pos h1, ht]
  · next h1 =>
    rw [if_neg h1]
    exact Interned.mono ht hp

theorem TypeId.unique (h : TypeId globals τ t) (h' : TypeId globals τ t') : t = t' := by
  obtain ⟨s, hs, ht⟩ := h
  obtain ⟨s', hs', ht'⟩ := h'
  cases Interned.unique hs hs'
  split at ht
  · rw [if_pos ‹_›] at ht'
    rw [ht, ht']
  · rw [if_neg ‹_›] at ht'
    exact Interned.unique ht ht'

theorem TypeId.mem_results (h : TypeId globals τ t) : t ∈ results globals := by
  obtain ⟨s, hs, ht⟩ := h
  split at ht
  · exact ht ▸ (hs.isScalar fun _ h => h).mem_results
  · exact mem_results_of_mem ht.mem

/-- The interned type of one to four components is their type. -/
theorem TypeId.isType (h : TypeId globals τ t) (hk : globals ⊆ known) (hpos : 1 ≤ τ.count)
    (hfour : τ.count ≤ 4) : IsType known τ t := by
  obtain ⟨s, hs, ht⟩ := h
  split at ht
  · next h1 =>
    subst ht
    exact .inl ⟨h1, hs.isScalar hk⟩
  · next h1 => exact .inr ⟨by omega, hfour, s, hs.isScalar hk, hk ht.mem⟩

theorem PointerId.mono {storage : StorageClass} {pointee : Word}
    (h : PointerId globals storage pointee t) (hp : globals <+: globals') :
    PointerId globals' storage pointee t := Interned.mono h hp

theorem PointerId.isPointerType {storage : StorageClass} {pointee : Word}
    (h : PointerId globals storage pointee t) (hk : globals ⊆ known) :
    IsPointerType known storage pointee t := hk h.mem

end

/-! ## Types, constants and variables -/

/-- A type, constant or variable refers to earlier ones. The type of a constant number is scalar,
and the parts of a composite constant are constant numbers. -/
inductive Grounded (before : List Inst) : Inst → Prop
  | type {op : Op} {id : Word} {operands : List Word} (hs : op.section = .global)
      (hl : op.layout = .result)
      (hids : ∀ x ∈ Inst.operandIds 0 ⟨op, none, some id, operands⟩, x ∈ results before) :
      Grounded before ⟨op, none, some id, operands⟩
  | constant {s : ScalarType} {type id bits : Word} (ht : IsScalar before s type) :
      Grounded before ⟨.constant, some type, some id, [bits]⟩
  | composite {type id : Word} {parts : List Word} (ht : type ∈ results before)
      (hp : ∀ p ∈ parts, ∃ s bits, ⟨.constant, some s, some p, [bits]⟩ ∈ before) :
      Grounded before ⟨.constantComposite, some type, some id, parts⟩
  | memory {storage : StorageClass} {pointee type id : Word}
      (ht : IsPointerType before storage pointee type) :
      Grounded before ⟨.globalVariable, some type, some id, [storage.number]⟩

namespace Grounded

variable {before : List Inst} {i : Inst}

theorem result (h : Grounded before i) : ∃ id, i.result? = some id := by
  cases h <;> exact ⟨_, rfl⟩

theorem section_eq (h : Grounded before i) : i.op.section = .global := by
  cases h with
  | type hs => exact hs
  | _ => rfl

theorem isLaidOut (h : Grounded before i) : i.IsLaidOut := by
  cases h with
  | type _ hl =>
    rw [Inst.IsLaidOut, hl]
    exact ⟨rfl, rfl⟩
  | _ => exact ⟨rfl, rfl⟩

/-- What an instruction refers to stands before it; the words of names play no part. -/
theorem references (h : Grounded before i) (nameWords : Nat) :
    ∀ id ∈ i.references nameWords, id ∈ results before := by
  intro id hid
  cases h with
  | @type op id operands hs hl hids =>
    refine hids _ ?_
    cases op <;> first | exact hid | cases hs
  | constant ht =>
    simp only [Inst.references, Inst.operandIds, Option.toList_some, List.append_nil,
      List.mem_singleton] at hid
    subst hid
    exact ht.mem_results
  | composite ht hp =>
    simp only [Inst.references, Inst.operandIds, Option.toList_some, List.singleton_append,
      List.mem_cons] at hid
    rcases hid with rfl | hid
    · exact ht
    · obtain ⟨s, bits, hmem⟩ := hp id hid
      exact mem_results_of_mem hmem
  | memory ht =>
    simp only [Inst.references, Inst.operandIds, Option.toList_some, List.append_nil,
      List.mem_singleton] at hid
    subst hid
    exact mem_results_of_mem ht

end Grounded

/-! ## The function -/

/-- The function under construction: complete blocks, and possibly an open one at the end. -/
def IsBody (insts : List Inst) : Prop :=
  ∃ first blocks, first.op = .function ∧ (∀ block ∈ blocks, IsBlock block) ∧
    match openBlock insts with
    | some code => ∃ label, label.op = .label ∧ (∀ i ∈ code, i.IsInner) ∧
        insts = first :: (blocks.flatten ++ label :: code)
    | none => blocks ≠ [] ∧ insts = first :: blocks.flatten

namespace IsBody

variable {insts : List Inst} {i : Inst}

/-- An instruction is added to an open block. -/
theorem concat_inner (h : IsBody insts) (ho : (openBlock insts).isSome) (hi : i.IsInner) :
    IsBody (insts ++ [i]) := by
  obtain ⟨first, blocks, hf, hb, hrest⟩ := h
  obtain ⟨code, hcode⟩ := Option.isSome_iff_exists.1 ho
  simp only [hcode] at hrest
  obtain ⟨label, hl, hc, rfl⟩ := hrest
  refine ⟨first, blocks, hf, hb, ?_⟩
  simp only [openBlock_concat_inner hi, hcode, Option.map_some]
  refine ⟨label, hl, fun j hj => ?_, by simp⟩
  rcases List.mem_append.1 hj with hj | hj
  · exact hc j hj
  · rw [List.mem_singleton.1 hj]
    exact hi

/-- A block is opened when none is open. -/
theorem concat_label (h : IsBody insts) (ho : openBlock insts = none) (hi : i.op = .label) :
    IsBody (insts ++ [i]) := by
  obtain ⟨first, blocks, hf, hb, hrest⟩ := h
  simp only [ho] at hrest
  obtain ⟨-, rfl⟩ := hrest
  refine ⟨first, blocks, hf, hb, ?_⟩
  simp only [openBlock_concat_label hi]
  exact ⟨i, hi, by simp, by simp⟩

/-- A return completes the open block. -/
theorem concat_return (h : IsBody insts) (ho : (openBlock insts).isSome)
    (hi : i.op = .functionReturn) : IsBody (insts ++ [i]) := by
  obtain ⟨first, blocks, hf, hb, hrest⟩ := h
  obtain ⟨code, hcode⟩ := Option.isSome_iff_exists.1 ho
  simp only [hcode] at hrest
  obtain ⟨label, hl, hc, rfl⟩ := hrest
  refine ⟨first, blocks ++ [label :: (code ++ [i])], hf, fun block hblock => ?_, ?_⟩
  · rcases List.mem_append.1 hblock with hblock | hblock
    · exact hb block hblock
    · rw [List.mem_singleton.1 hblock]
      exact ⟨label, code, i, rfl, hl, hi, hc⟩
  · simp only [openBlock_concat_return hi]
    exact ⟨by simp, by simp⟩

end IsBody

/-! ## Modules -/

/-- A name or decoration of something that is defined. -/
def Inst.RefersTo (i : Inst) (s : Section) (ids : List Word) : Prop :=
  ∃ op id rest, i = .effect op (id :: rest) ∧ op.section = s ∧ id ∈ ids

namespace Module

/-- What stands outside the function and can be used in it. -/
def known (m : Module) : List Inst := m.imports ++ m.globals.toList

/-- All instructions that define something. -/
def defining (m : Module) : List Inst := m.known ++ m.body.toList

/-- The code of the open block. -/
def block (m : Module) : List Inst := (openBlock m.body.toList).getD []

/-- Results are positive, below the bound, and different from each other. -/
structure Fresh (m : Module) : Prop where
  bounded : ∀ id ∈ results m.defining, 0 < id.toNat ∧ id.toNat < m.bound
  nodup : (results m.defining).Nodup

/-- What holds of a module under construction. -/
structure WellFormed (m : Module) : Prop where
  /-- The bound leaves out zero. -/
  positive : 0 < m.bound
  /-- Types, constants and variables refer to earlier ones. -/
  globals : Stepwise Grounded m.globals.toList
  /-- No two types or constants are alike. -/
  interned : ∀ op type? id operands, op.isInterned = true →
    ⟨op, type?, some id, operands⟩ ∈ m.globals.toList →
      Interned m.globals.toList ⟨op, type?, none, operands⟩ id
  /-- The function consists of blocks. -/
  body : IsBody m.body.toList
  /-- Its instructions are typed. -/
  typed : Stepwise (fun before i => Typed m.known ((openBlock before).getD []) i) m.body.toList
  /-- Names are given to what is defined. -/
  names : ∀ i ∈ m.names.toList, i.RefersTo .name (results m.defining)
  /-- Decorations are given to what is defined. -/
  annotations : ∀ i ∈ m.annotations.toList, i.RefersTo .decoration (results m.defining)
  /-- The entry point is declared at the end. -/
  unentered : m.entryPoints.toList = [] ∧ m.executionModes.toList = []
  /-- Ids are fresh until they overflow. -/
  fresh : m.bound < UInt32.size → m.Fresh

/-- How a module grows. -/
structure Grows (m m' : Module) : Prop where
  bound : m.bound ≤ m'.bound
  imports : m.imports ⊆ m'.imports
  globals : m.globals.toList <+: m'.globals.toList
  body : m.body.toList <+: m'.body.toList

/-- How a module grows while blocks stay open. -/
structure Continues (m m' : Module) : Prop extends Grows m m' where
  inner : (openBlock m.body.toList).isSome →
    ∃ more, m'.body.toList = m.body.toList ++ more ∧ ∀ i ∈ more, i.IsInner

section

variable {m m' m'' : Module}

theorem Grows.refl (m : Module) : m.Grows m :=
  ⟨Nat.le_refl _, fun _ h => h, List.prefix_rfl, List.prefix_rfl⟩

theorem Grows.trans (h : m.Grows m') (h' : m'.Grows m'') : m.Grows m'' :=
  ⟨Nat.le_trans h.bound h'.bound, fun _ hi => h'.imports (h.imports hi),
    h.globals.trans h'.globals, h.body.trans h'.body⟩

theorem Grows.known (h : m.Grows m') : m.known ⊆ m'.known := by
  intro i hi
  rcases List.mem_append.1 hi with hi | hi
  · exact List.mem_append_left _ (h.imports hi)
  · exact List.mem_append_right _ (h.globals.subset hi)

theorem Grows.defining (h : m.Grows m') : m.defining ⊆ m'.defining := by
  intro i hi
  rcases List.mem_append.1 hi with hi | hi
  · exact List.mem_append_left _ (h.known hi)
  · exact List.mem_append_right _ (h.body.subset hi)

theorem Continues.refl (m : Module) : m.Continues m :=
  ⟨.refl m, fun _ => ⟨[], (List.append_nil _).symm, nofun⟩⟩

/-- The code of an open block is the beginning of what it becomes. -/
theorem Continues.block (h : m.Continues m') {code : List Inst}
    (hc : openBlock m.body.toList = some code) :
    ∃ more, openBlock m'.body.toList = some (code ++ more) := by
  obtain ⟨more, heq, hmore⟩ := h.inner (by rw [hc]; rfl)
  exact ⟨more, by rw [heq, openBlock_append_inner hmore, hc]; rfl⟩

theorem Continues.isOpen (h : m.Continues m') (ho : (openBlock m.body.toList).isSome) :
    (openBlock m'.body.toList).isSome := by
  obtain ⟨code, hc⟩ := Option.isSome_iff_exists.1 ho
  obtain ⟨more, hc'⟩ := h.block hc
  exact Option.isSome_iff_exists.2 ⟨_, hc'⟩

theorem Continues.trans (h : m.Continues m') (h' : m'.Continues m'') : m.Continues m'' := by
  refine ⟨h.toGrows.trans h'.toGrows, fun ho => ?_⟩
  obtain ⟨more, heq, hmore⟩ := h.inner ho
  obtain ⟨more', heq', hmore'⟩ := h'.inner (h.isOpen ho)
  refine ⟨more ++ more', by rw [heq', heq, List.append_assoc], fun i hi => ?_⟩
  rcases List.mem_append.1 hi with hi | hi
  · exact hmore i hi
  · exact hmore' i hi

theorem Continues.block_subset (h : m.Continues m') : m.block ⊆ m'.block := by
  rw [Module.block, Module.block]
  rcases hc : openBlock m.body.toList with _ | code
  · exact List.nil_subset _
  · obtain ⟨more, hc'⟩ := h.block hc
    rw [hc']
    exact List.subset_append_left _ _

theorem globals_subset_known (m : Module) : m.globals.toList ⊆ m.known :=
  fun _ hi => List.mem_append_right _ hi

theorem mem_defining_of_globals {id : Word} (h : id ∈ results m.globals.toList) :
    id ∈ results m.defining :=
  results_subset (fun _ hi => List.mem_append_left _ (m.globals_subset_known hi)) h

/-- Every reference of a declaration has its definition among the declarations. -/
theorem WellFormed.known_closed (h : m.WellFormed) (nameWords : Nat) :
    ∀ i ∈ m.known, ∀ id ∈ i.references nameWords, id ∈ results m.known := by
  intro i hi id hid
  rcases List.mem_append.1 hi with hi | hi
  · rw [imports] at hi
    split at hi
    · rw [List.mem_singleton.1 hi] at hid
      cases hid
    · cases hi
  · obtain ⟨before, hb, hg⟩ := h.globals.of_mem hi
    exact results_subset (fun j hj => m.globals_subset_known (hb hj)) (hg.references _ id hid)

end

end Module

/-! ## Well-typed modules -/

/-- What can be used in functions: the imports, types, constants and variables. -/
def declarations (insts : List Inst) : List Inst :=
  insts.filter fun i => i.op.section = .importing ∨ i.op.section = .global

/-- The instructions of a finished module are typed. Ids are unique, and so are types and constants,
so an id that is found to be a type is the only id of that type. -/
structure WellTyped (insts : List Inst) : Prop where
  /-- Every result is defined once. -/
  once : (results insts).Nodup
  /-- No two types or constants are alike. -/
  alike : ∀ i ∈ globalSection insts, ∀ j ∈ globalSection insts, i.op.isInterned = true →
    i.sameExpression j = true → i = j
  /-- Every instruction of the function fits the declarations and what comes before it in its
  block. -/
  typed : ∃ body last, functionSection insts = body ++ [last] ∧ last.op = .functionEnd ∧
    ∀ before i behind, body = before ++ i :: behind →
      Typed (declarations insts) ((openBlock before).getD []) i

end ShaderLowering.Spirv
