import Mathlib.Data.List.Nodup
import ShaderLowering.Proofs.Spirv.Building
import ShaderLowering.Proofs.Spirv.Journal

/-!
# The ids that calls answer

A module that is built by any calls, sensible or not, keeps its ids apart. Types and constants go by
their keys (`Inst.key`): whoever asks for one gets the id of the one instruction with its key,
through whichever call. Every other id is new.

`Module.Numbered` is what every call keeps, and `Call.Answers` says what the answer of a call can
be. A `Ledger` notes what calls have asked for and which ids they were given; `Ledger.Sound` is the
invariant of its entries.
-/

namespace ShaderLowering.Spirv

/-! ## Keys -/

namespace Inst

/-- What types and constants are told apart by: the opcode, the type of the result where there is
one, and the operands. -/
def key (i : Inst) : Nat × List Word := (i.op.code, i.resultType?.toList ++ i.operands)

/-- An instruction has a result type if its operation wants one, and only then. -/
def TypeFits (i : Inst) : Prop := i.resultType?.isSome = (i.op.layout == .typed)

/-- A type or constant that can be asked for: all of it but the result. -/
structure IsWanted (i : Inst) : Prop where
  section_eq : i.op.section = .global
  interned : i.op.isInterned = true
  result : i.result? = none
  laidOut : ∀ id, (i.withResult id).IsLaidOut

variable {i j : Inst}

theorem IsLaidOut.typeFits (h : i.IsLaidOut) : i.TypeFits := by
  rw [IsLaidOut] at h
  rw [TypeFits]
  cases hl : i.op.layout <;> rw [hl] at h <;> simp [h.1]

/-- Types, constants and variables have results. -/
theorem IsLaidOut.exists_result (h : i.IsLaidOut) (hs : i.op.section = .global) :
    ∃ id, i.result? = some id := by
  rw [IsLaidOut] at h
  obtain ⟨op, type?, result?, operands⟩ := i
  cases op <;> first | exact Option.isSome_iff_exists.1 h.2 | cases hs

theorem IsWanted.typeFits (h : i.IsWanted) : i.TypeFits := (h.laidOut 0).typeFits

theorem op_eq_of_key_eq (h : i.key = j.key) : i.op = j.op :=
  Op.code_inj (congrArg Prod.fst h)

/-- Instructions with one key are the same but for their results. -/
theorem key_eq_iff (hi : i.TypeFits) (hj : j.TypeFits) :
    i.key = j.key ↔ i.sameExpression j = true := by
  constructor
  · intro h
    have hop := op_eq_of_key_eq h
    have hwords : i.resultType?.toList ++ i.operands = j.resultType?.toList ++ j.operands :=
      congrArg Prod.snd h
    rw [TypeFits, hop, ← hj] at hi
    simp only [sameExpression, Bool.and_eq_true, beq_iff_eq]
    -- either both have a result type, which is the first word of the key, or none has
    rcases hti : i.resultType? with _ | t <;> rcases htj : j.resultType? with _ | t'
    all_goals simp_all
  · intro h
    simp only [sameExpression, Bool.and_eq_true, beq_iff_eq] at h
    obtain ⟨⟨hop, htype⟩, hoperands⟩ := h
    rw [key, key, hop, htype, hoperands]

end Inst

/-- Where results are different, the result tells the instruction. -/
theorem eq_of_result_eq {insts : List Inst} (h : (results insts).Nodup) {i j : Inst} {id : Word}
    (hi : i ∈ insts) (hj : j ∈ insts) (hri : i.result? = some id) (hrj : j.result? = some id) :
    i = j := by
  obtain ⟨before, behind, rfl⟩ := List.append_of_mem hi
  rw [results_append, results_cons, hri, Option.toList_some, List.singleton_append,
    List.nodup_middle, List.nodup_cons, ← results_append] at h
  rcases List.mem_append.1 hj with hj | hj
  · exact (h.1 (mem_results.2 ⟨j, List.mem_append_left _ hj, hrj⟩)).elim
  · rcases List.mem_cons.1 hj with rfl | hj
    · rfl
    · exact (h.1 (mem_results.2 ⟨j, List.mem_append_right _ hj, hrj⟩)).elim

/-! ## Modules -/

namespace Module

/-- What holds of a module whatever calls have built it. -/
structure Numbered (m : Module) : Prop where
  /-- Types, constants and variables are laid out. -/
  laidOut : ∀ i ∈ m.globals.toList, i.op.section = .global ∧ i.IsLaidOut
  /-- No two types or constants have one key. -/
  distinct : m.globals.toList.Pairwise fun i j => i.op.isInterned = true → i.key ≠ j.key
  /-- Results are below the bound until ids overflow. -/
  below : m.bound < UInt32.size → ∀ id ∈ results m.known, id.toNat < m.bound
  /-- Results are different until ids overflow. -/
  nodup : m.bound < UInt32.size → (results m.known).Nodup

/-- An id has been taken since a module was another one. -/
def Takes (m : Module) (id : Word) (m' : Module) : Prop :=
  ∃ n, m.bound ≤ n ∧ n < m'.bound ∧ id = UInt32.ofNat n

variable {m m' : Module} {id : Word}

theorem numbered_empty : empty.Numbered where
  laidOut := nofun
  distinct := .nil
  below := nofun
  nodup _ := List.nodup_nil

/-- More ids can be taken by what is no type, constant or variable. -/
theorem Numbered.keep (h : m.Numbered) (hb : m.bound ≤ m'.bound) (hi : m'.imports = m.imports)
    (hg : m'.globals = m.globals) : m'.Numbered := by
  have hk : m'.known = m.known := by rw [known, known, hi, hg]
  refine ⟨by rw [hg]; exact h.laidOut, by rw [hg]; exact h.distinct, fun hfit id hid => ?_,
    fun hfit => ?_⟩
  · exact Nat.lt_of_lt_of_le (h.below (Nat.lt_of_le_of_lt hb hfit) id (hk ▸ hid)) hb
  · rw [hk]
    exact h.nodup (Nat.lt_of_le_of_lt hb hfit)

/-- A new result goes with the others. -/
theorem Numbered.insert (h : m.Numbered) (hb : m'.bound = m.bound + 1)
    (hp : (results m'.known).Perm (UInt32.ofNat m.bound :: results m.known))
    (hfit : m'.bound < UInt32.size) :
    (∀ id ∈ results m'.known, id.toNat < m'.bound) ∧ (results m'.known).Nodup := by
  have hroom : m.bound < UInt32.size := by omega
  rw [hb] at hfit ⊢
  exact insert_next (h.below hroom) (h.nodup hroom) hp hfit

theorem Numbered.withGlsl (h : m.Numbered) (hn : m.glsl? = none) : m.withGlsl.Numbered := by
  have hp : (results m.withGlsl.known).Perm (UInt32.ofNat m.bound :: results m.known) := by
    simp only [known, imports, Module.withGlsl, hn, results_cons, Option.toList_some,
      List.nil_append, List.cons_append]
    exact .refl _
  exact ⟨h.laidOut, h.distinct, fun hfit => (h.insert rfl hp hfit).1,
    fun hfit => (h.insert rfl hp hfit).2⟩

theorem Numbered.withGlobal (h : m.Numbered) {op : Op} {type? : Option Word} {operands : List Word}
    (hs : op.section = .global) (hl : ∀ id, Inst.IsLaidOut ⟨op, type?, some id, operands⟩)
    (hn : op.isInterned = true →
      ∀ i ∈ m.globals.toList, i.key ≠ Inst.key ⟨op, type?, none, operands⟩) :
    (m.withGlobal op type? operands).Numbered := by
  have hglobals := m.globals_withGlobal op type? operands
  have hp : (results (m.withGlobal op type? operands).known).Perm
      (UInt32.ofNat m.bound :: results m.known) := by
    rw [known, hglobals, ← List.append_assoc, results_append]
    exact List.perm_append_singleton ..
  refine ⟨?_, ?_, fun hfit => (h.insert rfl hp hfit).1, fun hfit => (h.insert rfl hp hfit).2⟩
  · rw [hglobals]
    exact List.forall_mem_append.2 ⟨h.laidOut, List.forall_mem_singleton.2 ⟨hs, hl _⟩⟩
  · rw [hglobals]
    refine List.pairwise_append.2 ⟨h.distinct, List.pairwise_singleton .., ?_⟩
    intro i hi j hj hop heq
    obtain rfl := List.mem_singleton.1 hj
    -- one key is one operation, so the new instruction is interned as well
    have hsame : i.op = op := Inst.op_eq_of_key_eq heq
    exact hn (hsame ▸ hop) i hi heq

/-- The one instruction with a key is the one that is found. -/
theorem Numbered.filter_key (h : m.Numbered) {i : Inst} (hi : i.IsWanted)
    (hid : Interned m.globals.toList i id) :
    m.globals.toList.filter (·.key = i.key) = [i.withResult id] := by
  obtain ⟨before, behind, hsplit⟩ := List.append_of_mem hid.mem
  have hdistinct := h.distinct
  rw [hsplit, List.pairwise_append, List.pairwise_cons] at hdistinct
  obtain ⟨-, ⟨hbehind, -⟩, hbefore⟩ := hdistinct
  have hkey : (i.withResult id).key = i.key := rfl
  have hnone : before.filter (·.key = i.key) = [] := List.filter_eq_nil_iff.2 fun j hj hjkey => by
    have heq : j.key = i.key := of_decide_eq_true hjkey
    have hop : j.op = i.op := Inst.op_eq_of_key_eq heq
    exact hbefore j hj _ List.mem_cons_self (hop ▸ hi.interned) heq
  have hnone' : behind.filter (·.key = i.key) = [] := List.filter_eq_nil_iff.2 fun j hj hjkey =>
    hbehind j hj hi.interned (of_decide_eq_true hjkey).symm
  rw [hsplit, List.filter_append, hnone, List.filter_cons, if_pos (decide_eq_true hkey), hnone',
    List.nil_append]

/-- Different keys have different ids. -/
theorem Numbered.key_eq (h : m.Numbered) (hfit : m.bound < UInt32.size) {i j : Inst}
    (hi : Interned m.globals.toList i id) (hj : Interned m.globals.toList j id) :
    i.key = j.key := by
  have hnodup := h.nodup hfit
  rw [known, results_append, List.nodup_append] at hnodup
  have heq := eq_of_result_eq hnodup.2.1 hi.mem hj.mem rfl rfl
  have hkey : (i.withResult id).key = (j.withResult id).key := congrArg Inst.key heq
  exact hkey

theorem takes_next (h : m'.bound = m.bound + 1) : m.Takes (UInt32.ofNat m.bound) m' :=
  ⟨m.bound, Nat.le_refl _, h ▸ Nat.lt_succ_self _, rfl⟩

theorem Takes.mono {m'' : Module} (h : m'.Takes id m'') (hb : m.bound ≤ m'.bound) :
    m.Takes id m'' := by
  obtain ⟨n, hn, hlt, rfl⟩ := h
  exact ⟨n, Nat.le_trans hb hn, hlt, rfl⟩

end Module

/-! ## Steps -/

section

variable {α β : Type} {m : Module} {b : Build α} {f : α → Build β}
variable {Q : α → Module → Prop} {R : β → Module → Prop}

/-- A step takes ids in order, and has a result with a property. -/
structure Numbers (m : Module) (b : Build α) (Q : α → Module → Prop) : Prop where
  grows : m.Grows (b.run m).2
  numbered : (b.run m).2.Numbered
  result : Q (b.run m).1 (b.run m).2

theorem Numbers.pure {a : α} (hm : m.Numbered) (h : Q a m) : Numbers m (pure a) Q :=
  ⟨.refl m, hm, h⟩

theorem Numbers.bind (h : Numbers m b Q)
    (hf : (b.run m).2.Numbered → Q (b.run m).1 (b.run m).2 →
      Numbers (b.run m).2 (f (b.run m).1) R) :
    Numbers m (b >>= f) R := by
  have h' := hf h.numbered h.result
  exact ⟨h.grows.trans h'.grows, h'.numbered, h'.result⟩

theorem Numbers.map {g : α → β} (h : Numbers m b fun a m' => R (g a) m') :
    Numbers m (g <$> b) R :=
  ⟨h.grows, h.numbered, h.result⟩

end

namespace Build

variable {m : Module}

/-- A step that takes no id and adds no type, constant or variable. -/
theorem numbers_modify (hm : m.Numbered) {f : Module → Module} (hb : (f m).bound = m.bound)
    (hi : (f m).imports = m.imports) (hg : (f m).globals = m.globals)
    (hbody : m.body.toList <+: (f m).body.toList) : Numbers m (modify f) fun _ _ => True :=
  ⟨⟨Nat.le_of_eq hb.symm, hi ▸ List.Subset.refl _, hg ▸ List.prefix_rfl, hbody⟩,
    hm.keep (Nat.le_of_eq hb.symm) hi hg, trivial⟩

theorem numbers_emit (hm : m.Numbered) (i : Inst) : Numbers m (emit i) fun _ _ => True :=
  numbers_modify hm rfl rfl rfl (m.grows_withCode i).body

theorem numbers_enableCapability (hm : m.Numbered) (c : Capability) :
    Numbers m (enableCapability c) fun _ _ => True := by
  refine numbers_modify hm ?_ ?_ ?_ ?_ <;> split
  all_goals first | exact rfl | exact List.prefix_rfl

theorem numbers_newId (hm : m.Numbered) : Numbers m newId m.Takes :=
  ⟨⟨Nat.le_succ _, List.Subset.refl _, List.prefix_rfl, List.prefix_rfl⟩,
    hm.keep (Nat.le_succ _) rfl rfl, Module.takes_next rfl⟩

theorem numbers_emitValue (hm : m.Numbered) (op : Op) (type : Word) (operands : List Word) :
    Numbers m (emitValue op type operands) m.Takes :=
  ⟨m.grows_withResult op (some type) operands, hm.keep (Nat.le_succ _) rfl rfl,
    Module.takes_next rfl⟩

theorem numbers_decorate (hm : m.Numbered) (id : Word) (decoration : Decoration)
    (args : List Word) : Numbers m (decorate id decoration args) fun _ _ => True :=
  numbers_modify hm rfl rfl rfl List.prefix_rfl

/-- The extended instruction set has an id among those of types, constants and variables. -/
theorem numbers_importGlsl (hm : m.Numbered) :
    Numbers m importGlsl fun id m' => id ∈ results m'.known := by
  rcases hg : m.glsl? with _ | id
  · refine ⟨?_, ?_, ?_⟩ <;> rw [run_importGlsl_of_none hg]
    · exact Module.grows_withGlsl hg
    · exact hm.withGlsl hg
    · exact List.mem_cons_self
  · refine ⟨?_, ?_, ?_⟩ <;> rw [run_importGlsl_of_some hg]
    · exact .refl m
    · exact hm
    · simp [Module.known, Module.imports, hg, results_cons]

theorem numbers_emitGlsl (hm : m.Numbered) (type : Word) (op : GlslOp) (args : List Word) :
    Numbers m (emitGlsl type op args) m.Takes := by
  have hset := numbers_importGlsl hm
  refine hset.bind fun hm' _ => ?_
  have hvalue := numbers_emitValue hm' .extInst type ((importGlsl.run m).1 :: op.number :: args)
  exact ⟨hvalue.grows, hvalue.numbered, hvalue.result.mono hset.grows.bound⟩

/-- Arrays, structs and variables are always new. -/
theorem numbers_addGlobal (hm : m.Numbered) {op : Op} {type? : Option Word} {operands : List Word}
    (hs : op.section = .global) (hl : ∀ id, Inst.IsLaidOut ⟨op, type?, some id, operands⟩)
    (hop : op.isInterned = false) : Numbers m (addGlobal op type? operands) m.Takes :=
  ⟨m.grows_withGlobal op type? operands,
    hm.withGlobal hs hl fun h => absurd (hop.symm.trans h) Bool.false_ne_true,
    Module.takes_next rfl⟩

/-- A type or constant is found, or it is new. -/
theorem numbers_intern (hm : m.Numbered) {op : Op} {type? : Option Word} {operands : List Word}
    (hi : Inst.IsWanted ⟨op, type?, none, operands⟩) :
    Numbers m (intern op type? operands) fun id m' =>
      Interned m'.globals.toList ⟨op, type?, none, operands⟩ id := by
  rcases hfind : m.globals.toList.find? (Inst.sameExpression ⟨op, type?, none, operands⟩)
    with _ | i
  · refine ⟨?_, ?_, ?_⟩ <;> rw [run_intern_of_none hfind]
    · exact m.grows_withGlobal op type? operands
    · refine hm.withGlobal hi.section_eq hi.laidOut fun _ i hmem heq => ?_
      have hsame := (Inst.key_eq_iff hi.typeFits (hm.laidOut i hmem).2.typeFits).1 heq.symm
      exact List.find?_eq_none.1 hfind i hmem hsame
    · rw [Module.globals_withGlobal]
      exact Interned.concat hfind
  · have hmem := List.mem_of_find?_eq_some hfind
    have hsame := List.find?_some hfind
    have hop : op = i.op := by
      simp only [Inst.sameExpression, Bool.and_eq_true, beq_iff_eq] at hsame
      exact hsame.1.1
    obtain ⟨id, hid⟩ := (hm.laidOut i hmem).2.exists_result (hop ▸ hi.section_eq)
    have hinterned := Interned.of_find? hfind hid
    refine ⟨?_, ?_, ?_⟩ <;> rw [run_intern_of_interned hinterned]
    · exact .refl m
    · exact hm
    · exact hinterned

end Build

/-! ## Calls -/

namespace Call

/-- The id that a call answers, for those that answer one. -/
def respond : Call → Build (Option Word)
  | newId => some <$> Build.newId
  | importGlsl => some <$> Build.importGlsl
  | voidType => some <$> Build.voidType
  | boolType => some <$> Build.boolType
  | intType width signed => some <$> Build.intType width signed
  | floatType width => some <$> Build.floatType width
  | vectorType component count => some <$> Build.vectorType component count
  | pointerType pointee storage => some <$> Build.pointerType pointee storage
  | functionType result params => some <$> Build.functionType result params
  | newArrayType element length => some <$> Build.newArrayType element length
  | newStructType members => some <$> Build.newStructType members
  | imageType sampledType dim depth arrayed multisampled sampled format =>
    some <$> Build.imageType sampledType dim depth arrayed multisampled sampled format
  | samplerType => some <$> Build.samplerType
  | sampledImageType image => some <$> Build.sampledImageType image
  | constant type bits => some <$> Build.constant type bits
  | constantU32 value => some <$> Build.constantU32 value
  | constantI32 bits => some <$> Build.constantI32 bits
  | constantF32 bits => some <$> Build.constantF32 bits
  | constantComposite type parts => some <$> Build.constantComposite type parts
  | newVariable type storage => some <$> Build.newVariable type storage
  | emitValue op _ type operands => some <$> Build.emitValue op type operands
  | emitGlsl type op args => some <$> Build.emitGlsl type op args
  | emitSampleLod type sampledImage coordinate lod =>
    some <$> Build.emitSampleLod type sampledImage coordinate lod
  | c => do
    c.run
    return none

/-- The type or constant that a call asks for. The type of a constant number is asked for first. -/
def wanted? : Call → Option (Build Inst)
  | voidType => some <| return ⟨.typeVoid, none, none, []⟩
  | boolType => some <| return ⟨.typeBool, none, none, []⟩
  | intType width signed => some <| return ⟨.typeInt, none, none, [width, if signed then 1 else 0]⟩
  | floatType width => some <| return ⟨.typeFloat, none, none, [width]⟩
  | vectorType component count => some <| return ⟨.typeVector, none, none, [component, count]⟩
  | pointerType pointee storage =>
    some <| return ⟨.typePointer, none, none, [storage.number, pointee]⟩
  | functionType result params => some <| return ⟨.typeFunction, none, none, result :: params⟩
  | imageType sampledType dim depth arrayed multisampled sampled format =>
    some <| return ⟨.typeImage, none, none,
      [sampledType, dim.number, depth, if arrayed then 1 else 0, if multisampled then 1 else 0,
       sampled, format.number]⟩
  | samplerType => some <| return ⟨.typeSampler, none, none, []⟩
  | sampledImageType image => some <| return ⟨.typeSampledImage, none, none, [image]⟩
  | constant type bits => some <| return ⟨.constant, some type, none, [bits]⟩
  | constantU32 value =>
    some do return ⟨.constant, some (← Build.intType 32 false), none, [value]⟩
  | constantI32 bits => some do return ⟨.constant, some (← Build.intType 32 true), none, [bits]⟩
  | constantF32 bits => some do return ⟨.constant, some (← Build.floatType 32), none, [bits]⟩
  | constantComposite type parts => some <| return ⟨.constantComposite, some type, none, parts⟩
  | _ => none

/-- Whether a call takes an id for something that is always new. -/
def isNew : Call → Bool
  | newId | newArrayType _ _ | newStructType _ | newVariable _ _ | emitValue _ _ _ _
  | emitGlsl _ _ _ | emitSampleLod _ _ _ _ => true
  | _ => false

/-- What the answer of a call can be. -/
inductive Answers (c : Call) (m : Module) : Option Word → Module → Prop
  /-- There is no answer. -/
  | nothing {m' : Module} (hw : c.wanted? = none) (hn : c.isNew = false) : Answers c m none m'
  /-- The extended instruction set. -/
  | imported {m' : Module} {id : Word} (hw : c.wanted? = none) (hn : c.isNew = false)
    (hid : id ∈ results m'.known) : Answers c m (some id) m'
  /-- A type or constant. -/
  | interned {m' : Module} {id : Word} {w : Build Inst} (hw : c.wanted? = some w)
    (hn : c.isNew = false) (hi : (w.run m).1.IsWanted)
    (hid : Interned m'.globals.toList (w.run m).1 id) : Answers c m (some id) m'
  /-- Something new. -/
  | taken {m' : Module} {id : Word} (hw : c.wanted? = none) (hn : c.isNew = true)
    (hid : m.Takes id m') : Answers c m (some id) m'

variable {c : Call} {m m' : Module}

theorem run_respond (c : Call) (m : Module) : (c.respond.run m).2 = (c.run.run m).2 := by
  cases c <;> rfl

/-- A call that asks for a type or constant has it interned. -/
theorem respond_of_wanted? {w : Build Inst} (h : c.wanted? = some w) :
    c.respond = w >>= fun i => some <$> Build.intern i.op i.resultType? i.operands := by
  cases c <;> cases h <;> rfl

/-- What a call asks for can be interned. -/
theorem numbers_wanted (hm : m.Numbered) {w : Build Inst} (h : c.wanted? = some w) :
    Numbers m w fun i _ => i.IsWanted := by
  cases c <;> cases h
  case constantU32 | constantI32 | constantF32 =>
    exact Numbers.bind (Build.numbers_intern hm ⟨rfl, rfl, rfl, fun _ => ⟨rfl, rfl⟩⟩) fun hm' _ =>
      .pure hm' ⟨rfl, rfl, rfl, fun _ => ⟨rfl, rfl⟩⟩
  all_goals exact .pure hm ⟨rfl, rfl, rfl, fun _ => ⟨rfl, rfl⟩⟩

/-- A call that asks for a type or constant. -/
theorem numbers_of_wanted? (hm : m.Numbered) {w : Build Inst} (h : c.wanted? = some w)
    (hn : c.isNew = false) : Numbers m c.respond (c.Answers m) := by
  have hw := numbers_wanted hm h
  rw [respond_of_wanted? h]
  refine hw.bind fun hm' hi => ?_
  have heq : (w.run m).1 =
      ⟨(w.run m).1.op, (w.run m).1.resultType?, none, (w.run m).1.operands⟩ := by rw [← hi.result]
  obtain ⟨hgrows, hnumbered, hid⟩ := Build.numbers_intern hm' (heq ▸ hi)
  exact .map ⟨hgrows, hnumbered, .interned h hn hi (heq ▸ hid)⟩

/-- A call that answers something new. -/
theorem numbers_of_takes {b : Build Word} (hb : Numbers m b m.Takes) (hw : c.wanted? = none)
    (hn : c.isNew = true) : Numbers m (some <$> b) (c.Answers m) :=
  .map ⟨hb.grows, hb.numbered, .taken hw hn hb.result⟩

/-- A call without an answer. -/
theorem numbers_of_unit {b : Build Unit} (hb : Numbers m b fun _ _ => True)
    (hw : c.wanted? = none) (hn : c.isNew = false) :
    Numbers m (b >>= fun _ => return none) (c.Answers m) :=
  hb.bind fun hm' _ => .pure hm' (.nothing hw hn)

/-- Every call keeps ids apart. -/
theorem numbers_respond (hm : m.Numbered) (c : Call) : Numbers m c.respond (c.Answers m) := by
  cases c with
  | newId => exact numbers_of_takes (Build.numbers_newId hm) rfl rfl
  | importGlsl =>
    have hset := Build.numbers_importGlsl hm
    exact .map ⟨hset.grows, hset.numbered, .imported rfl rfl hset.result⟩
  | newArrayType | newStructType | newVariable =>
    exact numbers_of_takes (Build.numbers_addGlobal hm rfl (fun _ => ⟨rfl, rfl⟩) rfl) rfl rfl
  | emitValue | emitSampleLod => exact numbers_of_takes (Build.numbers_emitValue hm _ _ _) rfl rfl
  | emitGlsl => exact numbers_of_takes (Build.numbers_emitGlsl hm _ _ _) rfl rfl
  | enableCapability => exact numbers_of_unit (Build.numbers_enableCapability hm _) rfl rfl
  | beginFunction | endFunction | emitLabel | emitReturn | emitStore =>
    exact numbers_of_unit (Build.numbers_emit hm _) rfl rfl
  | decorateBinding id set binding =>
    have hset := Build.numbers_decorate hm id .descriptorSet [set]
    exact numbers_of_unit (hset.bind fun hm' _ => Build.numbers_decorate hm' _ _ _) rfl rfl
  | decorate | decorateBuiltIn | decorateLocation =>
    exact numbers_of_unit (Build.numbers_decorate hm _ _ _) rfl rfl
  | setMemoryModel | addEntryPoint | setExecutionMode | setName | setMemberName | decorateMember =>
    exact numbers_of_unit (Build.numbers_modify hm rfl rfl rfl List.prefix_rfl) rfl rfl
  | _ => exact numbers_of_wanted? hm rfl rfl

section

variable {id? : Option Word}

theorem Answers.of_wanted? (h : c.Answers m id? m') {w : Build Inst} (hw : c.wanted? = some w) :
    (w.run m).1.IsWanted ∧ ∃ id, id? = some id ∧ Interned m'.globals.toList (w.run m).1 id := by
  cases h with
  | interned hw' _ hi hid =>
    cases hw'.symm.trans hw
    exact ⟨hi, _, rfl, hid⟩
  | nothing hw' | imported hw' | taken hw' => cases hw'.symm.trans hw

theorem Answers.of_isNew (h : c.Answers m id? m') (hn : c.isNew = true) :
    ∃ id, id? = some id ∧ m.Takes id m' := by
  cases h with
  | taken _ _ hid => exact ⟨_, rfl, hid⟩
  | nothing _ hn' | imported _ hn' | interned _ hn' => cases hn'.symm.trans hn

/-- The answer of a call is below the bound. -/
theorem Answers.below (h : c.Answers m id? m') (hm' : m'.Numbered)
    (hfit : m'.bound < UInt32.size) : ∀ id, id? = some id → id.toNat < m'.bound := by
  rintro id rfl
  cases h with
  | imported _ _ hid => exact hm'.below hfit id hid
  | interned _ _ _ hid =>
    exact hm'.below hfit id (results_subset m'.globals_subset_known (mem_results_of_mem hid.mem))
  | taken _ _ hid =>
    obtain ⟨n, -, hlt, rfl⟩ := hid
    rw [UInt32.toNat_ofNat']
    exact Nat.lt_of_le_of_lt (Nat.mod_le ..) hlt

end

end Call

/-! ## Ledgers -/

/-- What has come of a call. -/
structure LedgerEntry where
  /-- The call. -/
  call : Call
  /-- The type or constant that it has asked for. -/
  wanted? : Option Inst
  /-- The id that it has answered. -/
  id? : Option Word

/-- A module with the calls that have built it. -/
structure Ledger where
  /-- The module. -/
  module : Module
  /-- The calls in their order. -/
  entries : List LedgerEntry

namespace Ledger

/-- Another call. -/
def add (l : Ledger) (c : Call) : Ledger where
  module := (c.run.run l.module).2
  entries := l.entries ++
    [⟨c, c.wanted?.map fun w => (w.run l.module).1, (c.respond.run l.module).1⟩]

/-- Calls one after the other, beginning with a new module. -/
def of (calls : List Call) : Ledger := calls.foldl add ⟨.empty, []⟩

/-- What holds of the entries of a ledger. -/
structure Sound (l : Ledger) : Prop where
  /-- The module keeps ids apart. -/
  numbered : l.module.Numbered
  /-- What has been asked for is interned under the id that was answered. -/
  wanted : ∀ e ∈ l.entries, ∀ i, e.wanted? = some i → i.IsWanted ∧
    ∃ id, e.id? = some id ∧ Interned l.module.globals.toList i id
  /-- Something new has an id. -/
  taken : ∀ e ∈ l.entries, e.call.isNew = true → e.id?.isSome
  /-- All ids are below the bound until ids overflow. -/
  below : l.module.bound < UInt32.size →
    ∀ e ∈ l.entries, ∀ id, e.id? = some id → id.toNat < l.module.bound
  /-- Something new has an id of its own until ids overflow. -/
  apart : l.module.bound < UInt32.size →
    l.entries.Pairwise fun e e' => e'.call.isNew = true → e.id? ≠ e'.id?

variable {l : Ledger}

theorem sound_start : Sound ⟨.empty, []⟩ where
  numbered := Module.numbered_empty
  wanted _ he := absurd he List.not_mem_nil
  taken _ he := absurd he List.not_mem_nil
  below _ _ he := absurd he List.not_mem_nil
  apart _ := .nil

/-- Another call is noted. -/
theorem Sound.add (h : l.Sound) (c : Call) : (l.add c).Sound := by
  obtain ⟨hgrows, hnumbered, hanswer⟩ := c.numbers_respond h.numbered
  rw [Call.run_respond] at hgrows hnumbered hanswer
  have hfit (hfit : (l.add c).module.bound < UInt32.size) : l.module.bound < UInt32.size :=
    Nat.lt_of_le_of_lt hgrows.bound hfit
  refine ⟨hnumbered, ?wanted, ?taken, fun hroom => ?below, fun hroom => ?apart⟩
  case wanted =>
    refine List.forall_mem_append.2 ⟨?_, List.forall_mem_singleton.2 ?_⟩
    · intro e he i hi
      obtain ⟨hwanted, id, hid, hinterned⟩ := h.wanted e he i hi
      exact ⟨hwanted, id, hid, hinterned.mono hgrows.globals⟩
    · intro i hi
      obtain ⟨w, hw, rfl⟩ := Option.map_eq_some_iff.1 hi
      exact hanswer.of_wanted? hw
  case taken =>
    refine List.forall_mem_append.2 ⟨h.taken, List.forall_mem_singleton.2 fun hn => ?_⟩
    obtain ⟨id, hid, -⟩ := hanswer.of_isNew hn
    exact Option.isSome_iff_exists.2 ⟨id, hid⟩
  case below =>
    refine List.forall_mem_append.2 ⟨fun e he id hid => ?_, List.forall_mem_singleton.2 ?_⟩
    · exact Nat.lt_of_lt_of_le (h.below (hfit hroom) e he id hid) hgrows.bound
    · exact hanswer.below hnumbered hroom
  case apart =>
    refine List.pairwise_append.2 ⟨h.apart (hfit hroom), List.pairwise_singleton .., ?_⟩
    intro e he e' he' hn heq
    obtain rfl := List.mem_singleton.1 he'
    obtain ⟨_, hid, n, hle, hlt, rfl⟩ := hanswer.of_isNew hn
    -- what was answered before is below the ids that are taken now
    have hbelow := h.below (hfit hroom) e he _ (heq.trans hid)
    rw [UInt32.toNat_ofNat', Nat.mod_eq_of_lt (Nat.lt_trans hlt hroom)] at hbelow
    omega

theorem sound_of (calls : List Call) : (of calls).Sound := by
  have hrun {l : Ledger} (h : l.Sound) : (calls.foldl Ledger.add l).Sound := by
    induction calls generalizing l with
    | nil => exact h
    | cons c calls ih => exact ih (h.add c)
  exact hrun sound_start

/-- A ledger has the module that the calls build, and every call in its place. -/
theorem module_of (calls : List Call) :
    (of calls).module = Module.ofCalls calls ∧ (of calls).entries.map (·.call) = calls := by
  have hrun (l : Ledger) : (calls.foldl Ledger.add l).module =
      calls.foldl (fun m c => (c.run.run m).2) l.module ∧
      (calls.foldl Ledger.add l).entries.map (·.call) = l.entries.map (·.call) ++ calls := by
    induction calls generalizing l with
    | nil => exact ⟨rfl, (List.append_nil _).symm⟩
    | cons c calls ih =>
      obtain ⟨hmodule, hentries⟩ := ih (l.add c)
      refine ⟨hmodule, hentries.trans ?_⟩
      rw [Ledger.add, List.map_append, List.append_assoc]
      rfl
  exact hrun ⟨.empty, []⟩

/-- What calls answer, as long as ids do not overflow. Whoever asks for a type or constant gets the
id of the only instruction with its key, so two calls are given one id exactly if they ask for one
key, whichever calls they are and whatever happens in between. No two types or constants have one
key, arrays and structs apart. Whatever else has a result gets an id that no call before it has been
given. -/
theorem interned_ids (calls : List Call) (hfit : (Module.ofCalls calls).bound < UInt32.size) :
    (of calls).module = Module.ofCalls calls ∧ (of calls).entries.map (·.call) = calls ∧
    (∀ e ∈ (of calls).entries, ∀ i, e.wanted? = some i → ∃ id, e.id? = some id ∧
      (Module.ofCalls calls).globals.toList.filter (·.key = i.key) = [i.withResult id]) ∧
    (∀ e ∈ (of calls).entries, ∀ e' ∈ (of calls).entries, ∀ i i', e.wanted? = some i →
      e'.wanted? = some i' → (e.id? = e'.id? ↔ i.key = i'.key)) ∧
    ((Module.ofCalls calls).globals.toList.Pairwise fun i j =>
      i.op.isInterned = true → i.key ≠ j.key) ∧
    ∀ before e behind, (of calls).entries = before ++ e :: behind → e.call.isNew = true →
      ∃ id, e.id? = some id ∧ ∀ e' ∈ before, e'.id? ≠ some id := by
  obtain ⟨hmodule, hcalls⟩ := module_of calls
  have h := sound_of calls
  rw [← hmodule] at hfit ⊢
  refine ⟨rfl, hcalls, fun e he i hi => ?_, fun e he e' he' i i' hi hi' => ?_, h.numbered.distinct,
    fun before e behind heq hn => ?_⟩
  · obtain ⟨hwanted, id, hid, hinterned⟩ := h.wanted e he i hi
    exact ⟨id, hid, h.numbered.filter_key hwanted hinterned⟩
  · obtain ⟨hwanted, id, hid, hinterned⟩ := h.wanted e he i hi
    obtain ⟨hwanted', id', hid', hinterned'⟩ := h.wanted e' he' i' hi'
    rw [hid, hid', Option.some_inj]
    constructor
    · rintro rfl
      exact h.numbered.key_eq hfit hinterned hinterned'
    · intro hkey
      -- the two instructions are the only one of the key
      have hone := h.numbered.filter_key hwanted hinterned
      rw [hkey, h.numbered.filter_key hwanted' hinterned'] at hone
      have hsame := List.head_eq_of_cons_eq hone
      exact (Option.some.inj (congrArg Inst.result? hsame)).symm
  · have hmem : e ∈ (of calls).entries := heq ▸ List.mem_append_right _ List.mem_cons_self
    obtain ⟨id, hid⟩ := Option.isSome_iff_exists.1 (h.taken e hmem hn)
    have hapart := h.apart hfit
    rw [heq, List.pairwise_append] at hapart
    exact ⟨id, hid, fun e' he' heq' =>
      hapart.2.2 e' he' e List.mem_cons_self hn (heq'.trans hid.symm)⟩

/-- A constant is asked for by its number, and later by the id of its type. -/
theorem interned_ids_constantF32 :
    let calls : List Call :=
      [.constantF32 0x3f800000, .newArrayType 1 2, .emitGlsl 1 .fAbs [2], .constant 1 0x3f800000]
    (Module.ofCalls calls).bound < UInt32.size ∧
      ∃ e e', (of calls).entries.head? = some e ∧ (of calls).entries.getLast? = some e' ∧
        e.id? = e'.id? := by
  intro calls
  have hfit : (Module.ofCalls calls).bound < UInt32.size := by decide +kernel
  obtain ⟨-, -, -, hsame, -⟩ := interned_ids calls hfit
  refine ⟨hfit, _, _, rfl, rfl, (hsame _ (List.mem_of_mem_head? rfl) _
    (List.mem_of_getLast? rfl) _ _ rfl rfl).2 rfl⟩

end Ledger

end ShaderLowering.Spirv
