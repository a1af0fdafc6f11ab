import ShaderLowering.Generator.Entry
import ShaderLowering.Proofs.Spirv.Literals

/-!
# What the construction of a module adds

Most steps of the construction add types, constants, names and code that have nothing to do with the
resources of a shader, in instructions of a few words. `Module.Adds` says so of two modules, and
`Build.Calm` of a step. The two things that it leaves out are the decorations that bind a variable
and the instructions that reach into a resource.
-/

namespace ShaderLowering

namespace Spirv

/-! ## Instructions -/

/-- Whether instructions of an operation sample an image. -/
def Op.isSample : Op → Bool
  | imageSampleImplicitLod | imageSampleExplicitLod => true
  | _ => false

/-- Whether instructions of an operation reach into a resource: they find an element of a block or
sample an image. -/
def Op.isAccess (op : Op) : Bool := op == accessChain || op.isSample

namespace Inst

/-- Whether an instruction says where a variable is bound: in which descriptor set, or with which
number. -/
def isBinding (i : Inst) : Bool :=
  i.op == .decorate && (i.operands[1]? == some Decoration.descriptorSet.number ||
    i.operands[1]? == some Decoration.binding.number)

/-- An instruction of at most 32 words. -/
def IsShort (i : Inst) : Prop := i.words.length ≤ 32

/-- A result and its type are two words. -/
theorem isShort_of_operands {op : Op} {type? result? : Option Word} {operands : List Word}
    (h : operands.length ≤ 28) : IsShort ⟨op, type?, result?, operands⟩ := by
  have hlength (o : Option Word) : o.toList.length ≤ 1 := by cases o <;> simp
  have htype := hlength type?
  have hresult := hlength result?
  simp only [IsShort, words, tailWords, List.length_cons, List.length_append]
  omega

end Inst

/-! ## Sections that grow -/

/-- A section with more instructions of a kind at its end. -/
def Extends (P : Inst → Prop) (before after : Array Inst) : Prop :=
  ∃ more, after.toList = before.toList ++ more ∧ ∀ i ∈ more, P i

namespace Extends

variable {P : Inst → Prop} {a b c : Array Inst}

theorem refl (a : Array Inst) : Extends P a a := ⟨[], (List.append_nil _).symm, nofun⟩

theorem push {i : Inst} (h : P i) : Extends P a (a.push i) :=
  ⟨[i], Array.toList_push .., fun j hj => by rwa [List.mem_singleton.1 hj]⟩

theorem trans (h : Extends P a b) (h' : Extends P b c) : Extends P a c := by
  obtain ⟨more, hb, hmore⟩ := h
  obtain ⟨more', hc, hmore'⟩ := h'
  refine ⟨more ++ more', by rw [hc, hb, List.append_assoc], fun i hi => ?_⟩
  rcases List.mem_append.1 hi with hi | hi
  · exact hmore i hi
  · exact hmore' i hi

/-- What holds of a section and of everything that is added holds of the longer section. -/
theorem forall_mem {Q : Inst → Prop} (h : Extends P a b) (ha : ∀ i ∈ a.toList, Q i)
    (hP : ∀ i, P i → Q i) : ∀ i ∈ b.toList, Q i := by
  obtain ⟨more, hb, hmore⟩ := h
  intro i hi
  rw [hb] at hi
  rcases List.mem_append.1 hi with hi | hi
  · exact ha i hi
  · exact hP i (hmore i hi)

/-- Instructions of another kind stay the same. -/
theorem filter_eq {p : Inst → Bool} (h : Extends P a b) (hP : ∀ i, P i → p i = false) :
    b.toList.filter p = a.toList.filter p := by
  obtain ⟨more, hb, hmore⟩ := h
  have hnone : more.filter p = [] :=
    List.filter_eq_nil_iff.2 fun i hi => by simp [hP i (hmore i hi)]
  rw [hb, List.filter_append, hnone, List.append_nil]

end Extends

/-- A module with more in it that has nothing to do with resources, in short instructions. -/
structure Module.Adds (m m' : Module) : Prop where
  names : Extends Inst.IsShort m.names m'.names
  annotations : Extends (fun i => i.IsShort ∧ i.isBinding = false) m.annotations m'.annotations
  globals : Extends Inst.IsShort m.globals m'.globals
  body : Extends (fun i => i.op.isAccess = false) m.body m'.body

namespace Module.Adds

variable {m m' m'' : Module}

theorem refl (m : Module) : m.Adds m := ⟨.refl _, .refl _, .refl _, .refl _⟩

theorem trans (h : m.Adds m') (h' : m'.Adds m'') : m.Adds m'' :=
  ⟨h.names.trans h'.names, h.annotations.trans h'.annotations, h.globals.trans h'.globals,
    h.body.trans h'.body⟩

end Module.Adds

/-! ## Calm steps -/

namespace Build

variable {α β : Type}

/-- A step that has nothing to do with resources, and adds short instructions only. -/
def Calm (b : Build α) : Prop := ∀ m : Module, m.Adds (b.run m).2

theorem Calm.pure (a : α) : Calm (pure a : Build α) := fun m => .refl m

theorem Calm.bind {b : Build α} {f : α → Build β} (h : Calm b) (hf : ∀ a, Calm (f a)) :
    Calm (b >>= f) :=
  fun m => (h m).trans (hf _ _)

/-- What follows a step can rely on what the step results in. -/
theorem Calm.bind_of {b : Build α} {f : α → Build β} {P : α → Prop} (h : Calm b)
    (hP : ∀ m, P (b.run m).1) (hf : ∀ a, P a → Calm (f a)) : Calm (b >>= f) :=
  fun m => (h m).trans (hf _ (hP m) _)

theorem calm_newId : Calm newId := fun _ => ⟨.refl _, .refl _, .refl _, .refl _⟩

theorem calm_enableCapability (c : Capability) : Calm (enableCapability c) := by
  intro m
  change m.Adds (if c ∈ m.capabilities then m else _)
  split <;> exact ⟨.refl _, .refl _, .refl _, .refl _⟩

theorem calm_importGlsl : Calm importGlsl := by
  refine Calm.bind (fun m => .refl m : Calm get) fun m => ?_
  split
  · exact .pure _
  · exact calm_newId.bind fun _ _ => ⟨.refl _, .refl _, .refl _, .refl _⟩

/-! ### Names and decorations -/

theorem calm_setName {text : String} (h : text.utf8ByteSize ≤ 100) (id : Word) :
    Calm (setName id text) := by
  refine fun m => ⟨.push (Inst.isShort_of_operands ?_), .refl _, .refl _, .refl _⟩
  rw [List.length_cons, length_stringWords]
  omega

theorem calm_setMemberName {text : String} (h : text.utf8ByteSize ≤ 96) (id member : Word) :
    Calm (setMemberName id member text) := by
  refine fun m => ⟨.push (Inst.isShort_of_operands ?_), .refl _, .refl _, .refl _⟩
  rw [List.length_cons, List.length_cons, length_stringWords]
  omega

/-- A decoration that binds nothing. -/
theorem calm_decorate {d : Decoration} (hset : d.number ≠ Decoration.descriptorSet.number)
    (hbinding : d.number ≠ Decoration.binding.number) {args : List Word} (h : args.length ≤ 26)
    (id : Word) : Calm (decorate id d args) := by
  refine fun m => ⟨.refl _, .push ⟨Inst.isShort_of_operands ?_, ?_⟩, .refl _, .refl _⟩
  · rw [List.length_cons, List.length_cons]
    omega
  · simp [Inst.isBinding, Inst.effect, hset, hbinding]

theorem calm_decorateMember (d : Decoration) {args : List Word} (h : args.length ≤ 25)
    (id member : Word) : Calm (decorateMember id member d args) := by
  refine fun m => ⟨.refl _, .push ⟨Inst.isShort_of_operands ?_, ?_⟩, .refl _, .refl _⟩
  · rw [List.length_cons, List.length_cons, List.length_cons]
    omega
  · simp [Inst.isBinding, Inst.effect]

/-! ### Types, constants and variables -/

theorem calm_addGlobal {operands : List Word} (h : operands.length ≤ 28) (op : Op)
    (type? : Option Word) : Calm (addGlobal op type? operands) :=
  fun _ => ⟨.refl _, .refl _, .push (Inst.isShort_of_operands h), .refl _⟩

theorem calm_intern {operands : List Word} (h : operands.length ≤ 28) (op : Op)
    (type? : Option Word) : Calm (intern op type? operands) := by
  refine Calm.bind (fun m => .refl m : Calm get) fun m => ?_
  split
  · exact .pure _
  · exact calm_addGlobal h op type?

theorem calm_scalar (s : ScalarType) : Calm s.build := by
  cases s <;> exact calm_intern (by simp) _ _

theorem calm_type (t : ValueType) : Calm t.build := by
  refine (calm_scalar t.scalar).bind fun s => ?_
  split
  · exact .pure _
  · exact calm_intern (by simp) _ _

theorem calm_pointerTo (t : ValueType) (storage : Storage) : Calm (t.buildPointer storage) :=
  (calm_type t).bind fun _ => calm_intern (by simp) _ _

theorem calm_pointerType (pointee : Word) (storage : StorageClass) :
    Calm (pointerType pointee storage) := calm_intern (by simp) _ _

theorem calm_newVariable (type : Word) (storage : StorageClass) :
    Calm (newVariable type storage) := calm_addGlobal (by simp) _ _

theorem calm_constant (type bits : Word) : Calm (constant type bits) := calm_intern (by simp) _ _

theorem calm_constantU32 (value : Word) : Calm (constantU32 value) :=
  (calm_intern (by simp) _ _).bind fun _ => calm_constant _ _

theorem calm_constantF32 (bits : Word) : Calm (constantF32 bits) :=
  (calm_intern (by simp) _ _).bind fun _ => calm_constant _ _

/-! ### Code -/

theorem calm_emit {i : Inst} (h : i.op.isAccess = false) : Calm (emit i) :=
  fun _ => ⟨.refl _, .refl _, .refl _, .push h⟩

theorem calm_emitValue {op : Op} (h : op.isAccess = false) (type : Word) (operands : List Word) :
    Calm (emitValue op type operands) :=
  calm_newId.bind fun _ => (calm_emit h).bind fun _ => .pure _

theorem calm_emitGlsl (type : Word) (op : GlslOp) (args : List Word) :
    Calm (emitGlsl type op args) :=
  calm_importGlsl.bind fun _ => calm_emitValue rfl _ _

end Build

end Spirv

end ShaderLowering
