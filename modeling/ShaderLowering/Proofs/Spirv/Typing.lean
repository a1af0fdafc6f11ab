import ShaderLowering.Generator.Value
import ShaderLowering.Proofs.Spirv.Ids

/-!
# Types of instructions

When the instructions of a function fit the types, constants and variables of their module: `Typed`
has one rule for each kind of instruction. The rules see two lists, the instructions outside the
function and the earlier instructions of the block, and only ask what these lists contain, so they
are kept by larger lists (`Typed.mono`). All ids that a typed instruction refers to are defined
(`Typed.references_defined`).
-/

namespace ShaderLowering.Spirv

/-! ## Types -/

/-- The declaration of a scalar type. -/
def scalarDeclaration (s : ScalarType) (result? : Option Word) : Inst :=
  match s with
  | .uint32 => ⟨.typeInt, none, result?, [32, 0]⟩
  | .sint32 => ⟨.typeInt, none, result?, [32, 1]⟩
  | .float32 => ⟨.typeFloat, none, result?, [32]⟩

section

variable (known : List Inst)

/-- An id is that of a scalar type. -/
def IsScalar (s : ScalarType) (type : Word) : Prop := scalarDeclaration s (some type) ∈ known

/-- An id is that of a type of values: a scalar type, or a vector type of two to four components. -/
def IsType (t : ValueType) (type : Word) : Prop :=
  (t.count = 1 ∧ IsScalar known t.scalar type) ∨
  (2 ≤ t.count ∧ t.count ≤ 4 ∧ ∃ s, IsScalar known t.scalar s ∧
    ⟨.typeVector, none, some type, [s, UInt32.ofNat t.count]⟩ ∈ known)

/-- An id is that of a type of pointers. -/
def IsPointerType (storage : StorageClass) (pointee type : Word) : Prop :=
  ⟨.typePointer, none, some type, [storage.number, pointee]⟩ ∈ known

/-- How many coordinates the texels of an image have within a layer, by the number of its
dimension. -/
def dimCoordinates? (dim : Word) : Option Nat :=
  if dim = Dim.dim1D.number then some 1
  else if dim = Dim.dim2D.number then some 2
  else if dim = Dim.dim3D.number ∨ dim = Dim.cube.number then some 3
  else none

/-- An id is that of a type of images that can be sampled with some number of coordinates, the layer
of an array among them, to components of a type. -/
def IsImageType (coordinates : Nat) (sampled : ScalarType) (type : Word) : Prop :=
  ∃ s dim arrayed inLayer, IsScalar known sampled s ∧
    ⟨.typeImage, none, some type, [s, dim, 0, arrayed, 0, 1, ImageFormat.unknown.number]⟩ ∈ known ∧
    dimCoordinates? dim = some inLayer ∧ coordinates = inLayer + arrayed.toNat

/-- An id is that of the type of blocks of constants: a struct with one member, an array of vectors
of a type. -/
def IsBlockType (element type : Word) : Prop :=
  ∃ array length, IsType known .floatVector element ∧
    ⟨.typeArray, none, some array, [element, length]⟩ ∈ known ∧
    ⟨.typeStruct, none, some type, [array]⟩ ∈ known

variable (block : List Inst)

/-- An id has a type: it is the result of an instruction with that result type. -/
def Has (id type : Word) : Prop :=
  ∃ i ∈ known ++ block, i.result? = some id ∧ i.resultType? = some type

/-- An id points to something of a type. -/
def PointsTo (id : Word) (storage : StorageClass) (pointee : Word) : Prop :=
  ∃ type, IsPointerType known storage pointee type ∧ Has known block id type

end

/-- The type of the components that an extended instruction works on, and how many operands it
has. -/
def glslSignature? (op : Word) : Option (ScalarType × Nat) :=
  if op = GlslOp.fAbs.number then some (.float32, 1)
  else if op = GlslOp.sAbs.number then some (.sint32, 1)
  else if op = GlslOp.inverseSqrt.number then some (.float32, 1)
  else if op = GlslOp.fClamp.number then some (.float32, 3)
  else none

/-! ## Instructions -/

/-- An instruction of a function fits the instructions outside the function, which are `known`, and
the earlier ones of its block. -/
inductive Typed (known block : List Inst) : Inst → Prop
  | function {void type id : Word} (hv : ⟨.typeVoid, none, some void, []⟩ ∈ known)
      (ht : ⟨.typeFunction, none, some type, [void]⟩ ∈ known) :
      Typed known block ⟨.function, some void, some id, [FunctionControl.none.bits, type]⟩
  | label {id : Word} : Typed known block ⟨.label, none, some id, []⟩
  | functionReturn : Typed known block ⟨.functionReturn, none, none, []⟩
  | load {storage : StorageClass} {type id pointer : Word}
      (hp : PointsTo known block pointer storage type) :
      Typed known block ⟨.load, some type, some id, [pointer]⟩
  | store {storage : StorageClass} {type pointer value : Word}
      (hp : PointsTo known block pointer storage type) (hv : Has known block value type) :
      Typed known block ⟨.store, none, none, [pointer, value]⟩
  /-- A pointer to an element of a block of constants, found through the member with number 0. -/
  | accessChain {blockType element indexType memberType type id pointer member index : Word}
      {s : ScalarType} (hp : PointsTo known block pointer .uniform blockType)
      (hb : IsBlockType known element blockType)
      (hm : ⟨.constant, some memberType, some member, [0]⟩ ∈ known)
      (hmt : IsScalar known .uint32 memberType) (hi : Has known block index indexType)
      (hit : IsType known ⟨s, 1⟩ indexType) (hs : s.isInteger)
      (ht : IsPointerType known .uniform element type) :
      Typed known block ⟨.accessChain, some type, some id, [pointer, member, index]⟩
  | floatBinary {op : Op} {n : Nat} {type id a b : Word} (hop : op = .fAdd ∨ op = .fMul)
      (ht : IsType known ⟨.float32, n⟩ type) (ha : Has known block a type)
      (hb : Has known block b type) : Typed known block ⟨op, some type, some id, [a, b]⟩
  | integerBinary {op : Op} {s : ScalarType} {n : Nat} {type id a b : Word}
      (hop : op = .iAdd ∨ op = .iMul) (hs : s.isInteger) (ht : IsType known ⟨s, n⟩ type)
      (ha : Has known block a type) (hb : Has known block b type) :
      Typed known block ⟨op, some type, some id, [a, b]⟩
  | floatNegate {n : Nat} {type id a : Word} (ht : IsType known ⟨.float32, n⟩ type)
      (ha : Has known block a type) : Typed known block ⟨.fNegate, some type, some id, [a]⟩
  | integerNegate {s : ScalarType} {n : Nat} {type id a : Word} (hs : s.isInteger)
      (ht : IsType known ⟨s, n⟩ type) (ha : Has known block a type) :
      Typed known block ⟨.sNegate, some type, some id, [a]⟩
  | dot {n : Nat} {vector type id a b : Word} (hn : 2 ≤ n)
      (hv : IsType known ⟨.float32, n⟩ vector) (ha : Has known block a vector)
      (hb : Has known block b vector) (ht : IsType known ⟨.float32, 1⟩ type) :
      Typed known block ⟨.dot, some type, some id, [a, b]⟩
  | extended {op : Word} {s : ScalarType} {n : Nat} {type id set : Word} {args : List Word}
      (hset : ⟨.extInstImport, none, some set, stringWords Module.glslName⟩ ∈ known)
      (hop : glslSignature? op = some (s, args.length)) (ht : IsType known ⟨s, n⟩ type)
      (ha : ∀ a ∈ args, Has known block a type) :
      Typed known block ⟨.extInst, some type, some id, set :: op :: args⟩
  | vectorShuffle {s : ScalarType} {m n : Nat} {aType bType type id a b : Word}
      {lanes : List Word} (hm : 2 ≤ m) (hn : 2 ≤ n) (hl : 2 ≤ lanes.length)
      (ha : Has known block a aType) (hat : IsType known ⟨s, m⟩ aType)
      (hb : Has known block b bType) (hbt : IsType known ⟨s, n⟩ bType)
      (hlanes : ∀ lane ∈ lanes, lane.toNat < m + n)
      (ht : IsType known ⟨s, lanes.length⟩ type) :
      Typed known block ⟨.vectorShuffle, some type, some id, a :: b :: lanes⟩
  | compositeConstruct {s : ScalarType} {part type id : Word} {parts : List Word}
      (hl : 2 ≤ parts.length) (hp : ∀ p ∈ parts, Has known block p part)
      (hpt : IsType known ⟨s, 1⟩ part) (ht : IsType known ⟨s, parts.length⟩ type) :
      Typed known block ⟨.compositeConstruct, some type, some id, parts⟩
  | compositeExtract {s : ScalarType} {n : Nat} {whole type id a lane : Word} (hn : 2 ≤ n)
      (ha : Has known block a whole) (hw : IsType known ⟨s, n⟩ whole) (hl : lane.toNat < n)
      (ht : IsType known ⟨s, 1⟩ type) :
      Typed known block ⟨.compositeExtract, some type, some id, [a, lane]⟩
  | compositeInsert {s : ScalarType} {n : Nat} {part type id a whole lane : Word} (hn : 2 ≤ n)
      (ha : Has known block a part) (hp : IsType known ⟨s, 1⟩ part)
      (hw : Has known block whole type) (ht : IsType known ⟨s, n⟩ type) (hl : lane.toNat < n) :
      Typed known block ⟨.compositeInsert, some type, some id, [a, whole, lane]⟩
  | bitcast {s s' : ScalarType} {n : Nat} {source type id a : Word} (ha : Has known block a source)
      (hs : IsType known ⟨s, n⟩ source) (ht : IsType known ⟨s', n⟩ type) :
      Typed known block ⟨.bitcast, some type, some id, [a]⟩
  | sampledImage {coordinates : Nat} {s : ScalarType} {imageType samplerType type id : Word}
      {image sampler : Word} (hi : Has known block image imageType)
      (hit : IsImageType known coordinates s imageType) (hs : Has known block sampler samplerType)
      (hst : ⟨.typeSampler, none, some samplerType, []⟩ ∈ known)
      (ht : ⟨.typeSampledImage, none, some type, [imageType]⟩ ∈ known) :
      Typed known block ⟨.sampledImage, some type, some id, [image, sampler]⟩
  /-- Sampling with derivatives: the result has four components of the sampled type of the image. -/
  | sampleImplicit {coordinates : Nat} {s : ScalarType} {imageType combinedType : Word}
      {coordinateType type id combined coordinate : Word} (hc : Has known block combined combinedType)
      (hct : ⟨.typeSampledImage, none, some combinedType, [imageType]⟩ ∈ known)
      (hi : IsImageType known coordinates s imageType)
      (hx : Has known block coordinate coordinateType)
      (hxt : IsType known ⟨.float32, coordinates⟩ coordinateType)
      (ht : IsType known ⟨s, 4⟩ type) :
      Typed known block ⟨.imageSampleImplicitLod, some type, some id, [combined, coordinate]⟩
  /-- Sampling at a level of detail. -/
  | sampleExplicit {coordinates : Nat} {s : ScalarType} {imageType combinedType : Word}
      {coordinateType lodType type id combined coordinate lod : Word}
      (hc : Has known block combined combinedType)
      (hct : ⟨.typeSampledImage, none, some combinedType, [imageType]⟩ ∈ known)
      (hi : IsImageType known coordinates s imageType)
      (hx : Has known block coordinate coordinateType)
      (hxt : IsType known ⟨.float32, coordinates⟩ coordinateType)
      (hl : Has known block lod lodType) (hlt : IsType known ⟨.float32, 1⟩ lodType)
      (ht : IsType known ⟨s, 4⟩ type) :
      Typed known block ⟨.imageSampleExplicitLod, some type, some id,
        [combined, coordinate, ImageOperands.lod.bits, lod]⟩

/-! ## More instructions -/

section

variable {known known' block block' : List Inst}

theorem IsType.mono {τ : ValueType} {t : Word} (h : IsType known τ t) (hk : known ⊆ known') :
    IsType known' τ t := by
  rcases h with ⟨h1, hs⟩ | ⟨h2, h4, s, hs, hv⟩
  · exact .inl ⟨h1, hk hs⟩
  · exact .inr ⟨h2, h4, s, hk hs, hk hv⟩

theorem IsPointerType.mono {storage : StorageClass} {pointee t : Word}
    (h : IsPointerType known storage pointee t) (hk : known ⊆ known') :
    IsPointerType known' storage pointee t := hk h

theorem IsImageType.mono {n : Nat} {s : ScalarType} {t : Word} (h : IsImageType known n s t)
    (hk : known ⊆ known') : IsImageType known' n s t := by
  obtain ⟨st, dim, arrayed, inLayer, hs, hi, hd, hn⟩ := h
  exact ⟨st, dim, arrayed, inLayer, hk hs, hk hi, hd, hn⟩

theorem IsBlockType.mono {e t : Word} (h : IsBlockType known e t) (hk : known ⊆ known') :
    IsBlockType known' e t := by
  obtain ⟨array, length, he, ha, hs⟩ := h
  exact ⟨array, length, he.mono hk, hk ha, hk hs⟩

theorem Has.mono {id t : Word} (h : Has known block id t) (hk : known ⊆ known')
    (hb : block ⊆ block') : Has known' block' id t := by
  obtain ⟨i, hi, hr⟩ := h
  refine ⟨i, ?_, hr⟩
  rcases List.mem_append.1 hi with hi | hi
  · exact List.mem_append_left _ (hk hi)
  · exact List.mem_append_right _ (hb hi)

theorem PointsTo.mono {id t : Word} {storage : StorageClass}
    (h : PointsTo known block id storage t) (hk : known ⊆ known') (hb : block ⊆ block') :
    PointsTo known' block' id storage t := by
  obtain ⟨pt, hpt, hid⟩ := h
  exact ⟨pt, hpt.mono hk, hid.mono hk hb⟩

/-- An instruction that fits keeps fitting when more is known. -/
theorem Typed.mono {i : Inst} (h : Typed known block i) (hk : known ⊆ known')
    (hb : block ⊆ block') : Typed known' block' i := by
  cases h with
  | function hv ht => exact .function (hk hv) (hk ht)
  | label => exact .label
  | functionReturn => exact .functionReturn
  | load hp => exact .load (hp.mono hk hb)
  | store hp hv => exact .store (hp.mono hk hb) (hv.mono hk hb)
  | accessChain hp hblock hm hmt hi hit hs ht =>
    exact .accessChain (hp.mono hk hb) (hblock.mono hk) (hk hm) (hk hmt) (hi.mono hk hb)
      (hit.mono hk) hs (hk ht)
  | floatBinary hop ht h1 h2 => exact .floatBinary hop (ht.mono hk) (h1.mono hk hb) (h2.mono hk hb)
  | integerBinary hop hs ht h1 h2 =>
    exact .integerBinary hop hs (ht.mono hk) (h1.mono hk hb) (h2.mono hk hb)
  | floatNegate ht h1 => exact .floatNegate (ht.mono hk) (h1.mono hk hb)
  | integerNegate hs ht h1 => exact .integerNegate hs (ht.mono hk) (h1.mono hk hb)
  | dot hn hv h1 h2 ht => exact .dot hn (hv.mono hk) (h1.mono hk hb) (h2.mono hk hb) (ht.mono hk)
  | extended hset hop ht ha =>
    exact .extended (hk hset) hop (ht.mono hk) fun a h => (ha a h).mono hk hb
  | vectorShuffle hm hn hl h1 h1t h2 h2t hlanes ht =>
    exact .vectorShuffle hm hn hl (h1.mono hk hb) (h1t.mono hk) (h2.mono hk hb) (h2t.mono hk)
      hlanes (ht.mono hk)
  | compositeConstruct hl hp hpt ht =>
    exact .compositeConstruct hl (fun p h => (hp p h).mono hk hb) (hpt.mono hk) (ht.mono hk)
  | compositeExtract hn h1 hw hl ht =>
    exact .compositeExtract hn (h1.mono hk hb) (hw.mono hk) hl (ht.mono hk)
  | compositeInsert hn h1 hp hw ht hl =>
    exact .compositeInsert hn (h1.mono hk hb) (hp.mono hk) (hw.mono hk hb) (ht.mono hk) hl
  | bitcast h1 hs ht => exact .bitcast (h1.mono hk hb) (hs.mono hk) (ht.mono hk)
  | sampledImage hi hit hs hst ht =>
    exact .sampledImage (hi.mono hk hb) (hit.mono hk) (hs.mono hk hb) (hk hst) (hk ht)
  | sampleImplicit hc hct hi hx hxt ht =>
    exact .sampleImplicit (hc.mono hk hb) (hk hct) (hi.mono hk) (hx.mono hk hb) (hxt.mono hk)
      (ht.mono hk)
  | sampleExplicit hc hct hi hx hxt hl hlt ht =>
    exact .sampleExplicit (hc.mono hk hb) (hk hct) (hi.mono hk) (hx.mono hk hb) (hxt.mono hk)
      (hl.mono hk hb) (hlt.mono hk) (ht.mono hk)

end

/-! ## Definitions -/

section

variable {known block : List Inst}

theorem mem_results_of_mem {insts : List Inst} {op : Op} {type? : Option Word} {id : Word}
    {operands : List Word} (h : ⟨op, type?, some id, operands⟩ ∈ insts) : id ∈ results insts :=
  mem_results.2 ⟨_, h, rfl⟩

theorem IsScalar.mem_results {s : ScalarType} {t : Word} (h : IsScalar known s t) :
    t ∈ results known := by
  cases s <;> exact mem_results_of_mem h

theorem IsType.mem_results {τ : ValueType} {t : Word} (h : IsType known τ t) :
    t ∈ results known := by
  rcases h with ⟨-, hs⟩ | ⟨-, -, s, -, hv⟩
  · exact hs.mem_results
  · exact mem_results_of_mem hv

theorem Has.mem_results {id t : Word} (h : Has known block id t) :
    id ∈ results known ∨ id ∈ results block := by
  obtain ⟨i, hi, hr, -⟩ := h
  rcases List.mem_append.1 hi with hi | hi
  · exact .inl (Spirv.mem_results.2 ⟨i, hi, hr⟩)
  · exact .inr (Spirv.mem_results.2 ⟨i, hi, hr⟩)

theorem PointsTo.has {id t : Word} {storage : StorageClass}
    (h : PointsTo known block id storage t) : ∃ type, Has known block id type := by
  obtain ⟨type, -, hid⟩ := h
  exact ⟨type, hid⟩

/-- The values that a typed instruction works on have types. -/
theorem Typed.has_of_mem_valueIds {i : Inst} (h : Typed known block i) {id : Word}
    (hid : id ∈ i.valueIds) : ∃ t, Has known block id t := by
  cases h with
  | function | label | functionReturn => simp [Inst.valueIds, Inst.operandIds] at hid
  | load hp =>
    simp only [Inst.valueIds, Inst.operandIds, List.mem_singleton] at hid
    subst hid
    exact hp.has
  | store hp hv =>
    simp only [Inst.valueIds, Inst.operandIds, List.mem_cons, List.not_mem_nil, or_false] at hid
    rcases hid with rfl | rfl
    · exact hp.has
    · exact ⟨_, hv⟩
  | accessChain hp hblock hm hmt hi hit hs ht =>
    simp only [Inst.valueIds, Inst.operandIds, List.mem_cons, List.not_mem_nil, or_false] at hid
    rcases hid with rfl | rfl | rfl
    · exact hp.has
    · exact ⟨_, _, List.mem_append_left _ hm, rfl, rfl⟩
    · exact ⟨_, hi⟩
  | floatBinary hop ht h1 h2 =>
    rcases hop with rfl | rfl <;>
      simp only [Inst.valueIds, Inst.operandIds, List.mem_cons, List.not_mem_nil, or_false] at hid <;>
      rcases hid with rfl | rfl
    · exact ⟨_, h1⟩
    · exact ⟨_, h2⟩
    · exact ⟨_, h1⟩
    · exact ⟨_, h2⟩
  | integerBinary hop hs ht h1 h2 =>
    rcases hop with rfl | rfl <;>
      simp only [Inst.valueIds, Inst.operandIds, List.mem_cons, List.not_mem_nil, or_false] at hid <;>
      rcases hid with rfl | rfl
    · exact ⟨_, h1⟩
    · exact ⟨_, h2⟩
    · exact ⟨_, h1⟩
    · exact ⟨_, h2⟩
  | floatNegate ht h1 | integerNegate hs ht h1 | bitcast h1 hs ht =>
    simp only [Inst.valueIds, Inst.operandIds, List.mem_singleton] at hid
    subst hid
    exact ⟨_, h1⟩
  | dot hn hv h1 h2 ht =>
    simp only [Inst.valueIds, Inst.operandIds, List.mem_cons, List.not_mem_nil, or_false] at hid
    rcases hid with rfl | rfl
    · exact ⟨_, h1⟩
    · exact ⟨_, h2⟩
  | extended hset hop ht ha => exact ⟨_, ha id hid⟩
  | vectorShuffle hm hn hl h1 h1t h2 h2t hlanes ht =>
    simp only [Inst.valueIds, Inst.operandIds, List.take_succ_cons, List.take_zero, List.mem_cons,
      List.not_mem_nil, or_false] at hid
    rcases hid with rfl | rfl
    · exact ⟨_, h1⟩
    · exact ⟨_, h2⟩
  | compositeConstruct hl hp hpt ht => exact ⟨_, hp id hid⟩
  | compositeExtract hn h1 hw hl ht =>
    simp only [Inst.valueIds, Inst.operandIds, List.take_succ_cons, List.take_zero,
      List.mem_singleton] at hid
    subst hid
    exact ⟨_, h1⟩
  | compositeInsert hn h1 hp hw ht hl =>
    simp only [Inst.valueIds, Inst.operandIds, List.take_succ_cons, List.take_zero, List.mem_cons,
      List.not_mem_nil, or_false] at hid
    rcases hid with rfl | rfl
    · exact ⟨_, h1⟩
    · exact ⟨_, hw⟩
  | sampledImage hi hit hs hst ht =>
    simp only [Inst.valueIds, Inst.operandIds, List.mem_cons, List.not_mem_nil, or_false] at hid
    rcases hid with rfl | rfl
    · exact ⟨_, hi⟩
    · exact ⟨_, hs⟩
  | sampleImplicit hc hct hi hx hxt ht =>
    simp only [Inst.valueIds, Inst.operandIds, List.mem_cons, List.not_mem_nil, or_false] at hid
    rcases hid with rfl | rfl
    · exact ⟨_, hc⟩
    · exact ⟨_, hx⟩
  | sampleExplicit hc hct hi hx hxt hl hlt ht =>
    simp only [Inst.valueIds, Inst.operandIds, List.take_succ_cons, List.take_zero,
      List.drop_succ_cons, List.drop_zero, List.cons_append, List.nil_append, List.mem_cons,
      List.not_mem_nil, or_false] at hid
    rcases hid with rfl | rfl | rfl
    · exact ⟨_, hc⟩
    · exact ⟨_, hx⟩
    · exact ⟨_, hl⟩

/-- The values that a typed instruction works on are defined outside the function or before in its
block. -/
theorem Typed.values_defined {i : Inst} (h : Typed known block i) :
    ∀ id ∈ i.valueIds, id ∈ results known ∨ id ∈ results block := by
  intro id hid
  obtain ⟨t, ht⟩ := h.has_of_mem_valueIds hid
  exact ht.mem_results

/-- The type of the result of a typed instruction is declared, provided that all that declarations
refer to is. -/
theorem Typed.resultType_defined {i : Inst} (h : Typed known block i)
    (hk : ∀ j ∈ known, ∀ id ∈ j.references 0, id ∈ results known) {type : Word}
    (ht : i.resultType? = some type) : type ∈ results known := by
  cases h with
  | label | functionReturn | store => cases ht
  | function hv _ => cases ht; exact mem_results_of_mem hv
  | load hp =>
    cases ht
    obtain ⟨pt, hpt, -⟩ := hp
    exact hk _ hpt _ (by simp [Inst.references, Inst.operandIds])
  | accessChain _ _ _ _ _ _ _ hpt => cases ht; exact mem_results_of_mem hpt
  | sampledImage _ _ _ _ hst => cases ht; exact mem_results_of_mem hst
  | floatBinary _ hty | integerBinary _ _ hty | floatNegate hty | integerNegate _ hty
  | dot _ _ _ _ hty | extended _ _ hty | vectorShuffle _ _ _ _ _ _ _ _ hty
  | compositeConstruct _ _ _ hty | compositeExtract _ _ _ _ hty | compositeInsert _ _ _ _ hty
  | bitcast _ _ hty | sampleImplicit _ _ _ _ _ hty | sampleExplicit _ _ _ _ _ _ _ hty =>
    cases ht
    exact hty.mem_results

/-- All that a typed instruction refers to is defined, provided that this is so outside the
function. -/
theorem Typed.references_defined {i : Inst} (h : Typed known block i)
    (hk : ∀ j ∈ known, ∀ id ∈ j.references 0, id ∈ results known) (nameWords : Nat) :
    ∀ id ∈ i.references nameWords, id ∈ results known ∨ id ∈ results block := by
  intro id hid
  rcases List.mem_append.1 hid with ht | hop
  · exact .inl (h.resultType_defined hk (Option.mem_toList.1 ht))
  · have hvalues := h.values_defined
    cases h with
    | function _ ht =>
      simp only [Inst.operandIds, List.drop_succ_cons, List.drop_zero, List.mem_singleton] at hop
      subst hop
      exact .inl (mem_results_of_mem ht)
    | extended hset _ _ ha =>
      simp only [Inst.operandIds, List.take_succ_cons, List.take_zero, List.drop_succ_cons,
        List.drop_zero, List.mem_append, List.mem_singleton] at hop
      rcases hop with rfl | hop
      · exact .inl (mem_results_of_mem hset)
      · exact (ha id hop).mem_results
    | floatBinary hop' | integerBinary hop' =>
      rcases hop' with rfl | rfl <;> exact hvalues id hop
    | _ => exact hvalues id hop

/-- A typed instruction is laid out as its operation wants it. -/
theorem Typed.isLaidOut {i : Inst} (h : Typed known block i) : i.IsLaidOut := by
  cases h with
  | floatBinary hop | integerBinary hop => rcases hop with rfl | rfl <;> exact ⟨rfl, rfl⟩
  | _ => exact ⟨rfl, rfl⟩

/-- A typed instruction belongs in a function. -/
theorem Typed.section_eq {i : Inst} (h : Typed known block i) : i.op.section = .code := by
  cases h with
  | floatBinary hop | integerBinary hop => rcases hop with rfl | rfl <;> rfl
  | _ => rfl

end

end ShaderLowering.Spirv
