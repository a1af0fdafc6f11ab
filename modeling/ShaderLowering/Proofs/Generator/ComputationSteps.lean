import ShaderLowering.Proofs.Generator.DeclarationSteps

/-!
# The steps of computations

What computes with values is calm, apart from finding elements of constant buffers and sampling
textures, which are one event each. In passing, the values that operations result in are seen to have
at most four components, which keeps the constants short that are made of them.
-/

namespace ShaderLowering

open Spirv (Build Module)

/-- A value of at most four components. -/
def Value.IsNarrow (v : Value) : Prop := v.type.count ≤ 4

namespace Spirv.Build

/-! ## Calm steps -/

theorem calm_mapM_constant (type : Word) (bits : List Word) :
    Calm (bits.mapM (constant type)) := by
  induction bits with
  | nil => exact .pure _
  | cons b bits ih =>
    rw [List.mapM_cons]
    exact (calm_constant type b).bind fun _ => ih.bind fun _ => .pure _

theorem length_mapM_constant (type : Word) (bits : List Word) (m : Module) :
    ((bits.mapM (constant type)).run m).1.length = bits.length := by
  induction bits generalizing m with
  | nil => rfl
  | cons b bits ih =>
    rw [List.mapM_cons, List.length_cons, ← ih ((constant type b).run m).2]
    rfl

theorem calm_splat (bits : Word) {count : Nat} (h : count ≤ 4) :
    Calm (Generate.splat bits count) := by
  refine (calm_constantF32 bits).bind fun scalar => ?_
  split
  · exact .pure _
  · refine (calm_type _).bind fun type => calm_intern ?_ _ _
    rw [List.length_replicate]
    omega

theorem calm_levelOfDetail (stage : EntryStage) : Calm (Generate.levelOfDetail stage) := by
  cases stage with
  | pixel => exact .pure _
  | vertex | compute => exact (calm_constantF32 0).bind fun _ => .pure _

end Spirv.Build

namespace Generate

variable {α β : Type} {g : Generator} {v a b : Value}

/-! ## Constants and pointers -/

theorem takes_constantScalar (scalar : ScalarType) (bits : Word) :
    Takes g (constantScalar scalar bits) Nothing [] Value.IsNarrow := by
  refine build_bind ((Build.calm_scalar scalar).bind fun _ => Build.calm_constant _ _)
    fun id _ _ => ?_
  exact Takes.nothing_of_never (.pure (by simp [Value.IsNarrow]))

theorem takes_constantVector (scalar : ScalarType) {bits : List Word} (h : bits.length ≤ 4) :
    Takes g (constantVector scalar bits) Nothing [] Value.IsNarrow := by
  have hcalm : Build.Calm (do
      let scalarType ← scalar.build
      let parts ← bits.mapM (Build.constant scalarType)
      Build.constantComposite (← (ValueType.mk scalar bits.length).build) parts) := by
    refine (Build.calm_scalar scalar).bind fun type => ?_
    refine (Build.calm_mapM_constant type bits).bind_of (P := fun parts =>
      parts.length = bits.length) (Build.length_mapM_constant type bits) fun parts hparts => ?_
    refine (Build.calm_type _).bind fun vector => Build.calm_intern ?_ _ _
    rw [hparts]
    omega
  refine build_bind hcalm fun id _ _ => ?_
  exact Takes.nothing_of_never (.pure h)

theorem takes_tempPointer (register : Word) :
    Takes g (tempPointer register) Nothing [] fun p => p.value = .floatVector := by
  refine .get_bind ?_
  split
  · exact Takes.nothing_of_never (.pure rfl)
  · exact takes_fault

theorem takes_interfacePointer (type : OperandType) (register : Word) :
    Takes g (interfacePointer type register) Nothing [] fun p => p.value = .floatVector := by
  refine .get_bind ?_
  split
  · exact Takes.nothing_of_never (.pure rfl)
  · exact takes_fault

/-- Code that reaches into resources is a single event. -/
theorem takes_access {e : Event} {b : Build α}
    (h : ∀ m : Module, ∃ code, g.Access e code ∧
      (b.run m).2.body.toList = m.body.toList ++ code ∧ (b.run m).2.names = m.names ∧
      (b.run m).2.globals = m.globals ∧ (b.run m).2.annotations = m.annotations) :
    Takes g (body b) Never [e] fun _ => True := by
  refine takes_openBlock.calm_bind (fun _ => False.elim) fun _ g' _ hs => ?_
  obtain ⟨code, haccess, hbody, hsections⟩ := h g'.module
  exact takes_one (run_build b g')
    (.access ⟨rfl, rfl, rfl, rfl⟩ hsections hbody (hs.access haccess)) trivial

/-- Finding an element adds an access chain behind the variable of its buffer. -/
theorem takes_constantBufferPointer (register : Word) (element : Value) :
    Takes g (constantBufferPointer register element) Nothing [.element register]
      fun p => p.value = .floatVector := by
  refine .get_bind ?_
  split
  · next buffer hbuffer =>
    simp only [fault_bind]
    split
    · refine build_bind (Build.calm_pointerTo _ _) fun pointerType g₁ hs₁ => ?_
      refine build_bind (Build.calm_constantU32 _) fun member g₂ hs₂ => ?_
      refine Takes.nothing_of_never (Takes.never_bind (takes_access fun m => ?_) fun id g₃ _ =>
        .pure rfl)
      exact ⟨_, (hs₁.trans hs₂).access (.element hbuffer), Array.toList_push .., rfl, rfl, rfl⟩
    · exact takes_fault
  · exact takes_fault

/-! ## Components -/

theorem takes_emit {op : Spirv.Op} (hop : op.isAccess = false) {type : ValueType}
    (htype : type.count ≤ 4) (operands : List Word) :
    Takes g (emit op type operands) Nothing [] Value.IsNarrow := by
  refine build_bind (Build.calm_type type) fun typeId g₁ _ => ?_
  refine Takes.nothing_of_never ((takes_body (Build.calm_emitValue hop _ _)).never_bind
    fun id g₂ _ => .pure htype)

theorem takes_selectLanes (hv : v.IsNarrow) {lanes : List Nat} (hl : lanes.length ≤ 4) :
    Takes g (selectLanes v lanes) Nothing [] Value.IsNarrow := by
  rw [selectLanes]
  split
  · exact Takes.nothing_of_never (.pure hv)
  · split
    · exact takes_emit rfl hl _
    · split
      · exact takes_emit rfl hl _
      · exact takes_emit rfl hl _

theorem takes_cast (hv : v.IsNarrow) (scalar : ScalarType) :
    Takes g (cast v scalar) Nothing [] Value.IsNarrow := by
  rw [cast]
  split
  · exact Takes.nothing_of_never (.pure hv)
  · have hcount : (v.type.withScalar scalar).count ≤ 4 := hv
    exact takes_emit rfl hcount _

theorem takes_extract (hv : v.IsNarrow) (mask : ComponentMask) :
    Takes g (extract v mask) Nothing [] Value.IsNarrow := by
  rw [extract]
  simp only [fault_bind]
  split
  · split
    · exact Takes.nothing_of_never (.pure hv)
    · exact takes_selectLanes hv (mask.length_components_le)
  · exact takes_fault

theorem takes_swizzle (hv : v.IsNarrow) (s : Swizzle) (mask : ComponentMask) :
    Takes g (swizzle v s mask) Nothing [] Value.IsNarrow := by
  rw [swizzle]
  simp only [fault_bind]
  split
  · exact takes_fault
  · split
    · exact takes_fault
    · split
      · exact Takes.nothing_of_never (.pure hv)
      · refine takes_selectLanes hv ?_
        rw [List.length_map]
        exact mask.length_components_le

theorem takes_replicate (hv : v.IsNarrow) {count : Nat} (hcount : count ≤ 4) :
    Takes g (replicate v count) Nothing [] Value.IsNarrow := by
  rw [replicate]
  simp only [fault_bind]
  split
  · exact takes_fault
  · split
    · exact Takes.nothing_of_never (.pure hv)
    · refine takes_selectLanes hv ?_
      rwa [List.length_replicate]

/-! ## Loads and stores -/

theorem takes_load {p : Pointer} (hp : p.value = .floatVector) :
    Takes g (load p) Nothing [] Value.IsNarrow :=
  takes_emit rfl (by rw [hp]; decide) _

theorem takes_merge {p : Pointer} (hp : p.value = .floatVector) (old : Value)
    (mask : ComponentMask) : Takes g (merge p old v mask) Nothing [] Value.IsNarrow := by
  have hcount : p.value.count ≤ 4 := by rw [hp]; decide
  rw [merge]
  split
  · exact takes_emit rfl hcount _
  · exact takes_emit rfl hcount _

theorem takes_store {p : Pointer} (hp : p.value = .floatVector) (v : Value)
    (mask : ComponentMask) : Takes g (store p v mask) Nothing [] fun _ => True := by
  have hbody (g' : Generator) (id : Word) :
      Takes g' (body (Build.emitStore p.id id)) Nothing [] fun _ => True :=
    (takes_body (Build.calm_emit rfl)).nothing_of_never
  rw [store]
  simp only [fault_bind]
  iterate 4
    split <;> first | exact takes_fault | skip
  split
  · exact hbody g v.id
  · exact calm_bind (takes_load hp) fun old g₁ _ _ => calm_bind (takes_merge hp old mask)
      fun merged g₂ _ _ => hbody g₂ merged.id

/-! ## Arithmetic -/

theorem takes_expectSameType : Takes g (expectSameType a b) Nothing [] fun _ => a.type = b.type := by
  rw [expectSameType]
  split
  · exact takes_fault
  · next h => exact Takes.nothing_of_never (.pure (Decidable.not_not.1 h))

theorem takes_expectFloat : Takes g (expectFloat v) Nothing [] fun _ => True := by
  rw [expectFloat]
  split
  · exact takes_fault
  · exact Takes.nothing_of_never (.pure trivial)

theorem takes_emitExtended {type : ValueType} (htype : type.count ≤ 4) (op : Spirv.GlslOp)
    (args : List Word) : Takes g (emitExtended op type args) Nothing [] Value.IsNarrow := by
  refine build_bind (Build.calm_type type) fun typeId g₁ _ => ?_
  exact Takes.nothing_of_never ((takes_body (Build.calm_emitGlsl _ _ _)).never_bind
    fun id g₂ _ => .pure htype)

theorem takes_binary (ha : a.IsNarrow) {float integer : Spirv.Op} (hfloat : float.isAccess = false)
    (hinteger : integer.isAccess = false) :
    Takes g (binary float integer a b) Nothing [] Value.IsNarrow := by
  refine calm_bind takes_expectSameType fun _ g₁ _ _ => takes_emit ?_ ha _
  split
  · exact hfloat
  · exact hinteger

theorem takes_add (ha : a.IsNarrow) : Takes g (add a b) Nothing [] Value.IsNarrow :=
  takes_binary ha rfl rfl

theorem takes_mul (ha : a.IsNarrow) : Takes g (mul a b) Nothing [] Value.IsNarrow :=
  takes_binary ha rfl rfl

theorem takes_dot (ha : a.IsNarrow) : Takes g (dot a b) Nothing [] Value.IsNarrow := by
  refine calm_bind takes_expectSameType fun _ g₁ _ _ => ?_
  simp only [missing_bind]
  split
  · exact takes_missing
  · split
    · exact takes_mul ha
    · exact takes_emit rfl (by decide) _

theorem takes_inverseSqrt (hv : v.IsNarrow) : Takes g (inverseSqrt v) Nothing [] Value.IsNarrow :=
  calm_bind takes_expectFloat fun _ _ _ _ => takes_emitExtended hv _ _

theorem takes_abs (hv : v.IsNarrow) : Takes g (abs v) Nothing [] Value.IsNarrow := by
  rw [abs]
  split
  · exact takes_emitExtended hv _ _
  · exact takes_emitExtended hv _ _
  · exact build_bind (Build.calm_type _) fun _ _ _ => Takes.nothing_of_never (.pure hv)

theorem takes_neg (hv : v.IsNarrow) : Takes g (neg v) Nothing [] Value.IsNarrow := by
  rw [neg]
  split <;> exact takes_emit rfl hv _

theorem takes_saturate (hv : v.IsNarrow) : Takes g (saturate v) Nothing [] Value.IsNarrow := by
  refine calm_bind takes_expectFloat fun _ _ _ _ => ?_
  refine build_bind (Build.calm_type _) fun type _ _ => ?_
  refine build_bind (Build.calm_splat _ hv) fun zero _ _ => ?_
  refine build_bind (Build.calm_splat _ hv) fun one _ _ => ?_
  exact Takes.nothing_of_never ((takes_body (Build.calm_emitGlsl _ _ _)).never_bind
    fun id _ _ => .pure hv)

/-! ## Sampling and returning -/

/-- Both ways of sampling start from the image together with the sampler. -/
theorem exists_emitSample_eq (type coordinate : Word) (lod? : Option Word) :
    ∃ op operands, op.isSample = true ∧ ∀ combined,
      emitSample type combined coordinate lod? = Build.emitValue op type (combined :: operands) := by
  cases lod? with
  | none => exact ⟨.imageSampleImplicitLod, [coordinate], rfl, fun _ => rfl⟩
  | some lod =>
    exact ⟨.imageSampleExplicitLod, [coordinate, Spirv.ImageOperands.lod.bits, lod], rfl,
      fun _ => rfl⟩

/-- Sampling adds the loads of the image and the sampler, and what is put together from them. -/
theorem access_emitSample {texture sampler : Word} {t s : DeclaredResource}
    (ht : g.resource? .shaderResource texture = some t) (hs : g.resource? .sampler sampler = some s)
    (imageType samplerType combinedType type coordinate : Word) (lod? : Option Word) (m : Module) :
    let m' := ((do
      let combined ← loadSampled imageType t.variableId samplerType s.variableId combinedType
      emitSample type combined coordinate lod? : Build Word).run m).2
    ∃ code, g.Access (.sample texture sampler) code ∧
      m'.body.toList = m.body.toList ++ code ∧ m'.names = m.names ∧
      m'.globals = m.globals ∧ m'.annotations = m.annotations := by
  obtain ⟨op, operands, hop, heq⟩ := exists_emitSample_eq type coordinate lod?
  simp only [heq]
  -- the modules behind the four instructions, of which each takes the next free id
  let m₁ := m.withResult .load (some imageType) [t.variableId]
  let m₂ := m₁.withResult .load (some samplerType) [s.variableId]
  let m₃ := m₂.withResult .sampledImage (some combinedType)
    [UInt32.ofNat m.bound, UInt32.ofNat m₁.bound]
  let m₄ := m₃.withResult op (some type) (UInt32.ofNat m₂.bound :: operands)
  have hbody (m : Module) (op : Spirv.Op) (type? : Option Word) (operands : List Word) :
      (m.withResult op type? operands).body.toList = m.body.toList ++
        [⟨op, type?, some (UInt32.ofNat m.bound), operands⟩] := Array.toList_push ..
  have hcode : m₄.body.toList = m.body.toList ++
      [⟨.load, some imageType, some (UInt32.ofNat m.bound), [t.variableId]⟩,
       ⟨.load, some samplerType, some (UInt32.ofNat m₁.bound), [s.variableId]⟩,
       ⟨.sampledImage, some combinedType, some (UInt32.ofNat m₂.bound),
         [UInt32.ofNat m.bound, UInt32.ofNat m₁.bound]⟩,
       ⟨op, some type, some (UInt32.ofNat m₃.bound), UInt32.ofNat m₂.bound :: operands⟩] := by
    simp only [m₄, m₃, m₂, m₁, hbody, List.append_assoc, List.cons_append, List.nil_append]
  exact ⟨_, .sample ht hs hop, hcode, rfl, rfl, rfl⟩

theorem takes_sample (texture sampler : Word) (hv : v.IsNarrow) :
    Takes g (sample texture sampler v) Nothing [.sample texture sampler] Value.IsNarrow := by
  refine .get_bind ?_
  split
  · next imageId imageType dim sampled ht =>
    split
    · next samplerResource hsampler =>
      split
      · next coordinates _ =>
        simp only [fault_bind]
        generalize coordinates + (if dim.isArray then 1 else 0) = count
        refine calm_bind takes_expectFloat fun _ g₁ _ hs₁ => ?_
        split
        · exact takes_fault
        · refine calm_bind (takes_extract hv _) fun coordinate g₂ hc hs₂ => ?_
          refine build_bind (Build.calm_intern (by simp) _ _) fun samplerType g₃ hs₃ => ?_
          refine build_bind (Build.calm_intern (by simp) _ _) fun combinedType g₄ hs₄ => ?_
          refine build_bind (Build.calm_type _) fun typeId g₅ hs₅ => ?_
          refine build_bind (Build.calm_levelOfDetail _) fun lod? g₆ hs₆ => ?_
          have hs := ((((hs₁.trans hs₂).trans hs₃).trans hs₄).trans hs₅).trans hs₆
          have himage := (hs.resource?_eq _ _).trans ht
          have hstate := (hs.resource?_eq _ _).trans hsampler
          exact Takes.nothing_of_never ((takes_access fun m =>
            access_emitSample himage hstate _ _ _ _ _ _ m).never_bind fun id g₇ _ =>
              .pure (Nat.le_refl 4))
      · exact takes_missing
    · exact takes_fault
  · exact takes_fault

theorem takes_ret : Takes g ret Nothing [] fun _ => True := by
  refine Takes.nothing_of_never ((takes_body (Build.calm_emit rfl)).never_bind fun _ g₁ _ => ?_)
  exact takes_one rfl (.calm ⟨rfl, rfl, rfl, rfl⟩ (.refl _)) trivial

end Generate

end ShaderLowering
