import ShaderLowering.Generator.Entry
import ShaderLowering.Proofs.Generator.Registers

/-!
# Arithmetic and sampling are typed

The operations on values keep the generator well-formed, and what they return are values of the
module. `ret` closes the open block, so values do not outlive it; the generator stays well-formed.
-/

namespace ShaderLowering

open Spirv

namespace Generate

variable {g : Generator} {a b v : Value}

/-! ## Arithmetic -/

theorem keeps_expectSameType (hg : g.WellFormed) :
    Keeps g (expectSameType a b) fun _ g' => g' = g ∧ a.type = b.type := by
  simp only [expectSameType]
  split
  · exact keeps_fault hg
  · next h => exact .pure hg ⟨rfl, Decidable.not_not.1 h⟩

theorem keeps_expectFloat (hg : g.WellFormed) :
    Keeps g (expectFloat v) fun _ g' => g' = g ∧ v.type.scalar = .float32 := by
  simp only [expectFloat]
  split
  · exact keeps_fault hg
  · next h => exact .pure hg ⟨rfl, Decidable.not_not.1 h⟩

/-- An extended instruction on operands of the type of its result. -/
theorem keeps_emitExtended (hg : g.WellFormed) {op : GlslOp} {type : ValueType} {args : List Word}
    (hpos : 1 ≤ type.count) (hfour : type.count ≤ 4)
    (hop : glslSignature? op.number = some (type.scalar, args.length))
    (ha : ∀ m t, g.module.Continues m → TypeId m.globals.toList type t →
      ∀ x ∈ args, Has m.known m.block x t) :
    Keeps g (emitExtended op type args) fun w g' => w.type = type ∧ g'.module.HasValue w := by
  refine (keeps_build hg (Build.declares_type hg.module type).builds).bind fun t g₁ hc hg₁ hty => ?_
  refine (keeps_body (P := fun id m => TypeId m.globals.toList type t ∧ Has m.known m.block id t)
    hg₁ fun m hm hmw ho => ?_).bind fun id g₂ _ hg₂ hid =>
      .pure hg₂ ⟨rfl, hpos, hfour, t, hid⟩
  have hty' := TypeId.mono hty hm.globals
  have hemit := Build.builds_emitGlsl hmw ho hop
    (hty'.isType m.globals_subset_known hpos hfour)
    (ha m t (hc.continues.trans hm) hty')
  exact ⟨hemit.continues, hemit.opened, hemit.wellFormed, hty'.mono hemit.continues.globals,
    hemit.result⟩

/-- One of two operations on values of one type, as typed as the operations are. -/
theorem keeps_binary (hg : g.WellFormed) {float integer : Spirv.Op} (ha : g.module.HasValue a)
    (hb : g.module.HasValue b) (hfloat : float = .fAdd ∨ float = .fMul)
    (hinteger : integer = .iAdd ∨ integer = .iMul) :
    Keeps g (binary float integer a b) fun w g' => w.type = a.type ∧ g'.module.HasValue w := by
  refine (keeps_expectSameType hg).bind fun _ g₁ hc hg₁ hsame => ?_
  obtain ⟨rfl, hsame⟩ := hsame
  by_cases hscalar : a.type.scalar = .float32
  · rw [if_pos hscalar]
    refine keeps_emit hg₁ ha.positive ha.atMostFour (fun t id => ?_) fun m t id hm ht hty => ?_
    · rcases hfloat with rfl | rfl <;> simp [Inst.IsInner]
    · rw [ValueType.eq_mk hscalar rfl] at hty
      exact .floatBinary hfloat hty ((ha.mono hm).has ht) ((hb.mono hm).has (hsame ▸ ht))
  · rw [if_neg hscalar]
    refine keeps_emit hg₁ ha.positive ha.atMostFour (fun t id => ?_) fun m t id hm ht hty => ?_
    · rcases hinteger with rfl | rfl <;> simp [Inst.IsInner]
    · have hint : a.type.scalar.isInteger = true := by
        cases hs : a.type.scalar with
        | float32 => exact absurd hs hscalar
        | uint32 | sint32 => rfl
      exact .integerBinary hinteger hint hty ((ha.mono hm).has ht)
        ((hb.mono hm).has (hsame ▸ ht))

theorem keeps_add (hg : g.WellFormed) (ha : g.module.HasValue a) (hb : g.module.HasValue b) :
    Keeps g (add a b) fun w g' => w.type = a.type ∧ g'.module.HasValue w :=
  keeps_binary hg ha hb (.inl rfl) (.inl rfl)

theorem keeps_mul (hg : g.WellFormed) (ha : g.module.HasValue a) (hb : g.module.HasValue b) :
    Keeps g (mul a b) fun w g' => w.type = a.type ∧ g'.module.HasValue w :=
  keeps_binary hg ha hb (.inr rfl) (.inr rfl)

theorem keeps_dot (hg : g.WellFormed) (ha : g.module.HasValue a) (hb : g.module.HasValue b) :
    Keeps g (dot a b) fun w g' => w.type = ⟨.float32, 1⟩ ∧ g'.module.HasValue w := by
  refine (keeps_expectSameType hg).bind fun _ g₁ hc hg₁ hsame => ?_
  obtain ⟨rfl, hsame⟩ := hsame
  simp only [missing_bind]
  split
  · exact keeps_missing hg₁
  · next hscalar =>
    have hscalar := Decidable.not_not.1 hscalar
    split
    · next hone =>
      exact (keeps_mul hg₁ ha hb).imp fun w g' h => ⟨h.1.trans (ValueType.eq_mk hscalar hone), h.2⟩
    · next hmany =>
      have htwo : 2 ≤ a.type.count := by
        have := ha.positive
        omega
      refine keeps_emit hg₁ (Nat.le_refl 1) (Nat.le_add_left 1 3)
        (fun t id => by simp [Inst.IsInner]) fun m t id hm ht hty => ?_
      obtain ⟨hpos, hfour, vector, hvector, hhas⟩ := ha.mono hm
      have hvectorType := hvector.isType m.globals_subset_known hpos hfour
      rw [ValueType.eq_mk hscalar rfl] at hvectorType
      exact .dot htwo hvectorType hhas ((hb.mono hm).has (hsame ▸ hvector)) hty

theorem keeps_inverseSqrt (hg : g.WellFormed) (hv : g.module.HasValue v) :
    Keeps g (inverseSqrt v) fun w g' => w.type = v.type ∧ g'.module.HasValue w := by
  refine (keeps_expectFloat hg).bind fun _ g₁ hc hg₁ hfloat => ?_
  obtain ⟨rfl, hfloat⟩ := hfloat
  refine keeps_emitExtended hg₁ hv.positive hv.atMostFour (by rw [hfloat]; rfl)
    fun m t hm ht x hx => ?_
  rw [List.mem_singleton.1 hx]
  exact (hv.mono hm).has ht

theorem keeps_abs (hg : g.WellFormed) (hv : g.module.HasValue v) :
    Keeps g (abs v) fun w g' => w.type = v.type ∧ g'.module.HasValue w := by
  have hhas (m : Module) (t : Word) (hm : g.module.Continues m)
      (ht : TypeId m.globals.toList v.type t) : ∀ x ∈ [v.id], Has m.known m.block x t := by
    intro x hx
    rw [List.mem_singleton.1 hx]
    exact (hv.mono hm).has ht
  rw [abs]
  split
  · next hs => exact keeps_emitExtended hg hv.positive hv.atMostFour (by rw [hs]; rfl) hhas
  · next hs => exact keeps_emitExtended hg hv.positive hv.atMostFour (by rw [hs]; rfl) hhas
  · exact (keeps_build hg (Build.declares_type hg.module v.type).builds).bind
      fun _ _ hc hg' _ => .pure hg' ⟨rfl, hv.mono hc.continues⟩

theorem keeps_neg (hg : g.WellFormed) (hv : g.module.HasValue v) :
    Keeps g (neg v) fun w g' => w.type = v.type ∧ g'.module.HasValue w := by
  rw [neg]
  split
  · next hs =>
    refine keeps_emit hg hv.positive hv.atMostFour (fun t id => by simp [Inst.IsInner])
      fun m t id hm ht hty => ?_
    rw [ValueType.eq_mk hs rfl] at hty
    exact .floatNegate hty ((hv.mono hm).has ht)
  all_goals
    next hs =>
    refine keeps_emit hg hv.positive hv.atMostFour (fun t id => by simp [Inst.IsInner])
      fun m t id hm ht hty => ?_
    rw [ValueType.eq_mk hs rfl] at hty
    exact .integerNegate rfl hty ((hv.mono hm).has ht)

/-- A constant in each of several components. -/
theorem declares_splat {m : Module} (hm : m.WellFormed) (bits : Word) {count : Nat} :
    Declares m (splat bits count) fun id m' => ∃ t,
      TypeId m'.globals.toList ⟨.float32, count⟩ t ∧ Has m'.known m'.block id t := by
  refine (Build.declares_scalarConstant hm .float32 bits).bind fun scalar m₁ _ hm₁ hscalar => ?_
  obtain ⟨s, hs, hmem⟩ := hscalar
  split
  · next hone => exact .pure hm₁ ⟨s, ⟨s, hs, by rw [if_pos hone]⟩, Module.has_of_mem hmem⟩
  · refine (Build.declares_type hm₁ ⟨.float32, count⟩).bind fun t m₂ hgrows hm₂ ht => ?_
    have hparts : ∀ p ∈ List.replicate count scalar,
        ∃ s bits, ⟨.constant, some s, some p, [bits]⟩ ∈ m₂.globals.toList := fun p hp => by
      rw [List.eq_of_mem_replicate hp]
      exact ⟨s, bits, hgrows.globals.subset hmem⟩
    have hcomposite := Build.declares_constantComposite hm₂ ht.mem_results hparts
    exact ⟨hcomposite.grows, hcomposite.body, hcomposite.wellFormed, t,
      ht.mono hcomposite.grows.globals, Module.has_of_mem hcomposite.result⟩

theorem keeps_saturate (hg : g.WellFormed) (hv : g.module.HasValue v) :
    Keeps g (saturate v) fun w g' => w.type = v.type ∧ g'.module.HasValue w := by
  refine (keeps_expectFloat hg).bind fun _ g₁ hc hg₁ hfloat => ?_
  obtain ⟨rfl, hfloat⟩ := hfloat
  have htype : v.type = ⟨.float32, v.type.count⟩ := ValueType.eq_mk hfloat rfl
  refine (keeps_build hg₁ (Build.declares_type hg₁.module v.type).builds).bind
    fun t g₂ hc₂ hg₂ hty => ?_
  refine (keeps_build hg₂ (declares_splat hg₂.module 0).builds).bind fun zero g₃ hc₃ hg₃ hzero => ?_
  refine (keeps_build hg₃ (declares_splat hg₃.module 0x3f800000).builds).bind
    fun one g₄ hc₄ hg₄ hone => ?_
  refine (keeps_body (P := fun id m => TypeId m.globals.toList v.type t ∧
    Has m.known m.block id t) hg₄ fun m hm hmw ho => ?_).bind fun id g₅ _ hg₅ hid =>
      .pure hg₅ ⟨rfl, hv.positive, hv.atMostFour, t, hid⟩
  have hc₃m := hc₄.continues.trans hm
  have hc₂m := hc₃.continues.trans hc₃m
  have hty' := TypeId.mono hty hc₂m.globals
  have hargs : ∀ x ∈ [v.id, zero, one], Has m.known m.block x t := by
    obtain ⟨zeroType, hzeroType, hzero⟩ := hzero
    obtain ⟨oneType, honeType, hone⟩ := hone
    rw [← htype] at hzeroType honeType
    simp only [List.mem_cons, List.not_mem_nil, or_false]
    rintro x (rfl | rfl | rfl)
    · exact (hv.mono (hc₂.continues.trans hc₂m)).has hty'
    · rw [hty'.unique (TypeId.mono hzeroType hc₃m.globals)]
      exact hzero.mono hc₃m.known hc₃m.block_subset
    · rw [hty'.unique (TypeId.mono honeType hm.globals)]
      exact hone.mono hm.known hm.block_subset
  have hop : glslSignature? GlslOp.fClamp.number = some (.float32, [v.id, zero, one].length) := rfl
  have hemit := Build.builds_emitGlsl hmw ho hop
    (htype ▸ hty'.isType m.globals_subset_known hv.positive hv.atMostFour) hargs
  exact ⟨hemit.continues, hemit.opened, hemit.wellFormed, hty'.mono hemit.continues.globals,
    hemit.result⟩

/-! ## Sampling -/

/-- An image that can be sampled has one sample per texel, and the coordinates of its dimension. -/
theorem image_of_coordinates {dim : ResourceDim} {imageDim : Dim}
    {capability? : Option Capability} {coordinates : Nat}
    (hi : dim.image? = some (imageDim, capability?)) (hc : dim.coordinates? = some coordinates) :
    dim.isMultisampled = false ∧ dimCoordinates? imageDim.number = some coordinates := by
  cases dim <;> cases hc <;> cases hi <;> exact ⟨rfl, rfl⟩

/-- The declared type of an image that can be sampled. -/
theorem isImageType_of_declared {globals known : List Inst} (hk : globals ⊆ known)
    {dim : ResourceDim} {imageDim : Dim} {capability? : Option Capability} {coordinates : Nat}
    {sampled : ScalarType} {sampledType imageType : Word}
    (hi : dim.image? = some (imageDim, capability?)) (hc : dim.coordinates? = some coordinates)
    (hs : ScalarId globals sampled sampledType)
    (ht : ⟨.typeImage, none, some imageType, [sampledType, imageDim.number, 0,
      if dim.isArray then 1 else 0, if dim.isMultisampled then 1 else 0, 1,
      ImageFormat.unknown.number]⟩ ∈ globals) :
    IsImageType known (coordinates + if dim.isArray then 1 else 0) sampled imageType := by
  obtain ⟨hsingle, hnumber⟩ := image_of_coordinates hi hc
  rw [hsingle] at ht
  refine ⟨sampledType, imageDim.number, if dim.isArray then 1 else 0, coordinates,
    hs.isScalar hk, hk ht, hnumber, ?_⟩
  cases dim.isArray <;> rfl

/-- An image and a sampler are loaded and put together. -/
theorem builds_loadSampled {m : Module} (hm : m.WellFormed)
    (ho : (Spirv.openBlock m.body.toList).isSome) {coordinates : Nat} {s : ScalarType}
    {imageType image samplerType sampler combinedType : Word}
    (hi : PointsTo m.known m.block image .uniformConstant imageType)
    (hit : IsImageType m.known coordinates s imageType)
    (hs : PointsTo m.known m.block sampler .uniformConstant samplerType)
    (hst : ⟨.typeSampler, none, some samplerType, []⟩ ∈ m.known)
    (hct : ⟨.typeSampledImage, none, some combinedType, [imageType]⟩ ∈ m.known) :
    Builds m (loadSampled imageType image samplerType sampler combinedType) fun id m' =>
      Has m'.known m'.block id combinedType := by
  refine (Build.builds_emitValue hm ho (fun _ => by simp [Inst.IsInner])
    fun _ => .load hi).bind fun loadedImage m₁ hc₁ hm₁ himage => ?_
  refine (Build.builds_emitValue hm₁ (hc₁.isOpen ho) (fun _ => by simp [Inst.IsInner])
    fun _ => .load (hs.mono hc₁.known hc₁.block_subset)).bind
    fun loadedSampler m₂ hc₂ hm₂ hsampler => ?_
  have hc := hc₁.trans hc₂
  exact Build.builds_emitValue hm₂ (hc.isOpen ho) (fun _ => by simp [Inst.IsInner]) fun _ =>
    .sampledImage (himage.mono hc₂.known hc₂.block_subset) (hit.mono hc.known) hsampler
      (hc.known hst) (hc.known hct)

/-- A texture is sampled at a level of detail or with derivatives. -/
theorem builds_emitSample {m : Module} (hm : m.WellFormed)
    (ho : (Spirv.openBlock m.body.toList).isSome) {coordinates : Nat} {s : ScalarType}
    {imageType combinedType coordinateType type combined coordinate : Word} {lod? : Option Word}
    (hc : Has m.known m.block combined combinedType)
    (hct : ⟨.typeSampledImage, none, some combinedType, [imageType]⟩ ∈ m.known)
    (hi : IsImageType m.known coordinates s imageType)
    (hx : Has m.known m.block coordinate coordinateType)
    (hxt : IsType m.known ⟨.float32, coordinates⟩ coordinateType)
    (hl : ∀ lod, lod? = some lod → ∃ t, IsType m.known ⟨.float32, 1⟩ t ∧ Has m.known m.block lod t)
    (ht : IsType m.known ⟨s, 4⟩ type) :
    Builds m (emitSample type combined coordinate lod?) fun id m' =>
      Has m'.known m'.block id type := by
  cases lod? with
  | none =>
    exact Build.builds_emitValue hm ho (fun _ => by simp [Inst.IsInner])
      fun _ => .sampleImplicit hc hct hi hx hxt ht
  | some lod =>
    obtain ⟨lodType, hlt, hlod⟩ := hl lod rfl
    exact Build.builds_emitValue hm ho (fun _ => by simp [Inst.IsInner])
      fun _ => .sampleExplicit hc hct hi hx hxt hlod hlt ht

/-- A level of detail is a constant number. -/
theorem declares_levelOfDetail {m : Module} (hm : m.WellFormed) (stage : EntryStage) :
    Declares m (levelOfDetail stage) fun lod? m' => ∀ lod, lod? = some lod → ∃ t,
      IsType m'.known ⟨.float32, 1⟩ t ∧ Has m'.known m'.block lod t := by
  have hconstant : Declares m (do return some (← Build.constantF32 0)) fun lod? m' =>
      ∀ lod, lod? = some lod → ∃ t, IsType m'.known ⟨.float32, 1⟩ t ∧
        Has m'.known m'.block lod t := by
    refine (Build.declares_scalarConstant hm .float32 0).bind fun id m' _ hm' hid => .pure hm' ?_
    rintro lod ⟨⟩
    obtain ⟨t, ht, hmem⟩ := hid
    exact ⟨t, .inl ⟨rfl, ht.isScalar m'.globals_subset_known⟩, Module.has_of_mem hmem⟩
  cases stage with
  | pixel => exact .pure hm fun _ h => by cases h
  | vertex | compute => exact hconstant

/-- A sampled texture is a value of four components of the sampled type. -/
theorem keeps_sample (hg : g.WellFormed) (texture sampler : Word) {coordinate : Value}
    (hx : g.module.HasValue coordinate) :
    Keeps g (sample texture sampler coordinate) fun v g' => g'.module.HasValue v := by
  refine .get_bind ?_
  split
  · next register slot imageId imageType dim sampled himage =>
    have hsound := hg.resources _ (Generator.resource?_eq_some himage).1
    obtain ⟨imageDim, capability?, sampledType, hdim, hsampled, hdeclared, hvariable⟩ := hsound
    split
    · next samplerResource hsampler =>
      obtain ⟨hmem, hkind, -⟩ := Generator.resource?_eq_some hsampler
      have hsound := hg.resources _ hmem
      obtain ⟨samplerRegister, samplerSlot, samplerId, form⟩ := samplerResource
      cases form with
      | constantBuffer | image => cases hkind
      | sampler =>
        obtain ⟨declaredSampler, hdeclaredSampler, hsamplerVariable⟩ := hsound
        split
        · next coordinates hcoordinates =>
          refine (keeps_expectFloat hg).bind fun _ g₁ hc hg₁ hfloat => ?_
          obtain ⟨rfl, hfloat⟩ := hfloat
          have himageType := isImageType_of_declared (fun _ h => h) hdim hcoordinates hsampled
            hdeclared
          simp only [fault_bind]
          generalize coordinates + (if dim.isArray then 1 else 0) = count at himageType ⊢
          split
          · exact keeps_fault hg₁
          · next hwide =>
            have hfour := hx.atMostFour
            refine (keeps_extract hg₁ hx _).bind fun x g₂ hc₂ hg₂ hx' => ?_
            obtain ⟨hxt, hx'⟩ := hx'
            rw [ComponentMask.count, components_firstN (by omega), List.length_range, hfloat] at hxt
            refine (keeps_build hg₂ (Build.declares_samplerType hg₂.module).builds).bind
              fun samplerType g₃ hc₃ hg₃ hst => ?_
            have himageId := mem_results_of_mem
              ((hc₂.continues.trans hc₃.continues).globals.subset hdeclared)
            refine (keeps_build hg₃
              (Build.declares_sampledImageType hg₃.module himageId).builds).bind
              fun combinedType g₄ hc₄ hg₄ hct => ?_
            refine (keeps_build hg₄ (Build.declares_type hg₄.module ⟨sampled, 4⟩).builds).bind
              fun typeId g₅ hc₅ hg₅ hty => ?_
            refine (keeps_build hg₅ (declares_levelOfDetail hg₅.module _).builds).bind
              fun lod? g₆ hc₆ hg₆ hlod => ?_
            refine (keeps_body (P := fun id m => TypeId m.globals.toList ⟨sampled, 4⟩ typeId ∧
              Has m.known m.block id typeId) hg₆ fun m hm hmw ho => ?_).bind
              fun id g₇ _ hg₇ hid => .pure hg₇ ⟨Nat.le_add_left 1 3, Nat.le_refl 4, typeId, hid⟩
            -- everything that has been declared on the way is still there for the instructions
            have hc₅m := hc₆.continues.trans hm
            have hc₄m := hc₅.continues.trans hc₅m
            have hc₃m := hc₄.continues.trans hc₄m
            have hc₂m := hc₃.continues.trans hc₃m
            have hcm := hc₂.continues.trans hc₂m
            have hst := hst.mono hc₃m.globals
            obtain rfl := hst.unique (hdeclaredSampler.mono hcm.globals)
            have hty' := TypeId.mono hty hc₅m.globals
            have hct' := m.globals_subset_known (hct.mono hc₄m.globals).mem
            have himageType' := himageType.mono fun i hi =>
              m.globals_subset_known (hcm.globals.subset hi)
            refine (builds_loadSampled hmw ho (hvariable.mono hcm.globals).pointsTo himageType'
              (hsamplerVariable.mono hcm.globals).pointsTo (m.globals_subset_known hst.mem)
              hct').bind fun combined m' hm' hmw' hcombined => ?_
            obtain ⟨hpos, hfour, t, ht, hhas⟩ := (hx'.mono hc₂m).mono hm'
            rw [hxt] at ht
            have hemit := builds_emitSample hmw' (hm'.isOpen ho) hcombined (hm'.known hct')
              (himageType'.mono hm'.known) hhas
              (ht.isType m'.globals_subset_known (hxt ▸ hpos) (hxt ▸ hfour))
              (fun lod hl => by
                obtain ⟨lodType, hlt, hlod⟩ := hlod lod hl
                have hmm' := hm.trans hm'
                exact ⟨lodType, hlt.mono hmm'.known, hlod.mono hmm'.known hmm'.block_subset⟩)
              ((hty'.mono hm'.globals).isType m'.globals_subset_known (Nat.le_add_left 1 3)
                (Nat.le_refl 4))
            exact ⟨hemit.continues, hemit.opened, hemit.wellFormed,
              (hty'.mono hm'.globals).mono hemit.continues.globals, hemit.result⟩
        · exact keeps_missing hg
    · exact keeps_fault hg
  · exact keeps_fault hg

end Generate

/-! ## Returning -/

/-- The generator behind a return. -/
def Generator.returned (g : Generator) : Generator :=
  { g.opened with
    module := g.opened.module.withCode (.effect .functionReturn [])
    blockOpen := false }

theorem Generate.run_ret (g : Generator) : ret.run g = (.ok (), g.returned) := by
  simp only [ret, body, run_bind, run_openBlock]
  rfl

/-- A return keeps the generator well-formed, but it closes the block. -/
theorem Generator.WellFormed.returned {g : Generator} (hg : g.WellFormed) :
    g.Grows g.returned ∧ g.returned.WellFormed := by
  obtain ⟨hc, hw, ho⟩ := hg.opened
  have hopen : (openBlock g.opened.module.body.toList).isSome := hw.blockOpen ▸ ho
  have hbody : (g.opened.module.withCode (.effect .functionReturn [])).body.toList =
      g.opened.module.body.toList ++ [.effect .functionReturn []] := Array.toList_push ..
  have hgrows := g.opened.module.grows_withCode (.effect .functionReturn [])
  have hm : (g.opened.module.withCode (.effect .functionReturn [])).WellFormed :=
    hw.module.withCode rfl (hw.module.body.concat_return hopen rfl) .functionReturn
  refine ⟨hc.toGrows.trans ⟨hgrows, ⟨rfl, rfl, rfl, rfl⟩, List.prefix_rfl, List.prefix_rfl,
    List.prefix_rfl⟩, ⟨hm, ?_, results_subset hgrows.body.subset hw.entryPoint, hw.temps,
      hw.interfaces, hw.resources, hw.distinct⟩⟩
  rw [Generator.returned, hbody, openBlock_concat_return rfl]
  rfl

end ShaderLowering
