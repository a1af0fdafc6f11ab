import ShaderLowering.Proofs.Generator.Accessing
import ShaderLowering.Proofs.Semantics.Scalars

/-!
# What computations stand for

The operations on values and textures succeed on values of the right types, and what they return
stands for what the platform makes of the components.
-/

namespace ShaderLowering

open Spirv

namespace Generate

variable {P : Platform} {l : Launch P} {g : Generator} {M : Memory P} {a b v : Value}
variable {xs ys : List Word}

/-! ## Arithmetic -/

theorem expectSameType_of_eq (h : a.type = b.type) : expectSameType a b = pure () :=
  if_neg (not_not_intro h)

theorem expectFloat_of_eq (h : v.type.scalar = .float32) : expectFloat v = pure () :=
  if_neg (not_not_intro h)

/-- An operation on two values of one type works component by component. -/
theorem performs_binary (hg : g.WellFormed) (hM : l.Reaches g.module M) {float integer : Spirv.Op}
    {f : Word → Word → Word}
    (hop : (if a.type.scalar = .float32 then float else integer, f) ∈
      [(.fAdd, P.add), (.fMul, P.mul), (.iAdd, (· + ·)), (.iMul, (· * ·))])
    (ht : a.type = b.type) (ha : l.Denotes g.module a xs) (hb : l.Denotes g.module b ys) :
    Performs l g (binary float integer a b)
      (fun w g' => w.type = a.type ∧ l.Denotes g'.module w (List.zipWith f xs ys)) M := by
  have hlength : xs.length = ys.length := by rw [← ha.count, ← hb.count, ht]
  have hcomputes : (if a.type.scalar = .float32 then float else integer).computes = true := by
    generalize (if a.type.scalar = .float32 then float else integer) = op at hop
    simp only [List.mem_cons, List.not_mem_nil, or_false] at hop
    rcases hop with h | h | h | h <;> cases h <;> rfl
  rw [binary, expectSameType_of_eq ht, pure_bind]
  refine (performs_emit hg hM hcomputes fun hgrows id s hs _ =>
    State.eval_zip hop (ha.lanes hgrows hs) (hb.lanes hgrows hs) hlength).imp fun w g' h => ?_
  refine ⟨h.1, ?_, h.2⟩
  rw [h.1, ha.count, List.length_zipWith, ← hlength, Nat.min_self]

theorem performs_add (hg : g.WellFormed) (hM : l.Reaches g.module M) (ht : a.type = b.type)
    (ha : l.Denotes g.module a xs) (hb : l.Denotes g.module b ys) :
    Performs l g (add a b) (fun w g' => w.type = a.type ∧
      l.Denotes g'.module w (List.zipWith (a.type.scalar.add P) xs ys)) M :=
  performs_binary hg hM (by cases a.type.scalar <;> simp [ScalarType.add]) ht ha hb

theorem performs_mul (hg : g.WellFormed) (hM : l.Reaches g.module M) (ht : a.type = b.type)
    (ha : l.Denotes g.module a xs) (hb : l.Denotes g.module b ys) :
    Performs l g (mul a b) (fun w g' => w.type = a.type ∧
      l.Denotes g'.module w (List.zipWith (a.type.scalar.mul P) xs ys)) M :=
  performs_binary hg hM (by cases a.type.scalar <;> simp [ScalarType.mul]) ht ha hb

/-- The dot product of vectors of at least two components. -/
theorem performs_dot (hg : g.WellFormed) (hM : l.Reaches g.module M) (ht : a.type = b.type)
    (hf : a.type.scalar = .float32) (htwo : 2 ≤ xs.length) (ha : l.Denotes g.module a xs)
    (hb : l.Denotes g.module b ys) :
    Performs l g (dot a b)
      (fun w g' => w.type = ⟨.float32, 1⟩ ∧ l.Denotes g'.module w [P.dot xs ys]) M := by
  have hlength : xs.length = ys.length := by rw [← ha.count, ← hb.count, ht]
  have hmany : a.type.count ≠ 1 := by
    rw [ha.count]
    omega
  simp only [dot, expectSameType_of_eq ht, pure_bind, missing_bind]
  rw [if_neg (not_not_intro hf), if_neg hmany]
  exact (performs_emit hg hM rfl fun hgrows id s hs _ =>
    State.eval_dot (ha.lanes hgrows hs) (hb.lanes hgrows hs) hlength).imp fun w g' h =>
      ⟨h.1, by rw [h.1]; rfl, h.2⟩

/-- The components of the operand of an extended instruction. -/
theorem mapM_lanes_singleton (hv : l.Denotes g.module v xs) (hgrows : g.module.Grows l.module)
    (s : State P) (hs : l.state? g.module = some s) : [v.id].mapM s.lanes = some [xs] := by
  rw [List.mapM_cons, hv.lanes hgrows hs]
  rfl

theorem performs_inverseSqrt (hg : g.WellFormed) (hM : l.Reaches g.module M)
    (hf : v.type.scalar = .float32) (hv : l.Denotes g.module v xs) :
    Performs l g (inverseSqrt v)
      (fun w g' => w.type = v.type ∧ l.Denotes g'.module w (xs.map P.inverseSqrt)) M := by
  rw [inverseSqrt, expectFloat_of_eq hf, pure_bind]
  exact (performs_emitExtended hg hM (mapM_lanes_singleton hv) rfl).imp fun w g' h =>
    ⟨h.1, by rw [h.1, hv.count, List.length_map], h.2⟩

theorem performs_abs (hg : g.WellFormed) (hM : l.Reaches g.module M)
    (hv : l.Denotes g.module v xs) :
    Performs l g (abs v) (fun w g' => w.type = v.type ∧
      l.Denotes g'.module w (xs.map (v.type.scalar.abs P))) M := by
  rw [abs]
  split
  iterate 2
    next hs =>
      rw [hs]
      exact (performs_emitExtended hg hM (mapM_lanes_singleton hv) rfl).imp fun w g' h =>
        ⟨h.1, by rw [h.1, hv.count, List.length_map], h.2⟩
  · next hs =>
    rw [hs, ScalarType.abs, List.map_id]
    have htype := Build.declares_type hg.module v.type
    exact (performs_declare htype hM).bind (keeps_build hg htype.builds)
      fun _ _ hc _ _ _ hM₁ => .pure hM₁ ⟨rfl, hv.mono hc.module⟩

theorem performs_neg (hg : g.WellFormed) (hM : l.Reaches g.module M)
    (hv : l.Denotes g.module v xs) :
    Performs l g (neg v) (fun w g' => w.type = v.type ∧
      l.Denotes g'.module w (xs.map (v.type.scalar.neg P))) M := by
  have hemit {op : Spirv.Op} {f : Word → Word} (hc : op.computes = true)
      (hop : (op, f) ∈ [(.fNegate, P.neg), (.sNegate, (- ·))]) :
      Performs l g (emit op v.type [v.id])
        (fun w g' => w.type = v.type ∧ l.Denotes g'.module w (xs.map f)) M :=
    (performs_emit hg hM hc fun hgrows id s hs _ =>
      State.eval_map hop (hv.lanes hgrows hs)).imp fun w g' h =>
        ⟨h.1, by rw [h.1, hv.count, List.length_map], h.2⟩
  rw [neg]
  split
  iterate 3
    next hs =>
      rw [hs]
      exact hemit rfl (by simp [ScalarType.neg])

/-- A constant in each of several components stands for its repetition. -/
theorem declares_repeated {m : Module} (hm : m.WellFormed) (bits : Word) (count : Nat) :
    Declares m (splat bits count) fun id m' =>
      l.Holds m' id (.lanes (List.replicate count bits)) := by
  refine (Build.declares_scalarConstant hm .float32 bits).bind fun scalar m₁ _ hm₁ hscalar => ?_
  obtain ⟨s, -, hmem⟩ := hscalar
  split
  · next hone =>
    rw [hone]
    exact .pure hm₁ (Launch.holds_constant hmem)
  · refine (Build.declares_type hm₁ ⟨.float32, count⟩).bind fun t m₂ hgrows hm₂ ht => ?_
    have hmem₂ := hgrows.globals.subset hmem
    have hparts : ∀ p ∈ List.replicate count scalar,
        ∃ s bits, ⟨.constant, some s, some p, [bits]⟩ ∈ m₂.globals.toList := fun p hp => by
      rw [List.eq_of_mem_replicate hp]
      exact ⟨s, bits, hmem₂⟩
    have hcomposite := Build.declares_constantComposite hm₂ ht.mem_results hparts
    refine ⟨hcomposite.grows, hcomposite.body, hcomposite.wellFormed, ?_⟩
    refine Launch.holds_composite ?_ hcomposite.result fun x hx => ?_
    · rw [List.length_replicate, List.length_replicate]
    · rw [List.zip_replicate', List.mem_replicate] at hx
      rw [hx.2]
      exact ⟨s, hcomposite.grows.globals.subset hmem₂⟩

/-- Bounds that are the same for all components are applied to each of them. -/
theorem extended_clamp (xs : List Word) (low high : Word) :
    State.extended P GlslOp.fClamp.number
      [xs, List.replicate xs.length low, List.replicate xs.length high] =
        some (.lanes (xs.map fun x => P.clamp x low high)) := by
  have hzip : List.zipWith (fun x (b : Word × Word) => P.clamp x b.1 b.2) xs
      ((List.replicate xs.length low).zip (List.replicate xs.length high)) =
        xs.map fun x => P.clamp x low high := by
    rw [List.zip_replicate']
    induction xs with
    | nil => rfl
    | cons x xs ih => rw [List.length_cons, List.replicate_succ, List.zipWith_cons_cons, ih,
        List.map_cons]
  simp only [State.extended, List.length_replicate, hzip, and_self, if_true]

/-- A value is clamped to the unit interval. -/
theorem performs_saturate (hg : g.WellFormed) (hM : l.Reaches g.module M)
    (hf : v.type.scalar = .float32) (hv : l.Denotes g.module v xs) :
    Performs l g (saturate v) (fun w g' => w.type = v.type ∧
      l.Denotes g'.module w (xs.map fun x => P.clamp x 0 0x3f800000)) M := by
  rw [saturate, expectFloat_of_eq hf, pure_bind]
  have htype := Build.declares_type hg.module v.type
  refine (performs_declare htype hM).bind (keeps_build hg htype.builds)
    fun t g₁ hc₁ hg₁ _ _ hM₁ => ?_
  have hlow := declares_repeated (l := l) hg₁.module 0 v.type.count
  refine (performs_declare hlow hM₁).bind (keeps_build hg₁ hlow.builds)
    fun zero g₂ hc₂ hg₂ hzero _ hM₂ => ?_
  have hhigh := declares_repeated (l := l) hg₂.module 0x3f800000 v.type.count
  refine (performs_declare hhigh hM₂).bind (keeps_build hg₂ hhigh.builds)
    fun one g₃ hc₃ hg₃ hone _ hM₃ => ?_
  rw [hv.count] at hzero hone
  refine (performs_body hg₃ hM₃ fun m hm hmw _ hM₄ => yields_emitGlsl hmw hM₄
    (fun hgrows s hs => ?_) (extended_clamp xs 0 0x3f800000)).bind_pure fun id g₄ hid =>
      ⟨rfl, by rw [hv.count, List.length_map], hid⟩
  have hc₃' := hc₃.continues.trans hm
  have hc₁' := hc₁.continues.trans (hc₂.continues.trans hc₃')
  have hx := (hv.mono hc₁'.toGrows).lanes hgrows hs
  have hlow := State.lanes_of_values ((hzero.mono hc₃'.toGrows) hgrows s hs)
  have hhigh := State.lanes_of_values ((hone.mono hm.toGrows) hgrows s hs)
  simp only [List.mapM_cons, List.mapM_nil, hx, hlow, hhigh]
  rfl

end Generate

/-! ## Sampling -/

/-- A texture takes at most as many components as a register has. -/
theorem ResourceDim.components?_le {dim : ResourceDim} {count : Nat}
    (h : dim.components? = some count) : 1 ≤ count ∧ count ≤ 4 := by
  cases dim <;> cases h <;> exact ⟨by decide, by decide⟩

namespace Generate

variable {P : Platform} {l : Launch P} {g : Generator} {m : Module} {M : Memory P} {v : Value}
variable {xs : List Word} {t : P.Texture} {r : P.Sampler}

/-- The constant for the level of detail, where there is one. -/
theorem declares_level (hm : m.WellFormed) (stage : EntryStage) :
    Declares m (levelOfDetail stage) fun lod? m' =>
      Option.Rel (fun lod level => l.Holds m' lod (.lanes [level])) lod? stage.level? := by
  have hconstant : Declares m (do return some (← Build.constantF32 0)) fun lod? m' =>
      Option.Rel (fun lod level => l.Holds m' lod (.lanes [level])) lod? (some 0) := by
    refine (Build.declares_scalarConstant hm .float32 0).bind fun id m' _ hm' hid => .pure hm' ?_
    obtain ⟨type, -, hmem⟩ := hid
    exact .some (Launch.holds_constant hmem)
  cases stage with
  | pixel => exact .pure hm .none
  | vertex | compute => exact hconstant

/-- The image and the sampler that two variables hold are put together. -/
theorem yields_loadSampled (hM : l.Reaches m M)
    {imageType image samplerType sampler combinedType : Word}
    (hi : l.Holds m image (.pointer image)) (hs : l.Holds m sampler (.pointer sampler))
    (ht : M image = .image t) (hr : M sampler = .sampler r) :
    Yields l m (loadSampled imageType image samplerType sampler combinedType)
      (fun id m' => l.Holds m' id (.sampled t r)) M := by
  refine (yields_emitValue (d := .image t) hM rfl fun hgrows id s hs hM =>
    State.eval_load (hi hgrows s hs) (by rw [hM, ← ht]; rfl)).bind fun a m₁ hg₁ hM₁ ha => ?_
  refine (yields_emitValue (d := .sampler r) hM₁ rfl fun hgrows id s hs' hM =>
    State.eval_load ((hs.mono hg₁) hgrows s hs') (by rw [hM, ← hr]; rfl)).bind
      fun b m₂ hg₂ hM₂ hb => ?_
  exact yields_emitValue hM₂ rfl fun hgrows id s hs _ =>
    State.eval_sampledImage ((ha.mono hg₂) hgrows s hs) (hb hgrows s hs)

/-- Sampling with or without a level of detail. -/
theorem yields_emitSample (hM : l.Reaches m M) {type combined coordinate : Word}
    {lod? level? : Option Word} (hc : l.Holds m combined (.sampled t r))
    (hx : l.Holds m coordinate (.lanes xs))
    (hl : Option.Rel (fun lod level => l.Holds m lod (.lanes [level])) lod? level?) :
    Yields l m (emitSample type combined coordinate lod?)
      (fun id m' => l.Holds m' id (.lanes (fourLanes (P.sample t r level? xs)))) M := by
  cases hl with
  | none =>
    exact yields_emitValue hM rfl fun hgrows id s hs _ =>
      State.eval_sampleImplicit (hc hgrows s hs) (State.lanes_of_values (hx hgrows s hs))
  | some hlod =>
    exact yields_emitValue hM rfl fun hgrows id s hs _ =>
      State.eval_sampleExplicit (hc hgrows s hs) (State.lanes_of_values (hx hgrows s hs))
        (State.lanes_of_values (hlod hgrows s hs))

/-- A declared texture is sampled at the first components of a coordinate. -/
theorem performs_sample (hg : g.WellFormed) (hM : l.Reaches g.module M)
    {texture sampler register slot imageId imageType : Word} {dim : ResourceDim}
    {sampled : ScalarType} {s : DeclaredResource} {count : Nat}
    (himage : g.resource? .shaderResource texture =
      some ⟨register, slot, imageId, .image imageType dim sampled⟩)
    (hsampler : g.resource? .sampler sampler = some s) (hdim : dim.components? = some count)
    (ht : M imageId = .image t) (hr : M s.variableId = .sampler r) (hx : g.module.HasValue v)
    (hf : v.type.scalar = .float32) (hv : l.Denotes g.module v xs) (hcount : count ≤ xs.length) :
    Performs l g (sample texture sampler v) (fun w g' => w.type = ⟨sampled, 4⟩ ∧
      l.Denotes g'.module w (fourLanes
        (P.sample t r g.stage.level? (pick xs (List.range count))))) M := by
  obtain ⟨hpos, hle⟩ := ResourceDim.components?_le hdim
  obtain ⟨coordinates, hcoordinates, htotal⟩ := Option.map_eq_some_iff.1 hdim
  have hwide : ¬v.type.count < coordinates + if dim.isArray then 1 else 0 := by
    rw [hv.count]
    omega
  have hmask : (ComponentMask.firstN count).components = List.range count :=
    components_firstN hle
  have hfour : xs.length ≤ 4 := hv.count ▸ hx.atMostFour
  have hpointer : l.Holds g.module imageId (.pointer imageId) :=
    (hg.resources _ (Generator.resource?_eq_some himage).1).holds
  have hpointer' : l.Holds g.module s.variableId (.pointer s.variableId) :=
    (hg.resources _ (Generator.resource?_eq_some hsampler).1).holds
  refine .get_bind ?_
  simp only [himage, hsampler, hcoordinates, expectFloat_of_eq hf, pure_bind, fault_bind]
  rw [if_neg hwide, htotal]
  refine (performs_extract hg hM hv hfour ?_ ?_).bind (keeps_extract hg hx _)
    fun x g₁ hc₁ hg₁ _ hx₁ hM₁ => ?_
  · rw [hmask, List.length_range]
    exact hpos
  · intro i hi
    rw [hmask, List.mem_range] at hi
    omega
  rw [hmask] at hx₁
  have hst := Build.declares_samplerType hg₁.module
  refine (performs_declare hst hM₁).bind (keeps_build hg₁ hst.builds)
    fun samplerType g₂ hc₂ hg₂ _ _ hM₂ => ?_
  have hdeclared := (hg₁.resources _ ((hc₁.resources.subset
    (Generator.resource?_eq_some himage).1)))
  obtain ⟨imageDim, capability?, sampledType, -, -, himageType, -⟩ := hdeclared
  have hct := Build.declares_sampledImageType hg₂.module
    (mem_results_of_mem (hc₂.continues.globals.subset himageType))
  refine (performs_declare hct hM₂).bind (keeps_build hg₂ hct.builds)
    fun combinedType g₃ hc₃ hg₃ _ _ hM₃ => ?_
  have htype := Build.declares_type hg₃.module ⟨sampled, 4⟩
  refine (performs_declare htype hM₃).bind (keeps_build hg₃ htype.builds)
    fun typeId g₄ hc₄ hg₄ _ _ hM₄ => ?_
  have hlevel := declares_level (l := l) hg₄.module g.stage
  refine (performs_declare hlevel hM₄).bind (keeps_build hg₄ hlevel.builds)
    fun lod? g₅ hc₅ hg₅ _ hlod hM₅ => ?_
  refine (performs_body (Q := fun id m' => l.Holds m' id (.lanes (fourLanes
    (P.sample t r g.stage.level? (pick xs (List.range count)))))) hg₅ hM₅
      fun m hm _ _ hM₆ => ?_).bind_pure fun id g₆ hid => ⟨rfl, rfl, hid⟩
  -- everything that is known by now is still known in the code
  have hc₁' := hc₂.continues.trans (hc₃.continues.trans (hc₄.continues.trans
    (hc₅.continues.trans hm)))
  have hc := (hc₁.continues.trans hc₁').toGrows
  refine (yields_loadSampled hM₆ (hpointer.mono hc) (hpointer'.mono hc) ht hr).bind
    fun combined m' hgrows hM₇ hcombined => ?_
  refine yields_emitSample hM₇ hcombined ((hx₁.2.holds.mono hc₁'.toGrows).mono hgrows) ?_
  obtain ⟨hlod, -⟩ := hlod
  generalize g.stage.level? = level? at hlod ⊢
  cases hlod with
  | none => exact .none
  | some hlod => exact .some ((hlod.mono hm.toGrows).mono hgrows)

end Generate

end ShaderLowering
