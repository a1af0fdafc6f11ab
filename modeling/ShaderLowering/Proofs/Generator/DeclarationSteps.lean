import ShaderLowering.Proofs.Generator.Steps

/-!
# The steps of declarations

A declaration is a single event, and where it fails, nothing has taken place. Whatever else it adds
to the module (types, constants, names, decorations) is calm.
-/

namespace ShaderLowering

open Spirv (Build Module)

/-- What stands behind a texture or buffer. -/
def ResourceDim.behind (dim : ResourceDim) : ResourceKind :=
  if dim.isBuffer then .uniformTexelBuffer else .sampledImage

namespace Spirv.Build

/-! ## Calm steps -/

theorem calm_buildBlock (length : Word) : Calm (Generate.buildBlock length) := by
  refine (calm_type _).bind fun element => (calm_constantU32 length).bind fun number => ?_
  refine (calm_addGlobal (by simp) _ _).bind fun array => ?_
  refine (calm_decorate (by decide) (by decide) (by simp) _).bind fun _ => ?_
  refine (calm_addGlobal (by simp) _ _).bind fun block => ?_
  refine (calm_decorate (by decide) (by decide) (by simp) _).bind fun _ => ?_
  exact (calm_decorateMember _ (by simp) _ _).bind fun _ => .pure _

/-- Interpolation modes bind nothing. -/
theorem number_of_mem_decorations (mode : InterpolationMode) : ∀ d ∈ mode.decorations,
    d.number ≠ Decoration.descriptorSet.number ∧ d.number ≠ Decoration.binding.number := by
  cases mode <;> decide

theorem calm_decorateInterpolation (id : Word) (mode : InterpolationMode) :
    Calm (Generate.decorateInterpolation id mode) := by
  have hdecorations : Calm (mode.decorations.forM fun d => decorate id d []) := by
    have hmode := number_of_mem_decorations mode
    generalize mode.decorations = decorations at hmode
    induction decorations with
    | nil => exact .pure _
    | cons d decorations ih =>
      obtain ⟨hset, hbinding⟩ := hmode d (List.mem_cons_self ..)
      exact (calm_decorate hset hbinding (by simp) id).bind fun _ =>
        ih fun d' hd' => hmode d' (List.mem_cons_of_mem _ hd')
  rw [Generate.decorateInterpolation]
  split
  · exact (calm_enableCapability _).bind fun _ => hdecorations
  · exact hdecorations

end Spirv.Build

namespace Generate

variable {α β : Type} {g : Generator} {failed : List Event → Prop} {events : List Event}
variable {Q : α → Prop}

/-! ## Building -/

theorem takes_missing {feature : MissingFeature} :
    Takes g (missing feature : Generate α) Nothing events Q := .throw

theorem takes_fault {f : GeneratorFault} :
    Takes g (fault f : Generate α) Nothing events Q := .throw

/-- A single step that does not fail. -/
theorem takes_one {op : Generate α} {g' : Generator} {a : α} (hrun : op.run g = (.ok a, g'))
    (hstep : g.Step events g') (ha : Q a) : Takes g op Never events Q := by
  refine ⟨fun b hb => ?_, fun e he => ?_⟩
  · rw [hrun] at hb ⊢
    cases hb
    exact ⟨ha, .one hstep⟩
  · rw [hrun] at he
    cases he

theorem takes_build {b : Build α} (h : b.Calm) :
    Takes g (build b) Never [] fun _ => True :=
  takes_one (run_build b g) (.calm ⟨rfl, rfl, rfl, rfl⟩ (h g.module)) trivial

/-- What follows a part without events works on the same registers. -/
theorem calm_bind {op : Generate α} {f : α → Generate β} {R : β → Prop} (h : Takes g op Nothing [] Q)
    (hf : ∀ a g', Q a → g.SameRegisters g' → Takes g' (f a) Nothing events R) :
    Takes g (op >>= f) Nothing events R :=
  h.calm_bind (fun _ => id) hf

theorem build_bind {b : Build α} {f : α → Generate β} {R : β → Prop} (h : b.Calm)
    (hf : ∀ a g', g.SameRegisters g' → Takes g' (f a) failed events R) :
    Takes g (build b >>= f) failed events R :=
  (takes_build h).calm_bind (fun _ => False.elim) fun a g' _ => hf a g'

/-- Opening a block adds its label. -/
theorem takes_openBlock : Takes g openBlock Never [] fun _ => True := by
  refine takes_one (run_openBlock g) (.calm ?_ ?_) trivial <;> rw [Generator.opened] <;> split
  · exact .refl g
  · exact ⟨rfl, rfl, rfl, rfl⟩
  · exact .refl _
  · exact ⟨.refl _, .refl _, .refl _, .push rfl⟩

theorem takes_body {b : Build α} (h : b.Calm) : Takes g (body b) Never [] fun _ => True :=
  takes_openBlock.never_bind fun _ _ _ => takes_build h

theorem takes_name {text : String} (h : text.utf8ByteSize ≤ 100) (id : Word) :
    Takes g (name id text) Never [] fun _ => True := by
  refine .get_bind ?_
  split
  · exact takes_build (Build.calm_setName h id)
  · exact .pure trivial

theorem takes_slot (kind : ResourceClass) (register : Word) :
    Takes g (slot kind register) Nothing [] fun slot =>
      slotOf? g.stage.stage kind register = some slot := by
  refine .get_bind ?_
  split
  · next slot h => exact Takes.nothing_of_never (.pure h)
  · exact takes_fault

/-! ## Temporary registers -/

theorem run_name (id : Word) (text : String) (g : Generator) :
    (name id text).run g = (.ok (),
      if g.debugNames then { g with module := ((Build.setName id text).run g.module).2 } else g) := by
  simp only [name, run_bind, run_get]
  split <;> rfl

/-- New temporary registers are all that comes of declaring them. -/
theorem run_addTemps (pointerType : Word) (first more : Nat) (h : first + more ≤ 10 ^ 10)
    (g : Generator) : ∃ g', (addTemps pointerType first more).run g = (.ok (), g') ∧
      g'.stage = g.stage ∧ g'.interfaces = g.interfaces ∧ g'.resources = g.resources ∧
      g'.temps.size = g.temps.size + more ∧ g.module.Adds g'.module := by
  induction more generalizing g first with
  | zero => exact ⟨g, rfl, rfl, rfl, rfl, rfl, .refl _⟩
  | succ more ih =>
    have htext : (s!"r{first}").utf8ByteSize ≤ 100 := by
      have hfirst := utf8ByteSize_toString_le (n := first) (by omega)
      rw [String.utf8ByteSize_append]
      exact (Nat.add_le_add_left hfirst _).trans (by decide)
    have hvariable := Build.calm_newVariable pointerType Storage.temporary.spirvClass g.module
    simp only [addTemps, run_bind, run_build, run_name, run_modify]
    have hfirst : first + 1 + more ≤ 10 ^ 10 := by omega
    split
    · refine (ih _ hfirst _).imp fun g' ⟨hrun, hstage, hinterfaces, hresources, hsize, hadds⟩ =>
        ⟨hrun, hstage, hinterfaces, hresources, ?_, ?_⟩
      · simp only [hsize, Array.size_push]
        omega
      · exact (hvariable.trans (Build.calm_setName htext _ _)).trans hadds
    · refine (ih _ hfirst _).imp fun g' ⟨hrun, hstage, hinterfaces, hresources, hsize, hadds⟩ =>
        ⟨hrun, hstage, hinterfaces, hresources, ?_, hvariable.trans hadds⟩
      simp only [hsize, Array.size_push]
      omega

theorem takes_declareTemps {count : Nat} (h : count ≤ 10 ^ 10) :
    Takes g (declareTemps count) Never [.temps count] fun _ => True := by
  refine build_bind (Build.calm_pointerTo _ _) fun type g₁ _ => .get_bind ?_
  dsimp only
  by_cases hcount : g₁.temps.size ≤ count
  · obtain ⟨g₂, hrun, hstage, hinterfaces, hresources, hsize, hadds⟩ :=
      run_addTemps type g₁.temps.size (count - g₁.temps.size) (by omega) g₁
    refine takes_one hrun (.temps count hstage hinterfaces hresources ?_ hadds) trivial
    rw [hsize]
    omega
  · -- there are more registers than are asked for
    rw [Nat.sub_eq_zero_of_le (Nat.le_of_not_le hcount)]
    exact takes_one rfl (.temps count rfl rfl rfl (by omega) (.refl _)) trivial

/-! ## Resources -/

/-- A declaration of a resource that is declared already. -/
theorem takes_resourceAgain {kind : ResourceClass} {register : Word} (behind : ResourceKind)
    (h : (g.resource? kind register).isSome) :
    Takes g (pure () : Generate Unit) Never [.resource kind register behind] fun _ => True :=
  takes_one rfl (.resourceAgain behind h) trivial

theorem takes_addResource {g' : Generator} {register slot id : Word} (form : ResourceForm)
    (hs : g.SameRegisters g') (hslot : slotOf? g.stage.stage form.kind register = some slot)
    (hnew : ¬(g.resource? form.kind register).isSome) :
    Takes g' (addResource register slot id form) Never
      [.resource form.kind register form.resourceKind] fun _ => True := by
  rw [← hs.stage] at hslot
  rw [← hs.resource?_eq, Option.not_isSome_iff_eq_none] at hnew
  exact takes_one rfl (.resource (r := ⟨register, slot, id, form⟩) hslot hnew) trivial

/-- The names of resources and interface registers are short. -/
theorem takes_nameNumbered {letters : String} (h : letters.utf8ByteSize ≤ 60) (id register : Word) :
    Takes g (name id s!"{letters}{register.toNat}") Never [] fun _ => True := by
  refine takes_name ?_ id
  have hnumber := utf8ByteSize_toString_le (n := register.toNat)
    (register.toNat_lt.trans (by decide))
  rw [String.utf8ByteSize_append]
  exact Nat.add_le_add h hnumber

theorem takes_nameBlock (id register : Word) :
    Takes g (name id s!"cb{register.toNat}_t") Never [] fun _ => True := by
  refine takes_name ?_ id
  have hnumber := utf8ByteSize_toString_le (n := register.toNat)
    (register.toNat_lt.trans (by decide))
  rw [String.utf8ByteSize_append, String.utf8ByteSize_append]
  exact (Nat.add_le_add_right (Nat.add_le_add_left hnumber _) _).trans (by decide)

theorem takes_declareConstantBuffer (register size : Word) :
    Takes g (declareConstantBuffer register size) Nothing
      [.resource .constantBuffer register .uniformBuffer] fun _ => True := by
  refine calm_bind (takes_slot _ _) fun slot g₁ hslot hs₁ => .get_bind ?_
  rw [← hs₁.stage] at hslot
  split
  · next hold => exact (takes_resourceAgain _ hold).nothing_of_never
  · next hnew =>
    refine build_bind (Build.calm_buildBlock _) fun block g₂ hs₂ => ?_
    refine build_bind (Build.calm_pointerType _ _) fun pointerType g₃ hs₃ => ?_
    refine build_bind (Build.calm_newVariable _ _) fun id g₄ hs₄ => ?_
    refine (Takes.never_bind (takes_addResource .constantBuffer
      ((hs₂.trans hs₃).trans hs₄) hslot hnew) fun _ g₅ _ => ?_).nothing_of_never
    refine (takes_nameBlock block register).never_bind fun _ g₆ _ => .get_bind ?_
    have hname (g₇ : Generator) : Takes g₇ (name id s!"cb{register.toNat}") Never []
        fun _ => True := takes_nameNumbered (by decide) id register
    split
    · exact build_bind (Build.calm_setMemberName (by decide) _ _) fun _ g₇ _ => hname g₇
    · exact hname g₆

/-- The type and the variable of an image. -/
theorem takes_declareImage {register slot : Word} {sampled : ScalarType}
    (dim : ResourceDim) (imageDim : Spirv.Dim)
    (hslot : slotOf? g.stage.stage .shaderResource register = some slot)
    (hnew : ¬(g.resource? .shaderResource register).isSome) :
    Takes g (do
      let sampledType ← build sampled.build
      let imageType ← build
        (Build.imageType sampledType imageDim 0 dim.isArray dim.isMultisampled 1 .unknown)
      let pointerType ← build (Build.pointerType imageType Storage.uniformConstant.spirvClass)
      let id ← build (Build.newVariable pointerType Storage.uniformConstant.spirvClass)
      addResource register slot id (.image imageType dim sampled)
      name id s!"t{register.toNat}") Never
      [.resource .shaderResource register dim.behind] fun _ => True := by
  refine build_bind (Build.calm_scalar sampled) fun sampledType g₁ hs₁ => ?_
  refine build_bind (Build.calm_intern (by simp) _ _) fun imageType g₂ hs₂ => ?_
  refine build_bind (Build.calm_pointerType _ _) fun pointerType g₃ hs₃ => ?_
  refine build_bind (Build.calm_newVariable _ _) fun id g₄ hs₄ => ?_
  refine Takes.never_bind (takes_addResource (.image imageType dim sampled)
    (((hs₁.trans hs₂).trans hs₃).trans hs₄) hslot hnew) fun _ g₅ _ => ?_
  exact takes_nameNumbered (by decide) id register

theorem takes_declareResource (register : Word) (dim : ResourceDim)
    (returnType : ResourceReturnType) :
    Takes g (declareResource register dim returnType) Nothing
      [.resource .shaderResource register dim.behind] fun _ => True := by
  refine calm_bind (takes_slot _ _) fun slot g₁ hslot hs₁ => ?_
  rw [← hs₁.stage] at hslot
  split
  · split
    · refine .get_bind ?_
      split
      · next hold => exact (takes_resourceAgain _ hold).nothing_of_never
      · next imageDim _ _ hnew =>
        dsimp only
        split
        · refine build_bind (Build.calm_enableCapability _) fun _ g₂ hs₂ => ?_
          rw [← hs₂.stage] at hslot
          rw [← hs₂.resource?_eq] at hnew
          exact (takes_declareImage dim imageDim hslot hnew).nothing_of_never
        · exact (takes_declareImage dim imageDim hslot hnew).nothing_of_never
    · exact takes_missing
  · exact takes_missing

theorem takes_declareSampler (register : Word) (mode : SamplerMode) :
    Takes g (declareSampler register mode) Nothing [.resource .sampler register .sampler]
      fun _ => True := by
  refine calm_bind (takes_slot _ _) fun slot g₁ hslot hs₁ => .get_bind ?_
  rw [← hs₁.stage] at hslot
  split
  · next hold => exact (takes_resourceAgain _ hold).nothing_of_never
  · next hnew =>
    have hpointer : Build.Calm (do
        Build.pointerType (← Build.samplerType) Storage.uniformConstant.spirvClass) :=
      (Build.calm_intern (by simp) _ _).bind fun _ => Build.calm_pointerType _ _
    refine build_bind hpointer fun pointerType g₂ hs₂ => ?_
    refine build_bind (Build.calm_newVariable _ _) fun id g₃ hs₃ => ?_
    refine (Takes.never_bind (takes_addResource .sampler (hs₂.trans hs₃) hslot hnew)
      fun _ g₄ _ => ?_).nothing_of_never
    exact takes_nameNumbered (by decide) id register

/-! ## Interface registers -/

theorem takes_recordInterface {g' : Generator} {kind : InterfaceClass} {register : Word}
    (hs : g.SameRegisters g') (hnew : ¬(g.interface? kind register).isSome) (id : Word) :
    Takes g' (do
      name id s!"{kind.letters}{register.toNat}"
      modify fun g => { g with interfaces := g.interfaces ++ [⟨kind, register, id⟩] }) Never
      [.interface kind register] fun _ => True := by
  have hletters : kind.letters.utf8ByteSize ≤ 60 := by cases kind <;> decide
  refine (takes_nameNumbered hletters id register).calm_bind (fun _ => False.elim) fun _ g₂ _ hs₂ => ?_
  rw [← (hs.trans hs₂).interface?_eq, Option.not_isSome_iff_eq_none] at hnew
  exact takes_one rfl (.interface (v := ⟨kind, register, id⟩) hnew) trivial

/-- A register with two indices is not declared, so nothing is asked of its number. -/
theorem takes_declareInterface (d : InterfaceDeclaration) {kind : InterfaceClass}
    (hkind : InterfaceClass.ofOperandType? d.type = some kind)
    (hevents : d.region? = none → events = [.interface kind d.register]) :
    Takes g (declareInterface d) Nothing events fun _ => True := by
  rw [declareInterface]
  split
  · exact takes_missing
  · next hregion =>
    rw [hevents (Option.eq_none_iff_forall_ne_some.2 fun r hr => hregion r hr), hkind]
    refine .get_bind ?_
    split
    · next hold =>
      exact Takes.nothing_of_never (takes_one rfl (.interfaceAgain hold) trivial)
    · next hnew =>
      refine build_bind (Build.calm_pointerTo _ _) fun pointerType g₁ hs₁ => ?_
      refine build_bind (Build.calm_newVariable _ _) fun id g₂ hs₂ => ?_
      have hs := hs₁.trans hs₂
      dsimp only
      split
      · refine build_bind (Build.calm_decorate (by decide) (by decide) (by simp) _)
          fun _ g₃ hs₃ => ?_
        exact (takes_recordInterface (hs.trans hs₃) hnew id).nothing_of_never
      · refine build_bind (Build.calm_decorate (by decide) (by decide) (by simp) _)
          fun _ g₃ hs₃ => ?_
        split
        · refine build_bind (Build.calm_decorateInterpolation _ _) fun _ g₄ hs₄ => ?_
          exact (takes_recordInterface ((hs.trans hs₃).trans hs₄) hnew id).nothing_of_never
        · exact (takes_recordInterface (hs.trans hs₃) hnew id).nothing_of_never

theorem takes_declareThreadGroup (x y z : Word) :
    Takes g (declareThreadGroup x y z) Nothing [] fun _ => True := by
  refine .get_bind ?_
  simp only [missing_bind]
  split
  · exact takes_missing
  · exact Takes.nothing_of_never (takes_one rfl (.calm ⟨rfl, rfl, rfl, rfl⟩ (.refl _)) trivial)

end Generate

end ShaderLowering
