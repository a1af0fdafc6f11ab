import ShaderLowering.Generator.Declare
import ShaderLowering.Proofs.Generator.Registers
import ShaderLowering.Proofs.Generator.Shapes

/-!
# Declarations are sound

Every declaration keeps the generator well-formed: what it records of a register is what it has
built, and the variable of a register is new, so no two registers share one.
-/

namespace ShaderLowering

open Spirv

namespace Generator

variable {g : Generator} {id : Word}

/-! ## Recording variables -/

/-- A new temporary register. -/
def withTemp (g : Generator) (id : Word) : Generator := { g with temps := g.temps.push id }

/-- A new interface register. -/
def withInterface (g : Generator) (v : InterfaceVariable) : Generator :=
  { g with interfaces := g.interfaces ++ [v] }

/-- A new resource. -/
def withResource (g : Generator) (r : DeclaredResource) : Generator :=
  { g with resources := g.resources ++ [r] }

theorem WellFormed.withTemp (hg : g.WellFormed)
    (hid : IsRegisterVariable g.module.globals.toList .temporary id)
    (hnew : g.module.bound < UInt32.size → id ∉ g.variableIds) :
    g.Continues (g.withTemp id) ∧ (g.withTemp id).WellFormed := by
  have htemps : (g.withTemp id).temps.toList = g.temps.toList ++ [id] := Array.toList_push ..
  refine ⟨⟨⟨.refl _, ⟨rfl, rfl, rfl, rfl⟩, ?_, List.prefix_rfl, List.prefix_rfl⟩, .refl _⟩,
    hg.module, hg.blockOpen, hg.entryPoint, ?_, hg.interfaces, hg.resources, fun hfit => ?_⟩
  · rw [htemps]
    exact List.prefix_append ..
  · rw [htemps]
    intro i hi
    rcases List.mem_append.1 hi with hi | hi
    · exact hg.temps i hi
    · rw [List.mem_singleton.1 hi]
      exact hid
  · have hperm : (g.withTemp id).variableIds.Perm (id :: g.variableIds) := by
      rw [variableIds, htemps, List.append_assoc]
      exact List.perm_middle
    exact hperm.nodup_iff.2 (List.nodup_cons.2 ⟨hnew hfit, hg.distinct hfit⟩)

theorem WellFormed.withInterface (hg : g.WellFormed) {v : InterfaceVariable}
    (hv : IsRegisterVariable g.module.globals.toList v.kind.storage v.variableId)
    (hnew : g.module.bound < UInt32.size → v.variableId ∉ g.variableIds) :
    g.Continues (g.withInterface v) ∧ (g.withInterface v).WellFormed := by
  refine ⟨⟨⟨.refl _, ⟨rfl, rfl, rfl, rfl⟩, List.prefix_rfl, List.prefix_append ..,
    List.prefix_rfl⟩, .refl _⟩,
    hg.module, hg.blockOpen, hg.entryPoint, hg.temps, ?_, hg.resources, fun hfit => ?_⟩
  · intro w hw
    rcases List.mem_append.1 hw with hw | hw
    · exact hg.interfaces w hw
    · rw [List.mem_singleton.1 hw]
      exact hv
  · have hperm : (g.withInterface v).variableIds.Perm (v.variableId :: g.variableIds) := by
      simp only [variableIds, interfaceIds, Generator.withInterface, List.map_append, List.map_cons,
        List.map_nil, List.append_assoc, List.singleton_append]
      exact (List.perm_middle.append_left _).trans List.perm_middle
    exact hperm.nodup_iff.2 (List.nodup_cons.2 ⟨hnew hfit, hg.distinct hfit⟩)

theorem WellFormed.withResource (hg : g.WellFormed) {r : DeclaredResource}
    (hr : r.IsSound g.module.globals.toList)
    (hnew : g.module.bound < UInt32.size → r.variableId ∉ g.variableIds) :
    g.Continues (g.withResource r) ∧ (g.withResource r).WellFormed := by
  refine ⟨⟨⟨.refl _, ⟨rfl, rfl, rfl, rfl⟩, List.prefix_rfl, List.prefix_rfl,
    List.prefix_append ..⟩, .refl _⟩,
    hg.module, hg.blockOpen, hg.entryPoint, hg.temps, hg.interfaces, ?_, fun hfit => ?_⟩
  · intro s hs
    rcases List.mem_append.1 hs with hs | hs
    · exact hg.resources s hs
    · rw [List.mem_singleton.1 hs]
      exact hr
  · have hperm : (g.withResource r).variableIds.Perm (r.variableId :: g.variableIds) := by
      simp only [variableIds, interfaceIds, Generator.withResource, List.map_append, List.map_cons,
        List.map_nil, ← List.append_assoc]
      exact List.perm_append_singleton ..
    exact hperm.nodup_iff.2 (List.nodup_cons.2 ⟨hnew hfit, hg.distinct hfit⟩)

end Generator

namespace Generate

variable {α : Type} {g : Generator}

/-! ## Steps that record nothing -/

/-- A step outside the function leaves the recorded variables as they are. -/
theorem keeps_declare {b : Build α} {P : α → Module → Prop} (hg : g.WellFormed)
    (h : Declares g.module b P) :
    Keeps g (build b) fun a g' => P a g'.module ∧ g'.variableIds = g.variableIds := by
  have hkeeps := keeps_build hg h.builds
  refine ⟨hkeeps.continues, hkeeps.wellFormed, fun a ha => ⟨hkeeps.result a ha, rfl⟩⟩

theorem keeps_modify {f : Generator → Generator} (h : g.Continues (f g) ∧ (f g).WellFormed) :
    Keeps g (modify f : Generate PUnit) fun _ g' => g' = f g :=
  ⟨h.1, h.2, fun _ _ => rfl⟩

theorem keeps_name (hg : g.WellFormed) {id : Word}
    (hid : id ∈ results g.module.defining) (text : String) :
    Keeps g (name id text) fun _ g' => g'.variableIds = g.variableIds := by
  refine .get_bind ?_
  split
  · exact (keeps_declare hg (Build.declares_setName hg.module hid text)).imp fun _ _ h => h.2
  · exact .pure hg rfl

theorem keeps_slot (hg : g.WellFormed) (kind : ResourceClass) (register : Word) :
    Keeps g (slot kind register) fun _ g' => g' = g := by
  refine .get_bind ?_
  split
  · exact .pure hg rfl
  · exact keeps_fault hg

/-! ## Temporary registers -/

/-- A new variable of a register, and with it that it is new. -/
theorem keeps_newVariable (hg : g.WellFormed) {storage : Storage} {pointee type : Word}
    (ht : PointerId g.module.globals.toList storage.spirvClass pointee type) :
    Keeps g (build (Build.newVariable type storage.spirvClass)) fun id g' =>
      IsResourceVariable g'.module.globals.toList storage pointee id ∧
      (g'.module.bound < UInt32.size → id ∉ g'.variableIds) := by
  have hkeeps := keeps_declare hg (Build.declares_newVariable hg.module ht)
  refine ⟨hkeeps.continues, hkeeps.wellFormed, fun id hid => ?_⟩
  obtain ⟨⟨hmem, hnew⟩, hids⟩ := hkeeps.result id hid
  refine ⟨⟨type, ht.mono hkeeps.continues.continues.globals, hmem⟩, fun hfit hin => ?_⟩
  rw [hids] at hin
  exact hnew hfit (Module.mem_defining_of_globals (hg.variableIds_subset hin))

theorem keeps_addTemps (hg : g.WellFormed) {pointee pointerType : Word}
    (hp : TypeId g.module.globals.toList .floatVector pointee)
    (ht : PointerId g.module.globals.toList Storage.temporary.spirvClass pointee pointerType)
    (first more : Nat) : Keeps g (addTemps pointerType first more) fun _ _ => True := by
  induction more generalizing g first with
  | zero => exact .pure hg trivial
  | succ more ih =>
    refine (keeps_newVariable hg ht).bind fun id g₁ hc₁ hg₁ hid => ?_
    obtain ⟨hvariable, hnew⟩ := hid
    refine (keeps_name hg₁ (Module.mem_defining_of_globals hvariable.mem_results) _).bind
      fun _ g₂ hc₂ hg₂ hids => ?_
    have hp₂ := TypeId.mono hp (hc₁.continues.trans hc₂.continues).globals
    have ht₂ := PointerId.mono ht (hc₁.continues.trans hc₂.continues).globals
    have hvariable₂ :=
      IsResourceVariable.isRegisterVariable (hvariable.mono hc₂.continues.globals) hp₂
    have hids : g₂.variableIds = g₁.variableIds := hids
    have hnew₂ : g₂.module.bound < UInt32.size → id ∉ g₂.variableIds := fun hfit => by
      rw [hids]
      exact hnew (Nat.lt_of_le_of_lt hc₂.continues.bound hfit)
    refine (keeps_modify (hg₂.withTemp hvariable₂ hnew₂)).bind fun _ g₃ _ hg₃ heq => ?_
    subst heq
    exact ih hg₃ hp₂ ht₂ _

/-- Declaring temporary registers, which leaves the type of pointers to them behind. -/
theorem keeps_declareTemps (hg : g.WellFormed) (count : Nat) :
    Keeps g (declareTemps count) fun _ g' => ∃ pointee pointerType,
      TypeId g'.module.globals.toList .floatVector pointee ∧
      PointerId g'.module.globals.toList Storage.temporary.spirvClass pointee pointerType := by
  refine (keeps_build hg (Build.declares_pointerTo hg.module .floatVector .temporary).builds).bind
    fun pointerType g₁ _ hg₁ ht => .get_bind ?_
  obtain ⟨pointee, hp, ht⟩ := ht
  have hkeeps := keeps_addTemps hg₁ hp ht g₁.temps.size (count - g₁.temps.size)
  have hglobals := hkeeps.continues.continues.globals
  exact ⟨hkeeps.continues, hkeeps.wellFormed, fun _ _ =>
    ⟨pointee, pointerType, hp.mono hglobals, ht.mono hglobals⟩⟩

/-! ## Resources -/

theorem keeps_addResource (hg : g.WellFormed) (register slot : Word) {id : Word}
    {form : ResourceForm}
    (hr : DeclaredResource.IsSound g.module.globals.toList ⟨register, slot, id, form⟩)
    (hnew : g.module.bound < UInt32.size → id ∉ g.variableIds) :
    Keeps g (addResource register slot id form) fun _ g' =>
      ⟨register, slot, id, form⟩ ∈ g'.resources := by
  have hid := Module.mem_defining_of_globals hr.mem_results
  refine (keeps_declare hg (Build.declares_decorateBinding hg.module hid 0 slot)).bind
    fun _ g₁ hc₁ hg₁ hids => ?_
  refine (keeps_modify (f := fun g => g.withResource ⟨register, slot, id, form⟩)
    (hg₁.withResource (hr.mono hc₁.continues.globals) fun hfit => ?_)).imp fun _ g₂ heq => ?_
  · rw [hids.2]
    exact hnew (Nat.lt_of_le_of_lt hc₁.continues.bound hfit)
  · rw [heq]
    exact List.mem_append_right _ (List.mem_singleton_self _)

/-- The type of a constant buffer. -/
theorem declares_buildBlock {m : Module} (hm : m.WellFormed) (length : Word) :
    Declares m (buildBlock length) fun block m' => ∃ element scalar number array,
      TypeId m'.globals.toList .floatVector element ∧ ScalarId m'.globals.toList .uint32 scalar ∧
      ⟨.constant, some scalar, some number, [length]⟩ ∈ m'.globals.toList ∧
      ⟨.typeArray, none, some array, [element, number]⟩ ∈ m'.globals.toList ∧
      ⟨.typeStruct, none, some block, [array]⟩ ∈ m'.globals.toList := by
  refine (Build.declares_type hm .floatVector).bind fun element m₁ _ hm₁ he => ?_
  refine (Build.declares_scalarConstant hm₁ .uint32 length).bind fun number m₂ hg₂ hm₂ hn => ?_
  obtain ⟨scalar, hs, hn⟩ := hn
  refine (Build.declares_newArrayType hm₂ (he.mono hg₂.globals).mem_results
    (mem_results_of_mem hn)).bind fun array m₃ hg₃ hm₃ ha => ?_
  refine (Build.declares_decorate hm₃
    (Module.mem_defining_of_globals (mem_results_of_mem ha)) _ _).bind
    fun _ m₄ hg₄ hm₄ _ => ?_
  have hmembers : ∀ x ∈ [array], x ∈ results m₄.globals.toList := fun x hx => by
    rw [List.mem_singleton.1 hx]
    exact mem_results_of_mem (hg₄.globals.subset ha)
  refine (Build.declares_newStructType hm₄ hmembers).bind fun block m₅ hg₅ hm₅ hb => ?_
  have hblock := Module.mem_defining_of_globals (mem_results_of_mem hb)
  refine (Build.declares_decorate hm₅ hblock _ _).bind fun _ m₆ hg₆ hm₆ _ => ?_
  refine (Build.declares_decorateMember hm₆ (results_subset hg₆.defining hblock) _ _ _).bind
    fun _ m₇ hg₇ hm₇ _ => ?_
  have hg₅₇ := hg₆.trans hg₇
  have hg₃₇ := hg₄.trans (hg₅.trans hg₅₇)
  have hg₂₇ := hg₃.trans hg₃₇
  exact .pure hm₇ ⟨element, scalar, number, array, he.mono (hg₂.trans hg₂₇).globals,
    hs.mono hg₂₇.globals, hg₂₇.globals.subset hn, hg₃₇.globals.subset ha, hg₅₇.globals.subset hb⟩

/-- A constant buffer has been declared before, or there is one of the declared size. -/
theorem keeps_declareConstantBuffer (hg : g.WellFormed) (register size : Word) :
    Keeps g (declareConstantBuffer register size) fun _ g' =>
      (g.resource? .constantBuffer register).isSome ∨
        g'.Describes ⟨register, .constantBuffer size⟩ := by
  refine (keeps_slot hg _ _).bind fun slot g₀ _ hg₀ heq => ?_
  subst heq
  refine .get_bind ?_
  split
  · next hold => exact .pure hg₀ (.inl hold)
  · refine (keeps_build hg₀ (declares_buildBlock hg₀.module _).builds).bind
      fun block g₁ hc₁ hg₁ hblock => ?_
    obtain ⟨element, scalar, number, array, he, hs, hn, ha, hb⟩ := hblock
    refine (keeps_build hg₁ (Build.declares_pointerType hg₁.module (mem_results_of_mem hb)
      Storage.uniform.spirvClass).builds).bind fun pointerType g₂ hc₂ hg₂ ht => ?_
    refine (keeps_newVariable hg₂ ht).bind fun id g₃ hc₃ hg₃ hid => ?_
    obtain ⟨hvariable, hnew⟩ := hid
    have hc₁₃ := hc₂.continues.trans hc₃.continues
    have hsound : DeclaredResource.IsSound g₃.module.globals.toList
        ⟨register, slot, id, .constantBuffer⟩ :=
      ⟨element, array, number, block, TypeId.mono he hc₁₃.globals, hc₁₃.globals.subset ha,
        hc₁₃.globals.subset hb, hvariable⟩
    have hshape : (ResourceShape.constantBuffer size).Describes g₃.module.globals.toList id :=
      ResourceShape.describes_constantBuffer (TypeId.mono he hc₁₃.globals)
        (ScalarId.mono hs hc₁₃.globals) (hc₁₃.globals.subset hn) (hc₁₃.globals.subset ha)
        (hc₁₃.globals.subset hb) hvariable
    refine (keeps_addResource hg₃ register slot hsound hnew).bind fun _ g₄ hc₄ hg₄ hmem => ?_
    have hdescribes : g₄.Describes ⟨register, .constantBuffer size⟩ :=
      ⟨_, hmem, rfl, hshape.mono hc₄.continues.globals.subset⟩
    have hblock₄ := Module.mem_defining_of_globals
      (mem_results_of_mem ((hc₁₃.trans hc₄.continues).globals.subset hb))
    have hid₄ := Module.mem_defining_of_globals (hsound.mono hc₄.continues.globals).mem_results
    refine (keeps_name hg₄ hblock₄ _).bind fun _ g₅ hc₅ hg₅ _ => .get_bind ?_
    have hblock₅ := results_subset hc₅.continues.defining hblock₄
    have hid₅ := results_subset hc₅.continues.defining hid₄
    have hname (g : Generator) (hc : g₅.Continues g) (hg : g.WellFormed) :
        Keeps g (name id s!"cb{register.toNat}") fun _ g' =>
          (g₀.resource? .constantBuffer register).isSome ∨
            g'.Describes ⟨register, .constantBuffer size⟩ := by
      have hkeeps := keeps_name hg (results_subset hc.continues.defining hid₅)
        s!"cb{register.toNat}"
      have hgrows := (hc₅.trans (hc.trans hkeeps.continues)).toGrows
      exact ⟨hkeeps.continues, hkeeps.wellFormed, fun _ _ => .inr (hdescribes.mono hgrows)⟩
    split
    · exact (keeps_declare hg₅ (Build.declares_setMemberName hg₅.module hblock₅ _ _)).bind
        fun _ g₆ hc₆ hg₆ _ => hname g₆ hc₆ hg₆
    · exact hname g₅ (.refl _) hg₅

/-- The type and the variable of an image. -/
theorem keeps_declareImage (hg : g.WellFormed) (register slot : Word) {dim : ResourceDim}
    {imageDim : Dim} {capability? : Option Capability}
    (hdim : dim.image? = some (imageDim, capability?)) {returnType : ResourceReturnType}
    {sampled : ScalarType} (hsampled : returnType.sampled? = some sampled) :
    Keeps g (do
      let sampledType ← build sampled.build
      let imageType ← build
        (Build.imageType sampledType imageDim 0 dim.isArray dim.isMultisampled 1 .unknown)
      let pointerType ← build (Build.pointerType imageType Storage.uniformConstant.spirvClass)
      let id ← build (Build.newVariable pointerType Storage.uniformConstant.spirvClass)
      addResource register slot id (.image imageType dim sampled)
      name id s!"t{register.toNat}") fun _ g' => g'.Describes ⟨register, .image dim returnType⟩ := by
  refine (keeps_build hg (Build.declares_scalar hg.module sampled).builds).bind
    fun sampledType g₁ _ hg₁ hs => ?_
  have hsId := (ScalarId.isScalar hs fun _ h => h).mem_results
  refine (keeps_build hg₁ (Build.declares_imageType hg₁.module hsId imageDim 0 dim.isArray
    dim.isMultisampled 1 .unknown).builds).bind fun imageType g₂ hc₂ hg₂ hi => ?_
  refine (keeps_build hg₂ (Build.declares_pointerType hg₂.module (mem_results_of_mem hi)
    Storage.uniformConstant.spirvClass).builds).bind fun pointerType g₃ hc₃ hg₃ ht => ?_
  refine (keeps_newVariable hg₃ ht).bind fun id g₄ hc₄ hg₄ hid => ?_
  obtain ⟨hvariable, hnew⟩ := hid
  have hc₂₄ := hc₃.continues.trans hc₄.continues
  have hsound : DeclaredResource.IsSound g₄.module.globals.toList
      ⟨register, slot, id, .image imageType dim sampled⟩ :=
    ⟨imageDim, capability?, sampledType, hdim, ScalarId.mono hs (hc₂.continues.trans hc₂₄).globals,
      hc₂₄.globals.subset hi, hvariable⟩
  have hshape : (ResourceShape.image dim returnType).Describes g₄.module.globals.toList id :=
    ResourceShape.describes_image hdim hsampled
      (ScalarId.mono hs (hc₂.continues.trans hc₂₄).globals) (hc₂₄.globals.subset hi) hvariable
  refine (keeps_addResource hg₄ register slot hsound hnew).bind fun _ g₅ hc₅ hg₅ hmem => ?_
  have hdescribes : g₅.Describes ⟨register, .image dim returnType⟩ :=
    ⟨_, hmem, rfl, hshape.mono hc₅.continues.globals.subset⟩
  have hid₅ := Module.mem_defining_of_globals (hsound.mono hc₅.continues.globals).mem_results
  have hkeeps := keeps_name hg₅ hid₅ s!"t{register.toNat}"
  exact ⟨hkeeps.continues, hkeeps.wellFormed, fun _ _ => hdescribes.mono hkeeps.continues.toGrows⟩

/-- A texture or buffer has been declared before, or there is one as it is declared. -/
theorem keeps_declareResource (hg : g.WellFormed) (register : Word) (dim : ResourceDim)
    (returnType : ResourceReturnType) :
    Keeps g (declareResource register dim returnType) fun _ g' =>
      (g.resource? .shaderResource register).isSome ∨
        g'.Describes ⟨register, .image dim returnType⟩ := by
  refine (keeps_slot hg _ _).bind fun slot g₀ _ hg₀ heq => ?_
  subst heq
  split
  · next sampled hsampled =>
    split
    · next imageDim capability? hdim =>
      refine .get_bind ?_
      split
      · next hold => exact .pure hg₀ (.inl hold)
      · dsimp only
        split
        · exact (keeps_build hg₀ (Build.declares_enableCapability hg₀.module _).builds).bind
            fun _ _ _ hg₁ _ =>
              (keeps_declareImage hg₁ register slot hdim hsampled).imp fun _ _ => .inr
        · exact (keeps_declareImage hg₀ register slot hdim hsampled).imp fun _ _ => .inr
    · exact keeps_missing hg₀
  · exact keeps_missing hg₀

theorem keeps_declareSampler (hg : g.WellFormed) (register : Word) (mode : SamplerMode) :
    Keeps g (declareSampler register mode) fun _ _ => True := by
  refine (keeps_slot hg _ _).bind fun slot g₀ _ hg₀ heq => ?_
  subst heq
  refine .get_bind ?_
  split
  · exact .pure hg₀ trivial
  · have hpointer : Declares g₀.module (do
        Build.pointerType (← Build.samplerType) Storage.uniformConstant.spirvClass) fun id m =>
        ∃ type, Interned m.globals.toList ⟨.typeSampler, none, none, []⟩ type ∧
          PointerId m.globals.toList Storage.uniformConstant.spirvClass type id := by
      refine (Build.declares_samplerType hg₀.module).bind fun type m _ hm hs => ?_
      have hpointer := Build.declares_pointerType hm (mem_results_of_mem hs.mem)
        Storage.uniformConstant.spirvClass
      exact ⟨hpointer.grows, hpointer.body, hpointer.wellFormed, type,
        hs.mono hpointer.grows.globals, hpointer.result⟩
    refine (keeps_build hg₀ hpointer.builds).bind fun pointerType g₁ _ hg₁ ht => ?_
    obtain ⟨type, hs, ht⟩ := ht
    refine (keeps_newVariable hg₁ ht).bind fun id g₂ hc₂ hg₂ hid => ?_
    obtain ⟨hvariable, hnew⟩ := hid
    have hsound : DeclaredResource.IsSound g₂.module.globals.toList
        ⟨register, slot, id, .sampler⟩ := ⟨type, hs.mono hc₂.continues.globals, hvariable⟩
    refine (keeps_addResource hg₂ register slot hsound hnew).bind fun _ g₃ hc₃ hg₃ _ => ?_
    have hid₃ := Module.mem_defining_of_globals (hsound.mono hc₃.continues.globals).mem_results
    exact (keeps_name hg₃ hid₃ _).imp fun _ _ _ => trivial

/-! ## Interface registers -/

theorem declares_decorateInterpolation {m : Module} (hm : m.WellFormed) {id : Word}
    (hid : id ∈ results m.defining) (mode : InterpolationMode) :
    Declares m (decorateInterpolation id mode) fun _ _ => True := by
  have hdecorations (decorations : List Decoration) {m : Module} (hm : m.WellFormed)
      (hid : id ∈ results m.defining) :
      Declares m (decorations.forM fun decoration => Build.decorate id decoration [])
        fun _ _ => True := by
    induction decorations generalizing m with
    | nil => exact .pure hm trivial
    | cons decoration decorations ih =>
      exact (Build.declares_decorate hm hid _ _).bind fun _ _ hg hm' _ =>
        ih hm' (results_subset hg.defining hid)
  rw [decorateInterpolation]
  split
  · exact (Build.declares_enableCapability hm _).bind fun _ _ hg hm' _ =>
      hdecorations _ hm' (results_subset hg.defining hid)
  · exact hdecorations _ hm hid

/-- A decorated variable of an interface register is named and recorded. -/
theorem keeps_recordInterface (hg : g.WellFormed) {v : InterfaceVariable}
    (hv : IsRegisterVariable g.module.globals.toList v.kind.storage v.variableId)
    (hnew : g.module.bound < UInt32.size → v.variableId ∉ g.variableIds) (text : String) :
    Keeps g (do
      name v.variableId text
      modify fun g => { g with interfaces := g.interfaces ++ [v] }) fun _ _ => True := by
  refine (keeps_name hg (Module.mem_defining_of_globals hv.mem_results) text).bind
    fun _ g₁ hc hg₁ hids => ?_
  refine (keeps_modify (f := fun g => g.withInterface v)
    (hg₁.withInterface (hv.mono hc.continues.globals) fun hfit => ?_)).imp fun _ _ _ => trivial
  rw [hids]
  exact hnew (Nat.lt_of_le_of_lt hc.continues.bound hfit)

theorem keeps_declareInterface (hg : g.WellFormed) (d : InterfaceDeclaration) :
    Keeps g (declareInterface d) fun _ _ => True := by
  rw [declareInterface]
  split
  · exact keeps_missing hg
  · split
    · next kind hkind =>
      refine .get_bind ?_
      split
      · exact .pure hg trivial
      · refine (keeps_build hg (Build.declares_pointerTo hg.module .floatVector
          kind.storage).builds).bind fun pointerType g₁ _ hg₁ ht => ?_
        obtain ⟨pointee, hp, ht⟩ := ht
        refine (keeps_newVariable hg₁ ht).bind fun id g₂ hc₂ hg₂ hid => ?_
        obtain ⟨hvariable, hnew⟩ := hid
        have hvariable := IsResourceVariable.isRegisterVariable hvariable
          (TypeId.mono hp hc₂.continues.globals)
        have hdefined := Module.mem_defining_of_globals hvariable.mem_results
        have hrest (g₃ : Generator) (hc₃ : g₂.Continues g₃) (hg₃ : g₃.WellFormed)
            (hids : g₃.variableIds = g₂.variableIds) (text : String) :
            Keeps g₃ (do
              name id text
              modify fun g => { g with interfaces := g.interfaces ++ [⟨kind, d.register, id⟩] })
              fun _ _ => True :=
          keeps_recordInterface (v := ⟨kind, d.register, id⟩) hg₃
            (hvariable.mono hc₃.continues.globals) (fun hfit => by
              rw [hids]
              exact hnew (Nat.lt_of_le_of_lt hc₃.continues.bound hfit)) text
        dsimp only
        split
        · refine (keeps_declare hg₂ (Build.declares_decorate hg₂.module hdefined _ _)).bind
            fun _ g₃ hc₃ hg₃ h₃ => hrest g₃ hc₃ hg₃ h₃.2 _
        · refine (keeps_declare hg₂ (Build.declares_decorate hg₂.module hdefined _ _)).bind
            fun _ g₃ hc₃ hg₃ h₃ => ?_
          split
          · refine (keeps_declare hg₃ (declares_decorateInterpolation hg₃.module
              (results_subset hc₃.continues.defining hdefined) _)).bind fun _ g₄ hc₄ hg₄ h₄ => ?_
            exact hrest g₄ (Generator.Continues.trans hc₃ hc₄) hg₄ (h₄.2.trans h₃.2) _
          · exact hrest g₃ hc₃ hg₃ h₃.2 _
    · exact keeps_missing hg

theorem keeps_declareThreadGroup (hg : g.WellFormed) (x y z : Word) :
    Keeps g (declareThreadGroup x y z) fun _ _ => True := by
  refine .get_bind ?_
  simp only [missing_bind]
  split
  · exact keeps_missing hg
  · refine (keeps_modify (f := fun g => { g with threadGroup? := some (x, y, z) }) ⟨?_, ?_⟩).imp
      fun _ _ _ => trivial
    · exact ⟨⟨.refl _, ⟨rfl, rfl, rfl, rfl⟩, List.prefix_rfl, List.prefix_rfl, List.prefix_rfl⟩,
        .refl _⟩
    · exact ⟨hg.module, hg.blockOpen, hg.entryPoint, hg.temps, hg.interfaces, hg.resources,
        hg.distinct⟩

end Generate

end ShaderLowering
