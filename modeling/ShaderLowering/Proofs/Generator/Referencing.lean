import Mathlib.Data.List.Dedup
import ShaderLowering.Proofs.Binding.Slots
import ShaderLowering.Proofs.Generator.Finishing
import ShaderLowering.Proofs.Generator.Representing
import ShaderLowering.Proofs.Generator.Steps
import ShaderLowering.Proofs.Spirv.Bindings

/-!
# What a generator knows follows from the events

The tables of a generator, the decorations of its module and the code that reaches into resources are
kept apart, but all of them follow from the same events. `Generator.Follows` says how, every step
keeps it (`Generator.Follows.step`), and so do all steps together (`Generator.Follows.steps`).
-/

namespace ShaderLowering

open Spirv

/-! ## Registers of all kinds -/

/-- A register of any kind: one that holds values, or one that names a resource. -/
inductive Reference where
  | register (r : Register)
  | resource (kind : ResourceClass) (number : Word)
  deriving DecidableEq

/-- The variable behind a register. -/
def Generator.id? (g : Generator) : Reference → Option Word
  | .register r => g.registerId? r
  | .resource kind number => (g.resource? kind number).map (·.variableId)

/-- Whether an event declares a register. -/
def Event.Declares : Event → Reference → Prop
  | temps count, .register (.temp n) => n.toNat < count
  | interface kind number, r => r = .register (.interface kind number)
  | resource kind number _, r => r = .resource kind number
  | _, _ => False

/-- How many temporary registers there are behind one more event. -/
def countTemps (count : Nat) : Event → Nat
  | .temps more => max count more
  | _ => count

/-- The input and output registers that events declare, each once. -/
def interfaceRegisters (events : List Event) : List (InterfaceClass × Word) :=
  (events.filterMap fun
    | .interface kind number => some (kind, number)
    | _ => none).dedup

/-! ### First declarations -/

section

variable {α κ : Type} [DecidableEq κ] (key : α → κ)

/-- What has been found, with one more unless its key has been found. -/
def recordNew (found : List α) (a : α) : List α :=
  if key a ∈ found.map key then found else found ++ [a]

variable {key} {found : List α}

theorem nodup_recordNew (h : (found.map key).Nodup) (a : α) :
    ((recordNew key found a).map key).Nodup := by
  rw [recordNew]
  split
  · exact h
  · next hnew =>
    rw [List.map_append]
    exact List.nodup_append.2 ⟨h, List.nodup_singleton _, fun k hk k' hk' heq =>
      hnew (List.mem_singleton.1 hk' ▸ heq ▸ hk)⟩

theorem mem_recordNew {k : κ} {a : α} :
    k ∈ (recordNew key found a).map key ↔ k ∈ found.map key ∨ k = key a := by
  rw [recordNew]
  split
  · next hold => exact ⟨.inl, fun h => h.elim id fun heq => heq ▸ hold⟩
  · rw [List.map_append, List.mem_append]
    exact or_congr_right List.mem_singleton

/-- Each key is recorded once. -/
theorem nodup_foldl_recordNew (h : (found.map key).Nodup) (as : List α) :
    ((as.foldl (recordNew key) found).map key).Nodup := by
  induction as generalizing found with
  | nil => exact h
  | cons a as ih => exact ih (nodup_recordNew h a)

/-- All keys are recorded. -/
theorem mem_foldl_recordNew {k : κ} {as : List α} :
    k ∈ (as.foldl (recordNew key) found).map key ↔ k ∈ found.map key ∨ k ∈ as.map key := by
  induction as generalizing found with
  | nil => simp
  | cons a as ih => rw [List.foldl_cons, ih, mem_recordNew, List.map_cons, List.mem_cons, or_assoc]

/-- Some element is the first with the key of a given one. -/
theorem exists_find?_key (key : α → κ) {a : α} {as : List α} (ha : a ∈ as) :
    ∃ first, as.find? (fun b => key b = key a) = some first ∧ key first = key a := by
  have hsome : (as.find? fun b => key b = key a).isSome := by
    rw [List.find?_isSome]
    exact ⟨a, ha, decide_eq_true rfl⟩
  obtain ⟨first, hfirst⟩ := Option.isSome_iff_exists.1 hsome
  have hkey := List.find?_some hfirst
  exact ⟨first, hfirst, of_decide_eq_true hkey⟩

/-- What is recorded is the first with its key. -/
theorem find?_of_mem_recordNew {a : α} {as : List α} (h : a ∈ as.foldl (recordNew key) []) :
    as.find? (fun b => key b = key a) = some a := by
  have hall (as found : List α) (h : a ∈ as.foldl (recordNew key) found) : a ∈ found ∨
      key a ∉ found.map key ∧ as.find? (fun b => key b = key a) = some a := by
    induction as generalizing found with
    | nil => exact .inl h
    | cons b as ih =>
      rcases ih (recordNew key found b) h with hmem | ⟨hnew, hfirst⟩
      · rw [recordNew] at hmem
        split at hmem
        · exact .inl hmem
        · next hb =>
          rcases List.mem_append.1 hmem with hmem | hmem
          · exact .inl hmem
          · obtain rfl := List.mem_singleton.1 hmem
            exact .inr ⟨hb, by simp⟩
      · rw [mem_recordNew, not_or] at hnew
        refine .inr ⟨hnew.1, ?_⟩
        rwa [List.find?_cons_of_neg (by simpa using Ne.symm hnew.2)]
  exact (hall as [] h).elim (fun hmem => absurd hmem List.not_mem_nil) And.right

end

/-- What is found only in what belongs to one key is found in what belongs to the element with this
key. -/
theorem filterMap_flatMap_of_nodup {α β γ κ : Type} {key : α → κ} {f : α → List β}
    {p : β → Option γ} {found : List α} (hnodup : (found.map key).Nodup) {a : α} (ha : a ∈ found)
    (hother : ∀ b, key b ≠ key a → (f b).filterMap p = []) :
    (found.flatMap f).filterMap p = (f a).filterMap p := by
  obtain ⟨before, behind, rfl⟩ := List.append_of_mem ha
  rw [List.map_append, List.map_cons, List.nodup_append] at hnodup
  obtain ⟨-, hbehind, hbefore⟩ := hnodup
  have hnone {others : List α} (h : ∀ b ∈ others, (f b).filterMap p = []) :
      (others.flatMap f).filterMap p = [] := by
    rw [List.filterMap_flatMap, List.flatMap_eq_nil_iff]
    exact h
  rw [List.flatMap_append, List.flatMap_cons, List.filterMap_append, List.filterMap_append,
    hnone fun b hb => hother b (hbefore _ (List.mem_map_of_mem hb) _ (List.mem_cons_self ..)),
    hnone fun b hb => hother b fun heq =>
      (List.nodup_cons.1 hbehind).1 (heq ▸ List.mem_map_of_mem hb),
    List.nil_append, List.append_nil]

/-- A resource as it is first declared. -/
structure FirstDeclaration where
  /-- The class of its register. -/
  kind : ResourceClass
  /-- The number of its register. -/
  number : Word
  /-- What stands behind it. -/
  behind : ResourceKind
  deriving DecidableEq

/-- The first declarations of resources with those of one more event. -/
def recordFirst (found : List FirstDeclaration) : Event → List FirstDeclaration
  | .resource kind number behind =>
    if found.any (fun d => d.kind == kind && d.number == number) then found
    else found ++ [⟨kind, number, behind⟩]
  | _ => found

/-- The first declarations of resources among events. -/
def firstDeclarations (events : List Event) : List FirstDeclaration := events.foldl recordFirst []

/-- What tells a register that names a resource from others. -/
def FirstDeclaration.key (d : FirstDeclaration) : ResourceClass × Word := (d.kind, d.number)

/-- The resource that an event declares. -/
def Event.declared? : Event → Option FirstDeclaration
  | .resource kind number behind => some ⟨kind, number, behind⟩
  | _ => none

/-- The first declarations are those whose registers are new. -/
theorem recordFirst_resource (found : List FirstDeclaration) (kind : ResourceClass) (number : Word)
    (behind : ResourceKind) : recordFirst found (.resource kind number behind) =
      recordNew FirstDeclaration.key found ⟨kind, number, behind⟩ := by
  simp [recordFirst, recordNew, FirstDeclaration.key]

theorem firstDeclarations_eq (events : List Event) : firstDeclarations events =
    (events.filterMap Event.declared?).foldl (recordNew FirstDeclaration.key) [] := by
  have hall (found : List FirstDeclaration) : events.foldl recordFirst found =
      (events.filterMap Event.declared?).foldl (recordNew FirstDeclaration.key) found := by
    induction events generalizing found with
    | nil => rfl
    | cons e events ih =>
      cases e with
      | resource kind number behind =>
        rw [List.foldl_cons, recordFirst_resource, ih]
        rfl
      | temps | interface | element | sample => exact ih found
  exact hall []

/-- No register is declared first twice. -/
theorem nodup_firstDeclarations (events : List Event) :
    ((firstDeclarations events).map FirstDeclaration.key).Nodup := by
  rw [firstDeclarations_eq]
  exact nodup_foldl_recordNew (by simp) _

/-- A register is among those of the first declarations if some event declares it. -/
theorem mem_firstDeclarations {kind : ResourceClass} {number : Word} {events : List Event} :
    (kind, number) ∈ (firstDeclarations events).map FirstDeclaration.key ↔
      ∃ behind, .resource kind number behind ∈ events := by
  rw [firstDeclarations_eq, mem_foldl_recordNew]
  simp only [List.map_nil, List.not_mem_nil, false_or, List.mem_map, List.mem_filterMap]
  constructor
  · rintro ⟨d, ⟨e, he, hd⟩, hkey⟩
    cases e with
    | resource kind' number' behind =>
      cases hd
      cases hkey
      exact ⟨behind, he⟩
    | temps | interface | element | sample => cases hd
  · rintro ⟨behind, he⟩
    exact ⟨⟨kind, number, behind⟩, ⟨_, he, rfl⟩, rfl⟩

/-! ## Bindings and code -/

namespace DeclaredResource

/-- The declaration of a resource. -/
def declaration (r : DeclaredResource) : FirstDeclaration :=
  ⟨r.form.kind, r.register, r.form.resourceKind⟩

/-- The decoration that binds the variable of a resource to a number. -/
def bindingDecoration (r : DeclaredResource) (number : Word) : Inst :=
  .effect .decorate [r.variableId, Decoration.binding.number, number]

/-- The decorations that bind a resource. -/
def decorations (r : DeclaredResource) : List Inst :=
  [.effect .decorate [r.variableId, Decoration.descriptorSet.number, 0], r.bindingDecoration r.slot]

/-- Binding a resource adds its decorations. -/
theorem annotations_decorateBinding (r : DeclaredResource) (m : Module) :
    ((Build.decorateBinding r.variableId 0 r.slot).run m).2.annotations.toList =
      m.annotations.toList ++ r.decorations := by
  change ((m.annotations.push _).push _).toList = _
  rw [Array.toList_push, Array.toList_push, List.append_assoc]
  rfl

end DeclaredResource

/-- An instruction among others that reaches into the resources of an event: it finds an element
behind the variable of a constant buffer, or it samples what is put together from loads of the
variables of a texture and a sampler. -/
inductive Reaches (ids : ResourceClass → Word → Option Word) (code : List Inst) :
    Event → Inst → Prop
  | element {buffer id : Word} {type? result? : Option Word} {indices : List Word}
      (hid : ids .constantBuffer buffer = some id) :
      Reaches ids code (.element buffer) ⟨.accessChain, type?, result?, id :: indices⟩
  | sample {texture sampler textureId samplerId image state combined : Word} {op : Op}
      {imageType? samplerType? combinedType? type? result? : Option Word} {operands : List Word}
      (htexture : ids .shaderResource texture = some textureId)
      (hsampler : ids .sampler sampler = some samplerId)
      (himage : ⟨.load, imageType?, some image, [textureId]⟩ ∈ code)
      (hstate : ⟨.load, samplerType?, some state, [samplerId]⟩ ∈ code)
      (hcombined : ⟨.sampledImage, combinedType?, some combined, [image, state]⟩ ∈ code)
      (hop : op.isSample = true) :
      Reaches ids code (.sample texture sampler) ⟨op, type?, result?, combined :: operands⟩

/-- More variables and more code do not matter. -/
theorem Reaches.mono {ids ids' : ResourceClass → Word → Option Word}
    {code code' : List Inst} {e : Event} {i : Inst} (h : Reaches ids code e i)
    (hv : ∀ kind number id, ids kind number = some id → ids' kind number = some id)
    (hc : code ⊆ code') : Reaches ids' code' e i := by
  cases h with
  | element hid => exact .element (hv _ _ _ hid)
  | sample ht hs hi hst hcombined hop =>
    exact .sample (hv _ _ _ ht) (hv _ _ _ hs) (hc hi) (hc hst) (hc hcombined) hop

namespace Generator

/-- The variable behind a register that names a resource. -/
def resourceId? (g : Generator) (kind : ResourceClass) (number : Word) : Option Word :=
  g.id? (.resource kind number)

/-! ## What follows from the events -/

/-- What a generator knows, as it follows from the events so far. -/
structure Follows (g : Generator) (trace : List Event) : Prop where
  temps : g.temps.size = trace.foldl countTemps 0
  interfaces : ∀ kind number, (g.interface? kind number).isSome ↔ .interface kind number ∈ trace
  nodup_interfaces : (g.interfaces.map fun v => (v.kind, v.register)).Nodup
  /-- The resources are recorded in the order of their first declarations. -/
  resources : g.resources.map (·.declaration) = firstDeclarations trace
  slots : ∀ r ∈ g.resources, slotOf? g.stage.stage r.form.kind r.register = some r.slot
  /-- The variables of resources are bound, and nothing else is. -/
  bindings : g.module.annotations.toList.filter Inst.isBinding =
    g.resources.flatMap (·.decorations)
  /-- The code reaches into resources as the events say. -/
  accesses : List.Forall₂ (Reaches g.resourceId? g.module.body.toList)
    (trace.filter Event.isAccess) (g.module.body.toList.filter (·.op.isAccess))

variable {g g' : Generator} {trace events : List Event}

theorem resourceId?_of_prefix (hp : g.resources <+: g'.resources) {kind : ResourceClass}
    {number id : Word} (h : g.resourceId? kind number = some id) :
    g'.resourceId? kind number = some id := by
  obtain ⟨more, hmore⟩ := hp
  obtain ⟨r, hr, rfl⟩ := Option.map_eq_some_iff.1 h
  rw [resource?] at hr
  rw [resourceId?, id?, resource?, ← hmore, List.find?_append, hr]
  rfl

namespace Follows

/-! ### Tables -/

theorem temps_step (h : g.Follows trace) (hs : g.Step events g') :
    g'.temps.size = (trace ++ events).foldl countTemps 0 := by
  rw [List.foldl_append, ← h.temps]
  cases hs with
  | calm same => exact congrArg Array.size same.temps
  | temps count _ _ _ size => exact size
  | interface | interfaceAgain | resource | resourceAgain => rfl
  | access same _ _ reaches =>
    cases reaches <;> exact congrArg Array.size same.temps

theorem interfaces_step (h : g.Follows trace) (hs : g.Step events g') (kind : InterfaceClass)
    (number : Word) :
    (g'.interface? kind number).isSome ↔ .interface kind number ∈ trace ++ events := by
  have hold := h.interfaces kind number
  rw [List.mem_append, ← hold]
  cases hs with
  | calm same => simp [same.interface?_eq]
  | temps _ _ interfaces => simp [interface?, interfaces]
  | @interface v new =>
    -- the new register stands last, so it is found only where nothing was found before
    have hfind : (g.withInterface v).interface? kind number =
        (g.interface? kind number).or
          (if v.kind == kind && v.register == number then some v else none) := by
      rw [interface?, withInterface, List.find?_append, List.find?_singleton]
      rfl
    rw [hfind, Option.isSome_or, Bool.or_eq_true]
    simp only [List.mem_singleton, Event.interface.injEq]
    refine or_congr_right ?_
    split
    · next heq => simp_all
    · next hne =>
      simp only [Option.isSome_none, Bool.false_eq_true, false_iff]
      rintro ⟨rfl, rfl⟩
      simp at hne
  | interfaceAgain old =>
    refine ⟨.inl, fun hcases => hcases.elim id fun hevent => ?_⟩
    obtain ⟨rfl, rfl⟩ := Event.interface.inj (List.mem_singleton.1 hevent)
    exact old
  | resource | resourceAgain => simp [interface?, withResource]
  | access same _ _ reaches => cases reaches <;> simp [same.interface?_eq]

theorem nodup_interfaces_step (h : g.Follows trace) (hs : g.Step events g') :
    (g'.interfaces.map fun v => (v.kind, v.register)).Nodup := by
  have hold := h.nodup_interfaces
  cases hs with
  | calm same | access same => rwa [same.interfaces]
  | temps _ _ interfaces => rwa [interfaces]
  | @interface v new =>
    rw [withInterface, List.map_append, List.nodup_append]
    refine ⟨hold, List.nodup_singleton _, fun key hkey key' hkey' heq => ?_⟩
    obtain ⟨v', hmem, rfl⟩ := List.mem_map.1 hkey
    obtain ⟨hkind, hregister⟩ := Prod.mk.inj (heq.trans (List.mem_singleton.1 hkey'))
    exact List.find?_eq_none.1 new v' hmem (by simp [hkind, hregister])
  | interfaceAgain | resource | resourceAgain => exact hold

theorem mem_declarations (g : Generator) (kind : ResourceClass) (number : Word) :
    (kind, number) ∈ (g.resources.map (·.declaration)).map FirstDeclaration.key ↔
      (g.resource? kind number).isSome := by
  rw [resource?, List.find?_isSome]
  simp [DeclaredResource.declaration, FirstDeclaration.key]

theorem resources_step (h : g.Follows trace) (hs : g.Step events g') :
    g'.resources.map (·.declaration) = firstDeclarations (trace ++ events) := by
  rw [firstDeclarations, List.foldl_append, ← firstDeclarations, ← h.resources]
  cases hs with
  | calm same => exact congrArg _ same.resources
  | temps _ _ _ resources => exact congrArg _ resources
  | interface | interfaceAgain => rfl
  | @resource r _ new =>
    rw [List.foldl_cons, List.foldl_nil, recordFirst_resource, recordNew,
      if_neg fun hmem => by simpa [new] using (mem_declarations ..).1 hmem]
    exact List.map_append
  | resourceAgain _ old =>
    rw [List.foldl_cons, List.foldl_nil, recordFirst_resource, recordNew]
    exact (if_pos ((mem_declarations ..).2 old)).symm
  | access same _ _ reaches => cases reaches <;> exact congrArg _ same.resources

theorem slots_step (h : g.Follows trace) (hs : g.Step events g') :
    ∀ r ∈ g'.resources, slotOf? g'.stage.stage r.form.kind r.register = some r.slot := by
  have hold := h.slots
  cases hs with
  | calm same | access same =>
    rw [same.stage, same.resources]
    exact hold
  | temps _ stage _ resources =>
    rw [stage, resources]
    exact hold
  | interface | interfaceAgain | resourceAgain => exact hold
  | resource slot =>
    intro r hr
    rcases List.mem_append.1 hr with hr | hr
    · exact hold r hr
    · rw [List.mem_singleton.1 hr]
      exact slot

/-! ### The module -/

theorem bindings_step (h : g.Follows trace) (hs : g.Step events g') :
    g'.module.annotations.toList.filter Inst.isBinding =
      g'.resources.flatMap (·.decorations) := by
  have hold := h.bindings
  cases hs with
  | calm same adds =>
    rw [same.resources, adds.annotations.filter_eq fun i hi => hi.2, hold]
  | temps _ _ _ resources _ adds =>
    rw [resources, adds.annotations.filter_eq fun i hi => hi.2, hold]
  | interface | interfaceAgain | resourceAgain => exact hold
  | @resource r =>
    have hdecorations : r.decorations.filter Inst.isBinding = r.decorations := rfl
    rw [r.annotations_decorateBinding, List.filter_append, hdecorations, hold]
    simp only [withResource, List.flatMap_append, List.flatMap_singleton]
  | access same sections =>
    rw [sections.2.2, same.resources]
    exact hold

/-- Resources and code that are there stay. -/
theorem stays_of_step (hs : g.Step events g') :
    g.resources <+: g'.resources ∧ g.module.body.toList ⊆ g'.module.body.toList := by
  cases hs with
  | calm same adds =>
    obtain ⟨more, hbody, -⟩ := adds.body
    exact ⟨same.resources ▸ List.prefix_rfl, hbody ▸ List.subset_append_left ..⟩
  | temps _ _ _ resources _ adds =>
    obtain ⟨more, hbody, -⟩ := adds.body
    exact ⟨resources ▸ List.prefix_rfl, hbody ▸ List.subset_append_left ..⟩
  | interface | interfaceAgain | resourceAgain => exact ⟨List.prefix_rfl, List.Subset.refl _⟩
  | resource => exact ⟨List.prefix_append .., List.Subset.refl _⟩
  | access same _ body => exact ⟨same.resources ▸ List.prefix_rfl, body ▸ List.subset_append_left ..⟩

/-- The code of an event reaches into its resources, and nothing else in it does. -/
theorem reaches_of_access {e : Event} {code : List Inst} (h : g.Access e code)
    (hc : code ⊆ g'.module.body.toList)
    (hids : ∀ kind number id, g.resourceId? kind number = some id →
      g'.resourceId? kind number = some id) :
    List.Forall₂ (Reaches g'.resourceId? g'.module.body.toList)
      ([e].filter Event.isAccess) (code.filter (·.op.isAccess)) := by
  have hid {kind : ResourceClass} {number : Word} {d : DeclaredResource}
      (hd : g.resource? kind number = some d) : g'.resourceId? kind number = some d.variableId :=
    hids _ _ _ (by rw [resourceId?, id?, hd]; rfl)
  cases h with
  | element hd => exact .cons (.element (hid hd)) .nil
  | sample ht hs hop =>
    change List.Forall₂ _ [Event.sample _ _] _
    rw [List.filter_cons_of_neg (by simp [Op.isAccess, Op.isSample]),
      List.filter_cons_of_neg (by simp [Op.isAccess, Op.isSample]),
      List.filter_cons_of_neg (by simp [Op.isAccess, Op.isSample]),
      List.filter_cons_of_pos (by simp [Op.isAccess, hop]), List.filter_nil]
    exact .cons (.sample (hid ht) (hid hs) (hc (.head _)) (hc (.tail _ (.head _)))
      (hc (.tail _ (.tail _ (.head _)))) hop) .nil

theorem accesses_step (h : g.Follows trace) (hs : g.Step events g') :
    List.Forall₂ (Reaches g'.resourceId? g'.module.body.toList)
      ((trace ++ events).filter Event.isAccess)
      (g'.module.body.toList.filter (·.op.isAccess)) := by
  obtain ⟨hresources, hbody⟩ := stays_of_step hs
  have hids (kind : ResourceClass) (number id : Word) :
      g.resourceId? kind number = some id → g'.resourceId? kind number = some id :=
    resourceId?_of_prefix hresources
  have hold := h.accesses.imp fun _ _ hreaches => hreaches.mono hids hbody
  rw [List.filter_append]
  cases hs with
  | calm same adds =>
    rw [adds.body.filter_eq fun i hi => hi]
    simpa using hold
  | temps _ _ _ _ _ adds =>
    rw [adds.body.filter_eq fun i hi => hi]
    simpa [Event.isAccess] using hold
  | interface | interfaceAgain | resource | resourceAgain =>
    change List.Forall₂ _ (trace.filter Event.isAccess ++ [])
      (g.module.body.toList.filter (·.op.isAccess))
    rw [List.append_nil]
    exact hold
  | @access g' e code _ _ body reaches =>
    -- what is sampled is put together in the new code itself
    have hmem : code ⊆ g'.module.body.toList := body ▸ List.subset_append_right ..
    have hcode := reaches_of_access reaches hmem hids
    rw [body, List.filter_append]
    rw [body] at hold hcode
    exact List.rel_append hold hcode

/-- What follows from the events so far follows from them and the events of one more step. -/
theorem step (h : g.Follows trace) (hs : g.Step events g') : g'.Follows (trace ++ events) :=
  ⟨h.temps_step hs, h.interfaces_step hs, h.nodup_interfaces_step hs, h.resources_step hs,
    h.slots_step hs, h.bindings_step hs, h.accesses_step hs⟩

theorem steps (h : g.Follows trace) (hs : g.Steps events g') : g'.Follows (trace ++ events) :=
  hs.invariant (P := fun trace g => g.Follows trace) (fun _ _ _ _ h hs => h.step hs) h

end Follows

/-! ## Declared registers -/

/-- What reaches into resources declares no interface. -/
theorem interfaceRegisters_filter (events : List Event) :
    interfaceRegisters (events.filter (!·.isAccess)) = interfaceRegisters events := by
  rw [interfaceRegisters, interfaceRegisters, List.filterMap_filter]
  congr 2
  funext e
  cases e <;> rfl

/-- There is one interface variable for each input and output register that is declared. -/
theorem Follows.length_interfaces (h : g.Follows trace) :
    g.interfaces.length = (interfaceRegisters trace).length := by
  -- the table has the keys of the events, each once
  have hmem (key : InterfaceClass × Word) :
      key ∈ g.interfaces.map (fun v => (v.kind, v.register)) ↔ key ∈ interfaceRegisters trace := by
    obtain ⟨kind, number⟩ := key
    have hsome := h.interfaces kind number
    rw [interface?, List.find?_isSome] at hsome
    rw [interfaceRegisters, List.mem_dedup, List.mem_filterMap, List.mem_map]
    constructor
    · rintro ⟨v, hv, heq⟩
      refine ⟨.interface kind number, hsome.1 ⟨v, hv, ?_⟩, rfl⟩
      simpa using Prod.mk.inj heq
    · rintro ⟨e, he, heq⟩
      cases e with
      | interface =>
        cases heq
        obtain ⟨v, hv, hkey⟩ := hsome.2 he
        exact ⟨v, hv, by simpa using hkey⟩
      | temps | resource | element | sample => cases heq
  have hnodup : (interfaceRegisters trace).Nodup := List.nodup_dedup _
  rw [← ((List.perm_ext_iff_of_nodup h.nodup_interfaces hnodup).2 hmem).length_eq, List.length_map]

theorem lt_foldl_countTemps (n : Nat) (count : Nat) (events : List Event) :
    n < events.foldl countTemps count ↔
      n < count ∨ ∃ more, .temps more ∈ events ∧ n < more := by
  induction events generalizing count with
  | nil => simp
  | cons e events ih =>
    rw [List.foldl_cons, ih]
    cases e <;> simp [countTemps, or_assoc, or_and_right, exists_or]

/-- Exactly the declared registers have variables. -/
theorem Follows.isSome_id? (h : g.Follows trace) (r : Reference) :
    (g.id? r).isSome ↔ ∃ e ∈ trace, e.Declares r := by
  match r with
  | .register (.temp n) =>
    have hsize : (g.id? (.register (.temp n))).isSome ↔ n.toNat < g.temps.size := by
      simp [id?, registerId?]
    rw [hsize, h.temps, lt_foldl_countTemps]
    constructor
    · rintro (hn | ⟨count, hmem, hn⟩)
      · cases hn
      · exact ⟨_, hmem, hn⟩
    · rintro ⟨e, hmem, he⟩
      cases e with
      | temps count => exact .inr ⟨count, hmem, he⟩
      | interface | resource => cases he
      | element | sample => exact he.elim
  | .register (.interface kind number) =>
    rw [id?, registerId?, Option.isSome_map, h.interfaces]
    constructor
    · exact fun hmem => ⟨_, hmem, rfl⟩
    · rintro ⟨e, hmem, he⟩
      cases e with
      | interface => cases he; exact hmem
      | resource => cases he
      | temps | element | sample => exact he.elim
  | .resource kind number =>
    rw [id?, Option.isSome_map, ← mem_declarations, h.resources, mem_firstDeclarations]
    constructor
    · rintro ⟨behind, hmem⟩
      exact ⟨_, hmem, rfl⟩
    · rintro ⟨e, hmem, he⟩
      cases e with
      | resource => cases he; exact ⟨_, hmem⟩
      | interface => cases he
      | temps | element | sample => exact he.elim

theorem WellFormed.nodup_resourceIds (hg : g.WellFormed) (hfit : g.module.bound < UInt32.size) :
    (g.resources.map (·.variableId)).Nodup :=
  (List.nodup_append.1 (List.nodup_append.1 (hg.distinct hfit)).2.1).2.1

/-- Registers of all kinds have variables of their own. -/
theorem WellFormed.id?_inj (hg : g.WellFormed) (hfit : g.module.bound < UInt32.size)
    {r r' : Reference} {id : Word} (h : g.id? r = some id) (h' : g.id? r' = some id) : r = r' := by
  -- no variable is that of a register and of a resource
  have hne {r : Register} {kind : ResourceClass} {number : Word} (hr : g.registerId? r = some id)
      (hd : g.id? (.resource kind number) = some id) : False := by
    obtain ⟨d, hd, hid⟩ := Option.map_eq_some_iff.1 hd
    exact hg.registerId?_ne hfit hr (resource?_eq_some hd).1 hid
  cases r with
  | register r =>
    cases r' with
    | register r' => rw [hg.registerId?_inj hfit h h']
    | resource kind number => exact (hne h h').elim
  | resource kind number =>
    cases r' with
    | register r' => exact (hne h' h).elim
    | resource kind' number' =>
      obtain ⟨d, hd, hid⟩ := Option.map_eq_some_iff.1 h
      obtain ⟨d', hd', hid'⟩ := Option.map_eq_some_iff.1 h'
      obtain ⟨hmem, rfl, rfl⟩ := resource?_eq_some hd
      obtain ⟨hmem', rfl, rfl⟩ := resource?_eq_some hd'
      rw [List.inj_on_of_nodup_map (hg.nodup_resourceIds hfit) hmem hmem' (hid.trans hid'.symm)]

theorem Grows.id? (h : g.Grows g') {r : Reference} {id : Word} (hr : g.id? r = some id) :
    g'.id? r = some id := by
  cases r with
  | register r => exact h.registerId? hr
  | resource kind number => exact resourceId?_of_prefix h.resources hr

/-- Behind a register stands a variable of the module. -/
theorem WellFormed.variable_of_id? (hg : g.WellFormed) {r : Reference} {id : Word}
    (h : g.id? r = some id) :
    ∃ type storage, ⟨.globalVariable, some type, some id, [storage]⟩ ∈ g.module.globals.toList := by
  cases r with
  | register r =>
    obtain ⟨_, type, -, -, hmem⟩ := hg.isRegisterVariable h
    exact ⟨type, _, hmem⟩
  | resource kind number =>
    obtain ⟨⟨register, slot, variableId, form⟩, hd, rfl⟩ := Option.map_eq_some_iff.1 h
    have hsound := hg.resources _ (resource?_eq_some hd).1
    cases form with
    | constantBuffer =>
      obtain ⟨_, _, _, _, -, -, -, type, -, hmem⟩ := hsound
      exact ⟨type, _, hmem⟩
    | image =>
      obtain ⟨_, _, _, -, -, -, type, -, hmem⟩ := hsound
      exact ⟨type, _, hmem⟩
    | sampler =>
      obtain ⟨_, -, type, -, hmem⟩ := hsound
      exact ⟨type, _, hmem⟩

/-! ## Slots -/

/-- What reaches into resources declares none. -/
theorem firstDeclarations_filter (events : List Event) :
    firstDeclarations (events.filter (!·.isAccess)) = firstDeclarations events := by
  rw [firstDeclarations, firstDeclarations, List.foldl_filter]
  congr 1
  funext found e
  cases e <;> rfl

/-- No two resources share a slot. -/
theorem Follows.nodup_slots (h : g.Follows trace) : (g.resources.map (·.slot)).Nodup := by
  have hkeys := nodup_firstDeclarations trace
  rw [← h.resources, List.map_map] at hkeys
  rw [List.Nodup, List.pairwise_map] at hkeys ⊢
  refine hkeys.imp_of_mem fun {r r'} hr hr' hne heq => hne ?_
  -- different registers have different slots, so one slot means one declaration
  obtain ⟨-, hkind, hnumber⟩ := slotOf?_inj (h.slots r hr) (heq ▸ h.slots r' hr')
  exact Prod.ext hkind hnumber

/-! ## Finished modules -/

/-- The decorations of a finished module are those of the module under construction. -/
theorem sectionCode_decoration (g : Generator) :
    g.sectionCode .decoration = g.module.annotations.toList := by
  rw [sectionCode, closed]
  split <;> rfl

/-- The decorations of a finished module that bind variables are those of the module under
construction. -/
theorem WellFormed.filter_isBinding (hg : g.WellFormed) :
    g.finished.instructions.filter Inst.isBinding =
      g.module.annotations.toList.filter Inst.isBinding := by
  rw [← g.sectionCode_decoration]
  refine hg.filter_of_section .decoration fun i hi => ?_
  rw [Inst.isBinding, Bool.and_eq_true, beq_iff_eq] at hi
  rw [hi.1]
  rfl

/-- The binding decorations of a finished module bind the variables of the resources to their
slots. -/
theorem Follows.bindingDecorations_finished (h : g.Follows trace) (hg : g.WellFormed) :
    g.finished.instructions.filter (·.binding?.isSome) =
      g.resources.map fun r => r.bindingDecoration r.slot := by
  -- what binds to a number is among what binds at all
  have hfilter : g.finished.instructions.filter (·.binding?.isSome) =
      (g.finished.instructions.filter Inst.isBinding).filter (·.binding?.isSome) := by
    rw [List.filter_filter]
    refine List.filter_congr fun i _ => ?_
    rcases hnumber : i.binding? with _ | number
    · rfl
    · simp [Inst.isBinding_of_binding? hnumber]
  have hone (r : DeclaredResource) :
      r.decorations.filter (·.binding?.isSome) = [r.bindingDecoration r.slot] := rfl
  rw [hfilter, hg.filter_isBinding, h.bindings, List.filter_flatMap]
  simp only [hone]
  exact List.map_eq_flatMap.symm

/-- The bindings of a finished module are the slots. -/
theorem Follows.bindings_finished (h : g.Follows trace) (hg : g.WellFormed) :
    g.finished.instructions.filterMap Inst.binding? = g.resources.map (·.slot) := by
  have hfilter : g.finished.instructions.filterMap Inst.binding? =
      (g.finished.instructions.filter (·.binding?.isSome)).filterMap Inst.binding? := by
    rw [List.filterMap_filter]
    refine List.filterMap_congr fun i _ => ?_
    rcases i.binding? with _ | number <;> rfl
  have hone : Inst.binding? ∘ (fun r : DeclaredResource => r.bindingDecoration r.slot) =
      some ∘ (·.slot) := rfl
  rw [hfilter, h.bindingDecorations_finished hg, List.filterMap_map, hone, ← List.filterMap_map,
    List.filterMap_some]

/-- The decorations of a resource are about its own variable. -/
theorem decorations_of_ne {r : DeclaredResource} {id : Word} (h : r.variableId ≠ id)
    (d : Decoration) : decorations r.decorations id d = [] := by
  simp [decorations, DeclaredResource.decorations, DeclaredResource.bindingDecoration,
    Inst.effect, h]

/-- Among the decorations of resources with variables of their own, those of one resource say where
it is bound. -/
theorem decorations_flatMap {resources : List DeclaredResource}
    (hnodup : (resources.map (·.variableId)).Nodup) {r : DeclaredResource} (hr : r ∈ resources)
    (d : Decoration) :
    decorations (resources.flatMap (·.decorations)) r.variableId d =
      decorations r.decorations r.variableId d :=
  filterMap_flatMap_of_nodup hnodup hr fun _ hne => decorations_of_ne hne d

/-- The variable of a resource is bound in descriptor set 0, to its slot, and nowhere else. -/
theorem Follows.decorations_finished (h : g.Follows trace) (hg : g.WellFormed)
    (hfit : g.module.bound < UInt32.size) {r : DeclaredResource} (hr : r ∈ g.resources) :
    decorations g.finished.instructions r.variableId .descriptorSet = [[0]] ∧
      decorations g.finished.instructions r.variableId .binding = [[r.slot]] := by
  have hresources := decorations_flatMap (hg.nodup_resourceIds hfit) hr
  rw [← h.bindings, ← hg.filter_isBinding] at hresources
  have hset := hresources .descriptorSet
  have hbinding := hresources .binding
  rw [decorations_filter_isBinding _ _ (.inl rfl)] at hset
  rw [decorations_filter_isBinding _ _ (.inr rfl)] at hbinding
  rw [hset, hbinding]
  have hne : Decoration.binding.number ≠ Decoration.descriptorSet.number := by decide
  simp [decorations, DeclaredResource.decorations, DeclaredResource.bindingDecoration, Inst.effect,
    hne, hne.symm]

/-- What reaches into resources in a finished module is what does in the module under construction. -/
theorem WellFormed.filter_isAccess (hg : g.WellFormed) :
    g.finished.instructions.filter (·.op.isAccess) =
      g.module.body.toList.filter (·.op.isAccess) := by
  have hcode {op : Op} (h : op.isAccess = true) : op.section = .code := by
    cases op <;> first | rfl | cases h
  rw [hg.filter_of_section .code fun i hi => hcode hi, sectionCode, List.filter_append,
    Generator.closed]
  split
  · rw [Module.withCode, Array.toList_push, List.filter_append, List.append_assoc]
    exact List.append_nil _
  · exact List.append_nil _

/-- The code of a finished module reaches into resources as the events say. -/
theorem Follows.accesses_finished (h : g.Follows trace) (hg : g.WellFormed) :
    List.Forall₂ (Reaches g.resourceId? g.finished.instructions) (trace.filter Event.isAccess)
      (g.finished.instructions.filter (·.op.isAccess)) := by
  -- finishing adds to the code, but nothing that reaches into resources
  have hbody : g.module.body.toList ⊆ g.finished.instructions := by
    obtain ⟨more, hmore⟩ := hg.closed.1.body
    rw [instructions_finished hg, ← hmore]
    intro i hi
    simp [hi]
  rw [hg.filter_isAccess]
  exact h.accesses.imp fun _ _ hreaches => hreaches.mono (fun _ _ _ => id) hbody

end Generator

end ShaderLowering
