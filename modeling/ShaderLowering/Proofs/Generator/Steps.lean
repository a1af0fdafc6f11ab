import ShaderLowering.Proofs.Generator.Declaring
import ShaderLowering.Proofs.Spirv.Additions

/-!
# What a generator does to registers, step by step

An operation of the generator is a sequence of steps, and most of them have nothing to do with
registers. The others are *events*: a register is declared, or code reaches into a resource.
`Generator.Step` says all that a step can do, `Generator.Steps` puts steps together with the list of
their events, and `Takes` says which steps an operation takes when it succeeds and when it fails.
What holds of all generators is then proved of a step at a time.
-/

namespace ShaderLowering

open Spirv (Build Inst Module Op)

/-! ## Events -/

/-- What the handling of instructions has to do with registers. -/
inductive Event where
  /-- The temporary registers below a number are declared. -/
  | temps (count : Nat)
  /-- An input or output register is declared. -/
  | interface (kind : InterfaceClass) (number : Word)
  /-- A resource is declared, with what stands behind it. -/
  | resource (kind : ResourceClass) (number : Word) (behind : ResourceKind)
  /-- An element of a constant buffer is found. -/
  | element (buffer : Word)
  /-- A texture is sampled. -/
  | sample (texture sampler : Word)
  deriving DecidableEq

/-- Whether code reaches into a resource, rather than a register being declared. -/
def Event.isAccess : Event → Bool
  | element _ | sample _ _ => true
  | temps _ | interface _ _ | resource _ _ _ => false

namespace Generator

/-! ## Steps -/

/-- The same stage with the same registers. -/
structure SameRegisters (g g' : Generator) : Prop where
  stage : g'.stage = g.stage
  temps : g'.temps = g.temps
  interfaces : g'.interfaces = g.interfaces
  resources : g'.resources = g.resources

/-- The code that reaches into the resources of an event: an element is found behind the variable of
its buffer, and what is sampled is put together from what the variables of the texture and the
sampler hold. -/
inductive Access (g : Generator) : Event → List Inst → Prop
  | element {buffer : Word} {d : DeclaredResource} {type? result? : Option Word}
      {indices : List Word} (hd : g.resource? .constantBuffer buffer = some d) :
      Access g (.element buffer) [⟨.accessChain, type?, result?, d.variableId :: indices⟩]
  | sample {texture sampler image state combined : Word} {t s : DeclaredResource}
      {imageType? samplerType? combinedType? type? result? : Option Word} {op : Op}
      {operands : List Word}
      (ht : g.resource? .shaderResource texture = some t)
      (hs : g.resource? .sampler sampler = some s) (hop : op.isSample = true) :
      Access g (.sample texture sampler)
        [⟨.load, imageType?, some image, [t.variableId]⟩,
         ⟨.load, samplerType?, some state, [s.variableId]⟩,
         ⟨.sampledImage, combinedType?, some combined, [image, state]⟩,
         ⟨op, type?, result?, combined :: operands⟩]

/-- What one step does, with the events that it is. -/
inductive Step (g : Generator) : List Event → Generator → Prop
  | calm {g' : Generator} (same : g.SameRegisters g') (adds : g.module.Adds g'.module) :
      Step g [] g'
  | temps {g' : Generator} (count : Nat) (stage : g'.stage = g.stage)
      (interfaces : g'.interfaces = g.interfaces) (resources : g'.resources = g.resources)
      (size : g'.temps.size = max g.temps.size count) (adds : g.module.Adds g'.module) :
      Step g [.temps count] g'
  | interface {v : InterfaceVariable} (new : g.interface? v.kind v.register = none) :
      Step g [.interface v.kind v.register] (g.withInterface v)
  /-- A register that is declared again keeps its variable. -/
  | interfaceAgain {kind : InterfaceClass} {number : Word}
      (old : (g.interface? kind number).isSome) : Step g [.interface kind number] g
  | resource {r : DeclaredResource}
      (slot : slotOf? g.stage.stage r.form.kind r.register = some r.slot)
      (new : g.resource? r.form.kind r.register = none) :
      Step g [.resource r.form.kind r.register r.form.resourceKind]
        { g.withResource r with
          module := ((Build.decorateBinding r.variableId 0 r.slot).run g.module).2 }
  | resourceAgain {kind : ResourceClass} {number : Word} (behind : ResourceKind)
      (old : (g.resource? kind number).isSome) : Step g [.resource kind number behind] g
  | access {g' : Generator} {e : Event} {code : List Inst} (same : g.SameRegisters g')
      (sections : g'.module.names = g.module.names ∧ g'.module.globals = g.module.globals ∧
        g'.module.annotations = g.module.annotations)
      (body : g'.module.body.toList = g.module.body.toList ++ code) (reaches : g.Access e code) :
      Step g [e] g'

/-- Steps one after the other, with all their events. -/
inductive Steps (g : Generator) : List Event → Generator → Prop
  | refl : Steps g [] g
  | step {g' g'' : Generator} {trace events : List Event} (before : Steps g trace g')
      (last : Step g' events g'') : Steps g (trace ++ events) g''

variable {g g' g'' : Generator} {trace trace' : List Event}

namespace SameRegisters

theorem refl (g : Generator) : g.SameRegisters g := ⟨rfl, rfl, rfl, rfl⟩

theorem trans (h : g.SameRegisters g') (h' : g'.SameRegisters g'') : g.SameRegisters g'' :=
  ⟨h'.stage.trans h.stage, h'.temps.trans h.temps, h'.interfaces.trans h.interfaces,
    h'.resources.trans h.resources⟩

theorem resource?_eq (h : g.SameRegisters g') (kind : ResourceClass) (number : Word) :
    g'.resource? kind number = g.resource? kind number := by
  rw [resource?, resource?, h.resources]

theorem interface?_eq (h : g.SameRegisters g') (kind : InterfaceClass) (number : Word) :
    g'.interface? kind number = g.interface? kind number := by
  rw [interface?, interface?, h.interfaces]

/-- The same code reaches into the same resources. -/
theorem access (h : g.SameRegisters g') {e : Event} {code : List Inst} (ha : g.Access e code) :
    g'.Access e code := by
  cases ha with
  | element hd => exact .element ((h.resource?_eq _ _).trans hd)
  | sample ht hs hop =>
    exact .sample ((h.resource?_eq _ _).trans ht) ((h.resource?_eq _ _).trans hs) hop

end SameRegisters

namespace Steps

theorem one (h : g.Step trace g') : g.Steps trace g' := .step .refl h

theorem trans (h : g.Steps trace g') (h' : g'.Steps trace' g'') :
    g.Steps (trace ++ trace') g'' := by
  induction h' with
  | refl => rwa [List.append_nil]
  | step before last ih =>
    rw [← List.append_assoc]
    exact .step ih last

/-- Steps without an event leave the registers alone. -/
theorem sameRegisters (h : g.Steps [] g') : g.SameRegisters g' := by
  generalize hnil : ([] : List Event) = trace at h
  induction h with
  | refl => exact .refl g
  | step before last ih =>
    -- no events in all are no events in any step, and such a step is calm
    obtain ⟨rfl, rfl⟩ := List.append_eq_nil_iff.1 hnil.symm
    cases last with
    | calm same _ => exact (ih rfl).trans same

/-- What every step keeps, given the events so far, holds behind all of them. -/
theorem invariant {P : List Event → Generator → Prop}
    (step : ∀ trace events g g', P trace g → g.Step events g' → P (trace ++ events) g')
    (h : g.Steps trace' g') (hg : P trace g) : P (trace ++ trace') g' := by
  induction h with
  | refl => rwa [List.append_nil]
  | step before last ih =>
    rw [← List.append_assoc]
    exact step _ _ _ _ ih last

/-- A resource that is there behind some steps has been there before, or one of them is its
declaration. -/
theorem mem_resources (h : g.Steps trace g') {d : DeclaredResource} (hd : d ∈ g'.resources) :
    d ∈ g.resources ∨ .resource d.form.kind d.register d.form.resourceKind ∈ trace := by
  induction h with
  | refl => exact .inl hd
  | @step g' g'' trace events _ last ih =>
    rw [List.mem_append]
    have hbefore : d ∈ g'.resources ∨
        .resource d.form.kind d.register d.form.resourceKind ∈ events := by
      cases last with
      | calm same => exact .inl (same.resources ▸ hd)
      | temps _ _ _ resources => exact .inl (resources ▸ hd)
      | interface | interfaceAgain | resourceAgain => exact .inl hd
      | resource =>
        rcases List.mem_append.1 hd with hd | hd
        · exact .inl hd
        · rw [List.mem_singleton.1 hd]
          exact .inr (List.mem_singleton_self _)
      | access same => exact .inl (same.resources ▸ hd)
    rcases hbefore with hd | hd
    · exact (ih hd).imp id .inl
    · exact .inr (.inr hd)

/-- Behind the declaration of a resource, there is no other one that is new. -/
theorem mem_resources_of_resource {kind : ResourceClass} {register : Word} {behind : ResourceKind}
    (h : g.Steps [.resource kind register behind] g') {d : DeclaredResource}
    (hd : d ∈ g'.resources) : d ∈ g.resources ∨ (d.form.kind, d.register) = (kind, register) := by
  refine (h.mem_resources hd).imp id fun hmem => ?_
  obtain ⟨hkind, hregister, -⟩ := Event.resource.inj (List.mem_singleton.1 hmem)
  rw [hkind, hregister]

end Steps

end Generator

/-! ## Operations -/

variable {ε S α β : Type} [HasGenerator S]

/-- The steps of an operation, and what its result is good for. Where the operation fails, `failed`
says what the events are that have taken place. -/
structure Takes (s : S) (op : ExceptT ε (StateM S) α) (failed : List Event → Prop)
    (events : List Event) (Q : α → Prop) : Prop where
  ok : ∀ a, (op.run s).1 = .ok a →
    Q a ∧ (HasGenerator.generator s).Steps events (HasGenerator.generator (op.run s).2)
  error : ∀ e, (op.run s).1 = .error e → ∃ trace, failed trace ∧
    (HasGenerator.generator s).Steps trace (HasGenerator.generator (op.run s).2)

/-- The operation does not fail. -/
abbrev Never : List Event → Prop := fun _ => False

/-- Nothing has taken place. -/
abbrev Nothing : List Event → Prop := (· = [])

/-- Some of the events have taken place, those that come first. -/
abbrev FirstOf (events : List Event) : List Event → Prop := (· <+: events)

namespace Takes

variable {s : S} {op : ExceptT ε (StateM S) α} {f : α → ExceptT ε (StateM S) β}
variable {failed failed' failed'' : List Event → Prop} {events events' : List Event}
variable {Q Q' : α → Prop} {R : β → Prop}

/-- What an operation that succeeds has come to. -/
theorem of_run (h : Takes s op failed events Q) {a : α} {s' : S} (hrun : op.run s = (.ok a, s')) :
    Q a ∧ (HasGenerator.generator s).Steps events (HasGenerator.generator s') := by
  have hok := h.ok a
  rw [hrun] at hok
  exact hok rfl

theorem pure {a : α} (h : Q a) :
    Takes s (Pure.pure a : ExceptT ε (StateM S) α) Never [] Q := by
  refine ⟨fun b hb => ?_, fun e he => by cases he⟩
  cases hb
  exact ⟨h, .refl⟩

theorem throw {e : ε} :
    Takes s (MonadExcept.throw e : ExceptT ε (StateM S) α) Nothing events Q :=
  ⟨fun b hb => (by cases hb), fun _ _ => ⟨[], rfl, .refl⟩⟩

/-- The events of a sequence are those of its parts, and where a part fails, those of the parts
before have taken place. -/
theorem bind (h : Takes s op failed events Q) (hfailed : ∀ t, failed t → failed'' t)
    (hf : ∀ a s', Q a →
      (HasGenerator.generator s).Steps events (HasGenerator.generator s') →
      Takes s' (f a) failed' events' R)
    (hfailed' : ∀ t, failed' t → failed'' (events ++ t)) :
    Takes s (op >>= f) failed'' (events ++ events') R := by
  obtain ⟨hok, herror⟩ := h
  rcases hop : op.run s with ⟨e | a, s'⟩ <;> rw [hop] at hok herror
  · have hrun : (op >>= f).run s = (.error e, s') := by rw [run_bind, hop]
    refine ⟨fun b hb => ?_, fun e' _ => ?_⟩
    · rw [hrun] at hb
      cases hb
    · obtain ⟨trace, htrace, hsteps⟩ := herror e rfl
      rw [hrun]
      exact ⟨trace, hfailed trace htrace, hsteps⟩
  · have hrun : (op >>= f).run s = (f a).run s' := by rw [run_bind, hop]
    obtain ⟨ha, hsteps⟩ := hok a rfl
    obtain ⟨hok', herror'⟩ := hf a s' ha hsteps
    refine ⟨fun b hb => ?_, fun e' he' => ?_⟩
    · rw [hrun] at hb ⊢
      obtain ⟨hb, hsteps'⟩ := hok' b hb
      exact ⟨hb, hsteps.trans hsteps'⟩
    · rw [hrun] at he' ⊢
      obtain ⟨trace, htrace, hsteps'⟩ := herror' e' he'
      exact ⟨events ++ trace, hfailed' trace htrace, hsteps.trans hsteps'⟩

/-- A part without events in front of a sequence. -/
theorem calm_bind (h : Takes s op failed [] Q) (hfailed : ∀ t, failed t → failed'' t)
    (hf : ∀ a s', Q a →
      (HasGenerator.generator s).SameRegisters (HasGenerator.generator s') →
      Takes s' (f a) failed'' events R) :
    Takes s (op >>= f) failed'' events R :=
  h.bind hfailed (fun a s' ha hsteps => hf a s' ha hsteps.sameRegisters) fun _ ht => ht

/-- Parts that do not fail. -/
theorem never_bind (h : Takes s op Never events Q)
    (hf : ∀ a s', Q a → Takes s' (f a) Never events' R) :
    Takes s (op >>= f) Never (events ++ events') R :=
  h.bind (fun _ => id) (fun a s' ha _ => hf a s' ha) fun _ => id

/-- Parts that fail somewhere in their events. -/
theorem firstOf_bind (h : Takes s op (FirstOf events) events Q)
    (hf : ∀ a s', Q a → Takes s' (f a) (FirstOf events') events' R) :
    Takes s (op >>= f) (FirstOf (events ++ events')) (events ++ events') R :=
  h.bind (fun _ ht => ht.trans (List.prefix_append ..)) (fun a s' ha _ => hf a s' ha)
    fun _ ht => (List.prefix_append_right_inj _).2 ht

theorem imp (h : Takes s op failed events Q) (hQ : ∀ a, Q a → Q' a) :
    Takes s op failed events Q' :=
  ⟨fun a ha => ⟨hQ a (h.ok a ha).1, (h.ok a ha).2⟩, h.error⟩

theorem weaken (h : Takes s op failed events Q) (hfailed : ∀ t, failed t → failed' t) :
    Takes s op failed' events Q := by
  refine ⟨h.ok, fun e he => ?_⟩
  obtain ⟨trace, htrace, hsteps⟩ := h.error e he
  exact ⟨trace, hfailed trace htrace, hsteps⟩

theorem nothing_of_never (h : Takes s op Never events Q) : Takes s op Nothing events Q :=
  h.weaken fun _ => False.elim

theorem firstOf (h : Takes s op Nothing events Q) : Takes s op (FirstOf events) events Q :=
  h.weaken fun _ ht => ht ▸ List.nil_prefix

/-- A part without events behind one that fails somewhere in its events. -/
theorem bind_calm (h : Takes s op (FirstOf events) events Q)
    (hf : ∀ a s', Q a → Takes s' (f a) Nothing [] R) :
    Takes s (op >>= f) (FirstOf events) events R := by
  have hbind := h.firstOf_bind fun a s' ha => (hf a s' ha).firstOf
  rwa [List.append_nil] at hbind

/-- Reading the state changes nothing. -/
theorem get_bind {f : S → ExceptT ε (StateM S) β} (h : Takes s (f s) failed events R) :
    Takes s (get >>= f) failed events R := by
  have hrun : (get >>= f).run s = (f s).run s := by rw [run_bind, run_get]
  refine ⟨fun b hb => ?_, fun e he => ?_⟩
  · rw [hrun] at hb ⊢
    exact h.ok b hb
  · rw [hrun] at he ⊢
    exact h.error e he

end Takes

end ShaderLowering
