import ShaderLowering.Lowering.Error
import ShaderLowering.Proofs.Generator.Composition
import ShaderLowering.Proofs.Generator.DeclarationSteps

/-!
# Declarations that are repeated

A register that is declared again keeps its variable, so a declaration that has been carried out
once changes nothing when it is carried out again, whatever has happened in between
(`Generate.Repeats`). Resources, inputs and outputs are looked up first. Temporary registers are
counted, and the type of pointers to them is found again.
-/

namespace ShaderLowering

open Spirv

/-! ## What stays declared -/

namespace Generator

/-- Whether what an event declares is there. -/
def Has (g : Generator) : Event → Prop
  | .temps count => count ≤ g.temps.size
  | .interface kind number => (g.interface? kind number).isSome
  | .resource kind number _ => (g.resource? kind number).isSome
  | .element _ | .sample _ _ => True

variable {g g' : Generator} {e : Event} {events trace : List Event}

/-- What is there stays there while registers are added. -/
theorem Has.of_prefix (h : g.Has e) (ht : g.temps.size ≤ g'.temps.size)
    (hi : g.interfaces <+: g'.interfaces) (hr : g.resources <+: g'.resources) : g'.Has e := by
  cases e with
  | temps count => exact Nat.le_trans h ht
  | interface kind number =>
    obtain ⟨more, hmore⟩ := hi
    rw [Has, interface?, ← hmore, List.find?_append, Option.isSome_or]
    exact Bool.or_eq_true_iff.2 (.inl h)
  | resource kind number behind =>
    obtain ⟨more, hmore⟩ := hr
    rw [Has, resource?, ← hmore, List.find?_append, Option.isSome_or]
    exact Bool.or_eq_true_iff.2 (.inl h)
  | element | sample => trivial

theorem SameRegisters.has (h : g.SameRegisters g') (he : g.Has e) : g'.Has e :=
  he.of_prefix (Nat.le_of_eq (congrArg Array.size h.temps.symm)) (h.interfaces ▸ List.prefix_rfl)
    (h.resources ▸ List.prefix_rfl)

theorem Grows.has (h : g.Grows g') (he : g.Has e) : g'.Has e :=
  he.of_prefix h.temps.length_le h.interfaces h.resources

/-- Behind a step, what it declares is there, and so is what was there before. -/
theorem Step.has (h : g.Step events g') :
    (∀ e, g.Has e → g'.Has e) ∧ ∀ e ∈ events, g'.Has e := by
  cases h with
  | calm same => exact ⟨fun e he => same.has he, nofun⟩
  | temps count _ interfaces resources size =>
    refine ⟨fun e he => ?_, List.forall_mem_singleton.2 ?_⟩
    · exact he.of_prefix (size ▸ Nat.le_max_left ..) (interfaces ▸ List.prefix_rfl)
        (resources ▸ List.prefix_rfl)
    · exact (Nat.le_max_right ..).trans (Nat.le_of_eq size.symm)
  | @interface v new =>
    refine ⟨fun e he => ?_, List.forall_mem_singleton.2 ?_⟩
    · exact he.of_prefix (Nat.le_refl _) (List.prefix_append ..) List.prefix_rfl
    · simp [Has, interface?, withInterface]
  | interfaceAgain old => exact ⟨fun e he => he, List.forall_mem_singleton.2 old⟩
  | @resource r slot new =>
    refine ⟨fun e he => ?_, List.forall_mem_singleton.2 ?_⟩
    · exact he.of_prefix (Nat.le_refl _) List.prefix_rfl (List.prefix_append ..)
    · simp [Has, resource?, withResource]
  | resourceAgain behind old => exact ⟨fun e he => he, List.forall_mem_singleton.2 old⟩
  | access same _ _ reaches =>
    refine ⟨fun e he => same.has he, List.forall_mem_singleton.2 ?_⟩
    cases reaches <;> trivial

/-- Behind steps, all that they declare is there. -/
theorem Steps.has (h : g.Steps trace g') : ∀ e ∈ trace, g'.Has e := by
  have hnone : ∀ e ∈ ([] : List Event), g.Has e := nofun
  refine h.invariant (P := fun trace g => ∀ e ∈ trace, g.Has e) ?_ hnone
  intro trace events g g' htrace hstep e he
  obtain ⟨hstays, hnew⟩ := hstep.has
  rcases List.mem_append.1 he with he | he
  · exact hstays e (htrace e he)
  · exact hnew e he

end Generator

/-! ## Operations -/

namespace Generate

/-- An operation that changes nothing if it has been carried out before: neither on the generator
that it left behind, nor on any that has grown from that. -/
def Repeats (op : Generate Unit) : Prop :=
  ∀ ⦃g g' : Generator⦄, g.WellFormed → g.Grows g' → (op.run g).2.Grows g' → (op.run g').2 = g'

/-- Whether there is a slot for a register depends on the stage only. -/
theorem run_slot (kind : ResourceClass) (register : Word) (g : Generator) :
    (slot kind register).run g =
      ((slotOf? g.stage.stage kind register).elim
        (.error (.fault (.slotOutOfRange kind register))) .ok, g) := by
  rw [slot, run_bind, run_get]
  rcases hslot : slotOf? g.stage.stage kind register with _ | slot <;> simp only [hslot] <;> rfl

/-- A guarded operation changes nothing where the register is there, or where it has failed. -/
theorem Guarded.run_again {isThere : Generator → Bool} {op : Generate Unit} (h : Guarded isThere op)
    {g g' : Generator} (hstage : g'.stage = g.stage)
    (hthere : (op.run g).1 = .ok () → isThere g' = true) : (op.run g').2 = g' := by
  induction h with
  | throw e => rfl
  | @slot kind register f _ ih =>
    rw [run_bind, run_slot] at hthere ⊢
    rw [hstage]
    generalize slotOf? g.stage.stage kind register = slot? at hthere ⊢
    cases slot? with
    | none => rfl
    | some slot => exact ih slot hthere
  | @guard f _ hf =>
    have hok : ((get >>= fun g => if isThere g = true then Pure.pure () else f g :
        Generate Unit).run g).1 = .ok () := by
      rw [run_bind, run_get]
      dsimp only
      split
      · rfl
      · obtain ⟨u, g₁, hrun⟩ := (hf g).isOk g
        rw [hrun]
    rw [run_bind, run_get]
    dsimp only
    rw [if_pos (hthere hok)]
    rfl

/-- A guarded operation repeats if the register is there behind it. -/
theorem Guarded.repeats {isThere : Generator → Bool} {op : Generate Unit} (h : Guarded isThere op)
    {e : Event} (hsteps : ∀ g, (op.run g).1 = .ok () → g.Steps [e] (op.run g).2)
    (hhas : ∀ g : Generator, g.Has e → isThere g = true) : Repeats op := by
  intro g g' _ hgrows hafter
  refine h.run_again hgrows.fixed.1 fun hok => hhas g' (hafter.has ?_)
  exact (hsteps g hok).has e (List.mem_singleton_self e)

theorem repeats_declareConstantBuffer (register size : Word) :
    Repeats (declareConstantBuffer register size) :=
  (guarded_declareConstantBuffer register size).repeats
    (fun _ hok => ((takes_declareConstantBuffer register size).ok () hok).2) fun _ h => h

theorem repeats_declareResource (register : Word) (dim : ResourceDim) (type : ResourceReturnType) :
    Repeats (declareResource register dim type) :=
  (guarded_declareResource register dim type).repeats
    (fun _ hok => ((takes_declareResource register dim type).ok () hok).2) fun _ h => h

theorem repeats_declareSampler (register : Word) (mode : SamplerMode) :
    Repeats (declareSampler register mode) :=
  (guarded_declareSampler register mode).repeats
    (fun _ hok => ((takes_declareSampler register mode).ok () hok).2) fun _ h => h

theorem repeats_declareInterface (d : InterfaceDeclaration) : Repeats (declareInterface d) := by
  intro g g' _ hgrows hafter
  refine (guarded_declareInterface d).run_again hgrows.fixed.1 fun hok => ?_
  rcases hkind : InterfaceClass.ofOperandType? d.type with _ | kind
  · -- what is neither an input nor an output is never declared
    rw [declareInterface] at hok
    simp only [hkind] at hok
    split at hok <;> cases hok
  · obtain ⟨-, hsteps⟩ := (takes_declareInterface d hkind fun _ => rfl).ok () hok
    exact hafter.has (hsteps.has _ (List.mem_singleton_self _))

end Generate

/-! ## Temporary registers -/

namespace Spirv.Build

variable {m : Module}

/-- A type that is there is found. -/
theorem run_scalar_of_scalarId {s : ScalarType} {id : Word} (h : ScalarId m.globals.toList s id) :
    s.build.run m = (id, m) := by
  cases s <;> exact run_intern_of_interned h

theorem run_type_of_typeId {t : ValueType} {id : Word} (h : TypeId m.globals.toList t id) :
    t.build.run m = (id, m) := by
  obtain ⟨s, hs, hid⟩ := h
  rw [ValueType.build, StateT.run_bind, run_scalar_of_scalarId hs]
  change (if t.count = 1 then pure s
    else vectorType s (UInt32.ofNat t.count) : Build Word).run m = _
  split at hid
  · next h1 =>
    rw [if_pos h1, hid]
    rfl
  · next h1 =>
    rw [if_neg h1]
    exact run_intern_of_interned hid

theorem run_pointerTo_of_pointerId {t : ValueType} {storage : Storage} {pointee id : Word}
    (ht : TypeId m.globals.toList t pointee)
    (hid : PointerId m.globals.toList storage.spirvClass pointee id) :
    (t.buildPointer storage).run m = (id, m) := by
  rw [ValueType.buildPointer, StateT.run_bind, run_type_of_typeId ht]
  exact run_intern_of_interned hid

end Spirv.Build

namespace Generate

theorem repeats_declareTemps {count : Nat} (h : count ≤ maxTemps) :
    Repeats (declareTemps count) := by
  intro g g' hg _ hafter
  have htakes := takes_declareTemps (g := g) (h.trans (by decide))
  have hkeeps := keeps_declareTemps hg count
  rcases hrun : (declareTemps count).run g with ⟨e | u, g₁⟩
  · obtain ⟨trace, hnever, -⟩ := htakes.error e (congrArg Prod.fst hrun)
    exact hnever.elim
  · -- the registers and the type of pointers to them are there
    obtain ⟨-, hsteps⟩ := htakes.ok u (congrArg Prod.fst hrun)
    obtain ⟨pointee, pointerType, hpointee, htype⟩ := hkeeps.result u (congrArg Prod.fst hrun)
    have hcount : count ≤ g'.temps.size := hafter.has (hsteps.has _ (List.mem_singleton_self _))
    have hbuild := Spirv.Build.run_pointerTo_of_pointerId (hpointee.mono hafter.module.globals)
      (htype.mono hafter.module.globals)
    rw [declareTemps, run_bind, run_build, hbuild]
    dsimp only
    rw [run_bind, run_get]
    dsimp only
    rw [Nat.sub_eq_zero_of_le hcount]
    rfl

end Generate

end ShaderLowering
