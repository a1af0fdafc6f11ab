import ShaderLowering.Proofs.Generator.Components
import ShaderLowering.Proofs.Semantics.Registers

/-!
# What registers hold

The pointers of declared registers point to their variables. A load through a pointer stands for what
the memory holds there, and a store through one changes the masked components of a register and
nothing else, in whichever of its three ways the components are merged.
-/

namespace ShaderLowering

open Spirv

/-! ## Masks -/

namespace ComponentMask

/-- Only the full mask has four components. -/
theorem eq_firstN_of_length {mask : ComponentMask} (h : mask.components.length = 4) :
    mask = .firstN 4 := by
  obtain ⟨x, y, z, w⟩ := mask
  cases x <;> cases y <;> cases z <;> cases w <;> first | rfl | cases h

end ComponentMask

/-- A single component put in its place makes the merged register. -/
theorem set_fourLanes {mask : ComponentMask} {i : Nat} (h : mask.components = [i])
    (old new : Nat → Word) :
    (fourLanes old).set i (new i) = fourLanes (merged mask old new) := by
  obtain ⟨x, y, z, w⟩ := mask
  cases x <;> cases y <;> cases z <;> cases w <;> first | (cases h; rfl) | cases h

/-- The components that a store picks from the old and the stored value make the merged register, if
the stored value has the masked components. -/
theorem pick_mergeLanes_packed (mask : ComponentMask) (old new : Nat → Word) :
    pick (fourLanes old ++ mask.components.map new) (Generate.mergeLanes 4 mask false) =
      fourLanes (merged mask old new) := by
  obtain ⟨x, y, z, w⟩ := mask
  cases x <;> cases y <;> cases z <;> cases w <;> rfl

/-- So they do if the stored value has all components. -/
theorem pick_mergeLanes_positional (mask : ComponentMask) (old new : Nat → Word) :
    pick (fourLanes old ++ fourLanes new) (Generate.mergeLanes 4 mask true) =
      fourLanes (merged mask old new) := by
  obtain ⟨x, y, z, w⟩ := mask
  cases x <;> cases y <;> cases z <;> cases w <;> rfl

theorem fourLanes_merged_firstN (old new : Nat → Word) :
    fourLanes (merged (.firstN 4) old new) = fourLanes new := rfl

section

variable {mask : ComponentMask} {xs : List Word}

/-- A value of four components is stored as it is. -/
theorem fourLanes_stored (h : xs.length = 4) : fourLanes (stored mask xs) = xs := by
  have hstored : stored mask xs = fun i => xs.getD i 0 := funext fun i => by rw [stored, if_pos h]
  have hall := pick_range xs
  rw [h] at hall
  rwa [fourLanes, hstored]

/-- A value with the masked components is stored component by component. -/
theorem map_stored (h : xs.length = mask.components.length) :
    mask.components.map (stored mask xs) = xs := by
  by_cases hfour : xs.length = 4
  · have hmask := ComponentMask.eq_firstN_of_length (h.symm.trans hfour)
    rw [hmask]
    exact fourLanes_stored hfour
  · have hnodup : mask.components.Nodup := (by decide : [0, 1, 2, 3].Nodup).filter _
    refine List.ext_getElem ((List.length_map _).trans h.symm) fun n hn hn' => ?_
    rw [List.getElem_map, stored, if_neg hfour, hnodup.idxOf_getElem, List.getD_eq_getElem?_getD,
      List.getElem?_eq_getElem hn', Option.getD_some]

/-- Stored components are those that were put side by side. -/
theorem merged_stored (mask : ComponentMask) (old new : Nat → Word) :
    merged mask old (stored mask (mask.components.map new)) = merged mask old new := by
  have hlength : (mask.components.map new).length = mask.components.length := List.length_map _
  have hall := map_stored hlength
  funext i
  simp only [merged]
  split
  · next hi => exact List.map_inj_left.1 hall i (ComponentMask.mem_components.2 hi)
  · rfl

end

/-! ## Variables -/

section

variable {P : Platform} {l : Launch P}

/-- The variable of a register stands for a pointer to itself. -/
theorem IsRegisterVariable.holds {m : Module} {storage : Storage} {id : Word}
    (h : IsRegisterVariable m.globals.toList storage id) : l.Holds m id (.pointer id) := by
  obtain ⟨pointee, type, -, -, hid⟩ := h
  exact Launch.holds_variable hid

theorem IsResourceVariable.holds {m : Module} {storage : Storage} {pointee id : Word}
    (h : IsResourceVariable m.globals.toList storage pointee id) : l.Holds m id (.pointer id) := by
  obtain ⟨type, -, hid⟩ := h
  exact Launch.holds_variable hid

/-- The variable of a resource stands for a pointer to itself. -/
theorem DeclaredResource.IsSound.holds {m : Module} {r : DeclaredResource}
    (h : r.IsSound m.globals.toList) : l.Holds m r.variableId (.pointer r.variableId) := by
  obtain ⟨register, slot, variableId, form⟩ := r
  cases form with
  | constantBuffer =>
    obtain ⟨element, array, length, block, -, -, -, hv⟩ := h
    exact hv.holds
  | image imageType dim sampled =>
    obtain ⟨imageDim, capability?, sampledType, -, -, -, hv⟩ := h
    exact hv.holds
  | sampler =>
    obtain ⟨type, -, hv⟩ := h
    exact hv.holds

end

namespace Generate

variable {P : Platform} {l : Launch P} {g : Generator} {M : Memory P}

/-! ## Pointers -/

theorem performs_tempPointer (hg : g.WellFormed) (hM : l.Reaches g.module M) {register id : Word}
    (h : g.temps[register.toNat]? = some id) :
    Performs l g (tempPointer register)
      (fun p g' => p = ⟨id, .floatVector, .temporary⟩ ∧ l.Holds g'.module p.id (.pointer id))
      M := by
  have hmem : id ∈ g.temps.toList := Array.mem_toList_iff.2 (Array.mem_of_getElem? h)
  refine .get_bind ?_
  rw [h]
  exact .pure hM ⟨rfl, IsRegisterVariable.holds (hg.temps id hmem)⟩

theorem performs_interfacePointer (hg : g.WellFormed) (hM : l.Reaches g.module M)
    {type : OperandType} {kind : InterfaceClass} {register : Word} {v : InterfaceVariable}
    (ht : InterfaceClass.ofOperandType? type = some kind)
    (h : g.interface? kind register = some v) :
    Performs l g (interfacePointer type register)
      (fun p g' => p = ⟨v.variableId, .floatVector, kind.storage⟩ ∧
        l.Holds g'.module p.id (.pointer v.variableId)) M := by
  obtain ⟨hmem, rfl, -⟩ := Generator.interface?_eq_some h
  refine .get_bind ?_
  rw [ht, Option.bind_some, h]
  exact .pure hM ⟨rfl, IsRegisterVariable.holds (hg.interfaces v hmem)⟩

/-- A pointer to the element of a constant buffer that an integer numbers. -/
theorem performs_constantBufferPointer (hg : g.WellFormed) (hM : l.Reaches g.module M)
    {register index : Word} {r : DeclaredResource} {element : Value}
    (h : g.resource? .constantBuffer register = some r)
    (he : l.Denotes g.module element [index]) (hinteger : element.type.scalar.isInteger = true) :
    Performs l g (constantBufferPointer register element)
      (fun p g' => p.value = .floatVector ∧ p.storage = .uniform ∧
        l.Holds g'.module p.id (.element r.variableId index)) M := by
  obtain ⟨hmem, hkind, -⟩ := Generator.resource?_eq_some h
  have hbuffer : l.Holds g.module r.variableId (.pointer r.variableId) :=
    (hg.resources r hmem).holds
  have helement : (element.type.scalar.isInteger && element.type.count == 1) = true := by
    rw [hinteger, he.count]
    rfl
  refine .get_bind ?_
  rw [h]
  simp only [fault_bind]
  rw [if_pos helement]
  have hpointer := Build.declares_pointerTo hg.module .floatVector .uniform
  refine (performs_declare hpointer hM).bind (keeps_build hg hpointer.builds)
    fun pointerType g₁ hc₁ hg₁ _ _ hM₁ => ?_
  have hmember := Build.declares_scalarConstant hg₁.module .uint32 0
  refine (performs_declare hmember hM₁).bind (keeps_build hg₁ hmember.builds)
    fun member g₂ hc₂ hg₂ hmember _ hM₂ => ?_
  refine (performs_body hg₂ hM₂ fun m hm _ _ hM₃ =>
    yields_emitValue (d := .element r.variableId index) hM₃ rfl
      fun hgrows id s hs _ => ?_).bind_pure fun id g₃ hid => ⟨rfl, rfl, hid⟩
  have hc := hc₁.continues.trans (hc₂.continues.trans hm)
  obtain ⟨memberType, -, hmember⟩ := hmember
  exact State.eval_accessChain ((hbuffer.mono hc.toGrows) hgrows s hs)
    (State.lanes_of_values (Launch.holds_constant (hm.globals.subset hmember) hgrows s hs))
    ((he.mono hc.toGrows).lanes hgrows hs)

/-! ## Loads and stores -/

/-- A load stands for what the memory holds. -/
theorem performs_load (hg : g.WellFormed) (hM : l.Reaches g.module M) {p : Pointer} {d : Datum P}
    {xs : List Word} (hp : l.Holds g.module p.id d) (hd : M.read d = some (.lanes xs))
    (hcount : p.value.count = xs.length) :
    Performs l g (load p) (fun v g' => v.type = p.value ∧ l.Denotes g'.module v xs) M :=
  (performs_emit hg hM rfl fun hgrows id s hs hM =>
    State.eval_load (hp hgrows s hs) (by rw [hM, hd])).imp fun v g' h =>
      ⟨h.1, by rw [h.1, hcount], h.2⟩

/-- The merged value of a store that leaves components alone stands for the merged register. -/
theorem performs_merge (hg : g.WellFormed) (hM : l.Reaches g.module M) {p : Pointer}
    {previous v : Value} {mask : ComponentMask} {old : Nat → Word} {xs : List Word}
    (hp : p.value = .floatVector) (hold : l.Denotes g.module previous (fourLanes old))
    (hv : l.Denotes g.module v xs) (hwidth : xs.length = 4 ∨ xs.length = mask.components.length) :
    Performs l g (merge p previous v mask)
      (fun w g' => w.type = .floatVector ∧
        l.Denotes g'.module w (fourLanes (merged mask old (stored mask xs)))) M := by
  obtain ⟨id, value, storage⟩ := p
  simp only at hp
  subst hp
  have hle := mask.length_components_le
  simp only [merge]
  split
  · next hone =>
    have hlength : xs.length = mask.components.length := by
      have := hv.count
      omega
    obtain ⟨i, hi⟩ := List.length_eq_one_iff.1 (hlength.symm.trans (hv.count.symm.trans hone))
    have hlt : i < 4 := ComponentMask.lt_of_mem_components (hi ▸ List.mem_singleton_self i)
    have hword : (UInt32.ofNat i).toNat = i := by
      rw [UInt32.toNat_ofNat']
      exact Nat.mod_eq_of_lt (by omega)
    rw [← map_stored hlength, hi] at hv
    refine (performs_emit (d := .lanes (fourLanes (merged mask old (stored mask xs)))) hg hM rfl
      fun hgrows id s hs _ => ?_).imp fun w g' h => ⟨h.1, by rw [h.1]; rfl, h.2⟩
    rw [ComponentMask.first?, hi, List.head?_cons, Option.getD_some,
      State.eval_insert (hv.lanes hgrows hs) (hold.lanes hgrows hs) (by rw [hword]; exact hlt),
      hword, set_fourLanes hi]
  · next hmany =>
    refine (performs_emit (d := .lanes (fourLanes (merged mask old (stored mask xs)))) hg hM rfl
      fun hgrows id s hs _ => ?_).imp fun w g' h => ⟨h.1, by rw [h.1]; rfl, h.2⟩
    have hpick : pick (fourLanes old ++ xs)
        (mergeLanes 4 mask (v.type.count == ValueType.floatVector.count)) =
          fourLanes (merged mask old (stored mask xs)) := by
      by_cases hfour : xs.length = 4
      · rw [← pick_mergeLanes_positional, fourLanes_stored hfour, hv.count, hfour]
        rfl
      · have hpacked : (v.type.count == ValueType.floatVector.count) = false :=
          beq_false_of_ne fun h => hfour (hv.count.symm.trans h)
        rw [← pick_mergeLanes_packed, map_stored (hwidth.resolve_left hfour), hpacked]
    rw [← hpick]
    refine State.eval_shuffle (hold.lanes hgrows hs) (hv.lanes hgrows hs)
      (mapM_getElem?_eq_pick _ _ ?_ fun i hi => ?_)
    · rw [List.length_append, length_fourLanes]
      omega
    · rw [List.length_append, length_fourLanes]
      refine lt_of_mem_mergeLanes ?_ hi
      split
      · next hfour => exact hv.count.symm.trans (beq_iff_eq.1 hfour)
      · next hpacked =>
        exact hwidth.resolve_left fun h => hpacked (beq_iff_eq.2 (hv.count.trans h))

/-- A store replaces the masked components of a register and leaves the others alone. -/
theorem performs_store (hg : g.WellFormed) (hM : l.Reaches g.module M) {p : Pointer} {id : Word}
    {v : Value} {mask : ComponentMask} {old : Nat → Word} {xs : List Word}
    (hp : g.module.HasPointer p) (hw : p.storage.isWritable = true)
    (hid : l.Holds g.module p.id (.pointer id)) (hold : M id = .lanes (fourLanes old))
    (hv : g.module.HasValue v) (hs : v.type.scalar = .float32) (hx : l.Denotes g.module v xs)
    (hpos : 1 ≤ mask.components.length)
    (hwidth : xs.length = 4 ∨ xs.length = mask.components.length) :
    Performs l g (store p v mask) (fun _ _ => True)
      (M.write id (.lanes (fourLanes (merged mask old (stored mask xs))))) := by
  have hcount : v.type.count = p.value.count ∨ v.type.count = mask.count := by
    rw [hp.value, hx.count]
    exact hwidth
  have hfits : maskFits mask p.value.count = true := by
    rw [hp.value]
    exact maskFits_iff.2 ⟨hpos, fun i hi => ComponentMask.lt_of_mem_components hi⟩
  simp only [store, fault_bind]
  rw [if_pos hw, if_neg (not_not_intro (by rw [hp.value]; exact hs)), if_pos hfits,
    if_neg fun h => hcount.elim h.1 h.2]
  split
  · next hall =>
    obtain ⟨hfour, hmask⟩ := hall
    rw [hp.value] at hfour hmask
    have hlanes : l.Holds g.module v.id (.lanes (fourLanes (merged mask old (stored mask xs)))) := by
      rw [hmask]
      change l.Holds g.module v.id (.lanes (fourLanes (merged (.firstN 4) old _)))
      rw [fourLanes_merged_firstN, fourLanes_stored (hx.count.symm.trans hfour)]
      exact hx.holds
    exact performs_body (Q := fun _ _ => True) hg hM fun m hm _ _ hM' =>
      yields_emitStore hM' (hid.mono hm.toGrows) (hlanes.mono hm.toGrows)
  · have hread : M.read (.pointer id) = some (.lanes (fourLanes old)) := congrArg some hold
    refine (performs_load hg hM hid hread (by rw [hp.value]; rfl)).bind (keeps_load hg hp)
      fun previous g₁ hc₁ hg₁ hprevious hold₁ hM₁ => ?_
    have hv₁ := hv.mono hc₁.continues
    refine (performs_merge hg₁ hM₁ hp.value hold₁.2 (hx.mono hc₁.module) hwidth).bind
      (keeps_merge hg₁ hp.value hprevious.2 hprevious.1 hv₁ (by rw [hp.value]; exact hs) hfits
        hcount) fun w g₂ hc₂ hg₂ _ hw₂ hM₂ => ?_
    have hid₂ := hid.mono (hc₁.trans hc₂).module
    exact performs_body (Q := fun _ _ => True) hg₂ hM₂ fun m hm _ _ hM' =>
      yields_emitStore hM' (hid₂.mono hm.toGrows) (hw₂.2.holds.mono hm.toGrows)

end Generate

end ShaderLowering
