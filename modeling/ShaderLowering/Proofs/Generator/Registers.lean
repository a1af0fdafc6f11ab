import ShaderLowering.Generator.Register
import ShaderLowering.Proofs.Generator.Invariant

/-!
# Registers and components are typed

The operations on pointers, components, loads and stores keep the generator well-formed, and what
they return are values and pointers of the module.
-/

namespace ShaderLowering

open Spirv

/-- A type is known by its components and their number. -/
theorem ValueType.eq_mk {t : ValueType} {s : ScalarType} {n : Nat} (hs : t.scalar = s)
    (hn : t.count = n) : t = ⟨s, n⟩ := by
  rw [← hs, ← hn]

/-! ## Masks -/

namespace ComponentMask

/-- A mask has at most four components. -/
theorem length_components_le (m : ComponentMask) : m.components.length ≤ 4 :=
  List.length_filter_le ..

theorem lt_of_mem_components {m : ComponentMask} {i : Nat} (h : i ∈ m.components) : i < 4 := by
  have hmem := (List.mem_filter.1 h).1
  simp only [List.mem_cons, List.not_mem_nil, or_false] at hmem
  omega

end ComponentMask

/-! ## Look-ups -/

namespace Generator

variable {g : Generator}

theorem resource?_eq_some {kind : ResourceClass} {register : Word} {r : DeclaredResource}
    (h : g.resource? kind register = some r) :
    r ∈ g.resources ∧ r.form.kind = kind ∧ r.register = register := by
  have hp := List.find?_some h
  simp only [Bool.and_eq_true, beq_iff_eq] at hp
  exact ⟨List.mem_of_find?_eq_some h, hp⟩

theorem interface?_eq_some {kind : InterfaceClass} {register : Word} {v : InterfaceVariable}
    (h : g.interface? kind register = some v) :
    v ∈ g.interfaces ∧ v.kind = kind ∧ v.register = register := by
  have hp := List.find?_some h
  simp only [Bool.and_eq_true, beq_iff_eq] at hp
  exact ⟨List.mem_of_find?_eq_some h, hp⟩

end Generator

/-- A global instruction with a result type has its type wherever it can be used. -/
theorem Spirv.Module.has_of_mem {m : Module} {op : Op} {type id : Word} {operands : List Word}
    (h : ⟨op, some type, some id, operands⟩ ∈ m.globals.toList) : Has m.known m.block id type :=
  ⟨_, List.mem_append_left _ (m.globals_subset_known h), rfl, rfl⟩

/-- A variable of a register is a pointer to four components. -/
theorem IsRegisterVariable.hasPointer {m : Module} {storage : Storage} {id : Word}
    (h : IsRegisterVariable m.globals.toList storage id) :
    m.HasPointer ⟨id, .floatVector, storage⟩ := by
  obtain ⟨pointee, type, hpointee, htype, hid⟩ := h
  exact ⟨rfl, pointee, hpointee, type, htype.isPointerType m.globals_subset_known,
    Module.has_of_mem hid⟩

theorem IsResourceVariable.pointsTo {m : Module} {storage : Storage} {pointee id : Word}
    (h : IsResourceVariable m.globals.toList storage pointee id) :
    PointsTo m.known m.block id storage.spirvClass pointee := by
  obtain ⟨type, htype, hid⟩ := h
  exact ⟨type, htype.isPointerType m.globals_subset_known, Module.has_of_mem hid⟩

namespace Generate

variable {g : Generator}

/-! ## Constants -/

theorem keeps_constantScalar (hg : g.WellFormed) (scalar : ScalarType) (bits : Word) :
    Keeps g (constantScalar scalar bits) fun v g' =>
      v.type = ⟨scalar, 1⟩ ∧ g'.module.HasValue v := by
  refine (keeps_build hg (Build.declares_scalarConstant hg.module scalar bits).builds).bind
    fun id g' _ hg' hid => ?_
  obtain ⟨t, ht, hmem⟩ := hid
  exact .pure hg' ⟨rfl, Nat.le_refl 1, Nat.le_add_left 1 3, t, ⟨t, ht, by rw [if_pos rfl]⟩,
    Module.has_of_mem hmem⟩

/-- Constants of one type, one after the other. -/
theorem declares_mapM_constant {m : Module} (hm : m.WellFormed) {s : ScalarType} {type : Word}
    (ht : ScalarId m.globals.toList s type) (bits : List Word) :
    Declares m (bits.mapM (Build.constant type)) fun parts m' =>
      parts.length = bits.length ∧
      ∀ x ∈ parts.zip bits, ⟨.constant, some type, some x.1, [x.2]⟩ ∈ m'.globals.toList := by
  induction bits generalizing m with
  | nil =>
    rw [List.mapM_nil]
    exact .pure hm ⟨rfl, fun _ hx => by cases hx⟩
  | cons b bits ih =>
    rw [List.mapM_cons]
    refine (Build.declares_constant hm ht b).bind fun id m' hgrows hm' hid => ?_
    have hrest := ih hm' (ht.mono hgrows.globals)
    refine hrest.bind fun parts m'' hgrows' hm'' hparts => .pure hm'' ?_
    refine ⟨by rw [List.length_cons, List.length_cons, hparts.1], fun x hx => ?_⟩
    rcases List.mem_cons.1 hx with rfl | hx
    · exact hgrows'.globals.subset hid
    · exact hparts.2 x hx

/-- A composite constant, and the constants that are its parts. -/
theorem declares_constantVector {m : Module} (hm : m.WellFormed) (scalar : ScalarType)
    (bits : List Word) :
    Declares m (do
      let scalarType ← scalar.build
      let parts ← bits.mapM (Build.constant scalarType)
      Build.constantComposite (← (ValueType.mk scalar bits.length).build) parts) fun id m' =>
      ∃ t parts, TypeId m'.globals.toList ⟨scalar, bits.length⟩ t ∧
        ⟨.constantComposite, some t, some id, parts⟩ ∈ m'.globals.toList ∧
        parts.length = bits.length ∧
        ∀ x ∈ parts.zip bits, ∃ type,
          ⟨.constant, some type, some x.1, [x.2]⟩ ∈ m'.globals.toList := by
  refine (Build.declares_scalar hm scalar).bind fun s m₁ _ hm₁ hs => ?_
  refine (declares_mapM_constant hm₁ hs bits).bind fun parts m₂ _ hm₂ hparts => ?_
  refine (Build.declares_type hm₂ _).bind fun t m₃ hgrows hm₃ ht => ?_
  have hmem (p : Word) (hp : p ∈ parts) :
      ∃ s bits, ⟨.constant, some s, some p, [bits]⟩ ∈ m₃.globals.toList := by
    obtain ⟨i, hi, rfl⟩ := List.mem_iff_getElem.1 hp
    have hbits : i < bits.length := hparts.1 ▸ hi
    have hzip : (parts[i], bits[i]) ∈ parts.zip bits :=
      List.mem_iff_getElem.2 ⟨i, by rw [List.length_zip]; omega, List.getElem_zip⟩
    exact ⟨s, _, hgrows.globals.subset (hparts.2 _ hzip)⟩
  have hcomposite := Build.declares_constantComposite hm₃ ht.mem_results hmem
  exact ⟨hcomposite.grows, hcomposite.body, hcomposite.wellFormed, t, parts,
    ht.mono hcomposite.grows.globals, hcomposite.result, hparts.1, fun x hx =>
      ⟨s, hcomposite.grows.globals.subset (hgrows.globals.subset (hparts.2 x hx))⟩⟩

theorem keeps_constantVector (hg : g.WellFormed) (scalar : ScalarType) {bits : List Word}
    (hpos : 1 ≤ bits.length) (hfour : bits.length ≤ 4) :
    Keeps g (constantVector scalar bits) fun v g' =>
      v.type = ⟨scalar, bits.length⟩ ∧ g'.module.HasValue v := by
  refine (keeps_build hg (declares_constantVector hg.module scalar bits).builds).bind
    fun id g' _ hg' hid => ?_
  obtain ⟨t, parts, ht, hmem, -, -⟩ := hid
  exact .pure hg' ⟨rfl, hpos, hfour, t, ht, Module.has_of_mem hmem⟩

/-! ## Pointers -/

theorem keeps_tempPointer (hg : g.WellFormed) (register : Word) :
    Keeps g (tempPointer register) fun p g' => g'.module.HasPointer p := by
  refine .get_bind ?_
  split
  · next id hid =>
    have hmem : id ∈ g.temps.toList := Array.mem_toList_iff.2 (Array.mem_of_getElem? hid)
    exact .pure hg (hg.temps id hmem).hasPointer
  · exact keeps_fault hg

theorem keeps_interfacePointer (hg : g.WellFormed) (type : OperandType) (register : Word) :
    Keeps g (interfacePointer type register) fun p g' => g'.module.HasPointer p := by
  refine .get_bind ?_
  split
  · next v hv =>
    obtain ⟨kind, -, hv⟩ := Option.bind_eq_some_iff.1 hv
    exact .pure hg (hg.interfaces v (Generator.interface?_eq_some hv).1).hasPointer
  · exact keeps_fault hg

theorem keeps_constantBufferPointer (hg : g.WellFormed) (register : Word) {element : Value}
    (he : g.module.HasValue element) :
    Keeps g (constantBufferPointer register element) fun p g' => g'.module.HasPointer p := by
  refine .get_bind ?_
  split
  · next buffer hbuffer =>
    obtain ⟨hmem, hkind, -⟩ := Generator.resource?_eq_some hbuffer
    have hsound := hg.resources buffer hmem
    obtain ⟨bufferRegister, slot, variableId, form⟩ := buffer
    cases form with
    | image | sampler => cases hkind
    | constantBuffer =>
      obtain ⟨vector, array, length, block, hvector, harray, hblock, hvariable⟩ := hsound
      simp only [fault_bind]
      split
      · next helement =>
        simp only [Bool.and_eq_true, beq_iff_eq] at helement
        obtain ⟨hinteger, hone⟩ := helement
        refine (keeps_build hg (Build.declares_pointerTo hg.module .floatVector .uniform).builds).bind
          fun pointerType g₁ hc₁ hg₁ hpointer => ?_
        refine (keeps_build hg₁
          (Build.declares_scalarConstant hg₁.module .uint32 0).builds).bind
          fun member g₂ hc₂ hg₂ hmember => ?_
        obtain ⟨pointee, hpointee, hpointer⟩ := hpointer
        obtain ⟨memberType, hmemberType, hmember⟩ := hmember
        refine (keeps_body (P := fun id m => TypeId m.globals.toList .floatVector pointee ∧
          PointsTo m.known m.block id .uniform pointee) hg₂ fun m hm hmw ho => ?_).bind
          fun id g₃ _ hg₃ hid => .pure hg₃ ⟨rfl, pointee, hid⟩
        have hc := hc₁.continues.trans (hc₂.continues.trans hm)
        have hpointee' := TypeId.mono hpointee (hc₂.continues.trans hm).globals
        have hpointer' := PointerId.mono hpointer (hc₂.continues.trans hm).globals
        obtain rfl := (hvector.mono hc.globals).unique hpointee'
        obtain ⟨hpos, hfour, t, ht, hhas⟩ := he.mono hc
        have hemit := Build.builds_emitValue hmw ho (fun id => by simp [Inst.IsInner]) fun id =>
          Typed.accessChain ((hvariable.mono hc.globals).pointsTo)
            ⟨array, length, hpointee'.isType m.globals_subset_known (by decide) (by decide),
              m.globals_subset_known (hc.globals.subset harray),
              m.globals_subset_known (hc.globals.subset hblock)⟩
            (m.globals_subset_known (hm.globals.subset hmember))
            ((hmemberType.mono hm.globals).isScalar m.globals_subset_known) hhas
            (hone ▸ ht.isType m.globals_subset_known hpos hfour) hinteger
            (hpointer'.isPointerType m.globals_subset_known)
        exact ⟨hemit.continues, hemit.opened, hemit.wellFormed,
          hpointee'.mono hemit.continues.globals, _,
          (hpointer'.mono hemit.continues.globals).isPointerType (Module.globals_subset_known _),
          hemit.result⟩
      · exact keeps_fault hg
  · exact keeps_fault hg

/-! ## Components -/

/-- Selected components of a value are a value. -/
theorem keeps_selectLanes (hg : g.WellFormed) {v : Value} (hv : g.module.HasValue v)
    {lanes : List Nat} (hpos : 1 ≤ lanes.length) (hfour : lanes.length ≤ 4)
    (hlanes : ∀ i ∈ lanes, i < v.type.count) :
    Keeps g (selectLanes v lanes) fun w g' =>
      w.type = ⟨v.type.scalar, lanes.length⟩ ∧ g'.module.HasValue w := by
  have hword (i : Nat) (hi : i ∈ lanes) : (UInt32.ofNat i).toNat = i := by
    have := hlanes i hi
    have := hv.atMostFour
    rw [UInt32.toNat_ofNat']
    exact Nat.mod_eq_of_lt (by omega)
  simp only [selectLanes]
  split
  · next h =>
    obtain ⟨hone, hlength⟩ := h
    refine .pure hg ⟨?_, hv⟩
    rw [hlength, ← hone]
  · next hmany =>
    split
    · next hone =>
      refine keeps_emit hg hpos hfour (fun t id => by simp [Inst.IsInner]) fun m t id hc ht hty => ?_
      obtain ⟨hp, hf, part, hpart, hhas⟩ := hv.mono hc
      have hlength : (lanes.map fun _ => v.id).length = lanes.length := List.length_map ..
      refine .compositeConstruct (by omega) (fun p hp => ?_)
        (ValueType.eq_mk rfl hone ▸ hpart.isType m.globals_subset_known hp hf)
        (hlength.symm ▸ hty)
      obtain ⟨_, _, rfl⟩ := List.mem_map.1 hp
      exact hhas
    · next hwide =>
      have htwo : 2 ≤ v.type.count := by
        have := hv.positive
        omega
      split
      · next hone =>
        obtain ⟨lane, rfl⟩ := List.length_eq_one_iff.1 hone
        have hlane := List.mem_singleton_self lane
        refine keeps_emit hg hpos hfour (fun t id => by simp [Inst.IsInner])
          fun m t id hc ht hty => ?_
        obtain ⟨hp, hf, whole, hwhole, hhas⟩ := hv.mono hc
        exact .compositeExtract htwo hhas (hwhole.isType m.globals_subset_known hp hf)
          (by rw [hword lane hlane]; exact hlanes lane hlane) hty
      · next hseveral =>
        refine keeps_emit hg hpos hfour (fun t id => by simp [Inst.IsInner])
          fun m t id hc ht hty => ?_
        obtain ⟨hp, hf, whole, hwhole, hhas⟩ := hv.mono hc
        have hlength : (lanes.map UInt32.ofNat).length = lanes.length := List.length_map ..
        have hwholeType := hwhole.isType m.globals_subset_known hp hf
        refine .vectorShuffle htwo htwo (by omega) hhas hwholeType hhas hwholeType
          (fun lane hlane => ?_) (hlength.symm ▸ hty)
        obtain ⟨i, hi, rfl⟩ := List.mem_map.1 hlane
        rw [hword i hi]
        exact Nat.lt_add_right _ (hlanes i hi)

/-- The same bits as another type are a value. -/
theorem keeps_cast (hg : g.WellFormed) {v : Value} (hv : g.module.HasValue v)
    (scalar : ScalarType) :
    Keeps g (cast v scalar) fun w g' =>
      w.type = v.type.withScalar scalar ∧ g'.module.HasValue w := by
  simp only [cast]
  split
  · next h => exact .pure hg ⟨by rw [ValueType.withScalar, ← h], hv⟩
  · refine keeps_emit hg hv.positive hv.atMostFour (fun t id => by simp [Inst.IsInner])
      fun m t id hc ht hty => ?_
    obtain ⟨hp, hf, source, hsource, hhas⟩ := hv.mono hc
    exact .bitcast hhas (hsource.isType m.globals_subset_known hp hf) hty

/-- What a mask that fits says about its components. -/
theorem maskFits_iff {mask : ComponentMask} {count : Nat} :
    maskFits mask count = true ↔
      1 ≤ mask.components.length ∧ ∀ i ∈ mask.components, i < count := by
  simp [maskFits, ComponentMask.isEmpty, Nat.succ_le_iff, List.length_pos_iff]

theorem components_firstN {n : Nat} (h : n ≤ 4) :
    (ComponentMask.firstN n).components = List.range n := by
  match n, h with
  | 0, _ | 1, _ | 2, _ | 3, _ | 4, _ => rfl

/-- Masked components of a value are a value. -/
theorem keeps_extract (hg : g.WellFormed) {v : Value} (hv : g.module.HasValue v)
    (mask : ComponentMask) :
    Keeps g (extract v mask) fun w g' =>
      w.type = ⟨v.type.scalar, mask.count⟩ ∧ g'.module.HasValue w := by
  simp only [extract, fault_bind]
  split
  · next hfits =>
    obtain ⟨hpos, hlt⟩ := maskFits_iff.1 hfits
    split
    · next hall =>
      refine .pure hg ⟨?_, hv⟩
      rw [ComponentMask.count, hall, components_firstN hv.atMostFour, List.length_range]
    · exact keeps_selectLanes hg hv hpos mask.length_components_le hlt
  · exact keeps_fault hg

/-- Swizzled components of a value are a value. -/
theorem keeps_swizzle (hg : g.WellFormed) {v : Value} (hv : g.module.HasValue v) (s : Swizzle)
    (mask : ComponentMask) :
    Keeps g (swizzle v s mask) fun w g' =>
      w.type = ⟨v.type.scalar, mask.count⟩ ∧ g'.module.HasValue w := by
  simp only [swizzle, fault_bind]
  split
  · exact keeps_fault hg
  · next hnonempty =>
    split
    · exact keeps_fault hg
    · next hnone =>
      have hpos : 1 ≤ (mask.components.map s.get).length := by
        rw [List.length_map]
        exact List.length_pos_iff.2 (by simpa [ComponentMask.isEmpty] using hnonempty)
      have hlength : (mask.components.map s.get).length = mask.count := List.length_map ..
      split
      · next hall => exact .pure hg ⟨by rw [← hlength, hall.1], hv⟩
      · rw [← hlength]
        refine keeps_selectLanes hg hv hpos ?_ fun i hi => ?_
        · rw [List.length_map]
          exact mask.length_components_le
        · have hall := List.find?_eq_none.1 (Option.eq_none_iff_forall_ne_some.2 hnone) i hi
          simpa using hall

/-- A repeated component is a value. -/
theorem keeps_replicate (hg : g.WellFormed) {v : Value} (hv : g.module.HasValue v) {count : Nat}
    (hpos : 1 ≤ count) (hfour : count ≤ 4) :
    Keeps g (replicate v count) fun w g' =>
      w.type = ⟨v.type.scalar, count⟩ ∧ g'.module.HasValue w := by
  simp only [replicate, fault_bind]
  split
  · exact keeps_fault hg
  · next hone =>
    split
    · next hcount => exact .pure hg ⟨by rw [hcount, ← Decidable.not_not.1 hone], hv⟩
    · have hlength : (List.replicate count 0).length = count := List.length_replicate ..
      have hselect := keeps_selectLanes hg hv (by rwa [hlength]) (by rwa [hlength]) fun i hi => by
        rw [List.eq_of_mem_replicate hi]
        exact hv.positive
      rwa [hlength] at hselect

/-! ## Loads and stores -/

theorem keeps_load (hg : g.WellFormed) {p : Pointer} (hp : g.module.HasPointer p) :
    Keeps g (load p) fun v g' => v.type = p.value ∧ g'.module.HasValue v := by
  have hvalue := hp.value
  refine keeps_emit hg (by rw [hvalue]; decide) (by rw [hvalue]; decide)
    (fun t id => by simp [Inst.IsInner]) fun m t id hc ht hty => ?_
  exact .load ((hp.mono hc).pointsTo ht)

/-- The merged components of a store are old components and components of the stored value. -/
theorem lt_of_mem_mergeLanes {mask : ComponentMask} {positional : Bool} {n lane : Nat}
    (hn : n = if positional then 4 else mask.count) (h : lane ∈ mergeLanes 4 mask positional) :
    lane < 4 + n := by
  simp only [mergeLanes, List.mem_map, List.mem_range] at h
  obtain ⟨i, hi, rfl⟩ := h
  have hmod : i % 256 = i := Nat.mod_eq_of_lt (by omega)
  have hdiv : i / 256 = 0 := Nat.div_eq_of_lt (by omega)
  simp only [hmod, hdiv, Nat.zero_mul, Nat.zero_add]
  split
  · next hcontains =>
    cases positional with
    | true =>
      simp only [if_true] at hn ⊢
      omega
    | false =>
      simp only [Bool.false_eq_true, if_false] at hn ⊢
      -- the component itself is in the mask, and not below itself
      have hmem : i ∈ mask.components := ComponentMask.mem_components.2 hcontains
      have hlt : (mask.components.filter (· < i)).length < mask.components.length :=
        List.length_filter_lt_length_iff_exists.2 ⟨i, hmem, by simp⟩
      rw [hn]
      exact Nat.add_lt_add_left hlt 4
  · omega

/-- The merged value of a store is a value of the type of the register. -/
theorem keeps_merge (hg : g.WellFormed) {p : Pointer} {old v : Value} {mask : ComponentMask}
    (hp : p.value = .floatVector) (hold : g.module.HasValue old) (holdt : old.type = p.value)
    (hv : g.module.HasValue v) (hscalar : v.type.scalar = p.value.scalar)
    (hfits : maskFits mask p.value.count = true)
    (hcount : v.type.count = p.value.count ∨ v.type.count = mask.count) :
    Keeps g (merge p old v mask) fun w g' => w.type = p.value ∧ g'.module.HasValue w := by
  obtain ⟨id, value, storage⟩ := p
  simp only at hp holdt hscalar hcount hfits
  subst hp
  simp only [merge]
  split
  · next hone =>
    refine keeps_emit hg (by decide) (by decide) (fun t id => by simp [Inst.IsInner])
      fun m t id hc ht hty => ?_
    obtain ⟨hpos, hfour, part, hpart, hhas⟩ := hv.mono hc
    have hpartType := hpart.isType m.globals_subset_known hpos hfour
    rw [ValueType.eq_mk hscalar hone] at hpartType
    refine .compositeInsert (by decide) hhas hpartType ((hold.mono hc).has (holdt ▸ ht)) hty ?_
    obtain ⟨hnonempty, hlt⟩ := maskFits_iff.1 hfits
    rw [ComponentMask.first?]
    rcases hcomponents : mask.components with _ | ⟨i, rest⟩
    · rw [hcomponents] at hnonempty
      cases hnonempty
    · have hi := hlt i (by rw [hcomponents]; exact List.mem_cons_self ..)
      rw [List.head?_cons, Option.getD_some, UInt32.toNat_ofNat']
      exact Nat.lt_of_le_of_lt (Nat.mod_le _ _) hi
  · next hmany =>
    refine keeps_emit hg (by decide) (by decide) (fun t id => by simp [Inst.IsInner])
      fun m t id hc ht hty => ?_
    obtain ⟨hpos, hfour, part, hpart, hhas⟩ := hv.mono hc
    have hpartType := hpart.isType m.globals_subset_known hpos hfour
    rw [ValueType.eq_mk hscalar rfl] at hpartType
    refine .vectorShuffle (by decide) (by omega) (by simp [mergeLanes, ValueType.floatVector])
      ((hold.mono hc).has (holdt ▸ ht)) hty hhas hpartType (fun lane hlane => ?_) ?_
    · obtain ⟨i, hi, rfl⟩ := List.mem_map.1 hlane
      rw [UInt32.toNat_ofNat']
      refine Nat.lt_of_le_of_lt (Nat.mod_le _ _) (lt_of_mem_mergeLanes ?_ hi)
      by_cases h4 : v.type.count = 4
      · simp [h4, ValueType.floatVector]
      · rw [if_neg (by simpa [ValueType.floatVector] using h4)]
        exact hcount.resolve_left h4
    · simp only [mergeLanes, List.length_map, List.length_range]
      exact hty

/-- A store keeps the generator well-formed. -/
theorem keeps_store (hg : g.WellFormed) {p : Pointer} (hp : g.module.HasPointer p) {v : Value}
    (hv : g.module.HasValue v) (mask : ComponentMask) :
    Keeps g (store p v mask) fun _ _ => True := by
  simp only [store, fault_bind]
  split
  · split
    · exact keeps_fault hg
    · next hscalar =>
      have hscalar := Decidable.not_not.1 hscalar
      split
      · next hfits =>
        split
        · exact keeps_fault hg
        · next hcount =>
          split
          · next hall =>
            have htype : v.type = p.value := ValueType.eq_mk hscalar hall.1
            refine keeps_body (P := fun _ _ => True) hg fun m hc hm ho => ?_
            obtain ⟨t, ht, hid⟩ := (hv.mono hc).type
            exact Build.builds_emitStore hm ho ((hp.mono hc).pointsTo (htype ▸ ht)) hid
          · refine (keeps_load hg hp).bind fun old g₁ hc₁ hg₁ hold => ?_
            refine (keeps_merge hg₁ hp.value hold.2 hold.1 (hv.mono hc₁.continues) hscalar hfits
              (by omega)).bind fun merged g₂ hc₂ hg₂ hmerged => ?_
            refine keeps_body (P := fun _ _ => True) hg₂ fun m hc hm ho => ?_
            obtain ⟨t, ht, hid⟩ := (hmerged.2.mono hc).type
            have hp' := hp.mono (hc₁.continues.trans (hc₂.continues.trans hc))
            exact Build.builds_emitStore hm ho (hp'.pointsTo (hmerged.1 ▸ ht)) hid
      · exact keeps_fault hg
  · exact keeps_fault hg

end Generate

end ShaderLowering
