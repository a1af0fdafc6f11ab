import ShaderLowering.Proofs.Lowering.Storing

/-!
# Elements of constant buffers

An operand that names an element of a constant buffer is read through an access chain, whose last
operand is the number of the element: the number that the index says plus what its register shows
first, as far as they fit into 32 bits (`Operand.elementNumber_eq`). The register may itself be an
element, so all operands that an operand involves are read in this way (`Lower.finds_load`).
-/

namespace ShaderLowering

open Spirv

variable {P : Platform} {l : Launch P} {E : Environment P} {R : Registers} {M : Memory P}

/-! ## Numbers of elements -/

namespace Operand

/-- Of an element index, as much counts as 32 bits hold. -/
theorem elementNumber_eq (E : Environment P) (R : Registers) (index : IndexOf Operand) :
    elementNumber E R index = UInt32.ofNat index.immediate +
      (index.register?.map fun r => r.component E R .uint32 0).getD 0 := by
  have hwide (high low : Word) : UInt32.ofNat (IndexOf.wide high low) = low := by
    apply UInt32.toNat.inj
    rw [IndexOf.wide, UInt32.toNat_ofNat', Nat.shiftLeft_eq, Nat.mul_add_mod_self_right]
    exact Nat.mod_eq_of_lt low.toNat_lt
  have hcomponent (r : Operand) :
      r.laneValue E R .uint32 (r.shownLane 0) = r.component E R .uint32 0 := rfl
  cases index with
  | imm32 v =>
    rw [elementNumber, IndexOf.immediate, UInt32.ofNat_toNat]
    exact (UInt32.add_zero v).symm
  | imm64 high low =>
    rw [elementNumber, IndexOf.immediate, hwide]
    exact (UInt32.add_zero low).symm
  | relative r =>
    rw [elementNumber, hcomponent]
    exact (UInt32.zero_add _).symm
  | imm32Relative v r =>
    rw [elementNumber, IndexOf.immediate, UInt32.ofNat_toNat, hcomponent]
    exact UInt32.add_comm _ _
  | imm64Relative high low r =>
    rw [elementNumber, IndexOf.immediate, hwide, hcomponent]
    exact UInt32.add_comm _ _

/-- The operands that are read for an operand: the operand itself and, if it names an element, those
that are read for the register of its element index. -/
inductive Involves : Operand → Operand → Prop
  | self (o : Operand) : Involves o o
  | element {o r c : Operand} {index : IndexOf Operand} (ho : o.type = .constantBuffer)
      (hindex : o.indices[1]? = some index) (hr : index.register? = some r) (h : Involves r c) :
      Involves o c

end Operand

/-! ## Access chains -/

/-- The code that a module has grown by takes the address of an element of the only member of a
variable. -/
def Spirv.Launch.Addresses (l : Launch P) (m m' : Module) (variableId number : Word) : Prop :=
  ∃ type id member element,
    m.Emits m' ⟨.accessChain, some type, some id, [variableId, member, element]⟩ ∧
    l.Holds m' member (.lanes [0]) ∧ l.Holds m' element (.lanes [number])

namespace Operand

variable {g₀ g g' g'' : Generator} {o : Operand}

/-- The code that a generator has grown by takes the address of the element that an operand names, in
the constant buffer that it names. -/
def IsAddressed (l : Launch P) (E : Environment P) (R : Registers) (g g' : Generator)
    (c : Operand) : Prop :=
  ∃ buffer index d, c.index32? 0 = some buffer ∧ c.indices[1]? = some index ∧
    g'.resource? .constantBuffer buffer = some d ∧
    l.Addresses g.module g'.module d.variableId (elementNumber E R index)

theorem IsAddressed.mono (h : o.IsAddressed l E R g g') (hg : g₀.Grows g)
    (hg' : g'.Continues g'') : o.IsAddressed l E R g₀ g'' := by
  obtain ⟨buffer, index, d, hbuffer, hindex, hd, type, id, member, element, hemits, hmember,
    helement⟩ := h
  have hgrows := hg'.toGrows.module
  exact ⟨buffer, index, d, hbuffer, hindex, hg'.resource? hd, type, id, member, element,
    hemits.mono hg.module hgrows, hmember.mono hgrows, helement.mono hgrows⟩

/-- The code that a generator has grown by takes the addresses of all elements that an operand
involves. -/
def Addresses (l : Launch P) (E : Environment P) (R : Registers) (g g' : Generator)
    (o : Operand) : Prop :=
  ∀ c, o.Involves c → c.type = .constantBuffer → c.IsAddressed l E R g g'

theorem Addresses.mono (h : o.Addresses l E R g g') (hg : g₀.Grows g) (hg' : g'.Continues g'') :
    o.Addresses l E R g₀ g'' :=
  fun c hc htype => (h c hc htype).mono hg hg'

/-- Registers and numbers involve no elements. -/
theorem addresses_of_ne (h : o.type ≠ .constantBuffer) : o.Addresses l E R g g' := by
  intro c hc htype
  cases hc with
  | self => exact absurd htype h
  | element ho => exact absurd ho h

end Operand

namespace Generate

/-- The address of an element is taken by the id of its number. -/
theorem emits_constantBufferPointer {g g' : Generator} {buffer : Word} {v : Value} {p : Pointer}
    (hg : g.WellFormed) (hrun : (constantBufferPointer buffer v).run g = (.ok p, g')) :
    ∃ d type id member, g.resource? .constantBuffer buffer = some d ∧ v.type.count = 1 ∧
      g.module.Emits g'.module ⟨.accessChain, some type, some id, [d.variableId, member, v.id]⟩ ∧
      l.Holds g'.module member (.lanes [0]) := by
  obtain ⟨_, _, ⟨⟩, hrun⟩ := run_bind_eq_ok.1 hrun
  cases hd : g.resource? .constantBuffer buffer with
  | none =>
    rw [hd] at hrun
    cases hrun
  | some d =>
    simp only [hd, fault_bind] at hrun
    split at hrun
    · next hnumber =>
      rw [Bool.and_eq_true, beq_iff_eq] at hnumber
      obtain ⟨type, g₁, h₁, hrun⟩ := run_bind_eq_ok.1 hrun
      obtain ⟨member, g₂, h₂, hrun⟩ := run_bind_eq_ok.1 hrun
      obtain ⟨id, g₃, h₃, hrun⟩ := run_bind_eq_ok.1 hrun
      cases hrun
      obtain ⟨-, hg₁, -⟩ := (keeps_build hg
        (Build.declares_pointerTo hg.module .floatVector .uniform).builds).of_run h₁
      obtain ⟨-, hg₂, memberType, -, hmember⟩ := (keeps_build hg₁
        (Build.declares_scalarConstant hg₁.module .uint32 0).builds).of_run h₂
      -- neither the type nor the constant adds to the code
      have hbody : g₂.module.body = g.module.body := by
        have hbody₁ := leavesCode_build (Build.leavesCode_pointerTo .floatVector .uniform) g
        have hbody₂ := leavesCode_build (Build.leavesCode_constantU32 0) g₁
        rw [h₁] at hbody₁
        rw [h₂] at hbody₂
        exact hbody₂.trans hbody₁
      obtain ⟨id', hemits⟩ := emits_body .accessChain type [d.variableId, member, v.id] g₂
      rw [h₃] at hemits
      refine ⟨d, type, id', member, rfl, hnumber.2, hemits.of_body hbody, ?_⟩
      have hgrows : g₂.module.Grows g'.module := by
        rw [run_body, run_build] at h₃
        cases h₃
        exact hg₂.opened.1.module.trans (Module.grows_withResult ..)
      exact (Launch.holds_constant hmember).mono hgrows
    · cases hrun

end Generate

namespace Lower

variable {α β : Type} {s : LowerState} {v : Value} {x : Lanes} {o : Operand}

namespace Reads

variable {op : Lower α} {f : α → Lower β} {Q Q' : α → Generator → Prop}
variable {T : β → Generator → Prop}

theorem and (h : Reads l E R M s op Q) (h' : Reads l E R M s op Q') :
    Reads l E R M s op fun a g => Q a g ∧ Q' a g := by
  refine ⟨fun a s' hrun => ?_⟩
  obtain ⟨hc, hs', hQ⟩ := h.of_run a s' hrun
  obtain ⟨-, -, hQ'⟩ := h'.of_run a s' hrun
  exact ⟨hc, hs', hQ, hQ'⟩

theorem continues (h : Reads l E R M s op Q) :
    Reads l E R M s op fun a g => Q a g ∧ s.generator.Continues g := by
  refine ⟨fun a s' hrun => ?_⟩
  obtain ⟨hc, hs', hQ⟩ := h.of_run a s' hrun
  exact ⟨hc, hs', hQ, hc⟩

/-- What the second part of a sequence comes to goes on from what the first part has come to. -/
theorem bind_and (h : Reads l E R M s op Q)
    (hf : ∀ a s', s.generator.Continues s'.generator → Ready l E R M s'.generator →
      Q a s'.generator → Reads l E R M s' (f a) T) :
    Reads l E R M s (op >>= f) fun b g => T b g ∧ ∃ a g₁, Q a g₁ ∧ g₁.Continues g := by
  refine ⟨fun b s' hrun => ?_⟩
  obtain ⟨a, s₁, hop, hrun⟩ := run_bind_eq_ok.1 hrun
  obtain ⟨hc₁, hs₁, hQ⟩ := h.of_run a s₁ hop
  obtain ⟨hc, hs', hT⟩ := (hf a s₁ hc₁ hs₁ hQ).of_run b s' hrun
  exact ⟨hc₁.trans hc, hs', hT, a, s₁.generator, hQ, hc⟩

end Reads

/-! ## Loading elements -/

/-- A pointer to an element is the address of the element that a number says. -/
theorem reads_address (hs : Ready l E R M s.generator) (buffer : Word) {number : Word}
    (hv : Leads l s.generator.module v number) :
    Reads l E R M s (generate (Generate.constantBufferPointer buffer v)) fun _ g => ∃ d,
      g.resource? .constantBuffer buffer = some d ∧
      l.Addresses s.generator.module g.module d.variableId number := by
  obtain ⟨x, hv, -, hnumber⟩ := hv
  refine ⟨fun p s' hrun => ?_⟩
  obtain ⟨hc, hs', -⟩ := (reads_generate hs (Generate.computes_constantBufferPointer buffer v)
    (Generate.keeps_constantBufferPointer hs.wellFormed buffer hv.value)
    (Generate.settles_constantBufferPointer hs.wellFormed hs.reaches buffer hv.value
      hv.shows)).of_run p s' hrun
  obtain ⟨d, type, id, member, hd, hone, hemits, hmember⟩ :=
    Generate.emits_constantBufferPointer (l := l) hs.wellFormed (run_generate_eq_ok hrun).1
  have helement : l.Holds s.generator.module v.id (.lanes x.words) := hv.shows.denotes.holds
  rw [hv.shows.eq_of_count_eq_one hone, hnumber] at helement
  exact ⟨hc, hs', d, hc.resource? hd, type, id, member, v.id, hemits, hmember,
    helement.mono hc.module⟩

/-- An operand is loaded as the components that it shows, and the addresses of all elements that it
involves are taken for that. -/
def IsFound (l : Launch P) (E : Environment P) (R : Registers) (M : Memory P) (o : Operand) : Prop :=
  ∀ (s : LowerState) (mask : ComponentMask) (scalar : ScalarType), Ready l E R M s.generator →
    1 ≤ mask.count → Reads l E R M s (load o mask scalar) fun v g =>
      l.Carries g.module v ⟨scalar, (o.places mask).map (o.component E R scalar)⟩ ∧
      o.Addresses l E R s.generator g

/-- The number that an index stands for is found together with the elements that its register
involves. -/
theorem finds_indexValue (hs : Ready l E R M s.generator) {index : IndexOf Operand}
    (hr : ∀ r, index.register? = some r → IsFound l E R M r) :
    Reads l E R M s (indexValue index) fun v g =>
      Leads l g.module v (Operand.elementNumber E R index) ∧
      ∀ r, index.register? = some r → r.Addresses l E R s.generator g := by
  refine (reads_indexValue hs fun r h s mask scalar hs hpos =>
    (hr r h s mask scalar hs hpos).imp fun _ _ => And.left).and ?_
  have hsum (bits : Word) {r : Operand} (hr : IsFound l E R M r) : Reads l E R M s (do
      let number ← constantIndex bits
      let register ← load r (.single 0) .uint32
      generate (Generate.add register number)) fun _ g => r.Addresses l E R s.generator g := by
    refine (reads_constantScalar hs .uint32 bits).bind fun number s₁ hc₁ hs₁ hn => ?_
    refine ((hr s₁ (.single 0) .uint32 hs₁ (by decide)).bind_and fun v s₂ hc₂ hs₂ hv =>
      reads_add hs₂ hv.1 (hn.mono hc₂.continues)).imp fun w g h => ?_
    obtain ⟨-, v, g₂, ⟨-, hfound⟩, hc⟩ := h
    exact hfound.mono hc₁.toGrows hc
  have hnone {index : IndexOf Operand} (h : index.register? = none) (g : Generator) (r : Operand)
      (hr : index.register? = some r) : r.Addresses l E R s.generator g := by
    rw [h] at hr
    cases hr
  have hsome {index : IndexOf Operand} {r : Operand} {g : Generator} (h : index.register? = some r)
      (hr : r.Addresses l E R s.generator g) (r' : Operand) (hr' : index.register? = some r') :
      r'.Addresses l E R s.generator g := by
    rw [h] at hr'
    cases hr'
    exact hr
  cases index with
  | imm32 v =>
    rw [indexValue]
    exact (reads_constantScalar hs .uint32 v).imp fun _ g _ => hnone rfl g
  | imm64 high low =>
    rw [indexValue]
    exact (reads_constantScalar hs .uint32 low).imp fun _ g _ => hnone rfl g
  | relative r =>
    rw [indexValue]
    exact (hr r rfl s (.single 0) .uint32 hs (by decide)).imp fun _ _ h => hsome rfl h.2
  | imm32Relative v r =>
    rw [indexValue]
    exact (hsum v (hr r rfl)).imp fun _ _ h => hsome rfl h
  | imm64Relative high low r =>
    rw [indexValue]
    exact (hsum low (hr r rfl)).imp fun _ _ h => hsome rfl h

/-- A pointer to an element is the last of the addresses that are taken for an operand. -/
theorem finds_pointer (hs : Ready l E R M s.generator) (htype : o.type = .constantBuffer)
    (hr : ∀ index ∈ o.indices, ∀ r, index.register? = some r → IsFound l E R M r) :
    Reads l E R M s (pointer o (indexValues o.indices)) fun _ g =>
      o.Addresses l E R s.generator g := by
  rw [pointer, htype]
  refine (reads_expectDimension hs 2 _).bind fun _ s₁ hc₁ hs₁ _ => ?_
  refine (reads_plainIndex hs₁ 0 _).bind fun buffer s₂ hc₂ hs₂ hbuffer => ?_
  have helement : Reads l E R M s₂
      ((indexValues o.indices).getD 1 (fault (.indexDimension .constantBuffer o.dimension)))
      fun v g => ∃ index, o.indices[1]? = some index ∧
        Leads l g.module v (Operand.elementNumber E R index) ∧
        ∀ r, index.register? = some r → r.Addresses l E R s₂.generator g := by
    rw [List.getD_eq_getElem?_getD, indexValues_eq, List.getElem?_map]
    cases hindex : o.indices[1]? with
    | none => exact .throw
    | some index =>
      exact (finds_indexValue hs₂ (hr index (List.mem_of_getElem? hindex))).imp fun _ _ h =>
        ⟨index, rfl, h⟩
  refine helement.bind fun v s₃ hc₃ hs₃ hv => ?_
  obtain ⟨index, hindex, hleads, hnested⟩ := hv
  have hbefore := hc₁.trans hc₂
  refine (reads_address hs₃ buffer hleads).continues.imp fun p g h => ?_
  obtain ⟨⟨d, hd, type, id, member, element, hemits, hholds⟩, hc₄⟩ := h
  intro c hinvolved hc
  cases hinvolved with
  | self =>
    refine ⟨buffer, index, d, hbuffer, hindex, hd, type, id, member, element, ?_, hholds⟩
    exact hemits.mono (hbefore.trans hc₃).module (.refl _)
  | element _ hindex' hr' hinvolved =>
    rw [hindex] at hindex'
    cases hindex'
    exact (hnested _ hr' c hinvolved hc).mono hbefore.toGrows hc₄

/-- Every operand is found as it is shown, and with it all elements that it involves. -/
theorem finds_load (o : Operand) : IsFound l E R M o := by
  refine Operand.nested_induction (fun o ih => ?_) o
  intro s mask scalar hs hpos
  refine (reads_load o s mask scalar hs hpos).and ?_
  by_cases htype : o.type = .constantBuffer
  · have hne : o.type ≠ .imm32 := by
      rw [htype]
      decide
    have hpointer := (reads_pointer hs (reads_element fun _ _ r _ => reads_load r)).and
      (finds_pointer hs htype ih)
    -- the value behind the pointer is read without a look at other elements
    have hload : load o mask scalar = pointer o (indexValues o.indices) >>= fun p =>
        loadRegister o (pure p) mask scalar >>= fun v => broadcast v mask := by
      rw [load_eq, if_neg hne]
      simp only [loadRegister, bind_assoc, pure_bind]
    rw [hload]
    refine (hpointer.bind_and fun p s₁ _ hs₁ hp => reads_shown hpos
      (reads_loadRegister hne (.pure hs₁ hp.1) mask scalar)).imp fun v g h => ?_
    obtain ⟨-, p, g₁, ⟨-, hfound⟩, hc⟩ := h
    exact hfound.mono (.refl _) hc
  · exact (reads_load o s mask scalar hs hpos).imp fun _ _ _ => Operand.addresses_of_ne htype

end Lower

end ShaderLowering
