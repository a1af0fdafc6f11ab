import ShaderLowering.Proofs.Generator.Performing

/-!
# What components stand for

The operations that make constants and rearrange components succeed on components that are there, and
what they return stands for the components that they are asked for.
-/

namespace ShaderLowering

open Spirv

/-- Components of a vector side by side. -/
def pick (xs : List Word) (lanes : List Nat) : List Word := lanes.map fun i => xs.getD i 0

theorem length_pick (xs : List Word) (lanes : List Nat) : (pick xs lanes).length = lanes.length :=
  List.length_map ..

theorem getD_of_lt {xs : List Word} {i : Nat} (h : i < xs.length) : xs[i]? = some (xs.getD i 0) := by
  rw [List.getD_eq_getElem?_getD, List.getElem?_eq_getElem h, Option.getD_some]

/-- All components side by side are the vector. -/
theorem pick_range (xs : List Word) : pick xs (List.range xs.length) = xs := by
  refine List.ext_getElem? fun i => ?_
  rw [pick, List.getElem?_map]
  by_cases h : i < xs.length
  · rw [List.getElem?_range h, Option.map_some, getD_of_lt h]
  · rw [List.getElem?_eq_none (Nat.not_lt.1 h), List.getElem?_eq_none, Option.map_none]
    rw [List.length_range]
    exact Nat.not_lt.1 h

/-- The components of a register, picked by number. -/
theorem pick_fourLanes {lanes : List Nat} (h : ∀ i ∈ lanes, i < 4) (component : Nat → Word) :
    pick (fourLanes component) lanes = lanes.map component :=
  List.map_congr_left fun i hi => getD_fourLanes component (h i hi)

/-- Small numbers, written as words, pick the components that they number. -/
theorem mapM_getElem?_eq_pick (xs : List Word) (lanes : List Nat) (hs : xs.length ≤ 8)
    (h : ∀ i ∈ lanes, i < xs.length) :
    (lanes.map UInt32.ofNat).mapM (fun k => xs[k.toNat]?) = some (pick xs lanes) := by
  induction lanes with
  | nil => rfl
  | cons i lanes ih =>
    have hi := h i (List.mem_cons_self ..)
    have hword : (UInt32.ofNat i).toNat = i := by
      rw [UInt32.toNat_ofNat']
      exact Nat.mod_eq_of_lt (by omega)
    rw [List.map_cons, List.mapM_cons, hword, getD_of_lt hi,
      ih fun j hj => h j (List.mem_cons_of_mem _ hj)]
    rfl

namespace Generate

variable {P : Platform} {l : Launch P} {g : Generator} {M : Memory P} {v : Value} {xs : List Word}

/-! ## Constants -/

theorem performs_constantScalar (hg : g.WellFormed) (hM : l.Reaches g.module M)
    (scalar : ScalarType) (bits : Word) :
    Performs l g (constantScalar scalar bits)
      (fun v g' => v.type = ⟨scalar, 1⟩ ∧ l.Denotes g'.module v [bits]) M := by
  refine (performs_declare (Build.declares_scalarConstant hg.module scalar bits) hM).bind_pure
    fun id g' hid => ⟨rfl, rfl, ?_⟩
  obtain ⟨⟨type, -, hmem⟩, -⟩ := hid
  exact Launch.holds_constant hmem

/-- A constant with several components stands for their bits. -/
theorem performs_constantVector (hg : g.WellFormed) (hM : l.Reaches g.module M)
    (scalar : ScalarType) (bits : List Word) :
    Performs l g (constantVector scalar bits)
      (fun v g' => v.type = ⟨scalar, bits.length⟩ ∧ l.Denotes g'.module v bits) M := by
  refine (performs_declare (declares_constantVector hg.module scalar bits) hM).bind_pure
    fun id g' hid => ⟨rfl, rfl, ?_⟩
  obtain ⟨⟨t, parts, -, hmem, hlength, hparts⟩, -⟩ := hid
  exact Launch.holds_composite hlength hmem hparts

/-! ## Components -/

/-- The parts of a composite that repeats a single component are that component. -/
theorem eval_construct_repeated {s : State P} {id v x : Word} (hv : s.lanes v = some [x])
    {lanes : List Nat} (hlanes : ∀ i ∈ lanes, i < 1) :
    s.eval .compositeConstruct id (lanes.map fun _ => v) = some (.lanes (pick [x] lanes)) := by
  have hparts : (lanes.map fun _ => v).mapM s.lanes = some (lanes.map fun _ => [x]) := by
    clear hlanes
    induction lanes with
    | nil => rfl
    | cons lane lanes ih =>
      rw [List.map_cons, List.mapM_cons, hv, ih]
      rfl
  have hflat : (lanes.map fun _ => [x]).flatten = pick [x] lanes := by
    rw [← List.flatMap_def, ← List.map_eq_flatMap (f := fun _ => x)]
    refine List.map_congr_left fun i hi => ?_
    rw [Nat.lt_one_iff.1 (hlanes i hi)]
    rfl
  rw [State.eval_construct hparts, hflat]

/-- A shuffle of a vector with itself picks components of the vector. -/
theorem eval_shuffle_self {s : State P} {id v : Word} (hv : s.lanes v = some xs)
    (hfour : xs.length ≤ 4) {lanes : List Nat} (hlanes : ∀ i ∈ lanes, i < xs.length) :
    s.eval .vectorShuffle id (v :: v :: lanes.map UInt32.ofNat) =
      some (.lanes (pick xs lanes)) := by
  have hpick := mapM_getElem?_eq_pick (xs ++ xs) lanes (by simp; omega)
    fun i hi => by
      have := hlanes i hi
      simp
      omega
  -- the second vector is never reached
  have happend : pick (xs ++ xs) lanes = pick xs lanes := List.map_congr_left fun i hi => by
    rw [List.getD_eq_getElem?_getD, List.getD_eq_getElem?_getD,
      List.getElem?_append_left (hlanes i hi)]
  rw [State.eval_shuffle hv hv hpick, happend]

/-- Selected components of a value stand for the components of what it stands for. -/
theorem performs_selectLanes (hg : g.WellFormed) (hM : l.Reaches g.module M)
    (hv : l.Denotes g.module v xs) (hfour : xs.length ≤ 4) {lanes : List Nat}
    (hlanes : ∀ i ∈ lanes, i < xs.length) :
    Performs l g (selectLanes v lanes)
      (fun w g' => w.type = ⟨v.type.scalar, lanes.length⟩ ∧
        l.Denotes g'.module w (pick xs lanes)) M := by
  have hcount := hv.count
  -- three of the four cases emit an instruction, which has to evaluate to what is picked
  have hemit {op : Spirv.Op} {operands : List Word} (hop : op.computes = true)
      (heval : ∀ (s : State P) id, s.lanes v.id = some xs →
        s.eval op id operands = some (.lanes (pick xs lanes))) :
      Performs l g (emit op ⟨v.type.scalar, lanes.length⟩ operands)
        (fun w g' => w.type = ⟨v.type.scalar, lanes.length⟩ ∧
          l.Denotes g'.module w (pick xs lanes)) M :=
    (performs_emit (d := .lanes (pick xs lanes)) hg hM hop fun hgrows id s hs _ =>
      heval s id (hv.lanes hgrows hs)).imp fun w g' h => ⟨h.1, by rw [h.1, length_pick], h.2⟩
  simp only [selectLanes]
  split
  · next h =>
    obtain ⟨hone, hlength⟩ := h
    obtain ⟨lane, rfl⟩ := List.length_eq_one_iff.1 hlength
    obtain ⟨x, rfl⟩ := List.length_eq_one_iff.1 (hcount ▸ hone)
    have hzero : lane = 0 := Nat.lt_one_iff.1 (hlanes lane (List.mem_singleton_self lane))
    refine .pure hM ⟨ValueType.eq_mk rfl hone, ?_⟩
    rw [hzero]
    exact hv
  · split
    · next hone =>
      obtain ⟨x, rfl⟩ := List.length_eq_one_iff.1 (hcount ▸ hone)
      exact hemit rfl fun s id hs => eval_construct_repeated hs hlanes
    · split
      · next hone =>
        obtain ⟨lane, rfl⟩ := List.length_eq_one_iff.1 hone
        have hlane := hlanes lane (List.mem_singleton_self lane)
        -- the number of the component fits into the instruction
        have hword : (UInt32.ofNat lane).toNat = lane := by
          rw [UInt32.toNat_ofNat']
          exact Nat.mod_eq_of_lt (by omega)
        exact hemit rfl fun s id hs => State.eval_extract hs (by rw [hword, getD_of_lt hlane])
      · exact hemit rfl fun s id hs => eval_shuffle_self hs hfour hlanes

/-- The same bits as another type stand for the same components. -/
theorem performs_cast (hg : g.WellFormed) (hM : l.Reaches g.module M)
    (hv : l.Denotes g.module v xs) (scalar : ScalarType) :
    Performs l g (cast v scalar)
      (fun w g' => w.type = ⟨scalar, xs.length⟩ ∧ l.Denotes g'.module w xs) M := by
  simp only [cast]
  split
  · next h => exact .pure hM ⟨ValueType.eq_mk h hv.count, hv⟩
  · refine (performs_emit (d := .lanes xs) hg hM rfl fun hgrows id s hs _ =>
      State.eval_bitcast (hv.lanes hgrows hs)).imp fun w g' h => ?_
    have htype : w.type = ⟨scalar, xs.length⟩ := h.1.trans (ValueType.eq_mk rfl hv.count)
    exact ⟨htype, by rw [htype], h.2⟩

/-- Masked components of a value stand for the components that the mask names. -/
theorem performs_extract (hg : g.WellFormed) (hM : l.Reaches g.module M)
    (hv : l.Denotes g.module v xs) (hfour : xs.length ≤ 4) {mask : ComponentMask}
    (hpos : 1 ≤ mask.components.length) (hlt : ∀ i ∈ mask.components, i < xs.length) :
    Performs l g (extract v mask)
      (fun w g' => w.type = ⟨v.type.scalar, mask.count⟩ ∧
        l.Denotes g'.module w (pick xs mask.components)) M := by
  have hfits : maskFits mask v.type.count = true := maskFits_iff.2 ⟨hpos, hv.count.symm ▸ hlt⟩
  simp only [extract, fault_bind]
  rw [if_pos hfits]
  split
  · next hall =>
    have hcomponents : mask.components = List.range xs.length := by
      rw [hall, components_firstN (hv.count.symm ▸ hfour), hv.count]
    refine .pure hM ⟨ValueType.eq_mk rfl ?_, ?_⟩
    · rw [ComponentMask.count, hcomponents, List.length_range, hv.count]
    · rw [hcomponents, pick_range]
      exact hv
  · exact performs_selectLanes hg hM hv hfour hlt

/-- Swizzled components of a value stand for the components that feed those of the mask. -/
theorem performs_swizzle (hg : g.WellFormed) (hM : l.Reaches g.module M)
    (hv : l.Denotes g.module v xs) (hfour : xs.length ≤ 4) {s : Swizzle} {mask : ComponentMask}
    (hpos : 1 ≤ mask.components.length) (hlt : ∀ i ∈ mask.components, s.get i < xs.length) :
    Performs l g (swizzle v s mask)
      (fun w g' => w.type = ⟨v.type.scalar, mask.count⟩ ∧
        l.Denotes g'.module w (pick xs (mask.components.map s.get))) M := by
  have hnonempty : mask.isEmpty = false := by
    rw [ComponentMask.isEmpty, List.isEmpty_eq_false_iff]
    exact List.length_pos_iff.1 hpos
  have hlanes : ∀ i ∈ mask.components.map s.get, i < xs.length := by
    intro i hi
    obtain ⟨j, hj, rfl⟩ := List.mem_map.1 hi
    exact hlt j hj
  have hnone : (mask.components.map s.get).find? (v.type.count ≤ ·) = none :=
    List.find?_eq_none.2 fun i hi => by
      have := hlanes i hi
      rw [hv.count]
      simpa using this
  have hlength : (mask.components.map s.get).length = mask.count := List.length_map ..
  simp only [swizzle, fault_bind]
  rw [if_neg (by rw [hnonempty]; exact Bool.false_ne_true)]
  split
  · next lane hlane =>
    rw [hnone] at hlane
    cases hlane
  · split
    · next hall =>
      obtain ⟨hcount, hrange⟩ := hall
      refine .pure hM ⟨ValueType.eq_mk rfl (by rw [← hcount, hlength]), ?_⟩
      rw [hrange, hcount, hv.count, pick_range]
      exact hv
    · rw [← hlength]
      exact performs_selectLanes hg hM hv hfour hlanes

/-- A repeated component stands for its repetition. -/
theorem performs_replicate (hg : g.WellFormed) (hM : l.Reaches g.module M) {x : Word}
    (hv : l.Denotes g.module v [x]) (count : Nat) :
    Performs l g (replicate v count)
      (fun w g' => w.type = ⟨v.type.scalar, count⟩ ∧
        l.Denotes g'.module w (List.replicate count x)) M := by
  have hone : v.type.count = 1 := hv.count
  simp only [replicate, fault_bind]
  rw [if_neg (not_not_intro hone)]
  split
  · next hcount =>
    subst hcount
    exact .pure hM ⟨ValueType.eq_mk rfl hone, hv⟩
  · have hpick : pick [x] (List.replicate count 0) = List.replicate count x := by
      rw [pick, List.map_replicate]
      rfl
    have hlanes : ∀ i ∈ List.replicate count 0, i < [x].length := by
      intro i hi
      rw [List.eq_of_mem_replicate hi]
      exact Nat.one_pos
    have hselect := performs_selectLanes hg hM hv (Nat.le_add_left 1 3) hlanes
    rwa [hpick, List.length_replicate] at hselect

end Generate

end ShaderLowering
