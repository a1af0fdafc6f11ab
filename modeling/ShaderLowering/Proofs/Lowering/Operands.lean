import ShaderLowering.Proofs.Generator.Evaluating
import ShaderLowering.Proofs.Lowering.Coverage
import ShaderLowering.Proofs.Lowering.Soundness

/-!
# What operands stand for

A readable operand is loaded without any fault, and what is loaded stands for what the program reads:
for each masked component what feeds it, after its modifiers. The induction follows the nesting of
operands, as an element of a constant buffer is only found once its number is loaded. A store through
a writable operand writes what the program writes.
-/

namespace ShaderLowering

open Spirv

variable {P : Platform} {l : Launch P} {M : Memory P}

/-! ## Feeding components -/

/-- A value feeds the masked components: it has one component for each of them, or a single one for
all of them. -/
def Spirv.Launch.Feeds (l : Launch P) (m : Module) (v : Value) (mask : ComponentMask)
    (f : Nat → Word) : Prop :=
  l.Denotes m v (mask.components.map f) ∨ l.Denotes m v [f 0] ∧ ∀ i, f i = f 0

/-- A single component is the only one of its mask. -/
theorem ComponentMask.components_single {c : Nat} (h : c < 4) :
    (ComponentMask.single c).components = [c] := by
  match c, h with
  | 0, _ | 1, _ | 2, _ | 3, _ => rfl

namespace Lower

/-! ## Shapes of operands -/

section

variable {o : Operand}

theorem expectType_of_eq {type : OperandType} (h : o.type = type) (role : OperandRole) :
    expectType o type role = pure () := if_neg (not_not_intro h)

theorem expectDimension_of_eq {dimension : Nat} (h : o.dimension = dimension)
    (role : OperandRole) : expectDimension o dimension role = pure () :=
  if_neg (not_not_intro h)

theorem decoded_ok {α : Type} (a : α) : decoded (.ok a) = pure a := rfl

theorem plainIndex_of_index32? {n : Nat} {v : Word} (h : o.index32? n = some v)
    (role : OperandRole) : plainIndex o n role = pure v := by
  obtain ⟨index, hindex, himm⟩ := Option.bind_eq_some_iff.1 h
  have hok : o.index n = .ok index := by rw [Operand.index, hindex]
  cases index with
  | imm32 w =>
    cases himm
    rw [plainIndex, hok, decoded_ok, pure_bind]
  | imm64 | relative | imm32Relative | imm64Relative => cases himm

theorem targetMask_of_writeMask (h : o.writeMask.isEmpty = false) :
    targetMask o = pure o.writeMask := by
  rw [Operand.writeMask] at h ⊢
  rw [targetMask]
  split <;> simp_all [ComponentMask.isEmpty, ComponentMask.components, ComponentMask.empty,
    ComponentMask.contains]

end

/-! ## Steps -/

variable {s : LowerState} {α : Type} {Q : α → Generator → Prop}

/-- An operation of the generator does in a handler what it does alone. -/
theorem performs_generate {op : Generate α} (h : Performs l s.generator op Q M) :
    Performs l s (generate op) Q M := by
  obtain ⟨⟨a, ha, hQ⟩, -, hM⟩ := h
  refine ⟨⟨a, ?_, hQ⟩, rfl, hM⟩
  rw [run_generate, ha]
  rfl

variable {v : Value} {mask : ComponentMask} {f : Nat → Word}

/-- A single component is repeated for all the components that it feeds. -/
theorem performs_broadcast (hs : s.generator.WellFormed) (hM : l.Reaches s.generator.module M)
    (hpos : 1 ≤ mask.count) (hv : l.Feeds s.generator.module v mask f) :
    Performs l s (broadcast v mask) (fun w g => w.type.scalar = v.type.scalar ∧
      l.Denotes g.module w (mask.components.map f)) M := by
  rw [broadcast]
  rcases hv with hv | ⟨hv, hsame⟩
  · have hcount : v.type.count = mask.count := by rw [hv.count, List.length_map]; rfl
    rw [if_neg (by omega)]
    exact .pure hM ⟨rfl, hv⟩
  · have hall : mask.components.map f = List.replicate mask.count (f 0) := by
      rw [List.eq_replicate_iff]
      refine ⟨List.length_map .., fun x hx => ?_⟩
      obtain ⟨i, -, rfl⟩ := List.mem_map.1 hx
      exact hsame i
    rw [hall]
    split
    · exact (performs_generate (Generate.performs_replicate hs hM hv _)).imp fun w g h =>
        ⟨by rw [h.1], h.2⟩
    · next hone =>
      have hcount : mask.count = 1 := by
        have := hv.count
        simp only [List.length_singleton] at this
        omega
      rw [hcount]
      exact .pure hM ⟨rfl, hv⟩

variable {o : Operand} {component : Nat → Word}

/-- The components that an operand selects feed those of a destination. -/
theorem performs_select (hs : s.generator.WellFormed) (hM : l.Reaches s.generator.module M)
    (hpos : 1 ≤ mask.count) (hv : l.Denotes s.generator.module v (fourLanes component))
    (ho : o.selects = true) (hfour : o.token.componentCount = .four) :
    Performs l s (select o v mask) (fun w g => w.type.scalar = v.type.scalar ∧
      l.Feeds g.module w mask fun i => component (o.lane i)) M := by
  rw [select]
  rcases Operand.selects_cases ho with ⟨hc, -⟩ | ⟨swizzle, -, hs', hl⟩ | ⟨c, -, hs', hc, hl⟩
  · rw [hfour] at hc
    cases hc
  · rw [hs']
    refine (performs_generate (Generate.performs_swizzle hs hM hv (Nat.le_refl 4) hpos
      fun i _ => (hl i).2)).imp fun w g h => ⟨by rw [h.1], .inl ?_⟩
    have hlanes : pick (fourLanes component) (mask.components.map swizzle.get) =
        mask.components.map fun i => component (o.lane i) := by
      rw [pick_fourLanes, List.map_map]
      · exact List.map_congr_left fun i _ => by rw [Function.comp_apply, (hl i).1]
      · intro lane hlane
        obtain ⟨i, -, rfl⟩ := List.mem_map.1 hlane
        exact (hl i).2
    rw [← hlanes]
    exact h.2
  · rw [hs']
    have hcomponents := ComponentMask.components_single hc
    refine (performs_generate (Generate.performs_extract hs hM hv (Nat.le_refl 4)
      (by rw [hcomponents]; exact Nat.le_refl 1) fun i hi => ?_)).imp
        fun w g h => ⟨by rw [h.1], .inr ⟨?_, fun i => ?_⟩⟩
    · rw [hcomponents] at hi
      rw [List.mem_singleton.1 hi]
      exact hc
    · have hdenotes := h.2
      rw [hcomponents, pick_fourLanes fun i hi => by rw [List.mem_singleton.1 hi]; exact hc]
        at hdenotes
      dsimp only
      rw [hl 0]
      exact hdenotes
    · dsimp only
      rw [hl i, hl 0]

/-- What is done to each component of a value is done to all that it feeds. -/
theorem performs_map {op : Generate Value} {F : Word → Word}
    (hop : ∀ xs, l.Denotes s.generator.module v xs → Performs l s.generator op
      (fun w g => w.type = v.type ∧ l.Denotes g.module w (xs.map F)) M)
    (hv : l.Feeds s.generator.module v mask f) :
    Performs l s (generate op) (fun w g => w.type.scalar = v.type.scalar ∧
      l.Feeds g.module w mask fun i => F (f i)) M := by
  rcases hv with hv | ⟨hv, hsame⟩
  · refine (performs_generate (hop _ hv)).imp fun w g h => ⟨by rw [h.1], .inl ?_⟩
    have hmap := h.2
    rwa [List.map_map] at hmap
  · exact (performs_generate (hop _ hv)).imp fun w g h =>
      ⟨by rw [h.1], .inr ⟨h.2, fun i => congrArg F (hsame i)⟩⟩

/-- Modifiers work on what a value feeds. -/
theorem performs_applyModifiers (hs : s.generator.WellFormed)
    (hM : l.Reaches s.generator.module M) (hv : s.generator.module.HasValue v)
    (m : OperandModifiers) (hx : l.Feeds s.generator.module v mask f) :
    Performs l s (applyModifiers m v) (fun w g => w.type.scalar = v.type.scalar ∧
      l.Feeds g.module w mask fun i => m.apply P v.type.scalar (f i)) M := by
  have hneg {s : LowerState} {w : Value} {f : Nat → Word} (hs : s.generator.WellFormed)
      (hM : l.Reaches s.generator.module M) (hscalar : w.type.scalar = v.type.scalar)
      (hx : l.Feeds s.generator.module w mask f) :
      Performs l s (if m.neg then generate (Generate.neg w) else pure w)
        (fun w g => w.type.scalar = v.type.scalar ∧ l.Feeds g.module w mask fun i =>
          if m.neg then v.type.scalar.neg P (f i) else f i) M := by
    split
    · rw [← hscalar]
      exact performs_map (fun xs hx => Generate.performs_neg hs hM hx) hx
    · exact .pure hM ⟨hscalar, hx⟩
  rw [applyModifiers]
  simp only [OperandModifiers.apply]
  split
  · refine (performs_map (fun xs hx => Generate.performs_abs hs hM hx) hx).bind
      (keeps_generate (Generate.keeps_abs hs hv)) fun w s₁ _ hs₁ _ hw hM₁ => ?_
    exact hneg hs₁ hM₁ hw.1 hw.2
  · exact hneg hs hM rfl hx

/-! ## Immediate operands -/

theorem immediate_eq_ok {n : Nat} (h : n < o.immediates.length) :
    o.immediate n = .ok (o.immediates.getD n 0) := by
  rw [Operand.immediate, getD_of_lt h]

/-- The components of an immediate operand feed those of a destination. -/
theorem performs_loadImmediate (hs : s.generator.WellFormed)
    (hM : l.Reaches s.generator.module M) (hpos : 1 ≤ mask.count)
    (hlength : o.immediates.length = o.token.immediateCount .imm32)
    (ho : o.token.componentCount = .one ∨ o.token.componentCount = .four) (scalar : ScalarType) :
    Performs l s (loadImmediate o mask scalar) (fun w g => w.type.scalar = scalar ∧
      l.Feeds g.module w mask fun i => o.immediates.getD (o.immediateLane i) 0) M := by
  rcases ho with hc | hc
  · have hone : o.immediates.length = 1 := by rw [hlength, OperandToken.immediateCount, hc]
    have hlane (i : Nat) : o.immediateLane i = 0 := by rw [Operand.immediateLane, hc]
    simp only [loadImmediate, hc, immediate_eq_ok (Nat.lt_of_lt_of_eq Nat.one_pos hone.symm),
      decoded_ok, pure_bind, hlane]
    exact (performs_generate (Generate.performs_constantScalar hs hM scalar _)).imp fun w g h =>
      ⟨by rw [h.1], .inr ⟨h.2, fun _ => rfl⟩⟩
  · have hfour : o.immediates.length = 4 := by rw [hlength, OperandToken.immediateCount, hc]
    have hlane (i : Nat) : o.immediateLane i = i := by rw [Operand.immediateLane, hc]
    have hdecoded : ([0, 1, 2, 3].mapM fun n => decoded (o.immediate n)) =
        (pure o.immediates : Lower (List Word)) := by
      have hword (n : Nat) (h : n < 4) : decoded (o.immediate n) = pure (o.immediates.getD n 0) := by
        rw [immediate_eq_ok (hfour ▸ h), decoded_ok]
      have hall := pick_range o.immediates
      rw [hfour] at hall
      rw [← hall]
      simp only [List.mapM_cons, List.mapM_nil, hword 0 (by omega), hword 1 (by omega),
        hword 2 (by omega), hword 3 (by omega), pure_bind]
      rfl
    simp only [loadImmediate, hc, hdecoded, pure_bind, hlane]
    refine (performs_generate (Generate.performs_constantVector hs hM scalar o.immediates)).bind
      (keeps_generate (Generate.keeps_constantVector hs scalar (by omega) (by omega)))
      fun v s₁ _ hs₁ _ hv hM₁ => ?_
    refine (performs_generate (Generate.performs_extract hs₁ hM₁ hv.2 (by omega) hpos
      fun i hi => ?_)).imp fun w g h => ⟨by rw [h.1, hv.1], .inl h.2⟩
    rw [hfour]
    exact ComponentMask.lt_of_mem_components hi

/-! ## Registers -/

variable {g₀ : Generator} {E : Environment P} {R : Registers}

/-- A pointer to the declared register that an operand names. -/
theorem performs_pointer (hs : s.generator.WellFormed) (hM : l.Reaches s.generator.module M)
    (hgrows : g₀.Grows s.generator) {r : Register} {id : Word} (hr : o.register? = some r)
    (hid : g₀.registerId? r = some id) (elements : List (Lower Value)) :
    Performs l s (pointer o elements) (fun p g => p = ⟨id, .floatVector, r.storage⟩ ∧
      l.Holds g.module p.id (.pointer id)) M := by
  have hid' := hgrows.registerId? hid
  rw [Operand.register?] at hr
  split at hr
  · next hdimension =>
    rw [pointer]
    split at hr
    · next n htype hn =>
      cases hr
      rw [htype]
      simp only [expectDimension_of_eq hdimension, plainIndex_of_index32? hn, pure_bind]
      exact performs_generate (Generate.performs_tempPointer hs hM hid')
    · next n htype hn =>
      cases hr
      obtain ⟨v, hv, rfl⟩ := Option.map_eq_some_iff.1 hid'
      rw [htype, hdimension]
      simp only [plainIndex_of_index32? hn, pure_bind]
      exact performs_generate (Generate.performs_interfacePointer hs hM rfl hv)
    · next n htype hn =>
      cases hr
      obtain ⟨v, hv, rfl⟩ := Option.map_eq_some_iff.1 hid'
      rw [htype, hdimension]
      simp only [plainIndex_of_index32? hn, pure_bind]
      exact performs_generate (Generate.performs_interfacePointer hs hM rfl hv)
    · cases hr
  · cases hr

/-- A pointer to the element of a declared constant buffer that the second index numbers. -/
theorem performs_elementPointer (hgrows : g₀.Grows s.generator)
    (htype : o.type = .constantBuffer) (hdimension : o.dimension = 2) {n index : Word}
    {d : DeclaredResource} (hn : o.index32? 0 = some n)
    (hd : g₀.resource? .constantBuffer n = some d) {elements : List (Lower Value)}
    {element : Lower Value} (helement : elements[1]? = some element)
    (hk : Keeps s element fun v g => g.module.HasValue v)
    (hp : Performs l s element (fun v g => v.type.scalar = .uint32 ∧
      l.Denotes g.module v [index]) M) :
    Performs l s (pointer o elements) (fun p g => p.value = .floatVector ∧
      l.Holds g.module p.id (.element d.variableId index)) M := by
  have hget (e : Lower Value) : elements.getD 1 e = element := by
    rw [List.getD_eq_getElem?_getD, helement, Option.getD_some]
  rw [pointer, htype]
  simp only [expectDimension_of_eq hdimension, plainIndex_of_index32? hn, pure_bind, hget]
  refine hp.bind hk fun v s₁ hc₁ hs₁ _ hv hM₁ => performs_generate ?_
  have hd' := (hgrows.trans hc₁.toGrows).resource? hd
  exact (Generate.performs_constantBufferPointer hs₁ hM₁ hd' hv.2 (by rw [hv.1]; rfl)).imp
    fun _ _ h => ⟨h.1, h.2.2⟩

/-- The selected components of a register, with modifiers, feed those of a destination. -/
theorem performs_loadRegister {pointer : Lower Pointer}
    (hk : Keeps s pointer fun p g => g.module.HasPointer p)
    (hp : Performs l s pointer (fun p g => p.value = .floatVector ∧ ∃ d,
      l.Holds g.module p.id d ∧ M.read d = some (.lanes (fourLanes component))) M)
    (hpos : 1 ≤ mask.count) (ho : o.selects = true) (scalar : ScalarType) :
    Performs l s (loadRegister o pointer mask scalar) (fun w g => w.type.scalar = scalar ∧
      l.Feeds g.module w mask fun i =>
        o.modifiers.apply P scalar (component (o.lane i))) M := by
  refine hp.bind hk fun p s₁ _ hs₁ hp hload hM₁ => ?_
  obtain ⟨hvalue, d, hd, hread⟩ := hload
  refine (performs_generate (Generate.performs_load hs₁ hM₁ hd hread (by rw [hvalue]; rfl))).bind
    (keeps_generate (Generate.keeps_load hs₁ hp)) fun v s₂ _ hs₂ hv hx hM₂ => ?_
  refine (performs_generate (Generate.performs_cast hs₂ hM₂ hx.2 scalar)).bind
    (keeps_generate (Generate.keeps_cast hs₂ hv.2 scalar)) fun v s₃ _ hs₃ hv hx hM₃ => ?_
  have hscalar : v.type.scalar = scalar := by rw [hx.1]
  have hmodified (s₄ : LowerState) (w : Value) (hs₄ : s₄.generator.WellFormed)
      (hM₄ : l.Reaches s₄.generator.module M) (hw : s₄.generator.module.HasValue w)
      (hws : w.type.scalar = v.type.scalar)
      (hy : l.Feeds s₄.generator.module w mask fun i => component (o.lane i)) :
      Performs l s₄ (applyModifiers o.modifiers w) (fun w g => w.type.scalar = scalar ∧
        l.Feeds g.module w mask fun i =>
          o.modifiers.apply P scalar (component (o.lane i))) M := by
    rw [← hscalar, ← hws]
    exact performs_applyModifiers hs₄ hM₄ hw o.modifiers hy
  rcases Operand.selects_cases ho with ⟨hc, hl⟩ | ⟨swizzle, hc, -, -⟩ | ⟨c, hc, -, -, -⟩
  · rw [hc]
    have hsingle : ∀ i ∈ (ComponentMask.single 0).components, i < 4 := fun i hi =>
      ComponentMask.lt_of_mem_components hi
    refine (performs_generate (Generate.performs_extract hs₃ hM₃ hx.2 (Nat.le_refl 4)
      (by decide) hsingle)).bind (keeps_generate (Generate.keeps_extract hs₃ hv.2 _))
      fun w s₄ _ hs₄ hw hy hM₄ => ?_
    refine hmodified s₄ w hs₄ hM₄ hw.2 (by rw [hy.1]) (.inr ⟨?_, fun i => ?_⟩)
    · have hdenotes := hy.2
      rw [pick_fourLanes hsingle] at hdenotes
      dsimp only
      rw [hl 0]
      exact hdenotes
    · dsimp only
      rw [hl i, hl 0]
  all_goals
    rw [hc]
    exact (performs_select hs₃ hM₃ hpos hx.2 ho hc).bind (keeps_select hs₃ hv.2 mask)
      fun w s₄ _ hs₄ hw hy hM₄ => hmodified s₄ w hs₄ hM₄ hw hy.1 hy.2

/-! ## Loading -/

/-- An immediate index is a constant. -/
theorem performs_constantIndex (hs : s.generator.WellFormed) (hM : l.Reaches s.generator.module M)
    (bits : Word) :
    Performs l s (constantIndex bits) (fun v g => v.type.scalar = .uint32 ∧
      l.Denotes g.module v [bits]) M :=
  (performs_generate (Generate.performs_constantScalar hs hM .uint32 bits)).imp fun _ _ h =>
    ⟨by rw [h.1], h.2⟩

/-- A source operand is loaded as the components that it feeds to those of a mask. -/
def IsLoaded (l : Launch P) (M : Memory P) (E : Environment P) (R : Registers) (g₀ : Generator)
    (o : Operand) : Prop :=
  ∀ (s : LowerState) (mask : ComponentMask) (scalar : ScalarType), s.generator.WellFormed →
    l.Reaches s.generator.module M → g₀.Grows s.generator → 1 ≤ mask.count →
    Performs l s (load o mask scalar) (fun v g => v.type.scalar = scalar ∧
      l.Denotes g.module v (mask.components.map (o.component E R scalar))) M

/-- The sum of a register and a number. -/
theorem performs_sumIndex (hs : s.generator.WellFormed) (hM : l.Reaches s.generator.module M)
    (hgrows : g₀.Grows s.generator) {r : Operand} (hr : IsLoaded l M E R g₀ r) (bits : Word) :
    Performs l s (do
        let number ← constantIndex bits
        let register ← load r (.single 0) .uint32
        generate (Generate.add register number))
      (fun v g => v.type.scalar = .uint32 ∧
        l.Denotes g.module v [r.component E R .uint32 0 + bits]) M := by
  refine (performs_constantIndex hs hM bits).bind (keeps_constantIndex hs bits)
    fun number s₁ hc₁ hs₁ _ hn hM₁ => ?_
  refine (hr s₁ (.single 0) .uint32 hs₁ hM₁ (hgrows.trans hc₁.toGrows) (by decide)).bind
    (keeps_load hs₁ r _ _) fun register s₂ hc₂ hs₂ _ hx hM₂ => ?_
  have hn₂ := hn.2.mono hc₂.module
  have htype : register.type = number.type := by
    rw [ValueType.eq_mk hx.1 hx.2.count, ValueType.eq_mk hn.1 hn.2.count]
    rfl
  refine (performs_generate (Generate.performs_add hs₂ hM₂ htype hx.2 hn₂)).imp
    fun v g h => ⟨by rw [h.1, hx.1], ?_⟩
  have hsum := h.2
  rwa [hx.1] at hsum

/-- The number of an element is loaded, if its register is. -/
theorem performs_indexValue (hs : s.generator.WellFormed) (hM : l.Reaches s.generator.module M)
    (hgrows : g₀.Grows s.generator) {index : IndexOf Operand}
    (hi : Operand.isElement g₀ index = true)
    (hr : ∀ r, index.register? = some r → r.isReadable g₀ = true → IsLoaded l M E R g₀ r) :
    Performs l s (indexValue index) (fun v g => v.type.scalar = .uint32 ∧
      l.Denotes g.module v [Operand.elementNumber E R index]) M := by
  cases index with
  | imm32 v =>
    rw [indexValue, Operand.elementNumber]
    exact performs_constantIndex hs hM v
  | relative r =>
    rw [Operand.isElement, Bool.and_eq_true] at hi
    rw [indexValue, Operand.elementNumber]
    exact hr r rfl hi.1 s (.single 0) .uint32 hs hM hgrows (by decide)
  | imm32Relative v r =>
    rw [Operand.isElement, Bool.and_eq_true] at hi
    rw [indexValue, Operand.elementNumber]
    exact performs_sumIndex hs hM hgrows (hr r rfl hi.1) v
  | imm64 high low => cases hi
  | imm64Relative high low r => cases hi

/-- What is loaded before it is repeated is loaded. -/
theorem performs_repeated {op : Lower Value} {scalar : ScalarType} (hpos : 1 ≤ mask.count)
    (hk : Keeps s op fun v g => g.module.HasValue v)
    (hop : Performs l s op (fun v g => v.type.scalar = scalar ∧ l.Feeds g.module v mask f) M) :
    Performs l s (op >>= (broadcast · mask)) (fun v g => v.type.scalar = scalar ∧
      l.Denotes g.module v (mask.components.map f)) M :=
  hop.bind hk fun _ _ _ hs₁ _ hv hM₁ => (performs_broadcast hs₁ hM₁ hpos hv.2).imp fun _ _ h =>
    ⟨h.1.trans hv.1, h.2⟩

theorem isLoaded_immediate (htype : o.type = .imm32)
    (ho : o.token.componentCount = .one ∨ o.token.componentCount = .four) (hw : o.IsWhole) :
    IsLoaded l M E R g₀ o := by
  intro s mask scalar hs hM hgrows hpos
  have hlength : o.immediates.length = o.token.immediateCount .imm32 :=
    htype ▸ hw.length_immediates
  rw [load_eq, if_pos htype, funext (Operand.component_of_imm32 E R htype scalar)]
  exact performs_repeated hpos (keeps_loadImmediate hs mask scalar)
    (performs_loadImmediate hs hM hpos hlength ho scalar)

/-- An operand is loaded if its pointer points to the place that it selects components of. -/
theorem isLoaded_of_pointer (place : Place) (htype : o.type ≠ .imm32) (hselects : o.selects = true)
    (hplace : o.place? (Operand.elementNumbers E R o.indices) = some place)
    (hp : ∀ s : LowerState, s.generator.WellFormed → l.Reaches s.generator.module M →
      g₀.Grows s.generator → Performs l s (pointer o (indexValues o.indices))
        (fun p g => p.value = .floatVector ∧ ∃ d,
          l.Holds g.module p.id d ∧ M.read d = some (.lanes (fourLanes (place.read E R)))) M) :
    IsLoaded l M E R g₀ o := by
  intro s mask scalar hs hM hgrows hpos
  have hk := keeps_pointer (o := o) hs (keeps_indexValues o)
  rw [load_eq, if_neg htype, funext (Operand.component_of_place E R htype hplace scalar)]
  exact performs_repeated hpos (keeps_loadRegister hk mask scalar)
    (performs_loadRegister hk (hp s hs hM hgrows) hpos hselects scalar)

theorem isLoaded_register (hR : Represents g₀ E R M) (htype : o.type ≠ .imm32)
    (hbuffer : o.type ≠ .constantBuffer) (hselects : o.selects = true) {r : Register} {id : Word}
    (hr : o.register? = some r) (hid : g₀.registerId? r = some id) :
    IsLoaded l M E R g₀ o := by
  refine isLoaded_of_pointer (.register r) htype hselects ?_ fun s hs hM hgrows => ?_
  · rw [Operand.place?, if_neg hbuffer, hr, Option.map_some]
  · exact (performs_pointer hs hM hgrows hr hid _).imp fun p g hp =>
      ⟨by rw [hp.1], _, hp.2, congrArg some (hR.registers r id hid)⟩

/-- An element of a constant buffer is loaded if its number is. -/
theorem isLoaded_element (hR : Represents g₀ E R M) (htype : o.type = .constantBuffer)
    (hselects : o.selects = true) (hdimension : o.dimension = 2) {n : Word} {d : DeclaredResource}
    (hn : o.index32? 0 = some n) (hd : g₀.resource? .constantBuffer n = some d)
    {index : IndexOf Operand} (hindex : o.indices[1]? = some index)
    (hi : Operand.isElement g₀ index = true)
    (hr : ∀ r, index.register? = some r → r.isReadable g₀ = true → IsLoaded l M E R g₀ r) :
    IsLoaded l M E R g₀ o := by
  have himm : o.type ≠ .imm32 := by
    rw [htype]
    exact nofun
  have hnumber : (Operand.elementNumbers E R o.indices).getD 1 0 =
      Operand.elementNumber E R index := by
    rw [Operand.elementNumbers_eq, List.getD_eq_getElem?_getD, List.getElem?_map, hindex]
    rfl
  refine isLoaded_of_pointer (.element n (Operand.elementNumber E R index)) himm hselects ?_
    fun s hs hM hgrows => ?_
  · rw [Operand.place?, if_pos htype, if_pos hdimension, hn, Option.map_some, hnumber]
  · have helement : (indexValues o.indices)[1]? = some (indexValue index) := by
      rw [indexValues_eq, List.getElem?_map, hindex]
      rfl
    have hmem := List.mem_of_getElem? helement
    refine (performs_elementPointer hgrows htype hdimension hn hd helement
      (keeps_indexValues o _ hmem s hs) (performs_indexValue hs hM hgrows hi hr)).imp
        fun p g hp => ⟨hp.1, _, hp.2, ?_⟩
    rw [Memory.read, hR.buffers n d hd]
    rfl

/-- A readable operand is loaded as what it shows, however deep it is nested. -/
theorem isLoaded (hR : Represents g₀ E R M) (o : Operand) (ho : o.isReadable g₀ = true)
    (hw : o.IsWhole) : IsLoaded l M E R g₀ o := by
  refine Operand.nested_induction (Q := fun o => o.isReadable g₀ = true → o.IsWhole →
    IsLoaded l M E R g₀ o) (fun o ih ho hw => ?_) o ho hw
  rw [Operand.isReadable_eq] at ho
  split at ho
  · next htype =>
    rw [Bool.and_eq_true, Bool.or_eq_true, beq_iff_eq, beq_iff_eq] at ho
    exact isLoaded_immediate htype ho.2 hw
  · next htype =>
    split at ho
    · next hbuffer =>
      simp only [Bool.and_eq_true, beq_iff_eq, Option.any_eq_true] at ho
      obtain ⟨⟨⟨hselects, hdimension⟩, n, hn, hd⟩, helement⟩ := ho
      obtain ⟨d, hd⟩ := Option.isSome_iff_exists.1 hd
      rw [Operand.areElements_eq, List.getD_eq_getElem?_getD, List.getElem?_map] at helement
      cases hindex : o.indices[1]? with
      | none =>
        rw [hindex] at helement
        cases helement
      | some index =>
        rw [hindex] at helement
        have hmem := List.mem_of_getElem? hindex
        exact isLoaded_element hR hbuffer hselects hdimension hn hd hindex helement
          fun r hr hreadable => ih index hmem r hr hreadable (hw.register hmem hr)
    · next hbuffer =>
      simp only [Bool.and_eq_true, Option.isSome_iff_exists, Option.bind_eq_some_iff] at ho
      obtain ⟨hselects, id, r, hr, hid⟩ := ho
      exact isLoaded_register hR htype hbuffer hselects hr hid

/-! ## Storing -/

/-- What a value feeds is stored to the register that an operand names. -/
theorem performs_store (hs : s.generator.WellFormed) (hM : l.Reaches s.generator.module M)
    (hgrows : g₀.Grows s.generator) {r : Register} {id : Word} (hr : o.register? = some r)
    (hid : g₀.registerId? r = some id) (hwritable : r.storage.isWritable = true)
    (hold : M id = .lanes (fourLanes component)) (hpos : 1 ≤ mask.count)
    (hv : s.generator.module.HasValue v) (hx : l.Feeds s.generator.module v mask f) :
    Performs l s (store o v mask) (fun _ _ => True)
      (M.write id (.lanes (fourLanes (merged mask component f)))) := by
  have hk := keeps_pointer (o := o) hs (keeps_indexValues o)
  refine (performs_pointer hs hM hgrows hr hid _).bind hk fun p s₁ hc₁ hs₁ hp hp' hM₁ => ?_
  obtain ⟨hp', hholds⟩ := hp'
  have hv₁ := hv.mono hc₁.continues
  have hx₁ : l.Feeds s₁.generator.module v mask f :=
    hx.imp (fun h => h.mono hc₁.module) fun h => ⟨h.1.mono hc₁.module, h.2⟩
  refine (performs_broadcast hs₁ hM₁ hpos hx₁).bind (keeps_broadcast hs₁ hv₁ mask)
    fun w s₂ hc₂ hs₂ hw hx₂ hM₂ => ?_
  refine (performs_generate (Generate.performs_cast hs₂ hM₂ hx₂.2 p.value.scalar)).bind
    (keeps_generate (Generate.keeps_cast hs₂ hw _)) fun w s₃ hc₃ hs₃ hw hx₃ hM₃ => ?_
  have hc := hc₂.trans hc₃
  have hstore := Generate.performs_store hs₃ hM₃ (hp.mono hc.continues)
    (by rw [hp']; exact hwritable) (hholds.mono hc.module) hold hw.2 (by rw [hx₃.1, hp']; rfl)
    hx₃.2 hpos (.inr (List.length_map _))
  rw [merged_stored] at hstore
  exact performs_generate hstore

/-- The result of an instruction is clamped where the instruction says so, and stored. -/
theorem performs_storeResult (hs : s.generator.WellFormed) (hM : l.Reaches s.generator.module M)
    (hgrows : g₀.Grows s.generator) (i : Instruction) {r : Register} {id : Word}
    (hr : o.register? = some r) (hid : g₀.registerId? r = some id)
    (hwritable : r.storage.isWritable = true) (hold : M id = .lanes (fourLanes component))
    (hpos : 1 ≤ mask.count) (hf : i.control.saturate = true → v.type.scalar = .float32)
    (hv : s.generator.module.HasValue v) (hx : l.Feeds s.generator.module v mask f) :
    Performs l s (storeResult i o v mask) (fun _ _ => True)
      (M.write id (.lanes (fourLanes (merged mask component fun n => i.clamp P (f n))))) := by
  rw [storeResult]
  simp only [Instruction.clamp]
  split
  · next hsaturate =>
    have hf := hf hsaturate
    refine (performs_map (fun xs => Generate.performs_saturate hs hM hf) hx).bind
      (keeps_generate (Generate.keeps_saturate hs hv)) fun w s₁ hc₁ hs₁ hw hx₁ hM₁ => ?_
    exact performs_store hs₁ hM₁ (hgrows.trans hc₁.toGrows) hr hid hwritable hold hpos hw.2 hx₁.2
  · exact performs_store hs hM hgrows hr hid hwritable hold hpos hv hx

end Lower

end ShaderLowering
