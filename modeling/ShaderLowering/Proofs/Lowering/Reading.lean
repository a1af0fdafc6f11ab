import ShaderLowering.Proofs.Generator.Settling
import ShaderLowering.Proofs.Lowering.Atomicity
import ShaderLowering.Proofs.Lowering.Operands

/-!
# Reading operands of any shape

A handler reads registers and computes with them before it stores anything. While it does,
`Lower.Ready` holds of the generator: it is well-formed, and the variables hold what the registers do.
`Lower.Reads` says of a part of a handler that it keeps this where it succeeds, and what its result is
then good for. So there is nothing to be shown of operands that cannot be read, and `Lower.reads_load`
holds of all operands: what is loaded are the components that they show.
-/

namespace ShaderLowering

open Spirv

variable {P : Platform} {l : Launch P} {E : Environment P} {R : Registers} {M : Memory P}

/-- The same registers have the same variables. -/
theorem Generator.SameRegisters.registerId?_eq {g g' : Generator} (h : g.SameRegisters g')
    (r : Register) : g'.registerId? r = g.registerId? r := by
  cases r with
  | temp n => rw [registerId?, registerId?, h.temps]
  | interface kind n => simp only [registerId?, interface?, h.interfaces]

/-- Memory that represents registers does so for any generator with the same registers. -/
theorem Represents.of_same {g g' : Generator} (h : Represents g E R M) (hg : g.SameRegisters g') :
    Represents g' E R M := by
  have hresource (kind : ResourceClass) (n : Word) : g'.resource? kind n = g.resource? kind n := by
    rw [Generator.resource?, Generator.resource?, hg.resources]
  exact ⟨h.stage.trans hg.stage.symm,
    fun r id hr => h.registers r id (hg.registerId?_eq r ▸ hr),
    fun n d hd => h.buffers n d (hresource _ n ▸ hd),
    fun n d hd => h.textures n d (hresource _ n ▸ hd),
    fun n d hd => h.samplers n d (hresource _ n ▸ hd)⟩

/-- A value that can be used stands for components of its type. -/
structure Spirv.Launch.Carries (l : Launch P) (m : Module) (v : Value) (x : Lanes) : Prop where
  value : m.HasValue v
  shows : l.Shows m v x

theorem Spirv.Launch.Carries.mono {m m' : Module} {v : Value} {x : Lanes} (h : l.Carries m v x)
    (hm : m.Continues m') : l.Carries m' v x :=
  ⟨h.value.mono hm, h.shows.mono hm.toGrows⟩

/-- The components of a register or element that an operand picks are among the four. -/
theorem Operand.lt_of_mem_chosen {o : Operand} (htype : o.type ≠ .imm32) {mask : ComponentMask}
    {lane : Nat} (h : lane ∈ o.chosen mask) : lane < 4 := by
  rw [chosen, if_neg htype] at h
  split at h
  · rw [List.mem_singleton.1 h]
    exact Nat.succ_pos 3
  · next s _ hs =>
    obtain ⟨i, -, rfl⟩ := List.mem_map.1 h
    exact get_lt_of_selection? hs i
  · next c _ hs =>
    rw [List.mem_singleton.1 h]
    exact lt_of_selection? hs
  · exact ComponentMask.lt_of_mem_components h
  · cases h

namespace Lower

variable {α β : Type}

/-! ## Parts of handlers -/

/-- The variables of a well-formed generator hold what the registers do. -/
structure Ready (l : Launch P) (E : Environment P) (R : Registers) (M : Memory P)
    (g : Generator) : Prop where
  wellFormed : g.WellFormed
  reaches : l.Reaches g.module M
  represents : Represents g E R M

/-- Where a part of a handler succeeds, nothing has been stored, and its result has a property. -/
structure Reads (l : Launch P) (E : Environment P) (R : Registers) (M : Memory P) (s : LowerState)
    (op : Lower α) (Q : α → Generator → Prop) : Prop where
  of_run : ∀ a s', op.run s = (.ok a, s') → s.generator.Continues s'.generator ∧
    Ready l E R M s'.generator ∧ Q a s'.generator

namespace Reads

variable {s : LowerState} {op : Lower α} {f : α → Lower β} {Q Q' : α → Generator → Prop}
variable {T : β → Generator → Prop}

theorem pure {a : α} (hs : Ready l E R M s.generator) (h : Q a s.generator) :
    Reads l E R M s (Pure.pure a) Q :=
  ⟨fun _ _ hrun => by
    cases hrun
    exact ⟨.refl _, hs, h⟩⟩

theorem throw {e : Interruption} : Reads l E R M s (MonadExcept.throw e : Lower α) Q :=
  ⟨fun _ _ hrun => by cases hrun⟩

theorem imp (h : Reads l E R M s op Q) (hQ : ∀ a g, Q a g → Q' a g) : Reads l E R M s op Q' :=
  ⟨fun a s' hrun => (h.of_run a s' hrun).imp_right fun h => h.imp_right (hQ a _)⟩

/-- Where a sequence succeeds, both of its parts have. -/
theorem bind (h : Reads l E R M s op Q)
    (hf : ∀ a s', s.generator.Continues s'.generator → Ready l E R M s'.generator →
      Q a s'.generator → Reads l E R M s' (f a) T) : Reads l E R M s (op >>= f) T := by
  refine ⟨fun b s' hrun => ?_⟩
  obtain ⟨a, s₁, hop, hrun⟩ := run_bind_eq_ok.1 hrun
  obtain ⟨hc₁, hs₁, hQ⟩ := h.of_run a s₁ hop
  obtain ⟨hc, hs', hT⟩ := (hf a s₁ hc₁ hs₁ hQ).of_run b s' hrun
  exact ⟨hc₁.trans hc, hs', hT⟩

end Reads

variable {s : LowerState} {K Q : α → Generator → Prop} {v w : Value} {x y : Lanes}

/-- An operation of the generator that computes leaves the registers alone. -/
theorem reads_generate {op : Generate α} (hs : Ready l E R M s.generator) (hop : op.Computes)
    (hk : Keeps s.generator op K) (h : Settles l s.generator op Q M M) :
    Reads l E R M s (generate op) fun a g => K a g ∧ Q a g := by
  refine ⟨fun a s' hrun => ?_⟩
  have hsame := (hop.unnoticed s.generator).registers
  obtain ⟨hc, hw, hK⟩ := hk
  rw [run_generate] at hrun
  rcases hresult : op.run s.generator with ⟨e | b, g⟩ <;> rw [hresult] at hrun
  · cases hrun
  · cases hrun
    obtain ⟨hQ, hM⟩ := h.ok a (by rw [hresult])
    have hKa := hK a (by rw [hresult])
    simp only [hresult, generator_id] at hc hw hsame hM hQ hKa
    exact ⟨hc, ⟨hw, hM, hs.represents.of_same hsame⟩, hKa, hQ⟩

/-- The same of an operation that computes a value. -/
theorem reads_value {op : Generate Value} (hs : Ready l E R M s.generator) (hop : op.Computes)
    (hk : Keeps s.generator op fun v g => g.module.HasValue v)
    (h : Settles l s.generator op (fun v g => l.Shows g.module v x) M M) :
    Reads l E R M s (generate op) fun v g => l.Carries g.module v x :=
  (reads_generate hs hop hk h).imp fun _ _ h => ⟨h.1, h.2⟩

/-! ## Values -/

section

variable (hs : Ready l E R M s.generator) (hv : l.Carries s.generator.module v x)

include hs

theorem reads_constantScalar (scalar : ScalarType) (bits : Word) :
    Reads l E R M s (generate (Generate.constantScalar scalar bits))
      fun v g => l.Carries g.module v ⟨scalar, [bits]⟩ :=
  reads_value hs (Generate.computes_constantScalar _ _)
    ((Generate.keeps_constantScalar hs.wellFormed _ _).imp fun _ _ h => h.2)
    (.of_performs ((Generate.performs_constantScalar hs.wellFormed hs.reaches _ _).imp
      fun _ _ h => ⟨by rw [h.1], h.2⟩))

theorem reads_constantVector (scalar : ScalarType) {bits : List Word} (hpos : 1 ≤ bits.length)
    (hfour : bits.length ≤ 4) :
    Reads l E R M s (generate (Generate.constantVector scalar bits))
      fun v g => l.Carries g.module v ⟨scalar, bits⟩ :=
  reads_value hs (Generate.computes_constantVector _ _)
    ((Generate.keeps_constantVector hs.wellFormed _ hpos hfour).imp fun _ _ h => h.2)
    (.of_performs ((Generate.performs_constantVector hs.wellFormed hs.reaches _ _).imp
      fun _ _ h => ⟨by rw [h.1], h.2⟩))

theorem reads_add (hv : l.Carries s.generator.module v x) (hw : l.Carries s.generator.module w y) :
    Reads l E R M s (generate (Generate.add v w))
      fun z g => l.Carries g.module z (x.zip (x.scalar.add P) y) :=
  reads_value hs (Generate.computes_add _ _)
    ((Generate.keeps_add hs.wellFormed hv.value hw.value).imp fun _ _ h => h.2)
    (Generate.settles_add hs.wellFormed hs.reaches hv.shows hw.shows)

include hv

theorem reads_cast (scalar : ScalarType) :
    Reads l E R M s (generate (Generate.cast v scalar))
      fun w g => l.Carries g.module w ⟨scalar, x.words⟩ :=
  reads_value hs (Generate.computes_cast _ _)
    ((Generate.keeps_cast hs.wellFormed hv.value _).imp fun _ _ h => h.2)
    (Generate.settles_cast hs.wellFormed hs.reaches hv.shows scalar)

theorem reads_extract (mask : ComponentMask) :
    Reads l E R M s (generate (Generate.extract v mask))
      fun w g => l.Carries g.module w (x.pick mask.components) :=
  reads_value hs (Generate.computes_extract _ _)
    ((Generate.keeps_extract hs.wellFormed hv.value _).imp fun _ _ h => h.2)
    (Generate.settles_extract hs.wellFormed hs.reaches hv.value hv.shows mask)

theorem reads_swizzle (swizzle : Swizzle) (mask : ComponentMask) :
    Reads l E R M s (generate (Generate.swizzle v swizzle mask))
      fun w g => l.Carries g.module w (x.pick (mask.components.map swizzle.get)) :=
  reads_value hs (Generate.computes_swizzle _ _ _)
    ((Generate.keeps_swizzle hs.wellFormed hv.value _ _).imp fun _ _ h => h.2)
    (Generate.settles_swizzle hs.wellFormed hs.reaches hv.value hv.shows swizzle mask)

/-- The modifiers work on each component. -/
theorem reads_applyModifiers (m : OperandModifiers) :
    Reads l E R M s (applyModifiers m v)
      fun w g => l.Carries g.module w (x.map (m.apply P x.scalar)) := by
  have hneg {s : LowerState} {v : Value} {x : Lanes} (hs : Ready l E R M s.generator)
      (hv : l.Carries s.generator.module v x) :
      Reads l E R M s (if m.neg then generate (Generate.neg v) else pure v) fun w g =>
        l.Carries g.module w (x.map fun w => if m.neg then x.scalar.neg P w else w) := by
    split
    · exact reads_value hs (Generate.computes_neg _)
        ((Generate.keeps_neg hs.wellFormed hv.value).imp fun _ _ h => h.2)
        (Generate.settles_neg hs.wellFormed hs.reaches hv.shows)
    · refine .pure hs ?_
      rw [Lanes.map, List.map_id']
      exact hv
  have happly : m.apply P x.scalar = (fun w => if m.neg then x.scalar.neg P w else w) ∘
      fun w => if m.abs then x.scalar.abs P w else w := rfl
  rw [applyModifiers, happly]
  split
  · refine (reads_value hs (Generate.computes_abs _)
      ((Generate.keeps_abs hs.wellFormed hv.value).imp fun _ _ h => h.2)
      (Generate.settles_abs hs.wellFormed hs.reaches hv.shows)).bind fun w s₁ _ hs₁ hw => ?_
    refine (hneg hs₁ hw).imp fun _ _ h => ?_
    rwa [Lanes.map, Lanes.map, List.map_map] at h
  · exact hneg hs hv

/-- A single component is repeated. -/
theorem reads_broadcast (mask : ComponentMask) :
    Reads l E R M s (broadcast v mask)
      fun w g => l.Carries g.module w ⟨x.scalar, spread (max 1 mask.count) x.words⟩ := by
  have hcount := hv.shows.denotes.count
  rw [broadcast]
  split
  · next h =>
    have hpos := Nat.le_of_lt h.2
    rw [hv.shows.eq_of_count_eq_one h.1, spread, Nat.max_eq_right hpos]
    exact reads_value hs (Generate.computes_replicate _ _)
      ((Generate.keeps_replicate hs.wellFormed hv.value hpos
        mask.length_components_le).imp fun _ _ h => h.2)
      (Generate.settles_replicate hs.wellFormed hs.reaches hv.shows _)
  · next h =>
    refine .pure hs ?_
    rw [spread_of_length fun hone => by omega]
    exact hv

end

/-! ## Operands -/

section

variable {o : Operand} (hs : Ready l E R M s.generator)

include hs

theorem reads_decoded (r : Except DecodeError α) :
    Reads l E R M s (decoded r) fun a _ => r = .ok a := by
  cases r with
  | ok a => exact .pure hs rfl
  | error e => exact .throw

theorem reads_expectDimension (dimension : Nat) (role : OperandRole) :
    Reads l E R M s (expectDimension o dimension role) fun _ _ => o.dimension = dimension := by
  rw [expectDimension]
  split
  · exact .throw
  · next h => exact .pure hs (Decidable.not_not.1 h)

theorem reads_plainIndex (n : Nat) (role : OperandRole) :
    Reads l E R M s (plainIndex o n role) fun v _ => o.index32? n = some v := by
  refine (reads_decoded hs _).bind fun index s₁ _ hs₁ hindex => ?_
  cases index with
  | imm32 v => exact .pure hs₁ (Operand.index32?_of_index hindex)
  | imm64 | relative | imm32Relative | imm64Relative => exact .throw

theorem reads_targetMask :
    Reads l E R M s (targetMask o) fun mask _ => mask = o.writeMask := by
  rw [targetMask]
  split
  · next h => exact .pure hs (by simp only [Operand.writeMask, h])
  · next h h' => exact .pure hs (by simp only [Operand.writeMask, h, h'])
  · next h h' => exact .pure hs (by simp only [Operand.writeMask, h, h'])
  · exact .throw
  · exact .throw

theorem reads_immediate (n : Nat) :
    Reads l E R M s (decoded (o.immediate n)) fun w _ => w = o.immediates.getD n 0 := by
  refine (reads_decoded hs _).imp fun w g hw => ?_
  rw [Operand.immediate] at hw
  split at hw
  · next hget =>
    cases hw
    rw [List.getD_eq_getElem?_getD, hget, Option.getD_some]
  · cases hw

theorem reads_immediates (ns : List Nat) :
    Reads l E R M s (ns.mapM fun n => decoded (o.immediate n))
      fun ws _ => ws = pick o.immediates ns := by
  induction ns generalizing s with
  | nil => exact .pure hs rfl
  | cons n ns ih =>
    rw [List.mapM_cons]
    refine (reads_immediate hs n).bind fun w s₁ _ hs₁ hw => ?_
    refine (ih hs₁).bind fun ws s₂ _ hs₂ hws => .pure hs₂ ?_
    rw [hw, hws]
    rfl

/-- What an immediate operand picks of its words. -/
theorem reads_loadImmediate (htype : o.type = .imm32) (mask : ComponentMask)
    (scalar : ScalarType) :
    Reads l E R M s (loadImmediate o mask scalar) fun v g => l.Carries g.module v
      ⟨scalar, (o.chosen mask).map (o.laneValue E R scalar)⟩ := by
  have hlane (n : Nat) : o.laneValue E R scalar n = o.immediates.getD n 0 := by
    rw [Operand.laneValue_eq, if_pos htype]
  rw [loadImmediate]
  split
  · next hone =>
    have hchosen : o.chosen mask = [0] := by rw [Operand.chosen, if_pos htype, hone]
    refine (reads_immediate hs 0).bind fun bits s₁ _ hs₁ hbits => ?_
    rw [hchosen, List.map_cons, List.map_nil, hlane, ← hbits]
    exact reads_constantScalar hs₁ scalar bits
  · next hfour =>
    -- all four words make up a vector, and the masked ones are taken out of it
    have hchosen : o.chosen mask = mask.components := by
      rw [Operand.chosen, if_pos htype, hfour]
    refine (reads_immediates hs _).bind fun bits s₁ _ hs₁ hbits => ?_
    subst hbits
    refine (reads_constantVector hs₁ scalar (by rw [length_pick]; decide)
      (by rw [length_pick]; decide)).bind fun v s₂ _ hs₂ hv => ?_
    refine (reads_extract hs₂ hv mask).imp fun w g hw => ?_
    have hwords : mask.components.map (o.laneValue E R scalar) =
        mask.components.map (Lanes.mk scalar (pick o.immediates [0, 1, 2, 3])).get := by
      refine List.map_congr_left fun n hn => ?_
      have hlt := ComponentMask.lt_of_mem_components hn
      obtain rfl | rfl | rfl | rfl : n = 0 ∨ n = 1 ∨ n = 2 ∨ n = 3 := by omega
      all_goals exact hlane _
    rw [hchosen, hwords]
    exact hw
  · exact .throw

end

/-! ## Registers -/

/-- A value that can be used has an integer for its first component. -/
def Leads (l : Launch P) (m : Module) (v : Value) (n : Word) : Prop :=
  ∃ x : Lanes, l.Carries m v x ∧ x.scalar = .uint32 ∧ x.get 0 = n

/-- A pointer that can be used points to a place of a generator. -/
structure Points (l : Launch P) (g : Generator) (p : Pointer) (place : Place) : Prop where
  pointer : g.module.HasPointer p
  locates : l.Locates g p place

theorem Points.mono {g g' : Generator} {p : Pointer} {place : Place} (h : Points l g p place)
    (hg : g.Continues g') : Points l g' p place :=
  ⟨h.pointer.mono hg.continues, h.locates.mono hg.toGrows⟩

section

variable {o : Operand} (hs : Ready l E R M s.generator)

include hs

theorem reads_interface {kind : InterfaceClass}
    (hkind : InterfaceClass.ofOperandType? o.type = some kind)
    (hregister : ∀ n, o.index32? 0 = some n → o.register? = some (.interface kind n))
    (numbers : List Word) :
    Reads l E R M s (do
        generate (Generate.interfacePointer o.type (← plainIndex o 0 .interfaceRegister)))
      fun p g => ∃ place, o.place? numbers = some place ∧ Points l g p place := by
  refine (reads_plainIndex hs 0 _).bind fun n s₁ _ hs₁ hn => ?_
  refine (reads_generate hs₁ (Generate.computes_interfacePointer _ _)
    (Generate.keeps_interfacePointer hs₁.wellFormed _ _)
    (Generate.settles_interfacePointer hs₁.wellFormed hs₁.reaches _ _)).imp fun p g hp => ?_
  obtain ⟨hpointer, kind', hkind', hlocates⟩ := hp
  cases hkind.symm.trans hkind'
  refine ⟨_, ?_, hpointer, hlocates⟩
  rw [Operand.place?, hregister n hn, if_neg, Option.map_some]
  -- constant buffers are no input or output registers
  intro hbuffer
  rw [hbuffer] at hkind
  cases hkind

/-- A pointer to the place that an operand names, provided that the numbers of its indices are
read. -/
theorem reads_pointer {elements : List (Lower Value)} {numbers : List Word}
    (he : ∀ e, elements[1]? = some e → ∀ s : LowerState, Ready l E R M s.generator →
      Reads l E R M s e fun v g => Leads l g.module v (numbers.getD 1 0)) :
    Reads l E R M s (pointer o elements)
      fun p g => ∃ place, o.place? numbers = some place ∧ Points l g p place := by
  rw [pointer]
  split
  · next htype =>
    refine (reads_expectDimension hs 1 _).bind fun _ s₁ _ hs₁ hdimension => ?_
    refine (reads_plainIndex hs₁ 0 _).bind fun n s₂ _ hs₂ hn => ?_
    refine (reads_generate hs₂ (Generate.computes_tempPointer n)
      (Generate.keeps_tempPointer hs₂.wellFormed n)
      (Generate.settles_tempPointer hs₂.wellFormed hs₂.reaches n)).imp fun p g hp => ?_
    refine ⟨_, ?_, hp.1, hp.2⟩
    simp only [Operand.place?, Operand.register?, htype, hdimension, hn, if_pos, reduceCtorEq,
      if_false, Option.map_some]
  · next htype =>
    split
    · next hdimension =>
      refine reads_interface hs (by rw [htype]; rfl) (fun n hn => ?_) numbers
      simp only [Operand.register?, if_pos hdimension, htype, hn]
    · exact .throw
    · exact .throw
  · next htype =>
    split
    · next hdimension =>
      refine reads_interface hs (by rw [htype]; rfl) (fun n hn => ?_) numbers
      simp only [Operand.register?, if_pos hdimension, htype, hn]
    · exact .throw
    · exact .throw
  · next htype =>
    refine (reads_expectDimension hs 2 _).bind fun _ s₁ _ hs₁ hdimension => ?_
    refine (reads_plainIndex hs₁ 0 _).bind fun buffer s₂ _ hs₂ hn => ?_
    -- without a second index there is no element, and the handler stops
    have helement : Reads l E R M s₂
        (elements.getD 1 (fault (.indexDimension .constantBuffer o.dimension)))
        fun v g => Leads l g.module v (numbers.getD 1 0) := by
      rw [List.getD_eq_getElem?_getD]
      rcases h : elements[1]? with _ | e
      · exact .throw
      · exact he e h s₂ hs₂
    refine helement.bind fun v s₃ _ hs₃ hv => ?_
    obtain ⟨x, hv, -, hnumber⟩ := hv
    refine (reads_generate hs₃ (Generate.computes_constantBufferPointer buffer v)
      (Generate.keeps_constantBufferPointer hs₃.wellFormed buffer hv.value)
      (Generate.settles_constantBufferPointer hs₃.wellFormed hs₃.reaches buffer hv.value
        hv.shows)).imp fun p g hp => ?_
    refine ⟨_, ?_, hp.1, hp.2⟩
    rw [Operand.place?, if_pos htype, if_pos hdimension, hn, Option.map_some, hnumber]
  · exact .throw

/-- What an operand picks of the four components of a value. -/
theorem reads_select (htype : o.type ≠ .imm32) (hfour : o.token.componentCount = .four)
    (hv : l.Carries s.generator.module v x) (mask : ComponentMask) :
    Reads l E R M s (select o v mask)
      fun w g => l.Carries g.module w (x.pick (o.chosen mask)) := by
  rw [select]
  split
  · next swizzle h =>
    simp only [Operand.chosen, if_neg htype, hfour, h]
    exact reads_swizzle hs hv swizzle mask
  · next c h =>
    simp only [Operand.chosen, if_neg htype, hfour, h]
    rw [← ComponentMask.components_single (Operand.lt_of_selection? h)]
    exact reads_extract hs hv (.single c)
  · next own h =>
    simp only [Operand.chosen, if_neg htype, hfour, h]
    exact reads_extract hs hv own
  · exact .throw

end

/-- What an operand picks of the place that it names, with modifiers. -/
theorem reads_loadRegister {o : Operand} (htype : o.type ≠ .imm32) {pointer : Lower Pointer}
    (hp : Reads l E R M s pointer fun p g => ∃ place,
      o.place? (Operand.elementNumbers E R o.indices) = some place ∧ Points l g p place)
    (mask : ComponentMask) (scalar : ScalarType) :
    Reads l E R M s (loadRegister o pointer mask scalar) fun v g => l.Carries g.module v
      ⟨scalar, (o.chosen mask).map (o.laneValue E R scalar)⟩ := by
  refine hp.bind fun p s₁ _ hs₁ hp => ?_
  obtain ⟨place, hplace, hp⟩ := hp
  refine (reads_value hs₁ (Generate.computes_load p)
    ((Generate.keeps_load hs₁.wellFormed hp.pointer).imp fun _ _ h => h.2)
    (Generate.settles_load hs₁.wellFormed hs₁.reaches hs₁.represents hp.pointer
      hp.locates)).bind fun v s₂ _ hs₂ hv => ?_
  refine (reads_cast hs₂ hv scalar).bind fun v s₃ _ hs₃ hv => ?_
  -- no operand picks a component behind the fourth one
  have hwords : (o.chosen mask).map (o.laneValue E R scalar) =
      ((o.chosen mask).map fun lane => (fourLanes (place.read E R)).getD lane 0).map
        (o.modifiers.apply P scalar) := by
    rw [List.map_map]
    refine List.map_congr_left fun lane hlane => ?_
    rw [Operand.laneValue_eq, if_neg htype, hplace, Function.comp_apply,
      getD_fourLanes _ (Operand.lt_of_mem_chosen htype hlane), Option.map_some, Option.getD_some]
  rw [hwords]
  split
  · next hfour =>
    exact (reads_select hs₃ htype hfour hv mask).bind fun w s₄ _ hs₄ hw =>
      reads_applyModifiers hs₄ hw o.modifiers
  · next hone =>
    refine (reads_extract hs₃ hv (.single 0)).bind fun w s₄ _ hs₄ hw => ?_
    have hchosen : o.chosen mask = [0] := by
      simp only [Operand.chosen, if_neg htype, hone]
    rw [hchosen]
    exact reads_applyModifiers hs₄ hw o.modifiers
  · exact .throw

/-! ## Loading -/

/-- An operand is loaded as the components that it shows. -/
def IsRead (l : Launch P) (E : Environment P) (R : Registers) (M : Memory P) (o : Operand) : Prop :=
  ∀ (s : LowerState) (mask : ComponentMask) (scalar : ScalarType), Ready l E R M s.generator →
    1 ≤ mask.count → Reads l E R M s (load o mask scalar) fun v g =>
      l.Carries g.module v ⟨scalar, (o.places mask).map (o.component E R scalar)⟩

/-- The first component that an operand shows is its component 0. -/
theorem leads_of_carries {o : Operand} {m : Module} (hv : l.Carries m v
    ⟨.uint32, (o.places (.single 0)).map (o.component E R .uint32)⟩) :
    Leads l m v (o.component E R .uint32 0) := by
  refine ⟨_, hv, rfl, ?_⟩
  -- no value is empty, so there is a first component
  have hpos := hv.value.positive
  rw [hv.shows.denotes.count, List.length_map] at hpos
  rw [Operand.places] at hpos ⊢
  split at hpos
  · next n _ =>
    cases n with
    | zero => cases hpos
    | succ n => rw [List.range_succ_eq_map]; rfl
  · rfl

theorem reads_sum (hs : Ready l E R M s.generator) {r : Operand} (hr : IsRead l E R M r)
    (bits : Word) :
    Reads l E R M s (do
        let number ← constantIndex bits
        let register ← load r (.single 0) .uint32
        generate (Generate.add register number))
      fun v g => Leads l g.module v (r.component E R .uint32 0 + bits) := by
  refine (reads_constantScalar hs .uint32 bits).bind fun number s₁ _ hs₁ hn => ?_
  refine (hr s₁ (.single 0) .uint32 hs₁ (by decide)).bind fun register s₂ hc₂ hs₂ hv => ?_
  obtain ⟨x, hv, hscalar, hfirst⟩ := leads_of_carries hv
  refine (reads_add hs₂ hv (hn.mono hc₂.continues)).imp fun v g h => ⟨_, h, hscalar, ?_⟩
  have hpos := hv.value.positive
  rw [hv.shows.denotes.count] at hpos
  obtain ⟨scalar, _ | ⟨w, words⟩⟩ := x
  · cases hpos
  · cases hscalar
    rw [← hfirst]
    rfl

/-- The number that an index stands for is found, if its register is read. -/
theorem reads_indexValue (hs : Ready l E R M s.generator) {index : IndexOf Operand}
    (hr : ∀ r, index.register? = some r → IsRead l E R M r) :
    Reads l E R M s (indexValue index)
      fun v g => Leads l g.module v (Operand.elementNumber E R index) := by
  have hconstant (bits : Word) : Reads l E R M s (constantIndex bits)
      fun v g => Leads l g.module v bits :=
    (reads_constantScalar hs .uint32 bits).imp fun _ _ h => ⟨_, h, rfl, rfl⟩
  cases index with
  | imm32 v =>
    rw [indexValue, Operand.elementNumber]
    exact hconstant v
  | imm64 high low =>
    rw [indexValue, Operand.elementNumber]
    exact hconstant low
  | relative r =>
    rw [indexValue, Operand.elementNumber]
    exact (hr r rfl s (.single 0) .uint32 hs (by decide)).imp fun _ _ => leads_of_carries
  | imm32Relative v r =>
    rw [indexValue, Operand.elementNumber]
    exact reads_sum hs (hr r rfl) v
  | imm64Relative high low r =>
    rw [indexValue, Operand.elementNumber]
    exact reads_sum hs (hr r rfl) low

/-- The numbers of the indices of an operand are found, if their registers are read. -/
theorem reads_element {o : Operand}
    (hr : ∀ index ∈ o.indices, ∀ r, index.register? = some r → IsRead l E R M r) :
    ∀ e, (indexValues o.indices)[1]? = some e → ∀ s : LowerState, Ready l E R M s.generator →
      Reads l E R M s e
        fun v g => Leads l g.module v ((Operand.elementNumbers E R o.indices).getD 1 0) := by
  intro e he s hs
  rw [indexValues_eq, List.getElem?_map] at he
  obtain ⟨index, hindex, rfl⟩ := Option.map_eq_some_iff.1 he
  have hnumber : (Operand.elementNumbers E R o.indices).getD 1 0 =
      Operand.elementNumber E R index := by
    rw [Operand.elementNumbers_eq, List.getD_eq_getElem?_getD, List.getElem?_map, hindex]
    rfl
  rw [hnumber]
  exact reads_indexValue hs (hr index (List.mem_of_getElem? hindex))

/-- What is picked is repeated to what is shown. -/
theorem reads_shown {o : Operand} {op : Lower Value} {mask : ComponentMask} {scalar : ScalarType}
    (hpos : 1 ≤ mask.count) (hop : Reads l E R M s op fun v g => l.Carries g.module v
      ⟨scalar, (o.chosen mask).map (o.laneValue E R scalar)⟩) :
    Reads l E R M s (op >>= (broadcast · mask)) fun v g => l.Carries g.module v
      ⟨scalar, (o.places mask).map (o.component E R scalar)⟩ := by
  refine hop.bind fun v s₁ _ hs₁ hv => ?_
  -- no value is empty, so something has been picked
  have hne : o.chosen mask ≠ [] := by
    intro hnil
    have hvalue := hv.value.positive
    rw [hv.shows.denotes.count, hnil] at hvalue
    cases hvalue
  have hshown := Operand.spread_chosen (o.laneValue E R scalar) hne
  rw [← Nat.max_eq_right hpos] at hshown
  exact (reads_broadcast hs₁ hv mask).imp fun w g hw => hshown ▸ hw

/-- Every operand is loaded as the components that it shows, however deep it is nested. -/
theorem reads_load (o : Operand) : IsRead l E R M o := by
  -- registers of indices are nested less deep than the operand
  refine Operand.nested_induction (fun o ih => ?_) o
  intro s mask scalar hs hpos
  rw [load_eq]
  by_cases htype : o.type = .imm32
  · rw [if_pos htype]
    exact reads_shown hpos (reads_loadImmediate hs htype mask scalar)
  · rw [if_neg htype]
    exact reads_shown hpos (reads_loadRegister htype (reads_pointer hs (reads_element ih))
      mask scalar)

end Lower

end ShaderLowering
