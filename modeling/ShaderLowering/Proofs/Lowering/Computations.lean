import ShaderLowering.Proofs.Lowering.Operands

/-!
# What handlers compute

The handler of a covered instruction ends without any fault or gap, and the code that it emits does to
the variables what the instruction does to the registers: `Lower.performs_instruction`. Each handler
decodes, loads, computes and stores, so what it computes is put together from what is known of these.
-/

namespace ShaderLowering

open Spirv

variable {P : Platform} {l : Launch P} {M : Memory P} {E : Environment P} {R : Registers}

/-! ## Decoding -/

/-- What words are read as are whole operands. -/
theorem Cursor.isWhole_of_mem_operands {c : Cursor} {o : Operand}
    (h : o ∈ c.operands.operands) : o.IsWhole := by
  generalize hos : c.operands.operands = os at h
  induction os generalizing c with
  | nil => cases h
  | cons first rest ih =>
    obtain ⟨next, hdecode, hrest⟩ := decode_of_operands hos
    rcases List.mem_cons.1 h with rfl | h
    · exact Operand.returns_decode hdecode
    · exact ih hrest h

namespace Lower

variable {i : Instruction} {target a b c : Operand} {rest : List Operand}

theorem operands_of_ok {α : Type} {d : Decoder α} {x : α} {c : Cursor}
    (h : d i.cursor = .ok (x, c)) : operands i d = pure x := by
  rw [operands, h]

theorem operands_two (h : i.operandList = target :: a :: rest) :
    (operands i do
      let target ← Operand.decode
      let source ← Operand.decode
      return (target, source)) = pure (target, a) := by
  obtain ⟨c₁, h₁, hrest⟩ := Cursor.decode_of_operands h
  obtain ⟨c₂, h₂, -⟩ := Cursor.decode_of_operands hrest
  exact operands_of_ok (Decoder.bind_eq_ok.2 ⟨_, _, h₁, Decoder.bind_eq_ok.2 ⟨_, c₂, h₂, rfl⟩⟩)

theorem operands_three (h : i.operandList = target :: a :: b :: rest) :
    binaryOperands i = pure (target, a, b) := by
  obtain ⟨c₁, h₁, hrest⟩ := Cursor.decode_of_operands h
  obtain ⟨c₂, h₂, hrest⟩ := Cursor.decode_of_operands hrest
  obtain ⟨c₃, h₃, -⟩ := Cursor.decode_of_operands hrest
  exact operands_of_ok (Decoder.bind_eq_ok.2 ⟨_, _, h₁, Decoder.bind_eq_ok.2 ⟨_, _, h₂,
    Decoder.bind_eq_ok.2 ⟨_, c₃, h₃, rfl⟩⟩⟩)

theorem operands_four (h : i.operandList = target :: a :: b :: c :: rest) :
    (operands i do
      let target ← Operand.decode
      let a ← Operand.decode
      let b ← Operand.decode
      let c ← Operand.decode
      return (target, a, b, c)) = pure (target, a, b, c) := by
  obtain ⟨c₁, h₁, hrest⟩ := Cursor.decode_of_operands h
  obtain ⟨c₂, h₂, hrest⟩ := Cursor.decode_of_operands hrest
  obtain ⟨c₃, h₃, hrest⟩ := Cursor.decode_of_operands hrest
  obtain ⟨c₄, h₄, -⟩ := Cursor.decode_of_operands hrest
  exact operands_of_ok (Decoder.bind_eq_ok.2 ⟨_, _, h₁, Decoder.bind_eq_ok.2 ⟨_, _, h₂,
    Decoder.bind_eq_ok.2 ⟨_, _, h₃, Decoder.bind_eq_ok.2 ⟨_, c₄, h₄, rfl⟩⟩⟩⟩)

/-! ## Destinations -/

/-- A destination operand names a declared register that can be written. -/
structure IsTarget (g : Generator) (o : Operand) (r : Register) (id : Word) : Prop where
  register : o.register? = some r
  declared : g.registerId? r = some id
  writable : r.storage.isWritable = true
  nonempty : o.writeMask.isEmpty = false

theorem exists_isTarget {g : Generator} (h : target.isWritable g = true) :
    ∃ r id, IsTarget g target r id := by
  simp only [Operand.isWritable, Bool.and_eq_true, Bool.not_eq_true', Option.any_eq_true,
    Option.isSome_iff_exists] at h
  obtain ⟨hnonempty, r, hr, hwritable, id, hid⟩ := h
  exact ⟨r, id, hr, hid, hwritable, hnonempty⟩

theorem IsTarget.count_pos {g : Generator} {r : Register} {id : Word}
    (h : IsTarget g target r id) : 1 ≤ target.writeMask.count := by
  have hnonempty := h.nonempty
  rw [ComponentMask.isEmpty, List.isEmpty_eq_false_iff] at hnonempty
  exact List.length_pos_iff.2 hnonempty

/-- The memory behind an instruction that computes a value. -/
def written (i : Instruction) (M : Memory P) (R : Registers) (target : Operand) (r : Register)
    (id : Word) (value : Nat → Word) : Memory P :=
  M.write id (.lanes (fourLanes (merged target.writeMask (R r) fun n => i.clamp P (value n))))

variable {s : LowerState} {g₀ : Generator} {r : Register} {id : Word} {v : Value}
variable {f : Nat → Word}

/-- What an instruction computes is stored to its destination. -/
theorem performs_result (hR : Represents g₀ E R M) (ht : IsTarget g₀ target r id)
    (hs : s.generator.WellFormed) (hM : l.Reaches s.generator.module M)
    (hgrows : g₀.Grows s.generator) (hf : i.control.saturate = true → v.type.scalar = .float32)
    (hv : s.generator.module.HasValue v)
    (hx : l.Feeds s.generator.module v target.writeMask f) :
    Performs l s (storeResult i target v target.writeMask) (fun _ _ => True)
      (written i M R target r id f) :=
  performs_storeResult hs hM hgrows i ht.register ht.declared ht.writable
    (hR.registers r id ht.declared) ht.count_pos hf hv hx

/-! ## Computations -/

/-- A readable operand of an instruction is loaded, as floating-point numbers. -/
theorem isLoaded_operand (hR : Represents g₀ E R M) {o : Operand} (h : o ∈ i.operandList)
    (ho : o.isReadable g₀ = true) : IsLoaded l M E R g₀ o :=
  isLoaded hR o ho (Cursor.isWhole_of_mem_operands h)

/-- An operation that works component by component on one source. -/
theorem performs_unary (hR : Represents g₀ E R M) (ht : IsTarget g₀ target r id)
    (hs : s.generator.WellFormed) (hM : l.Reaches s.generator.module M)
    (hgrows : g₀.Grows s.generator) (hi : i.operandList = target :: a :: rest)
    (ha : a.isReadable g₀ = true) {op : Value → Generate Value} {F : Word → Word}
    (hk : IsSoundUnary op)
    (hop : ∀ (g : Generator) (v : Value) xs, g.WellFormed → l.Reaches g.module M →
      v.type.scalar = .float32 → l.Denotes g.module v xs →
      Performs l g (op v) (fun w g' => w.type = v.type ∧ l.Denotes g'.module w (xs.map F)) M) :
    Performs l s (unary i op) (fun _ _ => True)
      (written i M R target r id fun n => F (a.read E R n)) := by
  have hload : IsLoaded l M E R g₀ a := isLoaded_operand (i := i) hR (by simp [hi]) ha
  simp only [unary, operands_two hi, targetMask_of_writeMask ht.nonempty, pure_bind]
  refine (hload s _ .float32 hs hM hgrows ht.count_pos).bind
    (keeps_load hs a _ _) fun v s₁ hc₁ hs₁ hv hx hM₁ => ?_
  refine (performs_generate (hop _ v _ hs₁ hM₁ hx.1 hx.2)).bind
    (keeps_generate (hk _ v hs₁ hv)) fun w s₂ hc₂ hs₂ hw hy hM₂ => ?_
  refine performs_result hR ht hs₂ hM₂ (hgrows.trans (hc₁.trans hc₂).toGrows)
    (fun _ => by rw [hy.1, hx.1]) hw (.inl ?_)
  have hmap := hy.2
  rwa [List.map_map] at hmap

/-- An operation that works component by component on two sources. -/
theorem performs_binary (hR : Represents g₀ E R M) (ht : IsTarget g₀ target r id)
    (hs : s.generator.WellFormed) (hM : l.Reaches s.generator.module M)
    (hgrows : g₀.Grows s.generator) (hi : i.operandList = target :: a :: b :: rest)
    (ha : a.isReadable g₀ = true) (hb : b.isReadable g₀ = true)
    {op : Value → Value → Generate Value} {F : Word → Word → Word} (hk : IsSoundBinary op)
    (hop : ∀ (g : Generator) (v w : Value) xs ys, g.WellFormed → l.Reaches g.module M →
      v.type = w.type → v.type.scalar = .float32 → l.Denotes g.module v xs →
      l.Denotes g.module w ys → Performs l g (op v w)
        (fun w g' => w.type = v.type ∧ l.Denotes g'.module w (List.zipWith F xs ys)) M) :
    Performs l s (binary i op) (fun _ _ => True)
      (written i M R target r id fun n => F (a.read E R n) (b.read E R n)) := by
  have hloadA : IsLoaded l M E R g₀ a := isLoaded_operand (i := i) hR (by simp [hi]) ha
  have hloadB : IsLoaded l M E R g₀ b := isLoaded_operand (i := i) hR (by simp [hi]) hb
  simp only [binary, operands_three hi, targetMask_of_writeMask ht.nonempty, pure_bind]
  refine (hloadA s _ .float32 hs hM hgrows ht.count_pos).bind
    (keeps_load hs a _ _) fun v s₁ hc₁ hs₁ hv hx hM₁ => ?_
  have hgrows₁ := hgrows.trans hc₁.toGrows
  refine (hloadB s₁ _ .float32 hs₁ hM₁ hgrows₁ ht.count_pos).bind
    (keeps_load hs₁ b _ _) fun w s₂ hc₂ hs₂ hw hy hM₂ => ?_
  have hx₂ := hx.2.mono hc₂.module
  have htype : v.type = w.type := by
    rw [ValueType.eq_mk hx.1 hx.2.count, ValueType.eq_mk hy.1 hy.2.count]
    simp only [List.length_map]
  refine (performs_generate (hop _ v w _ _ hs₂ hM₂ htype hx.1 hx₂ hy.2)).bind
    (keeps_generate (hk _ v w hs₂ (hv.mono hc₂.continues) hw)) fun z s₃ hc₃ hs₃ hz hxy hM₃ => ?_
  refine performs_result hR ht hs₃ hM₃ (hgrows₁.trans (hc₂.trans hc₃).toGrows)
    (fun _ => by rw [hxy.1, hx.1]) hz (.inl ?_)
  have hzip := hxy.2
  rwa [List.zipWith_map, List.zipWith_self] at hzip

/-- A product of two sources, added to a third. -/
theorem performs_multiplyAdd (hR : Represents g₀ E R M) (ht : IsTarget g₀ target r id)
    (hs : s.generator.WellFormed) (hM : l.Reaches s.generator.module M)
    (hgrows : g₀.Grows s.generator) (hi : i.operandList = target :: a :: b :: c :: rest)
    (ha : a.isReadable g₀ = true) (hb : b.isReadable g₀ = true) (hc : c.isReadable g₀ = true) :
    Performs l s (multiplyAdd i) (fun _ _ => True) (written i M R target r id fun n =>
      P.add (P.mul (a.read E R n) (b.read E R n)) (c.read E R n)) := by
  have hloadA : IsLoaded l M E R g₀ a := isLoaded_operand (i := i) hR (by simp [hi]) ha
  have hloadB : IsLoaded l M E R g₀ b := isLoaded_operand (i := i) hR (by simp [hi]) hb
  have hloadC : IsLoaded l M E R g₀ c := isLoaded_operand (i := i) hR (by simp [hi]) hc
  simp only [multiplyAdd, operands_four hi, targetMask_of_writeMask ht.nonempty, pure_bind]
  refine (hloadA s _ .float32 hs hM hgrows ht.count_pos).bind
    (keeps_load hs a _ _) fun u s₁ hc₁ hs₁ hu hx hM₁ => ?_
  have hgrows₁ := hgrows.trans hc₁.toGrows
  refine (hloadB s₁ _ .float32 hs₁ hM₁ hgrows₁ ht.count_pos).bind
    (keeps_load hs₁ b _ _) fun v s₂ hc₂ hs₂ hv hy hM₂ => ?_
  have hgrows₂ := hgrows₁.trans hc₂.toGrows
  refine (hloadC s₂ _ .float32 hs₂ hM₂ hgrows₂ ht.count_pos).bind
    (keeps_load hs₂ c _ _) fun w s₃ hc₃ hs₃ hw hz hM₃ => ?_
  have hgrows₃ := hgrows₂.trans hc₃.toGrows
  have hx₃ := hx.2.mono (hc₂.trans hc₃).module
  have hu₃ := hu.mono (hc₂.trans hc₃).continues
  have htype : u.type = v.type := by
    rw [ValueType.eq_mk hx.1 hx.2.count, ValueType.eq_mk hy.1 hy.2.count]
    simp only [List.length_map]
  refine (performs_generate (Generate.performs_mul hs₃ hM₃ htype hx₃
    (hy.2.mono hc₃.module))).bind (keeps_generate (Generate.keeps_mul hs₃ hu₃
      (hv.mono hc₃.continues))) fun product s₄ hc₄ hs₄ hp hxy hM₄ => ?_
  have htype' : product.type = w.type := by
    rw [hxy.1, ValueType.eq_mk hx.1 hx.2.count, ValueType.eq_mk hz.1 hz.2.count]
    simp only [List.length_map]
  refine (performs_generate (Generate.performs_add hs₄ hM₄ htype' hxy.2
    (hz.2.mono hc₄.module))).bind (keeps_generate (Generate.keeps_add hs₄ hp.2
      (hw.mono hc₄.continues))) fun sum s₅ hc₅ hs₅ hs hxyz hM₅ => ?_
  refine performs_result hR ht hs₅ hM₅ (hgrows₃.trans (hc₄.trans hc₅).toGrows)
    (fun _ => by rw [hxyz.1, hxy.1, hx.1]) hs.2 (.inl ?_)
  have hzip := hxyz.2
  simp only [hxy.1, hx.1, ScalarType.add, ScalarType.mul] at hzip
  rwa [List.zipWith_map, List.zipWith_self, List.zipWith_map, List.zipWith_self] at hzip

/-- The product of the first components of two sources, for all components of the destination. -/
theorem performs_dot (hR : Represents g₀ E R M) (ht : IsTarget g₀ target r id)
    (hs : s.generator.WellFormed) (hM : l.Reaches s.generator.module M)
    (hgrows : g₀.Grows s.generator) (hi : i.operandList = target :: a :: b :: rest)
    (ha : a.isReadable g₀ = true) (hb : b.isReadable g₀ = true) {n : Nat} (htwo : 2 ≤ n)
    (hfour : n ≤ 4) :
    Performs l s (dot i n) (fun _ _ => True) (written i M R target r id fun _ =>
      P.dot ((List.range n).map (a.read E R)) ((List.range n).map (b.read E R))) := by
  have hloadA : IsLoaded l M E R g₀ a := isLoaded_operand (i := i) hR (by simp [hi]) ha
  have hloadB : IsLoaded l M E R g₀ b := isLoaded_operand (i := i) hR (by simp [hi]) hb
  have hcomponents : (ComponentMask.firstN n).components = List.range n :=
    Generate.components_firstN hfour
  have hcount : (ComponentMask.firstN n).count = n := by
    rw [ComponentMask.count, hcomponents, List.length_range]
  simp only [dot, operands_three hi, targetMask_of_writeMask ht.nonempty, pure_bind]
  refine (hloadA s (.firstN n) .float32 hs hM hgrows (by omega)).bind
    (keeps_load hs a _ _) fun v s₁ hc₁ hs₁ hv hx hM₁ => ?_
  have hgrows₁ := hgrows.trans hc₁.toGrows
  refine (hloadB s₁ (.firstN n) .float32 hs₁ hM₁ hgrows₁ (by omega)).bind
    (keeps_load hs₁ b _ _) fun w s₂ hc₂ hs₂ hw hy hM₂ => ?_
  rw [hcomponents] at hx hy
  have htype : v.type = w.type := by
    rw [ValueType.eq_mk hx.1 hx.2.count, ValueType.eq_mk hy.1 hy.2.count]
    simp only [List.length_map]
  have hlength : 2 ≤ ((List.range n).map (a.read E R)).length := by
    rw [List.length_map, List.length_range]
    exact htwo
  refine (performs_generate (Generate.performs_dot hs₂ hM₂ htype hx.1 hlength
    (hx.2.mono hc₂.module) hy.2)).bind (keeps_generate (Generate.keeps_dot hs₂
      (hv.mono hc₂.continues) hw)) fun z s₃ hc₃ hs₃ hz hxy hM₃ => ?_
  exact performs_result hR ht hs₃ hM₃ (hgrows₁.trans (hc₂.trans hc₃).toGrows)
    (fun _ => by rw [hxy.1]) hz.2 (.inr ⟨hxy.2, fun _ => rfl⟩)

/-! ## Sampling -/

/-- What is known of a declared texture that an operand names. -/
theorem exists_isTexture {texture : Operand} {saturates : Bool}
    (h : texture.isTexture g₀ saturates = true) :
    ∃ n register slot variableId imageType dim sampled coordinates,
      texture.type = .resource ∧ texture.dimension = 1 ∧ texture.selects = true ∧
      texture.token.componentCount = .four ∧ texture.index32? 0 = some n ∧
      g₀.resource? .shaderResource n =
        some ⟨register, slot, variableId, .image imageType dim sampled⟩ ∧
      dim.coordinates? = some coordinates ∧ (saturates = true → sampled = .float32) := by
  simp only [Operand.isTexture, Bool.and_eq_true, beq_iff_eq, Option.any_eq_true,
    Option.isSome_iff_exists] at h
  obtain ⟨⟨⟨⟨htype, hdimension⟩, selection, hselection⟩, hselects⟩, n, hn, d, hd, hform⟩ := h
  obtain ⟨register, slot, variableId, form⟩ := d
  cases form with
  | constantBuffer | sampler => cases hform
  | image imageType dim sampled =>
    simp only [Bool.and_eq_true, Bool.or_eq_true, Bool.not_eq_true', beq_iff_eq,
      Option.isSome_iff_exists] at hform
    obtain ⟨⟨coordinates, hcoordinates⟩, hsampled⟩ := hform
    refine ⟨n, register, slot, variableId, imageType, dim, sampled, coordinates, htype, hdimension,
      hselects, Operand.componentCount_of_selection? hselection, hn, hd, hcoordinates,
      fun hsaturates => ?_⟩
    rcases hsampled with hnot | hfloat
    · rw [hsaturates] at hnot
      cases hnot
    · exact hfloat

/-- A texel, whose components are selected by the operand that names the texture. -/
theorem performs_sample (hR : Represents g₀ E R M) (ht : IsTarget g₀ target r id)
    (hs : s.generator.WellFormed) (hM : l.Reaches s.generator.module M)
    (hgrows : g₀.Grows s.generator) {coordinate texture sampler : Operand}
    (hi : i.operandList = target :: coordinate :: texture :: sampler :: rest)
    (hoffsets : i.sampleOffsets.all (· == 0) = true) (hx : coordinate.isReadable g₀ = true)
    (htexture : texture.isTexture g₀ i.control.saturate = true)
    (hsampler : sampler.isSampler g₀ = true) :
    ∃ t n count, texture.index32? 0 = some t ∧ sampler.index32? 0 = some n ∧
      (E.dim t).components? = some count ∧
      Performs l s (sample i) (fun _ _ => True) (written i M R target r id fun lane =>
        P.sample (E.texture t) (E.sampler n) E.stage.level?
          ((List.range count).map (coordinate.read E R)) (texture.lane lane)) := by
  have hload : IsLoaded l M E R g₀ coordinate := isLoaded_operand (i := i) hR (by simp [hi]) hx
  obtain ⟨t, register, slot, imageId, imageType, dim, sampled, coordinates, htype, hdimension,
    hselects, hfour, ht', himage, hcoordinates, hfloat⟩ := exists_isTexture htexture
  simp only [Operand.isSampler, Bool.and_eq_true, beq_iff_eq, Option.any_eq_true,
    Option.isSome_iff_exists] at hsampler
  obtain ⟨⟨hsamplerType, hsamplerDimension⟩, n, hn, d, hd⟩ := hsampler
  obtain ⟨hbound, hdim⟩ := hR.textures t _ himage
  have hcount : dim.components? = some (coordinates + if dim.isArray then 1 else 0) := by
    rw [ResourceDim.components?, hcoordinates, Option.map_some]
  cases hdim
  refine ⟨t, n, _, ht', hn, hcount, ?_⟩
  have hnone : i.sampleOffsets.any (· ≠ 0) = false := by
    rw [List.any_eq_false]
    intro offset hoffset
    have hzero := List.all_eq_true.1 hoffsets offset hoffset
    simpa using hzero
  simp only [sample, operands_four hi, expectType_of_eq htype, expectDimension_of_eq hdimension,
    expectType_of_eq hsamplerType, expectDimension_of_eq hsamplerDimension,
    plainIndex_of_index32? ht', plainIndex_of_index32? hn, targetMask_of_writeMask ht.nonempty,
    hnone, pure_bind]
  refine (hload s .xyzw .float32 hs hM hgrows (by decide)).bind
    (keeps_load hs coordinate _ _) fun v s₁ hc₁ hs₁ hv hx hM₁ => ?_
  have hgrows₁ := hgrows.trans hc₁.toGrows
  have hle := (ResourceDim.components?_le hcount).2
  refine (performs_generate (Generate.performs_sample hs₁ hM₁ (hgrows₁.resource? himage)
    (hgrows₁.resource? hd) hcount hbound (hR.samplers n d hd) hv hx.1 hx.2 hle)).bind
      (keeps_generate (Generate.keeps_sample hs₁ t n hv)) fun texel s₂ hc₂ hs₂ hw hy hM₂ => ?_
  refine (performs_select hs₂ hM₂ ht.count_pos hy.2 hselects hfour).bind
    (keeps_select hs₂ hw _) fun w s₃ hc₃ hs₃ hw hz hM₃ => ?_
  have hperforms := performs_result hR ht hs₃ hM₃ (hgrows₁.trans (hc₂.trans hc₃).toGrows)
    (fun hsaturate => by rw [hz.1, hy.1]; exact hfloat hsaturate) hw hz.2
  have hstage : s₁.generator.stage = E.stage := hgrows₁.fixed.1.trans hR.stage.symm
  have hpick := pick_fourLanes (fun i hi => Nat.lt_of_lt_of_le (List.mem_range.1 hi) hle)
    (coordinate.read E R)
  rw [← hpick, ← hstage]
  exact hperforms

/-! ## Instructions -/

/-- The handler of an instruction ends, and its code writes to the variable of a register what the
instruction writes to the register. -/
def Simulates (l : Launch P) (M : Memory P) (E : Environment P) (R : Registers) (s : LowerState)
    (i : Instruction) : Prop :=
  ∃ r id mask value, i.step E R = R.write r mask value ∧ s.generator.registerId? r = some id ∧
    Performs l s (instruction i) (fun _ _ => True)
      (M.write id (.lanes (fourLanes (merged mask (R r) value))))

/-- An instruction with a destination writes what it computes. -/
theorem step_eq {value : Nat → Word} (hi : i.operandList = target :: rest)
    (hr : target.register? = some r) (hc : i.compute? E R = some value) :
    i.step E R = R.write r target.writeMask fun n => i.clamp P (value n) := by
  simp only [Instruction.step, hi, List.head?_cons, Option.bind_some, Option.map_some, hr, hc]

/-- An instruction is simulated if its handler writes what it computes. -/
theorem simulates_of_performs (hi : i.operandList = target :: rest)
    (htarget : target.isWritable s.generator = true) {value : Nat → Word}
    (hp : ∀ r id, IsTarget s.generator target r id →
      Performs l s (instruction i) (fun _ _ => True) (written i M R target r id value))
    (hc : i.compute? E R = some value) : Simulates l M E R s i := by
  obtain ⟨r, id, ht⟩ := exists_isTarget htarget
  exact ⟨r, id, _, _, step_eq hi ht.register hc, ht.declared, hp r id ht⟩

/-- Every covered instruction that is no return is simulated. -/
theorem simulates_instruction (hR : Represents s.generator E R M) (hs : s.generator.WellFormed)
    (hM : l.Reaches s.generator.module M) (hi : i.isCovered s.generator = true)
    (hret : i.opcode ≠ .ret) : Simulates l M E R s i := by
  have hgrows := Generator.Grows.refl s.generator
  have hdot {target a b : Operand} {rest : List Operand} {n : Nat} (htwo : 2 ≤ n) (hfour : n ≤ 4)
      (hi : (target.isWritable s.generator && a.isReadable s.generator &&
        b.isReadable s.generator) = true) (hops : i.operandList = target :: a :: b :: rest)
      (hop : instruction i = dot i n)
      (hc : i.compute? E R = some fun _ =>
        P.dot ((List.range n).map (a.read E R)) ((List.range n).map (b.read E R))) :
      Simulates l M E R s i := by
    simp only [Bool.and_eq_true] at hi
    refine simulates_of_performs hops hi.1.1 (fun r id ht => ?_) hc
    rw [hop]
    exact performs_dot hR ht hs hM hgrows hops hi.1.2 hi.2 htwo hfour
  rw [Instruction.isCovered] at hi
  split at hi
  · next target a rest hop hops =>
    rw [Bool.and_eq_true] at hi
    refine simulates_of_performs hops hi.1 (fun r id ht => ?_)
      (by simp only [Instruction.compute?, hop, hops]; rfl)
    rw [instruction, hop]
    refine performs_unary hR ht hs hM hgrows hops hi.2 (F := fun w => w)
      (fun g v hg hv => .pure hg hv) fun g v xs hg hM hf hx => ?_
    rw [List.map_id']
    exact .pure hM ⟨rfl, hx⟩
  · next target a rest hop hops =>
    rw [Bool.and_eq_true] at hi
    refine simulates_of_performs hops hi.1 (fun r id ht => ?_)
      (by simp only [Instruction.compute?, hop, hops]; rfl)
    rw [instruction, hop]
    exact performs_unary hR ht hs hM hgrows hops hi.2
      (fun g v hg hv => (Generate.keeps_inverseSqrt hg hv).imp fun _ _ h => h.2)
      fun g v xs hg hM hf hx => Generate.performs_inverseSqrt hg hM hf hx
  · next target a b rest hop hops =>
    simp only [Bool.and_eq_true] at hi
    refine simulates_of_performs hops hi.1.1 (fun r id ht => ?_)
      (by simp only [Instruction.compute?, hop, hops]; rfl)
    rw [instruction, hop]
    exact performs_binary hR ht hs hM hgrows hops hi.1.2 hi.2
      (fun g v w hg hv hw => (Generate.keeps_add hg hv hw).imp fun _ _ h => h.2)
      fun g v w xs ys hg hM ht hf hx hy => by
        simpa only [hf, ScalarType.add] using Generate.performs_add hg hM ht hx hy
  · next target a b rest hop hops =>
    simp only [Bool.and_eq_true] at hi
    refine simulates_of_performs hops hi.1.1 (fun r id ht => ?_)
      (by simp only [Instruction.compute?, hop, hops]; rfl)
    rw [instruction, hop]
    exact performs_binary hR ht hs hM hgrows hops hi.1.2 hi.2
      (fun g v w hg hv hw => (Generate.keeps_mul hg hv hw).imp fun _ _ h => h.2)
      fun g v w xs ys hg hM ht hf hx hy => by
        simpa only [hf, ScalarType.mul] using Generate.performs_mul hg hM ht hx hy
  · next target a b rest hop hops =>
    exact hdot (n := 2) (by decide) (by decide) hi hops (by rw [instruction, hop])
      (by simp only [Instruction.compute?, hop, hops])
  · next target a b rest hop hops =>
    exact hdot (n := 3) (by decide) (by decide) hi hops (by rw [instruction, hop])
      (by simp only [Instruction.compute?, hop, hops])
  · next target a b rest hop hops =>
    exact hdot (n := 4) (by decide) (by decide) hi hops (by rw [instruction, hop])
      (by simp only [Instruction.compute?, hop, hops])
  · next target a b c rest hop hops =>
    simp only [Bool.and_eq_true] at hi
    obtain ⟨⟨⟨htarget, ha⟩, hb⟩, hc⟩ := hi
    refine simulates_of_performs hops htarget (fun r id ht => ?_)
      (by simp only [Instruction.compute?, hop, hops]; rfl)
    rw [instruction, hop]
    exact performs_multiplyAdd hR ht hs hM hgrows hops ha hb hc
  · next target coordinate texture sampler rest hop hops =>
    simp only [Bool.and_eq_true] at hi
    obtain ⟨⟨⟨⟨hoffsets, htarget⟩, hx⟩, htexture⟩, hsampler⟩ := hi
    obtain ⟨r, id, ht⟩ := exists_isTarget htarget
    obtain ⟨t, n, count, ht', hn, hcount, hp⟩ :=
      performs_sample hR ht hs hM hgrows hops hoffsets hx htexture hsampler
    refine ⟨r, id, _, _, step_eq hops ht.register ?_, ht.declared, by rw [instruction, hop]; exact hp⟩
    simp only [Instruction.compute?, hop, hops, ht', hn, hcount, Option.bind_eq_bind,
      Option.bind_some]
    rfl
  · next hop => exact absurd hop hret
  · cases hi

end Lower

end ShaderLowering
