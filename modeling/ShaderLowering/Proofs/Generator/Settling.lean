import ShaderLowering.Proofs.Generator.Evaluating
import ShaderLowering.Proofs.Generator.Representing
import ShaderLowering.Proofs.Lowering.CodeKept
import ShaderLowering.Proofs.Semantics.Requests

/-!
# Operations that may fail

An operation of the generator checks its arguments before it emits anything that matters. `Settles`
says what that comes to: where the operation succeeds, its result stands for what it is asked for, and
where it fails, the variables hold what they held. There is one lemma for each operation, without any
condition on its arguments but that values and pointers are good for something, and stand for
something.
-/

namespace ShaderLowering

open Spirv

variable {P : Platform} {ε S α β : Type} [HasGenerator S]

/-- If an operation succeeds, its result has a property and the variables hold what the second of two
memories says; if it fails, they hold what the first one says. -/
structure Settles (l : Launch P) (s : S) (op : ExceptT ε (StateM S) α)
    (Q : α → Generator → Prop) (M M' : Memory P) : Prop where
  ok : ∀ a, (op.run s).1 = .ok a → Q a (HasGenerator.generator (op.run s).2) ∧
    l.Reaches (HasGenerator.generator (op.run s).2).module M'
  error : ∀ e, (op.run s).1 = .error e → l.Reaches (HasGenerator.generator (op.run s).2).module M

namespace Settles

variable {l : Launch P} {M M' : Memory P}
variable {s : S} {op : ExceptT ε (StateM S) α} {f : α → ExceptT ε (StateM S) β}
variable {Q Q' : α → Generator → Prop} {R : β → Generator → Prop}

theorem throw {e : ε} (hM : l.Reaches (HasGenerator.generator s).module M) :
    Settles l s (MonadExcept.throw e : ExceptT ε (StateM S) α) Q M M' :=
  ⟨nofun, fun _ _ => hM⟩

theorem pure {a : α} (hM : l.Reaches (HasGenerator.generator s).module M')
    (h : Q a (HasGenerator.generator s)) :
    Settles l s (Pure.pure a : ExceptT ε (StateM S) α) Q M M' :=
  ⟨fun b hb => by
    cases hb
    exact ⟨h, hM⟩, nofun⟩

/-- An operation that succeeds settles. -/
theorem of_performs (h : Performs l s op Q M') : Settles l s op Q M M' := by
  obtain ⟨⟨a, ha, hQ⟩, -, hM⟩ := h
  refine ⟨fun b hb => ?_, fun e he => ?_⟩
  · rw [ha] at hb
    cases hb
    exact ⟨hQ, hM⟩
  · rw [ha] at he
    cases he

/-- An operation that succeeds under a condition, and that fails at once without it, settles. -/
theorem of_guard {c : Prop} (hM : l.Reaches (HasGenerator.generator s).module M)
    (h : c → Performs l s op Q M') (hc : ¬c → ∃ e, op = MonadExcept.throw e) :
    Settles l s op Q M M' := by
  by_cases hholds : c
  · exact .of_performs (h hholds)
  · obtain ⟨e, rfl⟩ := hc hholds
    exact .throw hM

/-- What is known of the result of an operation helps to say what it stands for. -/
theorem imp_of_keeps {K : α → Generator → Prop} (h : Settles l s op Q M M') (hk : Keeps s op K)
    (hQ : ∀ a g, (HasGenerator.generator s).Continues g → K a g → Q a g → Q' a g) :
    Settles l s op Q' M M' :=
  ⟨fun a ha => ⟨hQ a _ hk.continues (hk.result a ha) (h.ok a ha).1, (h.ok a ha).2⟩, h.error⟩

/-- What is made of a result alone leaves the state as it is. -/
theorem bind_pure {f : α → β} (h : Settles l s op Q M M') (hQ : ∀ a g, Q a g → R (f a) g) :
    Settles l s (op >>= fun a => Pure.pure (f a)) R M M' := by
  rcases hop : op.run s with ⟨e | a, s'⟩
  · have hrun : (op >>= fun a => Pure.pure (f a)).run s = (.error e, s') := by rw [run_bind, hop]
    have herror := h.error e (by rw [hop])
    rw [hop] at herror
    refine ⟨fun b hb => ?_, fun _ _ => ?_⟩
    · rw [hrun] at hb
      cases hb
    · rw [hrun]
      exact herror
  · have hrun : (op >>= fun a => Pure.pure (f a)).run s = (.ok (f a), s') := by
      rw [run_bind, hop]
      rfl
    have hok := h.ok a (by rw [hop])
    rw [hop] at hok
    refine ⟨fun b hb => ?_, fun e he => ?_⟩
    · rw [hrun] at hb ⊢
      cases hb
      exact ⟨hQ a _ hok.1, hok.2⟩
    · rw [hrun] at he
      cases he

/-- Reading the state changes nothing. -/
theorem get_bind {f : S → ExceptT ε (StateM S) β} (h : Settles l s (f s) R M M') :
    Settles l s (get >>= f) R M M' := by
  have hrun : (get >>= f).run s = (f s).run s := by rw [run_bind, run_get]
  refine ⟨fun b hb => ?_, fun e he => ?_⟩
  · rw [hrun] at hb ⊢
    exact h.ok b hb
  · rw [hrun] at he ⊢
    exact h.error e he

end Settles

/-! ## Values and pointers -/

namespace Spirv.Launch

variable {l : Launch P} {g g' : Generator} {m m' : Module} {v : Value} {x : Lanes} {p : Pointer}
variable {place : Place}

/-- A value stands for components of its type. -/
structure Shows (l : Launch P) (m : Module) (v : Value) (x : Lanes) : Prop where
  scalar : v.type.scalar = x.scalar
  denotes : l.Denotes m v x.words

theorem Shows.mono (h : l.Shows m v x) (hg : m.Grows m') : l.Shows m' v x :=
  ⟨h.scalar, h.denotes.mono hg⟩

theorem Shows.length_le (h : l.Shows m v x) (hv : m.HasValue v) : x.words.length ≤ 4 :=
  h.denotes.count ▸ hv.atMostFour

/-- A value of one component stands for it. -/
theorem Shows.eq_of_count_eq_one (h : l.Shows m v x) (hone : v.type.count = 1) :
    x.words = [x.get 0] := by
  obtain ⟨w, hw⟩ := List.length_eq_one_iff.1 (h.denotes.count.symm.trans hone)
  rw [Lanes.get, hw, List.getD_cons_zero]

theorem Shows.type (h : l.Shows m v x) : v.type = x.type :=
  ValueType.eq_mk h.scalar h.denotes.count

/-- A pointer points to a place of a generator. -/
def Locates (l : Launch P) (g : Generator) (p : Pointer) : Place → Prop
  | .register r => p.storage = r.storage ∧
      ∃ id, g.registerId? r = some id ∧ l.Holds g.module p.id (.pointer id)
  | .element buffer index => p.storage = .uniform ∧
      ∃ d, g.resource? .constantBuffer buffer = some d ∧
        l.Holds g.module p.id (.element d.variableId index)

theorem Locates.mono (h : l.Locates g p place) (hg : g.Grows g') : l.Locates g' p place := by
  cases place with
  | register r =>
    obtain ⟨hs, id, hid, hp⟩ := h
    exact ⟨hs, id, hg.registerId? hid, hp.mono hg.module⟩
  | element buffer index =>
    obtain ⟨hs, d, hd, hp⟩ := h
    exact ⟨hs, d, hg.resource? hd, hp.mono hg.module⟩

end Spirv.Launch

/-- The type of the components of a declared texture. -/
def DeclaredResource.sampled? (r : DeclaredResource) : Option ScalarType :=
  match r.form with
  | .image _ _ sampled => some sampled
  | _ => none

/-- What surrounds a program says of the textures that are declared what their components are. -/
def Surroundings.Suits (E : Surroundings P) (g : Generator) : Prop :=
  ∀ n d, g.resource? .shaderResource n = some d → d.sampled? = some (E.sampled n)

namespace Generate

variable {l : Launch P} {g : Generator} {M M' : Memory P} {a b v : Value} {x y : Lanes}
variable {p : Pointer} {place : Place} {Q : α → Generator → Prop} {op : Generate α}

theorem settles_fault {f : GeneratorFault} (hM : l.Reaches g.module M) :
    Settles l g (fault f : Generate α) Q M M' := .throw hM

theorem settles_missing {feature : MissingFeature} (hM : l.Reaches g.module M) :
    Settles l g (missing feature : Generate α) Q M M' := .throw hM

/-- What leaves the code alone leaves the memory alone, whether it fails or not. -/
theorem settles_of_leavesCode (hk : Keeps g op Q) (hc : LeavesCode op)
    (hM : l.Reaches g.module M) : Settles l g op (fun _ _ => True) M M := by
  have hM' := hM.of_body hk.continues.module (hc g)
  exact ⟨fun _ _ => ⟨trivial, hM'⟩, fun _ _ => hM'⟩

/-! ## Pointers -/

theorem settles_tempPointer (hg : g.WellFormed) (hM : l.Reaches g.module M) (n : Word) :
    Settles l g (tempPointer n) (fun p g' => l.Locates g' p (.register (.temp n))) M M := by
  refine .get_bind ?_
  split
  · next id hid =>
    have hmem : id ∈ g.temps.toList := Array.mem_toList_iff.2 (Array.mem_of_getElem? hid)
    exact .pure hM ⟨rfl, id, hid, IsRegisterVariable.holds (hg.temps id hmem)⟩
  · exact settles_fault hM

theorem settles_interfacePointer (hg : g.WellFormed) (hM : l.Reaches g.module M)
    (type : OperandType) (n : Word) :
    Settles l g (interfacePointer type n) (fun p g' => ∃ kind,
      InterfaceClass.ofOperandType? type = some kind ∧
        l.Locates g' p (.register (.interface kind n))) M M := by
  refine .get_bind ?_
  split
  · next v hv =>
    obtain ⟨kind, hkind, hv⟩ := Option.bind_eq_some_iff.1 hv
    obtain ⟨hmem, rfl, -⟩ := Generator.interface?_eq_some hv
    have hid : g.registerId? (.interface v.kind n) = some v.variableId :=
      Option.map_eq_some_iff.2 ⟨v, hv, rfl⟩
    exact .pure hM ⟨v.kind, hkind, rfl, v.variableId, hid,
      IsRegisterVariable.holds (hg.interfaces v hmem)⟩
  · exact settles_fault hM

theorem settles_constantBufferPointer (hg : g.WellFormed) (hM : l.Reaches g.module M)
    (buffer : Word) (hv : g.module.HasValue v) (hx : l.Shows g.module v x) :
    Settles l g (constantBufferPointer buffer v)
      (fun p g' => l.Locates g' p (.element buffer (x.get 0))) M M := by
  cases hd : g.resource? .constantBuffer buffer with
  | none =>
    refine .get_bind ?_
    rw [hd]
    exact settles_fault hM
  | some d =>
    by_cases helement : (v.type.scalar.isInteger && v.type.count == 1) = true
    · have hnumber := helement
      rw [Bool.and_eq_true, beq_iff_eq] at hnumber
      have hdenotes := hx.denotes
      -- the number of the element is the only component of the value
      rw [hx.eq_of_count_eq_one hnumber.2] at hdenotes
      exact (Settles.of_performs (performs_constantBufferPointer hg hM hd hdenotes
        hnumber.1)).imp_of_keeps (keeps_constantBufferPointer hg buffer hv) fun p g' hc _ h =>
          ⟨h.2.1, d, hc.resource? hd, h.2.2⟩
    · refine .get_bind ?_
      simp only [hd, fault_bind]
      rw [if_neg helement]
      exact settles_fault hM

/-! ## Loads and stores -/

/-- What a pointer points to is what the registers and constant buffers hold. -/
theorem read_of_locates {E : Environment P} {R : Registers} (hR : Represents g E R M)
    (hp : l.Locates g p place) : ∃ d, l.Holds g.module p.id d ∧
      M.read d = some (.lanes (fourLanes (place.read E R))) := by
  cases place with
  | register r =>
    obtain ⟨-, id, hid, hp⟩ := hp
    exact ⟨_, hp, congrArg some (hR.registers r id hid)⟩
  | element buffer index =>
    obtain ⟨-, d, hd, hp⟩ := hp
    exact ⟨_, hp, by simp only [Memory.read, hR.buffers buffer d hd]; rfl⟩

theorem settles_load {E : Environment P} {R : Registers} (hg : g.WellFormed)
    (hM : l.Reaches g.module M) (hR : Represents g E R M) (hp : g.module.HasPointer p)
    (hplace : l.Locates g p place) :
    Settles l g (load p)
      (fun v g' => l.Shows g'.module v ⟨.float32, fourLanes (place.read E R)⟩) M M := by
  obtain ⟨d, hd, hread⟩ := read_of_locates hR hplace
  refine .of_performs ((performs_load hg hM hd hread (by rw [hp.value]; rfl)).imp fun v g' h => ?_)
  exact ⟨by rw [h.1, hp.value]; rfl, h.2⟩

/-- A store is refused, or the value fits the mask and what the pointer points to. -/
theorem store_eq_fault_or (p : Pointer) (v : Value) (mask : ComponentMask) :
    (∃ f, store p v mask = fault f) ∨ p.storage.isWritable = true ∧
      v.type.scalar = p.value.scalar ∧ maskFits mask p.value.count = true ∧
      (v.type.count = p.value.count ∨ v.type.count = mask.count) := by
  simp only [store, fault_bind]
  split
  · next hw =>
    split
    · exact .inl ⟨_, rfl⟩
    · next hs =>
      split
      · next hfits =>
        split
        · exact .inl ⟨_, rfl⟩
        · next hcount => exact .inr ⟨hw, Decidable.not_not.1 hs, hfits, by omega⟩
      · exact .inl ⟨_, rfl⟩
  · exact .inl ⟨_, rfl⟩

/-- A store that succeeds writes the variable of a register as its register is written. -/
theorem settles_store {G : Generator} {E : Environment P} {R : Registers} (hG : G.WellFormed)
    (hfit : G.module.bound < UInt32.size) (hgrows : g.Grows G) (hR : Represents G E R M)
    (hg : g.WellFormed) (hM : l.Reaches g.module M) (hp : g.module.HasPointer p)
    (hplace : l.Locates g p place) (hv : g.module.HasValue v) (hx : l.Shows g.module v x)
    (mask : ComponentMask) : ∃ M', Represents G E (place.store R mask x) M' ∧
      Settles l g (store p v mask) (fun _ _ => True) M M' := by
  cases place with
  | element buffer index =>
    -- elements of constant buffers cannot be written, so nothing is stored
    refine ⟨M, hR, ?_⟩
    rcases store_eq_fault_or p v mask with ⟨f, hf⟩ | ⟨hw, -⟩
    · rw [hf]
      exact settles_fault hM
    · rw [hplace.1] at hw
      cases hw
  | register r =>
    obtain ⟨-, id, hid, hp'⟩ := hplace
    -- the memory behind the store, which a store that is refused does not get to
    have hid' := hgrows.registerId? hid
    refine ⟨_, hR.write hG hfit hid' mask (stored mask x.words), ?_⟩
    rcases store_eq_fault_or p v mask with ⟨f, hf⟩ | ⟨hw, hs, hfits, hcount⟩
    · rw [hf]
      exact settles_fault hM
    · rw [hp.value] at hs hcount
      rw [hx.denotes.count] at hcount
      exact .of_performs (performs_store hg hM hp hw hp' (hR.registers r id hid') hv hs hx.denotes
        (maskFits_iff.1 hfits).1 hcount)

/-! ## Components -/

theorem settles_cast (hg : g.WellFormed) (hM : l.Reaches g.module M) (hx : l.Shows g.module v x)
    (scalar : ScalarType) :
    Settles l g (cast v scalar) (fun w g' => l.Shows g'.module w ⟨scalar, x.words⟩) M M :=
  .of_performs ((performs_cast hg hM hx.denotes scalar).imp fun _ _ h => ⟨by rw [h.1], h.2⟩)

theorem settles_extract (hg : g.WellFormed) (hM : l.Reaches g.module M)
    (hv : g.module.HasValue v) (hx : l.Shows g.module v x) (mask : ComponentMask) :
    Settles l g (extract v mask) (fun w g' => l.Shows g'.module w (x.pick mask.components)) M M := by
  refine .of_guard (c := maskFits mask v.type.count = true) hM (fun hfits => ?_) fun hfits => ?_
  · obtain ⟨hpos, hlt⟩ := maskFits_iff.1 hfits
    rw [hx.denotes.count] at hlt
    refine (performs_extract hg hM hx.denotes (hx.length_le hv) hpos hlt).imp fun w g' h => ?_
    exact ⟨by rw [h.1]; exact hx.scalar, h.2⟩
  · simp only [extract, fault_bind]
    exact ⟨_, if_neg hfits⟩

theorem settles_swizzle (hg : g.WellFormed) (hM : l.Reaches g.module M)
    (hv : g.module.HasValue v) (hx : l.Shows g.module v x) (s : Swizzle) (mask : ComponentMask) :
    Settles l g (swizzle v s mask)
      (fun w g' => l.Shows g'.module w (x.pick (mask.components.map s.get))) M M := by
  cases hlane : (mask.components.map s.get).find? (v.type.count ≤ ·) with
  | some lane =>
    simp only [swizzle, fault_bind, hlane]
    split
    · exact settles_fault hM
    · exact settles_fault hM
  | none =>
    -- all lanes that are asked for are there
    refine .of_guard (c := ¬mask.isEmpty = true) hM (fun hempty => ?_) fun hempty => ?_
    · have hpos : 1 ≤ mask.components.length := by
        rw [ComponentMask.isEmpty, List.isEmpty_iff] at hempty
        exact List.length_pos_iff.2 hempty
      have hlt : ∀ i ∈ mask.components, s.get i < x.words.length := fun i hi => by
        have := List.find?_eq_none.1 hlane _ (List.mem_map_of_mem hi)
        rw [hx.denotes.count] at this
        simpa using this
      refine (performs_swizzle hg hM hx.denotes (hx.length_le hv) hpos hlt).imp fun w g' h => ?_
      refine ⟨by rw [h.1]; exact hx.scalar, h.2⟩
    · simp only [swizzle, fault_bind]
      exact ⟨_, if_pos (Decidable.not_not.1 hempty)⟩

theorem settles_replicate (hg : g.WellFormed) (hM : l.Reaches g.module M)
    (hx : l.Shows g.module v x) (count : Nat) :
    Settles l g (replicate v count)
      (fun w g' => l.Shows g'.module w ⟨x.scalar, List.replicate count (x.get 0)⟩) M M := by
  refine .of_guard (c := v.type.count = 1) hM (fun hone => ?_) fun hone => ?_
  · have hdenotes := hx.denotes
    rw [hx.eq_of_count_eq_one hone] at hdenotes
    exact (performs_replicate hg hM hdenotes count).imp fun _ _ h =>
      ⟨by rw [h.1]; exact hx.scalar, h.2⟩
  · simp only [replicate, fault_bind]
    exact ⟨_, if_pos hone⟩

/-! ## Arithmetic -/

theorem expectSameType_of_ne (h : a.type ≠ b.type) :
    expectSameType a b = fault (.typeMismatch a.type b.type) := if_pos h

theorem expectFloat_of_ne (h : v.type.scalar ≠ .float32) :
    expectFloat v = fault (.typeMismatch (v.type.withScalar .float32) v.type) := if_pos h

/-- The operands of a sum or a product have the same type, or it fails. -/
theorem settles_binary (hg : g.WellFormed) (hM : l.Reaches g.module M) {float integer : Spirv.Op}
    {f : Word → Word → Word}
    (hop : (if x.scalar = .float32 then float else integer, f) ∈
      [(.fAdd, P.add), (.fMul, P.mul), (.iAdd, (· + ·)), (.iMul, (· * ·))])
    (hx : l.Shows g.module a x) (hy : l.Shows g.module b y) :
    Settles l g (binary float integer a b)
      (fun w g' => l.Shows g'.module w (x.zip f y)) M M := by
  rw [← hx.scalar] at hop
  refine .of_guard (c := a.type = b.type) hM (fun ht => ?_) fun ht => ?_
  · exact (performs_binary hg hM hop ht hx.denotes hy.denotes).imp fun _ _ h =>
      ⟨by rw [h.1]; exact hx.scalar, h.2⟩
  · rw [binary, expectSameType_of_ne ht, fault_bind]
    exact ⟨_, rfl⟩

theorem settles_add (hg : g.WellFormed) (hM : l.Reaches g.module M) (hx : l.Shows g.module a x)
    (hy : l.Shows g.module b y) :
    Settles l g (add a b) (fun w g' => l.Shows g'.module w (x.zip (x.scalar.add P) y)) M M :=
  settles_binary hg hM (by cases x.scalar <;> simp [ScalarType.add]) hx hy

theorem settles_mul (hg : g.WellFormed) (hM : l.Reaches g.module M) (hx : l.Shows g.module a x)
    (hy : l.Shows g.module b y) :
    Settles l g (mul a b) (fun w g' => l.Shows g'.module w (x.zip (x.scalar.mul P) y)) M M :=
  settles_binary hg hM (by cases x.scalar <;> simp [ScalarType.mul]) hx hy

theorem settles_dot (hg : g.WellFormed) (hM : l.Reaches g.module M) (hv : g.module.HasValue a)
    (hx : l.Shows g.module a x) (hy : l.Shows g.module b y) :
    Settles l g (dot a b) (fun w g' => l.Shows g'.module w (x.dot P y)) M M := by
  by_cases hsame : a.type = b.type ∧ a.type.scalar = .float32
  · obtain ⟨ht, hf⟩ := hsame
    rw [Lanes.dot]
    split
    · next hone =>
      -- the product of single components takes the place of the dot product, which has none
      have hmul : dot a b = mul a b := by
        simp only [dot, expectSameType_of_eq ht, pure_bind, missing_bind]
        rw [if_neg (not_not_intro hf), if_pos (hx.denotes.count.trans hone)]
      rw [hmul]
      exact settles_mul hg hM hx hy
    · next hmany =>
      have htwo : 2 ≤ x.words.length := by
        have := hv.positive
        rw [hx.denotes.count] at this
        omega
      exact .of_performs ((performs_dot hg hM ht hf htwo hx.denotes hy.denotes).imp fun _ _ h =>
        ⟨by rw [h.1], h.2⟩)
  -- components that are no floating-point numbers are missing, other types are refused
  · refine .of_guard (c := False) hM False.elim fun _ => ?_
    by_cases ht : a.type = b.type
    · simp only [dot, expectSameType_of_eq ht, pure_bind, missing_bind]
      exact ⟨_, if_pos fun hf => hsame ⟨ht, hf⟩⟩
    · rw [dot, expectSameType_of_ne ht, fault_bind]
      exact ⟨_, rfl⟩

theorem settles_inverseSqrt (hg : g.WellFormed) (hM : l.Reaches g.module M)
    (hx : l.Shows g.module v x) :
    Settles l g (inverseSqrt v) (fun w g' => l.Shows g'.module w (x.map P.inverseSqrt)) M M := by
  refine .of_guard (c := v.type.scalar = .float32) hM (fun hf => ?_) fun hf => ?_
  · exact (performs_inverseSqrt hg hM hf hx.denotes).imp fun _ _ h =>
      ⟨by rw [h.1]; exact hx.scalar, h.2⟩
  · rw [inverseSqrt, expectFloat_of_ne hf, fault_bind]
    exact ⟨_, rfl⟩

theorem settles_abs (hg : g.WellFormed) (hM : l.Reaches g.module M) (hx : l.Shows g.module v x) :
    Settles l g (abs v) (fun w g' => l.Shows g'.module w (x.map (x.scalar.abs P))) M M := by
  refine .of_performs ((performs_abs hg hM hx.denotes).imp fun w g' h => ?_)
  rw [hx.scalar] at h
  exact ⟨by rw [h.1]; exact hx.scalar, h.2⟩

theorem settles_neg (hg : g.WellFormed) (hM : l.Reaches g.module M) (hx : l.Shows g.module v x) :
    Settles l g (neg v) (fun w g' => l.Shows g'.module w (x.map (x.scalar.neg P))) M M := by
  refine .of_performs ((performs_neg hg hM hx.denotes).imp fun w g' h => ?_)
  rw [hx.scalar] at h
  exact ⟨by rw [h.1]; exact hx.scalar, h.2⟩

theorem settles_saturate (hg : g.WellFormed) (hM : l.Reaches g.module M)
    (hx : l.Shows g.module v x) :
    Settles l g (saturate v)
      (fun w g' => l.Shows g'.module w (x.map fun w => P.clamp w 0 0x3f800000)) M M := by
  refine .of_guard (c := v.type.scalar = .float32) hM (fun hf => ?_) fun hf => ?_
  · exact (performs_saturate hg hM hf hx.denotes).imp fun _ _ h =>
      ⟨by rw [h.1]; exact hx.scalar, h.2⟩
  · rw [saturate, expectFloat_of_ne hf, fault_bind]
    exact ⟨_, rfl⟩

/-! ## Sampling -/

theorem settles_sample {E : Surroundings P} {R : Registers} (hg : g.WellFormed)
    (hM : l.Reaches g.module M) (hR : Represents g E.toEnvironment R M) (hE : E.Suits g)
    (hv : g.module.HasValue v) (hx : l.Shows g.module v x) (texture sampler : Word) :
    Settles l g (sample texture sampler v) (fun w g' => l.Shows g'.module w
      ⟨E.sampled texture, fourLanes (P.sample (E.texture texture) (E.sampler sampler) E.stage.level?
        ((List.range ((E.dim texture).components?.getD 0)).map x.get))⟩) M M := by
  cases himage : g.resource? .shaderResource texture with
  | none =>
    refine .get_bind ?_
    simp only [himage]
    exact settles_fault hM
  | some d =>
    obtain ⟨htexture, hdim⟩ := hR.textures texture d himage
    have hsampled := hE texture d himage
    -- what is declared as a texture is an image, and of the dimension that surrounds the program
    obtain ⟨register, slot, imageId, form⟩ := d
    cases form with
    | constantBuffer | sampler => cases hdim
    | image imageType dim sampled =>
      cases hdim
      cases hsampled
      cases hsampler : g.resource? .sampler sampler with
      | none =>
        refine .get_bind ?_
        simp only [himage, hsampler]
        exact settles_fault hM
      | some s =>
        cases hcoordinates : (E.dim texture).coordinates? with
        | none =>
          refine .get_bind ?_
          simp only [himage, hsampler, hcoordinates]
          exact settles_missing hM
        | some coordinates =>
          have hcount : (E.dim texture).components? =
              some (coordinates + if (E.dim texture).isArray then 1 else 0) := by
            rw [ResourceDim.components?, hcoordinates, Option.map_some]
          by_cases hf : v.type.scalar = .float32
          -- coordinates may have more components than are looked at, but not less
          · by_cases hwide : v.type.count <
                coordinates + if (E.dim texture).isArray then 1 else 0
            · refine .get_bind ?_
              simp only [himage, hsampler, hcoordinates, expectFloat_of_eq hf, pure_bind, fault_bind]
              rw [if_pos hwide]
              exact settles_fault hM
            · rw [hx.denotes.count] at hwide
              rw [hcount, Option.getD_some, hR.stage]
              exact .of_performs ((performs_sample hg hM himage hsampler hcount htexture
                (hR.samplers sampler s hsampler) hv hf hx.denotes (Nat.not_lt.1 hwide)).imp
                  fun _ _ h => ⟨by rw [h.1], h.2⟩)
          · refine .get_bind ?_
            simp only [himage, hsampler, hcoordinates, expectFloat_of_ne hf, fault_bind]
            exact settles_fault hM

end Generate

end ShaderLowering
