import ShaderLowering.Proofs.Generator.Computing
import ShaderLowering.Proofs.Spirv.Launch

/-!
# What operations of the generator compute

`Performs` says of an operation that it succeeds, that no gap is met, and what the code that it emits
does when the finished module runs: what the variables hold behind it, and what the result of the
operation stands for. It goes together with `Keeps`, which says that the generator stays well-formed;
`Performs.bind` takes both of the first part of a sequence. Below it, `Yields` says the same of a step
in the construction of the module.
-/

namespace ShaderLowering

open Spirv

/-! ## Steps of the construction -/

namespace Spirv

variable {P : Platform} {l : Launch P} {m : Module} {M M' : Memory P} {α β : Type}

/-- A step of the construction has a result with a property, and it makes the variables hold what a
memory says. -/
structure Yields (l : Launch P) (m : Module) (b : Build α) (Q : α → Module → Prop)
    (M : Memory P) : Prop where
  grows : m.Grows (b.run m).2
  reaches : l.Reaches (b.run m).2 M
  result : Q (b.run m).1 (b.run m).2

section

variable {b : Build α} {f : α → Build β} {Q : α → Module → Prop} {R : β → Module → Prop}

theorem Yields.bind (h : Yields l m b Q M)
    (hf : ∀ a m', m.Grows m' → l.Reaches m' M → Q a m' → Yields l m' (f a) R M') :
    Yields l m (b >>= f) R M' := by
  have h' := hf _ _ h.grows h.reaches h.result
  exact ⟨h.grows.trans h'.grows, h'.reaches, h'.result⟩

/-- What leaves the function alone leaves the state alone that its code comes to. -/
theorem Yields.of_declares (h : Declares m b Q) (hM : l.Reaches m M) :
    Yields l m b (fun a m' => Q a m' ∧ l.state? m' = l.state? m) M :=
  ⟨h.grows, hM.of_body h.grows h.body, h.result, Launch.state?_of_body h.body⟩

end

/-- An emitted computation has the meaning that it is evaluated to. -/
theorem yields_emitValue (hM : l.Reaches m M) {op : Op} {type : Word} {operands : List Word}
    {d : Datum P} (hc : op.computes = true)
    (heval : m.Grows l.module → ∀ id s, l.state? m = some s → s.memory = M →
      s.eval op id operands = some d) :
    Yields l m (Build.emitValue op type operands) (fun id m' => l.Holds m' id d) M := by
  have hrun : (Build.emitValue op type operands).run m =
      (UInt32.ofNat m.bound, m.withResult op (some type) operands) := rfl
  obtain ⟨hreaches, hholds⟩ := hM.compute (m.grows_withResult op (some type) operands)
    (Array.toList_push ..) hc fun hg s => heval hg (UInt32.ofNat m.bound) s
  refine ⟨?_, ?_, ?_⟩ <;> rw [hrun]
  · exact m.grows_withResult op (some type) operands
  · exact hreaches
  · exact hholds

/-- An emitted extended instruction has the meaning of the instruction on its operands. -/
theorem yields_emitGlsl (hm : m.WellFormed) (hM : l.Reaches m M) {op : GlslOp} {type : Word}
    {args : List Word} {vectors : List (List Word)} {d : Datum P}
    (ha : m.Grows l.module → ∀ s, l.state? m = some s → args.mapM s.lanes = some vectors)
    (hd : State.extended P op.number vectors = some d) :
    Yields l m (Build.emitGlsl type op args) (fun id m' => l.Holds m' id d) M := by
  refine (Yields.of_declares (Build.declares_importGlsl hm) hM).bind fun set m' hgrows hM' hset => ?_
  refine yields_emitValue hM' rfl fun hgrows' id s hs _ => ?_
  simp only [State.eval, ha (hgrows.trans hgrows') s (hset.2 ▸ hs), Option.bind_eq_bind,
    Option.bind_some, hd]

/-- An emitted store replaces what a variable holds. -/
theorem yields_emitStore (hM : l.Reaches m M) {pointer value id : Word} {d : Datum P}
    (hp : l.Holds m pointer (.pointer id)) (hv : l.Holds m value d) :
    Yields l m (Build.emitStore pointer value) (fun _ _ => True) (M.write id d) :=
  ⟨m.grows_withCode _, hM.store hp hv, trivial⟩

end Spirv

/-! ## Operations -/

variable {P : Platform} {ε S α β : Type} [HasGenerator S]

/-- An operation succeeds with a result that has a property, meets no gap, and makes the variables
hold what a memory says. -/
structure Performs (l : Launch P) (s : S) (op : ExceptT ε (StateM S) α)
    (Q : α → Generator → Prop) (M : Memory P) : Prop where
  result : ∃ a, (op.run s).1 = .ok a ∧ Q a (HasGenerator.generator (op.run s).2)
  gaps : HasGenerator.gaps (op.run s).2 = HasGenerator.gaps s
  reaches : l.Reaches (HasGenerator.generator (op.run s).2).module M

namespace Performs

variable {l : Launch P} {M M' : Memory P}
variable {s : S} {op : ExceptT ε (StateM S) α} {f : α → ExceptT ε (StateM S) β}
variable {Q Q' : α → Generator → Prop} {R : β → Generator → Prop}

theorem pure {a : α} (hM : l.Reaches (HasGenerator.generator s).module M)
    (h : Q a (HasGenerator.generator s)) :
    Performs l s (Pure.pure a : ExceptT ε (StateM S) α) Q M :=
  ⟨⟨a, rfl, h⟩, rfl, hM⟩

/-- Operations that keep the generator well-formed and compute make up sequences that do. -/
theorem bind {K : α → Generator → Prop} (hk : Keeps s op K) (h : Performs l s op Q M)
    (hf : ∀ a s', (HasGenerator.generator s).Continues (HasGenerator.generator s') →
      (HasGenerator.generator s').WellFormed → K a (HasGenerator.generator s') →
      Q a (HasGenerator.generator s') → l.Reaches (HasGenerator.generator s').module M →
      Performs l s' (f a) R M') : Performs l s (op >>= f) R M' := by
  obtain ⟨⟨a, ha, hQ⟩, hgaps, hM⟩ := h
  obtain ⟨hc, hw, hK⟩ := hk
  have hop : op.run s = (.ok a, (op.run s).2) := Prod.ext ha rfl
  have hrun : (op >>= f).run s = (f a).run (op.run s).2 := by rw [run_bind, hop]
  obtain ⟨hresult, hgaps', hM'⟩ := hf a (op.run s).2 hc hw (hK a ha) hQ hM
  refine ⟨?_, ?_, ?_⟩ <;> rw [hrun]
  · exact hresult
  · exact hgaps'.trans hgaps
  · exact hM'

/-- What is made of a result alone leaves the state as it is. -/
theorem bind_pure {f : α → β} (h : Performs l s op Q M) (hQ : ∀ a g, Q a g → R (f a) g) :
    Performs l s (op >>= fun a => Pure.pure (f a)) R M := by
  obtain ⟨⟨a, ha, hQa⟩, hgaps, hM⟩ := h
  have hop : op.run s = (.ok a, (op.run s).2) := Prod.ext ha rfl
  have hrun : (op >>= fun a => Pure.pure (f a)).run s = (.ok (f a), (op.run s).2) := by
    rw [run_bind, hop]
    rfl
  refine ⟨⟨f a, ?_, ?_⟩, ?_, ?_⟩ <;> rw [hrun]
  · exact hQ a _ hQa
  · exact hgaps
  · exact hM

theorem imp (h : Performs l s op Q M) (hQ : ∀ a g, Q a g → Q' a g) : Performs l s op Q' M := by
  obtain ⟨⟨a, ha, hQa⟩, hgaps, hM⟩ := h
  exact ⟨⟨a, ha, hQ a _ hQa⟩, hgaps, hM⟩

/-- Reading the state changes nothing. -/
theorem get_bind {f : S → ExceptT ε (StateM S) β} (h : Performs l s (f s) R M) :
    Performs l s (get >>= f) R M := by
  have hrun : (get >>= f).run s = (f s).run s := by rw [run_bind, run_get]
  refine ⟨?_, ?_, ?_⟩ <;> rw [hrun]
  · exact h.result
  · exact h.gaps
  · exact h.reaches

end Performs

/-! ## Values -/

/-- A value stands for components, as many as it has. -/
structure Spirv.Launch.Denotes (l : Launch P) (m : Module) (v : Value) (xs : List Word) : Prop where
  count : v.type.count = xs.length
  holds : l.Holds m v.id (.lanes xs)

namespace Spirv.Launch

variable {l : Launch P} {m m' : Module} {v : Value} {xs : List Word}

theorem Denotes.mono (h : l.Denotes m v xs) (hg : m.Grows m') : l.Denotes m' v xs :=
  ⟨h.count, h.holds.mono hg⟩

/-- In the state behind the code so far, the id of a value has the components. -/
theorem Denotes.lanes (h : l.Denotes m v xs) (hg : m.Grows l.module) {s : State P}
    (hs : l.state? m = some s) : s.lanes v.id = some xs :=
  State.lanes_of_values (h.holds hg s hs)

end Spirv.Launch

namespace Generate

variable {l : Launch P} {g : Generator} {M M' : Memory P}

theorem performs_build {b : Build α} {Q : α → Module → Prop} (h : Yields l g.module b Q M) :
    Performs l g (build b) (fun a g' => Q a g'.module) M :=
  ⟨⟨_, rfl, h.result⟩, rfl, h.reaches⟩

/-- A declaration leaves the state alone that the code comes to. -/
theorem performs_declare {b : Build α} {Q : α → Module → Prop} (h : Declares g.module b Q)
    (hM : l.Reaches g.module M) :
    Performs l g (build b) (fun a g' => Q a g'.module ∧ l.state? g'.module = l.state? g.module)
      M :=
  performs_build (.of_declares h hM)

/-- Opening a block changes no state. -/
theorem state?_opened (l : Launch P) (g : Generator) :
    l.state? g.opened.module = l.state? g.module := by
  rw [Generator.opened]
  split
  · rfl
  · rw [Launch.state?, Launch.state?, Module.withResult, Array.toList_push, ← List.append_assoc,
      State.run_concat]
    cases l.start.run (l.module.known ++ g.module.body.toList) with
    | none => rfl
    | some s => exact State.step_of_idle (by simp) rfl

theorem performs_openBlock (hg : g.WellFormed) (hM : l.Reaches g.module M) :
    Performs l g openBlock (fun _ g' => l.state? g'.module = l.state? g.module) M := by
  refine ⟨⟨(), ?_, ?_⟩, ?_, ?_⟩ <;> rw [run_openBlock]
  · exact state?_opened l g
  · rfl
  · intro hgrows
    have h := hM (hg.opened.1.module.trans hgrows)
    rwa [← state?_opened l g] at h

/-- What is added to the body works on the state behind the code so far. -/
theorem performs_body {b : Build α} {Q : α → Module → Prop} (hg : g.WellFormed)
    (hM : l.Reaches g.module M)
    (h : ∀ m, g.module.Continues m → m.WellFormed → l.state? m = l.state? g.module →
      l.Reaches m M → Yields l m b Q M') :
    Performs l g (body b) (fun a g' => Q a g'.module) M' :=
  (performs_openBlock hg hM).bind (keeps_openBlock hg) fun _ _ hc hg' _ hstate hM' =>
    performs_build (h _ hc.continues hg'.module hstate hM')

/-- An emitted value stands for what its operation is evaluated to. -/
theorem performs_emit {op : Spirv.Op} {type : ValueType} {operands : List Word} {d : Datum P}
    (hg : g.WellFormed) (hM : l.Reaches g.module M) (hc : op.computes = true)
    (heval : g.module.Grows l.module → ∀ id s, l.state? g.module = some s → s.memory = M →
      s.eval op id operands = some d) :
    Performs l g (emit op type operands)
      (fun v g' => v.type = type ∧ l.Holds g'.module v.id d) M := by
  have htype := Build.declares_type hg.module type
  refine (performs_declare htype hM).bind (keeps_build hg htype.builds)
    fun t g₁ hc₁ hg₁ _ ht hM₁ => ?_
  refine (performs_body hg₁ hM₁ fun m hm _ hstate hM₂ => yields_emitValue (d := d) hM₂ hc
    fun hgrows id s hs => ?_).bind_pure fun id g₂ hid => ⟨rfl, hid⟩
  exact heval ((hc₁.continues.trans hm).toGrows.trans hgrows) id s (by rw [← ht.2, ← hstate, hs])

/-- An emitted extended instruction stands for what it makes of its operands. -/
theorem performs_emitExtended {op : GlslOp} {type : ValueType} {args : List Word}
    {vectors : List (List Word)} {d : Datum P} (hg : g.WellFormed) (hM : l.Reaches g.module M)
    (ha : g.module.Grows l.module → ∀ s, l.state? g.module = some s →
      args.mapM s.lanes = some vectors)
    (hd : State.extended P op.number vectors = some d) :
    Performs l g (emitExtended op type args)
      (fun v g' => v.type = type ∧ l.Holds g'.module v.id d) M := by
  have htype := Build.declares_type hg.module type
  refine (performs_declare htype hM).bind (keeps_build hg htype.builds)
    fun t g₁ hc₁ hg₁ _ ht hM₁ => ?_
  refine (performs_body hg₁ hM₁ fun m hm hmw hstate hM₂ => yields_emitGlsl (d := d) hmw hM₂
    (fun hgrows s hs => ?_) hd).bind_pure fun id g₂ hid => ⟨rfl, hid⟩
  exact ha ((hc₁.continues.trans hm).toGrows.trans hgrows) s (by rw [← ht.2, ← hstate, hs])

end Generate

end ShaderLowering
