import ShaderLowering.Proofs.Lowering.Events
import ShaderLowering.Proofs.Lowering.MeaningKept
import ShaderLowering.Proofs.Lowering.Reading

/-!
# What handlers emit and store

The handler of a computation adds to the code (`Spirv.Module.Emits`) and ends with a store.
`Lower.Ends` says what is true where such a handler succeeds, and `Lower.ends_storeResult` what the
variables hold then: in the register that the destination names, the masked components have been
replaced by those of the result, of which a single one is repeated for all of them. With an empty mask,
nothing is stored and the handler never succeeds.
-/

namespace ShaderLowering

open Spirv

variable {P : Platform} {l : Launch P} {E : Environment P} {R : Registers} {M : Memory P}

/-! ## Added code -/

/-- An instruction is in the code that a module has grown by. -/
def Spirv.Module.Emits (m m' : Module) (i : Inst) : Prop :=
  ∃ code, m'.body.toList = m.body.toList ++ code ∧ i ∈ code

namespace Spirv.Module.Emits

variable {m₀ m m' m'' : Module} {i : Inst}

theorem mono (h : m.Emits m' i) (hm : m₀.Grows m) (hm' : m'.Grows m'') : m₀.Emits m'' i := by
  obtain ⟨code, hcode, hmem⟩ := h
  obtain ⟨before, hbefore⟩ := hm.body
  obtain ⟨behind, hbehind⟩ := hm'.body
  refine ⟨before ++ code ++ behind, ?_, ?_⟩
  · rw [← hbehind, hcode, ← hbefore, List.append_assoc, List.append_assoc, List.append_assoc]
  · exact List.mem_append_left _ (List.mem_append_right _ hmem)

/-- What has been added before without a change of the code does not matter. -/
theorem of_body (h : m.Emits m' i) (hm : m.body = m₀.body) : m₀.Emits m' i := by
  rw [Module.Emits, ← hm]
  exact h

end Spirv.Module.Emits

namespace Generate

/-- A block may be opened first, and then an instruction is added. -/
theorem emits_body (op : Spirv.Op) (type : Word) (operands : List Word) (g : Generator) :
    ∃ id, g.module.Emits ((body (Build.emitValue op type operands)).run g).2.module
      ⟨op, some type, some id, operands⟩ := by
  have hopened : ∃ more, g.opened.module.body.toList = g.module.body.toList ++ more := by
    rw [Generator.opened]
    split
    · exact ⟨[], (List.append_nil _).symm⟩
    · exact ⟨_, Array.toList_push ..⟩
  obtain ⟨more, hmore⟩ := hopened
  refine ⟨UInt32.ofNat g.opened.module.bound,
    more ++ [⟨op, some type, some (UInt32.ofNat g.opened.module.bound), operands⟩], ?_,
    List.mem_append_right _ (List.mem_singleton_self _)⟩
  rw [run_body, run_build, ← List.append_assoc, ← hmore]
  exact Array.toList_push ..

theorem emits_emit (op : Spirv.Op) (type : ValueType) (operands : List Word) (g : Generator) :
    ∃ t id, g.module.Emits ((emit op type operands).run g).2.module
      ⟨op, some t, some id, operands⟩ := by
  -- the type is declared before the instruction, which adds nothing to the code
  obtain ⟨id, hid⟩ := emits_body op (type.build.run g.module).1 operands
    { g with module := (type.build.run g.module).2 }
  have hemits := hid.of_body (Build.leavesCode_type type g.module)
  refine ⟨(type.build.run g.module).1, id, ?_⟩
  simp only [emit, run_bind, run_build, run_body] at hemits ⊢
  exact hemits

end Generate

/-! ## Masked components -/

section

variable {mask : ComponentMask}

/-- Only the masked components of what is merged matter. -/
theorem merged_congr {old new new' : Nat → Word} (h : ∀ n ∈ mask.components, new n = new' n) :
    merged mask old new = merged mask old new' := by
  funext n
  simp only [merged]
  split
  · next hn => exact h n (ComponentMask.mem_components.2 hn)
  · rfl

/-- A single component that is repeated is stored to each masked component. -/
theorem stored_spread_single {n : Nat} (hn : n ∈ mask.components) (w : Word) :
    stored mask (spread mask.count [w]) n = w := by
  have hwords : spread mask.count [w] = mask.components.map fun _ => w := by
    rw [spread, List.map_const']
    rfl
  rw [hwords]
  exact List.map_inj_left.1 (map_stored (List.length_map _)) n hn

/-- What is done to each component is done to each masked component that is stored. -/
theorem stored_map {ys : List Word} (hwidth : ys.length = 4 ∨ ys.length = mask.components.length)
    (f : Word → Word) {n : Nat} (hn : n ∈ mask.components) :
    stored mask (ys.map f) n = f (stored mask ys n) := by
  have hbound : (if ys.length = 4 then n else mask.components.idxOf n) < ys.length := by
    split
    · next hfour =>
      rw [hfour]
      exact ComponentMask.lt_of_mem_components hn
    · next hfour =>
      rw [hwidth.resolve_left hfour]
      exact List.idxOf_lt_length_of_mem hn
  rw [stored, stored, List.length_map, List.getD_eq_getElem?_getD, List.getD_eq_getElem?_getD,
    List.getElem?_map, List.getElem?_eq_getElem hbound, Option.map_some, Option.getD_some,
    Option.getD_some]

theorem spread_map (n : Nat) (f : Word → Word) (xs : List Word) :
    spread n (xs.map f) = (spread n xs).map f := by
  match xs with
  | [] => rfl
  | [x] => exact (List.map_replicate ..).symm
  | _ :: _ :: _ => rfl

end

theorem Operand.register?_of_place? {o : Operand} {numbers : List Word} {r : Register}
    (h : o.place? numbers = some (.register r)) : o.register? = some r := by
  rw [place?] at h
  split at h
  · split at h
    · obtain ⟨buffer, -, hplace⟩ := Option.map_eq_some_iff.1 h
      cases hplace
    · cases h
  · obtain ⟨r', hr', hplace⟩ := Option.map_eq_some_iff.1 h
    cases hplace
    exact hr'

namespace Lower

variable {α β : Type} {s : LowerState} {v : Value} {x : Lanes} {o : Operand}

/-! ## The ends of handlers -/

/-- Where the last part of a handler succeeds, the generator has a property. -/
def Ends (s : LowerState) (op : Lower Unit) (Q : Generator → Prop) : Prop :=
  ∀ s', op.run s = (.ok (), s') → s.generator.Continues s'.generator ∧ Q s'.generator

theorem Reads.ends {op : Lower α} {f : α → Lower Unit} {Q : α → Generator → Prop}
    {T : Generator → Prop} (h : Reads l E R M s op Q)
    (hf : ∀ a s', s.generator.Continues s'.generator → Ready l E R M s'.generator →
      Q a s'.generator → Ends s' (f a) T) : Ends s (op >>= f) T := by
  intro s' hrun
  obtain ⟨a, s₁, hop, hrun⟩ := run_bind_eq_ok.1 hrun
  obtain ⟨hc₁, hs₁, hQ⟩ := h.of_run a s₁ hop
  obtain ⟨hc, hT⟩ := hf a s₁ hc₁ hs₁ hQ s' hrun
  exact ⟨hc₁.trans hc, hT⟩

theorem Ends.imp {op : Lower Unit} {Q T : Generator → Prop} (h : Ends s op Q)
    (hQ : ∀ g, Q g → T g) : Ends s op T := by
  intro s' hrun
  obtain ⟨hc, hs'⟩ := h s' hrun
  exact ⟨hc, hQ _ hs'⟩

/-- A handler that never succeeds. -/
def Hopeless (op : Lower α) : Prop := ∀ s a s', op.run s ≠ (.ok a, s')

theorem Hopeless.bind {op : Lower α} {f : α → Lower β} (hf : ∀ a, Hopeless (f a)) :
    Hopeless (op >>= f) := by
  intro s b s' hrun
  obtain ⟨a, s₁, -, hrun⟩ := run_bind_eq_ok.1 hrun
  exact hf a s₁ b s' hrun

theorem Hopeless.ends {op : Lower Unit} {Q : Generator → Prop} (h : Hopeless op) : Ends s op Q :=
  fun s' hrun => absurd hrun (h s () s')

/-! ## Stores -/

theorem hopeless_store {mask : ComponentMask} (hmask : ¬1 ≤ mask.count) (o : Operand)
    (v : Value) : Hopeless (store o v mask) := by
  refine .bind fun p => .bind fun v => .bind fun v => ?_
  intro s u s' hrun
  rw [run_generate] at hrun
  rcases Generate.store_eq_fault_or p v mask with ⟨f, hf⟩ | ⟨-, -, hfits, -⟩
  · rw [hf] at hrun
    cases hrun
  · exact hmask (Generate.maskFits_iff.1 hfits).1

theorem hopeless_storeResult {mask : ComponentMask} (hmask : ¬1 ≤ mask.count) (i : Instruction)
    (o : Operand) (v : Value) : Hopeless (storeResult i o v mask) := by
  rw [storeResult]
  split
  · exact .bind fun w => hopeless_store hmask o w
  · exact hopeless_store hmask o v

/-- The components of a value are stored to the masked components of the register that an operand
names. There are as many as masked ones, or four. -/
theorem ends_store (hs : Ready l E R M s.generator) (hv : l.Carries s.generator.module v x)
    (mask : ComponentMask) : Ends s (store o v mask) fun g => ∃ r id,
      o.register? = some r ∧ g.registerId? r = some id ∧
      ((spread mask.count x.words).length = 4 ∨
        (spread mask.count x.words).length = mask.components.length) ∧
      l.Reaches g.module (M.write id (.lanes (fourLanes (merged mask (R r)
        (stored mask (spread mask.count x.words)))))) := by
  by_cases hmask : 1 ≤ mask.count
  · refine (reads_pointer hs (reads_element fun _ _ r _ => reads_load r)).ends
      fun p s₁ hc₁ hs₁ hp => ?_
    obtain ⟨place, hplace, hp⟩ := hp
    refine (reads_broadcast hs₁ (hv.mono hc₁.continues) mask).ends fun v s₂ hc₂ hs₂ hv => ?_
    refine (reads_cast hs₂ hv p.value.scalar).ends fun v s₃ hc₃ hs₃ hv => ?_
    have hp₃ := (hp.mono hc₂).mono hc₃
    rw [Nat.max_eq_right hmask] at hv
    intro s' hrun
    have hkeeps := Generate.keeps_store hs₃.wellFormed hp₃.pointer hv.value mask
    rw [run_generate] at hrun
    obtain ⟨hok, rfl⟩ := Prod.mk.inj hrun
    refine ⟨hkeeps.continues, ?_⟩
    rcases Generate.store_eq_fault_or p v mask with ⟨f, hf⟩ | ⟨hwritable, hscalar, hfits, hcount⟩
    · rw [hf] at hok
      cases hok
    · obtain ⟨hpointer, hlocates⟩ := hp₃
      rw [hpointer.value, hv.shows.denotes.count] at hcount
      cases place with
      | element buffer index =>
        -- elements of constant buffers cannot be written
        rw [hlocates.1] at hwritable
        cases hwritable
      | register r =>
        obtain ⟨-, id, hid, hholds⟩ := hlocates
        have hstore := Generate.performs_store hs₃.wellFormed hs₃.reaches hpointer hwritable hholds
          (hs₃.represents.registers r id hid) hv.value (by rw [hscalar, hpointer.value]; rfl)
          hv.shows.denotes hmask hcount
        exact ⟨r, id, Operand.register?_of_place? hplace, hkeeps.continues.registerId? hid, hcount,
          hstore.reaches⟩
  · exact (hopeless_store hmask o v).ends

/-- The components that are stored of a result. -/
def resultLanes (target : Operand) (xs : List Word) : Nat → Word :=
  stored target.writeMask (spread target.writeMask.count xs)

/-- Of a result of one component, that one is stored everywhere. -/
theorem written_single (i : Instruction) (M : Memory P) (R : Registers) (target : Operand)
    (r : Register) (id w : Word) : written i M R target r id (resultLanes target [w]) =
      written i M R target r id fun _ => w := by
  rw [written, written]
  congr 3
  refine merged_congr fun n hn => ?_
  rw [resultLanes, stored_spread_single hn]

/-- The result of an instruction is stored, clamped where the instruction says so. -/
theorem ends_storeResult (hs : Ready l E R M s.generator)
    (hv : l.Carries s.generator.module v x) (i : Instruction) :
    Ends s (storeResult i o v o.writeMask) fun g => ∃ r id, o.register? = some r ∧
      g.registerId? r = some id ∧
      l.Reaches g.module (written i M R o r id (resultLanes o x.words)) := by
  rw [storeResult]
  simp only [written, Instruction.clamp]
  split
  · refine (reads_value hs (Generate.computes_saturate v)
      ((Generate.keeps_saturate hs.wellFormed hv.value).imp fun _ _ h => h.2)
      (Generate.settles_saturate hs.wellFormed hs.reaches hv.shows)).ends fun w s₁ _ hs₁ hw => ?_
    refine (ends_store hs₁ hw o.writeMask).imp fun g hg => ?_
    obtain ⟨r, id, hr, hid, hwidth, hM⟩ := hg
    rw [Lanes.map, spread_map, List.length_map] at hwidth
    rw [Lanes.map, spread_map, merged_congr fun n hn => stored_map hwidth _ hn] at hM
    exact ⟨r, id, hr, hid, hM⟩
  · refine (ends_store hs hv o.writeMask).imp fun g hg => ?_
    obtain ⟨r, id, hr, hid, -, hM⟩ := hg
    exact ⟨r, id, hr, hid, hM⟩

/-! ## Operands -/

theorem reads_operands {d : Decoder α} (hs : Ready l E R M s.generator) (i : Instruction) :
    Reads l E R M s (operands i d) fun a _ => ∃ next, d i.cursor = .ok (a, next) := by
  rw [operands]
  split
  · next h => exact .pure hs ⟨_, h⟩
  · exact .throw

theorem reads_binaryOperands (hs : Ready l E R M s.generator) (i : Instruction) :
    Reads l E R M s (binaryOperands i) fun os _ =>
      ∃ rest, i.operandList = os.1 :: os.2.1 :: os.2.2 :: rest := by
  refine (reads_operands hs i).imp fun ⟨target, a, b⟩ _ ⟨next, h⟩ => ?_
  obtain ⟨_, c₁, h₁, h⟩ := Decoder.bind_eq_ok.1 h
  obtain ⟨_, c₂, h₂, h⟩ := Decoder.bind_eq_ok.1 h
  obtain ⟨_, c₃, h₃, h⟩ := Decoder.bind_eq_ok.1 h
  obtain ⟨⟨⟩, -⟩ := Decoder.pure_eq_ok.1 h
  rw [Instruction.operandList, operands_of_decode h₁, operands_of_decode h₂, operands_of_decode h₃]
  exact ⟨_, rfl⟩

end Lower

/-! ## Handled instructions -/

/-- Where no gap skips an instruction, its handler has come to its end. -/
theorem Generator.run_of_handle {g : Generator} {i : Instruction} {gaps : List Gap}
    (hok : (g.handle i).outcome = .ok gaps) (hgaps : ∀ gap ∈ gaps, gap.isSkip = false) :
    (Lower.instruction i).run ⟨g, []⟩ = (.ok (), ⟨(g.handle i).generator, gaps⟩) := by
  rw [handle] at hok ⊢
  rcases hrun : (Lower.instruction i).run ⟨g, []⟩ with ⟨(feature | f) | u, s⟩ <;> rw [hrun] at hok
  · obtain rfl := Except.ok.inj hok
    cases hgaps (.missing feature) (List.mem_append_right _ (List.mem_singleton_self _))
  · cases hok
  · obtain rfl := Except.ok.inj hok
    rfl

/-- What is lowered without a diagnostic is handled without a gap. -/
theorem Lowering.outcome_of_process {L : Lowering} {i : Instruction}
    (hok : (L.process i).1 = .ok ()) (hsilent : (L.process i).2.diagnostics = L.diagnostics) :
    (L.generator.handle i).outcome = .ok [] := by
  rcases L.process_cases i with ⟨f, -, h⟩ | ⟨gap, gaps, -, -, h⟩ | ⟨gaps, houtcome, -, h⟩
  · rw [h] at hok
    cases hok
  · rw [h] at hok
    cases hok
  · rw [h] at hsilent
    -- every gap is recorded
    have hnone : gaps = [] := by
      have hlength := congrArg List.length hsilent
      simp only [List.length_append, diagnosticsOf, List.length_map] at hlength
      exact List.length_eq_zero_iff.1 (by omega)
    rw [houtcome, hnone]

section

variable {g g' : Generator} {s : State P}

/-- A state that the code so far comes to is the one that a launch of the module comes to. -/
theorem Generator.WellFormed.reaches_launch (hg' : g'.WellFormed)
    (hfit : g'.module.bound < UInt32.size)
    (hs : State.run ⟨fun _ => none, M⟩ (g'.module.known ++ g.module.body.toList) = some s) :
    (hg'.launch hfit M).Reaches g.module s.memory := by
  intro _
  refine ⟨s, ?_, rfl⟩
  rw [Launch.state?, hg'.known_launch hfit M]
  exact hs

/-- What is known of a launch behind some more code is known of a run of that code. -/
theorem Generator.WellFormed.exists_run (hg' : g'.WellFormed)
    (hfit : g'.module.bound < UInt32.size) (hgrows : g.Grows g')
    (hs : State.run ⟨fun _ => none, M⟩ (g'.module.known ++ g.module.body.toList) = some s)
    {M' : Memory P} (hM' : (hg'.launch hfit M).Reaches g'.module M') :
    ∃ code t, g'.module.body.toList = g.module.body.toList ++ code ∧ s.run code = some t ∧
      t.memory = M' ∧ (hg'.launch hfit M).state? g'.module = some t := by
  obtain ⟨code, hcode⟩ := hgrows.module.body
  obtain ⟨t, ht, hmemory⟩ := hM' hg'.closed.1
  refine ⟨code, t, hcode.symm, ?_, hmemory, ht⟩
  rw [Launch.state?, hg'.known_launch hfit M, ← hcode, ← List.append_assoc, State.run_append] at ht
  rwa [show (hg'.launch hfit M).start.run (g'.module.known ++ g.module.body.toList) = some s from
    hs, Option.bind_some] at ht

/-- A declaration adds to a generator and leaves its code alone. -/
theorem Keeps.declared {op : Generate Unit} {Q : Unit → Generator → Prop} (h : Keeps g op Q)
    (hcode : LeavesCode op) : g.Continues (op.run g).2 ∧ (op.run g).2.WellFormed ∧
      (op.run g).2.module.body = g.module.body :=
  ⟨h.continues, h.wellFormed, hcode g⟩

/-- Any registers can be held by the variables behind declarations without textures. -/
theorem Generator.WellFormed.exists_state {stage : EntryStage} {options : Options}
    (hg : g.WellFormed) (hc : (Generator.start stage options).Continues g)
    (hbody : g.module.body = (Generator.start stage options).module.body)
    (hnone : ∀ d ∈ g.resources, d.form.kind ≠ .shaderResource) (hg' : g'.WellFormed)
    (hfit : g'.module.bound < UInt32.size) (hgrows : g.Grows g') (E : Environment P)
    (R : Registers) (hstage : E.stage = stage) :
    ∃ (M : Memory P) (s : State P), Represents g E R s.memory ∧
      State.run ⟨fun _ => none, M⟩ (g'.module.known ++ g.module.body.toList) = some s := by
  obtain ⟨M, hM⟩ := Represents.exists_memory hg (Nat.lt_of_le_of_lt hgrows.module.bound hfit) E R
    (hstage.trans hc.toGrows.fixed.1.symm) fun n d hd => by
      obtain ⟨hmem, hkind, -⟩ := Generator.resource?_eq_some hd
      exact absurd hkind (hnone d hmem)
  have hreaches : (hg'.launch hfit M).Reaches g.module M :=
    (reaches_start (l := hg'.launch hfit M)).of_body hc.module hbody
  obtain ⟨s, hs, hmemory⟩ := hreaches (hgrows.module.trans hg'.closed.1)
  rw [Launch.state?, hg'.known_launch] at hs
  exact ⟨M, s, hmemory ▸ hM, hs⟩

end

end ShaderLowering
