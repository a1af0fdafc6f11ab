import ShaderLowering.Proofs.Semantics.Execution
import ShaderLowering.Proofs.Spirv.Building

/-!
# Running modules under construction

While a module is built, nobody knows the types and constants that it will have in the end, but what
an id stands for once it is defined is settled: results are defined once. A `Launch` is a finished
module with the memory that it starts from. Of a module that grows into it, `Launch.Reaches` says what
the variables hold behind its code, and `Launch.Holds` says what an id stands for there. Both are kept
while the module grows, as far as no code is added for the first.
-/

namespace ShaderLowering.Spirv

variable {P : Platform}

/-- A finished module on a platform, with what the variables hold at the start. -/
structure Launch (P : Platform) where
  module : Module
  memory : Memory P
  /-- Types, constants and variables refer to earlier ones. -/
  globals : Stepwise Grounded module.globals.toList
  /-- Every result is defined once. -/
  once : (results module.defining).Nodup

namespace Launch

variable {l : Launch P} {m m' : Module} {M : Memory P} {id : Word} {d : Datum P}

/-- The state before the first instruction. -/
def start (l : Launch P) : State P := ⟨fun _ => none, l.memory⟩

/-- The state behind the declarations of the finished module and the code of another one. -/
def state? (l : Launch P) (m : Module) : Option (State P) :=
  l.start.run (l.module.known ++ m.body.toList)

/-- The code of a module that grows into the finished one runs, and then the variables hold what the
memory says. -/
def Reaches (l : Launch P) (m : Module) (M : Memory P) : Prop :=
  m.Grows l.module → ∃ s, l.state? m = some s ∧ s.memory = M

/-- Behind the code of a module that grows into the finished one, an id stands for something. -/
def Holds (l : Launch P) (m : Module) (id : Word) (d : Datum P) : Prop :=
  m.Grows l.module → ∀ s, l.state? m = some s → s.values id = some d

/-! ## What is declared -/

/-- What an instruction defines has its meaning to the end of a run. -/
theorem values_of_defined {before behind : List Inst} {i : Inst} {s : State P}
    (hn : (results (before ++ i :: behind)).Nodup) (hi : i.result? = some id)
    (hs : l.start.run (before ++ i :: behind) = some s)
    (hstep : ∀ t, l.start.run before = some t → t.step i = some (t.define id d)) :
    s.values id = some d := by
  rw [State.run_append] at hs
  obtain ⟨t, ht, hs⟩ := Option.bind_eq_some_iff.1 hs
  rw [State.run_cons, hstep t ht, Option.bind_some] at hs
  rw [State.values_of_run hs, State.values_define]
  rw [results_append, results_cons, hi, Option.toList_some, List.singleton_append] at hn
  exact (List.nodup_cons.1 (List.nodup_append.1 hn).2.1).1

/-- A constant number stands for its bits. -/
theorem step_constant (s : State P) (type? : Option Word) (id bits : Word) :
    s.step ⟨.constant, type?, some id, [bits]⟩ = some (s.define id (.lanes [bits])) :=
  State.step_of_computes rfl rfl

/-- A variable stands for a pointer to itself. -/
theorem step_variable (s : State P) (type? : Option Word) (id : Word) (operands : List Word) :
    s.step ⟨.globalVariable, type?, some id, operands⟩ = some (s.define id (.pointer id)) :=
  State.step_of_computes rfl (by simp only [State.eval])

/-- A composite stands for the components of its parts. -/
theorem step_composite {s : State P} {type? : Option Word} {id : Word} {parts bits : List Word}
    (hl : parts.length = bits.length)
    (h : ∀ x ∈ parts.zip bits, s.values x.1 = some (.lanes [x.2])) :
    s.step ⟨.constantComposite, type?, some id, parts⟩ = some (s.define id (.lanes bits)) := by
  have hparts : parts.mapM s.lanes = some (bits.map fun b => [b]) := by
    induction parts generalizing bits with
    | nil =>
      rw [List.length_eq_zero_iff.1 hl.symm]
      rfl
    | cons p parts ih =>
      cases bits with
      | nil => cases hl
      | cons b bits =>
        have hp := State.lanes_of_values (h (p, b) (List.mem_cons_self ..))
        have hrest := ih (Nat.succ.inj hl) fun x hx => h x (List.mem_cons_of_mem _ hx)
        rw [List.mapM_cons, hp, hrest]
        rfl
  refine State.step_of_computes rfl ?_
  have hflat : (bits.map fun b => [b]).flatten = bits := by
    rw [← List.flatMap_def, List.flatMap_singleton']
  simp only [State.eval, hparts, Option.map_some, hflat]

/-- The results of the declarations and of code that has been built so far are different. -/
theorem nodup_results (hg : m.Grows l.module) :
    (results (l.module.known ++ m.body.toList)).Nodup := by
  obtain ⟨more, hmore⟩ := hg.body
  have h := l.once
  rw [Module.defining, ← hmore, ← List.append_assoc, results_append] at h
  exact (List.nodup_append.1 h).1

/-- What an instruction of the finished module defines has its meaning in all code. -/
theorem holds_of_mem {i : Inst} (h : i ∈ m.globals.toList) (hi : i.result? = some id)
    (hstep : ∀ before behind, l.module.globals.toList = before ++ i :: behind → ∀ t,
      l.start.run (l.module.imports ++ before) = some t → t.step i = some (t.define id d)) :
    l.Holds m id d := by
  intro hg s hs
  obtain ⟨before, behind, heq⟩ := List.append_of_mem (hg.globals.subset h)
  have hknown : l.module.known ++ m.body.toList =
      (l.module.imports ++ before) ++ i :: (behind ++ m.body.toList) := by
    simp only [Module.known, heq, List.append_assoc, List.cons_append]
  have hn := nodup_results hg
  rw [state?, hknown] at hs
  rw [hknown] at hn
  exact values_of_defined hn hi hs (hstep before behind heq)

theorem holds_constant {type bits : Word}
    (h : ⟨.constant, some type, some id, [bits]⟩ ∈ m.globals.toList) :
    l.Holds m id (.lanes [bits]) :=
  holds_of_mem h rfl fun _ _ _ t _ => step_constant t ..

theorem holds_variable {type : Word} {operands : List Word}
    (h : ⟨.globalVariable, some type, some id, operands⟩ ∈ m.globals.toList) :
    l.Holds m id (.pointer id) :=
  holds_of_mem h rfl fun _ _ _ t _ => step_variable t ..

/-- The parts of a composite constant have their meanings where it is declared. -/
theorem values_of_part {before behind : List Inst} {i : Inst} {t : State P} {p type bits : Word}
    (heq : l.module.globals.toList = before ++ i :: behind)
    (ht : l.start.run (l.module.imports ++ before) = some t)
    (hp : ⟨.constant, some type, some p, [bits]⟩ ∈ before) :
    t.values p = some (.lanes [bits]) := by
  obtain ⟨first, rest, rfl⟩ := List.append_of_mem hp
  have hn := l.once
  rw [Module.defining, Module.known, heq, List.append_assoc, List.append_assoc,
    ← List.append_assoc, results_append] at hn
  rw [← List.append_assoc] at ht hn
  exact values_of_defined (List.nodup_append.1 hn).1 rfl ht fun t _ => step_constant t ..

/-- A composite constant stands for the bits of its parts. -/
theorem holds_composite {type : Word} {parts bits : List Word} (hl : parts.length = bits.length)
    (h : ⟨.constantComposite, some type, some id, parts⟩ ∈ m.globals.toList)
    (hp : ∀ x ∈ parts.zip bits, ∃ type,
      ⟨.constant, some type, some x.1, [x.2]⟩ ∈ m.globals.toList) :
    l.Holds m id (.lanes bits) := by
  intro hg s hs
  refine holds_of_mem h rfl (fun before behind heq t ht => step_composite hl fun x hx => ?_) hg s hs
  have hgrounded := l.globals before _ behind heq
  obtain ⟨type', hx'⟩ := hp x hx
  cases hgrounded with
  | composite _ hparts =>
    obtain ⟨type'', bits'', hpart⟩ := hparts x.1 (List.of_mem_zip hx).1
    have hmem : ⟨.constant, some type'', some x.1, [bits'']⟩ ∈ l.module.globals.toList := by
      rw [heq]
      exact List.mem_append_left _ hpart
    -- the part that is declared before and the part that is known are one
    have hvalue := holds_constant (l := l) (m := { m with globals := l.module.globals }) hmem
      ⟨hg.bound, hg.imports, List.prefix_rfl, hg.body⟩ s hs
    have hvalue' := holds_constant (l := l) hx' hg s hs
    cases hvalue.symm.trans hvalue'
    exact values_of_part heq ht hpart

/-- Parts that have components make up a composite. -/
theorem exists_step_composite {s : State P} {type? : Option Word} {id : Word} {parts : List Word}
    (h : ∀ p ∈ parts, ∃ xs, s.lanes p = some xs) :
    ∃ t, s.step ⟨.constantComposite, type?, some id, parts⟩ = some t := by
  have hparts : ∃ vectors, parts.mapM s.lanes = some vectors := by
    induction parts with
    | nil => exact ⟨[], rfl⟩
    | cons p parts ih =>
      obtain ⟨xs, hxs⟩ := h p (List.mem_cons_self ..)
      obtain ⟨vectors, hvectors⟩ := ih fun q hq => h q (List.mem_cons_of_mem _ hq)
      exact ⟨xs :: vectors, by rw [List.mapM_cons, hxs, hvectors]; rfl⟩
  obtain ⟨vectors, hvectors⟩ := hparts
  refine ⟨_, State.step_of_computes (d := .lanes vectors.flatten) rfl ?_⟩
  simp only [State.eval, hvectors, Option.map_some]

/-- A declaration does not get stuck behind those before it, and it stores nothing. -/
theorem exists_step_grounded {before behind : List Inst} {i : Inst} {t : State P}
    (heq : l.module.globals.toList = before ++ i :: behind)
    (ht : l.start.run (l.module.imports ++ before) = some t) : ∃ t', t.step i = some t' := by
  cases l.globals before i behind heq with
  | @type op id operands hs hl =>
    refine ⟨t, State.step_of_idle ?_ ?_⟩
    · rintro rfl
      cases hl
    · cases op <;> first | rfl | cases hl
  | constant => exact ⟨_, step_constant t ..⟩
  | memory => exact ⟨_, step_variable t ..⟩
  | composite _ hparts =>
    refine exists_step_composite fun p hp => ?_
    obtain ⟨type, bits, hmem⟩ := hparts p hp
    exact ⟨[bits], State.lanes_of_values (values_of_part heq ht hmem)⟩

/-- The declarations of the finished module run, and they store nothing. -/
theorem exists_declared (l : Launch P) :
    ∃ s, l.start.run l.module.known = some s ∧ s.memory = l.memory := by
  have himports : ∀ i ∈ l.module.imports, i.op ≠ .store ∧ i.op.computes = false := by
    intro i hi
    rw [Module.imports] at hi
    split at hi
    · rw [List.mem_singleton.1 hi]
      exact ⟨by simp, rfl⟩
    · cases hi
  have hstart : l.start.run l.module.imports = some l.start := State.run_of_idle himports
  have hglobals : ∃ s, l.start.run l.module.globals.toList = some s :=
    State.exists_run fun before i behind heq t ht =>
      exists_step_grounded heq (by rw [State.run_append, hstart]; exact ht)
  obtain ⟨s, hs⟩ := hglobals
  refine ⟨s, by rw [Module.known, State.run_append, hstart]; exact hs, ?_⟩
  refine State.memory_of_run hs fun i hi hstore => ?_
  obtain ⟨before, -, hgrounded⟩ := l.globals.of_mem hi
  have hsection := hgrounded.section_eq
  rw [hstore] at hsection
  cases hsection

/-! ## What is kept while a module grows -/

/-- An id goes on standing for what it does. -/
theorem Holds.mono (h : l.Holds m id d) (hg : m.Grows m') : l.Holds m' id d := by
  intro hg' s' hs'
  have hn := nodup_results hg'
  obtain ⟨more, hmore⟩ := hg.body
  rw [state?, ← hmore, ← List.append_assoc, State.run_append] at hs'
  rw [← hmore, ← List.append_assoc, results_append] at hn
  obtain ⟨s, hs, hs'⟩ := Option.bind_eq_some_iff.1 hs'
  have hvalue := h (hg.trans hg') s hs
  have hdefined : id ∈ results (l.module.known ++ m.body.toList) := by
    by_cases hid : id ∈ results (l.module.known ++ m.body.toList)
    · exact hid
    · rw [State.values_of_run hs hid] at hvalue
      cases hvalue
  rw [State.values_of_run hs' fun hid => (List.nodup_append.1 hn).2.2 id hdefined id hid rfl]
  exact hvalue

/-- Only the code of a module matters for the state that it comes to. -/
theorem state?_of_body (hb : m'.body = m.body) : l.state? m' = l.state? m := by
  rw [state?, state?, hb]

/-- Declarations change nothing in memory. -/
theorem Reaches.of_body (h : l.Reaches m M) (hg : m.Grows m') (hb : m'.body = m.body) :
    l.Reaches m' M := by
  intro hg'
  rw [state?_of_body hb]
  exact h (hg.trans hg')

section

variable {i : Inst} {M' : Memory P}

/-- Another instruction of the code does what it does behind the code so far. -/
theorem Reaches.concat (h : l.Reaches m M) (hg : m.Grows m')
    (hb : m'.body.toList = m.body.toList ++ [i])
    (hstep : m.Grows l.module → ∀ s, l.state? m = some s → s.memory = M →
      ∃ s', s.step i = some s' ∧ s'.memory = M') : l.Reaches m' M' := by
  intro hg'
  obtain ⟨s, hs, hM⟩ := h (hg.trans hg')
  obtain ⟨s', hs', hM'⟩ := hstep (hg.trans hg') s hs hM
  refine ⟨s', ?_, hM'⟩
  rw [state?, hb, ← List.append_assoc, State.run_concat]
  exact Option.bind_eq_some_iff.2 ⟨s, hs, hs'⟩

/-- Labels and returns change nothing in memory. -/
theorem Reaches.idle (h : l.Reaches m M) (hg : m.Grows m')
    (hb : m'.body.toList = m.body.toList ++ [i]) (hs : i.op ≠ .store)
    (hc : i.op.computes = false) : l.Reaches m' M :=
  h.concat hg hb fun _ s _ hM => ⟨s, State.step_of_idle hs hc, hM⟩

/-- A computation changes nothing in memory, and its result stands for what was computed. -/
theorem Reaches.compute (h : l.Reaches m M) (hg : m.Grows m') {op : Op} {type? : Option Word}
    {operands : List Word}
    (hb : m'.body.toList = m.body.toList ++ [⟨op, type?, some id, operands⟩])
    (hc : op.computes = true)
    (heval : m.Grows l.module → ∀ s, l.state? m = some s → s.memory = M →
      s.eval op id operands = some d) : l.Reaches m' M ∧ l.Holds m' id d := by
  refine ⟨h.concat hg hb fun hg' s hs hM =>
    ⟨_, State.step_of_computes hc (heval hg' s hs hM), hM⟩, fun hg' s' hs' => ?_⟩
  obtain ⟨s, hs, hM⟩ := h (hg.trans hg')
  have hstep : s.step ⟨op, type?, some id, operands⟩ = some (s.define id d) :=
    State.step_of_computes hc (heval (hg.trans hg') s hs hM)
  rw [state?, hb, ← List.append_assoc, State.run_concat] at hs'
  rw [state?] at hs
  rw [hs, Option.bind_some, hstep] at hs'
  cases hs'
  exact State.values_define s id d

/-- A store replaces what a variable holds. -/
theorem Reaches.store (h : l.Reaches m M) {pointer value : Word}
    (hp : l.Holds m pointer (.pointer id)) (hv : l.Holds m value d) :
    l.Reaches (m.withCode (.effect .store [pointer, value])) (M.write id d) :=
  h.concat (m.grows_withCode _) (Array.toList_push ..) fun hg s hs hM =>
    ⟨_, State.step_store (hp hg s hs) (hv hg s hs), by rw [hM]⟩

end

end Launch

end ShaderLowering.Spirv
