import ShaderLowering.Proofs.Semantics.Platform
import ShaderLowering.Proofs.Spirv.Ids
import ShaderLowering.Spirv.Enumerant

/-!
# Running SPIR-V

What the instructions of a module do on a platform. A run goes through the instructions in their
order: types, names and the like do nothing, constants and variables give their ids a meaning, and
the code of the function computes values and stores to variables, up to the first return. Control
flow does not come in, as the functions of lowered shaders have none.

A run can get stuck, on an operand that has no meaning or the wrong one, so what is proved about a
run includes that it does not.
-/

namespace ShaderLowering.Spirv

variable {P : Platform}

/-! ## Meanings -/

/-- What an id stands for, or what a variable holds. -/
inductive Datum (P : Platform) where
  /-- The components of a number or a vector. -/
  | lanes (words : List Word)
  /-- A pointer to a variable. -/
  | pointer (id : Word)
  /-- A pointer to an element of the buffer that a variable holds. -/
  | element (id index : Word)
  /-- Elements of four components each. -/
  | buffer (elements : Word → Nat → Word)
  | image (texture : P.Texture)
  | sampler (sampler : P.Sampler)
  /-- An image together with a sampler. -/
  | sampled (texture : P.Texture) (sampler : P.Sampler)

/-- What the variables hold. -/
abbrev Memory (P : Platform) := Word → Datum P

namespace Memory

/-- The memory behind a store to a variable. -/
def write (memory : Memory P) (id : Word) (d : Datum P) : Memory P :=
  fun x => if x = id then d else memory x

/-- What a pointer points to. -/
def read (memory : Memory P) : Datum P → Option (Datum P)
  | .pointer id => some (memory id)
  | .element id index =>
    match memory id with
    | .buffer elements => some (.lanes (fourLanes (elements index)))
    | _ => none
  | _ => none

theorem write_self (memory : Memory P) (id : Word) (d : Datum P) : memory.write id d id = d :=
  if_pos rfl

theorem write_of_ne (memory : Memory P) {id x : Word} (d : Datum P) (h : x ≠ id) :
    memory.write id d x = memory x := if_neg h

end Memory

/-- A run under way. -/
structure State (P : Platform) where
  /-- What the ids stand for that have been defined so far. -/
  values : Word → Option (Datum P)
  /-- What the variables hold. -/
  memory : Memory P

namespace State

/-- The state in which an id stands for something. -/
def define (s : State P) (id : Word) (d : Datum P) : State P :=
  { s with values := fun x => if x = id then some d else s.values x }

/-- The components that an id stands for. -/
def lanes (s : State P) (id : Word) : Option (List Word) :=
  match s.values id with
  | some (.lanes words) => some words
  | _ => none

theorem values_define (s : State P) (id : Word) (d : Datum P) :
    (s.define id d).values id = some d := if_pos rfl

theorem values_define_of_ne (s : State P) {id x : Word} (d : Datum P) (h : x ≠ id) :
    (s.define id d).values x = s.values x := if_neg h

theorem lanes_of_values {s : State P} {id : Word} {words : List Word}
    (h : s.values id = some (.lanes words)) : s.lanes id = some words := by
  rw [lanes, h]

/-! ## Instructions -/

/-- An operation on the components of two vectors with as many components. -/
def zip (f : Word → Word → Word) (xs ys : List Word) : Option (Datum P) :=
  if xs.length = ys.length then some (.lanes (List.zipWith f xs ys)) else none

/-- The sign of an integer is left out. -/
def magnitude (w : Word) : Word := if w.toNat < 0x80000000 then w else -w

/-- An extended instruction on vectors with as many components. -/
def extended (P : Platform) (number : Word) : List (List Word) → Option (Datum P)
  | [xs] =>
    if number = GlslOp.fAbs.number then some (.lanes (xs.map P.abs))
    else if number = GlslOp.sAbs.number then some (.lanes (xs.map magnitude))
    else if number = GlslOp.inverseSqrt.number then some (.lanes (xs.map P.inverseSqrt))
    else none
  | [xs, lows, highs] =>
    if number = GlslOp.fClamp.number ∧ xs.length = lows.length ∧ xs.length = highs.length then
      some (.lanes (List.zipWith (fun x b => P.clamp x b.1 b.2) xs (lows.zip highs)))
    else none
  | _ => none

/-- A sampled image at coordinates. -/
def sample (s : State P) (combined coordinate : Word) (lod? : Option Word) : Option (Datum P) :=
  match s.values combined, s.lanes coordinate with
  | some (.sampled texture sampler), some xs =>
    some (.lanes (fourLanes (P.sample texture sampler lod? xs)))
  | _, _ => none

/-- What the result of an instruction stands for. -/
def eval (s : State P) (op : Op) (id : Word) (operands : List Word) : Option (Datum P) :=
  match op, operands with
  | .constant, [bits] => some (.lanes [bits])
  | .constantComposite, parts | .compositeConstruct, parts =>
    (parts.mapM s.lanes).map fun vectors => .lanes vectors.flatten
  | .globalVariable, _ => some (.pointer id)
  | .load, [p] => (s.values p).bind s.memory.read
  | .accessChain, [block, member, index] =>
    match s.values block, s.lanes member, s.lanes index with
    | some (.pointer b), some [m], some [i] => if m = 0 then some (.element b i) else none
    | _, _, _ => none
  | .vectorShuffle, a :: b :: picks => do
    let all := (← s.lanes a) ++ (← s.lanes b)
    return .lanes (← picks.mapM fun k => all[k.toNat]?)
  | .compositeExtract, [v, k] => do
    let xs ← s.lanes v
    return .lanes [← xs[k.toNat]?]
  | .compositeInsert, [part, whole, k] =>
    match s.lanes part, s.lanes whole with
    | some [w], some xs => if k.toNat < xs.length then some (.lanes (xs.set k.toNat w)) else none
    | _, _ => none
  | .sampledImage, [image, sampler] =>
    match s.values image, s.values sampler with
    | some (.image t), some (.sampler r) => some (.sampled t r)
    | _, _ => none
  | .imageSampleImplicitLod, [combined, coordinate] => s.sample combined coordinate none
  | .imageSampleExplicitLod, [combined, coordinate, operandBits, lod] =>
    match s.lanes lod with
    | some [l] =>
      if operandBits = ImageOperands.lod.bits then s.sample combined coordinate (some l) else none
    | _ => none
  | .bitcast, [v] => (s.lanes v).map .lanes
  | .sNegate, [v] => (s.lanes v).map fun xs => .lanes (xs.map (- ·))
  | .fNegate, [v] => (s.lanes v).map fun xs => .lanes (xs.map P.neg)
  | .iAdd, [a, b] => do zip (· + ·) (← s.lanes a) (← s.lanes b)
  | .fAdd, [a, b] => do zip P.add (← s.lanes a) (← s.lanes b)
  | .iMul, [a, b] => do zip (· * ·) (← s.lanes a) (← s.lanes b)
  | .fMul, [a, b] => do zip P.mul (← s.lanes a) (← s.lanes b)
  | .dot, [a, b] => do
    let xs ← s.lanes a
    let ys ← s.lanes b
    if xs.length = ys.length then some (.lanes [P.dot xs ys]) else none
  | .extInst, _ :: number :: args => do extended P number (← args.mapM s.lanes)
  | _, _ => none

/-! ## Operations -/

section

variable {s : State P} {a b v p id : Word} {xs ys zs : List Word} {d e : Datum P}

attribute [local simp] eval

theorem eval_load (hp : s.values p = some d) (hd : s.memory.read d = some e) :
    s.eval .load id [p] = some e := by
  simp [hp, hd]

theorem eval_accessChain {block member index number : Word}
    (hb : s.values block = some (.pointer b)) (hm : s.lanes member = some [0])
    (hi : s.lanes index = some [number]) :
    s.eval .accessChain id [block, member, index] = some (.element b number) := by
  simp [hb, hm, hi]

theorem eval_construct {parts : List Word} {vectors : List (List Word)}
    (h : parts.mapM s.lanes = some vectors) :
    s.eval .compositeConstruct id parts = some (.lanes vectors.flatten) := by
  simp [h]

theorem eval_extract {k : Word} (hv : s.lanes v = some xs) {x : Word}
    (hk : xs[k.toNat]? = some x) : s.eval .compositeExtract id [v, k] = some (.lanes [x]) := by
  simp [hv, hk]

theorem eval_insert {part whole k w : Word} (hp : s.lanes part = some [w])
    (hw : s.lanes whole = some xs) (hk : k.toNat < xs.length) :
    s.eval .compositeInsert id [part, whole, k] = some (.lanes (xs.set k.toNat w)) := by
  simp [hp, hw, hk]

theorem eval_shuffle {picks : List Word} (ha : s.lanes a = some xs) (hb : s.lanes b = some ys)
    (h : picks.mapM (fun k => (xs ++ ys)[k.toNat]?) = some zs) :
    s.eval .vectorShuffle id (a :: b :: picks) = some (.lanes zs) := by
  simp [ha, hb, h]

theorem eval_bitcast (hv : s.lanes v = some xs) :
    s.eval .bitcast id [v] = some (.lanes xs) := by
  simp [hv]

/-- The operations on a vector component by component. -/
theorem eval_map {op : Op} {f : Word → Word} (hop : (op, f) ∈ [(.fNegate, P.neg), (.sNegate, (- ·))])
    (hv : s.lanes v = some xs) : s.eval op id [v] = some (.lanes (xs.map f)) := by
  simp only [List.mem_cons, List.not_mem_nil, or_false] at hop
  rcases hop with h | h <;> cases h <;> simp [hv]

/-- The operations on two vectors component by component. -/
theorem eval_zip {op : Op} {f : Word → Word → Word}
    (hop : (op, f) ∈ [(.fAdd, P.add), (.fMul, P.mul), (.iAdd, (· + ·)), (.iMul, (· * ·))])
    (ha : s.lanes a = some xs) (hb : s.lanes b = some ys) (hl : xs.length = ys.length) :
    s.eval op id [a, b] = some (.lanes (List.zipWith f xs ys)) := by
  simp only [List.mem_cons, List.not_mem_nil, or_false] at hop
  rcases hop with h | h | h | h <;> cases h <;> simp [ha, hb, zip, hl]

theorem eval_dot (ha : s.lanes a = some xs) (hb : s.lanes b = some ys)
    (hl : xs.length = ys.length) : s.eval .dot id [a, b] = some (.lanes [P.dot xs ys]) := by
  simp [ha, hb, hl]

theorem eval_sampledImage {image sampler : Word} {t : P.Texture} {r : P.Sampler}
    (hi : s.values image = some (.image t)) (hs : s.values sampler = some (.sampler r)) :
    s.eval .sampledImage id [image, sampler] = some (.sampled t r) := by
  simp [hi, hs]

theorem eval_sampleImplicit {t : P.Texture} {r : P.Sampler}
    (ha : s.values a = some (.sampled t r)) (hb : s.lanes b = some xs) :
    s.eval .imageSampleImplicitLod id [a, b] = some (.lanes (fourLanes (P.sample t r none xs))) := by
  simp [sample, ha, hb]

theorem eval_sampleExplicit {t : P.Texture} {r : P.Sampler} {lod level : Word}
    (ha : s.values a = some (.sampled t r)) (hb : s.lanes b = some xs)
    (hl : s.lanes lod = some [level]) :
    s.eval .imageSampleExplicitLod id [a, b, ImageOperands.lod.bits, lod] =
      some (.lanes (fourLanes (P.sample t r (some level) xs))) := by
  simp [sample, ha, hb, hl]

end

end State

/-- Whether the result of an operation stands for something that can be computed with. -/
def Op.computes : Op → Bool
  | constant | constantComposite | globalVariable | extInst | load | accessChain | vectorShuffle
  | compositeConstruct | compositeExtract | compositeInsert | sampledImage
  | imageSampleImplicitLod | imageSampleExplicitLod | bitcast | sNegate | fNegate | iAdd | fAdd
  | iMul | fMul | dot => true
  | _ => false

namespace State

/-- The state behind an instruction, if it does not get stuck. -/
def step (s : State P) (i : Inst) : Option (State P) :=
  if i.op = .store then
    match i.operands with
    | [pointer, value] =>
      match s.values pointer, s.values value with
      | some (.pointer id), some d => some { s with memory := s.memory.write id d }
      | _, _ => none
    | _ => none
  else if i.op.computes then
    i.result?.bind fun id => (s.eval i.op id i.operands).map (s.define id)
  else some s

/-- The state behind instructions; a return does nothing here. -/
def run (s : State P) (insts : List Inst) : Option (State P) := insts.foldlM step s

/-- The memory at the first return. -/
def execute (s : State P) : List Inst → Option (Memory P)
  | [] => none
  | i :: insts =>
    if i.op = .functionReturn then some s.memory else (s.step i).bind (execute · insts)

/-! ## Runs -/

variable {s s' : State P} {insts more : List Inst} {i : Inst} {id : Word}

@[simp] theorem run_nil (s : State P) : s.run [] = some s := rfl

theorem run_cons (s : State P) (i : Inst) (insts : List Inst) :
    s.run (i :: insts) = (s.step i).bind (·.run insts) := rfl

theorem run_append (s : State P) (insts more : List Inst) :
    s.run (insts ++ more) = (s.run insts).bind (·.run more) := by
  rw [run, List.foldlM_append]
  rfl

theorem run_concat (s : State P) (insts : List Inst) (i : Inst) :
    s.run (insts ++ [i]) = (s.run insts).bind (·.step i) := by
  rw [run_append]
  congr 1
  funext s'
  rw [run_cons]
  cases s'.step i <;> rfl

/-- Instructions that neither compute nor store do nothing. -/
theorem step_of_idle (hs : i.op ≠ .store) (hc : i.op.computes = false) : s.step i = some s := by
  rw [step, if_neg hs, hc]
  rfl

theorem run_of_idle (h : ∀ i ∈ insts, i.op ≠ .store ∧ i.op.computes = false) :
    s.run insts = some s := by
  induction insts with
  | nil => rfl
  | cons i insts ih =>
    obtain ⟨hs, hc⟩ := h i (List.mem_cons_self ..)
    rw [run_cons, step_of_idle hs hc]
    exact ih fun j hj => h j (List.mem_cons_of_mem _ hj)

/-- An instruction that computes gives its result a meaning. -/
theorem step_of_computes {op : Op} {type? : Option Word} {operands : List Word} {d : Datum P}
    (hc : op.computes = true) (h : s.eval op id operands = some d) :
    s.step ⟨op, type?, some id, operands⟩ = some (s.define id d) := by
  have hs : op ≠ .store := by
    rintro rfl
    cases hc
  simp only [step, if_neg hs, hc, if_true, Option.bind_some, h, Option.map_some]

/-- A store replaces what its variable holds. -/
theorem step_store {pointer value : Word} {d : Datum P}
    (hp : s.values pointer = some (.pointer id)) (hv : s.values value = some d) :
    s.step (.effect .store [pointer, value]) =
      some { s with memory := s.memory.write id d } := by
  simp only [step, Inst.effect, if_true, hp, hv]

/-- An instruction leaves the meanings of other ids alone. -/
theorem values_of_step (h : s.step i = some s') (hid : i.result? ≠ some id) :
    s'.values id = s.values id := by
  rw [step] at h
  split at h
  · split at h
    · split at h
      · cases h
        rfl
      · cases h
    · cases h
  · split at h
    · obtain ⟨x, hx, h⟩ := Option.bind_eq_some_iff.1 h
      obtain ⟨d, -, rfl⟩ := Option.map_eq_some_iff.1 h
      exact values_define_of_ne _ _ fun heq => hid (heq ▸ hx)
    · cases h
      rfl

/-- Instructions leave the meanings alone of ids that they do not define. -/
theorem values_of_run (h : s.run insts = some s') (hid : id ∉ results insts) :
    s'.values id = s.values id := by
  induction insts generalizing s with
  | nil =>
    cases h
    rfl
  | cons i insts ih =>
    rw [results_cons, List.mem_append, not_or] at hid
    rw [run_cons] at h
    obtain ⟨t, ht, h⟩ := Option.bind_eq_some_iff.1 h
    rw [ih h hid.2]
    exact values_of_step ht fun heq => hid.1 (by rw [heq]; exact List.mem_singleton.2 rfl)

/-- A run does not get stuck if no instruction of it does. -/
theorem exists_run (h : ∀ before i behind, insts = before ++ i :: behind → ∀ t,
    s.run before = some t → ∃ t', t.step i = some t') : ∃ t, s.run insts = some t := by
  induction insts generalizing s with
  | nil => exact ⟨s, rfl⟩
  | cons i insts ih =>
    obtain ⟨t, ht⟩ := h [] i insts rfl s rfl
    obtain ⟨u, hu⟩ := ih (s := t) fun before j behind heq v hv =>
      h (i :: before) j behind (by rw [heq]; rfl) v (by rw [run_cons, ht]; exact hv)
    exact ⟨u, by rw [run_cons, ht]; exact hu⟩

theorem memory_of_step (h : s.step i = some s') (hi : i.op ≠ .store) : s'.memory = s.memory := by
  rw [step, if_neg hi] at h
  split at h
  · obtain ⟨x, -, h⟩ := Option.bind_eq_some_iff.1 h
    obtain ⟨d, -, rfl⟩ := Option.map_eq_some_iff.1 h
    rfl
  · cases h
    rfl

/-- Only stores change what variables hold. -/
theorem memory_of_run (h : s.run insts = some s') (hi : ∀ i ∈ insts, i.op ≠ .store) :
    s'.memory = s.memory := by
  induction insts generalizing s with
  | nil =>
    cases h
    rfl
  | cons i insts ih =>
    rw [run_cons] at h
    obtain ⟨t, ht, h⟩ := Option.bind_eq_some_iff.1 h
    rw [ih h fun j hj => hi j (List.mem_cons_of_mem _ hj)]
    exact memory_of_step ht (hi i (List.mem_cons_self ..))

/-- An execution is a run up to the first return. -/
theorem execute_eq_run (hi : i.op = .functionReturn) (h : ∀ j ∈ insts, j.op ≠ .functionReturn) :
    s.execute (insts ++ i :: more) = (s.run insts).map (·.memory) := by
  induction insts generalizing s with
  | nil => rw [List.nil_append, execute, if_pos hi, run_nil, Option.map_some]
  | cons j insts ih =>
    rw [List.cons_append, execute, if_neg (h j (List.mem_cons_self ..)), run_cons]
    cases s.step j with
    | none => rfl
    | some t => exact ih fun k hk => h k (List.mem_cons_of_mem _ hk)

end State

end ShaderLowering.Spirv
