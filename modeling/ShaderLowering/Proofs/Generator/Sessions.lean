import ShaderLowering.Proofs.Generator.Settling
import ShaderLowering.Proofs.Lowering.MeaningKept

/-!
# Sessions with a generator

A session is a sequence of requests to a generator, in which later requests use what earlier ones have
been answered with. Whatever is asked for, in whatever order, the code that the generator has emitted
computes what the requests mean: each value that it has handed out is, behind the code, the components
that it is defined to be, and the variables hold what the registers do.

`Session.Agrees` is what a session keeps from one request to the next. It speaks of the module that
the session ends with, as nobody knows the types and constants of it before.
-/

namespace ShaderLowering

open Spirv

/-! ## Requests at work -/

/-- Asks a generator to supply something. -/
def Supply.perform : Supply → Generate (Answer Value Pointer)
  | declareTemps count => do
    Generate.declareTemps count
    return .done
  | declareConstantBuffer register size => do
    Generate.declareConstantBuffer register size
    return .done
  | declareResource register dim returnType => do
    Generate.declareResource register dim returnType
    return .done
  | declareSampler register mode => do
    Generate.declareSampler register mode
    return .done
  | declareInterface d => do
    Generate.declareInterface d
    return .done
  | declareThreadGroup x y z => do
    Generate.declareThreadGroup x y z
    return .done
  | constantScalar scalar bits => return .value (← Generate.constantScalar scalar bits)
  | constantVector scalar x y z w => return .value (← Generate.constantVector scalar [x, y, z, w])
  | tempPointer n => return .pointer (← Generate.tempPointer n)
  | interfacePointer type n => return .pointer (← Generate.interfacePointer type n)

/-- Asks a generator to make something of a value. -/
def Unary.perform (v : Value) : Unary → Generate (Answer Value Pointer)
  | element buffer => return .pointer (← Generate.constantBufferPointer buffer v)
  | cast scalar => return .value (← Generate.cast v scalar)
  | extract mask => return .value (← Generate.extract v mask)
  | swizzle s mask => return .value (← Generate.swizzle v s mask)
  | replicate count => return .value (← Generate.replicate v count)
  | inverseSqrt => return .value (← Generate.inverseSqrt v)
  | abs => return .value (← Generate.abs v)
  | neg => return .value (← Generate.neg v)
  | saturate => return .value (← Generate.saturate v)
  | sample texture sampler => return .value (← Generate.sample texture sampler v)

/-- Asks a generator to make something of two values. -/
def Binary.perform (a b : Value) : Binary → Generate (Answer Value Pointer)
  | add => return .value (← Generate.add a b)
  | mul => return .value (← Generate.mul a b)
  | dot => return .value (← Generate.dot a b)

/-- Asks a generator for something, if the earlier answers that it takes are there. -/
def Request.perform? (answers : List (Answer Value Pointer)) :
    Request → Option (Generate (Answer Value Pointer))
  | supply s => some s.perform
  | unary op v => do
    let v ← Answer.valueAt answers v
    return op.perform v
  | binary op a b => do
    let a ← Answer.valueAt answers a
    let b ← Answer.valueAt answers b
    return op.perform a b
  | load p => do
    let p ← Answer.pointerAt answers p
    return do return .value (← Generate.load p)
  | store p v mask => do
    let p ← Answer.pointerAt answers p
    let v ← Answer.valueAt answers v
    return do
      Generate.store p v mask
      return .done

/-- A generator with the requests so far and their answers. -/
structure Session where
  generator : Generator
  history : List (Request × Answer Value Pointer)

namespace Session

/-- Nothing has been asked for. -/
def start (stage : EntryStage) (options : Options) : Session := ⟨.start stage options, []⟩

/-- The answers so far. -/
def answers (s : Session) : List (Answer Value Pointer) := s.history.map (·.2)

/-- The answer of the generator to a request, and the generator behind it. -/
def reply (s : Session) (request : Request) : Answer Value Pointer × Generator :=
  match request.perform? s.answers with
  | none => (.refused, s.generator)
  | some op =>
    match op.run s.generator with
    | (.ok answer, g) => (answer, g)
    | (.error _, g) => (.refused, g)

/-- Another request. -/
def step (s : Session) (request : Request) : Session :=
  ⟨(s.reply request).2, s.history ++ [(request, (s.reply request).1)]⟩

/-- Requests one after the other. -/
def run (s : Session) (requests : List Request) : Session := requests.foldl step s

variable {P : Platform}

/-- What the requests so far mean, as far as they have been granted. -/
def meaning (E : Surroundings P) (R : Registers) (s : Session) : Meaning :=
  s.history.foldl (fun m x => m.step E x.1 x.2.isGranted) ⟨R, []⟩

theorem meaning_step (E : Surroundings P) (R : Registers) (s : Session) (request : Request) :
    (s.step request).meaning E R =
      (s.meaning E R).step E request (s.reply request).1.isGranted :=
  List.foldl_concat ..

/-- A request lacks an argument, or it is granted, or it is refused. -/
theorem reply_cases (s : Session) (request : Request) :
    s.reply request = (.refused, s.generator) ∨
    ∃ op, request.perform? s.answers = some op ∧
      (op.run s.generator = (.ok (s.reply request).1, (s.reply request).2) ∨
        (s.reply request).1 = .refused ∧
          ∃ e, op.run s.generator = (.error e, (s.reply request).2)) := by
  rw [reply]
  cases request.perform? s.answers with
  | none => exact .inl rfl
  | some op =>
    refine .inr ⟨op, rfl, ?_⟩
    dsimp only
    cases op.run s.generator with
    | mk result g =>
      cases result with
      | ok a => exact .inl rfl
      | error e => exact .inr ⟨rfl, e, rfl⟩

theorem answers_step (s : Session) (request : Request) :
    (s.step request).answers = s.answers ++ [(s.reply request).1] := by
  rw [answers, step, List.map_append]
  rfl

theorem requests_run (s : Session) (requests : List Request) :
    (s.run requests).history.map (·.1) = s.history.map (·.1) ++ requests := by
  induction requests generalizing s with
  | nil => exact (List.append_nil _).symm
  | cons request requests ih =>
    rw [run, List.foldl_cons, ← run, ih, step, List.map_append, List.append_assoc]
    rfl

/-- A whole session means what its requests do, as far as they have been granted. -/
theorem meaning_run (E : Surroundings P) (R : Registers) (stage : EntryStage) (options : Options)
    (requests : List Request) :
    ((start stage options).run requests).meaning E R =
      (requests.zip (((start stage options).run requests).answers.map (·.isGranted))).foldl
        (fun m x => m.step E x.1 x.2) ⟨R, []⟩ := by
  have hrequests := requests_run (start stage options) requests
  generalize (start stage options).run requests = s at *
  replace hrequests : s.history.map (·.1) = requests := hrequests
  rw [← hrequests, answers, List.map_map, List.zip_map', List.foldl_map]
  rfl

end Session

/-! ## What answers stand for -/

namespace Answer

variable {P : Platform} {l : Launch P} {g g' : Generator} {m m' : Module}

/-- The next instruction can use what a request is answered with. -/
def IsUsable (m : Module) : Answer Value Pointer → Prop
  | value v => m.HasValue v
  | pointer p => m.HasPointer p
  | refused | done => True

/-- An answer stands for another one, in which values are components and pointers are places. -/
inductive Means (l : Launch P) (g : Generator) : Answer Value Pointer → Answer Lanes Place → Prop
  | refused : Means l g .refused .refused
  | done : Means l g .done .done
  | value {v x} (h : l.Shows g.module v x) : Means l g (.value v) (.value x)
  | pointer {p place} (h : l.Locates g p place) : Means l g (.pointer p) (.pointer place)

theorem IsUsable.mono {a : Answer Value Pointer} (h : a.IsUsable m) (hc : m.Continues m') :
    a.IsUsable m' := by
  cases a with
  | value v => exact Module.HasValue.mono h hc
  | pointer p => exact Module.HasPointer.mono h hc
  | refused | done => trivial

theorem Means.mono {a : Answer Value Pointer} {b : Answer Lanes Place} (h : a.Means l g b)
    (hg : g.Grows g') : a.Means l g' b := by
  cases h with
  | refused => exact .refused
  | done => exact .done
  | value h => exact .value (h.mono hg.module)
  | pointer h => exact .pointer (h.mono hg)

variable {answers : List (Answer Value Pointer)} {meanings : List (Answer Lanes Place)} {k : Nat}
variable {v : Value} {p : Pointer}

theorem getElem?_of_valueAt {V A : Type} {answers : List (Answer V A)} {v : V}
    (h : valueAt answers k = some v) : answers[k]? = some (.value v) := by
  rw [valueAt] at h
  split at h
  · next heq =>
    cases h
    exact heq
  · cases h

theorem getElem?_of_pointerAt {V A : Type} {answers : List (Answer V A)} {p : A}
    (h : pointerAt answers k = some p) : answers[k]? = some (.pointer p) := by
  rw [pointerAt] at h
  split at h
  · next heq =>
    cases h
    exact heq
  · cases h

/-- An answer and what it stands for have the same number. -/
theorem exists_means (h : List.Forall₂ (Means l g) answers meanings) {a : Answer Value Pointer}
    (ha : answers[k]? = some a) : ∃ b, meanings[k]? = some b ∧ a.Means l g b := by
  obtain ⟨hk, rfl⟩ := List.getElem?_eq_some_iff.1 ha
  have hk' : k < meanings.length := h.length_eq ▸ hk
  exact ⟨_, List.getElem?_eq_getElem hk', h.get hk hk'⟩

/-- A value that has been handed out stands for components. -/
theorem shows_of_valueAt (h : List.Forall₂ (Means l g) answers meanings)
    (hv : valueAt answers k = some v) :
    ∃ x, valueAt meanings k = some x ∧ l.Shows g.module v x := by
  obtain ⟨b, hb, hmeans⟩ := exists_means h (getElem?_of_valueAt hv)
  cases hmeans with
  | value hx => exact ⟨_, by rw [valueAt, hb], hx⟩

/-- A pointer that has been handed out points to a place. -/
theorem locates_of_pointerAt (h : List.Forall₂ (Means l g) answers meanings)
    (hp : pointerAt answers k = some p) :
    ∃ place, pointerAt meanings k = some place ∧ l.Locates g p place := by
  obtain ⟨b, hb, hmeans⟩ := exists_means h (getElem?_of_pointerAt hp)
  cases hmeans with
  | pointer hplace => exact ⟨_, by rw [pointerAt, hb], hplace⟩

end Answer

/-! ## One request -/

section

variable {P : Platform} {l : Launch P} {g G : Generator} {M : Memory P} {E : Surroundings P}
variable {R : Registers} {a b v : Value} {x y : Lanes}

/-- What the answer of a request that is granted is good for. -/
def Answer.IsGiven (a : Answer Value Pointer) (g : Generator) : Prop :=
  a.isGranted = true ∧ a.IsUsable g.module

theorem Supply.keeps_perform (hg : g.WellFormed) (s : Supply) :
    Keeps g s.perform Answer.IsGiven := by
  cases s with
  | declareTemps count =>
    exact (Generate.keeps_declareTemps hg count).bind_pure fun _ _ _ => ⟨rfl, trivial⟩
  | declareConstantBuffer register size =>
    exact (Generate.keeps_declareConstantBuffer hg register size).bind_pure fun _ _ _ =>
      ⟨rfl, trivial⟩
  | declareResource register dim returnType =>
    exact (Generate.keeps_declareResource hg register dim returnType).bind_pure fun _ _ _ =>
      ⟨rfl, trivial⟩
  | declareSampler register mode =>
    exact (Generate.keeps_declareSampler hg register mode).bind_pure fun _ _ _ => ⟨rfl, trivial⟩
  | declareInterface d =>
    exact (Generate.keeps_declareInterface hg d).bind_pure fun _ _ _ => ⟨rfl, trivial⟩
  | declareThreadGroup x y z =>
    exact (Generate.keeps_declareThreadGroup hg x y z).bind_pure fun _ _ _ => ⟨rfl, trivial⟩
  | constantScalar scalar bits =>
    exact (Generate.keeps_constantScalar hg scalar bits).bind_pure fun _ _ h => ⟨rfl, h.2⟩
  | constantVector scalar x y z w =>
    have hcount : 1 ≤ [x, y, z, w].length ∧ [x, y, z, w].length ≤ 4 :=
      ⟨Nat.le_add_left 1 3, Nat.le_refl 4⟩
    exact (Generate.keeps_constantVector hg scalar hcount.1 hcount.2).bind_pure fun _ _ h =>
      ⟨rfl, h.2⟩
  | tempPointer n => exact (Generate.keeps_tempPointer hg n).bind_pure fun _ _ h => ⟨rfl, h⟩
  | interfacePointer type n =>
    exact (Generate.keeps_interfacePointer hg type n).bind_pure fun _ _ h => ⟨rfl, h⟩

theorem Supply.settles_perform (hg : g.WellFormed) (hM : l.Reaches g.module M) (s : Supply) :
    Settles l g s.perform (fun a g' => a.Means l g' s.answer) M M := by
  -- declarations leave the code alone, whether they fail or not
  have hdeclared {op : Generate Unit} {Q : Unit → Generator → Prop} (hk : Keeps g op Q)
      (hc : LeavesCode op) : Settles l g (do op; return .done)
        (fun a g' => Answer.Means l g' a (.done : Answer Lanes Place)) M M :=
    (Generate.settles_of_leavesCode hk hc hM).bind_pure fun _ _ _ => .done
  cases s with
  | declareTemps count =>
    exact hdeclared (Generate.keeps_declareTemps hg count) (Generate.leavesCode_declareTemps count)
  | declareConstantBuffer register size =>
    exact hdeclared (Generate.keeps_declareConstantBuffer hg register size)
      (Generate.leavesCode_declareConstantBuffer register size)
  | declareResource register dim returnType =>
    exact hdeclared (Generate.keeps_declareResource hg register dim returnType)
      (Generate.leavesCode_declareResource register dim returnType)
  | declareSampler register mode =>
    exact hdeclared (Generate.keeps_declareSampler hg register mode)
      (Generate.leavesCode_declareSampler register mode)
  | declareInterface d =>
    exact hdeclared (Generate.keeps_declareInterface hg d) (Generate.leavesCode_declareInterface d)
  | declareThreadGroup x y z =>
    exact hdeclared (Generate.keeps_declareThreadGroup hg x y z)
      (Generate.leavesCode_declareThreadGroup x y z)
  | constantScalar scalar bits =>
    exact (Settles.of_performs (Generate.performs_constantScalar hg hM scalar bits)).bind_pure
      fun _ _ h => .value ⟨by rw [h.1], h.2⟩
  | constantVector scalar x y z w =>
    exact (Settles.of_performs (Generate.performs_constantVector hg hM scalar
      [x, y, z, w])).bind_pure fun _ _ h => .value ⟨by rw [h.1], h.2⟩
  | tempPointer n =>
    exact (Generate.settles_tempPointer hg hM n).bind_pure fun _ _ h => .pointer h
  | interfacePointer type n =>
    refine (Generate.settles_interfacePointer hg hM type n).bind_pure fun p g' h => ?_
    obtain ⟨kind, hkind, h⟩ := h
    rw [answer, hkind]
    exact .pointer h

theorem Unary.keeps_perform (hg : g.WellFormed) (hv : g.module.HasValue v) {op : Unary}
    (hop : op.IsValid) : Keeps g (op.perform v) Answer.IsGiven := by
  cases op with
  | element buffer =>
    exact (Generate.keeps_constantBufferPointer hg buffer hv).bind_pure fun _ _ h => ⟨rfl, h⟩
  | cast scalar => exact (Generate.keeps_cast hg hv scalar).bind_pure fun _ _ h => ⟨rfl, h.2⟩
  | extract mask => exact (Generate.keeps_extract hg hv mask).bind_pure fun _ _ h => ⟨rfl, h.2⟩
  | swizzle s mask => exact (Generate.keeps_swizzle hg hv s mask).bind_pure fun _ _ h => ⟨rfl, h.2⟩
  | replicate count =>
    exact (Generate.keeps_replicate hg hv hop.1 hop.2).bind_pure fun _ _ h => ⟨rfl, h.2⟩
  | inverseSqrt => exact (Generate.keeps_inverseSqrt hg hv).bind_pure fun _ _ h => ⟨rfl, h.2⟩
  | abs => exact (Generate.keeps_abs hg hv).bind_pure fun _ _ h => ⟨rfl, h.2⟩
  | neg => exact (Generate.keeps_neg hg hv).bind_pure fun _ _ h => ⟨rfl, h.2⟩
  | saturate => exact (Generate.keeps_saturate hg hv).bind_pure fun _ _ h => ⟨rfl, h.2⟩
  | sample texture sampler =>
    exact (Generate.keeps_sample hg texture sampler hv).bind_pure fun _ _ h => ⟨rfl, h⟩

theorem Unary.settles_perform (hg : g.WellFormed) (hM : l.Reaches g.module M)
    (hR : Represents g E.toEnvironment R M) (hE : E.Suits g) (hv : g.module.HasValue v)
    (hx : l.Shows g.module v x) (op : Unary) :
    Settles l g (op.perform v) (fun a g' => a.Means l g' (op.answer E x)) M M := by
  cases op with
  | element buffer =>
    exact (Generate.settles_constantBufferPointer hg hM buffer hv hx).bind_pure fun _ _ => .pointer
  | cast scalar => exact (Generate.settles_cast hg hM hx scalar).bind_pure fun _ _ => .value
  | extract mask => exact (Generate.settles_extract hg hM hv hx mask).bind_pure fun _ _ => .value
  | swizzle s mask => exact (Generate.settles_swizzle hg hM hv hx s mask).bind_pure fun _ _ => .value
  | replicate count => exact (Generate.settles_replicate hg hM hx count).bind_pure fun _ _ => .value
  | inverseSqrt => exact (Generate.settles_inverseSqrt hg hM hx).bind_pure fun _ _ => .value
  | abs => exact (Generate.settles_abs hg hM hx).bind_pure fun _ _ => .value
  | neg => exact (Generate.settles_neg hg hM hx).bind_pure fun _ _ => .value
  | saturate => exact (Generate.settles_saturate hg hM hx).bind_pure fun _ _ => .value
  | sample texture sampler =>
    exact (Generate.settles_sample hg hM hR hE hv hx texture sampler).bind_pure fun _ _ => .value

theorem Binary.keeps_perform (hg : g.WellFormed) (ha : g.module.HasValue a)
    (hb : g.module.HasValue b) (op : Binary) : Keeps g (op.perform a b) Answer.IsGiven := by
  cases op with
  | add => exact (Generate.keeps_add hg ha hb).bind_pure fun _ _ h => ⟨rfl, h.2⟩
  | mul => exact (Generate.keeps_mul hg ha hb).bind_pure fun _ _ h => ⟨rfl, h.2⟩
  | dot => exact (Generate.keeps_dot hg ha hb).bind_pure fun _ _ h => ⟨rfl, h.2⟩

theorem Binary.settles_perform (hg : g.WellFormed) (hM : l.Reaches g.module M)
    (ha : g.module.HasValue a) (hx : l.Shows g.module a x) (hy : l.Shows g.module b y)
    (op : Binary) :
    Settles l g (op.perform a b) (fun c g' => c.Means l g' (op.answer P x y)) M M := by
  cases op with
  | add => exact (Generate.settles_add hg hM hx hy).bind_pure fun _ _ => .value
  | mul => exact (Generate.settles_mul hg hM hx hy).bind_pure fun _ _ => .value
  | dot => exact (Generate.settles_dot hg hM ha hx hy).bind_pure fun _ _ => .value

end

/-! ## Many requests -/

namespace Session

variable {P : Platform} {l : Launch P} {G : Generator} {E : Surroundings P} {R : Registers}
variable {s : Session} {request : Request} {requests : List Request}
variable {op : Generate (Answer Value Pointer)}

/-! ### What has been handed out -/

/-- The generator is well-formed, and what it has handed out can be used. -/
structure Sound (s : Session) : Prop where
  wellFormed : s.generator.WellFormed
  usable : ∀ a ∈ s.answers, a.IsUsable s.generator.module

theorem Sound.hasValue (h : s.Sound) {k : Nat} {v : Value}
    (hv : Answer.valueAt s.answers k = some v) : s.generator.module.HasValue v :=
  h.usable _ (List.mem_of_getElem? (Answer.getElem?_of_valueAt hv))

theorem Sound.hasPointer (h : s.Sound) {k : Nat} {p : Pointer}
    (hp : Answer.pointerAt s.answers k = some p) : s.generator.module.HasPointer p :=
  h.usable _ (List.mem_of_getElem? (Answer.getElem?_of_pointerAt hp))

theorem Sound.keeps (h : s.Sound) (hvalid : request.IsValid)
    (hop : request.perform? s.answers = some op) : Keeps s.generator op Answer.IsGiven := by
  have hg := h.wellFormed
  -- only with arguments that have been handed out is there an operation at all
  cases request with
  | supply q =>
    cases hop
    exact q.keeps_perform hg
  | unary q k =>
    obtain ⟨v, hv, hop⟩ := Option.bind_eq_some_iff.1 hop
    cases hop
    exact q.keeps_perform hg (h.hasValue hv) hvalid
  | binary q k k' =>
    obtain ⟨a, ha, hop⟩ := Option.bind_eq_some_iff.1 hop
    obtain ⟨b, hb, hop⟩ := Option.bind_eq_some_iff.1 hop
    cases hop
    exact q.keeps_perform hg (h.hasValue ha) (h.hasValue hb)
  | load k =>
    obtain ⟨p, hp, hop⟩ := Option.bind_eq_some_iff.1 hop
    cases hop
    exact (Generate.keeps_load hg (h.hasPointer hp)).bind_pure fun _ _ hv => ⟨rfl, hv.2⟩
  | store k k' mask =>
    obtain ⟨p, hp, hop⟩ := Option.bind_eq_some_iff.1 hop
    obtain ⟨v, hv, hop⟩ := Option.bind_eq_some_iff.1 hop
    cases hop
    exact (Generate.keeps_store hg (h.hasPointer hp) (h.hasValue hv) mask).bind_pure fun _ _ _ =>
      ⟨rfl, trivial⟩

/-- Whether a request is granted or not, what was handed out before can still be used. -/
theorem Sound.step (h : s.Sound) (hvalid : request.IsValid) :
    s.generator.Continues (s.step request).generator ∧ (s.step request).Sound := by
  -- the answers from before are still good, so the last one is all there is to see to
  have hused {g : Generator} (hc : s.generator.Continues g) (hg : g.WellFormed)
      (hlast : (s.reply request).1.IsUsable g.module) (hreply : (s.reply request).2 = g) :
      s.generator.Continues (s.step request).generator ∧ (s.step request).Sound := by
    subst hreply
    refine ⟨hc, hg, fun a ha => ?_⟩
    rw [answers_step, List.mem_append, List.mem_singleton] at ha
    rcases ha with ha | rfl
    · exact (h.usable a ha).mono hc.continues
    · exact hlast
  -- the arguments are not there, the request is granted, or it fails
  rcases s.reply_cases request with hr | ⟨op, hop, hr | ⟨hrefused, e, hr⟩⟩
  · exact hused (.refl _) h.wellFormed (by rw [hr]; trivial) (by rw [hr])
  all_goals
    obtain ⟨hc, hg, hresult⟩ := h.keeps hvalid hop
    rw [hr] at hc hg
  · rw [hr] at hresult
    exact hused hc hg (hresult _ rfl).2 rfl
  · exact hused hc hg (by rw [hrefused]; trivial) rfl

theorem Sound.run (h : s.Sound) (hvalid : ∀ request ∈ requests, request.IsValid) :
    s.generator.Continues (s.run requests).generator ∧ (s.run requests).Sound := by
  induction requests generalizing s with
  | nil => exact ⟨.refl _, h⟩
  | cons request requests ih =>
    obtain ⟨hc, h'⟩ := h.step (hvalid request (List.mem_cons_self ..))
    obtain ⟨hc', h''⟩ := ih h' fun q hq => hvalid q (List.mem_cons_of_mem _ hq)
    exact ⟨hc.trans hc', h''⟩

/-! ### What it stands for -/

/-- What holds behind each request of a session that ends with a generator: what has been handed out
stands for what it is defined to be, and the memory represents the registers. -/
structure Agrees (l : Launch P) (G : Generator) (E : Surroundings P) (R : Registers)
    (s : Session) : Prop extends Sound s where
  means : List.Forall₂ (Answer.Means l s.generator) s.answers (s.meaning E R).answers
  reaches : ∃ M, Represents G E.toEnvironment (s.meaning E R).registers M ∧
    l.Reaches s.generator.module M

/-- A request whose arguments are there has a meaning. If it is granted, the generator does what it
means, and otherwise nothing. -/
theorem Agrees.settles (h : s.Agrees l G E R) (hG : G.WellFormed)
    (hfit : G.module.bound < UInt32.size) (hE : E.Suits G) (hgrows : s.generator.Grows G)
    (hop : request.perform? s.answers = some op) :
    ∃ answer registers M M', (s.meaning E R).reply? E request = some (answer, registers) ∧
      Represents G E.toEnvironment (s.meaning E R).registers M ∧
      Represents G E.toEnvironment registers M' ∧
      Settles l s.generator op (fun a g => a.Means l g answer) M M' := by
  obtain ⟨M, hR, hM⟩ := h.reaches
  have hR' := hR.mono hgrows
  have hE' : E.Suits s.generator := fun n d hd => hE n d (hgrows.resource? hd)
  have hg := h.wellFormed
  -- arguments that have been handed out stand for what the meaning has in their places
  cases request with
  | supply q =>
    cases hop
    exact ⟨_, _, M, M, rfl, hR, hR, q.settles_perform hg hM⟩
  | unary q k =>
    obtain ⟨v, hv, hop⟩ := Option.bind_eq_some_iff.1 hop
    cases hop
    obtain ⟨x, hx, hshows⟩ := Answer.shows_of_valueAt h.means hv
    refine ⟨q.answer E x, _, M, M, ?_, hR, hR,
      q.settles_perform hg hM hR' hE' (h.hasValue hv) hshows⟩
    simp only [Meaning.reply?, hx]
    rfl
  | binary q k k' =>
    obtain ⟨a, ha, hop⟩ := Option.bind_eq_some_iff.1 hop
    obtain ⟨b, hb, hop⟩ := Option.bind_eq_some_iff.1 hop
    cases hop
    obtain ⟨x, hx, hshows⟩ := Answer.shows_of_valueAt h.means ha
    obtain ⟨y, hy, hshows'⟩ := Answer.shows_of_valueAt h.means hb
    refine ⟨q.answer P x y, _, M, M, ?_, hR, hR,
      q.settles_perform hg hM (h.hasValue ha) hshows hshows'⟩
    simp only [Meaning.reply?, hx, hy]
    rfl
  | load k =>
    obtain ⟨p, hp, hop⟩ := Option.bind_eq_some_iff.1 hop
    cases hop
    obtain ⟨place, hplace, hlocates⟩ := Answer.locates_of_pointerAt h.means hp
    refine ⟨.value ⟨.float32, fourLanes (place.read E.toEnvironment _)⟩, _, M, M, ?_, hR, hR,
      (Generate.settles_load hg hM hR' (h.hasPointer hp) hlocates).bind_pure fun _ _ => .value⟩
    simp only [Meaning.reply?, hplace]
    rfl
  | store k k' mask =>
    obtain ⟨p, hp, hop⟩ := Option.bind_eq_some_iff.1 hop
    obtain ⟨v, hv, hop⟩ := Option.bind_eq_some_iff.1 hop
    cases hop
    obtain ⟨place, hplace, hlocates⟩ := Answer.locates_of_pointerAt h.means hp
    obtain ⟨x, hx, hshows⟩ := Answer.shows_of_valueAt h.means hv
    obtain ⟨M', hR₁, hsettles⟩ := Generate.settles_store hG hfit hgrows hR hg hM (h.hasPointer hp)
      hlocates (h.hasValue hv) hshows mask
    refine ⟨.done, place.store _ mask x, M, M', ?_, hR, hR₁, hsettles.bind_pure fun _ _ _ => .done⟩
    simp only [Meaning.reply?, hplace, hx]
    rfl

/-- One request: what has been handed out goes on standing for what it did. -/
theorem Agrees.step (h : s.Agrees l G E R) (hG : G.WellFormed)
    (hfit : G.module.bound < UInt32.size) (hE : E.Suits G) (hvalid : request.IsValid)
    (hgrows : (s.step request).generator.Grows G) : (s.step request).Agrees l G E R := by
  obtain ⟨hc, hsound⟩ := h.toSound.step hvalid
  have hmeans (b : Answer Lanes Place) (hb : (s.reply request).1.Means l (s.step request).generator b) :
      List.Forall₂ (Answer.Means l (s.step request).generator) (s.step request).answers
        ((s.meaning E R).answers ++ [b]) := by
    rw [answers_step]
    exact List.rel_append (h.means.imp fun _ _ hm => hm.mono hc.toGrows) (.cons hb .nil)
  -- a request that is not granted leaves registers and memory alone
  have hrefused (hr : (s.reply request).1 = .refused) (hM : ∃ M,
      Represents G E.toEnvironment (s.meaning E R).registers M ∧
        l.Reaches (s.step request).generator.module M) : (s.step request).Agrees l G E R := by
    have hmeaning : (s.step request).meaning E R =
        { s.meaning E R with answers := (s.meaning E R).answers ++ [.refused] } := by
      rw [meaning_step, hr]
      exact Meaning.step_refused E _ request
    refine ⟨hsound, ?_, ?_⟩ <;> rw [hmeaning]
    · exact hmeans _ (by rw [hr]; exact .refused)
    · exact hM
  rcases s.reply_cases request with hr | ⟨op, hop, hr | ⟨hr', e, hr⟩⟩
  · refine hrefused (by rw [hr]) ?_
    rw [Session.step, hr]
    exact h.reaches
  all_goals
    obtain ⟨answer, registers, M, M', hreply, hR, hR', hsettles⟩ := h.settles hG hfit hE
      (hc.toGrows.trans hgrows) hop
  · obtain ⟨hm, hM'⟩ := hsettles.ok _ (by rw [hr])
    obtain ⟨hgranted, -⟩ := (h.toSound.keeps hvalid hop).result _ (by rw [hr])
    rw [hr] at hm hM'
    have hmeaning : (s.step request).meaning E R =
        ⟨registers, (s.meaning E R).answers ++ [answer]⟩ := by
      rw [meaning_step, hgranted, Meaning.step_granted hreply]
    refine ⟨hsound, ?_, ?_⟩ <;> rw [hmeaning]
    · exact hmeans _ hm
    · exact ⟨M', hR', hM'⟩
  · have hM := hsettles.error e (by rw [hr])
    rw [hr] at hM
    exact hrefused hr' ⟨M, hR, hM⟩

theorem Agrees.run (h : s.Agrees l G E R) (hG : G.WellFormed)
    (hfit : G.module.bound < UInt32.size) (hE : E.Suits G)
    (hvalid : ∀ request ∈ requests, request.IsValid)
    (hgrows : (s.run requests).generator.Grows G) : (s.run requests).Agrees l G E R := by
  induction requests generalizing s with
  | nil => exact h
  | cons request requests ih =>
    have hfirst := hvalid request (List.mem_cons_self ..)
    have hrest : ∀ q ∈ requests, q.IsValid := fun q hq => hvalid q (List.mem_cons_of_mem _ hq)
    -- the generator grows with every request, so it is never ahead of the last one
    have hgrows' := ((h.toSound.step hfirst).2.run hrest).1.toGrows.trans hgrows
    exact ih (h.step hG hfit hE hfirst hgrows') hrest hgrows

/-! ### Whole sessions -/

section

variable {stage : EntryStage} {options : Options} {M : Memory P}

theorem sound_start (stage : EntryStage) (options : Options) : (start stage options).Sound :=
  ⟨Generator.wellFormed_start stage options, nofun⟩

/-- From a memory, the code of a session computes what its requests mean: it does not get stuck, the
variables hold what the registers do, each value that has been handed out stands for the components
that it is defined to be, and each pointer for what lies at its place. -/
def Computes (s : Session) (E : Surroundings P) (R : Registers) (M : Memory P) : Prop :=
  ∃ t : State P, State.run ⟨fun _ => none, M⟩ s.generator.module.defining = some t ∧
    Represents s.generator E.toEnvironment (s.meaning E R).registers t.memory ∧
    (∀ k v, Answer.valueAt s.answers k = some v →
      ∃ x, Answer.valueAt (s.meaning E R).answers k = some x ∧
        v.type = x.type ∧ t.lanes v.id = some x.words) ∧
    ∀ k p, Answer.pointerAt s.answers k = some p →
      ∃ place, Answer.pointerAt (s.meaning E R).answers k = some place ∧
        (t.values p.id).bind t.memory.read =
          some (.lanes (fourLanes (place.read E.toEnvironment (s.meaning E R).registers)))

/-- Whatever is asked for, the code computes it from any memory that represents registers. -/
theorem computes_run (hvalid : ∀ request ∈ requests, request.IsValid)
    (hfit : ((start stage options).run requests).generator.module.bound < UInt32.size)
    (hE : E.Suits ((start stage options).run requests).generator)
    (hR : Represents ((start stage options).run requests).generator E.toEnvironment R M) :
    ((start stage options).run requests).Computes E R M := by
  have hG := ((sound_start stage options).run hvalid).2.wellFormed
  have hstart : (start stage options).Agrees (hG.launch hfit M)
      ((start stage options).run requests).generator E R :=
    ⟨sound_start stage options, .nil, M, hR, reaches_start⟩
  have h := hstart.run hG hfit hE hvalid (.refl _)
  have hgrows := hG.closed.1
  obtain ⟨M', hR', hM'⟩ := h.reaches
  -- the launch knows all declarations of the end, so its state is that of the whole code
  obtain ⟨t, ht, rfl⟩ := hM' hgrows
  have hrun := ht
  rw [Launch.state?, hG.known_launch] at hrun
  refine ⟨t, hrun, hR', fun k v hv => ?_, fun k p hp => ?_⟩
  · obtain ⟨x, hx, hshows⟩ := Answer.shows_of_valueAt h.means hv
    exact ⟨x, hx, hshows.type, hshows.denotes.lanes hgrows ht⟩
  · obtain ⟨place, hplace, hlocates⟩ := Answer.locates_of_pointerAt h.means hp
    obtain ⟨d, hd, hread⟩ := Generate.read_of_locates hR' hlocates
    exact ⟨place, hplace, by rw [hd hgrows t ht]; exact hread⟩

/-- Signed numbers are computed, rearranged and stored to two components of a register, and the
register is loaded again. -/
def storesSwizzled : List Request :=
  [.supply (.declareTemps 1), .supply (.constantVector .sint32 1 2 3 4), .unary .neg 1,
   .binary .add 2 2, .unary (.cast .float32) 3, .supply (.tempPointer 0),
   .unary (.swizzle ⟨3, 2, 1, 0⟩ ⟨true, false, true, false⟩) 4,
   .store 5 6 ⟨false, true, false, true⟩, .load 5]

/-- Behind the code, the loaded value is the two components of the register that were not stored to,
with `-8` and `-4` between them. -/
theorem computes_storesSwizzled :
    (∀ request ∈ storesSwizzled, request.IsValid) ∧
    ∀ (P : Platform) (E : Surroundings P) R, E.stage = .vertex →
      ∃ M, Represents ((start .vertex .standard).run storesSwizzled).generator E.toEnvironment R M ∧
        ∃ t : State P, State.run ⟨fun _ => none, M⟩
            ((start .vertex .standard).run storesSwizzled).generator.module.defining = some t ∧
          ∃ v, Answer.valueAt ((start .vertex .standard).run storesSwizzled).answers 8 = some v ∧
            t.lanes v.id =
              some [R (.temp 0) 0, 0xfffffff8, R (.temp 0) 2, 0xfffffffc] := by
  have hvalid : ∀ request ∈ storesSwizzled, request.IsValid := by
    simp [storesSwizzled, Request.IsValid, Unary.IsValid]
  have hfit : ((start .vertex .standard).run storesSwizzled).generator.module.bound <
      UInt32.size := by decide +kernel
  have hnone : ((start .vertex .standard).run storesSwizzled).generator.resources.length = 0 := by
    decide +kernel
  have hgranted : ((start .vertex .standard).run storesSwizzled).answers.map (·.isGranted) =
      List.replicate 9 true := by decide +kernel
  have hsome : (Answer.valueAt ((start .vertex .standard).run storesSwizzled).answers 8).isSome := by
    decide +kernel
  refine ⟨hvalid, fun P E R hstage => ?_⟩
  have hresource {kind n d} (hd : ((start .vertex .standard).run
      storesSwizzled).generator.resource? kind n = some d) : False := by
    have hmem := (Generator.resource?_eq_some hd).1
    rw [List.length_eq_zero_iff.1 hnone] at hmem
    cases hmem
  obtain ⟨M, hM⟩ := Represents.exists_memory ((sound_start _ _).run hvalid).2.wellFormed hfit
    E.toEnvironment R (hstage.trans (by decide +kernel)) fun _ _ hd => (hresource hd).elim
  obtain ⟨t, hrun, -, hvalues, -⟩ := computes_run hvalid hfit (fun _ _ hd => (hresource hd).elim) hM
  obtain ⟨v, hv⟩ := Option.isSome_iff_exists.1 hsome
  obtain ⟨x, hx, -, hlanes⟩ := hvalues 8 v hv
  -- what the requests mean is a matter of their answers only, and those are all granted
  have hmeaning : Answer.valueAt (((start .vertex .standard).run storesSwizzled).meaning E R).answers
      8 = some ⟨.float32, [R (.temp 0) 0, 0xfffffff8, R (.temp 0) 2, 0xfffffffc]⟩ := by
    rw [meaning_run, hgranted]
    simp [storesSwizzled, List.replicate, Meaning.step, Meaning.reply?, Answer.valueAt,
      Answer.pointerAt, Supply.answer, Unary.answer, Binary.answer, Lanes.get, Lanes.pick, Lanes.map,
      Lanes.zip, ScalarType.neg, ScalarType.add, Place.read, Place.store, Registers.write, merged,
      stored, fourLanes, ComponentMask.contains, ComponentMask.components, Swizzle.get, List.range,
      List.range.loop, List.idxOf, List.findIdx, List.findIdx.go]
    decide
  cases hx.symm.trans hmeaning
  exact ⟨M, hM, t, hrun, v, hv, hlanes⟩

end

end Session

end ShaderLowering
