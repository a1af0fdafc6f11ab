import Mathlib.Data.List.Induction
import ShaderLowering.Reuse.ObjectSet

/-!
# Objects are built once

An `ObjectSession` is a set with what has been seen of it: each call with what it has returned, and
with every run of a creation function that it has caused. Creation functions change a world of their
own, of which the set is no part; the set in turn runs them in any monad alike, so it cannot tell
that their runs are recorded. Descriptions are equal as an equivalence says, which need not be
equality.

`ObjectSession.outcome_cases` says once what a call can do. `ObjectSession.Sound` ties the entries
of the set to the calls that have succeeded; every call keeps it, and all that is promised of calls
(`Answers`) and of a session (`Shares`) is read off it.
-/

namespace ShaderLowering

/-! ## Different elements -/

section

variable {α : Type} [BEq α] [EquivBEq α]

/-- Of equal elements the first is kept, so another element is kept if it is equal to none. -/
theorem eraseDups_concat (xs : List α) (x : α) :
    (xs ++ [x]).eraseDups = xs.eraseDups ++ if xs.contains x then [] else [x] := by
  -- without its first element and those equal to it, the list is shorter
  induction hlength : xs.length using Nat.strongRecOn generalizing xs with
  | ind n ih =>
    cases xs with
    | nil => rfl
    | cons y ys =>
      let others := ys.filter (!· == y)
      have hshort : others.length < n := by
        have hle : others.length ≤ ys.length := List.length_filter_le ..
        rw [List.length_cons] at hlength
        omega
      rw [List.cons_append, List.eraseDups_cons, List.eraseDups_cons, List.filter_append,
        List.contains_cons, List.cons_append]
      rcases heq : x == y with _ | _
      · -- an element that is not equal to the first is equal to one of the others, or to none
        have hcontains : others.contains x = ys.contains x := by
          rw [Bool.eq_iff_iff, List.contains_iff_exists_mem_beq, List.contains_iff_exists_mem_beq]
          constructor
          · rintro ⟨z, hz, hxz⟩
            exact ⟨z, (List.mem_filter.1 hz).1, hxz⟩
          · rintro ⟨z, hz, hxz⟩
            refine ⟨z, List.mem_filter.2 ⟨hz, ?_⟩, hxz⟩
            rw [← BEq.congr_left hxz, heq, Bool.not_false]
        have hkept : [x].filter (!· == y) = [x] := by simp [heq]
        rw [hkept, ih _ hshort others rfl, hcontains, Bool.false_or]
      · have hdropped : [x].filter (!· == y) = [] := by simp [heq]
        rw [hdropped, List.append_nil, Bool.true_or, if_pos rfl, List.append_nil]

/-- An element is equal to one of those that are kept if it is equal to one of them all. -/
theorem contains_eraseDups (xs : List α) (x : α) : xs.eraseDups.contains x = xs.contains x := by
  induction xs using List.reverseRecOn with
  | nil => rfl
  | append_singleton xs y ih =>
    rw [eraseDups_concat, List.contains_append, List.contains_append, ih]
    rcases hy : xs.contains y with _ | _
    · rw [if_neg Bool.false_ne_true]
    · rw [if_pos rfl, List.contains_cons]
      rcases hxy : x == y with _ | _
      · rfl
      · rw [List.contains_congr hxy, hy]
        rfl

end

/-! ## Sets -/

namespace ObjectSet

variable {D T E : Type} [BEq D] {s : ObjectSet D T} {d d' : D}

/-- The descriptions of the objects. -/
def keys (s : ObjectSet D T) : List D := s.entries.map Prod.fst

/-- An object that is found stands at its place, under an equal description. -/
theorem exists_of_find? {place : Nat} {object : T} (h : s.find? d = some (place, object)) :
    ∃ key, s.entries[place]? = some (key, object) ∧ (key == d) = true := by
  obtain ⟨⟨⟨key, found⟩, i⟩, hfind, heq⟩ := Option.map_eq_some_iff.1 h
  obtain ⟨rfl, rfl⟩ := Prod.mk.inj heq
  have hkey : (key == d) = true :=
    List.find?_some (p := fun x : (D × T) × Nat => x.1.1 == d) hfind
  exact ⟨key, List.mem_zipIdx_iff_getElem?.1 (List.mem_of_find?_eq_some hfind), hkey⟩

theorem lt_size_of_find? {found : Nat × T} (h : s.find? d = some found) : found.1 < s.size := by
  obtain ⟨key, hentry, -⟩ := exists_of_find? h
  exact (List.getElem?_eq_some_iff.1 hentry).1

/-- A new object hides no other. -/
theorem find?_push (s : ObjectSet D T) (d d' : D) (object : T) :
    (s.push d object).find? d' =
      (s.find? d').or (if d == d' then some (s.size, object) else none) := by
  rw [find?, push, List.zipIdx_append, List.find?_append, Option.map_or, ← find?]
  rcases hd : d == d' with _ | _ <;> simp [hd, size]

variable [EquivBEq D]

/-- Equal descriptions find the same object. -/
theorem find?_congr (h : (d == d') = true) : s.find? d = s.find? d' := by
  rw [find?, find?]
  simp only [BEq.congr_right h]

/-- No object is found exactly if no description is equal. -/
theorem find?_eq_none_iff : s.find? d = none ↔ s.keys.contains d = false := by
  rw [find?, Option.map_eq_none_iff, List.find?_eq_none, List.contains_eq_any_beq,
    List.any_eq_false]
  constructor
  · intro h key hkey
    obtain ⟨entry, hentry, rfl⟩ := List.mem_map.1 hkey
    obtain ⟨place, hplace⟩ := List.mem_iff_getElem?.1 hentry
    rw [BEq.comm]
    exact h (entry, place) (List.mem_zipIdx_iff_getElem?.2 hplace)
  · rintro h ⟨entry, place⟩ hx
    have hentry := List.mem_of_getElem? (List.mem_zipIdx_iff_getElem?.1 hx)
    change ¬(entry.1 == d) = true
    rw [BEq.comm]
    exact h entry.1 (List.mem_map_of_mem hentry)

end ObjectSet

/-! ## Sessions -/

/-- A call to a set. Building an object can change the world. -/
inductive ObjectCall (W D T E : Type) where
  /-- An object is asked for that can always be built. -/
  | getOrBuild (description : D) (build : D → StateM W T)
  /-- An object is asked for, and building it can fail. -/
  | getOrTryBuild (description : D) (build : D → StateM W (Except E T))

/-- A run of a creation function. -/
structure Construction (D T E : Type) where
  /-- The description that it was given. -/
  description : D
  /-- What came of it. -/
  result : Except E T

/-- The world with a record of what has been built in it. -/
structure Workshop (W D T E : Type) where
  /-- The world. -/
  world : W
  /-- All runs of creation functions, in their order. -/
  constructions : List (Construction D T E)

/-- A call that has been answered. -/
structure ObjectAnswer (D T E : Type) where
  /-- What was asked for. -/
  description : D
  /-- The runs of the creation function of the call. -/
  constructions : List (Construction D T E)
  /-- What the call has returned: an object and its place, or an error. -/
  returned : Except E (Nat × T)

/-- A set with what has been seen of it. -/
structure ObjectSession (W D T E : Type) where
  /-- The set. -/
  set : ObjectSet D T
  /-- The world that the creation functions have left behind. -/
  world : W
  /-- All calls, in their order. -/
  answered : List (ObjectAnswer D T E)

variable {W D T E : Type}

/-- What a call returns: an object and its place, or an error. -/
def Obtained.returned : Obtained E T → Except E (Nat × T)
  | shared place object => .ok (place, object)
  | built place object => .ok (place, object)
  | failed e => .error e

namespace ObjectCall

/-- What a call asks for. -/
def description : ObjectCall W D T E → D
  | getOrBuild description _ => description
  | getOrTryBuild description _ => description

/-- The creation function of a call; one that cannot fail always succeeds. -/
def attempt : ObjectCall W D T E → D → StateM W (Except E T)
  | getOrBuild _ build, d => do return .ok (← build d)
  | getOrTryBuild _ build, d => build d

/-- A creation function every run of which is recorded. -/
def recorded {α : Type} (build : D → StateM W α) (result : α → Except E T) (d : D) :
    StateM (Workshop W D T E) α := do
  let w ← get
  let (x, world) := (build d).run w.world
  set (⟨world, w.constructions ++ [⟨d, result x⟩]⟩ : Workshop W D T E)
  return x

theorem run_recorded {α : Type} {build : D → StateM W α} {result : α → Except E T} {d : D}
    {w : Workshop W D T E} {x : α} {world : W} (h : (build d).run w.world = (x, world)) :
    (recorded build result d).run w = (x, ⟨world, w.constructions ++ [⟨d, result x⟩]⟩) := by
  simp only [recorded, StateT.run_bind, StateT.run_get, pure_bind, h]
  rfl

variable [BEq D]

/-- Makes a call to a set. -/
def perform (s : ObjectSet D T) :
    ObjectCall W D T E → StateM (Workshop W D T E) (Except E (Nat × T) × ObjectSet D T)
  | getOrBuild description build => do
    let (obtained, s) ← s.getOrBuildM description (recorded build .ok)
    return (obtained.returned.mapError Empty.elim, s)
  | getOrTryBuild description build => do
    let (obtained, s) ← s.getOrTryBuildM description (recorded build id)
    return (obtained.returned, s)

/-- To build what can always be built is to try to build it. -/
theorem perform_eq (s : ObjectSet D T) (c : ObjectCall W D T E) :
    c.perform s = do
      let (obtained, s) ← s.getOrTryBuildM c.description (recorded c.attempt id)
      return (obtained.returned, s) := by
  cases c with
  | getOrTryBuild description build => rfl
  | getOrBuild description build =>
    simp only [perform, ObjectSet.getOrBuildM, ObjectSet.getOrTryBuildM, ObjectCall.description]
    rcases s.find? description with _ | found <;> rfl

end ObjectCall

namespace ObjectAnswer

variable [BEq D] {a : ObjectAnswer D T E} {d : D}

/-- Whether a call has succeeded for a description that is equal to another one. -/
def succeedsFor (a : ObjectAnswer D T E) (d : D) : Bool :=
  a.description == d && a.returned.isOk

theorem succeedsFor_eq_true :
    a.succeedsFor d = true ↔ (a.description == d) = true ∧ ∃ object, a.returned = .ok object := by
  rw [succeedsFor, Bool.and_eq_true]
  refine and_congr_right fun _ => ?_
  rcases a.returned with e | object
  · exact ⟨nofun, nofun⟩
  · exact ⟨fun _ => ⟨object, rfl⟩, fun _ => rfl⟩

end ObjectAnswer

namespace ObjectSession

/-- The descriptions of the calls that have succeeded. -/
def succeeded (s : ObjectSession W D T E) : List D :=
  (s.answered.filter (·.returned.isOk)).map (·.description)

variable [BEq D]

/-- What a call comes to: what it returns, the set behind it, and the world with what is built. -/
def outcome (s : ObjectSession W D T E) (c : ObjectCall W D T E) :
    (Except E (Nat × T) × ObjectSet D T) × Workshop W D T E :=
  (c.perform s.set).run ⟨s.world, []⟩

/-- The answer to a call. -/
def answer (s : ObjectSession W D T E) (c : ObjectCall W D T E) : ObjectAnswer D T E :=
  ⟨c.description, (s.outcome c).2.constructions, (s.outcome c).1.1⟩

/-- The session behind a call. -/
def call (s : ObjectSession W D T E) (c : ObjectCall W D T E) : ObjectSession W D T E :=
  ⟨(s.outcome c).1.2, (s.outcome c).2.world, s.answered ++ [s.answer c]⟩

/-- The session behind calls to a new set. -/
def after (world : W) (calls : List (ObjectCall W D T E)) : ObjectSession W D T E :=
  calls.foldl call ⟨.empty, world, []⟩

variable {s : ObjectSession W D T E} {c : ObjectCall W D T E}

/-- What a call can do: it finds an object and builds nothing, or it runs its creation function
once, which fails or builds a new object. -/
theorem outcome_cases (s : ObjectSession W D T E) (c : ObjectCall W D T E) :
    (∃ found, s.set.find? c.description = some found ∧
      s.outcome c = ((.ok found, s.set), ⟨s.world, []⟩)) ∨
    (∃ e world, s.set.find? c.description = none ∧
      (c.attempt c.description).run s.world = (.error e, world) ∧
      s.outcome c = ((.error e, s.set), ⟨world, [⟨c.description, .error e⟩]⟩)) ∨
    (∃ object world, s.set.find? c.description = none ∧
      (c.attempt c.description).run s.world = (.ok object, world) ∧
      s.outcome c = ((.ok (s.set.size, object), s.set.push c.description object),
        ⟨world, [⟨c.description, .ok object⟩]⟩)) := by
  simp only [outcome, ObjectCall.perform_eq, ObjectSet.getOrTryBuildM]
  rcases s.set.find? c.description with _ | found
  · right
    rcases hrun : (c.attempt c.description).run s.world with ⟨e | object, world⟩
    all_goals
      have hrecorded : (ObjectCall.recorded c.attempt id c.description).run ⟨s.world, []⟩ = _ :=
        ObjectCall.run_recorded hrun
    · left
      refine ⟨e, world, rfl, rfl, ?_⟩
      simp only [bind_assoc, StateT.run_bind, hrecorded]
      rfl
    · right
      refine ⟨object, world, rfl, rfl, ?_⟩
      simp only [bind_assoc, StateT.run_bind, hrecorded]
      rfl
  · left
    exact ⟨found, rfl, rfl⟩

/-- The answer to a call, in terms of its outcome. -/
theorem answer_of_outcome {returned : Except E (Nat × T)} {set : ObjectSet D T}
    {w : Workshop W D T E} (h : s.outcome c = ((returned, set), w)) :
    s.answer c = ⟨c.description, w.constructions, returned⟩ ∧
      s.call c = ⟨set, w.world, s.answered ++ [⟨c.description, w.constructions, returned⟩]⟩ := by
  simp only [call, answer, h, and_self]

/-! ## What every call keeps -/

/-- How the set of a session and the calls belong together. -/
structure Sound (s : ObjectSession W D T E) : Prop where
  /-- The set has the different descriptions for which a call has succeeded. -/
  keys : s.set.keys = s.succeeded.eraseDups
  /-- What a call has returned is found again. -/
  kept : ∀ a ∈ s.answered, ∀ object, a.returned = .ok object →
    s.set.find? a.description = some object
  /-- The first call that has succeeded for a description has built the object. -/
  built : ∀ d first, s.answered.find? (·.succeedsFor d) = some first → ∃ place object,
    first.constructions = [⟨first.description, .ok object⟩] ∧ first.returned = .ok (place, object)

theorem sound_start (world : W) : (⟨.empty, world, []⟩ : ObjectSession W D T E).Sound where
  keys := rfl
  kept _ ha := absurd ha List.not_mem_nil
  built _ _ h := nomatch h

omit [BEq D] in
/-- A call that succeeds adds its description. -/
theorem succeeded_concat_ok (s : ObjectSession W D T E) (set : ObjectSet D T) (world : W) (d : D)
    (constructions : List (Construction D T E)) (object : Nat × T) :
    succeeded ⟨set, world, s.answered ++ [⟨d, constructions, .ok object⟩]⟩ =
      s.succeeded ++ [d] := by
  simp [succeeded, List.filter_append, Except.isOk, Except.toBool]

omit [BEq D] in
/-- A call that fails adds none. -/
theorem succeeded_concat_error (s : ObjectSession W D T E) (set : ObjectSet D T) (world : W)
    (d : D) (constructions : List (Construction D T E)) (e : E) :
    succeeded ⟨set, world, s.answered ++ [⟨d, constructions, .error e⟩]⟩ = s.succeeded := by
  simp [succeeded, List.filter_append, Except.isOk, Except.toBool]

variable [EquivBEq D]

/-- A description is found among those of the calls that have succeeded if one of them has succeeded
for it. -/
theorem contains_succeeded (s : ObjectSession W D T E) (d : D) :
    s.succeeded.contains d = false ↔ ∀ a ∈ s.answered, a.succeedsFor d = false := by
  rw [List.contains_eq_any_beq, succeeded, List.any_map, List.any_filter, List.any_eq_false]
  refine forall₂_congr fun a _ => ?_
  rw [Bool.not_eq_true, ObjectAnswer.succeedsFor, Bool.and_comm, Function.comp_apply, BEq.comm]

/-- No object is found for a description exactly if no call has succeeded for it. -/
theorem Sound.find?_eq_none_iff (h : s.Sound) {d : D} :
    s.set.find? d = none ↔ ∀ a ∈ s.answered, a.succeedsFor d = false := by
  rw [ObjectSet.find?_eq_none_iff, h.keys, contains_eraseDups, contains_succeeded]

/-- An object that a call has returned is found for all equal descriptions. -/
theorem Sound.find?_of_succeedsFor (h : s.Sound) {a : ObjectAnswer D T E} (ha : a ∈ s.answered)
    {d : D} (hd : (a.description == d) = true) {object : Nat × T}
    (hobject : a.returned = .ok object) : s.set.find? d = some object := by
  rw [← ObjectSet.find?_congr hd]
  exact h.kept a ha object hobject

/-- A call that succeeds for a description adds it, unless another one has before. -/
theorem Sound.eraseDups_succeeded (h : s.Sound) (d : D) :
    (s.succeeded ++ [d]).eraseDups =
      s.set.keys ++ if (s.set.find? d).isSome then [] else [d] := by
  rw [eraseDups_concat, h.keys]
  rcases hfind : s.set.find? d with _ | found
  · have hnew := (contains_succeeded s d).2 (h.find?_eq_none_iff.1 hfind)
    rw [hnew]
    rfl
  · have hknown : s.succeeded.contains d = true := by
      rw [← Bool.not_eq_false, contains_succeeded, ← h.find?_eq_none_iff, hfind]
      exact nofun
    rw [hknown]
    rfl

/-- If a new answer tells of the first success for its description, it is one of a call that has
built its object. -/
theorem Sound.built_concat (h : s.Sound) {a : ObjectAnswer D T E}
    (hnew : s.set.find? a.description = none → ∀ place object, a.returned = .ok (place, object) →
      a.constructions = [⟨a.description, .ok object⟩]) :
    ∀ d first, (s.answered ++ [a]).find? (·.succeedsFor d) = some first → ∃ place object,
      first.constructions = [⟨first.description, .ok object⟩] ∧
        first.returned = .ok (place, object) := by
  intro d first hfirst
  rw [List.find?_append] at hfirst
  rcases hold : s.answered.find? (·.succeedsFor d) with _ | b
  · rw [hold, Option.none_or, List.find?_singleton] at hfirst
    split at hfirst
    · next hsucceeds =>
      cases hfirst
      obtain ⟨hd, ⟨place, object⟩, hobject⟩ := ObjectAnswer.succeedsFor_eq_true.1 hsucceeds
      have hnone : s.set.find? d = none := by
        apply h.find?_eq_none_iff.2
        intro b hb
        exact Bool.not_eq_true _ ▸ List.find?_eq_none.1 hold b hb
      rw [← ObjectSet.find?_congr hd] at hnone
      exact ⟨place, object, hnew hnone place object hobject, hobject⟩
    · cases hfirst
  · rw [hold, Option.some_or] at hfirst
    obtain rfl := Option.some.inj hfirst
    exact h.built d b hold

theorem Sound.call (h : s.Sound) (c : ObjectCall W D T E) : (s.call c).Sound := by
  rcases outcome_cases s c with ⟨found, hfind, houtcome⟩ | ⟨e, world, hfind, -, houtcome⟩ |
    ⟨object, world, hfind, -, houtcome⟩
  all_goals
    obtain ⟨-, hcall⟩ := answer_of_outcome houtcome
    rw [hcall]
    constructor
  -- the object was there
  case inl.keys =>
    rw [succeeded_concat_ok, h.eraseDups_succeeded, hfind]
    exact (List.append_nil _).symm
  case inl.kept =>
    refine List.forall_mem_append.2 ⟨h.kept, List.forall_mem_singleton.2 ?_⟩
    rintro object ⟨⟩
    exact hfind
  case inl.built =>
    apply h.built_concat
    intro hnone
    rw [hfind] at hnone
    cases hnone
  -- it could not be built
  case inr.inl.keys =>
    rw [succeeded_concat_error]
    exact h.keys
  case inr.inl.kept =>
    refine List.forall_mem_append.2 ⟨h.kept, List.forall_mem_singleton.2 ?_⟩
    rintro object ⟨⟩
  case inr.inl.built =>
    apply h.built_concat
    rintro - place object ⟨⟩
  -- it has been built
  case inr.inr.keys =>
    rw [succeeded_concat_ok, h.eraseDups_succeeded, hfind]
    exact List.map_append
  case inr.inr.kept =>
    refine List.forall_mem_append.2 ⟨?_, List.forall_mem_singleton.2 ?_⟩
    · intro a ha found hfound
      rw [ObjectSet.find?_push, h.kept a ha found hfound, Option.some_or]
    · rintro found ⟨⟩
      rw [ObjectSet.find?_push, hfind, Option.none_or, if_pos BEq.rfl]
  case inr.inr.built =>
    apply h.built_concat
    rintro - place found ⟨⟩
    rfl

/-- A session is sound after any calls. -/
theorem sound_after (world : W) (calls : List (ObjectCall W D T E)) :
    (after world calls).Sound := by
  have hrun (calls : List (ObjectCall W D T E)) {s : ObjectSession W D T E} (hs : s.Sound) :
      (calls.foldl ObjectSession.call s).Sound := by
    induction calls generalizing s with
    | nil => exact hs
    | cons c calls ih => exact ih (hs.call c)
  exact hrun calls (sound_start world)

/-! ## What calls come to -/

/-- What a call is to come to, in terms of the calls before it. -/
structure Answers (s : ObjectSession W D T E) (c : ObjectCall W D T E) : Prop where
  /-- The creation function is run if and only if no earlier call has succeeded for an equal
  description. -/
  builds : (s.answer c).constructions ≠ [] ↔ ∀ a ∈ s.answered, a.succeedsFor c.description = false
  /-- It is run once, with the description of the call and in the world of that time, and the call
  returns what comes of it. -/
  once : (s.answer c).constructions ≠ [] → ∃ result world,
    (c.attempt c.description).run s.world = (result, world) ∧ (s.call c).world = world ∧
      (s.answer c).constructions = [⟨c.description, result⟩] ∧
        (s.answer c).returned.map Prod.snd = result
  /-- Where it is not run, nothing changes. -/
  idle : (s.answer c).constructions = [] → (s.call c).set = s.set ∧ (s.call c).world = s.world
  /-- The call returns the object that earlier calls have returned for equal descriptions. -/
  shared : ∀ a ∈ s.answered, a.succeedsFor c.description = true →
    (s.answer c).returned = a.returned
  /-- An object that is built is none of those that earlier calls have returned. -/
  new : (s.answer c).constructions ≠ [] → ∀ object, (s.answer c).returned = .ok object →
    ∀ a ∈ s.answered, ∀ object', a.returned = .ok object' → object'.1 ≠ object.1
  /-- An error is that of the creation function, and leaves the set as it is. -/
  failure : ∀ e, (s.answer c).returned = .error e →
    (s.answer c).constructions = [⟨c.description, .error e⟩] ∧ (s.call c).set = s.set

/-- A call that finds an object comes to what it is to. -/
theorem Sound.answers_of_found (h : s.Sound) {found : Nat × T}
    (hfind : s.set.find? c.description = some found)
    (houtcome : s.outcome c = ((.ok found, s.set), ⟨s.world, []⟩)) : s.Answers c := by
  obtain ⟨hanswer, hcall⟩ := answer_of_outcome houtcome
  constructor <;> rw [hanswer]
  case builds =>
    rw [← h.find?_eq_none_iff, hfind]
    exact ⟨fun hne => absurd rfl hne, nofun⟩
  case once => exact fun hne => absurd rfl hne
  case idle =>
    intro
    rw [hcall]
    exact ⟨rfl, rfl⟩
  case shared =>
    intro a ha hsucceeds
    obtain ⟨hd, object, hobject⟩ := ObjectAnswer.succeedsFor_eq_true.1 hsucceeds
    have hobject' := h.find?_of_succeedsFor ha hd hobject
    rw [hfind] at hobject'
    rw [hobject, Option.some.inj hobject']
  case new => exact fun hne => absurd rfl hne
  case failure =>
    rintro e ⟨⟩

/-- A call that runs its creation function comes to what it is to. -/
theorem Sound.answers_of_missing (h : s.Sound) {result : Except E T} {world : W}
    {returned : Except E (Nat × T)} {set : ObjectSet D T}
    (hfind : s.set.find? c.description = none)
    (hrun : (c.attempt c.description).run s.world = (result, world))
    (houtcome : s.outcome c = ((returned, set), ⟨world, [⟨c.description, result⟩]⟩))
    (hreturned : returned = result.map (s.set.size, ·))
    (hset : ∀ e, result = .error e → set = s.set) : s.Answers c := by
  obtain ⟨hanswer, hcall⟩ := answer_of_outcome houtcome
  have hnone := h.find?_eq_none_iff.1 hfind
  constructor <;> rw [hanswer]
  case builds => exact ⟨fun _ => hnone, fun _ => List.cons_ne_nil _ _⟩
  case once =>
    intro
    refine ⟨result, world, hrun, by rw [hcall], rfl, ?_⟩
    rw [hreturned]
    rcases result with e | object <;> rfl
  case idle => exact fun heq => absurd heq (List.cons_ne_nil _ _)
  case shared =>
    intro a ha hsucceeds
    rw [hnone a ha] at hsucceeds
    cases hsucceeds
  case new =>
    -- a new object is at the place behind all others
    intro _ object hobject a ha object' hobject'
    have hplace : object.1 = s.set.size := by
      rw [hreturned] at hobject
      rcases result with e | x <;> cases hobject
      rfl
    rw [hplace]
    exact Nat.ne_of_lt (ObjectSet.lt_size_of_find? (h.kept a ha object' hobject'))
  case failure =>
    intro e he
    have hresult : result = .error e := by
      rw [hreturned] at he
      rcases result with e' | x <;> cases he
      rfl
    rw [hcall, hresult]
    exact ⟨rfl, hset e hresult⟩

theorem Sound.answers (h : s.Sound) (c : ObjectCall W D T E) : s.Answers c := by
  rcases outcome_cases s c with ⟨found, hfind, houtcome⟩ | ⟨e, world, hfind, hrun, houtcome⟩ |
    ⟨object, world, hfind, hrun, houtcome⟩
  · exact h.answers_of_found hfind houtcome
  · exact h.answers_of_missing hfind hrun houtcome rfl fun _ _ => rfl
  · exact h.answers_of_missing hfind hrun houtcome rfl nofun

/-! ## What all calls share -/

/-- What is to hold of all calls to a set together. -/
structure Shares (s : ObjectSession W D T E) : Prop where
  /-- The object for a description is what the first call that has succeeded for it has built; all
  other calls that have succeeded for it have returned the same object. -/
  first : ∀ d first, s.answered.find? (·.succeedsFor d) = some first → ∃ place object,
    first.constructions = [⟨first.description, .ok object⟩] ∧
      first.returned = .ok (place, object) ∧
        ∀ a ∈ s.answered, a.succeedsFor d = true → a.returned = .ok (place, object)
  /-- Calls have returned the same object only for equal descriptions. -/
  distinct : ∀ a ∈ s.answered, ∀ b ∈ s.answered, ∀ object object', a.returned = .ok object →
    b.returned = .ok object' → object.1 = object'.1 → (a.description == b.description) = true
  /-- There are as many objects as different descriptions for which a call has succeeded. -/
  size : s.set.size = s.succeeded.eraseDups.length

theorem Sound.shares (h : s.Sound) : s.Shares := by
  constructor
  case first =>
    intro d first hfirst
    obtain ⟨place, object, hbuilt, hreturned⟩ := h.built d first hfirst
    refine ⟨place, object, hbuilt, hreturned, ?_⟩
    intro a ha hsucceeds
    obtain ⟨hd, object', hobject'⟩ := ObjectAnswer.succeedsFor_eq_true.1 hsucceeds
    have hsucceedsFirst : first.succeedsFor d = true :=
      List.find?_some (p := fun a : ObjectAnswer D T E => a.succeedsFor d) hfirst
    have hfound := h.find?_of_succeedsFor (List.mem_of_find?_eq_some hfirst)
      (ObjectAnswer.succeedsFor_eq_true.1 hsucceedsFirst).1 hreturned
    rw [h.find?_of_succeedsFor ha hd hobject'] at hfound
    rw [hobject', Option.some.inj hfound]
  case distinct =>
    intro a ha b hb object object' hobject hobject' hplace
    obtain ⟨key, hentry, hkey⟩ := ObjectSet.exists_of_find? (h.kept a ha object hobject)
    obtain ⟨key', hentry', hkey'⟩ := ObjectSet.exists_of_find? (h.kept b hb object' hobject')
    rw [hplace, hentry'] at hentry
    obtain ⟨rfl, -⟩ := Prod.mk.inj (Option.some.inj hentry)
    exact BEq.trans (BEq.symm hkey) hkey'
  case size =>
    calc s.set.size = s.set.keys.length := (List.length_map ..).symm
      _ = s.succeeded.eraseDups.length := by rw [h.keys]

/-- Objects are built once. In any sequence of calls to a new set, each call runs its creation
function exactly if no earlier call has succeeded for an equal description, and else returns the
object of those; in the end, each description for which a call has succeeded has one object, built
by the first of these calls. -/
theorem deduplicates (world : W) (calls : List (ObjectCall W D T E)) :
    (∀ before c behind, calls = before ++ c :: behind → (after world before).Answers c) ∧
      (after world calls).Shares :=
  ⟨fun before c _ _ => (sound_after world before).answers c, (sound_after world calls).shares⟩

end ObjectSession

/-! ## A session with failures -/

/-- How colours are blended: by a weight, if they are blended at all. -/
structure Blending where
  /-- Whether colours are blended. -/
  enabled : Bool
  /-- The weight of the new colour. -/
  weight : Nat

namespace Blending

/-- Weights are compared only where they are used. -/
instance : BEq Blending where
  beq a b := a.enabled == b.enabled && (!a.enabled || a.weight == b.weight)

theorem beq_iff {a b : Blending} :
    (a == b) = true ↔ a.enabled = b.enabled ∧ (a.enabled = true → a.weight = b.weight) := by
  change (a.enabled == b.enabled && (!a.enabled || a.weight == b.weight)) = true ↔ _
  rcases a.enabled with _ | _ <;> simp

instance : EquivBEq Blending where
  rfl := beq_iff.2 ⟨rfl, fun _ => rfl⟩
  symm h := by
    obtain ⟨henabled, hweight⟩ := beq_iff.1 h
    exact beq_iff.2 ⟨henabled.symm, fun hb => (hweight (henabled.trans hb)).symm⟩
  trans h h' := by
    obtain ⟨henabled, hweight⟩ := beq_iff.1 h
    obtain ⟨henabled', hweight'⟩ := beq_iff.1 h'
    exact beq_iff.2 ⟨henabled.trans henabled',
      fun ha => (hweight ha).trans (hweight' (henabled.symm.trans ha))⟩

/-- Builds an object that is its weight, once the failures are used up that the world has in
store. -/
def build (d : Blending) : StateM Nat (Except String Nat)
  | 0 => (.ok d.weight, 0)
  | failures + 1 => (.error "device lost", failures)

/-- A construction that fails at first, and calls of both kinds for two different descriptions. -/
def calls : List (ObjectCall Nat Blending Nat String) :=
  [.getOrTryBuild ⟨false, 1⟩ build, .getOrTryBuild ⟨false, 2⟩ build,
   .getOrBuild ⟨false, 3⟩ (fun d => pure d.weight), .getOrBuild ⟨true, 4⟩ (fun d => pure d.weight),
   .getOrTryBuild ⟨true, 4⟩ build]

end Blending

namespace ObjectSession

/-- In these calls the first fails, the second and the fourth build an object, and the others share
these two. -/
theorem blending_deduplicates :
    (after 1 (Blending.calls.take 2)).Answers
        (.getOrBuild ⟨false, 3⟩ (fun d => pure d.weight) : ObjectCall Nat Blending Nat String) ∧
      (after 1 Blending.calls).Shares ∧
      (after 1 Blending.calls).answered.map (·.constructions.length) = [1, 1, 0, 1, 0] ∧
      (after 1 Blending.calls).answered.filterMap (·.returned.toOption) =
        [(0, 2), (0, 2), (1, 4), (1, 4)] := by
  have hcalls := deduplicates 1 Blending.calls
  exact ⟨hcalls.1 (Blending.calls.take 2) _ (Blending.calls.drop 3) rfl, hcalls.2, by decide,
    by decide⟩

end ObjectSession

end ShaderLowering
