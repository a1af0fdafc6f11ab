import Mathlib.Data.List.Dedup
import ShaderLowering.Proofs.StringBytes
import ShaderLowering.Reuse.ShaderCache

/-!
# The cache of shaders is transparent

A look-up in the cache answers what lowering the program would, whatever the hash is, as long as it
tells the inputs apart that it is fed (`CollisionFree`). The inputs of keys tell programs and
options apart by themselves: each text stands behind its length, and where the length of the name
does not fit its field, the length of the whole input gives it away (`eq_of_shaderKeyBytes_eq`).

A `CacheSession` is a cache with what has been seen of it. `CacheSession.Sound` ties the entries of
the cache to the look-ups since it was last cleared; every call keeps it, and the answers and the
counts of a session are read off it.
-/

namespace ShaderLowering

/-! ## Keys -/

theorem length_littleEndian (n count : Nat) : (littleEndian n count).length = count := by
  induction count generalizing n with
  | zero => rfl
  | succ count ih => rw [littleEndian, List.length_cons, ih]

/-- The bytes of a number tell it as far as they reach. -/
theorem mod_eq_of_littleEndian_eq {n m count : Nat}
    (h : littleEndian n count = littleEndian m count) : n % 256 ^ count = m % 256 ^ count := by
  induction count generalizing n m with
  | zero => rw [Nat.pow_zero, Nat.mod_one, Nat.mod_one]
  | succ count ih =>
    obtain ⟨hfirst, hrest⟩ := List.cons.inj h
    have hlow : n % 256 = m % 256 := by
      simpa only [UInt8.toNat_ofNat'] using congrArg UInt8.toNat hfirst
    rw [Nat.pow_succ', Nat.mod_mul, Nat.mod_mul, hlow, ih hrest]

theorem eq_of_flag_eq {b b' : Bool} (h : (if b then 1 else 0 : UInt8) = if b' then 1 else 0) :
    b = b' := by
  revert b b'
  decide

/-- The input of a key tells the program and those options that the lowering depends on. The length
of a program must fit the 64 bits that it is written in; of the name, nothing is asked. -/
theorem eq_of_shaderKeyBytes_eq {bytes bytes' : List UInt8} {options options' : Options}
    (hfit : bytes.length < 2 ^ 64) (hfit' : bytes'.length < 2 ^ 64)
    (h : shaderKeyBytes bytes options = shaderKeyBytes bytes' options') :
    bytes = bytes' ∧ options = options' := by
  simp only [shaderKeyBytes, List.append_assoc] at h
  obtain ⟨hlength, h⟩ :=
    List.append_inj (List.append_cancel_left h) (by simp only [length_littleEndian])
  replace hlength : bytes.length = bytes'.length := by
    have hmod := mod_eq_of_littleEndian_eq hlength
    omega
  obtain ⟨hbytes, h⟩ := List.append_inj h hlength
  obtain ⟨-, h⟩ := List.append_inj h (by simp only [length_littleEndian])
  -- both names end two bytes before the input does
  obtain ⟨hname, hflags⟩ := List.append_inj' h rfl
  obtain ⟨hstrict, hrest⟩ := List.cons.inj hflags
  obtain ⟨hdebug, -⟩ := List.cons.inj hrest
  obtain ⟨name, strict, debugNames⟩ := options
  obtain ⟨name', strict', debugNames'⟩ := options'
  obtain rfl : name = name' := eq_of_toUTF8_toList hname
  obtain rfl : strict = strict' := eq_of_flag_eq hstrict
  obtain rfl : debugNames = debugNames' := eq_of_flag_eq hdebug
  exact ⟨hbytes, rfl⟩

/-- A hash tells some inputs apart. -/
def CollisionFree (digest : List UInt8 → List UInt8) (inputs : List (List UInt8)) : Prop :=
  ∀ x ∈ inputs, ∀ y ∈ inputs, digest x = digest y → x = y

variable {digest : List UInt8 → List UInt8}

instance (inputs : List (List UInt8)) : Decidable (CollisionFree digest inputs) :=
  inferInstanceAs (Decidable (∀ x ∈ inputs, ∀ y ∈ inputs, _ → _))

theorem CollisionFree.mono {inputs inputs' : List (List UInt8)} (h : CollisionFree digest inputs')
    (hs : inputs ⊆ inputs') : CollisionFree digest inputs :=
  fun x hx y hy => h x (hs hx) y (hs hy)

/-! ## Sessions -/

/-- A use of a cache. -/
inductive CacheCall where
  /-- Other options are chosen. -/
  | setOptions (options : Options)
  /-- A program is looked up. -/
  | get (bytes : List UInt8)
  /-- All shaders are forgotten. -/
  | clear

/-- A look-up that has been answered. -/
structure Answered where
  /-- The program. -/
  bytes : List UInt8
  /-- The options at that time. -/
  options : Options
  /-- The answer. -/
  answer : Except CompileError ShaderLookup

namespace Answered

/-- What the key of a look-up is the hash of. -/
def keyInput (a : Answered) : List UInt8 := shaderKeyBytes a.bytes a.options

/-- The key of a look-up. -/
def key (digest : List UInt8 → List UInt8) (a : Answered) : List UInt8 :=
  shaderKeyWith digest a.bytes a.options

/-- What a look-up asks for. -/
def request (a : Answered) : List UInt8 × Options := (a.bytes, a.options)

/-- Whether the shader comes from an earlier look-up. -/
def isMemory (a : Answered) : Bool :=
  match a.answer with
  | .ok ⟨.memory, _⟩ => true
  | _ => false

end Answered

/-- A cache with what has been seen of it. -/
structure CacheSession where
  /-- The cache. -/
  cache : ShaderCache
  /-- The options that were chosen last. -/
  options : Options
  /-- All look-ups, in their order. -/
  answered : List Answered
  /-- The look-ups since all shaders were last forgotten. -/
  recent : List Answered

namespace CacheSession

/-- A session with a new cache. -/
def start (options : Options) : CacheSession := ⟨.empty options, options, [], []⟩

section

variable (digest : List UInt8 → List UInt8)

/-- What a look-up would come to. -/
def lookUp (s : CacheSession) (bytes : List UInt8) : Answered :=
  ⟨bytes, s.options, (s.cache.getWith digest bytes).1⟩

/-- The session behind a call. -/
def call (s : CacheSession) : CacheCall → CacheSession
  | .setOptions options => { s with cache := s.cache.setOptions options, options }
  | .get bytes =>
    { s with
      cache := (s.cache.getWith digest bytes).2
      answered := s.answered ++ [s.lookUp digest bytes]
      recent := s.recent ++ [s.lookUp digest bytes] }
  | .clear => { s with cache := s.cache.clear, recent := [] }

/-- The session behind calls to a new cache. -/
def after (options : Options) (calls : List CacheCall) : CacheSession :=
  calls.foldl (call digest) (start options)

end

end CacheSession

/-- What a look-up comes to: what is found, a failure, or a new shader. -/
theorem ShaderCache.get_cases (c : ShaderCache) (bytes : List UInt8) :
    (∃ shared, c.find? (shaderKeyWith digest bytes c.options) = some shared ∧
      c.getWith digest bytes = (.ok ⟨.memory, shared⟩, { c with hits := c.hits + 1 })) ∨
    (∃ e, c.find? (shaderKeyWith digest bytes c.options) = none ∧
      lowerBytes bytes c.options = .error e ∧
      c.getWith digest bytes = (.error e, { c with misses := c.misses + 1 })) ∨
    (∃ shader, c.find? (shaderKeyWith digest bytes c.options) = none ∧
      lowerBytes bytes c.options = .ok shader ∧
      c.getWith digest bytes = (.ok ⟨.lowered, ⟨c.misses + 1, shader⟩⟩,
        ⟨(shaderKeyWith digest bytes c.options, ⟨c.misses + 1, shader⟩) :: c.entries, c.options,
          c.hits, c.misses + 1⟩)) := by
  rw [getWith]
  rcases hfind : c.find? (shaderKeyWith digest bytes c.options) with _ | shared
  · refine .inr ?_
    rcases hlower : lowerBytes bytes c.options with e | shader
    · exact .inl ⟨e, rfl, rfl, rfl⟩
    · exact .inr ⟨shader, rfl, rfl, rfl⟩
  · exact .inl ⟨shared, rfl, rfl⟩

namespace CacheSession

variable {s : CacheSession} {bytes : List UInt8}

/-! ## What every call keeps -/

/-- How the cache of a session and the look-ups in it belong together. -/
structure Sound (digest : List UInt8 → List UInt8) (s : CacheSession) : Prop where
  options : s.cache.options = s.options
  recent : s.recent ⊆ s.answered
  /-- An entry is what a look-up since the last clearing has lowered. -/
  made : ∀ key shared, (key, shared) ∈ s.cache.entries → ∃ a ∈ s.recent, ∃ source,
    a.answer = .ok ⟨source, shared⟩ ∧ a.key digest = key ∧
      lowerBytes a.bytes a.options = .ok shared.shader
  /-- What a look-up since the last clearing has answered is found again. -/
  kept : ∀ a ∈ s.recent, ∀ found, a.answer = .ok found →
    s.cache.find? (a.key digest) = some found.shared
  /-- No key has two entries. -/
  distinct : (s.cache.entries.map Prod.fst).Nodup
  lookups : s.cache.hits + s.cache.misses = s.answered.length
  hits : s.cache.hits = s.answered.countP Answered.isMemory
  /-- Objects are numbered by the misses. -/
  serials : ∀ a ∈ s.answered, ∀ found, a.answer = .ok found →
    found.shared.serial ≤ s.cache.misses

theorem sound_start (options : Options) : (start options).Sound digest where
  options := rfl
  recent _ h := h
  made _ _ h := absurd h List.not_mem_nil
  kept _ h := absurd h List.not_mem_nil
  distinct := List.nodup_nil
  lookups := rfl
  hits := rfl
  serials _ h := absurd h List.not_mem_nil

theorem Sound.setOptions (h : s.Sound digest) (options : Options) :
    (s.call digest (.setOptions options)).Sound digest :=
  ⟨rfl, h.recent, h.made, h.kept, h.distinct, h.lookups, h.hits, h.serials⟩

theorem Sound.clear (h : s.Sound digest) : (s.call digest .clear).Sound digest where
  options := h.options
  recent := List.nil_subset _
  made _ _ h := absurd h List.not_mem_nil
  kept _ h := absurd h List.not_mem_nil
  distinct := List.nodup_nil
  lookups := h.lookups
  hits := h.hits
  serials := h.serials

/-- A key that is found has an entry, and the entry was made by a look-up. -/
theorem Sound.made_of_find? (h : s.Sound digest) {key : List UInt8} {shared : SharedShader}
    (hfind : s.cache.find? key = some shared) :
    ∃ a ∈ s.recent, ∃ source, a.answer = .ok ⟨source, shared⟩ ∧ a.key digest = key ∧
      lowerBytes a.bytes a.options = .ok shared.shader := by
  obtain ⟨before, behind, hentries, -⟩ := List.lookup_eq_some_iff.1 hfind
  refine h.made key shared ?_
  rw [hentries]
  exact List.mem_append_right _ (List.mem_cons_self ..)

/-- What a look-up in a sound session comes to, in terms of the session. -/
theorem Sound.lookUp_cases (h : s.Sound digest) (bytes : List UInt8) :
    (∃ shared, s.cache.find? ((s.lookUp digest bytes).key digest) = some shared ∧
      (s.lookUp digest bytes).answer = .ok ⟨.memory, shared⟩ ∧
      (s.call digest (.get bytes)).cache = { s.cache with hits := s.cache.hits + 1 }) ∨
    (∃ e, s.cache.find? ((s.lookUp digest bytes).key digest) = none ∧
      lowerBytes bytes s.options = .error e ∧
      (s.lookUp digest bytes).answer = .error e ∧
      (s.call digest (.get bytes)).cache = { s.cache with misses := s.cache.misses + 1 }) ∨
    (∃ shader, s.cache.find? ((s.lookUp digest bytes).key digest) = none ∧
      lowerBytes bytes s.options = .ok shader ∧
      (s.lookUp digest bytes).answer = .ok ⟨.lowered, ⟨s.cache.misses + 1, shader⟩⟩ ∧
      (s.call digest (.get bytes)).cache =
        ⟨((s.lookUp digest bytes).key digest, ⟨s.cache.misses + 1, shader⟩) :: s.cache.entries,
          s.cache.options, s.cache.hits, s.cache.misses + 1⟩) := by
  have hkey : (s.lookUp digest bytes).key digest = shaderKeyWith digest bytes s.cache.options := by
    rw [h.options]
    rfl
  rw [hkey, ← h.options]
  rcases s.cache.get_cases bytes with
    ⟨shared, hfind, hget⟩ | ⟨e, hfind, hlower, hget⟩ | ⟨shader, hfind, hlower, hget⟩
  · exact .inl ⟨shared, hfind, congrArg Prod.fst hget, congrArg Prod.snd hget⟩
  · exact .inr (.inl ⟨e, hfind, hlower, congrArg Prod.fst hget, congrArg Prod.snd hget⟩)
  · exact .inr (.inr ⟨shader, hfind, hlower, congrArg Prod.fst hget, congrArg Prod.snd hget⟩)

/-- What holds of earlier look-ups and of a new one holds of all. -/
theorem forall_mem_append_lookUp {P : Answered → Prop} {answered : List Answered}
    (h : ∀ a ∈ answered, P a) (hnew : P (s.lookUp digest bytes)) :
    ∀ a ∈ answered ++ [s.lookUp digest bytes], P a :=
  List.forall_mem_append.2 ⟨h, List.forall_mem_singleton.2 hnew⟩

theorem Sound.recent_get (h : s.Sound digest) (bytes : List UInt8) :
    (s.call digest (.get bytes)).recent ⊆ (s.call digest (.get bytes)).answered :=
  forall_mem_append_lookUp (fun _ ha => List.mem_append_left _ (h.recent ha))
    (List.mem_append_right _ (List.mem_singleton_self _))

/-- An entry that was made before stays made. -/
theorem Sound.made_get (h : s.Sound digest) (bytes : List UInt8) {key : List UInt8}
    {shared : SharedShader} (hentry : (key, shared) ∈ s.cache.entries) :
    ∃ a ∈ (s.call digest (.get bytes)).recent, ∃ source,
      a.answer = .ok ⟨source, shared⟩ ∧ a.key digest = key ∧
      lowerBytes a.bytes a.options = .ok shared.shader := by
  obtain ⟨a, ha, hmade⟩ := h.made key shared hentry
  exact ⟨a, List.mem_append_left _ ha, hmade⟩

theorem length_answered_get (s : CacheSession) (bytes : List UInt8) :
    (s.call digest (.get bytes)).answered.length = s.answered.length + 1 :=
  List.length_append

theorem countP_answered_get (s : CacheSession) (bytes : List UInt8) :
    (s.call digest (.get bytes)).answered.countP Answered.isMemory =
      s.answered.countP Answered.isMemory + if (s.lookUp digest bytes).isMemory then 1 else 0 := by
  rw [CacheSession.call, List.countP_append, List.countP_singleton]

/-- A look-up that finds its key keeps a session sound. -/
theorem Sound.get_found (h : s.Sound digest) {shared : SharedShader}
    (hfind : s.cache.find? ((s.lookUp digest bytes).key digest) = some shared)
    (hanswer : (s.lookUp digest bytes).answer = .ok ⟨.memory, shared⟩)
    (hcache : (s.call digest (.get bytes)).cache = { s.cache with hits := s.cache.hits + 1 }) :
    (s.call digest (.get bytes)).Sound digest := by
  have hmemory : (s.lookUp digest bytes).isMemory = true := by rw [Answered.isMemory, hanswer]
  constructor <;> try rw [hcache]
  case options => exact h.options
  case recent => exact h.recent_get bytes
  case made => exact fun key shared => h.made_get bytes
  case kept =>
    refine forall_mem_append_lookUp h.kept fun found hfound => ?_
    cases hanswer.symm.trans hfound
    exact hfind
  case distinct => exact h.distinct
  case lookups =>
    rw [length_answered_get, ← h.lookups]
    exact Nat.add_right_comm ..
  case hits => rw [countP_answered_get, hmemory, if_pos rfl, h.hits]
  case serials =>
    refine forall_mem_append_lookUp h.serials fun found hfound => ?_
    cases hanswer.symm.trans hfound
    obtain ⟨a, ha, source, hmade, -⟩ := h.made_of_find? hfind
    exact h.serials a (h.recent ha) ⟨source, shared⟩ hmade

/-- A look-up that fails keeps a session sound. -/
theorem Sound.get_failed (h : s.Sound digest) {e : CompileError}
    (hanswer : (s.lookUp digest bytes).answer = .error e)
    (hcache : (s.call digest (.get bytes)).cache = { s.cache with misses := s.cache.misses + 1 }) :
    (s.call digest (.get bytes)).Sound digest := by
  have hmemory : (s.lookUp digest bytes).isMemory = false := by rw [Answered.isMemory, hanswer]
  have hnone (found : ShaderLookup) : (s.lookUp digest bytes).answer ≠ .ok found := by
    rw [hanswer]
    exact nofun
  constructor <;> try rw [hcache]
  case options => exact h.options
  case recent => exact h.recent_get bytes
  case made => exact fun key shared => h.made_get bytes
  case kept =>
    exact forall_mem_append_lookUp h.kept fun found hfound => absurd hfound (hnone found)
  case distinct => exact h.distinct
  case lookups =>
    rw [length_answered_get, ← h.lookups]
    exact (Nat.add_assoc ..).symm
  case hits => rw [countP_answered_get, hmemory, if_neg Bool.false_ne_true, h.hits, Nat.add_zero]
  case serials =>
    exact forall_mem_append_lookUp
      (fun a ha found hfound => Nat.le_succ_of_le (h.serials a ha found hfound))
      fun found hfound => absurd hfound (hnone found)

/-- A look-up that lowers its program keeps a session sound. -/
theorem Sound.get_lowered (h : s.Sound digest) {key : List UInt8} {shader : LoweredShader}
    (hkey : (s.lookUp digest bytes).key digest = key) (hfind : s.cache.find? key = none)
    (hlower : lowerBytes bytes s.options = .ok shader)
    (hanswer : (s.lookUp digest bytes).answer = .ok ⟨.lowered, ⟨s.cache.misses + 1, shader⟩⟩)
    (hcache : (s.call digest (.get bytes)).cache =
      ⟨(key, ⟨s.cache.misses + 1, shader⟩) :: s.cache.entries,
        s.cache.options, s.cache.hits, s.cache.misses + 1⟩) :
    (s.call digest (.get bytes)).Sound digest := by
  -- the key is a variable here, so that no unification computes a digest
  have hmemory : (s.lookUp digest bytes).isMemory = false := by rw [Answered.isMemory, hanswer]
  constructor <;> try rw [hcache]
  case options => exact h.options
  case recent => exact h.recent_get bytes
  case made =>
    intro key' shared hentry
    rcases List.mem_cons.1 hentry with hentry | hentry
    · obtain ⟨rfl, rfl⟩ := Prod.mk.inj hentry
      exact ⟨s.lookUp digest bytes, List.mem_append_right _ (List.mem_singleton_self _), .lowered,
        hanswer, hkey, hlower⟩
    · exact h.made_get bytes hentry
  case kept =>
    refine forall_mem_append_lookUp (fun a ha found hfound => ?_) fun found hfound => ?_
    · -- the new entry hides no other, since its key was not found
      have hold := h.kept a ha found hfound
      have hne : a.key digest ≠ key := fun heq => by
        rw [heq, hfind] at hold
        cases hold
      rw [ShaderCache.find?, List.lookup_cons, beq_eq_false_iff_ne.2 hne]
      exact hold
    · cases hanswer.symm.trans hfound
      rw [hkey, ShaderCache.find?, List.lookup_cons_self]
  case distinct =>
    rw [List.map_cons, List.nodup_cons]
    refine ⟨fun hmem => ?_, h.distinct⟩
    obtain ⟨entry, hentry, heq⟩ := List.mem_map.1 hmem
    have hne := List.lookup_eq_none_iff.1 hfind entry hentry
    rw [heq] at hne
    simp at hne
  case lookups =>
    rw [length_answered_get, ← h.lookups]
    exact (Nat.add_assoc ..).symm
  case hits => rw [countP_answered_get, hmemory, if_neg Bool.false_ne_true, h.hits, Nat.add_zero]
  case serials =>
    refine forall_mem_append_lookUp
      (fun a ha found hfound => Nat.le_succ_of_le (h.serials a ha found hfound))
      fun found hfound => ?_
    cases hanswer.symm.trans hfound
    exact Nat.le_refl _

theorem Sound.get (h : s.Sound digest) (bytes : List UInt8) :
    (s.call digest (.get bytes)).Sound digest := by
  rcases h.lookUp_cases bytes with
    ⟨shared, hfind, hanswer, hcache⟩ | ⟨e, -, -, hanswer, hcache⟩ |
      ⟨shader, hfind, hlower, hanswer, hcache⟩
  · exact h.get_found hfind hanswer hcache
  · exact h.get_failed hanswer hcache
  · exact h.get_lowered rfl hfind hlower hanswer hcache

theorem Sound.call (h : s.Sound digest) (c : CacheCall) : (s.call digest c).Sound digest := by
  cases c with
  | setOptions options => exact h.setOptions options
  | get bytes => exact h.get bytes
  | clear => exact h.clear

/-- A session is sound after any calls. -/
theorem sound_after (options : Options) (calls : List CacheCall) :
    (after digest options calls).Sound digest := by
  have hrun (calls : List CacheCall) {s : CacheSession} (hs : s.Sound digest) :
      (calls.foldl (CacheSession.call digest) s).Sound digest := by
    induction calls generalizing s with
    | nil => exact hs
    | cons c calls ih => exact ih (hs.call c)
  exact hrun calls (sound_start options)

/-! ## What look-ups answer -/

/-- What a look-up is to answer, as far as callers can tell. -/
structure Answers (digest : List UInt8 → List UInt8) (s : CacheSession) (bytes : List UInt8) :
    Prop where
  /-- The shader is the lowered program, or the error is that of the lowering. -/
  same : (s.lookUp digest bytes).answer.map (·.shared.shader) = lowerBytes bytes s.options
  /-- The shader comes from memory if and only if an equal look-up has succeeded since the last
  clearing. -/
  memory : (s.lookUp digest bytes).isMemory = true ↔
    ∃ a ∈ s.recent, a.bytes = bytes ∧ a.options = s.options ∧ a.answer.isOk = true
  /-- It is the very object of that look-up. -/
  shared : ∀ a ∈ s.recent, a.bytes = bytes → a.options = s.options →
    ∀ found, a.answer = .ok found → (s.lookUp digest bytes).answer = .ok ⟨.memory, found.shared⟩
  /-- A shader that is lowered is an object of its own. -/
  new : ∀ made, (s.lookUp digest bytes).answer = .ok ⟨.lowered, made⟩ →
    ∀ a ∈ s.answered, ∀ found, a.answer = .ok found → found.shared.serial ≠ made.serial
  /-- A failure changes no entry. -/
  failure : ∀ e, (s.lookUp digest bytes).answer = .error e →
    (s.call digest (.get bytes)).cache.entries = s.cache.entries

/-- A look-up is found with the key of another only if it asks for the same. -/
theorem request_eq_of_key_eq {inputs : List (List UInt8)} (hfree : CollisionFree digest inputs)
    {a b : Answered} (ha : a.keyInput ∈ inputs) (hb : b.keyInput ∈ inputs)
    (hfit : a.bytes.length < 2 ^ 64) (hfit' : b.bytes.length < 2 ^ 64)
    (h : a.key digest = b.key digest) :
    a.bytes = b.bytes ∧ a.options = b.options :=
  eq_of_shaderKeyBytes_eq hfit hfit' (hfree _ ha _ hb h)

/-- The inputs of the keys of some look-ups. -/
def keyInputs (answered : List Answered) : List (List UInt8) := answered.map Answered.keyInput

/-- Where no key is found, no equal look-up has succeeded since the last clearing. -/
theorem Sound.answers_of_miss (h : s.Sound digest)
    (hmiss : s.cache.find? ((s.lookUp digest bytes).key digest) = none)
    (hmemory : (s.lookUp digest bytes).isMemory = false)
    (same : (s.lookUp digest bytes).answer.map (·.shared.shader) = lowerBytes bytes s.options)
    (new : ∀ made, (s.lookUp digest bytes).answer = .ok ⟨.lowered, made⟩ →
      made.serial = s.cache.misses + 1)
    (failure : ∀ e, (s.lookUp digest bytes).answer = .error e →
      (s.call digest (.get bytes)).cache.entries = s.cache.entries) : s.Answers digest bytes := by
  have hnone {a : Answered} (ha : a ∈ s.recent) (hb : a.bytes = bytes)
      (ho : a.options = s.options) (found : ShaderLookup) : a.answer ≠ .ok found := by
    intro hfound
    have hkey : a.key digest = (s.lookUp digest bytes).key digest := by
      rw [Answered.key, hb, ho]
      rfl
    have hkept := h.kept a ha found hfound
    rw [hkey, hmiss] at hkept
    cases hkept
  refine ⟨same, ⟨fun hm => ?_, fun ⟨a, ha, hb, ho, hok⟩ => ?_⟩,
    fun a ha hb ho found hfound => absurd hfound (hnone ha hb ho found),
    fun made hmade a ha found hfound => ?_, failure⟩
  · rw [hmemory] at hm
    cases hm
  · rcases hfound : a.answer with e | found
    · rw [hfound] at hok
      cases hok
    · exact absurd hfound (hnone ha hb ho found)
  · have hserial := h.serials a ha found hfound
    have hnew := new made hmade
    omega

/-- Where a key is found, it was made by an equal look-up, if the hash tells the look-ups apart. -/
theorem Sound.answers_of_found (h : s.Sound digest)
    (hfree : CollisionFree digest (keyInputs (s.answered ++ [s.lookUp digest bytes])))
    (hfit : ∀ a ∈ s.answered ++ [s.lookUp digest bytes], a.bytes.length < 2 ^ 64)
    {shared : SharedShader}
    (hfind : s.cache.find? ((s.lookUp digest bytes).key digest) = some shared)
    (hanswer : (s.lookUp digest bytes).answer = .ok ⟨.memory, shared⟩) :
    s.Answers digest bytes := by
  obtain ⟨a, ha, source, hmade, hkeys, hlower⟩ := h.made_of_find? hfind
  have hnew : s.lookUp digest bytes ∈ s.answered ++ [s.lookUp digest bytes] :=
    List.mem_append_right _ (List.mem_singleton_self _)
  have hold : a ∈ s.answered ++ [s.lookUp digest bytes] := List.mem_append_left _ (h.recent ha)
  obtain ⟨hb, ho⟩ : a.bytes = bytes ∧ a.options = s.options :=
    request_eq_of_key_eq hfree (List.mem_map_of_mem hold) (List.mem_map_of_mem hnew)
      (hfit a hold) (hfit _ hnew) hkeys
  constructor
  case same =>
    rw [hanswer, ← hb, ← ho, hlower]
    rfl
  case memory =>
    refine ⟨fun _ => ⟨a, ha, hb, ho, by rw [hmade]; rfl⟩, fun _ => ?_⟩
    rw [Answered.isMemory, hanswer]
  case shared =>
    intro b hb' hbytes hoptions found hfound
    have hequal : b.key digest = (s.lookUp digest bytes).key digest := by
      rw [Answered.key, hbytes, hoptions]
      rfl
    have hfound := h.kept b hb' found hfound
    rw [hequal, hfind] at hfound
    rw [hanswer, Option.some.inj hfound]
  case new =>
    intro made hmade
    rw [hanswer] at hmade
    cases hmade
  case failure =>
    intro e he
    rw [hanswer] at he
    cases he

/-- A look-up with the hash telling its key apart from those before answers as it is to. -/
theorem Sound.answers (h : s.Sound digest)
    (hfree : CollisionFree digest (keyInputs (s.answered ++ [s.lookUp digest bytes])))
    (hfit : ∀ a ∈ s.answered ++ [s.lookUp digest bytes], a.bytes.length < 2 ^ 64) :
    s.Answers digest bytes := by
  rcases h.lookUp_cases bytes with
    ⟨shared, hfind, hanswer, -⟩ | ⟨e, hfind, hlower, hanswer, hcache⟩ |
      ⟨shader, hfind, hlower, hanswer, -⟩
  · exact h.answers_of_found hfree hfit hfind hanswer
  · refine h.answers_of_miss hfind ?_ ?_ (fun made hmade => ?_) fun _ _ => by rw [hcache]
    · rw [Answered.isMemory, hanswer]
    · rw [hanswer, hlower]
      rfl
    · rw [hanswer] at hmade
      cases hmade
  · refine h.answers_of_miss hfind ?_ ?_ (fun made hmade => ?_) fun e he => ?_
    · rw [Answered.isMemory, hanswer]
    · rw [hanswer, hlower]
      rfl
    · cases hanswer.symm.trans hmade
      rfl
    · rw [hanswer] at he
      cases he

/-- What the counts of a cache say. -/
structure Counts (s : CacheSession) : Prop where
  lookups : s.cache.hits + s.cache.misses = s.answered.length
  hits : s.cache.hits = s.answered.countP Answered.isMemory
  /-- There is an entry for each different request that has succeeded since the last clearing. -/
  entries : s.cache.entries.length =
    ((s.recent.filter (·.answer.isOk)).map Answered.request).dedup.length

/-- The keys of the entries are those of the look-ups that have succeeded. -/
theorem Sound.mem_keys (h : s.Sound digest) {key : List UInt8} :
    key ∈ s.cache.entries.map Prod.fst ↔
      ∃ a ∈ s.recent, a.answer.isOk = true ∧ a.key digest = key := by
  constructor
  · intro hkey
    obtain ⟨⟨key, shared⟩, hentry, rfl⟩ := List.mem_map.1 hkey
    obtain ⟨a, ha, source, hmade, hkeys, -⟩ := h.made key shared hentry
    exact ⟨a, ha, by rw [hmade]; rfl, hkeys⟩
  · rintro ⟨a, ha, hok, rfl⟩
    rcases hfound : a.answer with e | found
    · rw [hfound] at hok
      cases hok
    · have hfind := h.kept a ha found hfound
      obtain ⟨before, behind, hentries, -⟩ := List.lookup_eq_some_iff.1 hfind
      rw [hentries]
      simp

theorem Sound.counts (h : s.Sound digest) (hfree : CollisionFree digest (keyInputs s.answered))
    (hfit : ∀ a ∈ s.answered, a.bytes.length < 2 ^ 64) : s.Counts := by
  refine ⟨h.lookups, h.hits, ?_⟩
  let requests := (s.recent.filter (·.answer.isOk)).map Answered.request
  let keyOf (request : List UInt8 × Options) := shaderKeyWith digest request.1 request.2
  have hsuccess {request : List UInt8 × Options} (hr : request ∈ requests) :
      ∃ a ∈ s.recent, a.answer.isOk = true ∧ a.request = request := by
    obtain ⟨a, ha, heq⟩ := List.mem_map.1 hr
    exact ⟨a, (List.mem_filter.1 ha).1, (List.mem_filter.1 ha).2, heq⟩
  have hinj : ∀ r ∈ requests.dedup, ∀ r' ∈ requests.dedup, keyOf r = keyOf r' → r = r' := by
    intro r hr r' hr' heq
    obtain ⟨a, ha, -, rfl⟩ := hsuccess (List.mem_dedup.1 hr)
    obtain ⟨b, hb, -, rfl⟩ := hsuccess (List.mem_dedup.1 hr')
    have ha := h.recent ha
    have hb := h.recent hb
    obtain ⟨hbytes, hoptions⟩ := request_eq_of_key_eq hfree (List.mem_map_of_mem ha)
      (List.mem_map_of_mem hb) (hfit a ha) (hfit b hb) heq
    exact Prod.ext hbytes hoptions
  have hperm : (s.cache.entries.map Prod.fst).Perm (requests.dedup.map keyOf) := by
    refine (List.perm_ext_iff_of_nodup h.distinct
      ((List.nodup_dedup _).map_on hinj)).2 fun key => ?_
    rw [h.mem_keys, List.mem_map]
    constructor
    · rintro ⟨a, ha, hok, rfl⟩
      exact ⟨a.request, List.mem_dedup.2 (List.mem_map_of_mem (List.mem_filter.2 ⟨ha, hok⟩)), rfl⟩
    · rintro ⟨request, hr, rfl⟩
      obtain ⟨a, ha, hok, rfl⟩ := hsuccess (List.mem_dedup.1 hr)
      exact ⟨a, ha, hok, rfl⟩
  calc s.cache.entries.length = (s.cache.entries.map Prod.fst).length := (List.length_map ..).symm
    _ = (requests.dedup.map keyOf).length := hperm.length_eq
    _ = requests.dedup.length := List.length_map ..

/-! ## Transparency -/

theorem after_append (options : Options) (calls more : List CacheCall) :
    after digest options (calls ++ more) = more.foldl (call digest) (after digest options calls) :=
  List.foldl_append ..

/-- Look-ups that have been answered stay answered. -/
theorem answered_foldl (calls : List CacheCall) (s : CacheSession) :
    s.answered <+: (calls.foldl (call digest) s).answered := by
  induction calls generalizing s with
  | nil => exact List.prefix_rfl
  | cons c calls ih =>
    refine List.IsPrefix.trans ?_ (ih (s.call digest c))
    cases c with
    | get bytes => exact List.prefix_append ..
    | setOptions | clear => exact List.prefix_rfl

/-- The cache is transparent. The inputs of keys tell programs and options apart, whatever the
lengths of the names are. As long as the hash tells the inputs apart that are fed to it, every
look-up in a sequence of calls to a new cache answers what lowering would, from memory exactly if an
equal look-up has succeeded since the last clearing, and the counts count what they are to. -/
theorem transparent (digest : List UInt8 → List UInt8) :
    (∀ (bytes bytes' : List UInt8) (options options' : Options),
      bytes.length < 2 ^ 64 → bytes'.length < 2 ^ 64 →
      shaderKeyBytes bytes options = shaderKeyBytes bytes' options' →
        bytes = bytes' ∧ options = options') ∧
    ∀ (options : Options) (calls : List CacheCall),
      CollisionFree digest (keyInputs (after digest options calls).answered) →
      (∀ a ∈ (after digest options calls).answered, a.bytes.length < 2 ^ 64) →
        (∀ before bytes behind, calls = before ++ .get bytes :: behind →
          (after digest options before).Answers digest bytes) ∧
        (after digest options calls).Counts := by
  refine ⟨fun bytes bytes' options options' hfit hfit' h => eq_of_shaderKeyBytes_eq hfit hfit' h,
    fun options calls hfree hfit => ⟨?_, (sound_after options calls).counts hfree hfit⟩⟩
  rintro before bytes behind rfl
  let s := after digest options before
  have hanswered : s.answered ++ [s.lookUp digest bytes] ⊆
      (after digest options (before ++ .get bytes :: behind)).answered := by
    rw [after_append]
    exact (answered_foldl behind (s.call digest (.get bytes))).subset
  exact (sound_after options before).answers
    (hfree.mono fun x hx => List.map_subset _ hanswered hx) fun a ha => hfit a (hanswered ha)

/-- A vertex program that returns at once. -/
def returning : List UInt8 := wordBytes [0x00010040, 3, 0x0100003e]

/-- A vertex program with an instruction that nothing is known about. -/
def unhandled : List UInt8 := wordBytes [0x00010040, 3, 0x0100006b]

/-- Look-ups under two choices of options, with a failure, an answer from memory, and a clearing
among them. -/
def mixedCalls : List CacheCall :=
  [.get returning, .setOptions { Options.standard with strict := true }, .get unhandled,
   .get returning, .setOptions .standard, .get returning, .clear, .get returning]

/-- A cache with BLAKE3 is transparent in these calls: the third look-up of the program that returns
is answered from memory, and one entry is left in the end. -/
theorem mixedCalls_transparent :
    (after Blake3.digest .standard (mixedCalls.take 5)).Answers Blake3.digest returning ∧
      (after Blake3.digest .standard mixedCalls).Counts ∧
      ((after Blake3.digest .standard (mixedCalls.take 5)).lookUp Blake3.digest
        returning).isMemory = true ∧
      (after Blake3.digest .standard mixedCalls).cache.entries.length = 1 := by
  have htransparent := (transparent Blake3.digest).2 .standard mixedCalls (by decide +kernel)
    (by decide +kernel)
  exact ⟨htransparent.1 (mixedCalls.take 5) returning [.clear, .get returning] rfl,
    htransparent.2, by decide +kernel, by decide +kernel⟩

end CacheSession

end ShaderLowering
