/-!
# Sets of shared objects

Immutable objects that are built from a description are built once: whoever asks for the object of
an equal description again gets the same object. A construction that fails leaves nothing behind.
Objects are never removed, so an object is told apart from all others by its place in the set.

What equal descriptions are is up to the descriptions. To build an object can have effects of any
kind; only the set itself is out of its reach.
-/

namespace ShaderLowering

/-- The objects that have been built, each with its description, in the order in which they were
built. -/
structure ObjectSet (D T : Type) where
  /-- The descriptions and their objects. -/
  entries : List (D × T)

/-- What asking for an object comes to. -/
inductive Obtained (E T : Type) where
  /-- The object at a place had been built before. -/
  | shared (place : Nat) (object : T)
  /-- The object was built and is now at a place. -/
  | built (place : Nat) (object : T)
  /-- The object could not be built. -/
  | failed (error : E)

namespace ObjectSet

variable {D T E : Type}

/-- A set without objects. -/
def empty : ObjectSet D T := ⟨[]⟩

/-- How many objects have been built. -/
def size (s : ObjectSet D T) : Nat := s.entries.length

/-- A set with one more object, which is at the last place. -/
def push (s : ObjectSet D T) (description : D) (object : T) : ObjectSet D T :=
  ⟨s.entries ++ [(description, object)]⟩

variable [BEq D]

/-- The object with a description, and its place. -/
def find? (s : ObjectSet D T) (description : D) : Option (Nat × T) :=
  (s.entries.zipIdx.find? fun (entry, _) => entry.1 == description).map
    fun (entry, place) => (place, entry.2)

section

variable {m : Type → Type} [Monad m]

/-- The object with a description, built if there is none. Building it can have effects, and it can
fail. -/
def getOrTryBuildM (s : ObjectSet D T) (description : D) (build : D → m (Except E T)) :
    m (Obtained E T × ObjectSet D T) :=
  match s.find? description with
  | some (place, object) => return (.shared place object, s)
  | none => do
    match ← build description with
    | .error e => return (.failed e, s)
    | .ok object => return (.built s.size object, s.push description object)

/-- The object with a description, built if there is none. Building it can have effects. -/
def getOrBuildM (s : ObjectSet D T) (description : D) (build : D → m T) :
    m (Obtained Empty T × ObjectSet D T) :=
  s.getOrTryBuildM description fun d => do return .ok (← build d)

end

/-- The object with a description, built if there is none. Building it has no effects, but it can
fail. -/
def getOrTryBuild (s : ObjectSet D T) (description : D) (build : D → Except E T) :
    Obtained E T × ObjectSet D T :=
  Id.run (s.getOrTryBuildM description fun d => pure (build d))

end ObjectSet

end ShaderLowering
