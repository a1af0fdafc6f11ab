import ShaderLowering.Generator.Declare
import ShaderLowering.Proofs.Semantics.Registers
import ShaderLowering.Proofs.Semantics.Scalars

/-!
# What a generator is asked for

A lowering talks to a generator in requests: it asks for declarations, constants and pointers, for
loads and stores, and for computations with the values that it has been given before. This says what
each request means, on values that are components of a type and on registers that are written and
read, whatever the instructions look like that a generator makes of it.

A request may be refused, and then it means nothing. A pointer is one to a register or to an element of
a constant buffer, and only registers can be written.
-/

namespace ShaderLowering

/-! ## Values -/

/-- Components of one type. -/
structure Lanes where
  scalar : ScalarType
  words : List Word

namespace Lanes

/-- The type of a value with the components. -/
def type (x : Lanes) : ValueType := ⟨x.scalar, x.words.length⟩

/-- A component. -/
def get (x : Lanes) (i : Nat) : Word := x.words.getD i 0

/-- Some of the components side by side. -/
def pick (x : Lanes) (lanes : List Nat) : Lanes := ⟨x.scalar, lanes.map x.get⟩

/-- An operation on each component. -/
def map (f : Word → Word) (x : Lanes) : Lanes := ⟨x.scalar, x.words.map f⟩

/-- An operation on the components in the same places. -/
def zip (f : Word → Word → Word) (x y : Lanes) : Lanes := ⟨x.scalar, List.zipWith f x.words y.words⟩

/-- The sum of the products of the components, which is the product if there is only one. -/
def dot (P : Platform) (x y : Lanes) : Lanes :=
  if x.words.length = 1 then x.zip (x.scalar.mul P) y else ⟨.float32, [P.dot x.words y.words]⟩

end Lanes

/-- The registers behind a store of a value; constant buffers cannot be stored to. -/
def Place.store (R : Registers) (mask : ComponentMask) (x : Lanes) : Place → Registers
  | register r => R.write r mask (stored mask x.words)
  | element _ _ => R

/-- What comes back of a request, with values and places in whatever form. -/
inductive Answer (V A : Type) where
  /-- The request is refused. -/
  | refused
  /-- There is nothing to give. -/
  | done
  | value (v : V)
  | pointer (p : A)

namespace Answer

variable {V A : Type}

/-- Whether a request is granted. -/
def isGranted : Answer V A → Bool
  | refused => false
  | _ => true

/-- The value that an earlier request has been answered with. -/
def valueAt (answers : List (Answer V A)) (k : Nat) : Option V :=
  match answers[k]? with
  | some (.value v) => some v
  | _ => none

/-- The pointer that an earlier request has been answered with. -/
def pointerAt (answers : List (Answer V A)) (k : Nat) : Option A :=
  match answers[k]? with
  | some (.pointer p) => some p
  | _ => none

end Answer

/-! ## Requests -/

/-- A request that uses no earlier answer. -/
inductive Supply where
  | declareTemps (count : Nat)
  | declareConstantBuffer (register size : Word)
  | declareResource (register : Word) (dim : ResourceDim) (returnType : ResourceReturnType)
  | declareSampler (register : Word) (mode : SamplerMode)
  | declareInterface (d : InterfaceDeclaration)
  | declareThreadGroup (x y z : Word)
  | constantScalar (scalar : ScalarType) (bits : Word)
  | constantVector (scalar : ScalarType) (x y z w : Word)
  | tempPointer (register : Word)
  | interfacePointer (type : OperandType) (register : Word)

/-- A request for something that is made of a value. -/
inductive Unary where
  /-- A pointer to the element of a constant buffer that the value numbers. -/
  | element (buffer : Word)
  | cast (scalar : ScalarType)
  | extract (mask : ComponentMask)
  | swizzle (s : Swizzle) (mask : ComponentMask)
  | replicate (count : Nat)
  | inverseSqrt
  | abs
  | neg
  | saturate
  /-- A texture is sampled at the value. -/
  | sample (texture sampler : Word)

/-- A request for something that is made of two values. -/
inductive Binary where
  | add
  | mul
  | dot

/-- A request to a generator. Earlier answers are referred to by their numbers. -/
inductive Request where
  | supply (s : Supply)
  | unary (op : Unary) (v : Nat)
  | binary (op : Binary) (a b : Nat)
  | load (p : Nat)
  | store (p v : Nat) (mask : ComponentMask)

/-- Components are repeated to make up one to four of them. -/
def Unary.IsValid : Unary → Prop
  | replicate count => 1 ≤ count ∧ count ≤ 4
  | _ => True

def Request.IsValid : Request → Prop
  | unary op _ => op.IsValid
  | _ => True

/-! ## Meanings -/

/-- What requests are answered with. -/
structure Surroundings (P : Platform) extends Environment P where
  /-- The types of the components of textures. -/
  sampled : Word → ScalarType

variable {P : Platform}

/-- What is supplied if it is supplied. -/
def Supply.answer : Supply → Answer Lanes Place
  | constantScalar scalar bits => .value ⟨scalar, [bits]⟩
  | constantVector scalar x y z w => .value ⟨scalar, [x, y, z, w]⟩
  | tempPointer n => .pointer (.register (.temp n))
  | interfacePointer type n =>
    match InterfaceClass.ofOperandType? type with
    | some kind => .pointer (.register (.interface kind n))
    | none => .refused
  | _ => .done

/-- What is made of components. -/
def Unary.answer (E : Surroundings P) (x : Lanes) : Unary → Answer Lanes Place
  | element buffer => .pointer (.element buffer (x.get 0))
  | cast scalar => .value ⟨scalar, x.words⟩
  | extract mask => .value (x.pick mask.components)
  | swizzle s mask => .value (x.pick (mask.components.map s.get))
  | replicate count => .value ⟨x.scalar, List.replicate count (x.get 0)⟩
  | inverseSqrt => .value (x.map P.inverseSqrt)
  | abs => .value (x.map (x.scalar.abs P))
  | neg => .value (x.map (x.scalar.neg P))
  | saturate => .value (x.map fun w => P.clamp w 0 0x3f800000)
  | sample t s => .value ⟨E.sampled t, fourLanes (P.sample (E.texture t) (E.sampler s) E.stage.level?
      ((List.range ((E.dim t).components?.getD 0)).map x.get))⟩

/-- What is made of two values of one type. -/
def Binary.answer (P : Platform) (x y : Lanes) : Binary → Answer Lanes Place
  | add => .value (x.zip (x.scalar.add P) y)
  | mul => .value (x.zip (x.scalar.mul P) y)
  | dot => .value (x.dot P y)

/-- What a sequence of requests comes to: the registers, and the answers so far. -/
structure Meaning where
  registers : Registers
  answers : List (Answer Lanes Place)

namespace Meaning

/-- The answer of a request that is granted, and the registers behind it. -/
def reply? (E : Surroundings P) (m : Meaning) : Request → Option (Answer Lanes Place × Registers)
  | .supply s => some (s.answer, m.registers)
  | .unary op v => do
    let x ← Answer.valueAt m.answers v
    return (op.answer E x, m.registers)
  | .binary op a b => do
    let x ← Answer.valueAt m.answers a
    let y ← Answer.valueAt m.answers b
    return (op.answer P x y, m.registers)
  | .load p => do
    let place ← Answer.pointerAt m.answers p
    return (.value ⟨.float32, fourLanes (place.read E.toEnvironment m.registers)⟩, m.registers)
  | .store p v mask => do
    let place ← Answer.pointerAt m.answers p
    let x ← Answer.valueAt m.answers v
    return (.done, place.store m.registers mask x)

/-- What a sequence comes to with another request, which is granted or not. -/
def step (E : Surroundings P) (m : Meaning) (request : Request) (granted : Bool) : Meaning :=
  match granted, m.reply? E request with
  | true, some (answer, registers) => ⟨registers, m.answers ++ [answer]⟩
  | _, _ => { m with answers := m.answers ++ [.refused] }

theorem step_granted {E : Surroundings P} {m : Meaning} {request : Request}
    {answer : Answer Lanes Place} {registers : Registers}
    (h : m.reply? E request = some (answer, registers)) :
    m.step E request true = ⟨registers, m.answers ++ [answer]⟩ := by
  simp only [step, h]

theorem step_refused (E : Surroundings P) (m : Meaning) (request : Request) :
    m.step E request false = { m with answers := m.answers ++ [.refused] } := rfl

end Meaning

end ShaderLowering
