import ShaderLowering.Binding.Slot

/-!
# Slot mappings

The shaders of one pipeline share their bindings. A `SlotMapping` collects the slots that they use,
in the order in which the slots are first defined, and the binding of a slot is its place in that
order. A slot that is defined again becomes visible to more stages; it cannot change its kind.
-/

namespace ShaderLowering

/-- What stands behind a slot. -/
inductive ResourceKind where
  | uniformBuffer | sampledImage | uniformTexelBuffer | sampler
  deriving DecidableEq

namespace ResourceKind

/-- The name of a kind. -/
def label : ResourceKind → String
  | uniformBuffer => "UniformBuffer"
  | sampledImage => "SampledImage"
  | uniformTexelBuffer => "UniformTexelBuffer"
  | sampler => "Sampler"

end ResourceKind

/-- A set of stages, one bit for each in the order of `ShaderStage.index?`. -/
structure StageSet where
  /-- The bits. -/
  bits : Nat
  deriving DecidableEq

namespace StageSet

/-- The set of the stages whose bits are set. -/
def ofBits (n : Nat) : StageSet := ⟨n % 64⟩

/-- One stage; no stage at all for a number of none. -/
def single (stage : ShaderStage) : StageSet :=
  match stage.index? with
  | some index => ⟨1 <<< index⟩
  | none => ⟨0⟩

/-- The stages of either set. -/
def union (s t : StageSet) : StageSet := ⟨s.bits ||| t.bits⟩

end StageSet

/-- A slot with what stands behind it. -/
structure ResourceSlot where
  /-- The slot. -/
  slot : Word
  /-- What stands behind it. -/
  kind : ResourceKind
  deriving DecidableEq

/-- A slot of a mapping. -/
structure MappedSlot where
  /-- The slot. -/
  slot : Word
  /-- What stands behind it. -/
  kind : ResourceKind
  /-- The stages that see it. -/
  stages : StageSet
  deriving DecidableEq

/-- The slots of a pipeline; the binding of a slot is its index. -/
structure SlotMapping where
  /-- The slots in the order of their first definition. -/
  entries : List MappedSlot

/-- Why a slot has no binding or can have none. -/
inductive SlotMappingError where
  /-- The mapping does not have the slot. -/
  | unmapped (slot : Word)
  /-- The slot has another kind already. -/
  | kindConflict (slot : Word) (existing requested : ResourceKind)

namespace SlotMappingError

/-- The error in words. -/
def message : SlotMappingError → String
  | unmapped slot => s!"resource slot {slot.toNat} is not defined in the slot mapping"
  | kindConflict slot existing requested =>
    s!"resource slot {slot.toNat} defined as {requested.label} but " ++
      s!"already mapped as {existing.label}"

end SlotMappingError

namespace SlotMapping

/-- A mapping without slots. -/
def empty : SlotMapping := ⟨[]⟩

/-- The entry of a slot. -/
def find? (m : SlotMapping) (slot : Word) : Option MappedSlot := m.entries.find? (·.slot == slot)

/-- The binding of a slot. -/
def binding? (m : SlotMapping) (slot : Word) : Option Nat :=
  m.entries.findIdx? (·.slot == slot)

/-- Defines a slot, or makes it visible to more stages. -/
def define (m : SlotMapping) (slot : Word) (kind : ResourceKind) (stages : StageSet) :
    Except SlotMappingError SlotMapping :=
  match m.find? slot with
  | none => .ok ⟨m.entries ++ [⟨slot, kind, stages⟩]⟩
  | some existing =>
    if existing.kind ≠ kind then .error (.kindConflict slot existing.kind kind)
    else
      .ok ⟨m.entries.map fun e =>
        if e.slot = slot then { e with stages := e.stages.union stages } else e⟩

/-- Defines slots one after the other up to the first that cannot be defined; the slots before it
stay defined. -/
def defineAll (stages : StageSet) : List ResourceSlot → SlotMapping →
    SlotMapping × Option SlotMappingError
  | [], m => (m, none)
  | s :: slots, m =>
    match m.define s.slot s.kind stages with
    | .ok m' => defineAll stages slots m'
    | .error e => (m, some e)

end SlotMapping

end ShaderLowering
