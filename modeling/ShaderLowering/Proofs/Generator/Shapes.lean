import ShaderLowering.Proofs.Generator.Invariant

/-!
# The shapes of resources

A constant buffer is declared with a size, and a texture or buffer with a dimension and a return type.
What a declaration says of its register is a `ResourceShape`. `ResourceShape.Describes` says which
instructions give a variable this shape: those of its type, down to scalars and numbers.
-/

namespace ShaderLowering

open Spirv

/-- What the declaration of a constant buffer, texture or buffer says of its register. -/
inductive ResourceShape where
  /-- A constant buffer with a number of elements. -/
  | constantBuffer (size : Word)
  /-- A texture or buffer with components that are read as numbers of a type. -/
  | image (dim : ResourceDim) (returnType : ResourceReturnType)
  deriving DecidableEq

/-- Instructions make an id a variable in memory of a class, with what it is a variable of. -/
def IsVariableOf (insts : List Inst) (storage : Storage) (pointee id : Word) : Prop :=
  ∃ pointer, ⟨.typePointer, none, some pointer, [storage.spirvClass.number, pointee]⟩ ∈ insts ∧
    ⟨.globalVariable, some pointer, some id, [storage.spirvClass.number]⟩ ∈ insts

theorem IsResourceVariable.isVariableOf {globals : List Inst} {storage : Storage} {pointee id : Word}
    (h : IsResourceVariable globals storage pointee id) : IsVariableOf globals storage pointee id := by
  obtain ⟨pointer, hpointer, hvariable⟩ := h
  exact ⟨pointer, hpointer.mem, hvariable⟩

theorem IsVariableOf.mono {insts insts' : List Inst} {storage : Storage} {pointee id : Word}
    (h : IsVariableOf insts storage pointee id) (hsub : insts ⊆ insts') :
    IsVariableOf insts' storage pointee id := by
  obtain ⟨pointer, hpointer, hvariable⟩ := h
  exact ⟨pointer, hsub hpointer, hsub hvariable⟩

theorem Spirv.ScalarId.mem {globals : List Inst} {s : ScalarType} {type : Word}
    (h : ScalarId globals s type) : scalarDeclaration s (some type) ∈ globals := by
  have hmem := Interned.mem h
  cases s <;> exact hmem

namespace ResourceShape

/-- The class of the registers. -/
def kind : ResourceShape → ResourceClass
  | constantBuffer _ => .constantBuffer
  | image _ _ => .shaderResource

/-- Instructions make an id the variable of a register of a shape. A constant buffer is an array of
vectors of four floating-point components, of which there is at least one. -/
def Describes (insts : List Inst) (id : Word) : ResourceShape → Prop
  | constantBuffer size => ∃ scalar vector number length array block,
      scalarDeclaration .float32 (some scalar) ∈ insts ∧
      ⟨.typeVector, none, some vector, [scalar, 4]⟩ ∈ insts ∧
      scalarDeclaration .uint32 (some number) ∈ insts ∧
      ⟨.constant, some number, some length, [max size 1]⟩ ∈ insts ∧
      ⟨.typeArray, none, some array, [vector, length]⟩ ∈ insts ∧
      ⟨.typeStruct, none, some block, [array]⟩ ∈ insts ∧ IsVariableOf insts .uniform block id
  | image dim returnType => ∃ imageDim capability? sampled scalar type,
      dim.image? = some (imageDim, capability?) ∧ returnType.sampled? = some sampled ∧
      scalarDeclaration sampled (some scalar) ∈ insts ∧
      ⟨.typeImage, none, some type, [scalar, imageDim.number, 0, if dim.isArray then 1 else 0,
        if dim.isMultisampled then 1 else 0, 1, ImageFormat.unknown.number]⟩ ∈ insts ∧
      IsVariableOf insts .uniformConstant type id

theorem Describes.mono {insts insts' : List Inst} {id : Word} {shape : ResourceShape}
    (h : shape.Describes insts id) (hsub : insts ⊆ insts') : shape.Describes insts' id := by
  cases shape with
  | constantBuffer size =>
    obtain ⟨scalar, vector, number, length, array, block, hs, hv, hn, hl, ha, hb, hid⟩ := h
    exact ⟨scalar, vector, number, length, array, block, hsub hs, hsub hv, hsub hn, hsub hl, hsub ha,
      hsub hb, hid.mono hsub⟩
  | image dim returnType =>
    obtain ⟨imageDim, capability?, sampled, scalar, type, hd, hr, hs, ht, hid⟩ := h
    exact ⟨imageDim, capability?, sampled, scalar, type, hd, hr, hsub hs, hsub ht, hid.mono hsub⟩

section

variable {globals : List Inst} {id : Word}

theorem describes_constantBuffer {size element number length array block : Word}
    (he : TypeId globals .floatVector element) (hn : ScalarId globals .uint32 number)
    (hl : ⟨.constant, some number, some length, [max size 1]⟩ ∈ globals)
    (ha : ⟨.typeArray, none, some array, [element, length]⟩ ∈ globals)
    (hb : ⟨.typeStruct, none, some block, [array]⟩ ∈ globals)
    (hid : IsResourceVariable globals .uniform block id) :
    (constantBuffer size).Describes globals id := by
  obtain ⟨scalar, hs, hv⟩ := he
  exact ⟨scalar, element, number, length, array, block, hs.mem, Interned.mem hv, hn.mem, hl, ha, hb,
    hid.isVariableOf⟩

theorem describes_image {dim : ResourceDim} {returnType : ResourceReturnType} {imageDim : Dim}
    {capability? : Option Capability} {sampled : ScalarType} {scalar type : Word}
    (hd : dim.image? = some (imageDim, capability?)) (hr : returnType.sampled? = some sampled)
    (hs : ScalarId globals sampled scalar)
    (ht : ⟨.typeImage, none, some type, [scalar, imageDim.number, 0, if dim.isArray then 1 else 0,
      if dim.isMultisampled then 1 else 0, 1, ImageFormat.unknown.number]⟩ ∈ globals)
    (hid : IsResourceVariable globals .uniformConstant type id) :
    (image dim returnType).Describes globals id :=
  ⟨imageDim, capability?, sampled, scalar, type, hd, hr, hs.mem, ht, hid.isVariableOf⟩

end

end ResourceShape

/-! ## Declared registers -/

/-- A constant buffer, texture or buffer as a program declares it. -/
structure ResourceRegister where
  /-- The number of the register. -/
  number : Word
  /-- What is declared. -/
  shape : ResourceShape
  deriving DecidableEq

/-- What tells one register of a resource from others. -/
def ResourceRegister.key (r : ResourceRegister) : ResourceClass × Word := (r.shape.kind, r.number)

namespace Generator

variable {g g' : Generator} {r : ResourceRegister}

/-- A generator has a register, and its module describes the variable as the register is declared. -/
def Describes (g : Generator) (r : ResourceRegister) : Prop :=
  ∃ d ∈ g.resources, (d.form.kind, d.register) = r.key ∧
    r.shape.Describes g.module.globals.toList d.variableId

theorem Describes.mono (h : g.Describes r) (hg : g.Grows g') : g'.Describes r := by
  obtain ⟨d, hd, hkey, hdescribes⟩ := h
  exact ⟨d, hg.resources.subset hd, hkey, hdescribes.mono hg.module.globals.subset⟩

end Generator

end ShaderLowering
