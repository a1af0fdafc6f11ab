import ShaderLowering.Digest.Blake3
import ShaderLowering.Lowering.Program

/-!
# A cache of lowered shaders

A shader is found again by a hash of everything that its lowering depends on: the bytes of the
program and the options. Options can change between two look-ups; what was lowered with other
options stays in the cache. Failures are never kept. A cache does the same whatever the hash is;
`ShaderCache.get` is the one with BLAKE3.

A look-up that finds a shader gives the very object that was made by an earlier one. Objects are
told apart by their number: the count of look-ups that have found nothing, at the time when it was
made.
-/

namespace ShaderLowering

/-! ## Keys -/

/-- A number as bytes, the least significant one first. -/
def littleEndian (n : Nat) : Nat → List UInt8
  | 0 => []
  | count + 1 => UInt8.ofNat n :: littleEndian (n / 256) count

/-- What the bytes under a key start with. -/
def shaderKeyVersion : String := "aero-d3d11 spirv shader cache v1"

/-- The bytes that a key is the hash of: each text stands behind its length. -/
def shaderKeyBytes (bytes : List UInt8) (options : Options) : List UInt8 :=
  let name := options.entryPoint.toUTF8.toList
  shaderKeyVersion.toUTF8.toList ++ littleEndian bytes.length 8 ++ bytes
    ++ littleEndian name.length 4 ++ name
    ++ [if options.strict then 1 else 0, if options.debugNames then 1 else 0]

/-- The key of a program and options under a hash. -/
def shaderKeyWith (digest : List UInt8 → List UInt8) (bytes : List UInt8) (options : Options) :
    List UInt8 := digest (shaderKeyBytes bytes options)

/-! ## The cache -/

/-- A shader that is shared between look-ups. -/
structure SharedShader where
  /-- The number of the object. -/
  serial : Nat
  /-- The shader. -/
  shader : LoweredShader

/-- Shaders that have been lowered, by their keys. -/
structure ShaderCache where
  /-- The shaders. -/
  entries : List (List UInt8 × SharedShader)
  /-- The options of the next look-up. -/
  options : Options
  /-- How many look-ups have found a shader. -/
  hits : Nat
  /-- How many look-ups have found none. -/
  misses : Nat

/-- Where the shader of a look-up comes from. -/
inductive ShaderSource where
  /-- An earlier look-up. -/
  | memory
  /-- It has just been lowered. -/
  | lowered

/-- The answer to a look-up. -/
structure ShaderLookup where
  /-- Where the shader comes from. -/
  source : ShaderSource
  /-- The shader. -/
  shared : SharedShader

namespace ShaderCache

/-- A cache without shaders. -/
def empty (options : Options) : ShaderCache := ⟨[], options, 0, 0⟩

/-- The shader under a key. -/
def find? (c : ShaderCache) (key : List UInt8) : Option SharedShader := c.entries.lookup key

/-- Chooses the options of the next look-ups. -/
def setOptions (c : ShaderCache) (options : Options) : ShaderCache := { c with options }

/-- Forgets all shaders. -/
def clear (c : ShaderCache) : ShaderCache := { c with entries := [] }

/-- The shader of a program under the current options, lowered unless an earlier look-up has lowered
it. -/
def getWith (digest : List UInt8 → List UInt8) (c : ShaderCache) (bytes : List UInt8) :
    Except CompileError ShaderLookup × ShaderCache :=
  let key := shaderKeyWith digest bytes c.options
  match c.find? key with
  | some shared => (.ok ⟨.memory, shared⟩, { c with hits := c.hits + 1 })
  | none =>
    let missed := { c with misses := c.misses + 1 }
    match lowerBytes bytes c.options with
    | .error e => (.error e, missed)
    | .ok shader =>
      let shared : SharedShader := ⟨missed.misses, shader⟩
      (.ok ⟨.lowered, shared⟩, { missed with entries := (key, shared) :: c.entries })

end ShaderCache

/-! ## The hash in use -/

/-- The key of a program and options. -/
def shaderKey (bytes : List UInt8) (options : Options) : List UInt8 :=
  shaderKeyWith Blake3.digest bytes options

/-- Looks a program up by keys under BLAKE3. -/
def ShaderCache.get (c : ShaderCache) (bytes : List UInt8) :
    Except CompileError ShaderLookup × ShaderCache := c.getWith Blake3.digest bytes

end ShaderLowering
