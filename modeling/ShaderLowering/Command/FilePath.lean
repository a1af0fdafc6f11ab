import ShaderLowering.Command.Files

/-!
# Paths

A path is read once, before anything is looked up: whether it starts at the root, the names on the
way, and whether it ends in a slash, which asks for a folder. Slashes between names may be repeated.
-/

namespace ShaderLowering.Command

/-- A path. -/
structure FilePath where
  /-- Whether the path starts at the root, and not at the working folder. -/
  absolute : Bool
  /-- The names on the way, but for the last. -/
  folders : List String
  /-- The last name, if there is one. -/
  last? : Option String
  /-- Whether the path ends in a slash. -/
  slash : Bool

namespace FilePath

/-- How many bytes a path can have. -/
def maxBytes : Nat := 4095

/-- How many bytes a name can have. -/
def maxNameBytes : Nat := 255

/-- The path that a text spells. The empty text spells none. -/
def ofString (s : String) : Except FileFault FilePath :=
  if s.isEmpty then .error .notFound
  else if maxBytes < s.utf8ByteSize then .error .nameTooLong
  else
    let names := (s.splitOn "/").filter (!·.isEmpty)
    .ok ⟨s.toList.head? == some '/', names.dropLast, names.getLast?, s.toList.getLast? == some '/'⟩

/-- Whether a name is one of the two that every folder has, for itself and for the one above it. -/
def isDots (name : String) : Bool := name == "." || name == ".."

/-- Whether the path asks for a folder of a name of its own. -/
def namesFolder (p : FilePath) : Bool := p.slash && p.last?.any (!isDots ·)

end FilePath

end ShaderLowering.Command
