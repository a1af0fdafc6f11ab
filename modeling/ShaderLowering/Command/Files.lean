/-!
# Files

How the command reads and writes files. `Files` is what it needs of a file system, in any monad, and
a `FileFault` is what can go wrong there.
-/

namespace ShaderLowering.Command

/-! ## Failures -/

/-- A failure of the system, by its number. -/
structure FileFault where
  /-- The number. -/
  code : Nat

namespace FileFault

def notFound : FileFault := ⟨2⟩
def noDevice : FileFault := ⟨6⟩
def noMemory : FileFault := ⟨12⟩
def denied : FileFault := ⟨13⟩
def notAFolder : FileFault := ⟨20⟩
def isAFolder : FileFault := ⟨21⟩
def noSpace : FileFault := ⟨28⟩
def nameTooLong : FileFault := ⟨36⟩

/-- The names of the failures that files can have. -/
def names : List (Nat × String) :=
  [(1, "Operation not permitted"), (2, "No such file or directory"), (4, "Interrupted system call"),
   (5, "Input/output error"), (6, "No such device or address"), (12, "Cannot allocate memory"),
   (13, "Permission denied"), (16, "Device or resource busy"), (17, "File exists"),
   (19, "No such device"), (20, "Not a directory"), (21, "Is a directory"),
   (22, "Invalid argument"), (23, "Too many open files in system"), (24, "Too many open files"),
   (26, "Text file busy"), (27, "File too large"), (28, "No space left on device"),
   (29, "Illegal seek"), (30, "Read-only file system"), (32, "Broken pipe"),
   (36, "File name too long"), (40, "Too many levels of symbolic links"),
   (75, "Value too large for defined data type"), (122, "Disk quota exceeded")]

/-- The failure in words. -/
def message (f : FileFault) : String :=
  let name := (names.lookup f.code).getD s!"Unknown error {f.code}"
  s!"{name} (os error {f.code})"

end FileFault

/-! ## File systems -/

/-- What the command needs of a file system. -/
structure Files (m : Type → Type) where
  /-- The bytes of a file. -/
  readAll : String → m (Except FileFault (List UInt8))
  /-- Makes a file with the given bytes, or replaces those of an existing one. -/
  writeAll : String → List UInt8 → m (Except FileFault Unit)

end ShaderLowering.Command
