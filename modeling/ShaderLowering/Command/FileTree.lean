import ShaderLowering.Command.FilePath

/-!
# File trees

Folders, files and devices in memory, which serve to run the command without a disk. What a path
leads to is found name by name: every name but the last must lead to a folder, and each name is
looked up in the folder reached so far.

`FileTree.standard` has the folders and devices that a system has before anything is installed on
it, and a working folder with some files.
-/

namespace ShaderLowering.Command

/-! ## What a tree holds -/

/-- A place in a tree: the names on the way from the root, the innermost one first. -/
abbrev Place := List String

/-- A special file. -/
inductive Device where
  /-- Nothing comes from it, and what goes there is gone. -/
  | sink
  /-- It never ends, and what goes there is gone. -/
  | spring
  /-- It never ends and has no room left. -/
  | full
  /-- The terminal, which the command does not have. -/
  | terminal

namespace Device

/-- All bytes of a device. Those of a device that never ends do not fit the memory. -/
def read : Device → Except FileFault (List UInt8)
  | sink => .ok []
  | spring | full => .error .noMemory
  | terminal => .error .noDevice

/-- Puts bytes on a device. -/
def write : Device → List UInt8 → Except FileFault Unit
  | sink, _ | spring, _ => .ok ()
  | full, bytes => if bytes.isEmpty then .ok () else .error .noSpace
  | terminal, _ => .error .noDevice

end Device

/-- What is at a place. -/
inductive Entry where
  /-- A folder, with the failure of making a file in it, if that fails. -/
  | folder (seal? : Option FileFault)
  /-- A file. -/
  | file (bytes : List UInt8)
  /-- A device. -/
  | device (device : Device)
  /-- Another name for a place that is no link itself. -/
  | link (target : Place)

/-- Whether something is a folder. -/
def Entry.isFolder : Entry → Bool
  | .folder _ => true
  | _ => false

/-- A tree of files. -/
structure FileTree where
  /-- What there is, each with its place; the first entry of a place counts. -/
  entries : List (Place × Entry)
  /-- Where paths start that do not start at the root. -/
  working : Place

namespace FileTree

/-! ## Following paths -/

/-- What is at a place. -/
def entry? (t : FileTree) (place : Place) : Option Entry := t.entries.lookup place

/-- The failure of making a file in a folder, if that fails. -/
def seal? (t : FileTree) (folder : Place) : Option FileFault :=
  match t.entry? folder with
  | some (.folder seal?) => seal?
  | _ => none

/-- Where a name leads from a folder. There may be nothing. The root is above itself. How long a
name can be matters only where files can be made. -/
def step (t : FileTree) (folder : Place) (name : String) : Except FileFault Place :=
  if name = "." then .ok folder
  else if name = ".." then .ok folder.tail
  else if FilePath.maxNameBytes < name.utf8ByteSize ∧ (t.seal? folder).isNone then
    .error .nameTooLong
  else
    match t.entry? (name :: folder) with
    | some (.link target) => .ok target
    | _ => .ok (name :: folder)

/-- The folder that names lead to from a folder. -/
def enter (t : FileTree) (folder : Place) : List String → Except FileFault Place
  | [] => .ok folder
  | name :: names =>
    match t.step folder name with
    | .error e => .error e
    | .ok place =>
      match t.entry? place with
      | none => .error .notFound
      | some entry => if entry.isFolder then t.enter place names else .error .notAFolder

/-- The folder that the last name of a path is looked up in. -/
def parent (t : FileTree) (p : FilePath) : Except FileFault Place :=
  t.enter (if p.absolute then [] else t.working) p.folders

/-- Where the last name of a path leads from a folder. -/
def lastStep (t : FileTree) (folder : Place) (p : FilePath) : Except FileFault Place :=
  match p.last? with
  | none => .ok folder
  | some name => t.step folder name

/-! ## Files -/

/-- All bytes of what a path leads to. -/
def readAll (t : FileTree) (path : String) : Except FileFault (List UInt8) := do
  let p ← FilePath.ofString path
  let place ← t.lastStep (← t.parent p) p
  match t.entry? place with
  | none | some (.link _) => .error .notFound
  | some (.folder _) => .error .isAFolder
  | some (.file bytes) => if p.slash then .error .notAFolder else .ok bytes
  | some (.device d) => if p.slash then .error .notAFolder else d.read

/-- Gives bytes to what a path leads to, which is made if there is nothing. A file cannot be made
under the name of a folder, so a slash behind the name is refused before the name is looked up. -/
def writeAll (t : FileTree) (path : String) (bytes : List UInt8) : Except FileFault FileTree := do
  let p ← FilePath.ofString path
  let folder ← t.parent p
  if p.namesFolder then .error .isAFolder
  let place ← t.lastStep folder p
  let written : FileTree := { t with entries := (place, .file bytes) :: t.entries }
  match t.entry? place with
  | some (.folder _) => .error .isAFolder
  | some (.device d) => (d.write bytes).map fun _ => t
  | some (.file _) => .ok written
  | none | some (.link _) =>
    match t.seal? place.tail with
    | some e => .error e
    | none => .ok written

/-- The tree as a file system. -/
def fileSystem : Files (StateM FileTree) where
  readAll path := do return (← get).readAll path
  writeAll path bytes := do
    match (← get).writeAll path bytes with
    | .ok t => set t; return .ok ()
    | .error e => return .error e

/-! ## The standard tree -/

/-- The place of names that are written from the root, with slashes between them. -/
def placeOf (names : String) : Place := (names.splitOn "/").reverse

/-- The folders that every system has. -/
def standardFolders : List String :=
  ["boot", "dev", "dev/shm", "etc", "home", "media", "mnt", "opt", "root", "run", "srv",
   "tmp", "tmp/work", "usr", "usr/bin", "usr/games", "usr/include", "usr/lib", "usr/lib64",
   "usr/local", "usr/local/bin", "usr/sbin", "usr/share", "usr/src", "var", "var/cache", "var/lib",
   "var/local", "var/log", "var/mail", "var/opt", "var/spool", "var/tmp"]

/-- Folders that show the state of the system. No file can be made in them. -/
def sealedFolders : List (String × FileFault) :=
  [("proc", .notFound), ("proc/self", .notFound), ("proc/self/fd", .notFound), ("sys", .denied),
   ("sys/kernel", .denied), ("dev/pts", .denied)]

/-- Names for folders that are somewhere else. -/
def standardLinks : List (String × String) :=
  [("bin", "usr/bin"), ("lib", "usr/lib"), ("lib64", "usr/lib64"), ("sbin", "usr/sbin"),
   ("dev/fd", "proc/self/fd"), ("proc/self/cwd", "tmp/work"), ("var/run", "run")]

/-- The devices that every system has. -/
def standardDevices : List (String × Device) :=
  [("dev/null", .sink), ("dev/stdin", .sink), ("dev/stdout", .sink), ("dev/stderr", .sink),
   ("dev/zero", .spring), ("dev/random", .spring), ("dev/urandom", .spring), ("dev/full", .full),
   ("dev/tty", .terminal)]

/-- A system with some files in its working folder. -/
def standard (files : List (String × List UInt8)) : FileTree where
  working := placeOf "tmp/work"
  entries :=
    files.map (fun (name, bytes) => (name :: placeOf "tmp/work", .file bytes))
      ++ ([], .folder none) :: standardFolders.map (fun f => (placeOf f, .folder none))
      ++ sealedFolders.map (fun (f, e) => (placeOf f, .folder (some e)))
      ++ standardLinks.map (fun (f, target) => (placeOf f, .link (placeOf target)))
      ++ standardDevices.map (fun (f, d) => (placeOf f, .device d))
      ++ [(placeOf "etc/hosts", .file []), (placeOf "etc/passwd", .file [])]

end FileTree

end ShaderLowering.Command
