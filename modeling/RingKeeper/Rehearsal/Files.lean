import RingKeeper.Bootstrap.Basic
import RingKeeper.Text.Utf8

/-!
# Files

A rehearsal has a working directory with files and directories in it, and around it the directories
that every machine has. Paths are relative to the working directory unless they begin with a slash;
a directory has to exist before anything in it can be reached or made. Only the temporary part of the
machine, where the working directory lies, can be written.
-/

namespace RingKeeper.Rehearsal

open Bootstrap (Lookup WriteFailure)

inductive FileEntry where
  | file (bytes : List UInt8)
  | directory
  /-- Reads as empty and can be opened, but nothing can be kept in it. -/
  | sink
deriving DecidableEq, Repr

/-- What lies in the files of a machine, by the names on the way to it. -/
structure Files where
  entries : Table (List String) FileEntry
deriving DecidableEq, Repr

namespace Files

/-- The part of the machine that can be written. -/
def temporary : List String := ["tmp"]

def workingDirectory : List String := temporary ++ ["work"]

/-- The directories that every machine has. -/
def commonDirectories : List (List String) :=
  [temporary, workingDirectory] ++
    ["bin", "boot", "dev", "etc", "home", "lib", "media", "mnt", "opt", "proc", "root", "run",
      "sbin", "srv", "sys", "usr", "var"].map ([·]) ++
    ["bin", "include", "lib", "local", "sbin", "share"].map (["usr", ·]) ++
    ["cache", "lib", "log", "run", "spool", "tmp"].map (["var", ·]) ++
    [["proc", "self"], ["dev", "shm"]]

/-- The files of a machine whose working directory is empty. -/
def fresh : Files :=
  ⟨.ofList (commonDirectories.map (·, .directory) ++ [(["dev", "null"], .sink)])⟩

instance : Inhabited Files := ⟨fresh⟩

/-- The entry under these names; no names lead to the root. -/
def found? (fs : Files) (names : List String) : Option FileEntry :=
  if names.isEmpty then some .directory else fs.entries.get? names

def isDirectory (fs : Files) (names : List String) : Bool :=
  decide (fs.found? names = some .directory)

/-- What keeps a path from leading anywhere: nothing is there on the way, or something else. -/
inductive Obstacle where
  | missing
  | other (text : String)
deriving DecidableEq, Repr

/-- The length at which a path is too long, in bytes. -/
def pathLimit : Nat := 4096

/-- The longest name that a file can have, in bytes. -/
def longestName : Nat := 255

/-- Goes on from what is at a place, which has to be a directory; up ends at the root. -/
def resolve (fs : Files) (at' : List String) : List String → Except Obstacle (List String)
  | [] => .ok at'
  | step :: steps =>
    match fs.found? at' with
    | none => .error .missing
    | some .directory =>
      if longestName < step.utf8ByteSize then .error (.other "the name is too long")
      else if step.isEmpty || step = "." then fs.resolve at' steps
      else if step = ".." then fs.resolve at'.dropLast steps
      else fs.resolve (at' ++ [step]) steps
    | some _ => .error (.other "it is not a directory")

/-- The names that a path leads to, whether or not something is there. -/
def locate (fs : Files) (path : String) : Except Obstacle (List String) :=
  if path.isEmpty then .error .missing
  else if path.toList.contains '\x00' then .error (.other "it is no path")
  else if pathLimit ≤ path.utf8ByteSize then .error (.other "the path is too long")
  else fs.resolve (if path.startsWith "/" then [] else workingDirectory) (path.splitOn "/")

/-- What looking at a path tells. -/
def lookUp (fs : Files) (path : String) : Lookup :=
  match fs.locate path with
  | .error .missing => .absent
  | .error (.other text) => .unknown text
  | .ok names => if (fs.found? names).isSome then .present else .absent

/-- The entry that a path leads to. -/
def at? (fs : Files) (path : String) : Option FileEntry :=
  match fs.locate path with
  | .error _ => none
  | .ok names => fs.found? names

def isFile (fs : Files) (path : String) : Bool :=
  match fs.at? path with
  | some (.file _) => true
  | _ => false

/-- The bytes that are read at a path. -/
def bytes? (fs : Files) (path : String) : Option (List UInt8) :=
  match fs.at? path with
  | some (.file bytes) => some bytes
  | some .sink => some []
  | _ => none

/-- The text that is read at a path, if it is well-formed text. -/
def text? (fs : Files) (path : String) : Option String := (fs.bytes? path).bind Text.decode?

/-- Whether a file can be made or written under these names. -/
def isWritable (fs : Files) (names : List String) : Bool :=
  temporary.isPrefixOf names && !fs.isDirectory names && fs.isDirectory names.dropLast

/-- Puts an entry in place of what is there. -/
def put (fs : Files) (names : List String) (e : FileEntry) : Files :=
  ⟨fs.entries.insert names e⟩

/-- Makes the bytes the content of the file at a path, where that is possible. -/
def overwrite (fs : Files) (path : String) (bytes : List UInt8) : Except WriteFailure Files :=
  match fs.locate path with
  | .error _ => .error (.unopened "there is no such file")
  | .ok names =>
    if fs.found? names = some .sink then .error (.unwritten "nothing can be kept there")
    else if fs.isWritable names then .ok (fs.put names (.file bytes))
    else .error (.unopened "the file cannot be written")

/-- Removes what is under these names, and everything in it. -/
def remove (fs : Files) (names : List String) : Files :=
  ⟨⟨fs.entries.entries.filter fun e => !names.isPrefixOf e.1⟩⟩

/-- The directories on the way to these names. -/
def parents (names : List String) : List (List String) :=
  (List.range names.length).tail.map fun n => names.take n

/-- The names that a path in the working directory leads to. -/
def placeOf (path : String) : List String :=
  workingDirectory ++ (path.splitOn "/").filter fun n => !n.isEmpty && n ≠ "."

/--
Puts an entry under a path in the working directory, with the directories on the way, or removes what
is there.
-/
def place (fs : Files) (path : String) (e : Option FileEntry) : Files :=
  let names := placeOf path
  if names = workingDirectory then fs
  else
    match e with
    | none => fs.remove names
    | some e =>
      ((parents names).foldl
        (fun fs p => if fs.isDirectory p then fs else fs.put p .directory) fs).put names e

end Files

end RingKeeper.Rehearsal
