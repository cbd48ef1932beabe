/-
The files that a command may use: those of its working directory, and standard
input.

A path that is the name of something is found at once. Any other is followed one
component after the other, and each of them has to start from a directory. Outside
the working directory nothing is found but what is named and the null device, and
what is written there is not kept.
-/

import FramedEvents.Io

namespace FramedEvents

structure Workspace where
  /-- Files by their names, seen from the working directory. -/
  files : List (String × Bytes) := []
  directories : List String := []
  /-- Paths that the system refuses to open, and why. -/
  refused : List (String × IoError) := []
  standardInput : Bytes := []
  deriving DecidableEq

/-! ### Failures -/

namespace IoError

def notFound : IoError := ⟨.notFound, some "No such file or directory (os error 2)"⟩

def notADirectory : IoError := ⟨.other, some "Not a directory (os error 20)"⟩

def isADirectory : IoError := ⟨.isADirectory, some "Is a directory (os error 21)"⟩

def nulInName : IoError := ⟨.invalidInput, some "file name contained an unexpected NUL byte"⟩

def nameTooLong : IoError := ⟨.other, some "File name too long (os error 36)"⟩

end IoError

/-! ### Paths -/

inductive Place where
  | directory (components : List String)
  | outside
  | file (name : String)
  | nullDevice
  /-- Nothing, though there could be a file of this name. -/
  | absent (name : String)
  | absentOutside
  deriving DecidableEq

namespace Workspace

def nameOf (components : List String) : String := String.intercalate "/" components

def isDirectory (workspace : Workspace) (name : String) : Bool :=
  workspace.directories.contains name ||
    (workspace.directories ++ workspace.files.map Prod.fst).any fun held =>
      held.startsWith (name ++ "/")

def child (workspace : Workspace) (components : List String) : Place :=
  let name := nameOf components
  if (workspace.files.lookup name).isSome then .file name
  else if workspace.isDirectory name then .directory components
  else .absent name

def longestName : Nat := 255

def longestPath : Nat := 4095

def enter (workspace : Workspace) (place : Place) (component : String) : Except IoError Place :=
  match place with
  | .absent _ | .absentOutside => .error .notFound
  | .file _ | .nullDevice => .error .notADirectory
  | .outside =>
      if component = "" ∨ component = "." ∨ component = ".." then .ok .outside
      else if component.utf8ByteSize > longestName then .error .nameTooLong
      else .ok .absentOutside
  | .directory components =>
      if component = "" ∨ component = "." then .ok (.directory components)
      else if component = ".." then
        .ok (if components = [] then .outside else .directory components.dropLast)
      else if component.utf8ByteSize > longestName then .error .nameTooLong
      else .ok (workspace.child (components ++ [component]))

def named? (workspace : Workspace) (path : String) : Option (Except IoError Place) :=
  match workspace.refused.lookup path with
  | some error => some (.error error)
  | none =>
      if (workspace.files.lookup path).isSome then some (.ok (.file path))
      else if workspace.directories.contains path then some (.ok (.directory [path]))
      else if path = "/dev/null" then some (.ok .nullDevice)
      else none

def checkPath (path : String) : Except IoError Unit :=
  if path.contains '\x00' then .error .nulInName
  else if path.utf8ByteSize > longestPath then .error .nameTooLong
  else .ok ()

def follow (workspace : Workspace) (path : String) : Except IoError Place := do
  checkPath path
  let start : Place := if path.startsWith "/" then .outside else .directory []
  (workspace.named? path).getD ((path.splitOn "/").foldlM workspace.enter start)

/-! ### Reading -/

/-- Something that has been opened. Directories can be opened but not read. -/
inductive Handle where
  | standardInput
  | file (name : String)
  | nullDevice
  | directory
  deriving DecidableEq

def openPath (workspace : Workspace) (path : String) : Except IoError Handle := do
  match ← workspace.follow path with
  | .file name => return .file name
  | .nullDevice => return .nullDevice
  | .absent _ | .absentOutside => throw .notFound
  | .directory _ | .outside => return .directory

def contents (workspace : Workspace) : Handle → Except IoError Bytes
  | .standardInput => .ok workspace.standardInput
  | .file name => .ok ((workspace.files.lookup name).getD [])
  | .nullDevice => .ok []
  | .directory => .error .isADirectory

def pieces (size : Nat) (bytes : Bytes) : List Bytes :=
  if size = 0 ∨ bytes = [] then []
  else bytes.take size :: pieces size (bytes.drop size)
termination_by bytes.length
decreasing_by
  have := List.length_pos_iff.mpr (show bytes ≠ [] by simp_all)
  simp only [List.length_drop]
  omega

/-- How far standard input is read ahead for reads of less than that. -/
def readAhead : Nat := 8192

def script (workspace : Workspace) (handle : Handle) (room : Nat) : ReadScript :=
  match workspace.contents handle with
  | .error error => [.fail error]
  | .ok bytes =>
      if handle = .standardInput ∧ room < readAhead then (pieces readAhead bytes).map .data
      else [.data bytes]

/-! ### Writing -/

def write (workspace : Workspace) (name : String) (bytes : Bytes) : Workspace :=
  { workspace with files := (name, bytes) :: workspace.files.filter (·.1 != name) }

/-- The directory in which a path with slashes at its end would be. -/
def parentOf (path : String) : String :=
  nameOf (((path.dropEndWhile '/').toString.splitOn "/").dropLast ++ ["."])

/-- Makes a path an empty file. The answer is the file's name, if the file is in
the working directory. A path that ends with a slash can only be a directory. -/
def create (workspace : Workspace) (path : String) :
    Except IoError (Option String × Workspace) := do
  checkPath path
  if path.endsWith "/" then
    let _ ← workspace.follow (parentOf path)
    throw .isADirectory
  match ← workspace.follow path with
  | .file name | .absent name => return (some name, workspace.write name [])
  | .nullDevice | .absentOutside => return (none, workspace)
  | .directory _ | .outside => throw .isADirectory

end Workspace

end FramedEvents
