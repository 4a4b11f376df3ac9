/-
# Devices and the files that name them

A device is named by its path. A hint tells smartctl which protocol the device speaks.

Paths lead through a small tree of directories and text files, in which they are followed as an
operating system does: empty parts and single dots stay where they are, two dots go up, and every part
but the last must be a directory. Paths and the names in them have a greatest length, which is counted
in bytes.

Key definitions: `Device`, `Device.name`, `Device.sizeOfSectors`, `FileTree`, `FileTree.find`,
`FileTree.read`, `FileTree.kernelName`.
-/
import DriveHealth.Numeral

namespace DriveHealth

/-! ### Devices -/

structure Device where
  path : String
  typeHint : Option String
  /-- In bytes, zero when unknown. -/
  size : UInt64
  deriving DecidableEq, Repr

namespace Device

/-- The part of a path after its last slash. -/
def lastPart (path : String) : String :=
  String.ofList (path.toList.reverse.takeWhile (· ≠ '/')).reverse

/-- The device's name without the directories before it. -/
def name (d : Device) : String := lastPart d.path

/-- The size of a device from the text that counts its sectors of 512 bytes, zero when the text is no
such count or the size exceeds 64 bits. -/
def sizeOfSectors (text : String) : UInt64 :=
  match Numeral.read? (Numeral.max64 / 512) (Text.trim text.toList) with
  | some sectors => UInt64.ofNat (sectors * 512)
  | none => 0

end Device

/-! ### Files by path -/

/-- Why a path gives no text. -/
inductive PathError
  | missing
  | notDirectory
  | isDirectory
  | nameTooLong
  deriving DecidableEq, Repr

def PathError.message : PathError → String
  | missing => "No such file or directory (os error 2)"
  | notDirectory => "Not a directory (os error 20)"
  | isDirectory => "Is a directory (os error 21)"
  | nameTooLong => "File name too long (os error 36)"

inductive FileNode
  | directory
  | file (text : String)
  deriving DecidableEq, Repr

/-- The nodes below the root by the names on the way to them. -/
structure FileTree where
  nodes : List (List String × FileNode)

namespace FileTree

/-- The root is a directory in every tree. -/
def node? (t : FileTree) : List String → Option FileNode
  | [] => some .directory
  | way => t.nodes.lookup way

/-- The parts between slashes, the characters before the first slash given last first. -/
def partsFrom (part : List Char) : List Char → List (List Char)
  | [] => [part.reverse]
  | c :: s => if c = '/' then part.reverse :: partsFrom [] s else partsFrom (c :: part) s

def parts (path : String) : List String := (partsFrom [] path.toList).map String.ofList

/-- The bytes that a name may have. -/
def maxNameSize : Nat := 255

/-- The bytes that a path may have. -/
def maxPathSize : Nat := 4095

/-- Follows the parts of a path from the node at the end of `way`. -/
def follow (t : FileTree) : List String → List String → Except PathError (List String)
  | way, [] => if (t.node? way).isSome then .ok way else .error .missing
  | way, part :: rest =>
    match t.node? way with
    | none => .error .missing
    | some (.file _) => .error .notDirectory
    | some .directory =>
      if part = "" ∨ part = "." then follow t way rest
      else if part = ".." then follow t way.dropLast rest
      else if maxNameSize < part.utf8ByteSize then .error .nameTooLong
      else follow t (way ++ [part]) rest

/-- The names on the way from the root to what the path names; `here` is the working directory. -/
def find (t : FileTree) (here : List String) (path : String) : Except PathError (List String) :=
  if path = "" then .error .missing
  else if maxPathSize < path.utf8ByteSize then .error .nameTooLong
  else if path.toList.head? = some '/' then follow t [] (parts path)
  else follow t here (parts path)

/-- The text of the file that the path names. -/
def read (t : FileTree) (here : List String) (path : String) : Except PathError String := do
  let way ← t.find here path
  match t.node? way with
  | some (.file text) => .ok text
  | some .directory => .error .isDirectory
  | none => .error .missing

/-- The name under which the system knows a device: the last name on the way to it, or the last part of
its path when the path leads nowhere or to the root. -/
def kernelName (t : FileTree) (here : List String) (d : Device) : String :=
  match t.find here d.path with
  | .ok way => way.getLast?.getD d.name
  | .error _ => d.name

end FileTree

end DriveHealth
