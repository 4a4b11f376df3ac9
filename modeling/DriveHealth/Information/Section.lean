/-
# Information about a drive

Values under keys, in the order in which the keys came first. A later value of a key takes the place of
the earlier one.

The information section of an output starts after the first line that holds its start marker and ends
before the next line that holds a marker of the data section. Each of its lines that has a colon is an
entry: the label before the colon, small and without spaces, is the key and the text after it is the
value.

Key definitions: `Information`, `Information.get?`, `Information.insert`, `Information.ofList`,
`Information.sectionLines`, `Information.normalize`, `Information.entry?`, `Information.promote`,
`Information.ofLines`.
-/
import DriveHealth.Text.Layout
import DriveHealth.Text.Lower

namespace DriveHealth

structure Information where
  entries : List (String × String)
  deriving DecidableEq, Repr, Inhabited

namespace Information

def empty : Information := ⟨[]⟩

/-- The value of the first entry with this key. -/
def get? (info : Information) (key : String) : Option String := info.entries.lookup key

def contains (info : Information) (key : String) : Bool := info.entries.any fun e => e.1 == key

def size (info : Information) : Nat := info.entries.length

def isEmpty (info : Information) : Bool := info.entries.isEmpty

/-- Puts the value in the place of the key's first entry, else at the end. -/
def insertEntry (key value : String) : List (String × String) → List (String × String)
  | [] => [(key, value)]
  | (k, v) :: rest => if k = key then (k, value) :: rest else (k, v) :: insertEntry key value rest

def insert (info : Information) (key value : String) : Information :=
  ⟨insertEntry key value info.entries⟩

/-- Inserts the pairs in their order. -/
def insertAll (info : Information) (pairs : List (String × String)) : Information :=
  pairs.foldl (fun m (k, v) => m.insert k v) info

/-- The map that the inserts make of the empty one. -/
def ofList (pairs : List (String × String)) : Information := empty.insertAll pairs

/-! ### The section -/

open Text

def startMarker : String := "=== START OF INFORMATION SECTION ==="

/-- Either of them ends the section. -/
def dataMarkers : List String :=
  ["=== START OF READ SMART DATA SECTION ===", "=== START OF SMART DATA SECTION ==="]

def startsSection (line : String) : Bool := occursIn startMarker.toList line.toList

def startsData (line : String) : Bool := dataMarkers.any fun m => occursIn m.toList line.toList

/-- The lines of the section, none when no line starts it. -/
def sectionLines (lines : List String) : List String :=
  ((lines.dropWhile fun l => !startsSection l).drop 1).takeWhile fun l => !startsData l

/-- The label in small letters and without spaces; other blanks inside it stay. -/
def normalize (label : List Char) : List Char := lower (label.filter (· ≠ ' '))

/-- The key and the value on a line; no entry without a colon or with an empty key. -/
def entry? (line : String) : Option (String × String) :=
  match splitAtColon? line.toList with
  | none => none
  | some (label, value) =>
    let key := normalize (trim label)
    if key = [] then none else some (String.ofList key, String.ofList (trim value))

/-- Newer keys and the older keys that they stand for. -/
def aliases : List (String × String) := [("modelnumber", "devicemodel")]

/-- Fills an older key that is missing or empty from its newer one. -/
def promote (info : Information) : Information :=
  aliases.foldl
    (fun m (newer, older) =>
      match m.get? newer with
      | none => m
      | some value => if (m.get? older).getD "" = "" then m.insert older value else m)
    info

/-- The information that the lines hold. -/
def ofLines (lines : List String) : Information :=
  promote (ofList ((sectionLines lines).filterMap entry?))

end Information

end DriveHealth
