/-
# JSON

Values and two ways of writing them: in one line without spaces, or with a line for each item. In a
text only the quote, the backslash and the control characters below the space are escaped.

Key definitions: `Json`, `Json.compact`, `Json.pretty`, `Json.sortKeys`.
-/

namespace DriveHealth

inductive Json
  | null
  | bool (b : Bool)
  | int (n : Int)
  | text (s : String)
  | array (items : List Json)
  | object (fields : List (String × Json))

namespace Json

def nat (n : Nat) : Json := .int n

/-- A value that may be missing. -/
def ofOption {α : Type} (f : α → Json) : Option α → Json
  | none => null
  | some a => f a

/-! ### Texts -/

/-- One character inside quotes. -/
def escapeChar (c : Char) : List Char :=
  if c = '"' then ['\\', '"']
  else if c = '\\' then ['\\', '\\']
  else if c = '\u0008' then ['\\', 'b']
  else if c = '\u000C' then ['\\', 'f']
  else if c = '\n' then ['\\', 'n']
  else if c = '\r' then ['\\', 'r']
  else if c = '\t' then ['\\', 't']
  else if c.toNat < 0x20 then
    ['\\', 'u', '0', '0', Nat.digitChar (c.toNat / 16), Nat.digitChar (c.toNat % 16)]
  else [c]

def quote (s : String) : List Char := '"' :: s.toList.flatMap escapeChar ++ ['"']

/-! ### In one line -/

mutual

/-- The characters of a value without spaces. -/
def write : Json → List Char
  | null => "null".toList
  | bool b => (if b then "true" else "false").toList
  | int n => (toString n).toList
  | text s => quote s
  | array items => '[' :: writeItems items
  | object fields => '\x7b' :: writeFields fields

/-- The items of an array, the first of them without a comma, and the closing bracket. -/
def writeItems : List Json → List Char
  | [] => [']']
  | [item] => write item ++ [']']
  | item :: next :: rest => write item ++ ',' :: writeItems (next :: rest)

/-- The fields of an object and the closing brace. -/
def writeFields : List (String × Json) → List Char
  | [] => ['\x7d']
  | [(key, value)] => quote key ++ ':' :: write value ++ ['\x7d']
  | (key, value) :: next :: rest => quote key ++ ':' :: write value ++ ',' :: writeFields (next :: rest)

end

def compact (j : Json) : String := String.ofList j.write

/-! ### With a line for each item -/

/-- A line break and the indentation of the given depth. -/
def newline (depth : Nat) : List Char := '\n' :: List.replicate (2 * depth) ' '

mutual

/-- The characters of a value, its inner lines two spaces deeper than `depth`. -/
def lay (depth : Nat) : Json → List Char
  | null => "null".toList
  | bool b => (if b then "true" else "false").toList
  | int n => (toString n).toList
  | text s => quote s
  | array [] => ['[', ']']
  | array (item :: rest) => '[' :: newline (depth + 1) ++ layItems depth (item :: rest)
  | object [] => ['\x7b', '\x7d']
  | object (field :: rest) => '\x7b' :: newline (depth + 1) ++ layFields depth (field :: rest)

def layItems (depth : Nat) : List Json → List Char
  | [] => []
  | [item] => lay (depth + 1) item ++ newline depth ++ [']']
  | item :: next :: rest =>
    lay (depth + 1) item ++ ',' :: newline (depth + 1) ++ layItems depth (next :: rest)

def layFields (depth : Nat) : List (String × Json) → List Char
  | [] => []
  | [(key, value)] => quote key ++ ':' :: ' ' :: lay (depth + 1) value ++ newline depth ++ ['\x7d']
  | (key, value) :: next :: rest =>
    quote key ++ ':' :: ' ' :: lay (depth + 1) value ++ ',' :: newline (depth + 1)
      ++ layFields depth (next :: rest)

end

def pretty (j : Json) : String := String.ofList (j.lay 0)

/-! ### Order of keys -/

mutual

/-- The value with the fields of every object in the order of their keys. -/
def sortKeys : Json → Json
  | array items => array (sortItems items)
  | object fields => object ((sortFields fields).mergeSort fun a b => a.1 ≤ b.1)
  | null => null
  | bool b => bool b
  | int n => int n
  | text s => text s

def sortItems : List Json → List Json
  | [] => []
  | item :: rest => sortKeys item :: sortItems rest

def sortFields : List (String × Json) → List (String × Json)
  | [] => []
  | (key, value) :: rest => (key, sortKeys value) :: sortFields rest

end

end Json

end DriveHealth
