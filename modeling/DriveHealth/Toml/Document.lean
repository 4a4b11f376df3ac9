/-
# TOML documents

A document is a list of lines: pairs of a key and a value, and headers that name the table for the
pairs after them. Values nest up to a fixed depth.

Key definitions: `Toml.value?`, `Toml.pair?`, `Toml.header?`, `Toml.parse?`.
-/
import DriveHealth.Toml.Node
import DriveHealth.Toml.Quoted

namespace DriveHealth.Toml

/-! ### Blanks between values -/

/-- Splits off a comment, which runs up to the line end. -/
def skipComment? : List Char → Option (List Char)
  | '#' :: s => some (s.dropWhile isPlain)
  | _ => none

/-- Skips spaces, line ends and comments that a line end follows; `fuel` bounds the lines. -/
def skipLines : Nat → List Char → List Char
  | 0, s => s
  | fuel + 1, s =>
    let s := skipSpaces s
    match lineEnd? ((skipComment? s).getD s) with
    | some rest => skipLines fuel rest
    | none => s

/-- Skips spaces and a comment, and splits off the line end or the end of the text. -/
def lineRest? (s : List Char) : Option (List Char) :=
  let s := skipSpaces s
  let s := (skipComment? s).getD s
  if s = [] then some [] else lineEnd? s

/-! ### Values -/

/-- A character of a number, truth value, date or time. -/
def isWordChar (c : Char) : Bool :=
  c.isAlphanum || c == '_' || c == '+' || c == '-' || c == '.' || c == ':'

/-- A number, truth value, date or time; a space may separate a date from its time. -/
def scalar? (s : List Char) : Reading Node :=
  let word := s.takeWhile isWordChar
  let rest := s.dropWhile isWordChar
  match Moment.ofWord? word, rest with
  | some (.date d), ' ' :: c :: more =>
    if c.isDigit then
      let time := (c :: more).takeWhile isWordChar
      (Moment.ofDateTime? d time).map fun m => (.moment m, (c :: more).dropWhile isWordChar)
    else some (.moment (.date d), rest)
  | some m, _ => some (.moment m, rest)
  | none, _ => if isScalar word then some (.scalar, rest) else none

/-- How deep values nest. -/
def maxDepth : Nat := 79

/-- Splits the last part off a key. -/
def splitKey? (parts : List String) : Option (List String × String) :=
  parts.getLast?.map fun key => (parts.dropLast, key)

mutual

/-- A value; `depth` counts the brackets and braces that may still open, `fuel` bounds the reading. -/
def valueFrom : Nat → Nat → List Char → Reading Node
  | 0, _, _ => none
  | fuel + 1, depth, s =>
    match s with
    | '[' :: rest => if depth = 0 then none else itemsFrom fuel (depth - 1) [] rest
    | '\x7b' :: rest =>
      if depth = 0 then none
      else
        match skipSpaces rest with
        | '\x7d' :: rest => some (.table .inline [], rest)
        | rest => fieldsFrom fuel (depth - 1) [] rest
    | s =>
      match text? s with
      | some (text, rest) => some (.text (String.ofList text), rest)
      | none => scalar? s

/-- The items of an array after those given last first, and its closing bracket. -/
def itemsFrom : Nat → Nat → List Node → List Char → Reading Node
  | 0, _, _, _ => none
  | fuel + 1, depth, items, s =>
    match skipLines s.length s with
    | ']' :: rest => some (.list items.reverse, rest)
    | s =>
      match valueFrom fuel depth s with
      | none => none
      | some (item, s) =>
        match skipLines s.length s with
        | ',' :: rest => itemsFrom fuel depth (item :: items) rest
        | ']' :: rest => some (.list (item :: items).reverse, rest)
        | _ => none

/-- The pairs between braces after those given last first, and the closing brace. -/
def fieldsFrom : Nat → Nat → List Pair → List Char → Reading Node
  | 0, _, _, _ => none
  | fuel + 1, depth, pairs, s =>
    match dottedKey? s with
    | some (parts, '=' :: s) =>
      match splitKey? parts, valueFrom fuel depth (skipSpaces s) with
      | some (path, key), some (node, s) =>
        let pairs := ⟨path, key, node⟩ :: pairs
        match skipSpaces s with
        | ',' :: rest => fieldsFrom fuel depth pairs rest
        | '\x7d' :: rest => (putAll pairs.reverse []).map fun entries => (.table .inline entries, rest)
        | _ => none
      | _, _ => none
    | _ => none

end

/-- A value at the start of a text. Every third step of the reading takes a character away at least. -/
def value? (s : List Char) : Reading Node := valueFrom (3 * s.length + 3) maxDepth s

/-! ### Lines -/

/-- A pair with the rest of its line. -/
def pair? (s : List Char) : Option (Pair × List Char) := do
  let (parts, s) ← dottedKey? s
  let s ← ['='].isPrefixOf? s
  let (node, s) ← value? (skipSpaces s)
  let (path, key) ← splitKey? parts
  let s ← lineRest? s
  some (⟨path, key, node⟩, s)

/-- A header: the parts of its key and whether it stands in double brackets. -/
structure Header where
  path : List String
  key : String
  isItem : Bool

/-- A header with the rest of its line. -/
def header? (s : List Char) : Option (Header × List Char) := do
  let (isItem, s) ← match s with
    | '[' :: '[' :: s => some (true, s)
    | '[' :: s => some (false, s)
    | _ => none
  let (parts, s) ← dottedKey? s
  let s ← (if isItem then [']', ']'] else [']']).isPrefixOf? s
  let (path, key) ← splitKey? parts
  let s ← lineRest? s
  some (⟨path, key, isItem⟩, s)

/-- The pairs up to the next header, and the text from that header on; `fuel` bounds the pairs. -/
def pairsFrom : Nat → List Char → Reading (List Pair)
  | 0, _ => none
  | fuel + 1, s =>
    match skipLines s.length s with
    | [] => some ([], [])
    | '[' :: s => some ([], '[' :: s)
    | '#' :: s => if s.all isPlain then some ([], []) else none
    | s =>
      match pair? s with
      | none => none
      | some (pair, s) => (pairsFrom fuel s).map fun (pairs, rest) => (pair :: pairs, rest)

/-- Adds the tables of all headers to the entries; `fuel` bounds the headers. -/
def sectionsFrom : Nat → Entries → List Char → Option Entries
  | _, entries, [] => some entries
  | 0, _, _ => none
  | fuel + 1, entries, s => do
    let (header, s) ← header? s
    let (pairs, s) ← pairsFrom (s.length + 1) s
    let add := if header.isItem then addTableItem else addTable
    let entries ← add header.path header.key pairs entries
    sectionsFrom fuel entries s

/-- The entries of a document, none if it is not TOML. A byte order mark may precede it. -/
def parse? (text : String) : Option Entries := do
  let s := match text.toList with
    | '\uFEFF' :: s => s
    | s => s
  let (pairs, s) ← pairsFrom (s.length + 1) s
  let entries ← putAll pairs []
  sectionsFrom (s.length + 1) entries s

end DriveHealth.Toml
