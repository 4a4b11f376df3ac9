/-
# Texts and keys in TOML

A text stands between double quotes with escapes, or between single quotes as it is; three quotes let
it run over several lines, and then up to two quotes may stand right before the closing ones. A key is
a bare word or a text of one line, and dots join the parts of a key.

Key definitions: `Toml.basicFrom`, `Toml.literal`, `Toml.blockFrom`, `Toml.literalBlock`, `Toml.text?`,
`Toml.key?`, `Toml.dottedKey?`.
-/
import DriveHealth.Toml.Number

namespace DriveHealth.Toml

/-- What is read and the text after it. -/
abbrev Reading (α : Type) := Option (α × List Char)

/-- Puts characters in front of those read. -/
def Reading.prepend (cs : List Char) (r : Reading (List Char)) : Reading (List Char) :=
  r.map fun (text, rest) => (cs ++ text, rest)

/-! ### Characters -/

def isSpace (c : Char) : Bool := c == ' ' || c == '\t'

def skipSpaces (s : List Char) : List Char := s.dropWhile isSpace

/-- A character that may stand in texts and comments: no control character but the tab. -/
def isPlain (c : Char) : Bool := c == '\t' || (0x20 ≤ c.toNat && c.toNat ≠ 0x7F)

/-- Splits off a line end. -/
def lineEnd? : List Char → Option (List Char)
  | '\n' :: s => some s
  | '\r' :: '\n' :: s => some s
  | _ => none

/-! ### Texts with escapes -/

/-- Where the reading of a text stands. -/
inductive EscapeState
  | plain
  /-- After a backslash. -/
  | escaped
  /-- In the digits of a code point, with how many are missing and the value so far. -/
  | code (missing : Nat) (value : Nat)
  /-- After a backslash with spaces, where the line must end. -/
  | lineTail
  /-- In the blanks and line ends that a backslash at the end of a line swallows. -/
  | gap

/-- The character that a letter after a backslash stands for. -/
def shortEscape? (c : Char) : Option Char :=
  [('b', '\u0008'), ('t', '\t'), ('n', '\n'), ('f', '\u000C'), ('r', '\r'), ('"', '"'), ('\\', '\\')].lookup c

/-- One more digit of a code point: the character if it was the last one, and the state after it. -/
def codeDigit? (missing value : Nat) (c : Char) : Option (List Char × EscapeState) :=
  let value := value * 16 + hexValue c
  if !isHexDigit c then none
  else if 1 < missing then some ([], .code (missing - 1) value)
  else if value.isValidChar then some ([Char.ofNat value], .plain)
  else none

/-- One character after a backslash: what it stands for and the state after it. -/
def escape? (c : Char) : Option (List Char × EscapeState) :=
  if c = 'u' then some ([], .code 4 0)
  else if c = 'U' then some ([], .code 8 0)
  else (shortEscape? c).map fun e => ([e], .plain)

/-- The rest of a text of one line between double quotes. -/
def basicFrom : EscapeState → List Char → Reading (List Char)
  | _, [] => none
  | .plain, '"' :: s => some ([], s)
  | .plain, '\\' :: s => basicFrom .escaped s
  | .plain, c :: s => if isPlain c then (basicFrom .plain s).prepend [c] else none
  | .escaped, c :: s =>
    match escape? c with
    | some (cs, state) => (basicFrom state s).prepend cs
    | none => none
  | .code missing value, c :: s =>
    match codeDigit? missing value c with
    | some (cs, state) => (basicFrom state s).prepend cs
    | none => none
  | .lineTail, _ :: _ => none
  | .gap, _ :: _ => none

/-- One character of a text of several lines outside escapes, where a line end is a line feed. -/
def blockChar? (c : Char) : Option (List Char) := if c = '\n' ∨ isPlain c then some [c] else none

/-- The rest of a text of several lines between double quotes. -/
def blockFrom : EscapeState → List Char → Reading (List Char)
  | _, [] => none
  | .plain, '"' :: '"' :: '"' :: '"' :: '"' :: s => some (['"', '"'], s)
  | .plain, '"' :: '"' :: '"' :: '"' :: s => some (['"'], s)
  | .plain, '"' :: '"' :: '"' :: s => some ([], s)
  | .plain, '\\' :: s => blockFrom .escaped s
  | .plain, '\r' :: '\n' :: s => (blockFrom .plain s).prepend ['\n']
  | .plain, c :: s =>
    match blockChar? c with
    | some cs => (blockFrom .plain s).prepend cs
    | none => none
  | .escaped, '\r' :: '\n' :: s => blockFrom .gap s
  | .escaped, c :: s =>
    if c = '\n' then blockFrom .gap s
    else if isSpace c then blockFrom .lineTail s
    else
      match escape? c with
      | some (cs, state) => (blockFrom state s).prepend cs
      | none => none
  | .code missing value, c :: s =>
    match codeDigit? missing value c with
    | some (cs, state) => (blockFrom state s).prepend cs
    | none => none
  | .lineTail, '\r' :: '\n' :: s => blockFrom .gap s
  | .lineTail, c :: s =>
    if c = '\n' then blockFrom .gap s else if isSpace c then blockFrom .lineTail s else none
  | .gap, '\r' :: '\n' :: s => blockFrom .gap s
  | .gap, '"' :: '"' :: '"' :: '"' :: '"' :: s => some (['"', '"'], s)
  | .gap, '"' :: '"' :: '"' :: '"' :: s => some (['"'], s)
  | .gap, '"' :: '"' :: '"' :: s => some ([], s)
  | .gap, '\\' :: s => blockFrom .escaped s
  | .gap, c :: s =>
    if c = '\n' ∨ isSpace c then blockFrom .gap s
    else if isPlain c then (blockFrom .plain s).prepend [c]
    else none

/-! ### Texts as they are -/

/-- The rest of a text of one line between single quotes. -/
def literal : List Char → Reading (List Char)
  | [] => none
  | c :: s =>
    if c = '\'' then some ([], s) else if isPlain c then (literal s).prepend [c] else none

/-- The rest of a text of several lines between single quotes. -/
def literalBlock : List Char → Reading (List Char)
  | [] => none
  | '\'' :: '\'' :: '\'' :: '\'' :: '\'' :: s => some (['\'', '\''], s)
  | '\'' :: '\'' :: '\'' :: '\'' :: s => some (['\''], s)
  | '\'' :: '\'' :: '\'' :: s => some ([], s)
  | '\r' :: '\n' :: s => (literalBlock s).prepend ['\n']
  | c :: s =>
    match blockChar? c with
    | some cs => (literalBlock s).prepend cs
    | none => none

/-- A line end right after the opening quotes does not belong to the text. -/
def skipFirstLineEnd (s : List Char) : List Char := (lineEnd? s).getD s

/-- A text of any form. -/
def text? : List Char → Reading (List Char)
  | '"' :: '"' :: '"' :: s => blockFrom .plain (skipFirstLineEnd s)
  | '"' :: s => basicFrom .plain s
  | '\'' :: '\'' :: '\'' :: s => literalBlock (skipFirstLineEnd s)
  | '\'' :: s => literal s
  | _ => none

/-! ### Keys -/

def isBareKeyChar (c : Char) : Bool := c.isAlphanum || c == '_' || c == '-'

/-- One part of a key. -/
def key? : List Char → Reading (List Char)
  | '"' :: s => basicFrom .plain s
  | '\'' :: s => literal s
  | s =>
    let word := s.takeWhile isBareKeyChar
    if word = [] then none else some (word, s.dropWhile isBareKeyChar)

/-- How many parts a key may have. -/
def maxKeyParts : Nat := 79

/-- The parts of a key with dots, which spaces may surround; at most as many as `fuel`. -/
def dottedFrom : Nat → List Char → Option (List String × List Char)
  | 0, _ => none
  | fuel + 1, s => do
    let (part, s) ← key? (skipSpaces s)
    match skipSpaces s with
    | '.' :: s => do
      let (parts, s) ← dottedFrom fuel s
      some (String.ofList part :: parts, s)
    | s => some ([String.ofList part], s)

/-- The parts of a key with dots, at least one. -/
def dottedKey? (s : List Char) : Option (List String × List Char) := dottedFrom maxKeyParts s

end DriveHealth.Toml
