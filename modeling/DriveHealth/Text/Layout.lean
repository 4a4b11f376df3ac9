/-
# Lines, columns and cells

A line ends at a line feed, and a carriage return right before that line feed is part of the line end.
What follows the last line feed is a line of its own unless it is empty; a carriage return at its end
stays, because no line feed follows it.

All columns of a line but the last are tokens, runs of characters that are not blank, with a gap of
blanks after each. The last column is free text: it starts after the gap, runs to the last character
that is not blank, and holds no line feed. Where blanks alone follow the gap's first one, the last
column is the last of them that is no line feed, because a column has at least one character.

A printed cell that is shorter than its column is filled with spaces, a longer one keeps all its
characters. Widths count characters.

Key definitions: `Text.lines`, `Text.joinLines`, `Text.trim`, `Text.afterGap?`, `Text.token?`,
`Text.column?`, `Text.lastColumn?`, `Text.occursIn`, `Text.splitAtColon?`, `Text.padLeft`,
`Text.padRight`.
Key theorems: `Text.occursIn_iff`.
-/
import DriveHealth.Text.Characters

namespace DriveHealth.Text

/-! ### Lines -/

/-- A line without the carriage return at its end. -/
def dropReturn (line : List Char) : List Char :=
  if line.getLast? = some '\r' then line.dropLast else line

/-- The lines of a text whose first line starts with the characters `line`, kept last first. -/
def linesFrom (line : List Char) : List Char → List (List Char)
  | [] => if line = [] then [] else [line.reverse]
  | c :: s => if c = '\n' then dropReturn line.reverse :: linesFrom [] s else linesFrom (c :: line) s

/-- The lines of a text. -/
def lines (s : List Char) : List (List Char) := linesFrom [] s

/-- The lines with a line feed between neighbours. -/
def joinLines (ls : List String) : String := "\n".intercalate ls

/-! ### Blanks at the ends -/

/-- A text of blanks alone, the empty one included. -/
def isBlankText (s : List Char) : Bool := s.all isBlank

/-- The text without the blanks at its start. -/
def trimStart (s : List Char) : List Char := s.dropWhile isBlank

/-- The text without the blanks at its end. -/
def trimEnd (s : List Char) : List Char := (s.reverse.dropWhile isBlank).reverse

/-- The text without the blanks at either end. -/
def trim (s : List Char) : List Char := trimEnd (trimStart s)

/-- What follows a gap of one or more blanks, none where there is no gap. -/
def afterGap? : List Char → Option (List Char)
  | [] => none
  | c :: s => if isBlank c then some (trimStart s) else none

/-! ### Columns -/

/-- Splits off the token at the start. -/
def token? (s : List Char) : Option (List Char × List Char) :=
  let token := s.takeWhile fun c => !isBlank c
  if token = [] then none else some (token, s.dropWhile fun c => !isBlank c)

/-- Splits off a token of the class `accept` and the gap after it. -/
def column? (accept : List Char → Bool) (s : List Char) : Option (List Char × List Char) := do
  let (token, rest) ← token? s
  let rest ← afterGap? rest
  if accept token then some (token, rest) else none

/-- The free text at the end of a line, of which `s` starts with the gap before it. -/
def lastColumn? (s : List Char) : Option (List Char) :=
  let gap := s.takeWhile isBlank
  let text := trimEnd (s.dropWhile isBlank)
  if gap = [] then none
  else if text ≠ [] then (if '\n' ∈ text then none else some text)
  else (gap.tail.reverse.find? (· ≠ '\n')).map fun c => [c]

/-! ### Parts of a text -/

/-- `part` stands somewhere in the text. -/
def occursIn (part : List Char) : List Char → Bool
  | [] => part.isEmpty
  | c :: s => part.isPrefixOf (c :: s) || occursIn part s

theorem occursIn_iff {part : List Char} : ∀ {s : List Char}, occursIn part s = true ↔ part <:+: s
  | [] => by simp [occursIn]
  | c :: s => by
    rw [occursIn, Bool.or_eq_true, List.isPrefixOf_iff_prefix, occursIn_iff, List.infix_cons_iff]

/-- The text before the first colon and the text after it. -/
def splitAtColon? : List Char → Option (List Char × List Char)
  | [] => none
  | c :: s =>
    if c = ':' then some ([], s) else (splitAtColon? s).map fun (label, value) => (c :: label, value)

/-! ### Cells of a fixed width -/

/-- As many spaces as `s` lacks of `width` characters. -/
def fill (width : Nat) (s : String) : String := String.ofList (List.replicate (width - s.length) ' ')

/-- The cell at the right end of its column. -/
def padLeft (width : Nat) (s : String) : String := fill width s ++ s

/-- The cell at the left end of its column. -/
def padRight (width : Nat) (s : String) : String := s ++ fill width s

end DriveHealth.Text
