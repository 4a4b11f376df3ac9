/-
# Monitors shown for diagnostics

The settings of a monitor, and the kind of output that it keeps, with each text between double quotes.
In such a text no character can be mistaken: the quote, the backslash, the usual control characters and
NUL have short forms, and a character that does not show by itself is written by its code point.

Key definitions: `Text.quote`, `Text.quoteOption`, `Monitor.display`.
-/
import DriveHealth.Monitor.Session

namespace DriveHealth

/-! ### Quoted text -/

namespace Text

/-- One character inside quotes. -/
def quoteChar (c : Char) : List Char :=
  if c = '"' then ['\\', '"']
  else if c = '\\' then ['\\', '\\']
  else if c = '\n' then ['\\', 'n']
  else if c = '\r' then ['\\', 'r']
  else if c = '\t' then ['\\', 't']
  else if c = '\x00' then ['\\', '0']
  else if isAttached c || isHidden c then
    "\\u\x7b".toList ++ Nat.toDigits 16 c.toNat ++ "\x7d".toList
  else [c]

/-- The text between quotes. -/
def quote (s : String) : String := String.ofList ('"' :: s.toList.flatMap quoteChar ++ ['"'])

/-- A text that may be missing. -/
def quoteOption : Option String → String
  | none => "None"
  | some s => "Some(" ++ quote s ++ ")"

end Text

/-! ### Monitors -/

def Device.display (d : Device) : String :=
  "DeviceHandle \x7b path: " ++ Text.quote d.path ++ ", device_type: " ++ Text.quoteOption d.typeHint
    ++ ", size_bytes: " ++ toString d.size.toNat ++ " \x7d"

def Cache.display (c : Cache) : String :=
  match c.kind? with
  | none => "None"
  | some .default => "Some(Default)"
  | some .all => "Some(All)"

/-- The settings and the kind of output that is kept. -/
def Monitor.display (m : Monitor) (kept : Cache) : String :=
  "SmartDevice \x7b device: " ++ m.device.display ++ ", smartctl: " ++ Text.quote m.program
    ++ ", nocheck: " ++ Text.quoteOption m.nocheck ++ ", cached: " ++ kept.display ++ " \x7d"

end DriveHealth
