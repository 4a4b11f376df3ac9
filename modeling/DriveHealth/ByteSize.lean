/-
# Sizes in bytes

A size is shown in the largest unit that it reaches, with one decimal place, a half going to the even
neighbour. It is first rounded to 53 binary digits, again with a half going to the even neighbour;
only sizes from 2^53 on are changed by that. The unit is chosen before the decimal is rounded.

Key definitions: `ByteSize.roundDiv`, `ByteSize.round53`, `ByteSize.unit?`, `ByteSize.text`.
-/

namespace DriveHealth.ByteSize

/-- The quotient to the nearest number, a half to the even one. -/
def roundDiv (n d : Nat) : Nat :=
  let q := n / d
  let r := n % d
  if 2 * r < d then q
  else if d < 2 * r then q + 1
  else if q % 2 = 0 then q else q + 1

/-- The nearest number of at most 53 binary digits followed by zeros. -/
def round53 (n : Nat) : Nat :=
  let step := 1 <<< (n.log2 - 52)
  roundDiv n step * step

/-- Units by size, the largest first. -/
def units : List (Nat × String) :=
  [(0x10000000000, "TB"), (0x40000000, "GB"), (0x100000, "MB"), (0x400, "KB")]

/-- The largest unit that `n` reaches. -/
def unit? (n : Nat) : Option (Nat × String) := units.find? fun u => u.1 ≤ n

/-- A number of tenths with its decimal point. -/
def tenths (n : Nat) : String := toString (n / 10) ++ "." ++ toString (n % 10)

def text (bytes : UInt64) : String :=
  let n := round53 bytes.toNat
  match unit? n with
  | some (unit, name) => tenths (roundDiv (n * 10) unit) ++ " " ++ name
  | none => toString n ++ " B"

end DriveHealth.ByteSize
