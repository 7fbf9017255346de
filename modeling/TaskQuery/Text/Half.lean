namespace TaskQuery.Text

/-- The distance of a half from the character in its place. -/
def halfShift : Nat := 0x100000

/-- Whether a unit of sixteen bits is half of a pair. -/
def isHalf (unit : Nat) : Bool :=
  0xD800 ≤ unit && unit < 0xE000

/-- The character of a unit of sixteen bits. In place of half a pair, which is none, stands a character of the last private
plane; it equals no other character, has no case and no visible form, and cannot be written. -/
def ofUnit (unit : Nat) : Char :=
  Char.ofNat (if isHalf unit then unit + halfShift else unit)

/-- The half that a character stands for. -/
def half? (c : Char) : Option Nat :=
  if halfShift ≤ c.toNat ∧ isHalf (c.toNat - halfShift) then some (c.toNat - halfShift) else none

def hasHalf (s : String) : Bool :=
  s.toList.any fun c => (half? c).isSome

example : half? (ofUnit 0xD83D) = some 0xD83D := by decide

example : half? (ofUnit 0xFFFD) = none := by decide

end TaskQuery.Text
