namespace TaskQuery

-- Powers are those of the core library, also where a library has powers of its own for monoids.
attribute [instance (high), default_instance high] instPowNat

/-- Codes from this one on denote no finite magnitude. -/
def codeBound : Nat := 2047 * 2 ^ 52

theorem codeBound_pos : 0 < codeBound := by decide

def zeroCode : Fin codeBound := ⟨0, codeBound_pos⟩

/-- The units that make one. -/
def unitsPerOne : Nat := 2 ^ 1074

/-- A binary64 number. The code of a finite one is the 63 low bits of its usual layout, eleven of exponent field over 52 of
fraction, and its magnitude is a whole number of *units* of 2⁻¹⁰⁷⁴. The two zeros differ in sign only; there is a single
not-a-number. -/
inductive Double where
  | nan
  | infinite (negative : Bool)
  | finite (negative : Bool) (code : Fin codeBound)
  deriving DecidableEq

/-- The magnitude of a code in units. -/
def codeUnits (code : Nat) : Nat :=
  let field := code / 2 ^ 52
  let fraction := code % 2 ^ 52
  if field = 0 then fraction else (2 ^ 52 + fraction) * 2 ^ (field - 1)

/-- The place of a number on the line of exact values, ends included. -/
inductive Position where
  | bottom
  | point (units : Int)
  | top
  deriving DecidableEq

namespace Position

def lt : Position → Position → Bool
  | _, bottom => false
  | bottom, _ => true
  | top, _ => false
  | point _, top => true
  | point a, point b => a < b

def le (a b : Position) : Bool :=
  a == b || a.lt b

end Position

/-- The nearest whole number to `num / den`; a half goes to the even neighbour. -/
def roundHalfEven (num den : Nat) : Nat :=
  let floor := num / den
  let rest := 2 * (num % den)
  if rest < den then floor
  else if den < rest then floor + 1
  else if floor % 2 = 0 then floor else floor + 1

namespace Double

/-- Positive zero. -/
def zero : Double := .finite false zeroCode

/-- The exact value in units, for a finite double. -/
def units? : Double → Option Int
  | .finite negative code => some (if negative then -(codeUnits code : Int) else codeUnits code)
  | _ => none

/-- The place on the line; not-a-number has none. -/
def position? : Double → Option Position
  | .nan => none
  | .infinite negative => some (if negative then .bottom else .top)
  | .finite negative code => some (.point (if negative then -(codeUnits code : Int) else codeUnits code))

/-- The double nearest to `num / den`, a tie going to the even code; beyond the largest one it is infinite.

The quotient in units keeps 53 binary digits: `shift` of them are rounded away. Codes are consecutive, so that
a carry out of the fraction moves on to the next exponent by itself. -/
def ofRatio (negative : Bool) (num den : Nat) : Double :=
  let shift := (num * unitsPerOne / den).log2 - 52
  let code := shift * 2 ^ 52 + roundHalfEven (num * unitsPerOne) (den * 2 ^ shift)
  if h : code < codeBound then .finite negative ⟨code, h⟩ else .infinite negative

def finite? : Double → Option Double
  | .finite negative code => some (.finite negative code)
  | _ => none

/-- The double nearest to an integer, if the integer is in range. -/
def ofInt? (n : Int) : Option Double :=
  (ofRatio (n < 0) n.natAbs 1).finite?

def ofBool (b : Bool) : Double :=
  if b then ofRatio false 1 1 else zero

/-- The integer that a double is equal to, if there is one. -/
def toInt? (x : Double) : Option Int :=
  x.units?.bind fun units => if units % unitsPerOne = 0 then some (units / unitsPerOne) else none

/-- Whether the double is a number, infinite ones included. -/
def isNumber (x : Double) : Bool :=
  x != .nan

/-- Whether the double is neither infinite nor not-a-number. -/
def isFinite : Double → Bool
  | .finite _ _ => true
  | _ => false

def isZero (x : Double) : Bool :=
  x.units? == some 0

end Double

example : codeUnits (1023 * 2 ^ 52) = unitsPerOne := by decide +kernel

example : Double.ofInt? (2 ^ 53 + 1) = Double.ofInt? (2 ^ 53) := by decide +kernel

end TaskQuery
