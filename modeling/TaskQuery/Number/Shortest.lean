import TaskQuery.Number.Decimal

namespace TaskQuery

/-- The number of decimal digits of `n`; zero has one. -/
def decimalLength (n : Nat) : Nat :=
  (Nat.toDigits 10 n).length

/-- The exponent of the leading decimal digit of `num / den`, for a positive quotient that is no power of ten
below one. -/
def leadingExponent (num den : Nat) : Int :=
  if den ≤ num then decimalLength (num / den) - 1 else -(decimalLength (den / num) : Int)

/-- Of the two neighbours `low` and `low + 1` of `num / den` the ones accepted, nearest first; on a tie the even
one comes first. -/
def nearestFirst (num den low : Nat) : List Nat :=
  let rest := 2 * (num - low * den)
  if rest < den ∨ (rest = den ∧ low % 2 = 0) then [low, low + 1] else [low + 1, low]

/-- The neighbours of a magnitude on the grid of `10 ^ exponent`. -/
def gridNeighbours (negative : Bool) (num den : Nat) (exponent : Int) : List Decimal :=
  let num := num * 10 ^ (-exponent).toNat
  let den := den * 10 ^ exponent.toNat
  (nearestFirst num den (num / den)).map fun coefficient => { negative, coefficient, exponent }

/-- The exact value of a code as a decimal number: a unit is `5 ^ 1074 / 10 ^ 1074`. -/
def exactDecimal (negative : Bool) (code : Nat) : Decimal :=
  { negative, coefficient := codeUnits code * 5 ^ 1074, exponent := -1074 }

/-- The shortest decimal number that reads back as the finite double with this code. Of the grids of one digit, two, and so
on up to seventeen, the first counts on which a neighbour reads back; the nearer one comes first. -/
def shortestDecimal (negative : Bool) (code : Fin codeBound) : Decimal :=
  let units := codeUnits code
  let top := leadingExponent units unitsPerOne
  let candidates := (List.range 17).flatMap fun (digits : Nat) => gridNeighbours negative units unitsPerOne (top - digits)
  (candidates.find? fun d => d.toDouble = .finite negative code).getD (exactDecimal negative code)

/-- Drops factors of ten from the coefficient, at most `fuel` of them. -/
def dropTens : (fuel : Nat) → (coefficient : Nat) → (exponent : Int) → Nat × Int
  | 0, coefficient, exponent => (coefficient, exponent)
  | fuel + 1, coefficient, exponent =>
    if coefficient % 10 = 0 then dropTens fuel (coefficient / 10) (exponent + 1) else (coefficient, exponent)

/-- An exponent with its sign and at least two digits. -/
def exponentText (exponent : Int) : List Char :=
  let digits := Nat.toDigits 10 exponent.natAbs
  (if exponent < 0 then '-' else '+') :: (if digits.length < 2 then '0' :: digits else digits)

/-- The digits `digits`, the first of which counts `10 ^ leading`, with a point among or behind them for exponents from -4 to
15, and with an exponent otherwise. -/
def layOut (digits : List Char) (leading : Int) : List Char :=
  if leading < -4 ∨ 16 ≤ leading then
    let body :=
      match digits with
      | [] => []
      | [d] => [d]
      | d :: rest => d :: '.' :: rest
    body ++ 'e' :: exponentText leading
  else if leading < 0 then
    '0' :: '.' :: (List.replicate (-leading - 1).toNat '0' ++ digits)
  else
    let whole := leading.toNat + 1
    if digits.length ≤ whole then digits ++ List.replicate (whole - digits.length) '0' ++ ['.', '0']
    else digits.take whole ++ '.' :: digits.drop whole

namespace Double

/-- The magnitude of a finite double in its shortest text. -/
def magnitudeText (code : Fin codeBound) : List Char :=
  if code.val = 0 then ['0', '.', '0']
  else
    let d := shortestDecimal false code
    let (coefficient, exponent) := dropTens 400 d.coefficient d.exponent
    let digits := Nat.toDigits 10 coefficient
    layOut digits (exponent + digits.length - 1)

def display : Double → String
  | .nan => "nan"
  | .infinite negative => if negative then "-inf" else "inf"
  | .finite negative code => String.ofList (if negative then '-' :: magnitudeText code else magnitudeText code)

end Double

end TaskQuery
