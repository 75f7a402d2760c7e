/-!
# Decimals with a fixed number of places

* `roundEven num den` : the quotient rounded to the nearest number, halves to the even neighbour;
* `fixed places x` : the exact value of a binary fraction, rounded so, with that many places.
-/

namespace Retrieval.Decimal

/-- The quotient rounded to the nearest natural number, a half going to the even neighbour. -/
def roundEven (num den : Nat) : Nat :=
  let q := num / den
  match compare (2 * (num % den)) den with
  | .lt => q
  | .gt => q + 1
  | .eq => if q % 2 = 0 then q else q + 1

/-- Numerator and denominator of the magnitude of a finite value. -/
def magnitude (x : Float) : Nat × Nat :=
  let bits := x.toBits.toNat
  let exponent := bits / Nat.pow 2 52 % Nat.pow 2 11
  let fraction := bits % Nat.pow 2 52
  if exponent = 0 then (fraction, Nat.pow 2 1074)
  else ((Nat.pow 2 52 + fraction) * Nat.pow 2 (exponent - 1075), Nat.pow 2 (1075 - exponent))

/-- Whether the sign bit is set, as it is in a negative zero. -/
def signed (x : Float) : Bool := x.toBits.toNat.testBit 63

/-- A natural number with leading zeros up to `width` digits. -/
def padded (width n : Nat) : String :=
  let digits := Nat.toDigits 10 n
  .ofList (List.replicate (width - digits.length) '0' ++ digits)

/-- The value with `places ≥ 1` digits behind the point; the sign bit is shown even of a zero. -/
def fixed (places : Nat) (x : Float) : String :=
  if x.isNaN then "NaN"
  else if x.isInf then (if signed x then "-inf" else "inf")
  else
    let (num, den) := magnitude x
    let scaled := roundEven (num * Nat.pow 10 places) den
    (if signed x then "-" else "") ++ toString (scaled / Nat.pow 10 places) ++ "." ++
      padded places (scaled % Nat.pow 10 places)

end Retrieval.Decimal
