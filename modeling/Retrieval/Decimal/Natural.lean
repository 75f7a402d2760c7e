/-!
# Natural numbers in decimal digits

* `natural? bound text` : the number below `bound` that a text spells;
* `countBound` : the bound of counts.
-/

namespace Retrieval.Decimal

def ofDigits (digits : List Char) : Nat :=
  digits.foldl (fun n c => n * 10 + (c.toNat - '0'.toNat)) 0

/-- The number below `bound` that a text spells in decimal digits, perhaps behind a plus sign. -/
def natural? (bound : Nat) (text : String) : Option Nat :=
  let digits := match text.toList with
    | '+' :: rest => rest
    | digits => digits
  if digits.isEmpty || digits.any (!·.isDigit) then none
  else
    let n := ofDigits digits
    if n < bound then some n else none

def countBound : Nat := UInt64.size

end Retrieval.Decimal
