/-!
# Digits

* `digit? c` : the value of a digit, up to hexadecimal;
* `value? base digits` : the number that digits spell.
-/

namespace Retrieval.Text

def digit? (c : Char) : Option Nat :=
  let n := c.toNat
  if 0x30 ≤ n ∧ n ≤ 0x39 then some (n - 0x30)
  else if 0x41 ≤ n ∧ n ≤ 0x46 then some (n - 0x41 + 10)
  else if 0x61 ≤ n ∧ n ≤ 0x66 then some (n - 0x61 + 10)
  else none

def value? (base : Nat) (digits : List Char) : Option Nat :=
  digits.foldlM (fun n c => (digit? c).bind fun d => if d < base then some (n * base + d) else none) 0

end Retrieval.Text
