/-!
# Weights of terms in documents

Weights are computed in any numbers that counts belong to and that have a logarithm. An index keeps them as
floating-point numbers.

* `Scale` : such numbers;
* `idf` : the rarity of a term, the decimal logarithm of the share of documents that contain it, inverted;
* `Weighting.combine` : frequency and rarity in one weight;
* `rank` : an order of all floating-point values, in which a negative zero is below zero;
* `norm` : the Euclidean length of a list of weights.
-/

namespace Retrieval

/-- Numbers that weights are made of. -/
class Scale (α : Type) where
  ofCount : Nat → α
  log10 : α → α

instance : Scale Float where
  ofCount := Nat.toFloat
  log10 := Float.log10

/-- How a term frequency and a rarity make a weight. -/
inductive Weighting where
  | product
  | sum
deriving Repr, DecidableEq

namespace Weighting

def name : Weighting → String
  | .product => "Product"
  | .sum => "Sum"

/-- The weight of a term that occurs `frequency` times. -/
def combine {α : Type} [Add α] [Mul α] [Scale α] (w : Weighting) (frequency : Nat) (rarity : α) : α :=
  match w with
  | .product => Scale.ofCount frequency * rarity
  | .sum => Scale.ofCount frequency + rarity

end Weighting

namespace Weight

/-- The rarity of a term that `df` of `n` documents contain. -/
def idf {α : Type} [Div α] [Scale α] (n df : Nat) : α := Scale.log10 (Scale.ofCount n / Scale.ofCount df)

/-- The dampened frequency; zero for a term that does not occur. -/
def logFrequency (frequency : Nat) : Float :=
  if frequency = 0 then 0.0 else 1.0 + frequency.toFloat.log10

/-- The place of a value in the order of all values, from the negative to the positive ones. -/
def rank (x : Float) : Int :=
  let bits : Int := x.toBits.toNat
  if x.toBits.toNat.testBit 63 then 0x7FFFFFFFFFFFFFFF - bits else bits

/-- The Euclidean length of a list of weights, summed from the left. No weights sum to a negative zero. -/
def norm (weights : List Float) : Float :=
  (weights.foldl (fun sum w => sum + w * w) (-0.0)).sqrt

end Weight

end Retrieval
