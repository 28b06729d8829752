/-!
# Association scores

How strongly a head and a collocate attract each other is computed from how often they were seen
together, how often each of them was seen, and how many tokens there are.  Where a denominator would be
zero the score is zero.  The marginals are added up in words of 64 bits: where the sum is too large for a
word, `checked` says that the program stops, and `of` has what a sum that wraps around gives.
-/

namespace Collocation

/-- A double by its bits, which tell undefined values apart, too. -/
@[ext]
structure Double where
  /-- The sign bit, the exponent and the significand. -/
  bits : UInt64
  deriving DecidableEq, Repr

namespace Double

/-- The double of a computed number. -/
def ofFloat (value : Float) : Double :=
  ⟨value.toBits⟩

/-- The double to compute with. -/
def toFloat (value : Double) : Float :=
  .ofBits value.bits

/-- The place of a double among all doubles: below zero for a set sign bit, and in the order of the
magnitudes otherwise; the undefined values stand outside the infinities. -/
def totalPlace (value : Double) : Int :=
  let bits : Int := value.bits.toNat
  if bits < 0x8000000000000000 then bits else 0x7fffffffffffffff - bits

end Double

/-- Why there are no scores: a sum is too large for a word, and the program stops. -/
inductive Overflow where
  /-- The sum of the marginals. -/
  | overflow
  deriving DecidableEq, Repr

/-- The scores of a pairing. -/
structure Association where
  /-- The Dice coefficient on a logarithmic scale that ends at fourteen. -/
  logDice : Double
  /-- The pointwise mutual information. -/
  mutualInformation : Double
  /-- The distance from the expected frequency in units of the standard deviation. -/
  tScore : Double
  deriving DecidableEq, Repr

namespace Association

/-- The upper end of the scale of logDice. -/
def logDiceMax : Float := 14

/-- The larger of two numbers; an undefined value gives way to the other one. -/
def larger (left right : Float) : Float :=
  if left.isNaN then right else if right.isNaN then left else if left < right then right else left

/-- The Dice coefficient `2 · joint / (head + collocate)` on a logarithmic scale, at least zero. -/
def logDiceOf (joint head collocate : UInt64) : Float :=
  let whole := head + collocate
  if whole = 0 ∨ joint = 0 then 0
  else larger (logDiceMax + (2 * joint.toFloat / whole.toFloat).log2) 0

/-- The logarithm of how much more often than by chance a pair was seen. -/
def mutualInformationOf (joint head collocate tokens : UInt64) : Float :=
  if joint = 0 ∨ head = 0 ∨ collocate = 0 ∨ tokens = 0 then 0
  else (joint.toFloat * tokens.toFloat / (head.toFloat * collocate.toFloat)).log2

/-- How far the frequency is from the one by chance, in units of its standard deviation. -/
def tScoreOf (joint head collocate tokens : UInt64) : Float :=
  if joint = 0 ∨ tokens = 0 then 0
  else
    let expected := head.toFloat * collocate.toFloat / tokens.toFloat
    (joint.toFloat - expected) / joint.toFloat.sqrt

/-- The scores of a pair among a number of tokens. -/
def of (tokens joint head collocate : UInt64) : Association where
  logDice := .ofFloat (logDiceOf joint head collocate)
  mutualInformation := .ofFloat (mutualInformationOf joint head collocate tokens)
  tScore := .ofFloat (tScoreOf joint head collocate tokens)

/-- The marginals add up within 64 bits. -/
def AddUp (head collocate : UInt64) : Prop :=
  head.toNat + collocate.toNat < UInt64.size

instance (head collocate : UInt64) : Decidable (AddUp head collocate) :=
  inferInstanceAs (Decidable (_ < _))

/-- The scores of a pair, or the overflow that stops the program. -/
def checked (tokens joint head collocate : UInt64) : Except Overflow Association :=
  if AddUp head collocate then .ok (of tokens joint head collocate) else .error .overflow

end Association
end Collocation
