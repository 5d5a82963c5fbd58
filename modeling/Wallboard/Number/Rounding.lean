namespace Wallboard

inductive Tie
  | toEven
  | up

def roundedQuotient (tie : Tie) (dividend divisor : Nat) : Nat :=
  let quotient := dividend / divisor
  let doubled := 2 * (dividend % divisor)
  if doubled < divisor then quotient
  else if divisor < doubled then quotient + 1
  else
    match tie with
    | .toEven => quotient + quotient % 2
    | .up => quotient + 1

/-- The quotient of the absolute values, negative if just one of the two is negative. -/
def truncatedQuotient (value divisor : Int) : Int :=
  let quotient := (value.natAbs : Int).fdiv divisor.natAbs
  if decide (value < 0) = decide (divisor < 0) then quotient else -quotient

end Wallboard
