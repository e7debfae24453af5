/-!
# Rounding to the nearest

`nearest` is the whole number nearest to a quotient of natural numbers. Of two that are equally
near it is the even one.
-/

namespace DiceTower

/-- The whole number nearest to a quotient; of two that are equally near, the even one. -/
def nearest (num den : Nat) : Nat :=
  let below := num / den
  let twice := 2 * (num % den)
  if twice < den ∨ (twice = den ∧ below % 2 = 0) then below else below + 1

end DiceTower
