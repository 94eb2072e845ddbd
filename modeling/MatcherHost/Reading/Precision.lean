/-! Natural numbers in double precision: the 53 leading binary digits are kept, and numbers that
round to 2^1024 or more are beyond it. -/
namespace MatcherHost.Reading.Precision

/-- The natural number nearest to `n / d`; of two equally near, the even one. -/
def nearest (n d : Nat) : Nat :=
  let rest := 2 * (n % d)
  if d < rest ∨ (rest = d ∧ n / d % 2 = 1) then n / d + 1 else n / d

def lastPlace (n : Nat) : Nat := Nat.pow 2 (n.log2 - 52)

def round (n : Nat) : Nat := nearest n (lastPlace n) * lastPlace n

def bound : Nat := Nat.pow 2 1024 - Nat.pow 2 970

end MatcherHost.Reading.Precision
