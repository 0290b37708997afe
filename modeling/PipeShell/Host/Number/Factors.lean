/-! # Prime factors

Small factors are found by trial. A number that has none is split by the cycles of a sequence of
remainders, unless it passes a test that all primes pass. -/

namespace PipeShell.Host.Number.Factors

/-- A power modulo a number. The last number bounds how many binary digits the exponent has. -/
def powMod (m base exponent : Nat) : Nat → Nat
  | 0 => 1 % m
  | bits + 1 =>
    if exponent == 0 then 1 % m
    else
      let half := powMod m (base * base % m) (exponent / 2) bits
      if exponent % 2 == 1 then half * base % m else half

/-- How often two divides a number, and what is left. -/
def halvings (n : Nat) : Nat → Nat × Nat
  | 0 => (0, n)
  | fuel + 1 =>
    if n != 0 && n % 2 == 0 then
      let (twos, odd) := halvings (n / 2) fuel
      (twos + 1, odd)
    else (0, n)

/-- Whether repeated squares lead to minus one. -/
def reachesMinusOne (n x : Nat) : Nat → Bool
  | 0 => false
  | squares + 1 => x == n - 1 || reachesMinusOne n (x * x % n) squares

/-- The bases of the test. -/
def bases : List Nat := [
  2, 3, 5, 7, 11, 13, 17, 19, 23, 29, 31, 37, 41, 43, 47, 53, 59, 61, 67, 71, 73, 79, 83, 89, 97]

/-- Whether an odd number passes the test for all bases. -/
def isLikelyPrime (n : Nat) : Bool :=
  let bits := n.log2 + 1
  let (twos, odd) := halvings (n - 1) bits
  bases.all fun base =>
    base % n == 0 ||
      let x := powMod n (base % n) odd bits
      x == 1 || reachesMinusOne n x twos

/-- How many steps are taken between two looks at what they have in common with the number. -/
def stride : Nat := 100

/-- Goes on with two places in a sequence, one twice as fast, and multiplies their differences. -/
def cycleStride (n c : Nat) (x y product : Nat) : Nat → Nat × Nat × Nat
  | 0 => (x, y, product)
  | steps + 1 =>
    let next (z : Nat) : Nat := (z * z + c) % n
    let x := next x
    let y := next (next y)
    cycleStride n c x y (product * (max x y - min x y) % n) steps

/-- As `cycleStride`, but looks after each step. -/
def cycleSteps (n c : Nat) (x y : Nat) : Nat → Option Nat
  | 0 => none
  | steps + 1 =>
    let next (z : Nat) : Nat := (z * z + c) % n
    let x := next x
    let y := next (next y)
    let d := Nat.gcd (max x y - min x y) n
    if d == n then none else if d != 1 then some d else cycleSteps n c x y steps

/-- A factor that shows in the cycles of a sequence, if one does before all of them do. -/
def cycleFrom (n c x y : Nat) : Nat → Option Nat
  | 0 => none
  | strides + 1 =>
    let (x', y', product) := cycleStride n c x y 1 stride
    let d := Nat.gcd product n
    if d == 1 then cycleFrom n c x' y' strides
    else if d == n then cycleSteps n c x y stride
    else some d

/-- More strides than there is time for. -/
def maxStrides : Nat := 10000000

/-- A factor other than one and the number itself; sequences are tried one after the other. -/
def split? (n c : Nat) : Nat → Option Nat
  | 0 => none
  | sequences + 1 => (cycleFrom n c 2 2 maxStrides).or (split? n (c + 1) sequences)

/-- The prime factors of a number without small ones, in no order. The last number bounds how many
there are. -/
def large (n : Nat) : Nat → List Nat
  | 0 => [n]
  | fuel + 1 =>
    if n ≤ 1 then []
    else if isLikelyPrime n then [n]
    else match split? n 1 20 with
      | some d => large d fuel ++ large (n / d) fuel
      | none => [n]

/-- Trial goes up to here. -/
def smallBound : Nat := 2000

/-- Divides by a candidate as long as that is possible. The last number bounds how often. -/
def divide (n candidate : Nat) (found : List Nat) : Nat → Nat × List Nat
  | 0 => (n, found)
  | fuel + 1 =>
    if n != 0 && n % candidate == 0 then divide (n / candidate) candidate (candidate :: found) fuel
    else (n, found)

/-- The prime factors of a number in order, each as often as it divides the number. -/
def ofNat (n : Nat) : List Nat :=
  if n ≤ 1 then []
  else
    let bits := n.log2 + 1
    let (rest, small) := (List.range smallBound).foldl
      (fun ((n, found) : Nat × List Nat) i => divide n (i + 2) found bits) (n, [])
    small.reverse ++ (large rest bits).mergeSort

end PipeShell.Host.Number.Factors
