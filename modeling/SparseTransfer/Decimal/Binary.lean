/- Numbers of 64 bits with a binary point: the number nearest to a decimal one, and the shortest
decimal digits that are nearest to it. -/
namespace SparseTransfer.Decimal

/-- The value m · 2^q, with m below 2^53. -/
structure Binary where
  m : Nat
  q : Int
  deriving Repr, DecidableEq

def mantissaBits : Nat := 53

def minExponent : Int := -1074
def maxExponent : Int := 971

/-- The integer nearest to a quotient; the even one of two. -/
def roundDiv (num den : Nat) : Nat :=
  let floor := num / den
  let rest := num % den
  if 2 * rest < den then floor
  else if 2 * rest > den then floor + 1
  else if floor % 2 = 0 then floor else floor + 1

/-- The quotient of two numbers after both are multiplied by powers of 2, so that `num / den` stands
for `num / (den · 2^q)`. -/
def shifted (num den : Nat) (q : Int) : Nat × Nat :=
  if q ≥ 0 then (num, den * Nat.pow 2 q.toNat) else (num * Nat.pow 2 (-q).toNat, den)

/-- The nearest number of 64 bits to `num / den`; none if that is too large. -/
def nearest (num den : Nat) : Option Binary :=
  if num = 0 then some ⟨0, minExponent⟩
  else
    let guess : Int := (num.log2 : Int) - (den.log2 : Int) - mantissaBits
    let q := max guess minExponent
    let (n, d) := shifted num den q
    let (q, n, d) := if n / d ≥ Nat.pow 2 mantissaBits then (q + 1, n, d * 2) else (q, n, d)
    let m := roundDiv n d
    let (m, q) := if m = Nat.pow 2 mantissaBits then (m / 2, q + 1) else (m, q)
    if q > maxExponent then none else some ⟨m, q⟩

def quotient (n : Nat) (e : Int) : Nat × Nat :=
  if e ≥ 0 then (n * Nat.pow 10 e.toNat, 1) else (n, Nat.pow 10 (-e).toNat)

def digitCount (n : Nat) : Nat := (Nat.toDigits 10 n).length

/-- The nearest number of 64 bits to `n · 10^e`. Far outside the range of exponents the powers of
ten are not worked out. -/
def ofDecimal (n : Nat) (e : Int) : Option Binary :=
  let scale := (digitCount n : Int) + e
  if n = 0 || scale < -400 then some ⟨0, minExponent⟩
  else if scale > 400 then none
  else
    let (num, den) := quotient n e
    nearest num den

/-- Whether a decimal `n · 10^e` is nearest to `b`: between the midpoints to its neighbours, which
count if `b.m` is even. -/
def readsBack (b : Binary) (n : Nat) (e : Int) : Bool :=
  let (num, den) := quotient n e
  let (x, y) := shifted num den b.q
  let below : Nat := if b.m = Nat.pow 2 (mantissaBits - 1) && b.q > minExponent then 1 else 2
  if b.m % 2 = 0 then (4 * b.m - below) * y ≤ 4 * x && 4 * x ≤ (4 * b.m + 2) * y
  else (4 * b.m - below) * y < 4 * x && 4 * x < (4 * b.m + 2) * y

/-- The value times `10^(-e)`, as a quotient. -/
def scaled (b : Binary) (e : Int) : Nat × Nat :=
  let (num, den) :=
    if b.q ≥ 0 then (b.m * Nat.pow 2 b.q.toNat, 1) else (b.m, Nat.pow 2 (-b.q).toNat)
  if e ≥ 0 then (num, den * Nat.pow 10 e.toNat) else (num * Nat.pow 10 (-e).toNat, den)

/-- The decimals of exponent `e` nearest to `b` that read back, the nearer first. -/
def candidates (b : Binary) (e : Int) : List Nat :=
  let (num, den) := scaled b e
  let floor := num / den
  let order := if 2 * (num % den) ≤ den then [floor, floor + 1] else [floor + 1, floor]
  order.filter fun n => readsBack b n e

/-- Looks for digits on ever finer grids, from the exponent `e` downward. -/
def shortestFrom (b : Binary) : (grids : Nat) → (e : Int) → Nat × Int
  | 0, e => (0, e)
  | grids + 1, e =>
    match candidates b e with
    | n :: _ => (n, e)
    | [] => shortestFrom b grids (e - 1)

def withoutZeros : (fuel : Nat) → Nat → Int → Nat × Int
  | 0, n, e => (n, e)
  | fuel + 1, n, e => if n ≠ 0 && n % 10 = 0 then withoutZeros fuel (n / 10) (e + 1) else (n, e)

/-- The fewest digits that read back, as `n · 10^e`. -/
def shortest (b : Binary) : Nat × Int :=
  if b.m = 0 then (0, 0)
  else
    let (num, den) := scaled b 0
    let magnitude : Int := (digitCount (num / den) : Int) - (digitCount (den / num) : Int)
    let (n, e) := shortestFrom b 40 (magnitude + 2)
    withoutZeros 20 n e

/-- A decimal without exponent, with at least one digit after the point. -/
def positional (n : Nat) (e : Int) : List Char :=
  let digits := Nat.toDigits 10 n
  if e ≥ 0 then digits ++ List.replicate e.toNat '0' ++ ['.', '0']
  else
    let places := (-e).toNat
    let padded := List.replicate (places + 1 - digits.length) '0' ++ digits
    padded.take (padded.length - places) ++ '.' :: padded.drop (padded.length - places)

end SparseTransfer.Decimal
