/-!
# Shortest decimal text of a binary64

`digits m q` finds the decimal numbers with the fewest digits that lie among the reals which round
to the binary64 `m * 2 ^ q`, and of these the one nearest to it. All arithmetic is exact, on
natural numbers: with `N / D` the value scaled by four, a decimal `d * 10 ^ g` is compared with the
ends of the interval by cross-multiplication.
-/

namespace CredStore.Decimal

/-- A positive binary64 and the reals that round to it, as fractions over the common denominator
`den`. `closed` says whether the ends belong to the interval. -/
structure Interval where
  low : Nat
  value : Nat
  high : Nat
  den : Nat
  closed : Bool

/-- The interval of `m * 2 ^ q`, where `edge` says that the float below is nearer than the one
above. Everything is scaled by four, so that both half gaps are whole. -/
def Interval.ofScaled (m : Nat) (q : Int) (edge : Bool) : Interval :=
  let unit := Nat.pow 2 (q - 2).toNat
  { low := (if edge then 4 * m - 1 else 4 * m - 2) * unit
    value := 4 * m * unit
    high := (4 * m + 2) * unit
    den := Nat.pow 2 (2 - q).toNat
    closed := m % 2 = 0 }

/-- `10 ^ g` as a fraction. -/
def tenPow (g : Int) : Nat × Nat :=
  (Nat.pow 10 g.toNat, Nat.pow 10 (-g).toNat)

/-- The fraction `x / iv.den` against `d * 10 ^ g`: both sides times both denominators. -/
def Interval.scaled (iv : Interval) (x d : Nat) (g : Int) : Nat × Nat :=
  (x * (tenPow g).2, d * (tenPow g).1 * iv.den)

/-- `d * 10 ^ g` rounds to the value. -/
def Interval.holds (iv : Interval) (d : Nat) (g : Int) : Bool :=
  let lo := iv.scaled iv.low d g
  let hi := iv.scaled iv.high d g
  if iv.closed then lo.1 ≤ lo.2 && hi.2 ≤ hi.1 else lo.1 < lo.2 && hi.2 < hi.1

/-- The distance of `d * 10 ^ g` from the value, over a denominator that depends on `g` only. -/
def Interval.distance (iv : Interval) (d : Nat) (g : Int) : Nat :=
  let p := iv.scaled iv.value d g
  (p.1 - p.2) + (p.2 - p.1)

/-- The decimals with step `10 ^ g` next to the value on either side. -/
def Interval.neighbours (iv : Interval) (g : Int) : Nat × Nat :=
  let below := iv.value * (tenPow g).2 / ((tenPow g).1 * iv.den)
  (below, below + 1)

/-- The decimal with step `10 ^ g` that stands for the value, if one does: the nearer of the two
neighbours, and of two equally near ones the even one. -/
def Interval.pick? (iv : Interval) (g : Int) : Option Nat :=
  let (a, b) := iv.neighbours g
  match iv.holds a g, iv.holds b g with
  | true, false => some a
  | false, true => some b
  | false, false => none
  | true, true =>
    let da := iv.distance a g
    let db := iv.distance b g
    if da < db then some a else if db < da then some b else if a % 2 = 0 then some a else some b

/-- The exponent of the first decimal digit of `n / d` for `n, d > 0`: the greatest `e` with
`10 ^ e ≤ n / d`. -/
def magnitude (n d : Nat) : Int :=
  if d ≤ n then ((Nat.toDigits 10 (n / d)).length : Int) - 1
  else
    let e := (Nat.toDigits 10 (d / n)).length
    if d ≤ n * Nat.pow 10 (e - 1) then -((e : Int) - 1) else -(e : Int)

/-- Tries one digit, two digits and so on, at most `fuel` times. -/
def Interval.search (iv : Interval) (top : Int) : (fuel : Nat) → (count : Nat) → Nat × Int
  | 0, count => ((iv.neighbours (top + 1 - count)).1, top + 1 - count)
  | fuel + 1, count =>
    match iv.pick? (top + 1 - count) with
    | some d => (d, top + 1 - count)
    | none => iv.search top fuel (count + 1)

/-- Removes the zeros at the end of `d`, each of which raises the step by one power of ten. -/
def dropZeros : (fuel : Nat) → Nat → Int → Nat × Int
  | 0, d, g => (d, g)
  | fuel + 1, d, g => if d ≠ 0 ∧ d % 10 = 0 then dropZeros fuel (d / 10) (g + 1) else (d, g)

/-- The shortest decimal `d * 10 ^ g` that reads back as `m * 2 ^ q`; seventeen digits always
suffice. -/
def shortest (m : Nat) (q : Int) (edge : Bool) : Nat × Int :=
  let iv := Interval.ofScaled m q edge
  let (d, g) := iv.search (magnitude iv.value iv.den) 17 1
  dropZeros 18 d g

/-- The sign, fraction and exponent of a finite binary64: its size is `m * 2 ^ q`. -/
def parts (x : Float) : Bool × Nat × Int × Bool :=
  let bits := x.toBits.toNat
  let negative := bits / Nat.pow 2 63 == 1
  let expo : Nat := bits / Nat.pow 2 52 % Nat.pow 2 11
  let frac : Nat := bits % Nat.pow 2 52
  if expo = 0 then (negative, frac, -1074, false)
  else (negative, Nat.pow 2 52 + frac, (expo : Int) - 1075, frac = 0 && expo != 1)

end CredStore.Decimal
