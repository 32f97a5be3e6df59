import CredStore.Decimal.Shortest

/-!
# Numbers of documents

A number is either whole, with its exact value, or a binary64. `1` and `1.0` are different numbers.
-/

namespace CredStore

/-- A number of a document. -/
inductive Number where
  | whole (n : Int)
  | real (x : Float)
  deriving BEq, Inhabited

namespace Number

/-- How a decimal is laid out: positional while the exponent of its first digit lies between
`least` and `greatest`, else one digit before the point and a signed exponent. -/
structure Layout where
  least : Int
  greatest : Int

/-- Documents write a number positionally from `0.00001` up to sixteen digits before the point. -/
def layout : Layout := ⟨-5, 15⟩

/-- The digits `ds` with `e` the exponent of the first, in positional form with at least one digit
after the point. -/
def positional (ds : List Char) (e : Int) : List Char :=
  if e < 0 then ['0', '.'] ++ List.replicate (-e - 1).toNat '0' ++ ds
  else
    let n := e.toNat + 1
    let before := ds.take n ++ List.replicate (n - ds.length) '0'
    let after := ds.drop n
    before ++ '.' :: (if after.isEmpty then ['0'] else after)

/-- The digits `ds` with `e` the exponent of the first, with the exponent written out. -/
def scientific (ds : List Char) (e : Int) : List Char :=
  let mantissa := match ds with
    | [d] => [d]
    | d :: rest => d :: '.' :: rest
    | [] => []
  let sign := if e < 0 then '-' else '+'
  mantissa ++ 'e' :: sign :: Nat.toDigits 10 e.natAbs

/-- The text of a finite binary64: the shortest digits that read back, a zero as `0.0`. -/
def realText (x : Float) : String :=
  let (negative, m, q, edge) := Decimal.parts x
  let size :=
    if m = 0 then ['0', '.', '0']
    else
      let (d, g) := Decimal.shortest m q edge
      let ds := Nat.toDigits 10 d
      let e := g + ds.length - 1
      if layout.least ≤ e ∧ e ≤ layout.greatest then positional ds e else scientific ds e
  String.ofList (if negative then '-' :: size else size)

/-- The text of a number. -/
def text : Number → String
  | .whole n => toString n
  | .real x => realText x

end Number

end CredStore
