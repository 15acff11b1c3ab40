import SchemaForge.Decimal.Shortest

/-!
# Number layouts

The two notations for the digits of a decimal, positional and with a power of ten. Which one a
format takes for which numbers is its own matter.
-/

namespace SchemaForge.Layout

/-- The digits of a natural number, most significant first. -/
def digitsOf (n : Nat) : List Char := Nat.toDigits 10 n

/-- Digits `ds` with leading exponent `e`, without a power of ten. -/
def positional (pointed : Bool) (ds : List Char) (e : Int) : List Char :=
  if e < 0 then
    '0' :: '.' :: (List.replicate ((-e).toNat - 1) '0' ++ ds)
  else
    let whole := e.toNat + 1
    if ds.length ≤ whole then
      ds ++ List.replicate (whole - ds.length) '0' ++ (if pointed then ['.', '0'] else [])
    else
      ds.take whole ++ '.' :: ds.drop whole

/-- Digits `ds` with leading exponent `e`, as one digit, a fraction and a signed power of ten. -/
def scientific (ds : List Char) (e : Int) : List Char :=
  let mantissa :=
    match ds with
    | [] => []
    | [d] => [d]
    | d :: rest => d :: '.' :: rest
  mantissa ++ 'e' :: (if e < 0 then '-' else '+') :: digitsOf e.natAbs

/-- The sign of a number and a text. -/
def signed (x : Binary64) (body : List Char) : String :=
  String.ofList (if x.isNegative then '-' :: body else body)

end SchemaForge.Layout
