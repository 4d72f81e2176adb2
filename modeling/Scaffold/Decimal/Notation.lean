import Scaffold.Decimal.Shortest
/-!
# Decimal.Notation — floating point numbers as texts

Error messages about YAML write a number in full, with at least one decimal.  Elsewhere a number is written compactly:
very large and very small numbers with an exponent, and the special values with a dot.  An exponent has a sign if it is
negative; where both signs are written, a positive one has a plus.
-/
namespace Scaffold.Decimal

/-- The digits with a point after the first `whole` of them, and zeros where there are none. -/
def positional (digits : List Char) (whole : Int) : List Char :=
  if (digits.length : Int) ≤ whole then
    digits ++ List.replicate (whole - digits.length).toNat '0' ++ ['.', '0']
  else if 0 < whole then digits.take whole.toNat ++ '.' :: digits.drop whole.toNat
  else ['0', '.'] ++ List.replicate (-whole).toNat '0' ++ digits

/-- The digits with a point after the first of them, and an exponent. -/
def scientific (plus : Bool) (digits : List Char) (whole : Int) : List Char :=
  let mantissa := match digits with
    | d :: d' :: rest => d :: '.' :: d' :: rest
    | single => single
  let sign := if plus && 0 < whole then ['+'] else []
  mantissa ++ 'e' :: sign ++ (toString (whole - 1)).toList

def isNegative (x : Float) : Bool := Nat.pow 2 63 ≤ x.toBits.toNat

/-- The shortest digits of a number's magnitude, and how many of them stand before the point. -/
def magnitude (x : Float) : List Char × Int :=
  let b := Binary.ofBits x.toBits
  if b.mantissa == 0 then (['0'], 1)
  else
    let d := shortest b
    let digits := Nat.toDigits 10 d.digits
    (digits, digits.length + d.exponent)

/-- A number with its sign, its magnitude written by `write`; the special values have names of their own. -/
def written (notNumber infinite : String) (write : List Char → Int → List Char) (x : Float) : String :=
  if x.isNaN then notNumber
  else
    let sign := if isNegative x then ['-'] else []
    if x.isInf then String.ofList (sign ++ infinite.toList)
    else String.ofList (sign ++ write (magnitude x).1 (magnitude x).2)

def inFull (x : Float) : String := written "NaN" "inf" positional x

/-- The number compactly: in full from five zeros after the point up to sixteen digits before it.  `plus` says that a
positive exponent has a sign. -/
def compact (plus : Bool) (x : Float) : String :=
  written ".nan" ".inf" (fun digits whole =>
    if -5 < whole && whole ≤ 16 then positional digits whole else scientific plus digits whole) x

end Scaffold.Decimal
