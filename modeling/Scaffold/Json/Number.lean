import Scaffold.Json.Reader
/-!
# Json.Number — numbers

A number without point and exponent is an integer, as long as it fits 64 bits; any other is a floating point number.
Its digits are gathered into an integer of at most 64 bits and scaled by a power of ten, so digits beyond the first
nineteen or twenty do not count.
-/
namespace Scaffold.Json

inductive Number where
  | integer (n : Int)
  | float (x : Float)

def Number.found : Number → Found
  | .integer n => .integer n
  | .float x => .float x

/-- The digits as an integer, up to the first that would take it to the limit; and the digits left excess. -/
def gather (limit : Nat) : Nat → List Char → Nat × List Char
  | n, [] => (n, [])
  | n, c :: rest =>
    let m := n * 10 + (c.toNat - '0'.toNat)
    if m < limit then gather limit m rest else (n, c :: rest)

/-- Integers stay below this limit. -/
def integerLimit : Nat := Nat.pow 2 64

/-- Exponents stay below this limit. -/
def exponentLimit : Nat := Nat.pow 2 31

/-- The largest power of ten that a floating point number holds. -/
def largestPower : Nat := 308

def powerOfTen (n : Nat) : Float := Float.ofScientific 1 false n

/-- An integer scaled by a power of ten; there is none beyond the largest number. -/
def scaled? (digits : Nat) (exponent : Int) : Option Float :=
  let x := (UInt64.ofNat digits).toFloat
  let n := exponent.natAbs
  if 0 ≤ exponent then
    if n ≤ largestPower then
      let y := x * powerOfTen n
      if y.isInf then none else some y
    else if digits = 0 then some 0 else none
  else if n ≤ largestPower then some (x / powerOfTen n)
  else if n ≤ 2 * largestPower then some (x / powerOfTen largestPower / powerOfTen (n - largestPower))
  else some 0

def takeDigits : Reader (List Char) := fun cs => .ok (cs.takeWhile Char.isDigit) (cs.dropWhile Char.isDigit)

def scaleTo (negative : Bool) (digits : Nat) (exponent : Int) : Reader Number :=
  match scaled? digits exponent with
  | some x => return .float (if negative then -x else x)
  | none => failHere .largeNumber

def readExponent (negative : Bool) (digits : Nat) (exponent : Int) : Reader Number := do
  drop
  let below := (← get).head? == some '-'
  if below || (← get).head? == some '+' then drop
  match (← get).head? with
  | none => failHere .endBeforeValue
  | some c =>
    if !c.isDigit then failAhead 1 .badNumber
    else do
      let (value, excess) := gather exponentLimit 0 (← takeDigits)
      if excess.isEmpty then scaleTo negative digits (if below then exponent - value else exponent + value)
      else if digits = 0 || below then return .float (if negative then -0.0 else 0.0)
      else failBehind (excess.length - 1) .largeNumber

def readFraction (negative : Bool) (digits : Nat) (exponent : Int) : Reader Number := do
  drop
  let fraction ← takeDigits
  if fraction.isEmpty then
    if (← get).isEmpty then failAtNext .endBeforeValue else failAtNext .badNumber
  else
    let (digits, rest) := gather integerLimit digits fraction
    let exponent := exponent - (fraction.length - rest.length : Nat)
    match (← get).head? with
    | some 'e' | some 'E' => readExponent negative digits exponent
    | _ => scaleTo negative digits exponent

/-- Goes on behind the digits of an integer, the last `excess` of which did not fit. -/
def finishNumber (negative : Bool) (digits excess : Nat) : Reader Number := do
  match (← get).head? with
  | some '.' => readFraction negative digits excess
  | some 'e' | some 'E' => readExponent negative digits excess
  | _ =>
    if excess ≠ 0 then scaleTo negative digits excess
    else if !negative then return .integer digits
    else if digits = 0 || Nat.pow 2 63 < digits then return .float (-(UInt64.ofNat digits).toFloat)
    else return .integer (-digits)

/-- Reads a number from its first digit on. -/
def readNumber (negative : Bool) : Reader Number := do
  match ← get with
  | [] => failHere .endBeforeValue
  | c :: rest =>
    if c = '0' then do
      drop
      if rest.head?.any Char.isDigit then failAtNext .badNumber else finishNumber negative 0 0
    else if c.isDigit then do
      let (digits, excess) := gather integerLimit 0 (← takeDigits)
      finishNumber negative digits excess.length
    else failAhead 1 .badNumber

def skipExponent : Reader Unit := do
  drop
  if (← get).head? == some '-' || (← get).head? == some '+' then drop
  match (← get).head? with
  | none => failHere .badNumber
  | some c => if c.isDigit then do let _ ← takeDigits else failAhead 1 .badNumber

def skipNumber : Reader Unit := do
  match ← get with
  | [] => failHere .badNumber
  | c :: rest =>
    if c = '0' then do
      drop
      if rest.head?.any Char.isDigit then failAtNext .badNumber else skipBehind
    else if c.isDigit then do
      let _ ← takeDigits
      skipBehind
    else failAhead 1 .badNumber
where
  skipBehind : Reader Unit := do
    match (← get).head? with
    | some '.' => do
      drop
      if (← takeDigits).isEmpty then failAtNext .badNumber
      else
        match (← get).head? with
        | some 'e' | some 'E' => skipExponent
        | _ => return
    | some 'e' | some 'E' => skipExponent
    | _ => return

end Scaffold.Json
