import Scaffold.Yaml.Error
import Scaffold.Yaml.Token.Quoted
/-!
# Yaml.Scalar — what a plain scalar writes

A plain scalar is a null, a boolean, an integer, a floating point number or, failing all of these, a text.  Integers
may have a sign and may be hexadecimal, octal or binary; one that begins with a needless zero is a text.
-/
namespace Scaffold.Yaml

def spellsNull (s : String) : Bool := ["null", "Null", "NULL", "~"].contains s

def readBool? (s : String) : Option Bool :=
  if ["true", "True", "TRUE"].contains s then some true
  else if ["false", "False", "FALSE"].contains s then some false
  else none

def digitIn? (base : Nat) (c : Char) : Option Nat := (hexValue? c).filter (· < base)

/-- The number that the digits write in a base.  There must be a digit. -/
def readDigits? (base : Nat) (digits : List Char) : Option Nat :=
  if digits.isEmpty then none
  else digits.foldlM (fun n c => (digitIn? base c).map (n * base + ·)) 0

def beginsWithSign (s : List Char) : Bool := s.head? == some '+' || s.head? == some '-'

def dropPlus (s : List Char) : List Char := if s.head? == some '+' then s.drop 1 else s

/-- Whether the text is digits only, behind at most one sign, and begins with a needless zero. -/
def hasNeedlessZero (s : List Char) : Bool :=
  let digits := if beginsWithSign s then s.drop 1 else s
  1 < digits.length && digits.head? == some '0' && digits.all Char.isDigit

def baseMarks : List (List Char × Nat) := [(['0', 'x'], 16), (['0', 'o'], 8), (['0', 'b'], 2)]

/-- The first number below the limit that the text writes behind the mark of a base. -/
def readMarked? (s : List Char) (limit : Nat) : Option Nat :=
  baseMarks.findSome? fun (mark, base) =>
    if mark.isPrefixOf s then (readDigits? base (s.drop 2)).filter (· < limit) else none

def signBehindMark (s : List Char) : Bool :=
  baseMarks.any fun (mark, _) => mark.isPrefixOf s && beginsWithSign (s.drop 2)

/-- The integer below the limit that the text writes, with or without a plus sign. -/
def readUnsigned? (s : List Char) (limit : Nat) : Option Nat :=
  let bare := dropPlus s
  if signBehindMark bare then none
  else match readMarked? bare limit with
    | some n => some n
    | none =>
      if beginsWithSign bare || hasNeedlessZero s then none
      else (readDigits? 10 bare).filter (· < limit)

/-- The integer that the text writes behind a minus sign, if it is not below the negative limit. -/
def readNegative? (s : List Char) (limit : Nat) : Option Int :=
  if s.head? != some '-' then none
  else match readMarked? (s.drop 1) (limit + 1) with
    | some n => some (-n)
    | none =>
      if hasNeedlessZero s then none
      else ((readDigits? 10 (s.drop 1)).filter (· ≤ limit)).map fun n => -(n : Int)

/-- The integer that a text writes.  One that needs more than 64 bits is marked by the flag. -/
def readInteger? (s : List Char) : Option (Int × Bool) :=
  match readUnsigned? s (Nat.pow 2 64), readNegative? s (Nat.pow 2 63) with
  | some n, _ => some (n, false)
  | none, some n => some (n, false)
  | none, none =>
    match readUnsigned? s (Nat.pow 2 128), readNegative? s (Nat.pow 2 127) with
    | some n, _ => some (n, true)
    | none, some n => some (n, true)
    | none, none => none

/-- The parts of a decimal number: the digits without the point, how many of them stand behind it, and the exponent. -/
def readDecimal? (s : List Char) : Option (List Char × Nat × Int) := do
  let whole := s.takeWhile Char.isDigit
  let s := s.dropWhile Char.isDigit
  let (fraction, s) := if s.head? == some '.' then
      ((s.drop 1).takeWhile Char.isDigit, (s.drop 1).dropWhile Char.isDigit)
    else ([], s)
  if whole.isEmpty && fraction.isEmpty then none
  let digits := (whole ++ fraction, fraction.length)
  if s.isEmpty then return (digits.1, digits.2, 0)
  if s.head? != some 'e' && s.head? != some 'E' then none
  let s := s.drop 1
  let negative := s.head? == some '-'
  let exponent ← readDigits? 10 (if beginsWithSign s then s.drop 1 else s)
  return (digits.1, digits.2, if negative then -(exponent : Int) else exponent)

/-- The double nearest to a decimal number, if it is finite.  Exponents far outside the range of doubles are settled
without being computed. -/
def nearestDouble? (digits : List Char) (behind : Nat) (exponent : Int) : Option Float :=
  let mantissa := (readDigits? 10 digits).getD 0
  let length : Int := (digits.dropWhile (· == '0')).length
  let exponent := exponent - behind
  if mantissa == 0 || length + exponent < -330 then some 0
  else if 310 < length + exponent then none
  else
    let x := Float.ofScientific mantissa (exponent < 0) exponent.natAbs
    if x.isInf then none else some x

/-- The floating point number that a text writes.  Infinity and not a number begin with a dot. -/
def readFloat? (s : String) : Option Float :=
  let bare := dropPlus s.toList
  if s.toList.head? == some '+' && beginsWithSign bare then none
  else if [".inf", ".Inf", ".INF"].contains (String.ofList bare) then some (1.0 / 0.0)
  else if ["-.inf", "-.Inf", "-.INF"].contains s then some (-1.0 / 0.0)
  else if [".nan", ".NaN", ".NAN"].contains s then some (0.0 / 0.0)
  else
    let negative := bare.head? == some '-'
    match readDecimal? (if negative then bare.drop 1 else bare) with
    | none => none
    | some (digits, behind, exponent) =>
      (nearestDouble? digits behind exponent).map fun x => if negative then -x else x

inductive ScalarValue where
  | null
  | bool (b : Bool)
  | integer (n : Int)
  | wideInteger (n : Int)
  | float (x : Float)
  | text (s : String)

/-- What a plain scalar without a tag of the standard writes; an empty one is null. -/
def resolvePlain (s : String) : ScalarValue :=
  if s.isEmpty || spellsNull s then .null
  else match readBool? s with
    | some b => .bool b
    | none =>
      match readInteger? s.toList with
      | some (n, false) => .integer n
      | some (n, true) => .wideInteger n
      | none =>
        if hasNeedlessZero s.toList then .text s
        else match readFloat? s with
          | some x => .float x
          | none => .text s

def standardTag (name : String) : ByteArray := ("tag:yaml.org,2002:" ++ name).toUTF8

/-- What a scalar writes, given its tag and style.  The tags of the standard for null, booleans and numbers must be
obeyed whatever the style; under any other tag but one of the document's own, the scalar is a text. -/
def resolveScalar (tag : Option ByteArray) (text : String) (style : ScalarStyle) : Except NodeFault ScalarValue :=
  let plain := if style == .plain then resolvePlain text else .text text
  let refuse (expected : String) : Except NodeFault ScalarValue := .error (.wrongValue (.string text) expected)
  match tag with
  | none => .ok plain
  | some t =>
    if t == standardTag "bool" then
      match readBool? text with
      | some b => .ok (.bool b)
      | none => refuse "a boolean"
    else if t == standardTag "int" then
      match readInteger? text.toList with
      | some (n, false) => .ok (.integer n)
      | some (n, true) => .ok (.wideInteger n)
      | none => refuse "an integer"
    else if t == standardTag "float" then
      match readFloat? text with
      | some x => .ok (.float x)
      | none => refuse "a float"
    else if t == standardTag "null" then
      if spellsNull text then .ok .null else refuse "null"
    else if t.data[0]? == some 0x21 then .ok plain
    else .ok (.text text)

end Scaffold.Yaml
