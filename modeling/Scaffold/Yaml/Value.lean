import Scaffold.Decimal.Notation
import Scaffold.Text.Quoted
/-!
# Yaml.Value — the values that a YAML document writes

Two keys of a mapping are the same if they write the same value.  An integer and a floating point number never do; not
a number is the same as itself, both zeros are the same, and the order of a mapping's entries does not count.
-/
namespace Scaffold.Yaml

/-- A number: an integer of 64 bits, with or without sign, or a floating point number. -/
inductive Number where
  | integer (n : Int)
  | float (x : Float)

namespace Number

def same : Number → Number → Bool
  | .integer m, .integer n => m == n
  | .float x, .float y => (x.isNaN && y.isNaN) || x == y
  | _, _ => false

/-- The number as a message names it where it is a key. -/
def keyText : Number → String
  | .integer n => toString n
  | .float x => Decimal.compact false x

end Number

/-- A value.  The entries of a mapping are in the order of the document; a tag stands without its exclamation mark, unless
it is nothing else. -/
inductive Value where
  | null
  | bool (b : Bool)
  | number (n : Number)
  | string (text : String)
  | sequence (items : List Value)
  | mapping (entries : List (Value × Value))
  | tagged (tag : String) (inner : Value)

namespace Value

/-- A tag without an exclamation mark at its front, unless it is nothing else. -/
def bareTag (tag : String) : List Char :=
  match tag.toList with
  | '!' :: c :: rest => c :: rest
  | chars => chars

def sameTag (s t : String) : Bool := bareTag s == bareTag t

mutual

def same : Value → Value → Bool
  | .null, .null => true
  | .bool a, .bool b => a == b
  | .number m, .number n => m.same n
  | .string s, .string t => s == t
  | .sequence xs, .sequence ys => sameAll xs ys
  | .mapping xs, .mapping ys => xs.length == ys.length && sameEntries xs ys
  | .tagged s x, .tagged t y => sameTag s t && same x y
  | _, _ => false

def sameAll : List Value → List Value → Bool
  | [], [] => true
  | x :: xs, y :: ys => same x y && sameAll xs ys
  | _, _ => false

/-- Whether every entry is among the entries of another mapping. -/
def sameEntries : List (Value × Value) → List (Value × Value) → Bool
  | [], _ => true
  | (key, value) :: rest, ys => ys.any (fun entry => same key entry.1 && same value entry.2) && sameEntries rest ys

end

def untagged : Value → Value
  | .tagged _ inner => inner.untagged
  | v => v

/-- The sort of a value, as a message names it. -/
def sort : Value → String
  | .null => "null"
  | .bool _ => "a boolean"
  | .number _ => "a number"
  | .string _ => "a string"
  | .sequence _ => "a sequence"
  | .mapping _ => "a mapping"
  | .tagged _ _ => "a tagged value"

def isMapping (v : Value) : Bool :=
  match v.untagged with
  | .mapping _ => true
  | _ => false

/-- How a message names a key that occurs twice. -/
def repeatedKeyText : Value → String
  | .null => "duplicate entry with null key"
  | .bool b => "duplicate entry with key \x60" ++ toString b ++ "\x60"
  | .number n => "duplicate entry with key " ++ n.keyText
  | .string text => "duplicate entry with key " ++ Text.quoted text
  | _ => "duplicate entry in YAML map"

end Value

end Scaffold.Yaml
