import Scaffold.Yaml.Fault
import Scaffold.Yaml.Value
/-!
# Yaml.Error — why a document is not what was asked for

A text may not be YAML at all, a document may break a rule about its nodes, or a node may be of the wrong sort for what
is read from it.  An error of the last kind knows the node's path and place, as far as they are known.
-/
namespace Scaffold.Yaml

inductive Found where
  | unit
  | boolean (b : Bool)
  | integer (n : Int)
  | wideInteger (n : Int)
  | float (x : Float)
  | string (text : String)
  | sequence
  | map

def Found.text : Found → String
  | .unit => "unit value"
  | .boolean b => "boolean \x60" ++ toString b ++ "\x60"
  | .integer n => "integer \x60" ++ toString n ++ "\x60"
  | .wideInteger n => "integer \x60" ++ toString n ++ "\x60 as " ++ if n < 0 then "i128" else "u128"
  | .float x => "floating point \x60" ++ Decimal.inFull x ++ "\x60"
  | .string text => "string " ++ Text.quoted text
  | .sequence => "sequence"
  | .map => "map"

inductive NodeFault where
  | wrongType (found : Found) (expected : String)
  | wrongValue (found : Found) (expected : String)
  | repeatedKey (key : Value)
  | repeatedField (name : String)
  | unknownField (name : String) (known : List String)

def NodeFault.text : NodeFault → String
  | .wrongType found expected => "invalid type: " ++ found.text ++ ", expected " ++ expected
  | .wrongValue found expected => "invalid value: " ++ found.text ++ ", expected " ++ expected
  | .repeatedKey key => key.repeatedKeyText
  | .repeatedField name => "duplicate field \x60" ++ name ++ "\x60"
  | .unknownField name known =>
    "unknown field \x60" ++ name ++ "\x60, expected one of " ++
      ", ".intercalate (known.map fun field => "\x60" ++ field ++ "\x60")

/-- Where a node stands: its place in the text, and the path of keys and indices that leads to it. -/
structure Position where
  mark : Mark
  path : String

inductive Error where
  | notYaml (fault : Fault)
  | unknownAnchor (mark : Mark)
  | tooDeep (mark : Mark)
  | tooManyAliases
  | endOfEvents
  | secondDocument
  | node (fault : NodeFault) (position : Option Position)

namespace Error

/-- The message of an error.  The path of the root is left out, and so is a place at the origin of the text. -/
def message : Error → String
  | .notYaml fault => fault.message
  | .unknownAnchor mark => "unknown anchor" ++ mark.trailer
  | .tooDeep mark => "recursion limit exceeded" ++ mark.trailer
  | .tooManyAliases => "repetition limit exceeded"
  | .endOfEvents => "EOF while parsing a value"
  | .secondDocument => "deserializing from YAML containing more than one document is not supported"
  | .node fault none => fault.text
  | .node fault (some position) =>
    (if position.path == "." then "" else position.path ++ ": ") ++ fault.text ++ position.mark.trailer

/-- The error with a position, if it has none and could have one. -/
def placedAt (e : Error) (mark : Mark) (path : String) : Error :=
  match e with
  | .node fault none => .node fault (some ⟨mark, path⟩)
  | e => e

end Error

end Scaffold.Yaml
