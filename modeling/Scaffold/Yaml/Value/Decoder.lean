import Scaffold.Yaml.Error
/-!
# Yaml.Value.Decoder — reading a value as what is expected there

Tags do not count, except around a null that stands for an absent value.  A record is a mapping whose keys are the
names of its fields: unknown fields are passed over, and no field may be given twice.  Null reads as an empty
collection.
-/
namespace Scaffold.Yaml

def Found.ofValue : Value → Found
  | .null => .unit
  | .bool b => .boolean b
  | .number (.integer n) => .integer n
  | .number (.float x) => .float x
  | .string text => .string text
  | .sequence _ => .sequence
  | .mapping _ => .map
  | .tagged _ inner => .ofValue inner

/-- A reading of values. -/
abbrev Decoder (α : Type) := Value → Except NodeFault α

namespace Decoder

variable {α σ : Type}

def refuse (expected : String) (v : Value) : Except NodeFault α := .error (.wrongType (.ofValue v) expected)

def text (expected : String) : Decoder String := fun v =>
  match v.untagged with
  | .string s => .ok s
  | other => refuse expected other

def bool : Decoder Bool := fun v =>
  match v.untagged with
  | .bool b => .ok b
  | other => refuse "a boolean" other

/-- Reads an integer from 0 to 4294967295. -/
def word : Decoder UInt32 := fun v =>
  match v.untagged with
  | .number (.integer n) =>
    if 0 ≤ n ∧ n < 4294967296 then .ok (UInt32.ofNat n.toNat)
    else .error (.wrongValue (.integer n) "u32")
  | other => refuse "u32" other

/-- Reads a value that may be absent, which null says. -/
def optional (inner : Decoder α) : Decoder (Option α)
  | .null => .ok none
  | v => some <$> inner v

def list (item : Decoder α) : Decoder (List α) := fun v =>
  match v.untagged with
  | .null => .ok []
  | .sequence items => items.mapM item
  | other => refuse "a sequence" other

def entries (expected : String) : Decoder (List (Value × Value)) := fun v =>
  match v.untagged with
  | .null => .ok []
  | .mapping entries => .ok entries
  | other => refuse expected other

/-- Reads the entries of a record into `state`; `seen` are the fields given so far. -/
def readFields (known : List String) (field : σ → String → Decoder σ) (seen : List String) (state : σ) :
    List (Value × Value) → Except NodeFault σ
  | [] => .ok state
  | (key, value) :: rest => do
    let name ← text "field identifier" key
    if known.contains name then
      if seen.contains name then .error (.repeatedField name)
      else readFields known field (name :: seen) (← field state name value) rest
    else readFields known field seen state rest

/-- Reads a record: `field` takes the value of a known field into what has been read so far. -/
def record (expected : String) (known : List String) (start : σ) (field : σ → String → Decoder σ) : Decoder σ :=
  fun v => do readFields known field [] start (← entries expected v)

end Decoder

end Scaffold.Yaml
