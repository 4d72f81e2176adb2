import Scaffold.Yaml.Token
import Scaffold.Yaml.Token.Quoted
/-!
# Yaml.Token.Property — anchors, aliases and tags

An anchor names a node, an alias repeats the node of an anchor, and a tag says what a node is.  A tag is a handle and
a suffix; the suffix may hold octets written as a percent sign and two hexadecimal digits.
-/
namespace Scaffold.Yaml

/-- Whether the name of an anchor may end at the cursor. -/
def endsAnchor (c : Cursor) : Bool :=
  c.seesGap || (c.peek 0).any fun ch => ['?', ':', ',', ']', '\x7d', '%', '@', '\x60'].contains ch

/-- Reads the anchor or alias at the cursor, which stands on its sign. -/
def scanAnchor (isAlias : Bool) (c : Cursor) : Except Fault (Token × Cursor) :=
  let (name, c') := c.skip.takeWhile isNameChar
  if name.isEmpty || !endsAnchor c' then
    .error (c'.fault .anchorCharacter (if isAlias then .alias else .anchor) c.mark)
  else
    let text := String.ofList name
    .ok (⟨if isAlias then .alias text else .anchor text, c.mark, c'.mark⟩, c')

/-- Characters that may stand in a tag. -/
def isTagChar (c : Char) : Bool :=
  isNameChar c || ";/?:@&=+$.%!~*'()".toList.contains c

def isVerbatimTagChar (c : Char) : Bool := isTagChar c || c == ',' || c == '[' || c == ']'

/-- How many octets the character takes whose first octet this is; none begins with a continuation octet. -/
def octetCount (octet : Nat) : Nat :=
  if octet < 0x80 then 1
  else if 0xC0 ≤ octet && octet < 0xE0 then 2
  else if 0xE0 ≤ octet && octet < 0xF0 then 3
  else if 0xF0 ≤ octet && octet < 0xF8 then 4
  else 0

/-- Reads the escaped octet at the cursor. -/
def readOctet (activity : Activity) (start : Mark) (c : Cursor) : Except Fault (Nat × Cursor) :=
  let digits := c.skip.rest.take 2
  match c.sees '%' && digits.length == 2, hexNumber? digits with
  | true, some octet => .ok (octet, c.skip 3)
  | _, _ => .error (c.fault .noUriEscape activity start)

theorem length_of_readOctet {activity : Activity} {start : Mark} {c c' : Cursor} {octet : Nat}
    (h : readOctet activity start c = .ok (octet, c')) : c'.rest.length < c.rest.length := by
  unfold readOctet at h
  simp only at h
  split at h
  · rename_i hseen _
    cases h
    exact Cursor.length_skip_lt (Cursor.rest_ne_nil_of_sees (Bool.and_eq_true_iff.mp hseen).1) (by decide)
  · cases h

def readTrailingOctets (activity : Activity) (start : Mark) :
    Nat → ByteArray → Cursor → Except Fault (ByteArray × Cursor)
  | 0, octets, c => .ok (octets, c)
  | n + 1, octets, c => do
    let (octet, c') ← readOctet activity start c
    if octet < 0x80 || 0xC0 ≤ octet then throw (c.fault .trailingOctet activity start)
    readTrailingOctets activity start n (octets.push octet.toUInt8) c'

theorem length_of_readTrailingOctets {activity : Activity} {start : Mark} {n : Nat} {octets octets' : ByteArray}
    {c c' : Cursor} (h : readTrailingOctets activity start n octets c = .ok (octets', c')) :
    c'.rest.length ≤ c.rest.length := by
  induction n generalizing octets c with
  | zero =>
    cases h
    exact Nat.le_refl _
  | succ n ih =>
    rw [readTrailingOctets] at h
    cases hread : readOctet activity start c with
    | error f => simp [hread, bind, Except.bind] at h
    | ok read =>
      simp only [hread, bind, Except.bind] at h
      split at h
      · cases h
      · exact Nat.le_trans (ih h) (Nat.le_of_lt (length_of_readOctet hread))

def readOctets (activity : Activity) (start : Mark) (octets : ByteArray) (c : Cursor) :
    Except Fault (ByteArray × Cursor) := do
  let (octet, c') ← readOctet activity start c
  if octetCount octet == 0 then throw (c.fault .leadingOctet activity start)
  readTrailingOctets activity start (octetCount octet - 1) (octets.push octet.toUInt8) c'

theorem length_of_readOctets {activity : Activity} {start : Mark} {octets octets' : ByteArray} {c c' : Cursor}
    (h : readOctets activity start octets c = .ok (octets', c')) : c'.rest.length < c.rest.length := by
  rw [readOctets] at h
  cases hread : readOctet activity start c with
  | error f => simp [hread, bind, Except.bind] at h
  | ok read =>
    simp only [hread, bind, Except.bind] at h
    split at h
    · cases h
    · exact Nat.lt_of_le_of_lt (length_of_readTrailingOctets h) (length_of_readOctet hread)

def readUriChars (verbatim : Bool) (activity : Activity) (start : Mark) (octets : ByteArray) (c : Cursor) :
    Except Fault (ByteArray × Cursor) :=
  match _here : c.peek 0 with
  | none => .ok (octets, c)
  | some ch =>
    if !(if verbatim then isVerbatimTagChar ch else isTagChar ch) then .ok (octets, c)
    else if ch == '%' then
      match _octets : readOctets activity start octets c with
      | .error f => .error f
      | .ok (octets, c') => readUriChars verbatim activity start octets c'
    else readUriChars verbatim activity start (octets ++ (String.singleton ch).toUTF8) c.skip
termination_by c.rest.length
decreasing_by
  · exact length_of_readOctets _octets
  · refine Cursor.length_skip_lt ?_ (by decide)
    intro hnil
    simp [Cursor.peek, hnil] at _here

/-- The octets before the first zero octet. -/
def beforeZero (octets : ByteArray) : ByteArray := ⟨(octets.toList.takeWhile (· != 0)).toArray⟩

/-- Reads the suffix of a tag, which may be empty only if some text, `head`, is known to stand before it. -/
def readUri (verbatim : Bool) (directive : Bool) (head : String) (start : Mark) (c : Cursor) :
    Except Fault (ByteArray × Cursor) := do
  let activity := if directive then Activity.tagDirectivePrefix else .tagSuffix
  let known := ((head.drop 1).toString).toUTF8
  let (octets, c') ← readUriChars verbatim activity start known c
  if head.isEmpty && octets.isEmpty then throw (c'.fault .noTagUri activity start)
  return (beforeZero octets, c')

def readHandle (directive : Bool) (start : Mark) (c : Cursor) : Except Fault (String × Cursor) := do
  if !c.sees '!' then
    throw (c.fault .noTagBang (if directive then .tagDirectiveHandle else .tag) start)
  let (name, c') := c.skip.takeWhile isNameChar
  if c'.sees '!' then return (String.ofList (['!'] ++ name ++ ['!']), c'.skip)
  if directive && !name.isEmpty then throw (c'.fault .noTagBang .tagDirectiveHandleEnd start)
  return (String.ofList ('!' :: name), c')

/-- Reads the tag at the cursor, which stands on its exclamation mark.  A tag of one exclamation mark alone has no
handle and the mark as its suffix. -/
def scanTag (flow : Bool) (c : Cursor) : Except Fault (Token × Cursor) := do
  let start := c.mark
  let (handle, suffix, c) ← if c.sees '<' 1 then
      let (suffix, c) ← readUri true false "" start (c.skip 2)
      if !c.sees '>' then throw (c.fault .noTagClose .tag start)
      pure ("", suffix, c.skip)
    else
      let (handle, c) ← readHandle false start c
      if 1 < handle.length && handle.endsWith "!" then
        let (suffix, c) ← readUri false false "" start c
        pure (handle, suffix, c)
      else
        let (suffix, c) ← readUri false false handle start c
        pure (if suffix.isEmpty then ("", "!".toUTF8, c) else ("!", suffix, c))
  if !(c.seesGap || (flow && c.sees ',')) then throw (c.fault .noTagBreak .tag start)
  return (⟨.tag handle suffix, start, c.mark⟩, c)

end Scaffold.Yaml
