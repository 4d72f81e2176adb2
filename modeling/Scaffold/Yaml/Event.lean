import Scaffold.Yaml.Token
import Scaffold.Yaml.Token.Scanner
/-!
# Yaml.Event — the structure of a YAML text, as a list of events

Collections are written as their beginning and their end, with the events of their members between the two.  The keys
and values of a mapping follow one another.

The reader knows what it expects next and, on a stack, what it expects after that.  One step reads one event.  A node
that the text leaves out, as the value in `key:`, is an empty plain scalar.
-/
namespace Scaffold.Yaml

/-- What an event says.  The tag of a node is resolved: the handle is replaced by what it stands for. -/
inductive EventKind where
  | streamEnd
  | documentStart
  | documentEnd
  | alias (name : String)
  | scalar (anchor : Option String) (tag : Option ByteArray) (text : String) (style : ScalarStyle)
  | sequenceStart (anchor : Option String) (tag : Option ByteArray)
  | sequenceEnd
  | mappingStart (anchor : Option String) (tag : Option ByteArray)
  | mappingEnd
  deriving BEq

structure Event where
  kind : EventKind
  mark : Mark
  deriving BEq

/-! ## Reading -/

/-- What may come next.  The flag `first` says that nothing of the collection has been read yet but its beginning. -/
inductive Expectation where
  | implicitDocument
  | document
  | documentContent
  | node
  | documentEnd
  | blockEntry (first : Bool)
  | indentlessEntry
  | blockKey (first : Bool)
  | blockValue
  | flowEntry (first : Bool)
  | pairKey
  | pairValue
  | pairEnd
  | flowKey (first : Bool)
  | flowValue
  | flowNoValue
  | nothing
  deriving Repr, DecidableEq

structure Reader where
  scanner : Scanner
  expected : Expectation := .implicitDocument
  /-- What is expected when the node being read is complete, the innermost first. -/
  pending : List Expectation := []
  /-- Where the open collections begin, the innermost first. -/
  openings : List Mark := []
  /-- The handles of tags and what they stand for. -/
  handles : List (String × ByteArray) := []

abbrev Reading := Except Fault (Event × Reader)

namespace Reader

/-- The next token, which is not yet consumed. -/
def peek (r : Reader) : Except Fault (Token × Reader) := do
  let (t, s) ← r.scanner.next
  return (t, { r with scanner := s })

def drop (r : Reader) : Reader := { r with scanner := r.scanner.drop }

def resume (r : Reader) : Reader := { r with expected := r.pending.headD .nothing, pending := r.pending.drop 1 }

def expecting (r : Reader) (e : Expectation) : Reader := { r with expected := e }

def leave (r : Reader) : Reader := { r.resume with openings := r.openings.drop 1 }

/-- A node that the text leaves out. -/
def omitted (r : Reader) (mark : Mark) : Reading := .ok (⟨.scalar none none "" .plain, mark⟩, r)

def broken (r : Reader) (cause : Cause) (activity : Activity) (t : Token) : Fault :=
  .at_ cause t.start (some (activity, r.openings.headD {}))

/-- The handles that every document knows. -/
def standardHandles : List (String × ByteArray) := [("!", "!".toUTF8), ("!!", "tag:yaml.org,2002:".toUTF8)]

/-- Reads the directives in front of a document.  `fuel` bounds their number. -/
def readDirectives (fuel : Nat) (r : Reader) (versioned : Bool) (given : List (String × ByteArray)) :
    Except Fault Reader := do
  let (t, r) ← r.peek
  match fuel, t.kind with
  | fuel + 1, .versionDirective major minor =>
    if versioned then throw (.at_ .secondVersion t.start none)
    if major != 1 || (minor != 1 && minor != 2) then throw (.at_ .incompatibleVersion t.start none)
    readDirectives fuel r.drop true given
  | fuel + 1, .tagDirective handle head =>
    if (given.lookup handle).isSome then throw (.at_ .secondTagHandle t.start none)
    readDirectives fuel r.drop versioned (given ++ [(handle, head)])
  | _, _ => return { r with handles := given ++ standardHandles }

def tokenBound (r : Reader) : Nat := 3 * r.scanner.cursor.rest.length + r.scanner.queue.length + 8

def skipDocumentEnds (fuel : Nat) (r : Reader) : Except Fault (Token × Reader) := do
  let (t, r) ← r.peek
  match fuel, t.kind with
  | fuel + 1, .documentEnd => skipDocumentEnds fuel r.drop
  | _, _ => return (t, r)

/-- Reads the beginning of a document, or the end of the text.  Only the first document may lack its indicator. -/
def readDocumentStart (r : Reader) (implicit : Bool) : Reading := do
  let (t, r) ← if implicit then r.peek else skipDocumentEnds r.tokenBound r
  match t.kind with
  | .streamEnd => return (⟨.streamEnd, t.start⟩, (r.expecting .nothing).drop)
  | .versionDirective .. | .tagDirective .. | .documentStart => readExplicit t.start r
  | _ =>
    if implicit then
      let r := { r with handles := standardHandles, pending := .documentEnd :: r.pending }
      return (⟨.documentStart, t.start⟩, r.expecting .node)
    else readExplicit t.start r
where
  readExplicit (start : Mark) (r : Reader) : Reading := do
    let r ← readDirectives r.tokenBound r false []
    let (t, r) ← r.peek
    if t.kind != .documentStart then throw (.at_ .noDocumentStart t.start none)
    let r := { r with pending := .documentEnd :: r.pending }
    return (⟨.documentStart, start⟩, (r.expecting .documentContent).drop)

def readDocumentEnd (r : Reader) : Reading := do
  let (t, r) ← r.peek
  let r := if t.kind == .documentEnd then r.drop else r
  return (⟨.documentEnd, t.start⟩, { r with handles := [] }.expecting .document)

structure Properties where
  anchor : Option String := none
  tag : Option (String × ByteArray × Mark) := none
  start : Mark

/-- Reads anchor and tag of a node, in either order and each at most once. -/
def readProperties (r : Reader) : Except Fault (Properties × Token × Reader) := do
  let (t, r) ← r.peek
  match t.kind with
  | .anchor name =>
    let (t', r) ← r.drop.peek
    match t'.kind with
    | .tag handle suffix =>
      let (t'', r) ← r.drop.peek
      return (⟨some name, some (handle, suffix, t'.start), t.start⟩, t'', r)
    | _ => return (⟨some name, none, t.start⟩, t', r)
  | .tag handle suffix =>
    let (t', r) ← r.drop.peek
    match t'.kind with
    | .anchor name =>
      let (t'', r) ← r.drop.peek
      return (⟨some name, some (handle, suffix, t.start), t.start⟩, t'', r)
    | _ => return (⟨none, some (handle, suffix, t.start), t.start⟩, t', r)
  | _ => return (⟨none, none, t.start⟩, t, r)

def resolveTag (r : Reader) (p : Properties) : Except Fault (Option ByteArray) :=
  match p.tag with
  | none => .ok none
  | some (handle, suffix, mark) =>
    if handle.isEmpty then .ok (some suffix)
    else match r.handles.lookup handle with
      | some head => .ok (some (head ++ suffix))
      | none => .error (.at_ .undefinedHandle mark (some (.node, p.start)))

/-- Reads the beginning of a node.  `block` says that block collections are allowed here, `indentless` that also
entries are that stand at the column of their key. -/
def readNode (r : Reader) (block indentless : Bool) : Reading := do
  let (t, r) ← r.peek
  if let .alias name := t.kind then return (⟨.alias name, t.start⟩, r.resume.drop)
  let (p, t, r) ← r.readProperties
  let tag ← r.resolveTag p
  let collection (kind : EventKind) (e : Expectation) : Reading := .ok (⟨kind, p.start⟩, r.expecting e)
  match t.kind with
  | .blockEntry =>
    if indentless then collection (.sequenceStart p.anchor tag) .indentlessEntry else absent p t tag r
  | .scalar text style =>
    return (⟨.scalar p.anchor tag text style, p.start⟩, r.resume.drop)
  | .flowSequenceStart => collection (.sequenceStart p.anchor tag) (.flowEntry true)
  | .flowMappingStart => collection (.mappingStart p.anchor tag) (.flowKey true)
  | .blockSequenceStart =>
    if block then collection (.sequenceStart p.anchor tag) (.blockEntry true) else absent p t tag r
  | .blockMappingStart =>
    if block then collection (.mappingStart p.anchor tag) (.blockKey true) else absent p t tag r
  | _ => absent p t tag r
where
  /-- A node of which only anchor or tag is written. -/
  absent (p : Properties) (t : Token) (tag : Option ByteArray) (r : Reader) : Reading :=
    if p.anchor.isSome || tag.isSome then .ok (⟨.scalar p.anchor tag "" .plain, p.start⟩, r.resume)
    else .error (.at_ .noNode t.start (some (if block then .blockNode else .flowNode, p.start)))

/-- Reads a node after which `e` is expected. -/
def readNodeThen (r : Reader) (e : Expectation) (block indentless : Bool) : Reading :=
  { r with pending := e :: r.pending }.readNode block indentless

def enter (r : Reader) (first : Bool) : Except Fault Reader := do
  if !first then return r
  let (t, r) ← r.peek
  return { r with openings := t.start :: r.openings }.drop

def readDocumentContent (r : Reader) : Reading := do
  let (t, r) ← r.peek
  match t.kind with
  | .versionDirective .. | .tagDirective .. | .documentStart | .documentEnd | .streamEnd => r.resume.omitted t.start
  | _ => r.readNode true false

def readBlockEntry (r : Reader) (first : Bool) : Reading := do
  let (t, r) ← (← r.enter first).peek
  match t.kind with
  | .blockEntry =>
    let (t', r) ← r.drop.peek
    match t'.kind with
    | .blockEntry | .blockEnd => (r.expecting (.blockEntry false)).omitted t.stop
    | _ => r.readNodeThen (.blockEntry false) true false
  | .blockEnd => return (⟨.sequenceEnd, t.start⟩, r.leave.drop)
  | _ => throw (r.broken .noBlockEntry .blockSequence t)

/-- Reads an entry of a sequence that stands at the column of its key, or the end of that sequence. -/
def readIndentlessEntry (r : Reader) : Reading := do
  let (t, r) ← r.peek
  match t.kind with
  | .blockEntry =>
    let (t', r) ← r.drop.peek
    match t'.kind with
    | .blockEntry | .key | .value | .blockEnd => (r.expecting .indentlessEntry).omitted t.stop
    | _ => r.readNodeThen .indentlessEntry true false
  | _ => return (⟨.sequenceEnd, t.start⟩, r.resume)

def readBlockKey (r : Reader) (first : Bool) : Reading := do
  let (t, r) ← (← r.enter first).peek
  match t.kind with
  | .key =>
    let (t', r) ← r.drop.peek
    match t'.kind with
    | .key | .value | .blockEnd => (r.expecting .blockValue).omitted t.stop
    | _ => r.readNodeThen .blockValue true true
  | .blockEnd => return (⟨.mappingEnd, t.start⟩, r.leave.drop)
  | _ => throw (r.broken .noBlockKey .blockMapping t)

def readBlockValue (r : Reader) : Reading := do
  let (t, r) ← r.peek
  match t.kind with
  | .value =>
    let (t', r) ← r.drop.peek
    match t'.kind with
    | .key | .value | .blockEnd => (r.expecting (.blockKey false)).omitted t.stop
    | _ => r.readNodeThen (.blockKey false) true true
  | _ => (r.expecting (.blockKey false)).omitted t.start

/-- Consumes the comma before a member of a flow collection other than the first. -/
def readComma (r : Reader) (first : Bool) (cause : Cause) (activity : Activity) (t : Token) :
    Except Fault (Token × Reader) := do
  if first then return (t, r)
  if t.kind != .flowEntry then throw (r.broken cause activity t)
  r.drop.peek

/-- Reads an entry of a flow sequence, or its end.  An entry may be a single pair of a mapping. -/
def readFlowEntry (r : Reader) (first : Bool) : Reading := do
  let (t, r) ← (← r.enter first).peek
  if t.kind == .flowSequenceEnd then return (⟨.sequenceEnd, t.start⟩, r.leave.drop)
  let (t, r) ← r.readComma first .noFlowSequenceEnd .flowSequence t
  match t.kind with
  | .key => return (⟨.mappingStart none none, t.start⟩, (r.expecting .pairKey).drop)
  | .flowSequenceEnd => return (⟨.sequenceEnd, t.start⟩, r.leave.drop)
  | _ => r.readNodeThen (.flowEntry false) false false

/-- Reads the key of a single pair.  A sign that stands in its place is consumed. -/
def readPairKey (r : Reader) : Reading := do
  let (t, r) ← r.peek
  match t.kind with
  | .value | .flowEntry | .flowSequenceEnd => (r.expecting .pairValue).drop.omitted t.stop
  | _ => r.readNodeThen .pairValue false false

def readPairValue (r : Reader) : Reading := do
  let (t, r) ← r.peek
  match t.kind with
  | .value =>
    let (t', r) ← r.drop.peek
    match t'.kind with
    | .flowEntry | .flowSequenceEnd => (r.expecting .pairEnd).omitted t'.start
    | _ => r.readNodeThen .pairEnd false false
  | _ => (r.expecting .pairEnd).omitted t.start

def readPairEnd (r : Reader) : Reading := do
  let (t, r) ← r.peek
  return (⟨.mappingEnd, t.start⟩, r.expecting (.flowEntry false))

def readFlowKey (r : Reader) (first : Bool) : Reading := do
  let (t, r) ← (← r.enter first).peek
  if t.kind == .flowMappingEnd then return (⟨.mappingEnd, t.start⟩, r.leave.drop)
  let (t, r) ← r.readComma first .noFlowMappingEnd .flowMapping t
  match t.kind with
  | .key =>
    let (t', r) ← r.drop.peek
    match t'.kind with
    | .value | .flowEntry | .flowMappingEnd => (r.expecting .flowValue).omitted t'.start
    | _ => r.readNodeThen .flowValue false false
  | .flowMappingEnd => return (⟨.mappingEnd, t.start⟩, r.leave.drop)
  | _ => r.readNodeThen .flowNoValue false false

def readFlowValue (r : Reader) : Reading := do
  let (t, r) ← r.peek
  match t.kind with
  | .value =>
    let (t', r) ← r.drop.peek
    match t'.kind with
    | .flowEntry | .flowMappingEnd => (r.expecting (.flowKey false)).omitted t'.start
    | _ => r.readNodeThen (.flowKey false) false false
  | _ => (r.expecting (.flowKey false)).omitted t.start

/-- Reads the value of a key of a flow mapping that has no colon. -/
def readFlowNoValue (r : Reader) : Reading := do
  let (t, r) ← r.peek
  (r.expecting (.flowKey false)).omitted t.start

def next (r : Reader) : Reading :=
  match r.expected with
  | .implicitDocument => r.readDocumentStart true
  | .document => r.readDocumentStart false
  | .documentContent => r.readDocumentContent
  | .node => r.readNode true false
  | .documentEnd => r.readDocumentEnd
  | .blockEntry first => r.readBlockEntry first
  | .indentlessEntry => r.readIndentlessEntry
  | .blockKey first => r.readBlockKey first
  | .blockValue => r.readBlockValue
  | .flowEntry first => r.readFlowEntry first
  | .pairKey => r.readPairKey
  | .pairValue => r.readPairValue
  | .pairEnd => r.readPairEnd
  | .flowKey first => r.readFlowKey first
  | .flowValue => r.readFlowValue
  | .flowNoValue => r.readFlowNoValue
  | .nothing => .ok (⟨.streamEnd, r.scanner.mark⟩, r)

end Reader

end Scaffold.Yaml
