import Scaffold.Yaml.Token
/-!
# Yaml.Fault — why a text is not YAML

A fault names its cause and place, and what was being read when it was found.
-/
namespace Scaffold.Yaml

/-- What was being read when a fault was found. -/
inductive Activity where
  | nextToken
  | simpleKey
  | directive
  | versionDirective
  | tagDirective
  | tagDirectiveHandle
  | tagDirectiveHandleEnd
  | tagDirectivePrefix
  | anchor
  | alias
  | tag
  | tagSuffix
  | blockScalar
  | quotedScalar
  | quotedEscape
  | plainScalar
  | node
  | blockNode
  | flowNode
  | blockSequence
  | blockMapping
  | flowSequence
  | flowMapping
  deriving Repr, DecidableEq

def Activity.text : Activity → String
  | .nextToken => "while scanning for the next token"
  | .simpleKey => "while scanning a simple key"
  | .directive => "while scanning a directive"
  | .versionDirective => "while scanning a %YAML directive"
  | .tagDirective => "while scanning a %TAG directive"
  | .tagDirectiveHandle => "while scanning a tag directive"
  | .tagDirectiveHandleEnd => "while parsing a tag directive"
  | .tagDirectivePrefix => "while parsing a %TAG directive"
  | .anchor => "while scanning an anchor"
  | .alias => "while scanning an alias"
  | .tag => "while scanning a tag"
  | .tagSuffix => "while parsing a tag"
  | .blockScalar => "while scanning a block scalar"
  | .quotedScalar => "while scanning a quoted scalar"
  | .quotedEscape => "while parsing a quoted scalar"
  | .plainScalar => "while scanning a plain scalar"
  | .node => "while parsing a node"
  | .blockNode => "while parsing a block node"
  | .flowNode => "while parsing a flow node"
  | .blockSequence => "while parsing a block collection"
  | .blockMapping => "while parsing a block mapping"
  | .flowSequence => "while parsing a flow sequence"
  | .flowMapping => "while parsing a flow mapping"

/-- What is wrong with a text. -/
inductive Cause where
  | controlCharacter
  | noTokenStart
  | missingColon
  | unknownDirective
  | noDirectiveName
  | directiveNameCharacter
  | directiveEnd
  | longVersionNumber
  | noVersionNumber
  | noVersionDot
  | noTagWhitespace
  | noTagBreak
  | noTagBang
  | noTagUri
  | noTagClose
  | noUriEscape
  | leadingOctet
  | trailingOctet
  | anchorCharacter
  | zeroIndentation
  | blockScalarHeader
  | indentationTab
  | documentIndicator
  | unclosedQuote
  | unknownEscape
  | noHexNumber
  | noCharacter
  | plainTab
  | plainColon
  | blockEntryPlace
  | keyPlace
  | valuePlace
  | noDocumentStart
  | secondVersion
  | incompatibleVersion
  | secondTagHandle
  | undefinedHandle
  | noNode
  | noBlockEntry
  | noBlockKey
  | noFlowSequenceEnd
  | noFlowMappingEnd
  deriving Repr, DecidableEq

def Cause.text : Cause → String
  | .controlCharacter => "control characters are not allowed"
  | .noTokenStart => "found character that cannot start any token"
  | .missingColon => "could not find expected ':'"
  | .unknownDirective => "found unknown directive name"
  | .noDirectiveName => "could not find expected directive name"
  | .directiveNameCharacter => "found unexpected non-alphabetical character"
  | .directiveEnd => "did not find expected comment or line break"
  | .longVersionNumber => "found extremely long version number"
  | .noVersionNumber => "did not find expected version number"
  | .noVersionDot => "did not find expected digit or '.' character"
  | .noTagWhitespace => "did not find expected whitespace"
  | .noTagBreak => "did not find expected whitespace or line break"
  | .noTagBang => "did not find expected '!'"
  | .noTagUri => "did not find expected tag URI"
  | .noTagClose => "did not find the expected '>'"
  | .noUriEscape => "did not find URI escaped octet"
  | .leadingOctet => "found an incorrect leading UTF-8 octet"
  | .trailingOctet => "found an incorrect trailing UTF-8 octet"
  | .anchorCharacter => "did not find expected alphabetic or numeric character"
  | .zeroIndentation => "found an indentation indicator equal to 0"
  | .blockScalarHeader => "did not find expected comment or line break"
  | .indentationTab => "found a tab character where an indentation space is expected"
  | .documentIndicator => "found unexpected document indicator"
  | .unclosedQuote => "found unexpected end of stream"
  | .unknownEscape => "found unknown escape character"
  | .noHexNumber => "did not find expected hexadecimal number"
  | .noCharacter => "found invalid Unicode character escape code"
  | .plainTab => "found a tab character that violates indentation"
  | .plainColon => "found unexpected ':'"
  | .blockEntryPlace => "block sequence entries are not allowed in this context"
  | .keyPlace => "mapping keys are not allowed in this context"
  | .valuePlace => "mapping values are not allowed in this context"
  | .noDocumentStart => "did not find expected <document start>"
  | .secondVersion => "found duplicate %YAML directive"
  | .incompatibleVersion => "found incompatible YAML document"
  | .secondTagHandle => "found duplicate %TAG directive"
  | .undefinedHandle => "found undefined tag handle"
  | .noNode => "did not find expected node content"
  | .noBlockEntry => "did not find expected '-' indicator"
  | .noBlockKey => "did not find expected key"
  | .noFlowSequenceEnd => "did not find expected ',' or ']'"
  | .noFlowMappingEnd => "did not find expected ',' or '\x7d'"

/-- A fault in a YAML text.  A character that no YAML text may hold is placed by its offset in bytes. -/
inductive Fault where
  | at_ (cause : Cause) (mark : Mark) (activity : Option (Activity × Mark))
  | unreadable (offset : Nat)
  deriving Repr, DecidableEq

/-- The message of a fault: cause, place, activity, and where that began unless it is the same place. -/
def Fault.message : Fault → String
  | .unreadable offset =>
    Cause.controlCharacter.text ++ if offset == 0 then "" else " at position " ++ toString offset
  | .at_ cause mark activity =>
    cause.text ++ mark.trailer ++ match activity with
      | none => ""
      | some (a, start) =>
        ", " ++ a.text ++ if start.line == mark.line && start.column == mark.column then "" else start.trailer

end Scaffold.Yaml
