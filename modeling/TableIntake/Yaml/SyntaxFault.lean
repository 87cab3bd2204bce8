import TableIntake.Yaml.Place

/-! # Faults of syntax

Why a text is no document: what was met or missed, where, and what was being read.
-/

namespace TableIntake.Yaml

inductive Problem where
  | noToken
  | noColon
  | entryNotAllowed
  | keyNotAllowed
  | valueNotAllowed
  | noLineEnd
  | noDirectiveName
  | unknownDirective
  | notAlphabetical
  | noVersionMark
  | noVersionNumber
  | longVersionNumber
  | noBlank
  | noWordEnd
  | noAnchorName
  | noClosingAngle
  | noExclamationMark
  | noTag
  | noOctet
  | leadingOctet
  | trailingOctet
  | noIndentation
  | tabForIndentation
  | tabBeforeText
  | documentMarker
  | endOfText
  | unknownEscape
  | noHexadecimal
  | noCharacter
  | colonInWord
  | noDocumentStart
  | undefinedHandle
  | noContent
  | noDash
  | noKey
  | noCommaOrBracket
  | noCommaOrBrace
  | repeatedVersion
  | otherVersion
  | repeatedHandle
deriving DecidableEq, Repr

def Problem.message : Problem → String
  | .noToken => "found character that cannot start any token"
  | .noColon => "could not find expected ':'"
  | .entryNotAllowed => "block sequence entries are not allowed in this context"
  | .keyNotAllowed => "mapping keys are not allowed in this context"
  | .valueNotAllowed => "mapping values are not allowed in this context"
  | .noLineEnd => "did not find expected comment or line break"
  | .noDirectiveName => "could not find expected directive name"
  | .unknownDirective => "found unknown directive name"
  | .notAlphabetical => "found unexpected non-alphabetical character"
  | .noVersionMark => "did not find expected digit or '.' character"
  | .noVersionNumber => "did not find expected version number"
  | .longVersionNumber => "found extremely long version number"
  | .noBlank => "did not find expected whitespace"
  | .noWordEnd => "did not find expected whitespace or line break"
  | .noAnchorName => "did not find expected alphabetic or numeric character"
  | .noClosingAngle => "did not find the expected '>'"
  | .noExclamationMark => "did not find expected '!'"
  | .noTag => "did not find expected tag URI"
  | .noOctet => "did not find URI escaped octet"
  | .leadingOctet => "found an incorrect leading UTF-8 octet"
  | .trailingOctet => "found an incorrect trailing UTF-8 octet"
  | .noIndentation => "found an indentation indicator equal to 0"
  | .tabForIndentation => "found a tab character where an indentation space is expected"
  | .tabBeforeText => "found a tab character that violates indentation"
  | .documentMarker => "found unexpected document indicator"
  | .endOfText => "found unexpected end of stream"
  | .unknownEscape => "found unknown escape character"
  | .noHexadecimal => "did not find expected hexdecimal number"
  | .noCharacter => "found invalid Unicode character escape code"
  | .colonInWord => "found unexpected ':'"
  | .noDocumentStart => "did not find expected <document start>"
  | .undefinedHandle => "found undefined tag handle"
  | .noContent => "did not find expected node content"
  | .noDash => "did not find expected '-' indicator"
  | .noKey => "did not find expected key"
  | .noCommaOrBracket => "did not find expected ',' or ']'"
  | .noCommaOrBrace => "did not find expected ',' or '\x7d'"
  | .repeatedVersion => "found duplicate %YAML directive"
  | .otherVersion => "found incompatible YAML document"
  | .repeatedHandle => "found duplicate %TAG directive"

inductive Activity where
  | token
  | simpleKey
  | directive
  | versionDirective
  | tagDirective
  | tagDirectiveStart
  | tagDirectiveHandle
  | tagDirectiveText
  | anchor
  | alias
  | tag
  | tagText
  | blockScalar
  | quotedScalar
  | escape
  | plainScalar
  | node
  | blockNode
  | flowNode
  | blockSequence
  | blockMapping
  | flowSequence
  | flowMapping
deriving DecidableEq, Repr

def Activity.message : Activity → String
  | .token => "while scanning for the next token"
  | .simpleKey => "while scanning a simple key"
  | .directive => "while scanning a directive"
  | .versionDirective => "while scanning a %YAML directive"
  | .tagDirective => "while scanning a %TAG directive"
  | .tagDirectiveStart => "while scanning a tag directive"
  | .tagDirectiveHandle => "while parsing a tag directive"
  | .tagDirectiveText => "while parsing a %TAG directive"
  | .anchor => "while scanning an anchor"
  | .alias => "while scanning an alias"
  | .tag => "while scanning a tag"
  | .tagText => "while parsing a tag"
  | .blockScalar => "while scanning a block scalar"
  | .quotedScalar => "while scanning a quoted scalar"
  | .escape => "while parsing a quoted scalar"
  | .plainScalar => "while scanning a plain scalar"
  | .node => "while parsing a node"
  | .blockNode => "while parsing a block node"
  | .flowNode => "while parsing a flow node"
  | .blockSequence => "while parsing a block collection"
  | .blockMapping => "while parsing a block mapping"
  | .flowSequence => "while parsing a flow sequence"
  | .flowMapping => "while parsing a flow mapping"

structure Undertaking where
  activity : Activity
  start : Mark
deriving DecidableEq, Repr

/-- A character that no document holds, behind so many bytes, or a problem at a mark. -/
inductive SyntaxFault where
  | forbidden (offset : Nat)
  | met (problem : Problem) (mark : Mark) (during : Option Undertaking)
deriving DecidableEq, Repr

namespace SyntaxFault

/-- A start that lies where the problem does is not told again. -/
def message : SyntaxFault → String
  | .forbidden offset =>
      "control characters are not allowed" ++
        (if offset = 0 then "" else " at position " ++ toString offset)
  | .met problem mark none => problem.message ++ mark.told
  | .met problem mark (some during) =>
      problem.message ++ mark.told ++ ", " ++ during.activity.message ++
        (if during.start = mark then "" else during.start.told)

example : message (.met .noKey ⟨3, 0⟩ (some ⟨.blockMapping, ⟨1, 2⟩⟩)) =
    "did not find expected key at line 4 column 1, while parsing a block mapping " ++
      "at line 2 column 3" := by
  decide +kernel

end SyntaxFault

def Undertaking.fault (during : Undertaking) (problem : Problem) (place : Place) : SyntaxFault :=
  .met problem place.mark (some during)

end TableIntake.Yaml
