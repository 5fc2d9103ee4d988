/-!
# Faults of a YAML text

Every reason for which a YAML text cannot be read.
-/

namespace QualityScale.Yaml

/-- Why a YAML text cannot be read. -/
inductive ReadError where
  | controlCharacter
  | tabIndentation
  | unexpectedCharacter
  | misplacedBlockEntry
  | misplacedKey
  | misplacedValue
  | unfinishedKey
  | badDirective
  | incompatibleVersion
  | duplicateDirective
  | badAnchor
  | badTag
  | undefinedTagHandle
  | badBlockHeader
  | unexpectedDocumentMark
  | unclosedQuote
  | badEscape
  | ambiguousColon
  | expectedDocumentStart
  | expectedNode
  | expectedEntry
  | expectedKey
  | expectedCommaOrClose
  | severalDocuments
  | unknownAnchor
  | tooManyRepetitions
  | nestedTooDeep
  | numberOutOfRange
  | tagMismatch
  | duplicateKey
  | unexpectedKind
  | duplicateField
  deriving DecidableEq, Repr

/-- What is said about a YAML text that cannot be read. -/
def ReadError.message : ReadError → String
  | controlCharacter => "control characters are not allowed"
  | tabIndentation => "found a tab where an indentation space is expected"
  | unexpectedCharacter => "found character that cannot start any token"
  | misplacedBlockEntry => "block sequence entries are not allowed in this context"
  | misplacedKey => "mapping keys are not allowed in this context"
  | misplacedValue => "mapping values are not allowed in this context"
  | unfinishedKey => "could not find expected ':'"
  | badDirective => "found an invalid directive"
  | incompatibleVersion => "found incompatible YAML document"
  | duplicateDirective => "found duplicate directive"
  | badAnchor => "did not find expected alphabetic or numeric character"
  | badTag => "found an invalid tag"
  | undefinedTagHandle => "found undefined tag handle"
  | badBlockHeader => "found an invalid block scalar header"
  | unexpectedDocumentMark => "found unexpected document indicator"
  | unclosedQuote => "found unexpected end of stream"
  | badEscape => "found an invalid escape sequence"
  | ambiguousColon => "found unexpected ':'"
  | expectedDocumentStart => "did not find expected <document start>"
  | expectedNode => "did not find expected node content"
  | expectedEntry => "did not find expected '-' indicator"
  | expectedKey => "did not find expected key"
  | expectedCommaOrClose => "did not find expected ',' or closing bracket"
  | severalDocuments => "more than one document is not supported"
  | unknownAnchor => "unknown anchor"
  | tooManyRepetitions => "repetition limit exceeded"
  | nestedTooDeep => "recursion limit exceeded"
  | numberOutOfRange => "number out of range"
  | tagMismatch => "value does not fit its tag"
  | duplicateKey => "duplicate entry"
  | unexpectedKind => "value of an unexpected kind"
  | duplicateField => "duplicate field"

end QualityScale.Yaml
