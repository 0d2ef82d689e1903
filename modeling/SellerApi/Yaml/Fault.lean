/-! # Faults of a YAML text

Which fault a text has is decided here. What a user is told of it is up to the reader in use
(`Wording`), as its words may name a place in the text. -/

namespace SellerApi.Yaml

/-- Why a text is no YAML document, or not one that is wanted. -/
inductive Fault where
  | controlCharacter
  /-- A tab where only blanks indent. -/
  | tab
  | unknownDirective
  | badDirective
  | badVersion
  | badAnchor
  | badTag
  | unknownTagHandle
  | badBlockHeader
  | badEscape
  /-- A quoted text that does not end. -/
  | openQuote
  | strayCharacter
  | strayEntry
  | strayKey
  | strayValue
  /-- A line that has to be a key has no colon. -/
  | missingColon
  | strayColon
  | missingContent
  | missingDelimiter
  | missingDocumentStart
  | unknownAlias
  | severalDocuments
  /-- The document is not of the expected shape. -/
  | badShape
  deriving DecidableEq, Repr

def Fault.message : Fault → String
  | .controlCharacter => "control characters are not allowed"
  | .tab => "found a tab where an indentation blank is expected"
  | .unknownDirective => "found unknown directive name"
  | .badDirective => "did not find a well-formed directive"
  | .badVersion => "found incompatible version"
  | .badAnchor => "did not find expected name of an anchor"
  | .badTag => "did not find expected tag"
  | .unknownTagHandle => "found undefined tag handle"
  | .badBlockHeader => "did not find expected header of a block"
  | .badEscape => "found unknown escape"
  | .openQuote => "found unexpected end of a quoted text"
  | .strayCharacter => "found character that cannot start any token"
  | .strayEntry => "block sequence entries are not allowed in this context"
  | .strayKey => "mapping keys are not allowed in this context"
  | .strayValue => "mapping values are not allowed in this context"
  | .missingColon => "could not find expected ':'"
  | .strayColon => "found unexpected ':'"
  | .missingContent => "did not find expected node content"
  | .missingDelimiter => "did not find expected delimiter"
  | .missingDocumentStart => "did not find expected document start"
  | .unknownAlias => "unknown anchor"
  | .severalDocuments => "more than one document"
  | .badShape => "unexpected shape"

/-- How the reader in use tells a fault of a text. Its words are its own, and so is how it names a
place in the text. -/
class Wording where
  tell (text : String) (fault : Fault) : String

/-- Where nothing is known of the reader, no place is named. -/
instance Wording.placeless : Wording := ⟨fun _ fault => fault.message⟩

end SellerApi.Yaml
