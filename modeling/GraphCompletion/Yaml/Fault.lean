/-!
# Faults of a document

Where the reading of a YAML document fails. Most faults make the document invalid. The last ones are
not faults of its form: a scalar whose text does not suit its tag, be that given or told from the text,
or a number too large for what is to be done with it. Who asks for a document meets them as they are.
-/
namespace GraphCompletion.Yaml

/-- What is wrong with a document. -/
inductive Fault where
  /-- A character that may not stand in a document. -/
  | character
  /-- A text that is no token where it stands. -/
  | token
  /-- A token that may not stand where it does. -/
  | grammar
  /-- An unknown or repeated anchor, or a second document. -/
  | reference
  /-- A node that its tag cannot take. -/
  | construction
  /-- A number, a date or a character code that does not exist. -/
  | value
  /-- More levels than can be read. -/
  | depth
  /-- A truth value in a word that is none. -/
  | unknownWord
  /-- A number without a character. -/
  | emptyNumber
  /-- A timestamp that does not look like one. -/
  | notTimestamp
  /-- A timestamp that is a mapping. -/
  | mappingTimestamp
  /-- A number in base sixty with too many places. -/
  | overflow
  /-- A character code beyond all that could be codes. -/
  | codeTooLarge
  /-- A whole number with too many digits as a key of the outermost mapping. -/
  | keyTooLong
  deriving DecidableEq, Repr

namespace Fault

/-- The fault makes the document invalid. -/
def invalidates : Fault → Bool
  | unknownWord | emptyNumber | notTimestamp | mappingTimestamp | overflow | codeTooLarge
  | keyTooLong => false
  | _ => true

end Fault
end GraphCompletion.Yaml
