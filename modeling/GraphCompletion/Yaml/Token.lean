import GraphCompletion.Text.Basic

/-!
# Tokens of a document

The words of a YAML document: indicators, the starts and ends of collections that indentation or
brackets give, and scalars with their properties.
-/
namespace GraphCompletion.Yaml

/-- A line before a document that tells how to read it. -/
inductive Directive where
  | version (major minor : Nat)
  | tag (handle stem : Text)
  | other (name : Text)
  deriving DecidableEq, Repr

/-- A word of a document. -/
inductive Token where
  | directive (d : Directive)
  | documentStart
  | documentEnd
  | blockSequenceStart
  | blockMappingStart
  | blockEnd
  | flowSequenceStart
  | flowSequenceEnd
  | flowMappingStart
  | flowMappingEnd
  | blockEntry
  | flowEntry
  | key
  | value
  | alias (name : Text)
  | anchor (name : Text)
  | tag (handle : Option Text) (suffix : Text)
  | scalar (isPlain : Bool) (text : Text)
  deriving DecidableEq, Repr

end GraphCompletion.Yaml
