import WorkflowExpr.Yaml.Fault

/-!
# Tokens of a document

The signs and scalars of a document in the order of its text. Blocks that the text marks by their
indentation alone have signs of their own. A fault in the text is a token too, so that what stands in
front of it is read first.
-/

namespace WorkflowExpr.Yaml

/-- A tag as written: a handle that stands for a longer text, and what follows it. -/
structure WrittenTag where
  handle? : Option String
  suffix : String

/-- A token of a document. -/
inductive Token where
  /-- A directive for the version of the format. -/
  | version (major : Nat)
  /-- A directive that gives a handle a meaning. -/
  | handle (name meaning : String)
  /-- Any other directive. -/
  | directive
  | documentStart
  | documentEnd
  | blockSequence
  | blockMapping
  | blockEnd
  | flowSequence
  | flowSequenceEnd
  | flowMapping
  | flowMappingEnd
  | flowEntry
  | blockEntry
  | key
  | value
  | alias (name : String)
  | anchor (name : String)
  | tag (written : WrittenTag)
  | scalar (isPlain : Bool) (text : String)
  | broken (fault : Fault)

end WorkflowExpr.Yaml
