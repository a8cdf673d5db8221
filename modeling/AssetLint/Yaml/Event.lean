import AssetLint.Yaml.Token

/-!
Events of a stream: its documents, and each document as a list of nodes in reading order.
-/
namespace AssetLint.Yaml

/-- What a node carries before its content. -/
structure NodeProperties where
  anchor : Option String := none
  tag : Option TagText := none
  deriving DecidableEq, Repr

inductive Event where
  | streamEnd
  | documentStart
  | documentEnd
  | alias (name : String)
  | scalar (properties : NodeProperties) (text : String) (style : ScalarStyle)
  | sequenceStart (properties : NodeProperties)
  | sequenceEnd
  | mappingStart (properties : NodeProperties)
  | mappingEnd
  deriving DecidableEq, Repr

end AssetLint.Yaml
