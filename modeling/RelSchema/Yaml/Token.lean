import RelSchema.Yaml.Tag

namespace RelSchema.Yaml

inductive Token
  | version (major minor : Nat)
  /-- From here on the handle stands for `lead` at the beginning of tags. -/
  | handle (name : String) (lead : Tag)
  | documentStart
  | documentEnd
  | blockSequenceStart
  | blockMappingStart
  | blockEnd
  | flowSequenceStart
  | flowSequenceEnd
  | flowMappingStart
  | flowMappingEnd
  | blockEntry
  | flowEntry
  | key
  | value
  | anchor (name : String)
  | reference (name : String)
  | tag (handle : String) (suffix : Tag)
  | scalar (isPlain : Bool) (text : String)
  deriving DecidableEq, Inhabited

end RelSchema.Yaml
