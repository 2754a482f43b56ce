namespace RelSchema.Yaml

/-- A tag is made of bytes, since an escape can write bytes that are no text. -/
structure Tag where
  bytes : List UInt8
  deriving DecidableEq, Inhabited

namespace Tag

/-- The tag that bytes spell. A zero byte ends it. -/
def ofBytes (bytes : List UInt8) : Tag :=
  ⟨bytes.takeWhile (· ≠ 0)⟩

def ofString (s : String) : Tag :=
  .ofBytes (s.toList.flatMap String.utf8EncodeChar)

def append (lead suffix : Tag) : Tag :=
  ⟨lead.bytes ++ suffix.bytes⟩

/-- The beginning of the tags of the types that are known everywhere. -/
def coreLead : Tag :=
  .ofString "tag:yaml.org,2002:"

def core (name : String) : Tag :=
  coreLead.append (.ofString name)

/-- What stands behind the exclamation mark of a tag of the document's own. -/
def localBytes? (tag : Tag) : Option (List UInt8) :=
  match tag.bytes with
  | [] => none
  | mark :: rest => if mark = 33 then some rest else none

def isLocal (tag : Tag) : Bool :=
  tag.localBytes?.isSome

/-- Whether the tag is the document's own and names something. Nothing is known about what that
is. -/
def isUnknown (tag : Tag) : Bool :=
  tag.localBytes?.any fun bytes => (String.fromUTF8? bytes.toByteArray).isSome

end Tag

end RelSchema.Yaml
