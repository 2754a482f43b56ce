import RelSchema.Binary64.Notation
import RelSchema.Yaml.Style

namespace RelSchema.Yaml

inductive Data
  | scalar (value : Value)
  | list (items : List Data)
  | map (entries : List (String × Data))
  deriving Inhabited

namespace Data

def text (s : String) : Data :=
  .scalar (.text s)

def valueText (indent : Nat) : Value → List Char
  | .text s => scalarText indent s
  | .float x => (NumberStyle.document.text x).toList
  | v => v.display.toList

/-- Ends the line, unless the text does. -/
def ended (cs : List Char) : List Char :=
  if cs.getLast?.any isBreak then cs else cs ++ ['\n']

/-- A key that fits on a line with its value. -/
def isShortKey (key : String) : Bool :=
  !key.toList.any isLineEnd && key.utf8ByteSize ≤ 128

/-- A key, up to and with the colon, in a mapping that begins in column `indent`. -/
def keyText (indent : Nat) (key : String) : List Char :=
  let text := scalarText (indent + 2) key
  if isShortKey key then text ++ [':'] else '?' :: ' ' :: ended text ++ blanks indent ++ [':']

/-- Where data are written: on a line that has reached their column, or behind the short key of a
mapping that begins at that column. -/
inductive Place
  | atColumn | behindKey
  deriving DecidableEq

def Place.blank : Place → List Char
  | .atColumn => []
  | .behindKey => [' ']

/-- The line ends and blanks up to a column, before a collection that is not empty. -/
def Place.newLine (place : Place) (column : Nat) : List Char :=
  match place with
  | .atColumn => []
  | .behindKey => '\n' :: blanks column

/-- Scalars and mappings behind a key begin two columns behind the mapping, and lists do not. -/
def Place.inner (place : Place) (indent : Nat) : Nat :=
  match place with
  | .atColumn => indent
  | .behindKey => indent + 2

mutual

def lines (place : Place) (indent : Nat) : Data → List Char
  | .scalar value => place.blank ++ ended (valueText (place.inner indent) value)
  | .list items =>
    if items.isEmpty then place.blank ++ ['[', ']', '\n']
    else place.newLine indent ++ itemLines indent items
  | .map entries =>
    if entries.isEmpty then place.blank ++ ['\x7b', '\x7d', '\n']
    else place.newLine (place.inner indent) ++ entryLines (place.inner indent) entries

def itemLines (indent : Nat) : List Data → List Char
  | [] => []
  | item :: rest =>
    '-' :: ' ' :: lines .atColumn (indent + 2) item ++
      (if rest.isEmpty then [] else blanks indent) ++ itemLines indent rest

def entryLines (indent : Nat) : List (String × Data) → List Char
  | [] => []
  | (key, value) :: rest =>
    keyText indent key ++
      (if isShortKey key then lines .behindKey indent value
        else ' ' :: lines .atColumn (indent + 2) value) ++
      (if rest.isEmpty then [] else blanks indent) ++ entryLines indent rest

end

def toText (data : Data) : String :=
  .ofList (lines .atColumn 0 data)

end Data

end RelSchema.Yaml
