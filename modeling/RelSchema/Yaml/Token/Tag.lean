import RelSchema.Text.Digits
import RelSchema.Yaml.Mark
import RelSchema.Yaml.Token

namespace RelSchema.Yaml

/-- The characters of a tag besides those of names. Brackets and commas would end a tag in flow
style, so they are allowed only where no collection can follow. -/
def isTagChar (isDelimited : Bool) (c : Char) : Bool :=
  isNameChar c || c ∈ ";/?:@&=+$.!~*'()%".toList || (isDelimited && c ∈ [',', '[', ']'])

/-- How many bytes go with this one if it begins a character. -/
def bytesToFollow? (byte : Nat) : Option Nat :=
  if byte < 0x80 then some 0
  else if byte < 0xC0 then none
  else if byte < 0xE0 then some 1
  else if byte < 0xF0 then some 2
  else if byte < 0xF8 then some 3
  else none

/-- Reads percent signs with two hexadecimal digits as bytes, and other characters as themselves.
The bytes that go with the one that begins a character come as escapes, too; `missing` of them
are still to come. -/
def unescapeFrom? (missing : Nat) : List Char → Option (List UInt8)
  | [] => if missing = 0 then some [] else none
  | '%' :: a :: b :: rest => do
    let byte := (← Text.digit? 16 a) * 16 + (← Text.digit? 16 b)
    let missing ←
      if missing = 0 then bytesToFollow? byte
      else if 0x80 ≤ byte && byte < 0xC0 then some (missing - 1)
      else none
    return .ofNat byte :: (← unescapeFrom? missing rest)
  | c :: rest => do
    if c = '%' || missing ≠ 0 then none else return .ofNat c.toNat :: (← unescapeFrom? 0 rest)

def unescape? (text : List Char) : Option Tag :=
  (unescapeFrom? 0 text).map .ofBytes

/-- An exclamation mark and the name behind it, with another mark if one follows. -/
def tagHandle (here : List Mark) : List Char × List Mark :=
  let (name, rest) := span isNameChar (here.drop 1)
  if peek rest 0 = '!' then ('!' :: name ++ ['!'], rest.drop 1) else ('!' :: name, rest)

/-- Whether the text of a handle is one: an exclamation mark, or a name between two of them. -/
def isHandle (handle : List Char) : Bool :=
  handle.length > 1 && handle.getLast? = some '!'

def verbatimTag? (here : List Mark) : Option (Token × List Mark) := do
  let (text, rest) := span (isTagChar true) here
  if text.isEmpty || peek rest 0 ≠ '>' then none
  else return (.tag "" (← unescape? text), rest.drop 1)

def shorthandTag? (here : List Mark) : Option (Token × List Mark) := do
  let (handle, rest) := tagHandle here
  let (text, rest) := span (isTagChar false) rest
  if isHandle handle then
    if text.isEmpty then none
    else return (.tag (.ofList handle) (← unescape? text), rest)
  else
    let suffix ← unescape? (handle.drop 1 ++ text)
    return (if suffix.bytes.isEmpty then .tag "" (.ofString "!") else .tag "!" suffix, rest)

/-- Reads a tag, which a blank must follow; in flow style a comma may. -/
def tag? (inFlow : Bool) (here : List Mark) : Option (Token × List Mark) := do
  let (token, rest) ←
    if peek here 1 = '<' then verbatimTag? (here.drop 2) else shorthandTag? here
  if isGapOrEnd (peek rest 0) || (inFlow && peek rest 0 = ',') then return (token, rest) else none

def versionNumber? (here : List Mark) : Option (Nat × List Mark) :=
  let (digits, rest) := span Char.isDigit here
  if digits.isEmpty || digits.length > 9 then none
  else (Text.natural? 10 digits).map (·, rest)

def versionDirective? (here : List Mark) : Option (Token × List Mark) := do
  let (major, here) ← versionNumber? (skipWhile isBlank here)
  if peek here 0 ≠ '.' then none
  else
    let (minor, here) ← versionNumber? (here.drop 1)
    return (.version major minor, here)

def handleDirective? (here : List Mark) : Option (Token × List Mark) := do
  let here := skipWhile isBlank here
  if peek here 0 ≠ '!' then none
  else
    let (handle, here) := tagHandle here
    if (handle ≠ ['!'] && !isHandle handle) || !isBlank (peek here 0) then none
    else
      let (lead, here) := span (isTagChar true) (skipWhile isBlank here)
      if lead.isEmpty || !isGapOrEnd (peek here 0) then none
      else return (.handle (.ofList handle) (← unescape? lead), here)

def directive? (here : List Mark) : Option (Token × List Mark) := do
  let (name, here) := span isNameChar (here.drop 1)
  if !isGapOrEnd (peek here 0) then none
  else
    let (token, here) ←
      if name = "YAML".toList then versionDirective? here
      else if name = "TAG".toList then handleDirective? here
      else none
    let here := skipToLineEnd here
    if isBreak (peek here 0) then return (token, here.drop 1)
    else if peek here 0 = endChar then return (token, here)
    else none

def anchorName? (here : List Mark) : Option (String × List Mark) :=
  let (name, rest) := span isNameChar here
  let next := peek rest 0
  if name.isEmpty || !(isGapOrEnd next || next ∈ "?:,]\x7d%@\x60".toList) then none
  else some (.ofList name, rest)

end RelSchema.Yaml
