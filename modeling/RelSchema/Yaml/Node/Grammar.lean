import RelSchema.Keyed
import RelSchema.Yaml.Node
import RelSchema.Yaml.Token.Lexer

namespace RelSchema.Yaml

/-- The tokens that are left, and the numbers of the anchors by name. -/
structure Parse where
  tokens : List Token
  anchors : Keyed Nat := []

abbrev Parser := StateT Parse Option

namespace Parser

def next? : Parser (Option Token) := do
  return (← get).tokens.head?

def skip : Parser Unit :=
  modify fun s => { s with tokens := s.tokens.drop 1 }

def accept (token : Token) : Parser Bool := do
  if (← next?) = some token then
    skip
    return true
  else return false

def expect (token : Token) : Parser Unit := do
  unless ← accept token do failure

/-- Takes an anchor. Its number is how many names there are so far, also where its own is one. -/
def anchor? : Parser (Option Nat) := do
  match (← next?) with
  | some (.anchor name) =>
    let number := (← get).anchors.length
    modify fun s => { tokens := s.tokens.drop 1, anchors := s.anchors.insert name number }
    return some number
  | _ => return none

variable (handles : Keyed Tag)

/-- Takes a tag, and puts what its handle stands for in front of it. -/
def tag? : Parser (Option Tag) := do
  match (← next?) with
  | some (.tag handle suffix) =>
    skip
    if handle.isEmpty then return some suffix
    else match handles.get? handle with
      | some lead => return some (lead.append suffix)
      | none => failure
  | _ => return none

def properties : Parser (Option Nat × Option Tag) := do
  match ← anchor? with
  | some number => return (some number, ← tag? handles)
  | none =>
    match ← tag? handles with
    | some tag => return (← anchor?, some tag)
    | none => return (none, none)

mutual

/-- A node. The items of a sequence that is the key or the value of a mapping need no indentation of
their own. -/
def node (isEntry : Bool) : Nat → Parser Node
  | 0 => failure
  | n + 1 => do
    match (← next?) with
    | some (.reference name) =>
      match (← get).anchors.get? name with
      | some number =>
        skip
        return .reference number
      | none => failure
    | _ =>
      let (number, tag) ← properties handles
      let content ← content isEntry (number.isSome || tag.isSome) tag n
      return match number with
        | some number => .anchored number content
        | none => content

def content (isEntry hasProperties : Bool) (tag : Option Tag) : Nat → Parser Node
  | 0 => failure
  | n + 1 => do
    match (← next?) with
    | some (.scalar isPlain text) =>
      skip
      return .scalar tag isPlain text
    | some .flowSequenceStart =>
      skip
      return .sequence tag (← flowItems true n)
    | some .flowMappingStart =>
      skip
      return .mapping tag (← flowEntries true n)
    | some .blockSequenceStart =>
      skip
      return .sequence tag (← blockItems n)
    | some .blockMappingStart =>
      skip
      return .mapping tag (← blockEntries n)
    | some .blockEntry =>
      if isEntry then return .sequence tag (← bareItems n)
      else if hasProperties then return .scalar tag true ""
      else failure
    | _ => if hasProperties then return .scalar tag true "" else failure

/-- A node, or an empty one where one of these tokens comes next. -/
def nodeBefore (stops : List Token) (isEntry : Bool) : Nat → Parser Node
  | 0 => failure
  | n + 1 => do
    if (← next?).any (· ∈ stops) then return .empty else node isEntry n

def blockItems : Nat → Parser (List Node)
  | 0 => failure
  | n + 1 => do
    if ← accept .blockEnd then return []
    else
      expect .blockEntry
      let item ← nodeBefore [.blockEntry, .blockEnd] false n
      return item :: (← blockItems n)

/-- The items of a sequence without an indentation of its own. -/
def bareItems : Nat → Parser (List Node)
  | 0 => failure
  | n + 1 => do
    if ← accept .blockEntry then
      let item ← nodeBefore [.blockEntry, .key, .value, .blockEnd] false n
      return item :: (← bareItems n)
    else return []

def blockEntries : Nat → Parser (List (Node × Node))
  | 0 => failure
  | n + 1 => do
    if ← accept .blockEnd then return []
    else
      expect .key
      let key ← nodeBefore [.key, .value, .blockEnd] true n
      let value ←
        if ← accept .value then nodeBefore [.key, .value, .blockEnd] true n else pure .empty
      return (key, value) :: (← blockEntries n)

/-- The items between brackets, from the first one or from the comma on. -/
def flowItems (isFirst : Bool) : Nat → Parser (List Node)
  | 0 => failure
  | n + 1 => do
    if ← accept .flowSequenceEnd then return []
    else
      unless isFirst do expect .flowEntry
      if ← accept .flowSequenceEnd then return []
      else
        let item ← if ← accept .key then flowPair n else node false n
        return item :: (← flowItems false n)

/-- A mapping of one entry that needs no braces. Where its key is missing, so is what would come
after it. -/
def flowPair : Nat → Parser Node
  | 0 => failure
  | n + 1 => do
    let isMissing := (← next?).any (· ∈ [.value, .flowEntry, .flowSequenceEnd])
    if isMissing then skip
    let key ← if isMissing then pure .empty else node false n
    let value ←
      if ← accept .value then nodeBefore [.flowEntry, .flowSequenceEnd] false n else pure .empty
    return .mapping none [(key, value)]

/-- The entries between braces, from the first one or from the comma on. -/
def flowEntries (isFirst : Bool) : Nat → Parser (List (Node × Node))
  | 0 => failure
  | n + 1 => do
    if ← accept .flowMappingEnd then return []
    else
      unless isFirst do expect .flowEntry
      if ← accept .flowMappingEnd then return []
      else
        let entry ←
          if ← accept .key then
            let key ← nodeBefore [.value, .flowEntry, .flowMappingEnd] false n
            let value ←
              if ← accept .value then nodeBefore [.flowEntry, .flowMappingEnd] false n
              else pure .empty
            pure (key, value)
          else pure (← node false n, .empty)
        return entry :: (← flowEntries false n)

end

def knowsVersion (major minor : Nat) : Bool :=
  major = 1 && (minor = 1 || minor = 2)

def defaultHandles : Keyed Tag :=
  [("!", .ofString "!"), ("!!", .coreLead)]

/-- Takes the directives of a document; each handle and the version may come once. -/
def directives (hasVersion : Bool) (handles : Keyed Tag) : Nat → Parser (Keyed Tag)
  | 0 => failure
  | n + 1 => do
    match (← next?) with
    | some (.version major minor) =>
      skip
      if hasVersion || !knowsVersion major minor then failure else directives true handles n
    | some (.handle name lead) =>
      skip
      if handles.has name then failure else directives hasVersion (handles ++ [(name, lead)]) n
    | _ => return handles ++ defaultHandles

def isDocumentToken : Token → Bool
  | .version _ _ | .handle _ _ | .documentStart | .documentEnd => true
  | _ => false

/-- The only document of a stream. One that is not marked as such begins with its content. -/
def document (fuel : Nat) : Parser Node := do
  match (← next?) with
  | none => return .empty
  | some (.version _ _) | some (.handle _ _) | some .documentStart =>
    let handles ← directives false [] fuel
    expect .documentStart
    if (← next?).all isDocumentToken then return .empty else node handles false fuel
  | some _ => node defaultHandles false fuel

/-- A production takes a token, or it calls at most three others before one of them does. -/
def fuelFor (tokens : List Token) : Nat :=
  4 * tokens.length + 4

end Parser

/-- The document of a stream, unless the stream is malformed or has several documents. -/
def Tree.ofText? (s : String) : Option Tree := do
  let tokens ← tokens? s
  let (root, rest) ← (Parser.document (Parser.fuelFor tokens)).run { tokens }
  if rest.tokens.all (· = .documentEnd) then return .ofNode root else none

end RelSchema.Yaml
