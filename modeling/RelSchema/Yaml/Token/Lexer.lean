import RelSchema.Yaml.Block
import RelSchema.Yaml.Plain
import RelSchema.Yaml.Quoted
import RelSchema.Yaml.Token.Tag

namespace RelSchema.Yaml

structure KeyPlace where
  number : Nat
  /-- A mapping goes on here, so that anything but a key is wrong. -/
  isRequired : Bool
  mark : Mark

structure Lexer where
  /-- The tokens so far, newest first, and how many they are. -/
  tokens : List Token := []
  count : Nat := 0
  /-- The column of the innermost block, and of those around it. -/
  indent : Int := -1
  outerIndents : List Int := []
  /-- Where a key may have begun in the innermost collection, and in each one around it. -/
  keyPlace : Option KeyPlace := none
  outerKeyPlaces : List (Option KeyPlace) := []
  allowsKey : Bool := true

namespace Lexer

def inFlow (s : Lexer) : Bool :=
  !s.outerKeyPlaces.isEmpty

def insert (s : Lexer) (number : Nat) (token : Token) : Lexer :=
  { s with tokens := s.tokens.insertIdx (s.count - number) token, count := s.count + 1 }

def emit (s : Lexer) (token : Token) : Lexer :=
  { s with tokens := token :: s.tokens, count := s.count + 1 }

def withKeys (s : Lexer) (allowed : Bool) : Lexer :=
  { s with allowsKey := allowed }

/-- No key has begun in the innermost collection after all. -/
def dropKey? (s : Lexer) : Option Lexer :=
  if s.keyPlace.any (·.isRequired) then none else some { s with keyPlace := none }

/-- Remembers that a key may begin here. -/
def saveKey? (s : Lexer) (m : Mark) : Option Lexer := do
  if s.allowsKey then
    let s ← s.dropKey?
    return { s with keyPlace := some ⟨s.count, !s.inFlow && s.indent = m.column, m⟩ }
  else return s

/-- A key ends on the line where it begins, and within 1024 bytes. -/
def isStale (m : Mark) (place : KeyPlace) : Bool :=
  place.mark.line < m.line || place.mark.index + 1024 < m.index

def refresh? (m : Mark) : Option KeyPlace → Option (Option KeyPlace)
  | none => some none
  | some place =>
    if isStale m place then if place.isRequired then none else some none else some (some place)

/-- Forgets the keys that cannot end here any more. -/
def refreshKeys? (s : Lexer) (m : Mark) : Option Lexer := do
  let keyPlace ← refresh? m s.keyPlace
  let outerKeyPlaces ← s.outerKeyPlaces.mapM (refresh? m)
  return { s with keyPlace, outerKeyPlaces }

/-- Begins a block in a column behind that of the block around it. Its first token goes behind the
first `number` ones. -/
def openBlock (s : Lexer) (column number : Nat) (start : Token) : Lexer :=
  if s.inFlow || column ≤ s.indent then s
  else { s.insert number start with indent := column, outerIndents := s.indent :: s.outerIndents }

/-- Takes the indentations beyond `column` off, and counts them. -/
def unwind (column indent : Int) : List Int → Nat × Int × List Int
  | [] => (0, indent, [])
  | outer :: rest =>
    if column < indent then
      let (n, result) := unwind column outer rest
      (n + 1, result)
    else (0, indent, outer :: rest)

def closeBlocks (s : Lexer) (column : Int) : Lexer :=
  if s.inFlow then s
  else
    let (n, indent, outerIndents) := unwind column s.indent s.outerIndents
    { s with
      tokens := List.replicate n .blockEnd ++ s.tokens
      count := s.count + n
      indent
      outerIndents }

def openFlow (s : Lexer) (start : Token) : Lexer :=
  { s.emit start with
    keyPlace := none
    outerKeyPlaces := s.keyPlace :: s.outerKeyPlaces
    allowsKey := true }

def closeFlow? (s : Lexer) (stop : Token) : Option Lexer := do
  let s := ((← s.dropKey?).emit stop).withKeys false
  match s.outerKeyPlaces with
  | [] => return s
  | keyPlace :: outerKeyPlaces => return { s with keyPlace, outerKeyPlaces }

/-- Begins a block for a sign that must stand where a key may. -/
def openBlockHere? (s : Lexer) (m : Mark) (start : Token) : Option Lexer :=
  if s.inFlow then some s
  else if s.allowsKey then some (s.openBlock m.column s.count start)
  else none

/-- A colon. Where a key has begun before it, the token for that is put in. -/
def addValue? (s : Lexer) (m : Mark) : Option Lexer := do
  match s.keyPlace with
  | some place =>
    let s := s.insert place.number .key
    let s := s.openBlock place.mark.column place.number .blockMappingStart
    return ({ s with keyPlace := none, allowsKey := false }).emit .value
  | none =>
    let s ← s.openBlockHere? m .blockMappingStart
    return (s.withKeys !s.inFlow).emit .value

/-- Nothing is open here except what a document is in. -/
def atDocumentLevel? (s : Lexer) : Option Lexer := do
  return (← (s.closeBlocks (-1)).dropKey?).withKeys false

/-- Skips blanks, comments and line ends, within a comment or not. A byte order mark may begin any
line. After a line end in a block, a key may begin. -/
def skipGap (s : Lexer) (inComment : Bool) : List Mark → Lexer × List Mark
  | [] => (s, [])
  | m :: rest =>
    if inComment && !isBreakOrEnd m.char then s.skipGap true rest
    else if m.char = '#' then s.skipGap true rest
    else if m.char = ' ' || (m.char = '\t' && (s.inFlow || !s.allowsKey)) ||
        (m.char = '\ufeff' && m.column = 0) then
      s.skipGap false rest
    else if isBreak m.char then (s.withKeys (s.allowsKey || !s.inFlow)).skipGap false rest
    else (s, m :: rest)

def beginsPlain (s : Lexer) (here : List Mark) : Bool :=
  let c := peek here 0
  let next := peek here 1
  !(isGapOrEnd c || c ∈ "-?:,[]\x7b\x7d#&*!|>'\"%@\x60".toList) ||
    (c = '-' && !isBlank next) ||
    (!s.inFlow && (c = '?' || c = ':') && !isGapOrEnd next)

def addContent? (s : Lexer) (m : Mark) (here : List Mark) : Option (Lexer × List Mark) := do
  let isBlock := (m.char = '|' || m.char = '>') && !s.inFlow
  if isBlock then
    let s ← s.dropKey?
    let (text, rest) ← block? (m.char = '|') s.indent (here.drop 1)
    return ((s.emit (.scalar false (.ofList text))).withKeys true, rest)
  else
    let indent := (s.indent + 1).toNat
    let saved := (← s.saveKey? m).withKeys false
    match m.char with
    | '*' =>
      let (name, rest) ← anchorName? (here.drop 1)
      return (saved.emit (.reference name), rest)
    | '&' =>
      let (name, rest) ← anchorName? (here.drop 1)
      return (saved.emit (.anchor name), rest)
    | '!' =>
      let (token, rest) ← tag? s.inFlow here
      return (saved.emit token, rest)
    | '\'' | '"' =>
      let (text, rest) ← quoted? m.char (here.drop 1)
      return (saved.emit (.scalar false (.ofList text)), rest)
    | _ =>
      if s.beginsPlain here then
        let scalar ← plain? s.inFlow indent here
        return ((saved.emit (.scalar true (.ofList scalar.text))).withKeys scalar.endsLine,
          scalar.rest)
      else none

def step? (s : Lexer) (m : Mark) (here : List Mark) : Option (Lexer × List Mark) := do
  let next := peek here 1
  if m.column = 0 && m.char = '%' then
    let (token, rest) ← directive? here
    return ((← s.atDocumentLevel?).emit token, rest)
  else if atDocumentSign '-' here then
    return ((← s.atDocumentLevel?).emit .documentStart, here.drop 3)
  else if atDocumentSign '.' here then
    return ((← s.atDocumentLevel?).emit .documentEnd, here.drop 3)
  else
    match m.char with
    | '[' => return ((← s.saveKey? m).openFlow .flowSequenceStart, here.drop 1)
    | '{' => return ((← s.saveKey? m).openFlow .flowMappingStart, here.drop 1)
    | ']' => return (← s.closeFlow? .flowSequenceEnd, here.drop 1)
    | '}' => return (← s.closeFlow? .flowMappingEnd, here.drop 1)
    | ',' => return (((← s.dropKey?).withKeys true).emit .flowEntry, here.drop 1)
    | c =>
      if c = '-' && isGapOrEnd next then
        let s ← (← s.openBlockHere? m .blockSequenceStart).dropKey?
        return ((s.withKeys true).emit .blockEntry, here.drop 1)
      else if c = '?' && (s.inFlow || isGapOrEnd next) then
        let s ← (← s.openBlockHere? m .blockMappingStart).dropKey?
        return ((s.withKeys !s.inFlow).emit .key, here.drop 1)
      else if c = ':' && (s.inFlow || isGapOrEnd next) then
        return (← s.addValue? m, here.drop 1)
      else s.addContent? m here

/-- Reads all tokens. Each step takes at least one character. -/
def run? : Nat → Lexer → List Mark → Option (List Token)
  | 0, _, _ => none
  | n + 1, s, here => do
    let (s, here) := s.skipGap false here
    match here with
    | [] => return s.tokens.reverse
    | m :: _ =>
      let s := (← s.refreshKeys? m).closeBlocks m.column
      if m.char = endChar then return (← s.atDocumentLevel?).tokens.reverse
      else
        let (s, here) ← s.step? m here
        run? n s here

end Lexer

def tokens? (s : String) : Option (List Token) := do
  let here ← marks? s
  Lexer.run? here.length {} here

end RelSchema.Yaml
