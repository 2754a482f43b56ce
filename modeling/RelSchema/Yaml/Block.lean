import RelSchema.Yaml.Mark

namespace RelSchema.Yaml

/-- What becomes of the line ends that end a block: none stays, one stays, all stay. -/
inductive Chomping
  | strip | clip | keep
  deriving DecidableEq

structure BlockHeader where
  isLiteral : Bool
  chomping : Chomping
  /-- The extra indentation, if it is given. -/
  indent : Option Nat

def chomping? : Char → Option Chomping
  | '+' => some .keep
  | '-' => some .strip
  | _ => none

/-- The digit of an extra indentation, which is not zero; nothing, if it is no digit. -/
def indentDigit? (c : Char) : Option (Option Nat) :=
  if !c.isDigit then some none
  else if c = '0' then none
  else some (some (c.toNat - '0'.toNat))

/-- Reads the signs behind the one that begins a block, in either order. -/
def blockSigns? (here : List Mark) : Option (Chomping × Option Nat × List Mark) :=
  match chomping? (peek here 0) with
  | some chomping => do
    let indent ← indentDigit? (peek here 1)
    return (chomping, indent, here.drop (if indent.isSome then 2 else 1))
  | none => do
    let indent ← indentDigit? (peek here 0)
    if indent.isNone then return (.clip, none, here)
    else match chomping? (peek here 1) with
      | some chomping => return (chomping, indent, here.drop 2)
      | none => return (.clip, indent, here.drop 1)

def blockHeader? (isLiteral : Bool) (here : List Mark) : Option (BlockHeader × List Mark) := do
  let (chomping, indent, here) ← blockSigns? here
  let here := skipToLineEnd here
  if isBreak (peek here 0) then return (⟨isLiteral, chomping, indent⟩, here.drop 1)
  else if peek here 0 = endChar then return (⟨isLiteral, chomping, indent⟩, here)
  else none

structure BlockState where
  /-- The text, newest character first. -/
  text : List Char := []
  /-- The column of the text, once it is known. -/
  indent : Option Nat
  /-- The widest margin among the lines that come before the text. -/
  widest : Nat := 0
  /-- The end of the last line with text. -/
  lineEnd : Option Char := none
  /-- The ends of the empty lines after it, newest first. -/
  emptyLines : List Char := []
  /-- The last line with text begins with a blank. -/
  isIndented : Bool := false

namespace BlockState

/-- The text with a new line begun, whose first character is `c`. A folded line end becomes a blank
between two lines that do not begin with one. -/
def beginLine (s : BlockState) (isLiteral : Bool) (c : Char) : BlockState :=
  let folds := !isLiteral && s.lineEnd = some '\n' && !s.isIndented && !isBlank c
  let joint := if folds then (if s.emptyLines.isEmpty then [' '] else []) else s.lineEnd.toList
  { s with
    text := c :: (s.emptyLines ++ joint ++ s.text)
    lineEnd := none
    emptyLines := []
    isIndented := isBlank c }

def finish (s : BlockState) (chomping : Chomping) : List Char :=
  match chomping with
  | .strip => s.text.reverse
  | .clip => (s.lineEnd.toList ++ s.text).reverse
  | .keep => (s.emptyLines ++ s.lineEnd.toList ++ s.text).reverse

end BlockState

/-- Continues a block inside a collection of indentation `base`, within a line or in its margin. -/
def blockFrom (header : BlockHeader) (base : Int) (s : BlockState) :
    Bool → List Mark → Option (List Char × List Mark)
  | _, [] => some (s.finish header.chomping, [])
  | true, m :: rest =>
    if isBreak m.char then blockFrom header base { s with lineEnd := some m.char } false rest
    else if m.char = endChar then some (s.finish header.chomping, m :: rest)
    else blockFrom header base { s with text := m.char :: s.text } true rest
  | false, m :: rest =>
    let inMargin := s.indent.all (m.column < ·)
    if inMargin && m.char = ' ' then blockFrom header base s false rest
    else if inMargin && m.char = '\t' then none
    else
      let widest := max s.widest m.column
      if isBreak m.char then
        blockFrom header base { s with widest, emptyLines := m.char :: s.emptyLines } false rest
      else
        let indent := s.indent.getD (max widest (max (base + 1) 1).toNat)
        if m.column = indent && m.char ≠ endChar then
          blockFrom header base { s.beginLine header.isLiteral m.char with indent := some indent }
            true rest
        else some (s.finish header.chomping, m :: rest)

def block? (isLiteral : Bool) (base : Int) (here : List Mark) : Option (List Char × List Mark) := do
  let (header, here) ← blockHeader? isLiteral here
  let indent := header.indent.map fun extra => (max base 0).toNat + extra
  blockFrom header base { indent } false here

end RelSchema.Yaml
