namespace RelSchema.Yaml

/-- A character at its place: how many bytes come before it, on which line, and in which column. -/
structure Mark where
  char : Char
  index : Nat
  line : Nat
  column : Nat
  deriving Inhabited

/-- Stands behind the last character. A stream cannot hold it. -/
def endChar : Char := '\x00'

def isReadable (c : Char) : Bool :=
  let n := c.toNat
  n = 0x9 || n = 0xA || n = 0xD || (0x20 ≤ n && n ≤ 0x7E) || n = 0x85 || (0xA0 ≤ n && n ≤ 0xD7FF) ||
    (0xE000 ≤ n && n ≤ 0xFFFD) || 0x10000 ≤ n

/-- The line ends that stay as they are in a text. -/
def isSeparator (c : Char) : Bool :=
  c = '\u2028' || c = '\u2029'

def isBreak (c : Char) : Bool :=
  c = '\n' || isSeparator c

def isBlank (c : Char) : Bool :=
  c = ' ' || c = '\t'

def isBreakOrEnd (c : Char) : Bool :=
  isBreak c || c = endChar

def isGapOrEnd (c : Char) : Bool :=
  isBlank c || isBreakOrEnd c

def isNameChar (c : Char) : Bool :=
  c.isAlphanum || c = '_' || c = '-'

/-- Every other line end as a line feed. -/
def unifyBreaks : List Char → List Char
  | [] => []
  | '\r' :: '\n' :: rest => '\n' :: unifyBreaks rest
  | c :: rest => (if c = '\r' || c = '\u0085' then '\n' else c) :: unifyBreaks rest

/-- The characters with their places, and the end after them. -/
def marksFrom (index line column : Nat) : List Char → List Mark
  | [] => [⟨endChar, index, line, column⟩]
  | c :: rest =>
    ⟨c, index, line, column⟩ ::
      if isBreak c then marksFrom (index + c.utf8Size) (line + 1) 0 rest
      else marksFrom (index + c.utf8Size) line (column + 1) rest

def marks? (s : String) : Option (List Mark) :=
  if s.toList.all isReadable then some (marksFrom 0 0 0 (unifyBreaks s.toList)) else none

def peek (here : List Mark) (n : Nat) : Char :=
  ((here[n]?).map (·.char)).getD endChar

def column (here : List Mark) : Nat :=
  (here.head?.map (·.column)).getD 0

def atDocumentSign (sign : Char) (here : List Mark) : Bool :=
  column here = 0 && peek here 0 = sign && peek here 1 = sign && peek here 2 = sign &&
    isGapOrEnd (peek here 3)

def atDocumentBorder (here : List Mark) : Bool :=
  atDocumentSign '-' here || atDocumentSign '.' here

/-- The characters up to the first that fails `p`, and what follows them. -/
def span (p : Char → Bool) (here : List Mark) : List Char × List Mark :=
  ((here.takeWhile fun m => p m.char).map (·.char), here.dropWhile fun m => p m.char)

def skipWhile (p : Char → Bool) (here : List Mark) : List Mark :=
  here.dropWhile fun m => p m.char

def skipToLineEnd (here : List Mark) : List Mark :=
  let here := skipWhile isBlank here
  if peek here 0 = '#' then skipWhile (!isBreakOrEnd ·) here else here

end RelSchema.Yaml
