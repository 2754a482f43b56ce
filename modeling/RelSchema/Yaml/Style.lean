import RelSchema.Yaml.Mark
import RelSchema.Yaml.Scalar

namespace RelSchema.Yaml

inductive Style
  | plain | single | double | literal
  deriving DecidableEq

/-- Any character that ends a line, also those that no stream keeps. -/
def isLineEnd (c : Char) : Bool :=
  isBreak c || c = '\r' || c = '\u0085'

def isPrintable (c : Char) : Bool :=
  isReadable c && c ≠ '\t' && c ≠ '\r' && c ≠ '\u0085' && c ≠ '\ufeff'

def endsWord (c : Option Char) : Bool :=
  c.all fun c => isBlank c || isLineEnd c || c = endChar

/-- A colon at the end of a word, or a number sign at the beginning of one. -/
def hasIndicator : List Char → Bool
  | [] => false
  | c :: rest =>
    (c = ':' && endsWord rest.head?) || (endsWord (some c) && rest.head? = some '#') ||
      hasIndicator rest

/-- A sign that begins something else than a text without quotes. -/
def beginsIndicator : List Char → Bool
  | [] => false
  | c :: rest =>
    c ∈ "#,[]\x7b\x7d&*!|>'\"%@\x60".toList || (c ∈ ['?', ':', '-'] && endsWord rest.head?) ||
      ['-', '-', '-'].isPrefixOf (c :: rest) || ['.', '.', '.'].isPrefixOf (c :: rest)

/-- Whether somewhere a character that satisfies `p` comes right before one that satisfies `q`. -/
def hasPair (p q : Char → Bool) : List Char → Bool
  | a :: b :: rest => (p a && q b) || hasPair p q (b :: rest)
  | _ => false

namespace Style

def isSpace (c : Char) : Bool :=
  c = ' '

def edges (cs : List Char) : List Char :=
  cs.head?.toList ++ cs.getLast?.toList

def allowsPlain (cs : List Char) : Bool :=
  !cs.isEmpty && cs.all isPrintable && !cs.any isLineEnd && !(edges cs).any isSpace &&
    !beginsIndicator cs && !hasIndicator cs

def allowsSingle (cs : List Char) : Bool :=
  cs.all isPrintable && !hasPair isSpace isLineEnd cs && !hasPair isLineEnd isSpace cs

def allowsLiteral (cs : List Char) : Bool :=
  cs.all isPrintable && !hasPair isSpace isLineEnd cs && !cs.getLast?.any isSpace

/-- Whether a text without quotes would be read as that text, and by all readers. -/
def isSafe (s : String) : Bool :=
  !Scalar.isCode s &&
    match Scalar.ofPlain s with
    | .text _ => true
    | _ => false

def ofText (s : String) : Style :=
  let cs := s.toList
  if cs.contains '\n' then (if allowsLiteral cs then .literal else .double)
  else if isSafe s && allowsPlain cs then .plain
  else if allowsSingle cs then .single
  else .double

end Style

def escapeLetter? : Char → Option Char
  | '\x00' => some '0'
  | '\x07' => some 'a'
  | '\x08' => some 'b'
  | '\t' => some 't'
  | '\n' => some 'n'
  | '\x0b' => some 'v'
  | '\x0c' => some 'f'
  | '\r' => some 'r'
  | '\x1b' => some 'e'
  | '"' => some '"'
  | '\\' => some '\\'
  | '\u0085' => some 'N'
  | '\u2028' => some 'L'
  | '\u2029' => some 'P'
  | _ => none

def hexText (width n : Nat) : List Char :=
  let digits := (Nat.toDigits 16 n).map Char.toUpper
  List.replicate (width - digits.length) '0' ++ digits

def escaped (c : Char) : List Char :=
  let n := c.toNat
  match escapeLetter? c with
  | some letter => ['\\', letter]
  | none =>
    if n ≤ 0xFF then '\\' :: 'x' :: hexText 2 n
    else if n ≤ 0xFFFF then '\\' :: 'u' :: hexText 4 n
    else '\\' :: 'U' :: hexText 8 n

def doubleQuoted (cs : List Char) : List Char :=
  '"' :: cs.flatMap (fun c =>
    if !isPrintable c || isBreak c || c = '"' || c = '\\' then escaped c else [c]) ++ ['"']

def blanks (n : Nat) : List Char :=
  List.replicate n ' '

/-- The text with blanks at the beginning of each line that is not empty. -/
def indented (indent : Nat) (atLineStart : Bool) : List Char → List Char
  | [] => []
  | c :: rest =>
    if isBreak c then c :: indented indent true rest
    else (if atLineStart then blanks indent else []) ++ c :: indented indent false rest

def singleQuoted (indent : Nat) (cs : List Char) : List Char :=
  let text := indented indent false (cs.flatMap fun c => if c = '\'' then ['\'', '\''] else [c])
  '\'' :: text ++ (if cs.getLast?.any isBreak then blanks indent else []) ++ ['\'']

/-- The signs that tell a reader about a margin that begins with a blank, and about the line ends
that the text ends with. -/
def literalSigns (cs : List Char) : List Char :=
  let margin := if cs.head?.any (fun c => c = ' ' || isBreak c) then ['2'] else []
  let chomping := match cs.reverse with
    | [] => ['-']
    | [c] => if isBreak c then ['+'] else ['-']
    | c :: d :: _ => if !isBreak c then ['-'] else if isBreak d then ['+'] else []
  margin ++ chomping

def literalBlock (indent : Nat) (cs : List Char) : List Char :=
  '|' :: literalSigns cs ++ '\n' :: indented indent true cs

/-- A text as a scalar, whose further lines begin in column `indent`. -/
def scalarText (indent : Nat) (s : String) : List Char :=
  let cs := s.toList
  match Style.ofText s with
  | .plain => cs
  | .single => singleQuoted indent cs
  | .double => doubleQuoted cs
  | .literal => literalBlock indent cs

end RelSchema.Yaml
