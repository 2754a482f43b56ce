import RelSchema.Text.Digits
import RelSchema.Yaml.Gap

namespace RelSchema.Yaml

def escapedChar? : Char → Option Char
  | '0' => some '\x00'
  | 'a' => some '\x07'
  | 'b' => some '\x08'
  | 't' | '\t' => some '\t'
  | 'n' => some '\n'
  | 'v' => some '\x0b'
  | 'f' => some '\x0c'
  | 'r' => some '\r'
  | 'e' => some '\x1b'
  | ' ' => some ' '
  | '"' => some '"'
  | '/' => some '/'
  | '\\' => some '\\'
  | 'N' => some '\u0085'
  | '_' => some '\u00a0'
  | 'L' => some '\u2028'
  | 'P' => some '\u2029'
  | _ => none

def codeLength? : Char → Option Nat
  | 'x' => some 2
  | 'u' => some 4
  | 'U' => some 8
  | _ => none

def charOfCode? (n : Nat) : Option Char :=
  if (0xD800 ≤ n && n ≤ 0xDFFF) || 0x10FFFF < n then none else some (.ofNat n)

/-- What the next character belongs to. -/
inductive QuotedState
  | text
  | escape
  /-- Digits of a code point are missing. -/
  | code (missing value : Nat)

/-- Continues a scalar between quotes `quote`, whose text so far is `text`, newest character first.
Between single quotes, a quote is written twice; between double ones there are escapes. -/
def quotedFrom (quote : Char) (text : List Char) (gap : Gap) :
    QuotedState → List Mark → Option (List Char × List Mark)
  | _, [] => none
  | .code missing value, m :: rest =>
    match Text.digit? 16 m.char with
    | none => none
    | some digit =>
      let value := value * 16 + digit
      if missing > 1 then quotedFrom quote text gap (.code (missing - 1) value) rest
      else match charOfCode? value with
        | some c => quotedFrom quote (c :: text) gap .text rest
        | none => none
  | .escape, m :: rest =>
    if isBreak m.char then quotedFrom quote text .escaped .text rest
    else match codeLength? m.char, escapedChar? m.char with
      | some missing, _ => quotedFrom quote text gap (.code missing 0) rest
      | none, some c => quotedFrom quote (c :: text) gap .text rest
      | none, none => none
  | .text, m :: rest =>
    let c := m.char
    if c = endChar then none
    else if isBlank c then quotedFrom quote text (gap.addBlank c) .text rest
    else if isBreak c then quotedFrom quote text (gap.addBreak c) .text rest
    else if atDocumentBorder (m :: rest) then none
    else
      let joined := gap.text.reverse ++ text
      if c = quote then
        match rest with
        | next :: afterNext =>
          if quote = '\'' && next.char = '\'' then
            quotedFrom quote ('\'' :: joined) {} .text afterNext
          else some (joined.reverse, rest)
        | [] => some (joined.reverse, [])
      else if c = '\\' && quote = '"' then quotedFrom quote joined {} .escape rest
      else quotedFrom quote (c :: joined) {} .text rest

def quoted? (quote : Char) (here : List Mark) : Option (List Char × List Mark) :=
  quotedFrom quote [] {} .text here

end RelSchema.Yaml
