import RelSchema.Yaml.Gap

namespace RelSchema.Yaml

/-- A scalar that has been read, whether a line end came after its last word, and what follows. -/
structure PlainScalar where
  text : List Char
  endsLine : Bool
  rest : List Mark

/-- Whether a scalar ends before this character, in flow style or not. -/
def endsPlain (inFlow : Bool) (here : List Mark) : Bool :=
  let c := peek here 0
  c = endChar || (c = ':' && isGapOrEnd (peek here 1)) || (inFlow && c ∈ [',', '[', ']', '{', '}'])

/-- A colon that in flow style is neither part of a scalar nor the end of one. -/
def isStrayColon (inFlow : Bool) (here : List Mark) : Bool :=
  inFlow && peek here 0 = ':' && peek here 1 ∈ [',', '?', '[', ']', '{', '}']

/-- Continues a scalar whose text so far is `text`, newest character first. Outside of flow style a
further line must begin in column `indent` or behind it. -/
def plainFrom (inFlow : Bool) (indent : Nat) (text : List Char) (gap : Gap) (isFresh : Bool) :
    List Mark → Option PlainScalar
  | [] => some ⟨text.reverse, gap.isBroken, []⟩
  | m :: rest =>
    if isBlank m.char then
      if gap.isBroken && m.column < indent && m.char = '\t' then none
      else plainFrom inFlow indent text (gap.addBlank m.char) true rest
    else if isBreak m.char then plainFrom inFlow indent text (gap.addBreak m.char) true rest
    else
      let isOver := isFresh &&
        ((!gap.isEmpty && !inFlow && m.column < indent) || atDocumentBorder (m :: rest) ||
          m.char = '#')
      if isOver then some ⟨text.reverse, gap.isBroken, m :: rest⟩
      else if isStrayColon inFlow (m :: rest) then none
      else if endsPlain inFlow (m :: rest) then some ⟨text.reverse, gap.isBroken, m :: rest⟩
      else plainFrom inFlow indent (m.char :: (gap.text.reverse ++ text)) {} false rest

def plain? (inFlow : Bool) (indent : Nat) (here : List Mark) : Option PlainScalar :=
  plainFrom inFlow indent [] {} true here

end RelSchema.Yaml
