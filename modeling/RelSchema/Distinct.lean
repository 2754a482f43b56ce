namespace RelSchema

/-- The items of a list that equal no item kept before them. -/
def distinctAfter {α : Type} [BEq α] (kept : List α) : List α → List α
  | [] => []
  | x :: rest =>
    if kept.contains x then distinctAfter kept rest else x :: distinctAfter (kept ++ [x]) rest

/-- Each item once, in the order of first occurrence. -/
def distinct {α : Type} [BEq α] (items : List α) : List α :=
  distinctAfter [] items

end RelSchema
