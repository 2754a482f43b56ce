namespace RelSchema.Text

def splitList (sep : Char) : List Char → List (List Char)
  | [] => [[]]
  | c :: rest =>
    match splitList sep rest with
    | [] => [[c]]
    | part :: parts => if c = sep then [] :: part :: parts else (c :: part) :: parts

def split (sep : Char) (s : String) : List String :=
  (splitList sep s.toList).map .ofList

def dropSuffix? (s ending : String) : Option String :=
  if ending.toList.isSuffixOf s.toList then
    some (.ofList (s.toList.take (s.toList.length - ending.toList.length)))
  else none

def endsWith (s ending : String) : Bool :=
  ending.toList.isSuffixOf s.toList

def startsWith (s start : String) : Bool :=
  start.toList.isPrefixOf s.toList

def occursIn (part : List Char) : List Char → Bool
  | [] => part.isEmpty
  | c :: rest => part.isPrefixOf (c :: rest) || occursIn part rest

def contains (s part : String) : Bool :=
  occursIn part.toList s.toList

def replaceList (old new : List Char) (cs : List Char) : List Char :=
  match cs with
  | [] => []
  | c :: rest =>
    if old ≠ [] ∧ old <+: c :: rest then new ++ replaceList old new ((c :: rest).drop old.length)
    else c :: replaceList old new rest
termination_by cs.length
decreasing_by
  · rename_i h
    have : 0 < old.length := List.length_pos_iff.2 h.1
    simp only [List.length_drop, List.length_cons]
    omega
  · simp

def replace (s old new : String) : String :=
  .ofList (replaceList old.toList new.toList s.toList)

end RelSchema.Text
