import RelSchema.Text.Letter
import RelSchema.Text.Split
import RelSchema.Text.Words

namespace RelSchema.Text

/-- `person_id` becomes `person`; a name without the ending stays. -/
def stripId (s : String) : String :=
  (dropSuffix? s "_id").getD s

def isVowel (c : Char) : Bool :=
  c ∈ "aeiouAEIOU".toList

def consonantStem? (s : String) : Option String :=
  match s.toList.reverse with
  | y :: c :: rest =>
    if (y = 'y' || y = 'Y') && isLetter c && !isVowel c then some (.ofList (c :: rest).reverse)
    else none
  | _ => none

/-- English plural: `node` becomes `nodes`, `box` becomes `boxes` and `city` becomes `cities`. -/
def plural (s : String) : String :=
  if s.isEmpty then ""
  else if ["s", "sh", "ch", "x", "z"].any (endsWith (lower s)) then s ++ "es"
  else match consonantStem? s with
    | some stem => stem ++ "ies"
    | none => s ++ "s"

/-- `PersonVehicle` becomes `Person Vehicle`. -/
def titleWords (s : String) : String :=
  " ".intercalate (((split '_' (snakeCase s)).filter (!·.isEmpty)).map title)

end RelSchema.Text
