import RelSchema.Text.Split

namespace RelSchema.Junction

/-- The two names that a name joins in its middle, if its words are even in number. -/
def halves? (name : String) : Option (String × String) :=
  let words := Text.split '_' name
  let half := words.length / 2
  if words.length % 2 = 0 then
    some ("_".intercalate (words.take half), "_".intercalate (words.drop half))
  else none

/-- The names in a list that join two names in it. -/
def candidates (names : List String) : List String :=
  names.filter fun name =>
    match halves? name with
    | some (left, right) => names.contains left && names.contains right
    | none => false

end RelSchema.Junction
