import RelSchema.Text.Blank
import RelSchema.Text.Casing
import RelSchema.Text.Split

namespace RelSchema.Constraint

/-- What follows `word`, if the text begins with it. -/
def afterWord? (word : String) (cs : List Char) : Option (List Char) :=
  if word.toList.isPrefixOf cs then some (cs.drop word.toList.length) else none

def afterBlank? : List Char → Option (List Char)
  | c :: rest => if Text.isBlank c then some rest else none
  | [] => none

/-- `check`, blanks, and brackets around something, all closed on the line they open on. -/
def isCheck (cs : List Char) : Bool :=
  match afterWord? "check" cs with
  | none => false
  | some rest =>
    match rest.dropWhile Text.isBlank with
    | '(' :: inner => ((inner.takeWhile (· ≠ '\n')).drop 1).contains ')'
    | _ => false

def isUnique (cs : List Char) : Bool :=
  (afterWord? "unique" cs).isSome

/-- What follows `on delete cascade` or `on update cascade`, with one blank between words. -/
def afterClause? (cs : List Char) : Option (List Char) :=
  let rest := (afterWord? "on" cs).bind afterBlank?
  let rest := rest.bind fun cs => (afterWord? "delete" cs).or (afterWord? "update" cs)
  (rest.bind afterBlank?).bind (afterWord? "cascade")

/-- What follows a clause and, if there is one a blank behind it, a second clause. -/
def afterClauses? (cs : List Char) : Option (List Char) :=
  (afterClause? cs).map fun rest => ((afterBlank? rest).bind afterClause?).getD rest

def isCascade (cs : List Char) : Bool :=
  (afterClauses? cs).isSome

def isInline (constraint : String) : Bool :=
  let cs := (Text.lower constraint).toList
  isCheck cs || isUnique cs || isCascade cs

end RelSchema.Constraint
