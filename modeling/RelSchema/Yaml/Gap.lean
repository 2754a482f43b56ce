import RelSchema.Yaml.Mark

namespace RelSchema.Yaml

/-- The white space between two words of a scalar, which folds: blanks stay, one line end becomes a
blank, and of several line ends the first is dropped. -/
structure Gap where
  /-- The blanks on the line of the last word, newest first. -/
  blanks : List Char := []
  /-- A line has ended. -/
  isBroken : Bool := false
  /-- The line end itself, unless it was escaped. -/
  first : Option Char := none
  /-- The line ends after it, newest first. -/
  more : List Char := []

namespace Gap

def isEmpty (gap : Gap) : Bool :=
  gap.blanks.isEmpty && !gap.isBroken

/-- Blanks after a line end do not count. -/
def addBlank (gap : Gap) (c : Char) : Gap :=
  if gap.isBroken then gap else { gap with blanks := c :: gap.blanks }

def addBreak (gap : Gap) (c : Char) : Gap :=
  if gap.isBroken then { gap with more := c :: gap.more } else { isBroken := true, first := some c }

/-- The gap after an escaped line end. -/
def escaped : Gap := { isBroken := true }

def text (gap : Gap) : List Char :=
  if gap.isBroken then
    match gap.first with
    | none => gap.more.reverse
    | some c =>
      if c ≠ '\n' then c :: gap.more.reverse
      else if gap.more.isEmpty then [' ']
      else gap.more.reverse
  else gap.blanks.reverse

end Gap

end RelSchema.Yaml
