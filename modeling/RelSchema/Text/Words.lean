import RelSchema.Text.Casing
import RelSchema.Text.Cluster

namespace RelSchema.Text

inductive ClusterKind
  | separator | upper | lower | digit | other
  deriving DecidableEq

/-- A cluster has a case if its two forms differ and it equals one of them. -/
def ClusterKind.of (cluster : List Char) : ClusterKind :=
  let up := cluster.flatMap upperChar
  let low := lowerAfter [] cluster
  if cluster = ['_'] || cluster = ['-'] || cluster = [' '] then .separator
  else if cluster.all Char.isDigit then .digit
  else if up ≠ low && cluster = up then .upper
  else if up ≠ low && cluster = low then .lower
  else .other

/-- Whether a word begins at a cluster of kind `here`, which follows `last`. The capital that begins
a word after an acronym is known by the lower case after it. -/
def ClusterKind.beginsWord (last here : ClusterKind) (next : Option ClusterKind) : Bool :=
  match last, here with
  | .lower, .upper | .upper, .digit | .digit, .upper | .digit, .lower | .lower, .digit => true
  | .upper, .upper => next = some .lower
  | _, _ => false

def wordsFrom (last : ClusterKind) (word : List Char) : List (List Char) → List (List Char)
  | [] => [word]
  | c :: rest =>
    let here := ClusterKind.of c
    if here = .separator then word :: wordsFrom here [] rest
    else if last.beginsWord here (rest.head?.map ClusterKind.of) then
      word :: wordsFrom here c rest
    else wordsFrom here (word ++ c) rest

def words (s : String) : List (List Char) :=
  (wordsFrom .separator [] (clusters s.toList)).filter (!·.isEmpty)

/-- The first character in upper case and the rest, as a text of its own, in lower case. -/
def capitalize : List Char → List Char
  | [] => []
  | c :: rest => upperChar c ++ lowerAfter [] rest

/-- `hello_world` becomes `HelloWorld`. -/
def pascalCase (s : String) : String :=
  .ofList ((words s).flatMap capitalize)

/-- `hello_world` becomes `helloWorld`. -/
def camelCase (s : String) : String :=
  match words s with
  | [] => ""
  | w :: rest => .ofList (lowerAfter [] w ++ rest.flatMap capitalize)

/-- `HelloWorld` becomes `hello_world`. -/
def snakeCase (s : String) : String :=
  "_".intercalate ((words s).map fun w => .ofList (lowerAfter [] w))

end RelSchema.Text
