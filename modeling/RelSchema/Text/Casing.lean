import RelSchema.Text.Casing.Classes
import RelSchema.Text.Casing.Maps

namespace RelSchema.Text

def isCased (c : Char) : Bool :=
  cased.contains c

def isCaseIgnorable (c : Char) : Bool :=
  caseIgnorable.contains c

/-- The image of a code point under the first run that holds it, else the code point. -/
def CaseRuns.image (runs : CaseRuns) (n : Nat) : Nat :=
  let holds := fun (first, last, step, _) => first ≤ n && n ≤ last && (n - first) % step == 0
  match runs.find? holds with
  | some (first, _, _, image) => image + (n - first)
  | none => n

def lowerChar (c : Char) : List Char :=
  match lowerExpansions.lookup c.toNat with
  | some image => image.map Char.ofNat
  | none => [Char.ofNat (lowerRuns.image c.toNat)]

def upperChar (c : Char) : List Char :=
  match upperExpansions.lookup c.toNat with
  | some image => image.map Char.ofNat
  | none => [Char.ofNat (upperRuns.image c.toNat)]

/-- Whether a cased character is met before any that is neither cased nor ignorable. -/
def meetsCased (cs : List Char) : Bool :=
  match cs.dropWhile isCaseIgnorable with
  | [] => false
  | c :: _ => isCased c

/-- The lowercase of what follows `before`, whose nearest character comes first. -/
def lowerAfter (before : List Char) : List Char → List Char
  | [] => []
  | c :: rest =>
    let image :=
      if c = 'Σ' then [if meetsCased before && !meetsCased rest then 'ς' else 'σ'] else lowerChar c
    image ++ lowerAfter (c :: before) rest

/-- By the full mappings one character may become several, and a capital sigma becomes a final one
at the end of a word. -/
def lower (s : String) : String :=
  .ofList (lowerAfter [] s.toList)

def upper (s : String) : String :=
  .ofList (s.toList.flatMap upperChar)

def title (s : String) : String :=
  match s.toList with
  | [] => ""
  | c :: rest => .ofList (upperChar c ++ rest.flatMap lowerChar)

end RelSchema.Text
