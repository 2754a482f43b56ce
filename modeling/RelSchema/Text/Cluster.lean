import RelSchema.Text.Cluster.Classes

namespace RelSchema.Text

/-- What a character is to the rules on cluster boundaries. -/
inductive ClusterClass
  | carriageReturn | lineFeed | control | extend | joiner | regional | prepend | spacing
  | leading | vowel | trailing | openSyllable | closedSyllable | pictograph | other
  deriving DecidableEq

/-- Hangul syllables are computed and need no table. -/
def ClusterClass.ofNonAscii (c : Char) : ClusterClass :=
  let n := c.toNat
  if n = 0x200D then .joiner
  else if 0x1F1E6 ≤ n && n ≤ 0x1F1FF then .regional
  else if 0xAC00 ≤ n && n ≤ 0xD7A3 then
    if (n - 0xAC00) % 28 = 0 then .openSyllable else .closedSyllable
  else if (0x1100 ≤ n && n ≤ 0x115F) || (0xA960 ≤ n && n ≤ 0xA97C) then .leading
  else if (0x1160 ≤ n && n ≤ 0x11A7) || (0xD7B0 ≤ n && n ≤ 0xD7C6) then .vowel
  else if n = 0x16D63 || (0x16D67 ≤ n && n ≤ 0x16D6A) then .vowel
  else if (0x11A8 ≤ n && n ≤ 0x11FF) || (0xD7CB ≤ n && n ≤ 0xD7FB) then .trailing
  else if pictographic.contains c then .pictograph
  else if clusterExtend.contains c then .extend
  else if clusterSpacing.contains c then .spacing
  else if clusterControl.contains c then .control
  else if clusterPrepend.contains c then .prepend
  else .other

def ClusterClass.of (c : Char) : ClusterClass :=
  if c = '\r' then .carriageReturn
  else if c = '\n' then .lineFeed
  else if c.toNat < 0x20 || c.toNat = 0x7F then .control
  else if c.toNat < 0x80 then .other
  else .ofNonAscii c

/-- How far a conjunct has come: nothing, a consonant, or a consonant with a linker after it. -/
inductive Conjunct
  | none | consonant | linked
  deriving DecidableEq

/-- What the boundary rules need to know of the text before a position. -/
structure ClusterContext where
  last : ClusterClass
  /-- A pictograph stands before, with only extending characters after it. -/
  pictograph : Bool
  /-- Such a pictograph is followed by a joiner, which is the last character. -/
  joined : Bool
  /-- The regional indicators that end the text are odd in number. -/
  oddRegional : Bool
  conjunct : Conjunct

/-- The context after `c`, from the one before it. -/
def ClusterContext.next (before : Option ClusterContext) (c : Char) : ClusterContext where
  last := .of c
  pictograph := match ClusterClass.of c with
    | .pictograph => true
    | .extend => before.any (·.pictograph)
    | _ => false
  joined := ClusterClass.of c = .joiner && before.any (·.pictograph)
  oddRegional := ClusterClass.of c = .regional && !before.any (·.oddRegional)
  conjunct :=
    let so := (before.map (·.conjunct)).getD .none
    if c.toNat < 0x80 then .none
    else if conjunctConsonant.contains c then .consonant
    else if conjunctLinker.contains c then if so = .none then .none else .linked
    else if ClusterClass.of c = .joiner then so
    else if ClusterClass.of c = .extend && c.toNat ≠ 0x200C then so
    else .none

/-- Whether no boundary comes between the text before and `c`. -/
def ClusterContext.holds (before : ClusterContext) (c : Char) : Bool :=
  match before.last, ClusterClass.of c with
  | .carriageReturn, .lineFeed => true
  | .carriageReturn, _ | .lineFeed, _ | .control, _ => false
  | _, .carriageReturn | _, .lineFeed | _, .control => false
  | .leading, .leading | .leading, .vowel => true
  | .leading, .openSyllable | .leading, .closedSyllable => true
  | .openSyllable, .vowel | .openSyllable, .trailing | .vowel, .vowel | .vowel, .trailing => true
  | .closedSyllable, .trailing | .trailing, .trailing => true
  | _, .extend | _, .joiner | _, .spacing => true
  | .prepend, _ => true
  | _, .pictograph => before.joined
  | .regional, .regional => before.oddRegional
  | _, _ => before.conjunct = .linked && conjunctConsonant.contains c

/-- The clusters of a text that continues the cluster `current`. -/
def clustersFrom (before : Option ClusterContext) (current : List Char) :
    List Char → List (List Char)
  | [] => if current.isEmpty then [] else [current]
  | c :: rest =>
    let after := some (ClusterContext.next before c)
    if before.any (·.holds c) then clustersFrom after (current ++ [c]) rest
    else if current.isEmpty then clustersFrom after [c] rest
    else current :: clustersFrom after [c] rest

/-- Cuts a text into its clusters, which concatenate to it. -/
def clusters (cs : List Char) : List (List Char) :=
  clustersFrom none [] cs

end RelSchema.Text
