import RelSchema.Text.Width.Classes

namespace RelSchema.Text

/-- How much of a flag's tags has been passed, from their end: letters, or the digits before the
letters. -/
inductive FlagTags
  | letters (count : Nat)
  | digits (count : Nat)
  deriving DecidableEq

/-- What stands to the right of a position, as far as it can change a width. -/
inductive Ahead
  | plain
  | lineFeed
  | emoji
  | skinTone
  | regional
  | regionals
  | joinedEmoji
  | joinedKeycap
  | joinedFlag (tags : FlagTags)
  | joinedRegional
  | joinedEvenRegionals
  | joinedOddRegionals
  | alef
  | lamed
  | joinedLamed
  | coengLetter
  | buginese
  | joinedBuginese
  | joinedBugineseVowel
  | tifinagh
  | joinedTifinagh
  | tifinaghJoiner
  | lisuTone
  | orkhon
  | joinedOrkhon
  | kiratRaiE
  | kiratRaiAi
  deriving DecidableEq

/-- Selectors ask for a look of the character before them: as a plain character, as an emoji, or, of
a quotation mark, as a wide one. -/
structure Selectors where
  text : Bool
  emoji : Bool
  wide : Bool
  deriving DecidableEq

def Selectors.none : Selectors := ⟨false, false, false⟩

structure RightContext where
  ahead : Ahead
  selectors : Selectors
  deriving DecidableEq

def Ahead.context (ahead : Ahead) : RightContext := ⟨ahead, .none⟩

/-- Ligatures that a selector between their parts does not break. -/
def Ahead.isLigature : Ahead → Bool
  | .alef | .lamed | .joinedLamed | .coengLetter | .buginese | .joinedBuginese
  | .joinedBugineseVowel | .tifinagh | .joinedTifinagh | .tifinaghJoiner | .lisuTone | .orkhon
  | .joinedOrkhon => true
  | _ => false

/-- Ligatures that skip every invisible character between their parts. -/
def Ahead.skipsInvisible (ahead : Ahead) : Bool :=
  ahead.isLigature && ahead ≠ .alef

/-- The same ligature with a joiner between its parts. -/
def Ahead.join : Ahead → Ahead
  | .lamed => .joinedLamed
  | .buginese => .joinedBuginese
  | .tifinagh => .joinedTifinagh
  | .orkhon => .joinedOrkhon
  | ahead => ahead

/-- An emoji stands behind a joiner, so one before the joiner becomes a part of it. -/
def Ahead.isJoinedEmoji (ahead : Ahead) : Bool :=
  ahead = .joinedEmoji || ahead = .joinedKeycap

/-- A character has been passed that the selectors in question do not apply to: a ligature stays and
only they are lost, and anything else is left behind. -/
def RightContext.pass (right : RightContext) (kept : Selectors) : RightContext :=
  if right.ahead.isLigature then ⟨right.ahead, kept⟩ else Ahead.plain.context

def RightContext.selectText (right : RightContext) : RightContext :=
  if right.ahead.isLigature then { right with selectors.text := true }
  else ⟨.plain, ⟨true, false, false⟩⟩

def RightContext.selectEmoji (right : RightContext) : RightContext :=
  if right.ahead.isLigature || right.ahead.isJoinedEmoji then
    { right with selectors.emoji := true }
  else ⟨.plain, ⟨false, true, false⟩⟩

def RightContext.selectWide (right : RightContext) : RightContext :=
  if right.ahead.isLigature then { right with selectors.wide := true }
  else ⟨.plain, ⟨false, false, true⟩⟩

def isRegional (c : Char) : Bool :=
  0x1F1E6 ≤ c.toNat && c.toNat ≤ 0x1F1FF

def isSkinTone (c : Char) : Bool :=
  0x1F3FB ≤ c.toNat && c.toNat ≤ 0x1F3FF

def isJoiner (c : Char) : Bool :=
  c.toNat = 0x200D

def isInvisible (c : Char) : Bool :=
  Ranges.contains [(0x34F, 0x34F), (0x17B4, 0x17B5), (0x180B, 0x180D), (0x180F, 0x180F),
    (0x200D, 0x200D), (0xFE00, 0xFE0F), (0xE0100, 0xE01EF)] c

def isLam (c : Char) : Bool :=
  Ranges.contains [(0x644, 0x644), (0x6B5, 0x6B8), (0x76A, 0x76A), (0x8A6, 0x8A6), (0x8C7, 0x8C7)] c

def isAlef (c : Char) : Bool :=
  Ranges.contains [(0x622, 0x623), (0x625, 0x625), (0x627, 0x627), (0x671, 0x673), (0x675, 0x675),
    (0x773, 0x774), (0x870, 0x882)] c

def isCoengLetter (c : Char) : Bool :=
  Ranges.contains [(0x1780, 0x1782), (0x1784, 0x1787), (0x1789, 0x178C), (0x178E, 0x1793),
    (0x1795, 0x1798), (0x179B, 0x179D), (0x17A0, 0x17A0), (0x17A2, 0x17A2), (0x17A7, 0x17A7),
    (0x17AB, 0x17AC), (0x17AF, 0x17AF)] c

def isTifinaghConsonant (c : Char) : Bool :=
  Ranges.contains [(0x2D31, 0x2D65), (0x2D6F, 0x2D6F)] c

def isQuotationMark (c : Char) : Bool :=
  c = '\u2018' || c = '\u2019' || c = '\u201C' || c = '\u201D'

def isTagLetter (c : Char) : Bool :=
  0xE0061 ≤ c.toNat && c.toNat ≤ 0xE007A

def isTagDigit (c : Char) : Bool :=
  0xE0030 ≤ c.toNat && c.toNat ≤ 0xE0039

/-- The tags of a flag with one more before them. A region is two letters or three digits, and up to
four letters for a part of it follow. -/
def FlagTags.extend (c : Char) : FlagTags → Option FlagTags
  | .letters n =>
    if isTagLetter c && n < 6 then some (.letters (n + 1))
    else if isTagDigit c && n < 5 then some (.digits 1)
    else none
  | .digits n => if isTagDigit c && n < 3 then some (.digits (n + 1)) else none

def FlagTags.isComplete : FlagTags → Bool
  | .letters n => 3 ≤ n
  | .digits n => n = 3

/-- The columns of a character alone, and what it is to the characters before it. -/
def measureAlone (c : Char) : Int × RightContext :=
  let n := c.toNat
  if n = 0xFE0F then (0, Ahead.plain.context.selectEmoji)
  else if n = 0xFE0E then (0, Ahead.plain.context.selectText)
  else if n = 0xFE01 then (0, Ahead.plain.context.selectWide)
  else if zeroWidth.contains c then (0, Ahead.plain.context)
  else if isRegional c then (1, Ahead.regional.context)
  else if isSkinTone c then (2, Ahead.skinTone.context)
  else if emojiPresentation.contains c then (2, Ahead.emoji.context)
  else if isAlef c then (1, Ahead.alef.context)
  else if n = 0x5DC then (1, Ahead.lamed.context)
  else if n = 0x17D8 then (3, Ahead.plain.context)
  else if isCoengLetter c then (1, Ahead.coengLetter.context)
  else if n = 0x1A10 then (1, Ahead.buginese.context)
  else if isTifinaghConsonant c then (1, Ahead.tifinagh.context)
  else if n = 0xA4FC || n = 0xA4FD then (1, Ahead.lisuTone.context)
  else if n = 0x10C03 then (1, Ahead.orkhon.context)
  else if n = 0x16D67 then (1, Ahead.kiratRaiE.context)
  else if n = 0x16D68 then (1, Ahead.kiratRaiAi.context)
  else if doubleWidth.contains c then (2, Ahead.plain.context)
  else (1, Ahead.plain.context)

/-- What a character adds inside a sequence that began to its right, if it continues one. -/
def measureJoined (c : Char) (ahead : Ahead) : Option (Int × RightContext) :=
  let n := c.toNat
  match ahead with
  | .alef =>
    if transparent.contains c then some (0, ahead.context)
    else if isLam c then some (0, Ahead.plain.context)
    else none
  | .joinedLamed => if n = 0x5D0 then some (0, Ahead.plain.context) else none
  | .coengLetter => if n = 0x17D2 then some (-1, Ahead.plain.context) else none
  | .joinedBuginese => if n = 0x1A17 then some (0, Ahead.joinedBugineseVowel.context) else none
  | .joinedBugineseVowel => if n = 0x1A15 then some (0, Ahead.plain.context) else none
  | .tifinagh => if n = 0x2D7F then some (1, Ahead.tifinaghJoiner.context) else none
  | .joinedTifinagh =>
    if n = 0x2D7F then some (1, Ahead.tifinaghJoiner.context)
    else if isTifinaghConsonant c then some (0, Ahead.plain.context)
    else none
  | .tifinaghJoiner => if isTifinaghConsonant c then some (-1, Ahead.plain.context) else none
  | .lisuTone => if 0xA4F8 ≤ n && n ≤ 0xA4FB then some (0, Ahead.plain.context) else none
  | .joinedOrkhon => if n = 0x10C32 then some (0, Ahead.plain.context) else none
  | .kiratRaiE =>
    if n = 0x16D63 then some (0, Ahead.plain.context)
    else if n = 0x16D67 then some (0, Ahead.kiratRaiAi.context)
    else if n = 0x16D68 then some (1, Ahead.kiratRaiE.context)
    else if n = 0x16D69 then some (0, Ahead.plain.context)
    else none
  | .kiratRaiAi => if n = 0x16D63 then some (0, Ahead.plain.context) else none
  | .skinTone =>
    if emojiModifierBase.contains c then some (0, Ahead.emoji.context)
    else if isJoiner c then some (0, Ahead.joinedEmoji.context)
    else none
  | .regional => if isRegional c then some (1, Ahead.regionals.context) else none
  | .regionals =>
    if isRegional c then some (1, Ahead.regionals.context)
    else if isJoiner c then some (0, Ahead.joinedEmoji.context)
    else none
  | .emoji => if isJoiner c then some (0, Ahead.joinedEmoji.context) else none
  | .joinedEmoji =>
    if isRegional c then some (1, Ahead.joinedRegional.context)
    else if isSkinTone c then some (0, Ahead.skinTone.context)
    else if n = 0x20E3 then some (0, Ahead.joinedKeycap.context)
    else if n = 0xE007F then some (0, (Ahead.joinedFlag (.letters 0)).context)
    else if emojiPresentation.contains c then some (0, Ahead.emoji.context)
    else none
  | .joinedFlag tags =>
    if n = 0x1F3F4 && tags.isComplete then some (0, Ahead.emoji.context)
    else (tags.extend c).map fun tags => (0, (Ahead.joinedFlag tags).context)
  | .joinedRegional | .joinedOddRegionals =>
    if isRegional c then some (-1, Ahead.joinedEvenRegionals.context)
    else if ahead = .joinedOddRegionals && isJoiner c then some (0, Ahead.joinedEmoji.context)
    else none
  | .joinedEvenRegionals =>
    if isRegional c then some (3, Ahead.joinedOddRegionals.context)
    else if isJoiner c then some (0, Ahead.joinedEmoji.context)
    else none
  | _ => none

/-- What a character that no selector applies to adds before `right`. -/
def measureUnselected (c : Char) (right : RightContext) : Int × RightContext :=
  if right.ahead.skipsInvisible && isJoiner c then (0, ⟨right.ahead.join, right.selectors⟩)
  else if right.ahead.skipsInvisible && isInvisible c then (0, right)
  else if right.selectors = .none then (measureJoined c right.ahead).getD (measureAlone c)
  else measureAlone c

/-- What a character past the ASCII range adds before `right`, selectors for emoji aside. -/
def measureWide (c : Char) (right : RightContext) : Int × RightContext :=
  let n := c.toNat
  let asked := right.selectors
  if right = Ahead.plain.context then measureAlone c
  else if n = 0xFE0F then (0, right.selectEmoji)
  else if n = 0xFE0E then (0, right.selectText)
  else if n = 0xFE01 then (0, right.selectWide)
  else if asked.text then
    if textSelectable.contains c then (1, Ahead.plain.context)
    else measureUnselected c (right.pass { asked with text := false })
  else if asked.wide then
    if isQuotationMark c then (2, Ahead.plain.context)
    else measureUnselected c (right.pass { asked with wide := false })
  else measureUnselected c right

/-- The columns that `c` adds to what stands on its right. -/
def measure (c : Char) (right : RightContext) : Int × RightContext :=
  if right.selectors.emoji && emojiSelectable.contains c then
    (if right.ahead.isJoinedEmoji then 0 else 2, Ahead.emoji.context)
  else
    let right :=
      if right.selectors.emoji then right.pass { right.selectors with emoji := false } else right
    if c.toNat ≤ 0xA0 then
      if c = '\n' then (1, Ahead.lineFeed.context)
      else if c = '\r' && right = Ahead.lineFeed.context then (0, Ahead.plain.context)
      else (1, Ahead.plain.context)
    else measureWide c right

/-- The columns of a text and what it is to a character put before it. -/
def measureAll : List Char → Int × RightContext
  | [] => (0, Ahead.plain.context)
  | c :: rest =>
    let (columns, right) := measureAll rest
    let (more, left) := measure c right
    (more + columns, left)

/-- The number of terminal columns that a text takes. Line ends, emoji sequences and a few ligatures
take less than their characters do one by one, so a text is measured from its end. -/
def width (s : String) : Nat :=
  (measureAll s.toList).1.toNat

def padRight (s : String) (columns : Nat) : String :=
  s ++ .ofList (List.replicate (columns - width s) ' ')

def padLeft (s : String) (columns : Nat) : String :=
  .ofList (List.replicate (columns - width s) ' ') ++ s

end RelSchema.Text
