import Lifeline.Unicode.Width

/-! # The width of a text

Neighbours change the columns that a character takes: a skin tone merges with the emoji before
it, a family is several people joined into one picture, and some scripts draw two letters as one.
A text is read from its end to its start. `Follow` records what the characters already read have
begun, and `place` gives the columns that one more character adds and what it begins in turn. A
character can take a column back, so a step is an integer; `columns` is the total. -/

namespace Lifeline.Text

open Lifeline.Unicode (hasEmojiChoice isEmoji isEmojiBase isFlagLetter isSkinTone isWideless
  inRanges)

/-- How a variation selector asks for the character before it to be drawn. -/
inductive Presentation
  | asText
  | asEmoji
  deriving DecidableEq, Repr

/-- Letters that form one shape with a letter before them; `joined` tells that a joiner stands
between the two. -/
inductive Ligature
  | hebrewLamed (joined : Bool)
  | bugineseYa (joined : Bool)
  | bugineseVowelYa
  | tifinagh (joined : Bool)
  | tifinaghPair
  | lisuTone
  | oldTurkicI (joined : Bool)
  | khmerLetter
  deriving DecidableEq, Repr

/-- How many letters of flags stand in front of a joiner. -/
inductive FlagRun
  | single
  | even
  | odd
  deriving DecidableEq, Repr

/-- What the characters already read, those to the right, have begun. -/
inductive Follow
  /-- Nothing that concerns the character before. -/
  | nothing
  | lineFeed
  /-- A variation selector. -/
  | selector (request : Presentation)
  /-- An Arabic alef, and the request of a selector before it. -/
  | alef (request : Option Presentation)
  /-- A letter that can form a ligature, and the request of a selector before it. -/
  | ligature (letter : Ligature) (request : Option Presentation)
  | skinTone
  /-- Letters of flags: one, or several. -/
  | flags (several : Bool)
  | emoji
  /-- A joiner with an emoji after it; before them perhaps a keycap, and perhaps a selector. -/
  | joined (keycap selected : Bool)
  /-- Letters of flags, then a joiner with an emoji after it. -/
  | joinedFlags (run : FlagRun)
  /-- Tag characters, then a joiner with an emoji after it: the letters and digits read. -/
  | joinedTags (letters digits : Nat)
  deriving DecidableEq, Repr

/-- A joiner before the letter. -/
def Ligature.join : Ligature → Ligature
  | .hebrewLamed _ => .hebrewLamed true
  | .bugineseYa _ => .bugineseYa true
  | .tifinagh _ => .tifinagh true
  | .oldTurkicI _ => .oldTurkicI true
  | l => l

/-- A consonant of Tifinagh. -/
def isTifinaghConsonant (c : Char) : Bool :=
  inRanges [(0x2D31, 0x2D65), (0x2D6F, 0x2D6F)] c.toNat

/-- The columns added by a character that forms a ligature with the letter after it, and what the
ligature begins. -/
def Ligature.form (l : Ligature) (c : Char) : Option (Int × Follow) :=
  match l with
  | .hebrewLamed true => if c == '\u05d0' then some (0, .nothing) else none
  | .bugineseYa true =>
    if c == '\u1a17' then some (0, .ligature .bugineseVowelYa none) else none
  | .bugineseVowelYa => if c == '\u1a15' then some (0, .nothing) else none
  | .tifinagh isJoined =>
    if c == '\u2d7f' then some (1, .ligature .tifinaghPair none)
    else if isJoined && isTifinaghConsonant c then some (0, .nothing)
    else none
  | .tifinaghPair => if isTifinaghConsonant c then some (-1, .nothing) else none
  | .lisuTone => if inRanges [(0xA4F8, 0xA4FB)] c.toNat then some (0, .nothing) else none
  | .oldTurkicI true => if c.toNat == 0x10C32 then some (0, .nothing) else none
  | .khmerLetter => if c == '\u17d2' then some (-1, .nothing) else none
  | _ => none

/-- Characters that a ligature ignores. -/
def isLigatureTransparent (c : Char) : Bool :=
  inRanges [(0x34F, 0x34F), (0x17B4, 0x17B5), (0x180B, 0x180D), (0x180F, 0x180F),
    (0xFE00, 0xFE0F), (0xE0100, 0xE01EF)] c.toNat

/-- The letter forms one shape with an alef after it. -/
def isArabicLam (c : Char) : Bool :=
  inRanges [(0x644, 0x644), (0x6B5, 0x6B8), (0x76A, 0x76A), (0x8A6, 0x8A6), (0x8C7, 0x8C7)] c.toNat

/-- The letter forms one shape with a lam before it. -/
def isArabicAlef (c : Char) : Bool :=
  inRanges [(0x622, 0x623), (0x625, 0x625), (0x627, 0x627), (0x671, 0x673), (0x675, 0x675),
    (0x773, 0x774), (0x870, 0x882)] c.toNat

/-- Marks that may stand between a lam and its alef. -/
def isArabicTransparent (c : Char) : Bool :=
  isWideless c && !inRanges [(0x605, 0x605), (0x890, 0x891), (0x8E2, 0x8E2), (0x1160, 0x11FF),
    (0x180E, 0x180E), (0x200C, 0x200D), (0x2066, 0x2069)] c.toNat

/-- The columns of a character whose neighbours do not change it, and what it begins. -/
def alone (c : Char) : Int × Follow :=
  if c == '\n' then (0, .lineFeed)
  else if c.toNat < 0xA0 then (1, .nothing)
  else if isSkinTone c then (2, .skinTone)
  else if isFlagLetter c then (1, .flags false)
  else if isEmoji c then (2, .emoji)
  else if isArabicAlef c then (1, .alef none)
  else if c == '\u05dc' then (1, .ligature (.hebrewLamed false) none)
  else if c == '\u1a10' then (1, .ligature (.bugineseYa false) none)
  else if isTifinaghConsonant c then (1, .ligature (.tifinagh false) none)
  else if inRanges [(0xA4FC, 0xA4FD)] c.toNat then (1, .ligature .lisuTone none)
  else if c.toNat == 0x10C03 then (1, .ligature (.oldTurkicI false) none)
  else if inRanges [(0x1780, 0x17A2), (0x17A7, 0x17A7), (0x17AB, 0x17AC), (0x17AF, 0x17AF)] c.toNat
    then (1, .ligature .khmerLetter none)
  else (Unicode.columns c, .nothing)

/-- The effect of a variation selector on what follows it. -/
def Follow.select (request : Presentation) : Follow → Follow
  | .alef _ => .alef (some request)
  | .ligature l _ => .ligature l (some request)
  | .joined keycap _ => if request = .asEmoji then .joined keycap true else .selector .asText
  | _ => .selector request

/-- The pending request of a variation selector. -/
def Follow.request : Follow → Option Presentation
  | .selector r => some r
  | .alef r => r
  | .ligature _ r => r
  | .joined _ true => some .asEmoji
  | _ => none

/-- An emoji stands behind a joiner, so the character before adds no column to it. -/
def Follow.isJoined : Follow → Bool
  | .joined .. => true
  | _ => false

/-- What remains once the request of a variation selector has been refused. -/
def Follow.unselect : Follow → Follow
  | .selector _ => .nothing
  | .alef _ => .alef none
  | .ligature l _ => .ligature l none
  | .joined _ true => .nothing
  | f => f

/-- The columns that a character adds in front of what follows, where no selector stands between
them, and what it begins. -/
def placeBefore (c : Char) : Follow → Int × Follow
  | .lineFeed => if c == '\r' then (0, .nothing) else alone c
  | .alef r =>
    if isArabicLam c then (0, .nothing)
    else if isArabicTransparent c then (0, .alef r)
    else alone c
  | .ligature l r =>
    if c == '\u200d' then (0, .ligature l.join r)
    else if isLigatureTransparent c then (0, .ligature l r)
    else (l.form c).getD (alone c)
  | .skinTone =>
    if isEmojiBase c then (0, .emoji)
    else if c == '\u200d' then (0, .joined false false)
    else alone c
  | .flags several =>
    if isFlagLetter c then (1, .flags true)
    else if several && c == '\u200d' then (0, .joined false false)
    else alone c
  | .emoji => if c == '\u200d' then (0, .joined false false) else alone c
  | .joined false _ =>
    if c == '\u20e3' then (0, .joined true false)
    else if isFlagLetter c then (1, .joinedFlags .single)
    else if isSkinTone c then (0, .skinTone)
    else if c.toNat == 0xE007F then (0, .joinedTags 0 0)
    else if isEmoji c then (0, .emoji)
    else alone c
  | .joinedFlags run =>
    if isFlagLetter c then if run = .even then (3, .joinedFlags .odd) else (-1, .joinedFlags .even)
    else if run ≠ .single && c == '\u200d' then (0, .joined false false)
    else alone c
  | .joinedTags letters digits =>
    if inRanges [(0xE0061, 0xE007A)] c.toNat && digits == 0 && letters < 6 then
      (0, .joinedTags (letters + 1) 0)
    else if inRanges [(0xE0030, 0xE0039)] c.toNat &&
        (digits == 0 && letters < 5 || digits == 1 || digits == 2) then
      (0, .joinedTags letters (digits + 1))
    else if c.toNat == 0x1F3F4 && (digits == 0 && 3 ≤ letters || digits == 3) then (0, .emoji)
    else alone c
  | _ => alone c

/-- The columns that a character adds in front of what follows, and what it begins. -/
def place (c : Char) (f : Follow) : Int × Follow :=
  if c == '\ufe0f' then (0, f.select .asEmoji)
  else if c == '\ufe0e' then (0, f.select .asText)
  else match f.request with
  | none => placeBefore c f
  | some .asEmoji =>
    if hasEmojiChoice c then (if f.isJoined then 0 else 2, .emoji)
    else placeBefore c f.unselect
  | some .asText =>
    if isEmoji c && hasEmojiChoice c && !inRanges [(0x1F200, 0x1F2FF)] c.toNat then (1, .nothing)
    else placeBefore c f.unselect

/-- The columns of a text and what its first characters begin. -/
def measure : List Char → Int × Follow
  | [] => (0, .nothing)
  | c :: rest =>
    let (total, f) := measure rest
    let (more, g) := place c f
    (total + more, g)

/-- The number of columns that a text takes on a fixed-width display. -/
def columns (text : List Char) : Nat := (measure text).1.toNat

end Lifeline.Text
