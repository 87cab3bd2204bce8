import TableIntake.Text.Emoji
import TableIntake.Text.Extenders

/-! # Terminal columns

How many columns of a fixed-width terminal a line of text takes. A character takes two if
it is wide or a picture, none if it is invisible, and one otherwise, but characters that
are drawn as one take the columns of one: pictures with their modifiers and selectors,
flags, and letters that a font joins. So a line is read from its end, and what it has been
found to begin with decides the columns of the character in front.
-/

namespace TableIntake.Text

/-! ## Single characters -/

def wideText : CodePointRanges := #[
  (0x1100, 0x115F), (0x17A4, 0x17A4), (0x2329, 0x232A), (0x2630, 0x2637), (0x268A, 0x268F),
  (0x2E80, 0x2E99), (0x2E9B, 0x2EF3), (0x2F00, 0x2FD5), (0x2FF0, 0x3029), (0x3030, 0x303E),
  (0x3041, 0x3096), (0x309B, 0x30FF), (0x3105, 0x312F), (0x3131, 0x3163), (0x3165, 0x318E),
  (0x3190, 0x31E5), (0x31EF, 0x321E), (0x3220, 0x3247), (0x3250, 0xA48C), (0xA490, 0xA4C6),
  (0xA960, 0xA97C), (0xAC00, 0xD7A3), (0xF900, 0xFAFF), (0xFE10, 0xFE19), (0xFE30, 0xFE52),
  (0xFE54, 0xFE66), (0xFE68, 0xFE6B), (0xFF01, 0xFF60), (0xFFE0, 0xFFE6), (0x16FE0, 0x16FE3),
  (0x16FF2, 0x16FF6), (0x17000, 0x18CDA), (0x18CFF, 0x18D20), (0x18D80, 0x18DF2),
  (0x18E00, 0x19191), (0x191A0, 0x191D2), (0x1AFF0, 0x1AFF3), (0x1AFF5, 0x1AFFB),
  (0x1AFFD, 0x1AFFE), (0x1B000, 0x1B128), (0x1B132, 0x1B132), (0x1B150, 0x1B152),
  (0x1B155, 0x1B155), (0x1B164, 0x1B168), (0x1B170, 0x1B2FB), (0x1D300, 0x1D356),
  (0x1D360, 0x1D376), (0x1F1AE, 0x1F1AE), (0x1F200, 0x1F200), (0x1F202, 0x1F202),
  (0x1F210, 0x1F219), (0x1F21B, 0x1F22E), (0x1F230, 0x1F231), (0x1F237, 0x1F237),
  (0x1F23B, 0x1F23B), (0x1F240, 0x1F248), (0x1F260, 0x1F265), (0x20000, 0x2FFFD),
  (0x30000, 0x3FFFD)]

/-- Marks in front of numbers or syllables, and the vowels and finals that a Hangul
syllable block absorbs. -/
def absorbedCharacters : CodePointRanges := #[
  (0x605, 0x605), (0x70F, 0x70F), (0x890, 0x891), (0x8E2, 0x8E2), (0xD4E, 0xD4E), (0x1161, 0x11FF),
  (0xA8FA, 0xA8FA), (0xD7B0, 0xD7C6), (0xD7CB, 0xD7FB), (0x111C2, 0x111C3), (0x113D1, 0x113D1),
  (0x1193F, 0x1193F), (0x11941, 0x11941), (0x11A84, 0x11A89), (0x11D46, 0x11D46),
  (0x11F02, 0x11F02)]

def isInvisible (c : Char) : Bool :=
  (isDrawnWithin c || isDefaultIgnorable c || absorbedCharacters.covers c.toNat) &&
    !(c = '\u115f' || c = '\u2d7f')

def isWide (c : Char) : Bool :=
  wideText.covers c.toNat || (isEmojiPresentation c && !isRegionalIndicator c)

def characterColumns (c : Char) : Nat :=
  if c ≤ '\u00a0' then 1
  else if c = '\u17d8' then 3
  else if isInvisible c then 0
  else if isWide c then 2
  else 1

/-! ## Letters that a font joins -/

def zeroWidthJoiner : Char :=
  '\u200d'

/-- The letters that take part in joined forms from the right. `yaWithVowel` and
`joinedTifinagh` begin with a mark that has joined the letter behind it. -/
inductive JoiningLetter where
  | lamed
  | ya
  | yaWithVowel
  | tifinagh
  | joinedTifinagh
  | orkhonI
  | lisuTone
  | khmer
deriving DecidableEq, Repr

def isTifinaghConsonant (c : Char) : Bool :=
  ('\u2d31' ≤ c && c ≤ '\u2d65') || c = '\u2d6f'

def khmerLetters : CodePointRanges := #[
  (0x1780, 0x1782), (0x1784, 0x1787), (0x1789, 0x178C), (0x178E, 0x1793), (0x1795, 0x1798),
  (0x179B, 0x179D), (0x17A0, 0x17A0), (0x17A2, 0x17A2), (0x17A7, 0x17A7), (0x17AB, 0x17AC),
  (0x17AF, 0x17AF)]

def JoiningLetter.of? (c : Char) : Option JoiningLetter :=
  if c = '\u05dc' then some .lamed
  else if c = '\u1a10' then some .ya
  else if isTifinaghConsonant c then some .tifinagh
  else if c.toNat = 0x10C03 then some .orkhonI
  else if c = '\ua4fc' || c = '\ua4fd' then some .lisuTone
  else if khmerLetters.covers c.toNat then some .khmer
  else none

def isPassedOver (c : Char) : Bool :=
  let point := c.toNat
  point == 0x34F || point == 0x17B4 || point == 0x17B5 || (0x180B ≤ point && point ≤ 0x180D) ||
    point == 0x180F || (0xFE00 ≤ point && point ≤ 0xFE0F) || (0xE0100 ≤ point && point ≤ 0xE01EF)

def isAlef (c : Char) : Bool :=
  let point := c.toNat
  point == 0x622 || point == 0x623 || point == 0x625 || point == 0x627 ||
    (0x671 ≤ point && point ≤ 0x673) || point == 0x675 || point == 0x773 || point == 0x774 ||
    (0x870 ≤ point && point ≤ 0x882)

def isLam (c : Char) : Bool :=
  let point := c.toNat
  point == 0x644 || (0x6B5 ≤ point && point ≤ 0x6B8) || point == 0x76A || point == 0x8A6 ||
    point == 0x8C7

def transparentFormats : CodePointRanges := #[
  (0xAD, 0xAD), (0x61C, 0x61C), (0x70F, 0x70F), (0x200B, 0x200B), (0x200E, 0x200F),
  (0x202A, 0x202E), (0x2060, 0x2064), (0x206A, 0x206F), (0xFEFF, 0xFEFF), (0x1BCA0, 0x1BCA3),
  (0x1D173, 0x1D17A), (0xE0001, 0xE0001)]

def isTransparent (c : Char) : Bool :=
  isInvisible c &&
    ((isDrawnWithin c && !spacingExtenders.covers c.toNat) ||
      transparentFormats.covers c.toNat)

/-! ## What a text begins with -/

/-- What a text begins with, as far as the columns of a character in front depend on it.
What is `joined` has a joiner in front of a picture. The tags of a flag are counted from
the last one, letters or else digits. -/
inductive Opening where
  | other
  | lineFeed
  | emoji
  | modifier
  | indicator
  | indicators
  | joinedEmoji
  | joinedKeycap
  | joinedIndicator
  | joinedEvenIndicators
  | joinedOddIndicators
  | joinedTags (letters digits : Nat)
  | kiratE
  | kiratAI
  | alef
  | letter (letter : JoiningLetter) (joined : Bool)
deriving DecidableEq, Repr

structure Context where
  opening : Opening := .other
  asEmoji : Bool := false
  asText : Bool := false
  asQuote : Bool := false

/-- The columns of a character, and the text that it begins. They can be fewer than none:
then the character takes back columns of the text behind it. -/
abbrev Placed := Int × Context

namespace Opening

def context (opening : Opening) : Context :=
  { opening := opening }

def isLetter : Opening → Bool
  | .alef | .letter _ _ => true
  | _ => false

def isJoinedPicture : Opening → Bool
  | .joinedEmoji | .joinedKeycap => true
  | _ => false

def of (c : Char) : Opening :=
  if isAlef c then .alef
  else if isRegionalIndicator c then .indicator
  else if isEmojiModifier c then .modifier
  else if isEmojiPresentation c then .emoji
  else if c.toNat = 0x16D67 then .kiratE
  else if c.toNat = 0x16D68 then .kiratAI
  else match JoiningLetter.of? c with
    | some joining => .letter joining false
    | none => .other

def beforeLetter (c : Char) (joined : Bool) : JoiningLetter → Option (Int × Opening)
  | .lamed => if joined && c = '\u05d0' then some (0, .other) else none
  | .ya => if joined && c = '\u1a17' then some (0, .letter .yaWithVowel true) else none
  | .yaWithVowel => if c = '\u1a15' then some (0, .other) else none
  | .tifinagh =>
      if c = '\u2d7f' then some (1, .letter .joinedTifinagh true)
      else if joined && isTifinaghConsonant c then some (0, .other)
      else none
  | .joinedTifinagh => if isTifinaghConsonant c then some (-1, .other) else none
  | .orkhonI => if joined && c.toNat = 0x10C32 then some (0, .other) else none
  | .lisuTone => if '\ua4f8' ≤ c && c ≤ '\ua4fb' then some (0, .other) else none
  | .khmer => if c = '\u17d2' then some (-1, .other) else none

def beforeJoinedEmoji (c : Char) : Option (Int × Opening) :=
  if c = '\u20e3' then some (0, .joinedKeycap)
  else if isRegionalIndicator c then some (1, .joinedIndicator)
  else if isEmojiModifier c then some (0, .modifier)
  else if c.toNat = 0xE007F then some (0, .joinedTags 0 0)
  else if isEmojiPresentation c then some (0, .emoji)
  else none

def beforeTags (c : Char) (letters digits : Nat) : Option (Int × Opening) :=
  if 0xE0061 ≤ c.toNat && c.toNat ≤ 0xE007A then
    if digits = 0 && letters < 6 then some (0, .joinedTags (letters + 1) 0) else none
  else if 0xE0030 ≤ c.toNat && c.toNat ≤ 0xE0039 then
    if (digits = 0 && letters < 5) || digits = 1 || digits = 2 then
      some (0, .joinedTags letters (digits + 1))
    else none
  else if c.toNat = 0x1F3F4 && (digits = 3 || (digits = 0 && 3 ≤ letters)) then some (0, .emoji)
  else none

def before (c : Char) : Opening → Option (Int × Opening)
  | .other | .lineFeed | .joinedKeycap => none
  | .emoji => if c = zeroWidthJoiner then some (0, .joinedEmoji) else none
  | .modifier =>
      if isModifierBase c then some (0, .emoji)
      else if c = zeroWidthJoiner then some (0, .joinedEmoji)
      else none
  | .indicator => if isRegionalIndicator c then some (1, .indicators) else none
  | .indicators =>
      if isRegionalIndicator c then some (1, .indicators)
      else if c = zeroWidthJoiner then some (0, .joinedEmoji)
      else none
  | .joinedIndicator => if isRegionalIndicator c then some (-1, .joinedEvenIndicators) else none
  | .joinedEvenIndicators =>
      if isRegionalIndicator c then some (3, .joinedOddIndicators)
      else if c = zeroWidthJoiner then some (0, .joinedEmoji)
      else none
  | .joinedOddIndicators =>
      if isRegionalIndicator c then some (-1, .joinedEvenIndicators)
      else if c = zeroWidthJoiner then some (0, .joinedEmoji)
      else none
  | .joinedEmoji => beforeJoinedEmoji c
  | .joinedTags letters digits => beforeTags c letters digits
  | .kiratE =>
      if c.toNat = 0x16D63 || c.toNat = 0x16D69 then some (0, .other)
      else if c.toNat = 0x16D67 then some (0, .kiratAI)
      else if c.toNat = 0x16D68 then some (1, .kiratE)
      else none
  | .kiratAI => if c.toNat = 0x16D63 then some (0, .other) else none
  | .alef =>
      if isLam c then some (0, .other)
      else if isTransparent c then some (0, .alef)
      else none
  | .letter joining joined => beforeLetter c joined joining

end Opening

namespace Context

/-- A selector in front of a text parts it from what comes before, unless that could join. -/
def select (selectWith : Context → Context) (context : Context) : Context :=
  selectWith (if context.opening.isLetter then context else {})

def isVariedQuote (c : Char) : Bool :=
  c = '\u2018' || c = '\u2019' || c = '\u201c' || c = '\u201d'

/-- Pictures that a selector turns into text. Two wide signs stay wide as text. -/
def isNarrowedByText (c : Char) : Bool :=
  isVariationBase c && isEmojiPresentation c && !(c.toNat = 0x1F21A || c.toNat = 0x1F22F)

def beforeUnselected (c : Char) (context : Context) : Placed :=
  let byItself : Placed := (characterColumns c, (Opening.of c).context)
  match context.opening with
  | .letter letter joined =>
      if c = zeroWidthJoiner then (0, { context with opening := .letter letter true })
      else if isPassedOver c then (0, context)
      else if context.asQuote then byItself
      else
        match Opening.beforeLetter c joined letter with
        | some (columns, opening) => (columns, opening.context)
        | none => byItself
  | opening =>
      if context.asQuote then byItself
      else
        match opening.before c with
        | some (columns, opening) => (columns, opening.context)
        | none => byItself

def beforeVisible (c : Char) (context : Context) : Placed :=
  if c = '\ufe0f' then
    if context.opening.isJoinedPicture then (0, { context with asEmoji := true })
    else (0, context.select ({ · with asEmoji := true }))
  else if c = '\ufe0e' then (0, context.select ({ · with asText := true }))
  else if c = '\ufe01' then (0, context.select ({ · with asQuote := true }))
  else if context.asText then
    if isNarrowedByText c then (1, {}) else beforeUnselected c { context with asText := false }
  else if context.asQuote && isVariedQuote c then (2, {})
  else beforeUnselected c { context with asQuote := false }

def beforeText (c : Char) (context : Context) : Placed :=
  if c = '\n' then (1, Opening.lineFeed.context)
  else if c = '\r' && context.opening = .lineFeed then (0, {})
  else if c ≤ '\u00a0' then (1, {})
  else context.beforeVisible c

def before (c : Char) (context : Context) : Placed :=
  if !context.asEmoji then context.beforeText c
  else if isVariationBase c then
    (if context.opening.isJoinedPicture then 0 else 2, Opening.emoji.context)
  else if context.opening.isLetter then { context with asEmoji := false }.beforeText c
  else ({} : Context).beforeText c

end Context

def columns (line : List Char) : Nat :=
  (line.foldr
    (fun c (total, context) =>
      let (columns, context) := context.before c
      (total + columns, context))
    ((0, {}) : Placed)).1.toNat

example : columns ['l', 'i', 'n', 'e'] = 4 := by decide +kernel

example : columns ['\u2764'] = 1 ∧ columns ['\u2764', '\ufe0f'] = 2 := by decide +kernel

example : columns ['\u0644', '\u064b', '\u0627'] = 1 := by decide +kernel

end TableIntake.Text
