/-
How many columns a line of text takes on a terminal.

Most characters take one column. Ideographs and pictures take two, marks that
combine with the character before them none. But characters can go together: a
picture made of several characters takes two columns, and two letters that are
written as one take one. What a character adds depends on what follows it, so a
line is measured from its end.

The rules are those that the library unicode-width documents for the width of a string, by
which comfy-table measures its columns.
-/

import FramedEvents.Text.Property
import FramedEvents.Text.Width.Table

namespace FramedEvents.Width

open Property (joiner isSkinTone isFlagLetter)

/-! ### Characters -/

def isInnerJamo (code : Nat) : Bool :=
  0x1160 ≤ code && code ≤ 0x11FF || 0xD7B0 ≤ code && code ≤ 0xD7C6 ||
    0xD7CB ≤ code && code ≤ 0xD7FB

def isOverlaid (code : Nat) : Bool :=
  [0x0605, 0x070F, 0x0890, 0x0891, 0x08E2, 0xA8FA].contains code

/-- The Hangul filler that stands for a first consonant, and the Tifinagh joiner,
which is seen where it joins nothing. -/
def isPlaceholder (code : Nat) : Bool := code = 0x115F || code = 0x2D7F

def isUnspaced (character : Char) : Bool :=
  let code := character.toNat
  !isPlaceholder code &&
    (Property.extending.holds character || Property.ignorable.holds character ||
      Property.prepended.holds character || isInnerJamo code || isOverlaid code)

def ofChar (character : Char) : Nat :=
  if character.toNat ≤ 0xA0 then 1
  else if isUnspaced character then 0
  else if character.toNat = 0x17D8 then 3
  else if wide.holds character then 2
  else 1

/-! ### Letters that are written as one -/

/-- Letters that can be one with the letter in front of them. -/
inductive Letter where
  /-- The Arabic letters that make a ligature with a lam. -/
  | alef
  /-- The Hebrew letter that makes one with an alef, behind a joiner. -/
  | lamed
  /-- The Buginese letter that makes one with a vowel sign i and a letter a. -/
  | ya
  | vowelAndYa
  | tifinagh
  /-- A Tifinagh consonant behind the sign that joins it to another. -/
  | linkedTifinagh
  | tone
  /-- The Old Turkic letter that makes one with a letter ec, behind a joiner. -/
  | orkhon
  /-- The Khmer letters that are written below the one before. -/
  | khmer
  deriving DecidableEq

namespace Letter

def isAlef (code : Nat) : Bool :=
  [0x0622, 0x0623, 0x0625, 0x0627, 0x0671, 0x0672, 0x0673, 0x0675, 0x0773, 0x0774].contains code ||
    0x0870 ≤ code && code ≤ 0x0882

def isLam (code : Nat) : Bool :=
  code = 0x0644 || 0x06B5 ≤ code && code ≤ 0x06B8 || [0x076A, 0x08A6, 0x08C7].contains code

def isTifinagh (code : Nat) : Bool := 0x2D31 ≤ code && code ≤ 0x2D65 || code = 0x2D6F

def subscripts : CodeRanges :=
  [(0x1780, 0x1782), (0x1784, 0x1787), (0x1789, 0x178C), (0x178E, 0x1793), (0x1795, 0x1798),
    (0x179B, 0x179D), (0x17A0, 0x17A0), (0x17A2, 0x17A2), (0x17A7, 0x17A7), (0x17AB, 0x17AC),
    (0x17AF, 0x17AF)]

def ofChar? (character : Char) : Option Letter :=
  let code := character.toNat
  if code = 0x05DC then some lamed
  else if isAlef code then some alef
  else if subscripts.holds character then some khmer
  else if code = 0x1A10 then some ya
  else if isTifinagh code then some tifinagh
  else if code = 0xA4FC || code = 0xA4FD then some tone
  else if code = 0x10C03 then some orkhon
  else none

end Letter

/-! ### What follows a character -/

/-- A selector asks the character before it to show itself in a certain way. -/
inductive Selector where
  | text
  | picture
  | wideQuote
  deriving DecidableEq

def Selector.ofChar? (character : Char) : Option Selector :=
  if character = '\ufe0e' then some .text
  else if character = '\ufe0f' then some .picture
  else if character = '\ufe01' then some .wideQuote
  else none

/-- What follows a character, as far as the character may be one with it. -/
inductive Form where
  | plain
  | picture
  | skinTone
  /-- One of the letters that make a flag in pairs. -/
  | flagLetter
  | flagLetters
  | joined
  | joinedKeycap
  | joinedFlagLetter
  | joinedFlag
  /-- A flag letter that is left over, a joiner and a picture. -/
  | oddFlagLetter
  /-- The end of a flag written in tags, so many letters and then digits of it,
  read from the end, with a joiner and a picture behind. -/
  | joinedTags (letters digits : Nat)
  /-- A letter, with a joiner in front of it or not. -/
  | letter (letter : Letter) (joined : Bool)
  | vowelE
  | vowelAi
  deriving DecidableEq

structure Ahead where
  selector : Option Selector := none
  form : Form := .plain
  deriving DecidableEq

def isTagLetter (code : Nat) : Bool := 0xE0061 ≤ code && code ≤ 0xE007A

def isTagDigit (code : Nat) : Bool := 0xE0030 ≤ code && code ≤ 0xE0039

def Form.ofChar (character : Char) : Form :=
  let code := character.toNat
  if isSkinTone code then .skinTone
  else if isFlagLetter code then .flagLetter
  else if pictures.holds character then .picture
  else if code = 0x16D67 then .vowelE
  else if code = 0x16D68 then .vowelAi
  else ((Letter.ofChar? character).map (Form.letter · false)).getD .plain

def isTextual (character : Char) : Bool :=
  let code := character.toNat
  !(0x1F200 ≤ code && code ≤ 0x1F2FF) && pictures.holds character && selectable.holds character

def isQuotationMark (character : Char) : Bool :=
  ['\u2018', '\u2019', '\u201c', '\u201d'].contains character

/-! ### Going together -/

def isPassed (code : Nat) : Bool :=
  [0x034F, 0x17B4, 0x17B5, 0x180B, 0x180C, 0x180D, 0x180F].contains code ||
    0xFE00 ≤ code && code ≤ 0xFE0F || 0xE0100 ≤ code && code ≤ 0xE01EF

/-- The columns that a character adds in front of a letter, and what the two are
together, if they are one. -/
def Letter.join? (letter : Letter) (joined : Bool) (character : Char) : Option (Int × Form) :=
  let code := character.toNat
  if letter = .alef then
    if isLam code then some (0, .plain)
    else if isUnspaced character && !separating.holds character then some (0, .letter .alef false)
    else none
  else if character = joiner then some (0, .letter letter true)
  else if isPassed code then some (0, .letter letter joined)
  else match letter, joined with
    | .lamed, true => if code = 0x05D0 then some (0, .plain) else none
    | .ya, true => if code = 0x1A17 then some (0, .letter .vowelAndYa true) else none
    | .vowelAndYa, _ => if code = 0x1A15 then some (0, .plain) else none
    | .tifinagh, joined =>
        if code = 0x2D7F then some (1, .letter .linkedTifinagh true)
        else if joined && isTifinagh code then some (0, .plain)
        else none
    | .linkedTifinagh, _ => if isTifinagh code then some (-1, .plain) else none
    | .tone, _ => if 0xA4F8 ≤ code && code ≤ 0xA4FB then some (0, .plain) else none
    | .orkhon, true => if code = 0x10C32 then some (0, .plain) else none
    | .khmer, _ => if code = 0x17D2 then some (-1, .plain) else none
    | _, _ => none

/-- The columns that a tag, or the flag in front of all tags, adds. A flag has
three letters or more, or three digits at its front. -/
def joinTag? (letters digits code : Nat) : Option (Int × Form) :=
  if isTagLetter code then
    if digits = 0 ∧ letters < 6 then some (0, .joinedTags (letters + 1) 0) else none
  else if isTagDigit code then
    if digits < 3 ∧ (0 < digits ∨ letters ≤ 4) then some (0, .joinedTags letters (digits + 1))
    else none
  else if code = 0x1F3F4 ∧ (digits = 3 ∨ digits = 0 ∧ 3 ≤ letters) then some (0, .picture)
  else none

/-- The columns that a character adds in front of something, and what the two are
together, if they are one. -/
def Form.join? (form : Form) (character : Char) : Option (Int × Form) :=
  let code := character.toNat
  match form with
  | .plain | .joinedKeycap => none
  | .picture => if character = joiner then some (0, .joined) else none
  | .skinTone =>
      if toneBases.holds character then some (0, .picture)
      else if character = joiner then some (0, .joined)
      else none
  | .flagLetter => if isFlagLetter code then some (1, .flagLetters) else none
  | .flagLetters =>
      if isFlagLetter code then some (1, .flagLetters)
      else if character = joiner then some (0, .joined)
      else none
  | .joined =>
      if code = 0x20E3 then some (0, .joinedKeycap)
      else if isFlagLetter code then some (1, .joinedFlagLetter)
      else if isSkinTone code then some (0, .skinTone)
      else if code = 0xE007F then some (0, .joinedTags 0 0)
      else if pictures.holds character then some (0, .picture)
      else none
  | .joinedFlagLetter => if isFlagLetter code then some (-1, .joinedFlag) else none
  | .joinedFlag =>
      if isFlagLetter code then some (3, .oddFlagLetter)
      else if character = joiner then some (0, .joined)
      else none
  | .oddFlagLetter =>
      if isFlagLetter code then some (-1, .joinedFlag)
      else if character = joiner then some (0, .joined)
      else none
  | .joinedTags letters digits => joinTag? letters digits code
  | .letter first behind => first.join? behind character
  | .vowelE =>
      if code = 0x16D63 || code = 0x16D69 then some (0, .plain)
      else if code = 0x16D67 then some (0, .vowelAi)
      else if code = 0x16D68 then some (1, .vowelE)
      else none
  | .vowelAi => if code = 0x16D63 then some (0, .plain) else none

def Form.behindSelector : Form → Form
  | .letter first behind => .letter first behind
  | _ => .plain

def Ahead.unselected (ahead : Ahead) : Form :=
  if ahead.selector = none then ahead.form else ahead.form.behindSelector

/-- Puts a selector in front. A picture is joined across a selector for pictures. -/
def Form.select (form : Form) (selector : Selector) : Ahead :=
  let kept :=
    if selector = .picture ∧ (form = .joined ∨ form = .joinedKeycap) then form
    else form.behindSelector
  ⟨some selector, kept⟩

/-! ### Lines -/

/-- The columns that a character adds, and what it is for the one in front. -/
def step (character : Char) (ahead : Ahead) : Int × Ahead :=
  if ahead.selector = some .picture ∧ selectable.holds character then
    let joins := ahead.form = .joined ∨ ahead.form = .joinedKeycap
    (if joins then 0 else 2, ⟨none, .picture⟩)
  else if character.toNat ≤ 0xA0 then (1, {})
  else match Selector.ofChar? character with
    | some selector => (0, ahead.unselected.select selector)
    | none =>
        if ahead.selector = some .text ∧ isTextual character then (1, {})
        else if ahead.selector = some .wideQuote ∧ isQuotationMark character then (2, {})
        else
          let (columns, form) :=
            (ahead.unselected.join? character).getD (ofChar character, .ofChar character)
          (columns, ⟨none, form⟩)

def ofLine (line : List Char) : Nat :=
  (line.foldr
    (fun character (total, ahead) =>
      let (columns, ahead) := step character ahead
      (total + columns, ahead))
    ((0 : Int), ({} : Ahead))).1.toNat

end FramedEvents.Width
