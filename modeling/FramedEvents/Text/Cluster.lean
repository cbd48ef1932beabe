/-
Clusters: the characters that stand together as one for a reader.

A mark belongs to the character before it, the parts of a Hangul syllable belong
to each other, two flag letters make a flag, and a joiner can make one picture of
two and a linker one conjunct of two consonants.

These are the extended grapheme clusters of the Unicode standard, as the library
unicode-segmentation documents them, by which comfy-table breaks words.
-/

import FramedEvents.Text.Property
import FramedEvents.Text.Cluster.Table

namespace FramedEvents.Cluster

open Property (isSkinTone isFlagLetter)

/-! ### Parts -/

/-- The part that a character plays in a cluster. -/
inductive Part where
  | control
  | mark
  | joiner
  | spacingMark
  | front
  | flagLetter
  /-- The consonant at the beginning of a Hangul syllable. -/
  | initial
  | vowel
  /-- The consonant at the end of a Hangul syllable. -/
  | final
  /-- A Hangul syllable without a consonant at its end. -/
  | openSyllable
  | closedSyllable
  | picture
  | other
  deriving DecidableEq

def isInitial (code : Nat) : Bool :=
  0x1100 ≤ code && code ≤ 0x115F || 0xA960 ≤ code && code ≤ 0xA97C

/-- Vowels of Hangul, and those of Kirat Rai, which are made of several parts too. -/
def isVowel (code : Nat) : Bool :=
  0x1160 ≤ code && code ≤ 0x11A7 || 0xD7B0 ≤ code && code ≤ 0xD7C6 ||
    code = 0x16D63 || 0x16D67 ≤ code && code ≤ 0x16D6A

def isFinal (code : Nat) : Bool :=
  0x11A8 ≤ code && code ≤ 0x11FF || 0xD7CB ≤ code && code ≤ 0xD7FB

def isSyllable (code : Nat) : Bool := 0xAC00 ≤ code && code ≤ 0xD7A3

/-- Syllables come in rows of one without a final consonant and 27 with one. -/
def isOpen (code : Nat) : Bool := (code - 0xAC00) % 28 = 0

def Part.ofChar (character : Char) : Part :=
  let code := character.toNat
  if 0x20 ≤ code && code < 0x7F then .other
  else if controls.holds character then .control
  else if character = Property.joiner then .joiner
  else if isSkinTone code || Property.extending.holds character then .mark
  else if isFlagLetter code then .flagLetter
  else if Property.prepended.holds character || numberMarks.holds character then .front
  else if spacing.holds character then .spacingMark
  else if isInitial code then .initial
  else if isVowel code then .vowel
  else if isFinal code then .final
  else if isSyllable code then if isOpen code then .openSyllable else .closedSyllable
  else if pictographs.holds character then .picture
  else .other

/-! ### What has been read -/

/-- How far something has come that needs a sign in its middle. -/
inductive Progress where
  | none
  | begun
  | linked
  deriving DecidableEq

/-- What the characters of a cluster so far tell about the next one. -/
structure Context where
  part : Part
  /-- Of a picture with its marks, and a joiner. -/
  picture : Progress
  /-- Of a consonant with its marks, and a linker among them. -/
  conjunct : Progress
  /-- Whether the last character is a flag letter that waits for another. -/
  halfFlag : Bool
  deriving DecidableEq

def Context.start (character : Char) : Context :=
  let part := Part.ofChar character
  { part
    picture := if part = .picture then .begun else .none
    conjunct := if consonants.holds character then .begun else .none
    halfFlag := part = .flagLetter }

def nextPicture (before : Progress) (part : Part) : Progress :=
  match before, part with
  | _, .picture => .begun
  | .begun, .mark => .begun
  | .begun, .joiner => .linked
  | _, _ => .none

def nextConjunct (before : Progress) (part : Part) (character : Char) : Progress :=
  if consonants.holds character then .begun
  else if before = .none then .none
  else if linkers.holds character then .linked
  else if part = .joiner || part = .mark && character ≠ '\u200c' then before
  else .none

def Context.add (context : Context) (character : Char) : Context :=
  let part := Part.ofChar character
  { part
    picture := nextPicture context.picture part
    conjunct := nextConjunct context.conjunct part character
    halfFlag := part = .flagLetter && !context.halfFlag }

def Context.takes (context : Context) (character : Char) : Bool :=
  match context.part, Part.ofChar character with
  | .control, _ | _, .control => false
  | .initial, .initial | .initial, .vowel => true
  | .initial, .openSyllable | .initial, .closedSyllable => true
  | .openSyllable, .vowel | .openSyllable, .final | .vowel, .vowel | .vowel, .final => true
  | .closedSyllable, .final | .final, .final => true
  | _, .mark | _, .joiner | _, .spacingMark => true
  | .front, _ => true
  | _, .picture => context.picture = .linked
  | .flagLetter, .flagLetter => context.halfFlag
  | _, _ => context.conjunct = .linked && consonants.holds character

/-! ### Reading clusters -/

/-- The rest of a cluster, of which the characters so far are given last first,
and what follows it. -/
def finish (context : Context) (sofar : List Char) : List Char → List Char × List Char
  | [] => (sofar.reverse, [])
  | character :: rest =>
      if context.takes character then finish (context.add character) (character :: sofar) rest
      else (sofar.reverse, character :: rest)

/-- The cluster at the front of a line that begins with this character, and what
follows it. -/
def first (character : Char) (rest : List Char) : List Char × List Char :=
  finish (Context.start character) [character] rest

theorem finish_append (context : Context) (sofar rest : List Char) :
    (finish context sofar rest).1 ++ (finish context sofar rest).2 = sofar.reverse ++ rest := by
  induction rest generalizing context sofar with
  | nil => rfl
  | cons character rest ih =>
      unfold finish
      split
      · rw [ih, List.reverse_cons, List.append_assoc, List.singleton_append]
      · rfl

theorem length_finish_le (context : Context) (sofar rest : List Char) :
    (finish context sofar rest).2.length ≤ rest.length := by
  induction rest generalizing context sofar with
  | nil => exact Nat.le_refl _
  | cons character rest ih =>
      unfold finish
      split
      · exact Nat.le_succ_of_le (ih _ _)
      · exact Nat.le_refl _

theorem first_append (character : Char) (rest : List Char) :
    (first character rest).1 ++ (first character rest).2 = character :: rest :=
  finish_append _ _ _

theorem length_first_le (character : Char) (rest : List Char) :
    (first character rest).2.length ≤ rest.length :=
  length_finish_le _ _ _

end FramedEvents.Cluster
