/-
Breaking a line that is too wide into lines of a given width.

Lines are broken at spaces. A word that is too wide for any line is broken
between clusters, and begins on the line before it if there is room.

This is how comfy-table documents that it splits the content of a cell.
-/

import FramedEvents.Text.Cluster
import FramedEvents.Text.Width

namespace FramedEvents.Wrap

/-! ### Words -/

/-- Puts a character in front of words. A space begins a new first word. -/
def pushFront (character : Char) (words : List (List Char)) : List (List Char) :=
  if character = ' ' then [] :: words
  else (character :: words.headD []) :: words.tail

/-- The words of a line. Between two spaces side by side is an empty word. -/
def words (line : List Char) : List (List Char) := line.foldr pushFront [[]]

/-- The clusters at the front of a word that fit into the room, after the
characters so far, and the rest of the word. All before the rest is last first. -/
def fit (room : Nat) (sofar word : List Char) : List Char × List Char :=
  match word with
  | [] => (sofar, [])
  | character :: tail =>
      let parts := Cluster.first character tail
      let columns := Width.ofLine parts.1
      if columns ≤ room then fit (room - columns) (parts.1.reverse ++ sofar) parts.2
      else (sofar, character :: tail)
termination_by word.length
decreasing_by
  have := Cluster.length_first_le character tail
  simp only [List.length_cons]
  omega

theorem fit_append (room : Nat) (sofar word : List Char) :
    (fit room sofar word).1.reverse ++ (fit room sofar word).2 = sofar.reverse ++ word := by
  fun_induction fit room sofar word with
  | case1 sofar => rfl
  | case2 room sofar character tail parts columns small ih =>
      rw [ih, List.reverse_append, List.reverse_reverse, List.append_assoc,
        Cluster.first_append]
  | case3 room sofar character tail parts columns large => rfl

/-- The front of a word that fits into the room, and the rest. -/
def cut (room : Nat) (word : List Char) : List Char × List Char :=
  let parts := fit room [] word
  (parts.1.reverse, parts.2)

theorem cut_append (room : Nat) (word : List Char) :
    (cut room word).1 ++ (cut room word).2 = word :=
  fit_append room [] word

theorem length_cut_lt {room : Nat} {word : List Char} (goesOn : (cut room word).1 ≠ []) :
    (cut room word).2.length < word.length := by
  have total := congrArg List.length (cut_append room word)
  have front := List.length_pos_iff.mpr goesOn
  rw [List.length_append] at total
  omega

/-- The front of a word that goes on a line of its own, and the rest. It is one
character at least, even if that is too wide. -/
def cutOwn (room : Nat) (word : List Char) : List Char × List Char :=
  let parts := cut room word
  if parts.1 = [] then (word.take 1, word.drop 1) else parts

theorem length_cutOwn_lt (room : Nat) {word : List Char} (hasWord : word ≠ []) :
    (cutOwn room word).2.length < word.length := by
  have length := List.length_pos_iff.mpr hasWord
  simp only [cutOwn]
  split
  · simp only [List.length_drop]
    omega
  · exact length_cut_lt (by assumption)

/-! ### Lines -/

/-- The lines that are full, and the one that is being filled. -/
structure Filling where
  full : List (List Char) := []
  current : List Char := []
  /-- The columns that are taken in the current line. -/
  taken : Nat := 0

def spare : Nat := 2

namespace Filling

def gap (filling : Filling) : Nat := if filling.current = [] then 0 else 1

def room (filling : Filling) (width : Nat) : Nat := width - filling.taken - filling.gap

def flush (filling : Filling) : Filling := { full := filling.current.reverse :: filling.full }

def append (filling : Filling) (width : Nat) (word : List Char) : Filling :=
  let space := List.replicate filling.gap ' '
  let added : Filling :=
    { full := filling.full
      current := word.reverse ++ space ++ filling.current
      taken := filling.taken + filling.gap + Width.ofLine word }
  if added.taken > width - spare then added.flush else added

/-- Puts a word where it fits, in pieces if it is wider than a line. A piece goes
on the current line only if there is more room than spare. -/
def place (width : Nat) (filling : Filling) (word : List Char) : Filling :=
  let columns := Width.ofLine word
  let room := filling.room width
  if _ : word = [] ∨ filling.taken + filling.gap + columns ≤ width then
    filling.append width word
  else if _ : filling.current = [] then
    let parts := cutOwn width word
    place width (filling.append width parts.1) parts.2
  else if columns ≤ width then filling.flush.append width word
  else
    let parts := cut room word
    if _ : spare < room ∧ parts.1 ≠ [] then place width (filling.append width parts.1) parts.2
    else place width filling.flush word
termination_by (word.length, filling.current.length)
decreasing_by
  · have hasWord : ¬(word = [] ∨ filling.taken + filling.gap + columns ≤ width) := by assumption
    exact Prod.Lex.left _ _ (length_cutOwn_lt width fun none => hasWord (.inl none))
  · have goesOn : spare < room ∧ parts.1 ≠ [] := by assumption
    exact Prod.Lex.left _ _ (length_cut_lt goesOn.2)
  · exact Prod.Lex.right _ (List.length_pos_iff.mpr (by assumption))

def lines (filling : Filling) : List (List Char) :=
  (if filling.current = [] then filling else filling.flush).full.reverse

end Filling

def lines (width : Nat) (line : List Char) : List (List Char) :=
  ((words line).foldl (Filling.place width) {}).lines

end FramedEvents.Wrap
