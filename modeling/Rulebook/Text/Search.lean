import Rulebook.Text.Fold
import Rulebook.Text.Word

/-!
# Finding words in text

Occurrence is defined by what stands at some position: a text occurs in another when
it is a prefix of one of its suffixes. The variants that ignore case or ask for whole
words change only the test at a position.
-/

namespace Rulebook.Text

/-- True when the text starts with the word, exactly. -/
def startsWith : List Char → List Char → Bool
  | [], _ => true
  | _ :: _, [] => false
  | w :: word, c :: text => w == c && startsWith word text

/-- True when the word stands somewhere in the text, exactly. -/
def occurs (word : List Char) : List Char → Bool
  | [] => startsWith word []
  | c :: text => startsWith word (c :: text) || occurs word text

/-- The text after the word, when the text starts with it ignoring case. -/
def afterWord? : List Char → List Char → Option (List Char)
  | [], text => some text
  | _ :: _, [] => none
  | w :: word, c :: text => if sameLetter w c then afterWord? word text else none

/-- True when one of the words stands somewhere in the text, ignoring case. -/
def mentions (words : List String) : List Char → Bool
  | [] => words.any fun word => (afterWord? word.toList []).isSome
  | c :: text =>
    (words.any fun word => (afterWord? word.toList (c :: text)).isSome) || mentions words text

/-- True when a character at the edge of a text is a word character. -/
def wordAt (edge : Option Char) : Bool :=
  match edge with
  | some c => isWord c
  | none => false

/-- True when exactly one of the two neighbours of a position is a word character. -/
def atBoundary (before after : Option Char) : Bool := wordAt before != wordAt after

/-- True when one of the words stands in the text ignoring case, with a word boundary
on both sides. -/
def mentionsWhole (words : List String) (before : Option Char) : List Char → Bool
  | [] => false
  | c :: text =>
    (atBoundary before (some c) && words.any fun word =>
      match afterWord? word.toList (c :: text) with
      | some rest =>
        atBoundary (word.toList.getLast?) rest.head?
      | none => false)
    || mentionsWhole words (some c) text

/-- A word occurs exactly when the text splits around it. -/
theorem startsWith_eq_true_iff (word text : List Char) :
    startsWith word text = true ↔ word <+: text := by
  induction word generalizing text with
  | nil => simp [startsWith]
  | cons w word inductionHypothesis =>
    cases text with
    | nil => simp [startsWith]
    | cons c text => simp [startsWith, inductionHypothesis, List.cons_prefix_cons]

theorem occurs_eq_true_iff (word text : List Char) :
    occurs word text = true ↔ word <:+: text := by
  induction text with
  | nil => simp [occurs, startsWith_eq_true_iff]
  | cons c text inductionHypothesis =>
    simp [occurs, startsWith_eq_true_iff, inductionHypothesis, List.infix_cons_iff]

end Rulebook.Text
