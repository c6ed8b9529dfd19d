import Rulebook.Text.Case

/-!
# Equality ignoring case

Two characters are the same letter when their small letters agree, or when the two
small letters share a capital, as the long and the round s do. Each class of such
small letters is listed once; its first member stands for the class, so sameness is
equality of keys and thereby an equivalence.
-/

namespace Rulebook.Text

/-- Small letters that share a capital, class by class. -/
def sharedCapitals : List (List Char) :=
  [['i', 'ı'], ['s', 'ſ'], ['µ', 'μ'], ['\u0345', 'ι', '\u1fbe'], ['\u0390', '\u1fd3'],
   ['\u03b0', '\u1fe3'], ['β', '\u03d0'], ['ε', '\u03f5'], ['θ', '\u03d1'], ['κ', '\u03f0'],
   ['π', '\u03d6'], ['ρ', '\u03f1'], ['ς', 'σ'], ['φ', '\u03d5'], ['в', '\u1c80'],
   ['д', '\u1c81'], ['о', '\u1c82'], ['с', '\u1c83'], ['т', '\u1c84', '\u1c85'],
   ['ъ', '\u1c86'], ['ѣ', '\u1c87'], ['\u1c88', '\ua64b'], ['\u1e61', '\u1e9b'],
   ['\ufb05', '\ufb06']]

/-- The small letters that are the same letter as `c`, which is itself small. -/
def smallVariants (c : Char) : List Char :=
  match sharedCapitals.find? (·.contains c) with
  | some letters => letters
  | none => [c]

/-- One small letter for all spellings of the letter. -/
def caseKey (c : Char) : Char := (smallVariants (small c)).headD c

/-- Equality of characters ignoring case. -/
def sameLetter (c d : Char) : Bool := caseKey c == caseKey d

/-- The capitals of a small letter. -/
def capitalsOf (c : Char) : List Char :=
  let point := c.toNat
  let plain := if 97 ≤ point && point ≤ 122 then [Char.ofNat (point - 32)] else []
  plain ++ (capitalRuns.filter fun run =>
      run.target ≤ point && run.holds (run.first + (point - run.target))).map
    fun run => Char.ofNat (run.first + (point - run.target))

/-- All spellings of a letter in either case. -/
def spellings (c : Char) : List Char :=
  (smallVariants (small c)).flatMap fun letter => letter :: capitalsOf letter

theorem sameLetter_refl (c : Char) : sameLetter c c = true := by simp [sameLetter]

theorem sameLetter_comm (c d : Char) : sameLetter c d = sameLetter d c := by
  simp only [sameLetter, Bool.beq_comm]

end Rulebook.Text
