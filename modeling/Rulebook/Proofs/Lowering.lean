import Rulebook.Proofs.Letters

/-!
# Lowering a part of a text

A text is lowered character by character, and only a capital sigma looks at what stands around it.
So a part of a text is lowered as it would be alone, unless one of its sigmas is open: what decides
on its form may lie outside the part. A part without an open sigma is found in every text that
contains it when both are lowered, and a part with one is missed in some text.

What has been lowered stays as it is when it is lowered again, whatever stands around it. This
rests on the table of capitals, which lists none of its own small letters.
-/

namespace Rulebook.Text

/-- True when the small letters of one run are no capitals of another: they lie elsewhere, or
between the capitals of a run that takes every second character. There are so many pairs of runs
that the test is made of operations that the kernel computes at once. -/
def CapitalRun.missesCapitals (run other : CapitalRun) : Bool :=
  Nat.blt other.last run.target || Nat.blt (run.target + (run.last - run.first)) other.first
    || (other.step == 2 && (run.step == 2 || run.first == run.last)
      && (run.target + other.first) % 2 == 1)

/-- No small letter of the table is a capital of the table. -/
theorem missesCapitals_of_mem :
    (capitalRuns.all fun run => capitalRuns.all run.missesCapitals) = true := by decide +kernel

/-- The small letters of the table are characters, and none is a capital of ASCII. -/
theorem target_of_mem_capitalRuns : ∀ run ∈ capitalRuns, 90 < run.target ∧
    (run.target + (run.last - run.first) < 0xd800 ∨
      (0xdfff < run.target ∧ run.target + (run.last - run.first) < 0x110000)) := by decide +kernel

/-- The small letter of a capital in one run is no capital of a run that it misses. -/
theorem CapitalRun.holds_small (run other : CapitalRun) (point : Nat)
    (misses : run.missesCapitals other = true) (held : run.holds point = true) :
    other.holds (run.target + (point - run.first)) = false := by
  simp only [missesCapitals, Bool.or_eq_true, Bool.and_eq_true, Nat.blt_eq, beq_iff_eq] at misses
  simp only [holds, Bool.and_eq_true, decide_eq_true_eq, beq_iff_eq] at held
  obtain ⟨⟨first, last⟩, stepped⟩ := held
  rw [Bool.eq_false_iff]
  intro capital
  simp only [holds, Bool.and_eq_true, decide_eq_true_eq, beq_iff_eq] at capital
  obtain ⟨⟨above, below⟩, even⟩ := capital
  rcases misses with (late | early) | ⟨⟨second, apart⟩, odd⟩
  · omega
  · omega
  · rw [second] at even
    rcases apart with alternate | single
    · rw [alternate] at stepped
      omega
    · omega

/-- Characters behind the capitals of ASCII are none of them. -/
theorem isUpper_eq_false (c : Char) (behind : 90 < c.toNat) : c.isUpper = false := by
  rw [Bool.eq_false_iff]
  intro upper
  have range := range_of_isUpper c upper
  omega

/-- A capital outside ASCII has a small letter with the number that its run tells. -/
theorem CapitalRun.toNat_small (run : CapitalRun) (member : run ∈ capitalRuns) (point : Nat)
    (held : run.holds point = true) :
    (Char.ofNat (run.target + (point - run.first))).toNat =
      run.target + (point - run.first) := by
  simp only [holds, Bool.and_eq_true, decide_eq_true_eq] at held
  obtain ⟨⟨first, last⟩, -⟩ := held
  obtain ⟨-, low | ⟨above, high⟩⟩ := target_of_mem_capitalRuns run member
  · exact toNat_ofNat _ (Or.inl (by omega))
  · exact toNat_ofNat _ (Or.inr ⟨by omega, by omega⟩)

/-- No run lists the small letter of a capital that a run lists. -/
theorem CapitalRun.find?_small (run : CapitalRun) (member : run ∈ capitalRuns) (point : Nat)
    (held : run.holds point = true) :
    capitalRuns.find? (·.holds (run.target + (point - run.first))) = none := by
  rw [List.find?_eq_none]
  intro other listed
  have row := List.all_eq_true.mp missesCapitals_of_mem run member
  rw [run.holds_small other point (List.all_eq_true.mp row other listed) held]
  exact Bool.false_ne_true

/-- A small letter is the character itself, a letter of ASCII, or one that a run reaches. -/
theorem small_cases (c : Char) :
    small c = c ∨ (97 ≤ (small c).toNat ∧ (small c).toNat ≤ 122) ∨
      ∃ run ∈ capitalRuns, run.target ≤ (small c).toNat ∧
        (small c).toNat ≤ run.target + (run.last - run.first) := by
  by_cases ascii : c.toNat < 128
  · have checked : ∀ point < 128, small (Char.ofNat point) = Char.ofNat point ∨
        (97 ≤ (small (Char.ofNat point)).toNat ∧ (small (Char.ofNat point)).toNat ≤ 122) := by
      decide
    obtain ⟨point, below, rfl⟩ := exists_point_of_ascii c ascii
    rcases checked point below with own | letter
    · exact Or.inl own
    · exact Or.inr (Or.inl letter)
  · cases found : capitalRuns.find? (·.holds c.toNat) with
    | none =>
      left
      unfold small
      rw [if_neg ascii, found]
    | some run =>
      have member : run ∈ capitalRuns := List.mem_of_find?_eq_some found
      have held : run.holds c.toNat = true := by simpa using List.find?_some found
      have number := run.toNat_small member c.toNat held
      have letter : small c = Char.ofNat (run.target + (c.toNat - run.first)) := by
        unfold small
        rw [if_neg ascii, found]
      simp only [CapitalRun.holds, Bool.and_eq_true, decide_eq_true_eq] at held
      refine Or.inr (Or.inr ⟨run, member, ?_⟩)
      rw [letter, number]
      omega

/-- A small letter is its own small letter. -/
theorem small_small (c : Char) : small (small c) = small c := by
  by_cases ascii : c.toNat < 128
  · have checked : ∀ point < 128, small (small (Char.ofNat point)) = small (Char.ofNat point) := by
      decide
    have here := checked c.toNat ascii
    rw [Char.ofNat_toNat] at here
    exact here
  · cases found : capitalRuns.find? (·.holds c.toNat) with
    | none =>
      have own : small c = c := by
        unfold small
        rw [if_neg ascii, found]
      rw [own, own]
    | some run =>
      have member : run ∈ capitalRuns := List.mem_of_find?_eq_some found
      have held : run.holds c.toNat = true := by simpa using List.find?_some found
      have number := run.toNat_small member c.toNat held
      obtain ⟨behind, -⟩ := target_of_mem_capitalRuns run member
      have letter : small c = Char.ofNat (run.target + (c.toNat - run.first)) := by
        unfold small
        rw [if_neg ascii, found]
      rw [letter]
      unfold small
      rw [isUpper_eq_false _ (by omega), number, run.find?_small member c.toNat held]
      split <;> rfl

/-- A character that is its own small letter is lowered to itself, whatever stands around it. -/
theorem lowerBetween_of_small (before after : List Char) (c : Char) (isSmall : small c = c) :
    lowerBetween before c after = [c] := by
  have noSigma : c ≠ 'Σ' := by
    rintro rfl
    exact absurd isSmall (by decide)
  have undotted : c ≠ 'İ' := by
    rintro rfl
    exact absurd isSmall (by decide)
  simp [lowerBetween, noSigma, undotted, isSmall]

/-- A sigma is final behind a cased letter and in front of none. -/
theorem lowerBetween_sigma (before after : List Char) :
    lowerBetween before 'Σ' after =
      [if meetsCased before && !meetsCased after then 'ς' else 'σ'] := rfl

/-- What a character is lowered to are small letters. -/
theorem small_of_mem_lowerBetween (before after : List Char) (c lowered : Char)
    (member : lowered ∈ lowerBetween before c after) : small lowered = lowered := by
  unfold lowerBetween at member
  split at member
  · split at member <;> obtain rfl := List.mem_singleton.mp member <;> decide
  · split at member
    · rcases List.mem_cons.mp member with rfl | last
      · decide
      · obtain rfl := List.mem_singleton.mp last
        decide
    · obtain rfl := List.mem_singleton.mp member
      exact small_small c

/-- What a text is lowered to are small letters. -/
theorem small_of_mem_lower (cs : List Char) (lowered : Char) (member : lowered ∈ lower cs) :
    small lowered = lowered := by
  unfold lower at member
  generalize [] = before at member
  induction cs generalizing before with
  | nil => cases member
  | cons c rest inductionHypothesis =>
    rcases List.mem_append.mp member with here | later
    · exact small_of_mem_lowerBetween before rest c lowered here
    · exact inductionHypothesis _ later

/-- Lowers a part of a text between the reversed text before it and the text after it. -/
def lowerWithin (before : List Char) : List Char → List Char → List Char
  | [], _ => []
  | c :: part, after =>
    lowerBetween before c (part ++ after) ++ lowerWithin (c :: before) part after

/-- A text is lowered part by part. -/
theorem lowerAfter_append (before part after : List Char) :
    lowerAfter before (part ++ after) =
      lowerWithin before part after ++ lowerAfter (part.reverse ++ before) after := by
  induction part generalizing before with
  | nil => rfl
  | cons c part inductionHypothesis =>
    simp only [List.cons_append, lowerAfter, lowerWithin, inductionHypothesis,
      List.append_assoc, List.reverse_cons, List.nil_append]

/-- A whole text is the part with nothing after it. -/
theorem lowerAfter_eq_lowerWithin (before cs : List Char) :
    lowerAfter before cs = lowerWithin before cs [] := by
  have whole := lowerAfter_append before cs []
  rw [List.append_nil, lowerAfter, List.append_nil] at whole
  exact whole

/-- A part is lowered part by part as well. -/
theorem lowerWithin_append (before first second after : List Char) :
    lowerWithin before (first ++ second) after =
      lowerWithin before first (second ++ after) ++
        lowerWithin (first.reverse ++ before) second after := by
  induction first generalizing before with
  | nil => rfl
  | cons c first inductionHypothesis =>
    simp only [List.cons_append, lowerWithin, inductionHypothesis, List.append_assoc,
      List.reverse_cons, List.nil_append]

/-- How many characters a part is lowered to does not depend on what stands around it. -/
theorem length_lowerWithin (before other part after rest : List Char) :
    (lowerWithin before part after).length = (lowerWithin other part rest).length := by
  induction part generalizing before other with
  | nil => rfl
  | cons c part inductionHypothesis =>
    have here : (lowerBetween before c (part ++ after)).length =
        (lowerBetween other c (part ++ rest)).length := by
      unfold lowerBetween
      split
      · rfl
      · split <;> rfl
    rw [lowerWithin, lowerWithin, List.length_append, List.length_append, here,
      inductionHypothesis (c :: before) (c :: other)]

/-- Small letters stay as they are. -/
theorem lowerWithin_of_small (before part after : List Char)
    (isSmall : ∀ c ∈ part, small c = c) : lowerWithin before part after = part := by
  induction part generalizing before with
  | nil => rfl
  | cons c part inductionHypothesis =>
    have first : small c = c := isSmall c List.mem_cons_self
    have others : ∀ d ∈ part, small d = d := fun d member =>
      isSmall d (List.mem_cons_of_mem c member)
    rw [lowerWithin, lowerBetween_of_small before _ c first, inductionHypothesis _ others]
    rfl

/-- A part that is lowered alike in all surroundings is found where it stands, when both are
lowered. -/
theorem infix_lower_of_stable (part text : List Char) (inside : part <:+: text)
    (stable : ∀ before after, lowerWithin before part after = lower part) :
    lower part <:+: lower text := by
  obtain ⟨front, back, rfl⟩ := inside
  have whole : lower (front ++ part ++ back) = lowerWithin [] front (part ++ back) ++
      (lower part ++ lowerAfter (part.reverse ++ (front.reverse ++ [])) back) := by
    unfold lower
    rw [List.append_assoc, lowerAfter_append, lowerAfter_append, stable, lower]
  rw [whole, ← List.append_assoc]
  exact List.infix_append _ _ _

/-- Lowering changes nothing about a text of small letters. -/
theorem lower_of_small (part : List Char) (isSmall : ∀ c ∈ part, small c = c) :
    lower part = part := by
  rw [lower, lowerAfter_eq_lowerWithin, lowerWithin_of_small [] part [] isSmall]

/-- Small letters are found where they stand, also when the text is lowered. -/
theorem infix_lower_of_small (part text : List Char) (inside : part <:+: text)
    (isSmall : ∀ c ∈ part, small c = c) : part <:+: lower text := by
  have same : lower part = part := lower_of_small part isSmall
  have found : lower part <:+: lower text := by
    apply infix_lower_of_stable part text inside
    intro before after
    rw [lowerWithin_of_small before part after isSmall, same]
  rw [same] at found
  exact found

/-- Nothing but the empty text is lowered to the empty text. -/
theorem lower_eq_nil_iff (cs : List Char) : lower cs = [] ↔ cs = [] := by
  cases cs with
  | nil => exact Iff.rfl
  | cons c rest =>
    have some : lowerBetween [] c rest ≠ [] := by
      unfold lowerBetween
      split
      · exact List.cons_ne_nil _ _
      · split <;> exact List.cons_ne_nil _ _
    simp [lower, lowerAfter, some]

/-- What decides on a sigma is looked for behind the characters that are looked through. -/
theorem meetsCased_append (near far : List Char) :
    meetsCased (near ++ far) = if near.all isPassive then meetsCased far else meetsCased near := by
  induction near with
  | nil => rfl
  | cons c near inductionHypothesis =>
    cases passive : isPassive c with
    | true =>
      have skip (others : List Char) : meetsCased (c :: others) = meetsCased others := by
        simp only [meetsCased, List.dropWhile_cons_of_pos passive]
      simp only [List.cons_append, skip, inductionHypothesis, List.all_cons, passive,
        Bool.true_and]
    | false =>
      have stop : ¬ isPassive c = true := by simp [passive]
      simp [meetsCased, List.dropWhile_cons_of_neg stop, passive]

/-- Nothing cased is met where everything is looked through. -/
theorem meetsCased_of_all_passive (cs : List Char) (passive : cs.all isPassive = true) :
    meetsCased cs = false := by
  have behind := meetsCased_append cs []
  rw [List.append_nil, if_pos passive] at behind
  exact behind

/-- True when a capital sigma between the reversed text before it and the text after it could take
its other form if more stood around: everything on one side is looked through, and the other side
leaves the form to that side. -/
def isOpen (before after : List Char) : Bool :=
  (before.all isPassive && !meetsCased after) || (meetsCased before && after.all isPassive)

/-- True when some capital sigma of a part is open, given the reversed text before the part. -/
def hasOpenSigma (before : List Char) : List Char → Bool
  | [] => false
  | c :: part => (c == 'Σ' && isOpen before part) || hasOpenSigma (c :: before) part

/-- A sigma that is not open has its form in all surroundings. -/
theorem lowerBetween_of_not_open (before after front back : List Char)
    (closed : isOpen before after = false) :
    lowerBetween (before ++ front) 'Σ' (after ++ back) = lowerBetween before 'Σ' after := by
  obtain ⟨left, right⟩ := Bool.or_eq_false_iff.mp closed
  have form : (meetsCased (before ++ front) && !meetsCased (after ++ back)) =
      (meetsCased before && !meetsCased after) := by
    rw [meetsCased_append, meetsCased_append]
    cases looksThrough : before.all isPassive with
    | true =>
      have met : meetsCased after = true := by simpa [looksThrough] using left
      have cased : ¬ after.all isPassive = true := fun passive => by
        rw [meetsCased_of_all_passive after passive] at met
        cases met
      simp [cased, met]
    | false =>
      cases met : meetsCased before with
      | true =>
        have cased : ¬ after.all isPassive = true := by simpa [met] using right
        simp [cased]
      | false => simp
  rw [lowerBetween_sigma, lowerBetween_sigma, form]

/-- A part without an open sigma is lowered alike in all surroundings. -/
theorem lowerWithin_of_no_open (before part front back : List Char)
    (closed : hasOpenSigma before part = false) :
    lowerWithin (before ++ front) part back = lowerWithin before part [] := by
  induction part generalizing before with
  | nil => rfl
  | cons c part inductionHypothesis =>
    obtain ⟨here, later⟩ := Bool.or_eq_false_iff.mp closed
    have first : lowerBetween (before ++ front) c (part ++ back) =
        lowerBetween before c (part ++ []) := by
      rw [List.append_nil]
      by_cases sigma : c = 'Σ'
      · subst sigma
        exact lowerBetween_of_not_open before part front back (by simpa using here)
      · simp [lowerBetween, sigma]
    have rest := inductionHypothesis (c :: before) later
    rw [lowerWithin, lowerWithin, first, ← List.cons_append, rest]

/-- An open sigma of a part is a place where the part is split. -/
theorem exists_split_of_open (before part : List Char) (opened : hasOpenSigma before part = true) :
    ∃ front back, part = front ++ 'Σ' :: back ∧ isOpen (front.reverse ++ before) back = true := by
  induction part generalizing before with
  | nil => cases opened
  | cons c part inductionHypothesis =>
    rcases Bool.or_eq_true_iff.mp opened with here | later
    · obtain ⟨sigma, isOpened⟩ := Bool.and_eq_true_iff.mp here
      obtain rfl := beq_iff_eq.mp sigma
      exact ⟨[], part, rfl, isOpened⟩
    · obtain ⟨front, back, rfl, isOpened⟩ := inductionHypothesis (c :: before) later
      refine ⟨c :: front, back, rfl, ?_⟩
      rw [List.reverse_cons, List.append_assoc]
      exact isOpened

/-- Where the form of a sigma differs, the whole part is lowered differently. -/
theorem lowerWithin_ne_of_sigma (front back before after : List Char)
    (differs : lowerBetween (front.reverse ++ before) 'Σ' (back ++ after) ≠
      lowerBetween front.reverse 'Σ' back) :
    lowerWithin before (front ++ 'Σ' :: back) after ≠ lower (front ++ 'Σ' :: back) := by
  intro same
  rw [lower, lowerAfter_eq_lowerWithin, lowerWithin_append, lowerWithin_append] at same
  obtain ⟨-, sigma⟩ := List.append_inj same (length_lowerWithin _ _ _ _ _)
  obtain ⟨here, -⟩ := List.append_inj sigma rfl
  rw [List.append_nil, List.append_nil] at here
  exact differs here

/-- A text that stands in another of one more character is the rest of it, or begins with that
character. -/
theorem eq_or_head_of_infix_cons (c : Char) (word rest : List Char) (some : word ≠ [])
    (length : word.length = rest.length) (inside : word <:+: c :: rest) :
    word = rest ∨ word.head? = Option.some c := by
  rcases List.infix_cons_iff.mp inside with front | later
  · cases word with
    | nil => exact absurd rfl some
    | cons d word =>
      obtain ⟨rfl, -⟩ := List.cons_prefix_cons.mp front
      exact Or.inr rfl
  · exact Or.inl (later.eq_of_length length)

/-- The same at the other end. -/
theorem eq_or_last_of_infix_concat (c : Char) (word rest : List Char) (some : word ≠ [])
    (length : word.length = rest.length) (inside : word <:+: rest ++ [c]) :
    word = rest ∨ word.getLast? = Option.some c := by
  have turned : word.reverse <:+: c :: rest.reverse := by
    have mirrored := List.reverse_infix.mpr inside
    rw [List.reverse_append] at mirrored
    exact mirrored
  rcases eq_or_head_of_infix_cons c word.reverse rest.reverse (by simpa using some)
    (by simpa using length) turned with same | first
  · exact Or.inl (List.reverse_inj.mp same)
  · rw [List.head?_reverse] at first
    exact Or.inr first

/-- There is a cased letter that differs from a given one. -/
theorem exists_other_letter (taken : Option Char) : ∃ letter : Char, small letter = letter ∧
    isPassive letter = false ∧ isCased letter = true ∧ taken ≠ some letter := by
  by_cases same : taken = some 'a'
  · refine ⟨'b', by decide, by decide, by decide, ?_⟩
    rw [same]
    decide
  · exact ⟨'a', by decide, by decide, by decide, same⟩

/-- A part that a letter in front of it changes is missed behind that letter. -/
theorem missing_behind (letter : Char) (part : List Char) (isSmall : small letter = letter)
    (new : (lower part).head? ≠ some letter) (content : lower part ≠ [])
    (differs : lowerWithin [letter] part [] ≠ lower part) :
    ¬ lower part <:+: lower (letter :: part) := by
  have text : lower (letter :: part) = letter :: lowerWithin [letter] part [] := by
    rw [lower, lowerAfter, lowerBetween_of_small _ _ _ isSmall, lowerAfter_eq_lowerWithin]
    rfl
  have length : (lower part).length = (lowerWithin [letter] part []).length := by
    rw [lower, lowerAfter_eq_lowerWithin, length_lowerWithin]
  rw [text]
  intro inside
  rcases eq_or_head_of_infix_cons letter _ _ content length inside with same | first
  · exact differs same.symm
  · exact new first

/-- A part that a letter behind it changes is missed in front of that letter. -/
theorem missing_in_front (letter : Char) (part : List Char) (isSmall : small letter = letter)
    (new : (lower part).getLast? ≠ some letter) (content : lower part ≠ [])
    (differs : lowerWithin [] part [letter] ≠ lower part) :
    ¬ lower part <:+: lower (part ++ [letter]) := by
  have text : lower (part ++ [letter]) = lowerWithin [] part [letter] ++ [letter] := by
    rw [lower, lowerAfter_append, lowerAfter, lowerBetween_of_small _ _ _ isSmall]
    rfl
  have length : (lower part).length = (lowerWithin [] part [letter]).length := by
    rw [lower, lowerAfter_eq_lowerWithin, length_lowerWithin]
  rw [text]
  intro inside
  rcases eq_or_last_of_infix_concat letter _ _ content length inside with same | last
  · exact differs same.symm
  · exact new last

/-- A part with an open sigma is missed in some text that contains it, when both are lowered. -/
theorem exists_missing_text (part : List Char) (opened : hasOpenSigma [] part = true) :
    ∃ text, part <:+: text ∧ ¬ lower part <:+: lower text := by
  obtain ⟨front, back, rfl, isOpened⟩ := exists_split_of_open [] part opened
  rw [List.append_nil] at isOpened
  have content : lower (front ++ 'Σ' :: back) ≠ [] := by
    rw [Ne, lower_eq_nil_iff]
    exact List.append_ne_nil_of_right_ne_nil _ (List.cons_ne_nil _ _)
  rcases Bool.or_eq_true_iff.mp isOpened with left | right
  · -- A cased letter in front makes the sigma final.
    obtain ⟨passive, unmet⟩ := Bool.and_eq_true_iff.mp left
    obtain ⟨letter, isSmall, stops, cased, new⟩ :=
      exists_other_letter (lower (front ++ 'Σ' :: back)).head?
    have alone : meetsCased front.reverse = false := meetsCased_of_all_passive _ passive
    have met : meetsCased (front.reverse ++ [letter]) = true := by
      rw [meetsCased_append, if_pos passive]
      simp [meetsCased, stops, cased]
    refine ⟨letter :: (front ++ 'Σ' :: back), List.infix_cons (List.infix_refl _), ?_⟩
    apply missing_behind letter _ isSmall new content
    apply lowerWithin_ne_of_sigma
    rw [List.append_nil, lowerBetween_sigma, lowerBetween_sigma, met, alone, unmet]
    decide
  · -- A cased letter behind keeps the sigma from being final.
    obtain ⟨met, passive⟩ := Bool.and_eq_true_iff.mp right
    obtain ⟨letter, isSmall, stops, cased, new⟩ :=
      exists_other_letter (lower (front ++ 'Σ' :: back)).getLast?
    have alone : meetsCased back = false := meetsCased_of_all_passive _ passive
    have kept : meetsCased (back ++ [letter]) = true := by
      rw [meetsCased_append, if_pos passive]
      simp [meetsCased, stops, cased]
    refine ⟨(front ++ 'Σ' :: back) ++ [letter], List.infix_append' [] _ [letter], ?_⟩
    apply missing_in_front letter _ isSmall new content
    apply lowerWithin_ne_of_sigma
    rw [List.append_nil, lowerBetween_sigma, lowerBetween_sigma, met, alone, kept]
    decide

/-- A part is found in every text that contains it, when both are lowered, exactly when it has no
open sigma. -/
theorem found_everywhere_iff (part : List Char) :
    (∀ text, part <:+: text → lower part <:+: lower text) ↔ hasOpenSigma [] part = false := by
  constructor
  · intro found
    rw [Bool.eq_false_iff]
    intro opened
    obtain ⟨text, inside, missing⟩ := exists_missing_text part opened
    exact missing (found text inside)
  · intro closed text inside
    apply infix_lower_of_stable part text inside
    intro before after
    have same := lowerWithin_of_no_open [] part before after closed
    rw [List.nil_append] at same
    rw [same, lower, lowerAfter_eq_lowerWithin]

end Rulebook.Text
