import Rulebook.Proofs.Links

/-!
# What redaction leaves behind

Redaction replaces the links of a text in one pass and cuts the result afterwards. Both steps
change what stands next to the remaining characters, and a preview may show a link that the
text did not have. There are two ways. A bare host that ran on into an address is no link in
the text and becomes one when the address gives way to a bracket. And the dots of a cut
complete a bare host, or a beginning of an address, that the cut has laid open.

There are no others: every character that is kept stands where the scan found no link to
begin, and up to the next bracket it is followed by what followed it in the text.
-/

namespace Rulebook.Lint

open Text

/-- The sign of a cut. -/
def dots : List Char := ['.', '.', '.']

/-- A text, with the character before it, ends in a bare host that continues no word. -/
def EndsInHost (before : Option Char) (text : List Char) : Prop :=
  ∃ front host, text = front ++ host ∧ IsBareHost host ∧ wordAt (front.getLast?.or before) = false

/-- A beginning of an address, or the one that a single dot completes. -/
def IsOpenStart (start : List Char) : Prop :=
  IsAddressStart start ∨ start.map caseKey = "www".toList.map caseKey

/-- A text ends in a beginning of an address that dots complete. -/
def EndsInOpenStart (text : List Char) : Prop :=
  ∃ front start, text = front ++ start ∧ IsOpenStart start

/-- The letters of the known domains share no case with a bracket or a dot. -/
theorem knownDomains_letters : ∀ known ∈ knownDomains, known.toList ≠ [] ∧
    caseKey '[' ∉ known.toList.map caseKey ∧ caseKey '.' ∉ known.toList.map caseKey := by
  decide

/-- No bracket stands in a bare host. -/
theorem IsBareHost.bracket_notMem {host : List Char} (bare : IsBareHost host) : '[' ∉ host := by
  obtain ⟨first, name, domain, rfl, letter, inside, known, listed, spelled⟩ := bare
  have opening : isHostChar '[' = false := by decide
  intro member
  rcases List.mem_append.mp member with named | behind
  · have whole : ∀ c ∈ first :: name, isHostChar c = true := by
      intro c among
      rcases List.mem_cons.mp among with rfl | among
      · simp [isHostChar, letter]
      · exact List.all_eq_true.mp inside c among
    rw [whole '[' named] at opening
    cases opening
  · rcases List.mem_cons.mp behind with impossible | inDomain
    · cases impossible
    · have key : caseKey '[' ∈ domain.map caseKey := List.mem_map_of_mem inDomain
      rw [spelled] at key
      exact (knownDomains_letters known listed).2.1 key

/-- A bare host ends in a letter of its domain. -/
theorem IsBareHost.getLast?_ne_dot {host : List Char} (bare : IsBareHost host) :
    host.getLast? ≠ some '.' := by
  obtain ⟨first, name, domain, rfl, letter, inside, known, listed, spelled⟩ := bare
  intro last
  have nonempty : domain ≠ [] := by
    rintro rfl
    simpa using (knownDomains_letters known listed).1 (List.map_eq_nil_iff.mp spelled.symm)
  have inDomain : '.' ∈ domain := by
    rw [List.append_cons, List.getLast?_append, List.getLast?_eq_some_getLast nonempty,
      Option.some_or] at last
    exact Option.some.inj last ▸ List.getLast_mem nonempty
  have key : caseKey '.' ∈ domain.map caseKey := List.mem_map_of_mem inDomain
  rw [spelled] at key
  exact (knownDomains_letters known listed).2.2 key

/-- The beginnings of an address share no case with a bracket, and those that end in a dot
begin with the same letters. -/
theorem addressStarts_letters : ∀ known ∈ addressStarts, caseKey '[' ∉ known.toList.map caseKey ∧
    ((known.toList.map caseKey).getLast? = some (caseKey '.') →
      known.toList.map caseKey = "www.".toList.map caseKey) := by decide

/-- No bracket stands in a beginning of an address. -/
theorem IsAddressStart.bracket_notMem {start : List Char} (begins : IsAddressStart start) :
    '[' ∉ start := by
  obtain ⟨known, listed, spelled⟩ := begins
  intro member
  have key : caseKey '[' ∈ start.map caseKey := List.mem_map_of_mem member
  rw [spelled] at key
  exact (addressStarts_letters known listed).1 key

/-- Only one beginning of an address is completed by a dot. -/
theorem isAddressStart_dot_iff (front : List Char) :
    IsAddressStart (front ++ ['.']) ↔ front.map caseKey = "www".toList.map caseKey := by
  have whole : "www.".toList.map caseKey = "www".toList.map caseKey ++ [caseKey '.'] := by
    decide
  constructor
  · rintro ⟨known, listed, spelled⟩
    have last : (known.toList.map caseKey).getLast? = some (caseKey '.') := by
      rw [← spelled]
      simp
    rw [(addressStarts_letters known listed).2 last, whole, List.map_append] at spelled
    exact List.append_cancel_right spelled
  · intro spelled
    exact ⟨"www.", by decide, by rw [List.map_append, spelled, whole]; rfl⟩

/-- A cut supplies one dot to a beginning of an address, or none. -/
theorem isOpenStart_of_dots (front supplied rest : List Char) (c : Char)
    (split : dots = supplied ++ c :: rest) (begins : IsAddressStart (front ++ supplied)) :
    IsOpenStart front := by
  rcases supplied with _ | ⟨first, _ | ⟨second, more⟩⟩
  · rw [List.append_nil] at begins
    exact Or.inl begins
  · obtain ⟨rfl, -⟩ := List.cons_eq_cons.mp split
    exact Or.inr ((isAddressStart_dot_iff front).mp begins)
  · obtain ⟨rfl, remaining⟩ := List.cons_eq_cons.mp split
    obtain ⟨rfl, left⟩ := List.cons_eq_cons.mp remaining
    have ended : more = [] := by
      have lengths := congrArg List.length left
      simp at lengths
      exact List.eq_nil_of_length_eq_zero (by omega)
    rw [ended, List.append_cons] at begins
    have doubled := (isAddressStart_dot_iff _).mp begins
    have last := congrArg List.getLast? doubled
    rw [List.map_append, List.map_singleton, List.getLast?_concat] at last
    exact absurd last (by decide)

/-- Letters that no address and no bare host begins with, whatever stands around them. -/
theorem afterLink?_eq_none_of_mark (before : Option Char) (c : Char) (rest : List Char)
    (mark : c = '[' ∨ c = ']' ∨ c = '.') : afterLink? before (c :: rest) = none := by
  have apart : sameLetter 'h' c = false ∧ sameLetter 'w' c = false ∧ isHostLetter c = false := by
    rcases mark with rfl | rfl | rfl <;> decide
  rw [afterLink?_eq_none_iff]
  constructor
  · simp [afterAddress?, addressStarts, afterWord?, apart.1, apart.2.1]
  · simp [afterHost?, apart.2.2]

/-- No link begins in the dots of a cut. -/
theorem linkFree_dots (before : Option Char) : LinkFree before dots :=
  ⟨afterLink?_eq_none_of_mark _ _ _ (Or.inr (Or.inr rfl)),
    afterLink?_eq_none_of_mark _ _ _ (Or.inr (Or.inr rfl)),
    afterLink?_eq_none_of_mark _ _ _ (Or.inr (Or.inr rfl)), trivial⟩

/-- No link begins inside the sign of a redacted link: its word stands between brackets. -/
theorem linkFree_sign (before : Option Char) (rest : List Char)
    (free : LinkFree (some ']') rest) : LinkFree before (Part.link.redacted ++ rest) := by
  have letters : ∀ c ∈ "link".toList, sameLetter 'h' c = false ∧ sameLetter 'w' c = false := by
    simpa using (by decide : ("link".toList.all fun c =>
      !sameLetter 'h' c && !sameLetter 'w' c) = true)
  have noAddress : ∀ c ∈ "link".toList, ∀ more, afterAddress? (c :: more) = none := by
    intro c member more
    simp [afterAddress?, addressStarts, afterWord?, letters c member]
  have noHost : ∀ (c d : Char) (more : List Char), isWord c = true →
      afterHost? (some c) (d :: more) = none := by
    intro c d more word
    simp [afterHost?, wordAt, word]
  have first : afterHost? (some '[') ('l' :: 'i' :: 'n' :: 'k' :: ']' :: rest) = none := by
    have inside : ∀ c ∈ "link".toList, isHostChar c = true :=
      List.all_eq_true.mp (by decide)
    have outside : isHostChar ']' = false := by decide
    simp [afterHost?, inside, outside]
  refine ⟨afterLink?_eq_none_of_mark _ _ _ (Or.inl rfl),
    (afterLink?_eq_none_iff _ _).mpr ⟨noAddress 'l' (by decide) _, first⟩,
    (afterLink?_eq_none_iff _ _).mpr ⟨noAddress 'i' (by decide) _, noHost _ _ _ (by decide)⟩,
    (afterLink?_eq_none_iff _ _).mpr ⟨noAddress 'n' (by decide) _, noHost _ _ _ (by decide)⟩,
    (afterLink?_eq_none_iff _ _).mpr ⟨noAddress 'k' (by decide) _, noHost _ _ _ (by decide)⟩,
    afterLink?_eq_none_of_mark _ _ _ (Or.inr (Or.inl rfl)), free⟩

/-- No link begins in a text whose scan finds none; this decides texts at hand. -/
instance decidableLinkFree : ∀ (before : Option Char) (cs : List Char),
    Decidable (LinkFree before cs)
  | _, [] => isTrue trivial
  | before, c :: rest =>
    have := decidableLinkFree (some c) rest
    inferInstanceAs (Decidable (afterLink? before (c :: rest) = none ∧ LinkFree (some c) rest))

/-- Neither does one begin where a cut has gone through the sign. -/
theorem linkFree_cut_sign (before : Option Char) (shown hidden : List Char)
    (split : Part.link.redacted = shown ++ hidden) : LinkFree before (shown ++ dots) := by
  have opened : ∀ count ≤ 5, LinkFree (some '[') ("link]".toList.take count ++ dots) := by
    decide +kernel
  cases shown with
  | nil => exact linkFree_dots before
  | cons c shown =>
    obtain ⟨rfl, remaining⟩ := List.cons_eq_cons.mp split
    have bounded : shown.length ≤ 5 := by
      have lengths := congrArg List.length remaining
      simp at lengths
      omega
    have taken : "link]".toList.take shown.length = shown := by
      rw [show "link]".toList = shown ++ hidden from remaining, List.take_left]
    refine ⟨afterLink?_eq_none_of_mark _ _ _ (Or.inl rfl), ?_⟩
    exact taken ▸ opened shown.length bounded

/-- A shown text makes no link at its brackets, nor at the dots of a cut. -/
structure Clear (before : Option Char) (shown tail : List Char) : Prop where
  brackets : ∀ front rest, shown = front ++ '[' :: rest → ¬ EndsInHost before front
  cut : tail = dots → ¬ EndsInHost before shown ∧ ¬ EndsInOpenStart shown

/-- What stands behind kept characters when more characters, or none, were left to look at:
a bracket, the dots of a cut, or nothing at the end of the text. -/
inductive Seam (left : List Char) : List Char → List Char → Prop where
  | bracket (more tail : List Char) : Seam left ('[' :: more) tail
  | cut : Seam left [] dots
  | ended (nothing : left = []) : Seam left [] []

/-- A text that splits in two ways splits inside the first part or behind it. -/
theorem split_cases (kept behind front rest : List Char) (split : kept ++ behind = front ++ rest) :
    (∃ c more, kept = front ++ c :: more ∧ rest = c :: more ++ behind) ∨
      ∃ supplied, front = kept ++ supplied ∧ behind = supplied ++ rest := by
  rcases List.append_eq_append_iff.mp split with ⟨supplied, beyond, same⟩ | ⟨more, beyond, same⟩
  · exact Or.inr ⟨supplied, beyond, same⟩
  · cases more with
    | nil => exact Or.inr ⟨[], by simpa using beyond.symm, by simpa using same.symm⟩
    | cons c more => exact Or.inl ⟨c, more, beyond, same⟩

/-- No address begins at kept characters: the bracket behind them is in no address, and the
dots complete no beginning. -/
theorem afterAddress?_eq_none_of_kept (before : Option Char) (kept left behind tail : List Char)
    (seam : Seam left behind tail) (clear : Clear before (kept ++ behind) tail)
    (noneBefore : afterAddress? (kept ++ left) = none) :
    afterAddress? (kept ++ (behind ++ tail)) = none := by
  rw [← Option.not_isSome_iff_eq_none, afterAddress?_isSome_iff]
  rintro ⟨start, c, rest, split, begins, inside⟩
  rcases split_cases _ _ _ _ split with ⟨d, more, beyond, same⟩ | ⟨supplied, beyond, same⟩
  · obtain ⟨rfl, -⟩ := List.cons_eq_cons.mp same
    have found := (afterAddress?_isSome_iff (kept ++ left)).mpr
      ⟨start, c, more ++ left, by rw [beyond]; simp, begins, inside⟩
    rw [noneBefore] at found
    cases found
  · cases seam with
    | bracket more tail =>
      cases supplied with
      | nil =>
        obtain ⟨rfl, -⟩ := List.cons_eq_cons.mp same
        exact absurd inside (by decide)
      | cons d supplied =>
        obtain ⟨rfl, -⟩ := List.cons_eq_cons.mp same
        exact begins.bracket_notMem (by rw [beyond]; simp)
    | cut =>
      refine (clear.cut rfl).2 ⟨[], kept, by simp, ?_⟩
      exact isOpenStart_of_dots kept supplied rest c same (beyond ▸ begins)
    | ended nothing => simp at same

/-- No bare host begins at kept characters: the scan has seen the same characters up to the
bracket, the dots or the end. A host that reaches beyond them would have the bracket inside
or end in a dot, and one that ends with them is excluded where the shown text is clear. -/
theorem afterHost?_eq_none_of_kept (before shownBefore : Option Char)
    (kept left behind tail : List Char)
    (seam : Seam left behind tail) (clear : Clear shownBefore (kept ++ behind) tail)
    (agree : wordAt (kept ++ (behind ++ tail)).head? = true → wordAt shownBefore = false →
      wordAt before = false)
    (noneBefore : afterHost? before (kept ++ left) = none) :
    afterHost? shownBefore (kept ++ (behind ++ tail)) = none := by
  rw [← Option.not_isSome_iff_eq_none, afterHost?_isSome_iff]
  rintro ⟨apart, host, rest, split, bare, ends⟩
  have word : wordAt (kept ++ (behind ++ tail)).head? = true := by
    obtain ⟨first, name, domain, rfl, letter, -, -⟩ := bare
    rw [split]
    exact isWord_of_isHostLetter first letter
  have seen : ∀ more, kept ++ left = host ++ more → ¬ wordAt more.head? = false := by
    intro more whole boundary
    have found := (afterHost?_isSome_iff before (kept ++ left)).mpr
      ⟨agree word apart, host, more, whole, bare, boundary⟩
    rw [noneBefore] at found
    cases found
  rcases split_cases _ _ _ _ split with ⟨d, more, beyond, same⟩ | ⟨supplied, beyond, same⟩
  · refine seen (d :: more ++ left) (by rw [beyond]; simp) ?_
    rw [same] at ends
    exact ends
  · cases seam with
    | bracket more tail =>
      cases supplied with
      | nil =>
        rw [List.append_nil] at beyond
        exact clear.brackets kept more rfl ⟨[], host, by simp [beyond], bare, apart⟩
      | cons d supplied =>
        obtain ⟨rfl, -⟩ := List.cons_eq_cons.mp same
        exact bare.bracket_notMem (by rw [beyond]; simp)
    | cut =>
      rw [List.nil_append] at same
      rcases List.eq_nil_or_concat supplied with rfl | ⟨others, d, rfl⟩
      · rw [List.append_nil] at beyond
        exact (clear.cut rfl).1 ⟨[], host, by simp [beyond], bare, apart⟩
      · have dot : d ∈ dots := by rw [same]; simp
        refine bare.getLast?_ne_dot ?_
        simp [dots] at dot
        rw [beyond, dot]
        simp
    | ended nothing =>
      obtain ⟨rfl, rfl⟩ := List.append_eq_nil_iff.mp (same.symm.trans (by simp))
      exact seen [] (by simp [nothing, beyond]) rfl

/-- A redacted text opens with characters of the text, up to the first link, the cut or the
end.

Proof: follow the scan. A link ends the kept characters with the bracket of its sign, and so
does the end of what is shown; every other character is kept and the scan goes on behind it.
-/
theorem exists_kept (before : Option Char) (cs shown hidden tail : List Char)
    (whole : (partsAfter before 0 cs).flatMap Part.redacted = shown ++ hidden)
    (ending : (hidden = [] ∧ tail = []) ∨ tail = dots) :
    ∃ kept left behind, cs = kept ++ left ∧ shown = kept ++ behind ∧ Seam left behind tail := by
  induction cs generalizing before shown with
  | nil =>
    obtain ⟨rfl, rfl⟩ := List.append_eq_nil_iff.mp whole.symm
    rcases ending with ⟨-, rfl⟩ | rfl
    · exact ⟨[], [], [], rfl, rfl, .ended rfl⟩
    · exact ⟨[], [], [], rfl, rfl, .cut⟩
  | cons c rest inductionHypothesis =>
    cases shown with
    | nil =>
      rcases ending with ⟨rfl, -⟩ | rfl
      · cases found : afterLink? before (c :: rest) with
        | some left =>
          rw [partsAfter_link before c rest left found] at whole
          cases whole
        | none =>
          rw [partsAfter_plain before c rest found] at whole
          cases whole
      · exact ⟨[], c :: rest, [], rfl, rfl, .cut⟩
    | cons d shown =>
      cases found : afterLink? before (c :: rest) with
      | some left =>
        rw [partsAfter_link before c rest left found] at whole
        obtain ⟨rfl, -⟩ := List.cons_eq_cons.mp whole
        exact ⟨[], c :: rest, '[' :: shown, rfl, rfl, .bracket shown tail⟩
      | none =>
        rw [partsAfter_plain before c rest found] at whole
        obtain ⟨rfl, remaining⟩ := List.cons_eq_cons.mp whole
        obtain ⟨kept, left, behind, rfl, rfl, seam⟩ :=
          inductionHypothesis (some c) shown remaining
        exact ⟨c :: kept, left, behind, rfl, rfl, seam⟩

/-- The character in front of a text that follows another text. -/
theorem getLast?_or_append (front more : List Char) (before : Option Char) :
    (front ++ more).getLast?.or before = more.getLast?.or (front.getLast?.or before) := by
  rw [List.getLast?_append, Option.or_assoc]

/-- Nothing is lost when the front of a text is looked at as the text before the rest. -/
theorem Clear.suffix (before : Option Char) (front shown tail : List Char)
    (clear : Clear before (front ++ shown) tail) : Clear (front.getLast?.or before) shown tail := by
  have further : ∀ text, EndsInHost (front.getLast?.or before) text →
      EndsInHost before (front ++ text) := by
    rintro text ⟨inner, host, rfl, bare, apart⟩
    exact ⟨front ++ inner, host, by simp, bare, by rwa [getLast?_or_append]⟩
  constructor
  · intro inner rest split ends
    exact clear.brackets (front ++ inner) rest (by rw [split]; simp) (further inner ends)
  · intro isCut
    refine ⟨fun ends => (clear.cut isCut).1 (further shown ends), ?_⟩
    rintro ⟨inner, start, rfl, opened⟩
    exact (clear.cut isCut).2 ⟨front ++ inner, start, by simp, opened⟩

/-- Behind a link the scan goes on where no word continues. -/
theorem wordAt_behind_link (before : Option Char) (c : Char) (rest left : List Char)
    (found : afterLink? before (c :: rest) = some left) :
    wordAt (rest.drop (rest.length - left.length)).head? = false := by
  obtain ⟨link, rfl⟩ := afterLink?_suffix before c rest left found
  have behind : (link ++ left).drop ((link ++ left).length - left.length) = left := by
    rw [List.length_append, Nat.add_sub_cancel, List.drop_left]
  rw [behind]
  exact wordAt_of_afterLink? before _ left found

/-- Where the scan keeps a character it has found no link, and none begins there in what is
shown: the kept characters are those of the text up to a seam, where the shown text is clear. -/
theorem afterLink?_eq_none_of_plain (before shownBefore : Option Char) (c : Char)
    (rest shown hidden tail : List Char) (found : afterLink? before (c :: rest) = none)
    (whole : (partsAfter before 0 (c :: rest)).flatMap Part.redacted = c :: shown ++ hidden)
    (ending : (hidden = [] ∧ tail = []) ∨ tail = dots)
    (agree : wordAt (some c) = true → wordAt shownBefore = false → wordAt before = false)
    (clear : Clear shownBefore (c :: shown) tail) :
    afterLink? shownBefore (c :: shown ++ tail) = none := by
  obtain ⟨noAddress, noHost⟩ := (afterLink?_eq_none_iff before (c :: rest)).mp found
  obtain ⟨kept, left, behind, text, same, seam⟩ :=
    exists_kept before (c :: rest) (c :: shown) hidden tail whole ending
  have apart : wordAt (kept ++ (behind ++ tail)).head? = true →
      wordAt shownBefore = false → wordAt before = false := by
    rw [← List.append_assoc, ← same]
    exact agree
  rw [text] at noAddress noHost
  rw [same] at clear
  rw [same, List.append_assoc, afterLink?_eq_none_iff]
  exact ⟨afterAddress?_eq_none_of_kept shownBefore kept left behind tail seam clear noAddress,
    afterHost?_eq_none_of_kept before shownBefore kept left behind tail seam clear apart noHost⟩

/-- A scan that has shown its text so far without a link shows the rest without one. The
character shown before the rest is the one the scan has passed, or the end of the sign of a
link; then the rest continues no word.

Proof: follow the scan. Covered characters show nothing. A link shows its sign, in which no
link begins, and the scan resumes where no word continues. A character that is kept stands
where the scan found no link; the kept characters behind it are those of the text, so a link
could only end at their seam, and there the shown text is clear.
-/
theorem linkFree_of_clear (before shownBefore : Option Char) (covered : Nat)
    (cs shown hidden tail : List Char)
    (whole : (partsAfter before covered cs).flatMap Part.redacted = shown ++ hidden)
    (ending : (hidden = [] ∧ tail = []) ∨ tail = dots)
    (agree : wordAt (cs.drop covered).head? = false ∨
      (covered = 0 ∧ (wordAt shownBefore = false → wordAt before = false)))
    (clear : Clear shownBefore shown tail) : LinkFree shownBefore (shown ++ tail) := by
  induction cs generalizing before shownBefore covered shown with
  | nil =>
    obtain ⟨rfl, rfl⟩ := List.append_eq_nil_iff.mp whole.symm
    rcases ending with ⟨-, rfl⟩ | rfl
    · trivial
    · exact linkFree_dots shownBefore
  | cons c rest inductionHypothesis =>
    cases covered with
    | succ covered =>
      rw [partsAfter_covered] at whole
      have apart := agree.resolve_right fun impossible => Nat.succ_ne_zero _ impossible.1
      exact inductionHypothesis (some c) shownBefore covered shown whole (Or.inl apart) clear
    | zero =>
      cases found : afterLink? before (c :: rest) with
      | some left =>
        rw [partsAfter_link before c rest left found, List.flatMap_cons] at whole
        rcases split_cases _ _ _ _ whole with ⟨d, more, cut, rfl⟩ | ⟨more, rfl, remaining⟩
        · rcases ending with ⟨nothing, -⟩ | rfl
          · cases nothing
          · exact linkFree_cut_sign shownBefore shown (d :: more) cut
        · rw [List.append_assoc]
          refine linkFree_sign shownBefore _ ?_
          exact inductionHypothesis (some c) (some ']') _ more remaining
            (Or.inl (wordAt_behind_link before c rest left found)) (clear.suffix _ _ _ _)
      | none =>
        have scanned := whole
        rw [partsAfter_plain before c rest found] at whole
        cases shown with
        | nil =>
          rcases ending with ⟨rfl, -⟩ | rfl
          · cases whole
          · exact linkFree_dots shownBefore
        | cons d shown =>
          obtain ⟨rfl, remaining⟩ := List.cons_eq_cons.mp whole
          -- Behind a sign the scan has passed another character than is shown, so the
          -- two may differ in continuing a word; but there the rest begins with none.
          have carried : wordAt (some c) = true → wordAt shownBefore = false →
              wordAt before = false := by
            intro word
            rcases agree with ends | ⟨-, carried⟩
            · exact absurd word (Bool.eq_false_iff.mp ends)
            · exact carried
          have noneHere := afterLink?_eq_none_of_plain before shownBefore c rest shown hidden tail
            found scanned ending carried clear
          exact ⟨noneHere, inductionHypothesis (some c) (some c) 0 shown remaining
            (Or.inr ⟨rfl, id⟩) (clear.suffix _ [c] shown tail)⟩

/-- A bare host in front of a character that continues no word is a link, so a text without
links ends in none. -/
theorem not_endsInHost_of_linkFree (before : Option Char) (front rest : List Char)
    (free : LinkFree before (front ++ rest)) (ends : wordAt rest.head? = false) :
    ¬ EndsInHost before front := by
  rintro ⟨inner, host, rfl, bare, apart⟩
  rw [List.append_assoc] at free
  have reached := free.suffix inner (host ++ rest) before
  have noHost := ((afterLink?_eq_none_iff _ _).mp reached.first).2
  have found := (afterHost?_isSome_iff _ _).mpr ⟨apart, host, rest, rfl, bare, ends⟩
  rw [noHost] at found
  cases found

/-- The beginning of an address in front of dots is an address. -/
theorem not_endsInOpenStart_of_linkFree (before : Option Char) (front : List Char)
    (free : LinkFree before (front ++ dots)) : ¬ EndsInOpenStart front := by
  rintro ⟨inner, start, rfl, opened⟩
  rw [List.append_assoc] at free
  have reached := free.suffix inner (start ++ dots) before
  have dot : endsAddress '.' = false := by decide
  have begins : (afterAddress? (start ++ dots)).isSome = true := by
    rw [afterAddress?_isSome_iff]
    rcases opened with whole | letters
    · exact ⟨start, '.', ['.', '.'], rfl, whole, dot⟩
    · exact ⟨start ++ ['.'], '.', ['.'], by simp [dots], (isAddressStart_dot_iff start).mpr letters,
        dot⟩
  rw [((afterLink?_eq_none_iff _ _).mp reached.first).1] at begins
  cases begins

/-- A shown text without links is clear. -/
theorem clear_of_linkFree (before : Option Char) (shown tail : List Char)
    (free : LinkFree before (shown ++ tail)) : Clear before shown tail := by
  constructor
  · rintro front rest rfl
    rw [List.append_assoc] at free
    exact not_endsInHost_of_linkFree before front _ free (show wordAt (some '[') = false by decide)
  · rintro rfl
    exact ⟨not_endsInHost_of_linkFree before shown dots free (by decide),
      not_endsInOpenStart_of_linkFree before shown free⟩

/-- The characters of a redacted text that a preview shows. -/
def shownText (text : String) (limit : Int) : List Char :=
  if (redactLinks text.toList).length ≤ limit then redactLinks text.toList
  else (redactLinks text.toList).take (limit - 3).toNat

/-- What a preview appends. -/
def cutSign (text : String) (limit : Int) : List Char :=
  if (redactLinks text.toList).length ≤ limit then [] else dots

/-- A preview shows no bare host in front of a bracket and, when it is cut, no bare host and no
beginning of an address in front of the dots. -/
def PreviewClear (text : String) (limit : Int) : Prop :=
  Clear none (shownText text limit) (cutSign text limit)

/-- A preview is what it shows and the sign of the cut. -/
theorem redactPreview_toList (text : String) (limit : Int) :
    (redactPreview text limit).toList = shownText text limit ++ cutSign text limit := by
  unfold shownText cutSign
  split
  · next fits => simp [redactPreview, fits]
  · next cut => simp [redactPreview, cut, dots]

/-- A preview is no longer than its limit, as long as that has room for the three dots. -/
theorem length_redactPreview_le (text : String) (limit : Int) (room : 3 ≤ limit) :
    (redactPreview text limit).length ≤ limit := by
  rw [← String.length_toList, redactPreview_toList, List.length_append]
  unfold shownText cutSign
  split
  · next fits =>
    rw [List.length_nil, Nat.add_zero]
    exact fits
  · rw [List.length_take]
    have three : dots.length = 3 := rfl
    omega

/-- A preview shows a beginning of the redacted text, and all of it without a cut. -/
theorem redactLinks_eq_shownText_append (text : String) (limit : Int) :
    ∃ hidden, redactLinks text.toList = shownText text limit ++ hidden ∧
      ((hidden = [] ∧ cutSign text limit = []) ∨ cutSign text limit = dots) := by
  unfold shownText cutSign
  split
  · exact ⟨[], by simp, Or.inl ⟨rfl, rfl⟩⟩
  · exact ⟨_, (List.take_append_drop _ _).symm, Or.inr rfl⟩

/-- A preview counts no link exactly when it is clear. -/
theorem countLinks_redactPreview_eq_zero_iff (text : String) (limit : Int) :
    countLinks (redactPreview text limit) = 0 ↔ PreviewClear text limit := by
  rw [countLinks_eq_zero_iff, redactPreview_toList]
  constructor
  · exact clear_of_linkFree none _ _
  · intro clear
    obtain ⟨hidden, whole, ending⟩ := redactLinks_eq_shownText_append text limit
    exact linkFree_of_clear none none 0 text.toList _ hidden _ whole ending
      (Or.inr ⟨rfl, id⟩) clear

/-- A host that ran on into an address is left standing, and the bracket in place of the
address makes it a link. -/
theorem host_in_front_of_address_is_shown :
    ¬ ∀ (text : String) (limit : Int), countLinks (redactPreview text limit) = 0 := by
  intro linkFree
  exact absurd (linkFree "a.comwww.x" 200) (by decide +kernel)

end Rulebook.Lint
