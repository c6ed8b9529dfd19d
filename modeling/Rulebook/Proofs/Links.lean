import Rulebook.Proofs.Letters

/-!
# What a link is

Links are found by a scan from left to right. Here they are described by their parts: an
address is a beginning and one more character, and a bare host is a name, a dot and a known
domain between two word boundaries. A link begins at a position exactly when one of the two
does, whatever follows it further on.

A text without a link is one in which no position begins one. The scan then never skips a
character, so every position is looked at behind its actual predecessor.
-/

namespace Rulebook.Lint

open Text

/-- A beginning of an address, in any case. -/
def IsAddressStart (start : List Char) : Prop :=
  ∃ known ∈ addressStarts, start.map caseKey = known.toList.map caseKey

/-- One of the known domains, in any case. -/
def IsKnownDomain (domain : List Char) : Prop :=
  ∃ known ∈ knownDomains, domain.map caseKey = known.toList.map caseKey

/-- A bare host: a name that begins with a letter or digit, a dot and a known domain. -/
def IsBareHost (host : List Char) : Prop :=
  ∃ first name domain, host = first :: name ++ '.' :: domain ∧ isHostLetter first = true ∧
    name.all isHostChar = true ∧ IsKnownDomain domain

/-- No beginning of an address begins another one. -/
theorem addressStarts_apart : ∀ one ∈ addressStarts, ∀ other ∈ addressStarts,
    one.toList.map caseKey <+: other.toList.map caseKey → one = other := by decide

/-- At most one beginning of an address stands at a position, so it does not matter which of
them is tried first. -/
theorem addressStart_unique (cs : List Char) (one other : String) (oneRest otherRest : List Char)
    (oneKnown : one ∈ addressStarts) (otherKnown : other ∈ addressStarts)
    (oneFound : afterWord? one.toList cs = some oneRest)
    (otherFound : afterWord? other.toList cs = some otherRest) : oneRest = otherRest := by
  obtain ⟨oneFront, oneSplit, oneSpelled⟩ := (afterWord?_eq_some_iff _ _ _).mp oneFound
  obtain ⟨otherFront, otherSplit, otherSpelled⟩ := (afterWord?_eq_some_iff _ _ _).mp otherFound
  have onePrefix : one.toList.map caseKey <+: cs.map caseKey := by
    rw [oneSplit, List.map_append, oneSpelled]
    exact List.prefix_append _ _
  have otherPrefix : other.toList.map caseKey <+: cs.map caseKey := by
    rw [otherSplit, List.map_append, otherSpelled]
    exact List.prefix_append _ _
  have same : one = other := by
    rcases List.prefix_or_prefix_of_prefix onePrefix otherPrefix with inside | inside
    · exact addressStarts_apart one oneKnown other otherKnown inside
    · exact (addressStarts_apart other otherKnown one oneKnown inside).symm
  rw [same, otherFound] at oneFound
  exact (Option.some.inj oneFound).symm

/-- An address begins where a beginning stands with a character of an address behind it. -/
theorem afterAddress?_isSome_iff (cs : List Char) :
    (afterAddress? cs).isSome = true ↔
      ∃ start c rest, cs = start ++ c :: rest ∧ IsAddressStart start ∧ endsAddress c = false := by
  constructor
  · intro begins
    unfold afterAddress? at begins
    cases found : addressStarts.findSome? fun start => afterWord? start.toList cs with
    | none => simp [found] at begins
    | some rest =>
      obtain ⟨known, listed, matched⟩ := List.exists_of_findSome?_eq_some found
      obtain ⟨start, split, spelled⟩ := (afterWord?_eq_some_iff _ _ _).mp matched
      cases rest with
      | nil => simp [found] at begins
      | cons c rest =>
        refine ⟨start, c, rest, split, ⟨known, listed, spelled⟩, ?_⟩
        cases ends : endsAddress c with
        | false => rfl
        | true => simp [found, ends] at begins
  · rintro ⟨start, c, rest, split, ⟨known, listed, spelled⟩, inside⟩
    have matched : afterWord? known.toList cs = some (c :: rest) :=
      (afterWord?_eq_some_iff _ _ _).mpr ⟨start, split, spelled⟩
    cases found : addressStarts.findSome? fun start => afterWord? start.toList cs with
    | none =>
      have missed := List.findSome?_eq_none_iff.mp found known listed
      rw [matched] at missed
      cases missed
    | some first =>
      obtain ⟨other, otherListed, otherMatched⟩ := List.exists_of_findSome?_eq_some found
      obtain rfl := addressStart_unique cs known other _ _ listed otherListed matched otherMatched
      simp [afterAddress?, found, inside]

/-- A domain that ends a word stands where one of the known ones does. -/
theorem afterDomain?_isSome_iff (cs : List Char) :
    (afterDomain? cs).isSome = true ↔
      ∃ domain rest, cs = domain ++ rest ∧ IsKnownDomain domain ∧ wordAt rest.head? = false := by
  unfold afterDomain?
  rw [List.findSome?_isSome_iff]
  constructor
  · rintro ⟨known, listed, found⟩
    split at found
    · next rest matched =>
      obtain ⟨domain, split, spelled⟩ := (afterWord?_eq_some_iff _ _ _).mp matched
      exact ⟨domain, rest, split, ⟨known, listed, spelled⟩, by simpa using found⟩
    · cases found
  · rintro ⟨domain, rest, split, ⟨known, listed, spelled⟩, ends⟩
    have matched : afterWord? known.toList cs = some rest :=
      (afterWord?_eq_some_iff _ _ _).mpr ⟨domain, split, spelled⟩
    exact ⟨known, listed, by simp [matched, ends]⟩

/-- A name runs up to the dot behind it, since no dot stands in a name. -/
theorem dropWhile_isHostChar_name (name rest : List Char) (inside : name.all isHostChar = true) :
    (name ++ '.' :: rest).dropWhile isHostChar = '.' :: rest := by
  have dot : isHostChar '.' = false := by decide
  rw [List.dropWhile_append_of_pos (by simpa using inside), List.dropWhile_cons, dot]
  rfl

/-- A host that is no part of a longer word begins where a bare host stands that ends a word. -/
theorem afterHost?_isSome_iff (before : Option Char) (cs : List Char) :
    (afterHost? before cs).isSome = true ↔
      wordAt before = false ∧
        ∃ host rest, cs = host ++ rest ∧ IsBareHost host ∧ wordAt rest.head? = false := by
  constructor
  · intro begins
    cases cs with
    | nil => cases begins
    | cons first more =>
      simp only [afterHost?] at begins
      split at begins
      · next opening =>
        have letter : isHostLetter first = true := by simp at opening; exact opening.1
        have apart : wordAt before = false := by simp at opening; exact opening.2
        split at begins
        · next behind found =>
          have firstInside : isHostChar first = true := by simp [isHostChar, letter]
          have parts : first :: more = first :: more.takeWhile isHostChar ++ '.' :: behind := by
            rw [← found, ← List.takeWhile_cons_of_pos firstInside, List.takeWhile_append_dropWhile]
          rw [Option.isSome_map, afterDomain?_isSome_iff] at begins
          obtain ⟨domain, rest, rfl, known, ends⟩ := begins
          refine ⟨apart, first :: more.takeWhile isHostChar ++ '.' :: domain, rest, ?_, ?_, ends⟩
          · rw [parts]
            simp
          · exact ⟨first, _, domain, rfl, letter, List.all_takeWhile, known⟩
        · cases begins
      · cases begins
  · rintro ⟨apart, host, rest, rfl, ⟨first, name, domain, rfl, letter, inside, known⟩, ends⟩
    have firstInside : isHostChar first = true := by simp [isHostChar, letter]
    have behind : (first :: name ++ '.' :: domain ++ rest).dropWhile isHostChar =
        '.' :: (domain ++ rest) := by
      have whole : (first :: name).all isHostChar = true := by simp [firstInside, inside]
      simpa using dropWhile_isHostChar_name (first :: name) (domain ++ rest) whole
    have found := (afterDomain?_isSome_iff (domain ++ rest)).mpr ⟨domain, rest, rfl, known, ends⟩
    simp only [List.cons_append, List.append_assoc] at behind ⊢
    simp [afterHost?, letter, apart, behind, found]

/-- Nothing begins where neither an address nor a host does. -/
theorem afterLink?_eq_none_iff (before : Option Char) (cs : List Char) :
    afterLink? before cs = none ↔ afterAddress? cs = none ∧ afterHost? before cs = none := by
  unfold afterLink?
  cases afterAddress? cs <;> simp

/-- The part of a text behind an address, or behind a path, continues no word. -/
theorem wordAt_dropWhile (cs : List Char) :
    wordAt (cs.dropWhile (!endsAddress ·)).head? = false := by
  have first := List.head?_dropWhile_not (!endsAddress ·) cs
  cases left : (cs.dropWhile (!endsAddress ·)).head? with
  | none => rfl
  | some c =>
    rw [left] at first
    exact isWord_of_endsAddress c (by simpa using first)

/-- A path is part of a link as a whole, so no word continues behind it. -/
theorem wordAt_afterPath (cs : List Char) (ends : wordAt cs.head? = false) :
    wordAt (afterPath cs).head? = false := by
  unfold afterPath
  split
  · exact wordAt_dropWhile _
  · exact ends

/-- A known domain ends at a word boundary. -/
theorem wordAt_of_afterDomain? (cs rest : List Char) (found : afterDomain? cs = some rest) :
    wordAt rest.head? = false := by
  obtain ⟨known, -, reached⟩ := List.exists_of_findSome?_eq_some found
  split at reached
  · split at reached
    · cases reached
    · next ends => exact Option.some.inj reached ▸ Bool.eq_false_iff.mpr ends
  · cases reached

/-- No word continues behind a link: an address ends at a character that no address holds,
and a bare host at a word boundary. -/
theorem wordAt_of_afterLink? (before : Option Char) (cs rest : List Char)
    (found : afterLink? before cs = some rest) : wordAt rest.head? = false := by
  unfold afterLink? at found
  split at found
  · next behind address =>
    obtain rfl := Option.some.inj found
    simp only [afterAddress?, Option.bind_eq_bind, Option.bind_eq_some_iff] at address
    obtain ⟨after, -, reached⟩ := address
    split at reached
    · split at reached
      · cases reached
      · exact Option.some.inj reached ▸ wordAt_dropWhile _
    · cases reached
  · unfold afterHost? at found
    split at found
    · split at found
      · split at found
        · obtain ⟨behind, domain, rfl⟩ := Option.map_eq_some_iff.mp found
          exact wordAt_afterPath behind (wordAt_of_afterDomain? _ behind domain)
        · cases found
      · cases found
    · cases found

/-- What follows a path is the end of the text. -/
theorem afterPath_suffix (cs : List Char) : afterPath cs <:+ cs := by
  unfold afterPath
  split
  · exact (List.dropWhile_suffix _).trans (List.suffix_cons _ _)
  · exact List.suffix_refl _

/-- What follows a known domain is the end of the text. -/
theorem afterDomain?_suffix (cs rest : List Char) (found : afterDomain? cs = some rest) :
    rest <:+ cs := by
  obtain ⟨known, -, reached⟩ := List.exists_of_findSome?_eq_some found
  split at reached
  · next behind matched =>
    obtain ⟨domain, split, -⟩ := (afterWord?_eq_some_iff _ _ _).mp matched
    split at reached
    · cases reached
    · exact Option.some.inj reached ▸ ⟨domain, split.symm⟩
  · cases reached

/-- What follows an address is the end of the text behind its first character. -/
theorem afterAddress?_suffix (c : Char) (rest left : List Char)
    (found : afterAddress? (c :: rest) = some left) : left <:+ rest := by
  simp only [afterAddress?, Option.bind_eq_bind, Option.bind_eq_some_iff] at found
  obtain ⟨after, started, reached⟩ := found
  obtain ⟨known, listed, matched⟩ := List.exists_of_findSome?_eq_some started
  obtain ⟨start, split, spelled⟩ := (afterWord?_eq_some_iff _ _ _).mp matched
  have inside : after <:+ rest := by
    cases start with
    | nil => exact absurd spelled ((by decide : ∀ one ∈ addressStarts,
        ([] : List Char).map caseKey ≠ one.toList.map caseKey) known listed)
    | cons d start => exact ⟨start, (List.cons_eq_cons.mp split).2.symm⟩
  split at reached
  · next d more =>
    split at reached
    · cases reached
    · obtain rfl := Option.some.inj reached
      exact ((List.dropWhile_suffix _).trans (List.suffix_cons d more)).trans inside
  · cases reached

/-- What follows a link is the end of the text behind its first character. -/
theorem afterLink?_suffix (before : Option Char) (c : Char) (rest left : List Char)
    (found : afterLink? before (c :: rest) = some left) : left <:+ rest := by
  unfold afterLink? at found
  split at found
  · next behind address =>
    exact afterAddress?_suffix c rest left (Option.some.inj found ▸ address)
  · simp only [afterHost?] at found
    split at found
    · next opening =>
      have letter : isHostChar c = true := by simp at opening; simp [isHostChar, opening.1]
      rw [List.dropWhile_cons_of_pos letter] at found
      split at found
      · next behind name =>
        obtain ⟨after, domain, rfl⟩ := Option.map_eq_some_iff.mp found
        have dot : '.' :: behind <:+ rest := name ▸ List.dropWhile_suffix _
        exact (((afterPath_suffix after).trans (afterDomain?_suffix behind after domain)).trans
          (List.suffix_cons _ _)).trans dot
      · cases found
    · cases found

/-- No link begins anywhere in a text, given the character before it. -/
def LinkFree (before : Option Char) : List Char → Prop
  | [] => True
  | c :: rest => afterLink? before (c :: rest) = none ∧ LinkFree (some c) rest

/-- No link begins at the front of a text without links, which may be empty. -/
theorem LinkFree.first (before : Option Char) (cs : List Char) (free : LinkFree before cs) :
    afterLink? before cs = none := by
  cases cs with
  | nil => exact (afterLink?_eq_none_iff before []).mpr ⟨by decide, rfl⟩
  | cons c rest => exact free.1

/-- Characters of a recorded link are skipped. -/
theorem partsAfter_covered (before : Option Char) (covered : Nat) (c : Char) (rest : List Char) :
    partsAfter before (covered + 1) (c :: rest) = partsAfter (some c) covered rest := by
  rw [partsAfter, if_pos (Nat.succ_pos covered), Nat.add_sub_cancel]

/-- A link is recorded where it begins, and covers its characters. -/
theorem partsAfter_link (before : Option Char) (c : Char) (rest left : List Char)
    (found : afterLink? before (c :: rest) = some left) :
    partsAfter before 0 (c :: rest) =
      .link :: partsAfter (some c) (rest.length - left.length) rest := by
  rw [partsAfter, if_neg (Nat.lt_irrefl 0), found]

/-- A character where no link begins is recorded itself. -/
theorem partsAfter_plain (before : Option Char) (c : Char) (rest : List Char)
    (found : afterLink? before (c :: rest) = none) :
    partsAfter before 0 (c :: rest) = .plain c :: partsAfter (some c) 0 rest := by
  rw [partsAfter, if_neg (Nat.lt_irrefl 0), found]

/-- A scan that finds nothing has looked at every position. -/
theorem link_notMem_partsAfter_iff (before : Option Char) (cs : List Char) :
    Part.link ∉ partsAfter before 0 cs ↔ LinkFree before cs := by
  induction cs generalizing before with
  | nil => exact iff_of_true List.not_mem_nil trivial
  | cons c rest inductionHypothesis =>
    cases found : afterLink? before (c :: rest) with
    | some left =>
      rw [partsAfter_link before c rest left found, LinkFree, found]
      simp only [List.mem_cons, true_or, not_true_eq_false, reduceCtorEq, false_and]
    | none =>
      rw [partsAfter_plain before c rest found, LinkFree, ← inductionHypothesis]
      simp only [List.mem_cons, reduceCtorEq, false_or, found, true_and]

/-- A text counts no link exactly when none begins in it. -/
theorem countLinks_eq_zero_iff (text : String) :
    countLinks text = 0 ↔ LinkFree none text.toList := by
  rw [countLinks, List.count_eq_zero, parts, link_notMem_partsAfter_iff]

/-- What follows in a text without links has none either, behind its own predecessor. -/
theorem LinkFree.suffix (front rest : List Char) (before : Option Char)
    (free : LinkFree before (front ++ rest)) : LinkFree (front.getLast?.or before) rest := by
  induction front generalizing before with
  | nil => simpa using free
  | cons c front inductionHypothesis =>
    have tail := inductionHypothesis (some c) free.2
    rw [List.getLast?_cons]
    cases last : front.getLast? <;> simpa [last] using tail

end Rulebook.Lint
