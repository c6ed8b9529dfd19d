import Rulebook.Proofs.Banning
import Rulebook.Sync.One

/-!
# Well-formed banned words

A list of banned terms is cut at commas and semicolons. Of each part the white space at its ends is
dropped, then the quotes, then it is lowered, and parts of at most two characters are left out. Only
after that are repeated terms removed, and with them the white space at the ends of the terms.

So a banned word has no separator, no capital, no white space at its ends, and differs from all
others. It is longer than two characters unless its part stood in quotes with white space inside
them, which counts when the length is checked and is dropped afterwards.
-/

namespace Rulebook

namespace Text

/-- No letter is lowered to a character in front of the small letters. -/
theorem eq_of_small_low (c : Char) (low : (small c).toNat ≤ 90) : small c = c := by
  rcases small_cases c with own | letter | ⟨run, member, first, -⟩
  · exact own
  · omega
  · have behind := (target_of_mem_capitalRuns run member).1
    omega

/-- No run reaches white space. -/
theorem targets_spare_blanks : (capitalRuns.all fun run =>
    sparesBlanks run.target (run.target + (run.last - run.first))) = true := by decide +kernel

/-- No letter is lowered to white space. -/
theorem eq_of_small_blank (c : Char) (blank : isBlank (small c) = true) : small c = c := by
  rcases small_cases c with own | letter | ⟨run, member, first, last⟩
  · exact own
  · have spares : sparesBlanks 97 122 = true := by decide
    rw [isBlank_of_sparesBlanks spares (small c) letter.1 letter.2] at blank
    cases blank
  · have spares := List.all_eq_true.mp targets_spare_blanks run member
    rw [isBlank_of_sparesBlanks spares (small c) first last] at blank
    cases blank

/-- A character that is lowered to one that no letter is lowered to is that character. -/
theorem eq_of_mem_lowerBetween (before after : List Char) (c lowered : Char)
    (member : lowered ∈ lowerBetween before c after)
    (plain : lowered.toNat ≤ 90 ∨ isBlank lowered = true) : lowered = c := by
  have noLetter (letter : Char) (high : 90 < letter.toNat) (solid : isBlank letter = false) :
      lowered ≠ letter := by
    rintro rfl
    rcases plain with low | blank
    · omega
    · rw [solid] at blank
      cases blank
  unfold lowerBetween at member
  split at member
  · split at member
    · exact absurd (List.mem_singleton.mp member) (noLetter 'ς' (by decide) (by decide))
    · exact absurd (List.mem_singleton.mp member) (noLetter 'σ' (by decide) (by decide))
  · split at member
    · rcases List.mem_cons.mp member with first | last
      · exact absurd first (noLetter 'i' (by decide) (by decide))
      · exact absurd (List.mem_singleton.mp last) (noLetter '\u0307' (by decide) (by decide))
    · obtain rfl := List.mem_singleton.mp member
      rcases plain with low | blank
      · exact eq_of_small_low c low
      · exact eq_of_small_blank c blank

/-- Lowering brings no character in front of the small letters into a text. -/
theorem mem_of_mem_lower_low (cs : List Char) (mark : Char) (low : mark.toNat ≤ 90)
    (member : mark ∈ lower cs) : mark ∈ cs := by
  unfold lower at member
  generalize [] = before at member
  induction cs generalizing before with
  | nil => cases member
  | cons c rest inductionHypothesis =>
    rcases List.mem_append.mp member with here | later
    · obtain rfl := eq_of_mem_lowerBetween before rest c mark here (Or.inl low)
      exact List.mem_cons_self
    · exact List.mem_cons_of_mem c (inductionHypothesis _ later)

/-- Texts that do not begin or end with white space. -/
structure SolidEnds (cs : List Char) : Prop where
  front : ∀ c ∈ cs.head?, isBlank c = false
  back : ∀ c ∈ cs.getLast?, isBlank c = false

/-- Nothing is dropped at solid ends. -/
theorem trim_of_solidEnds (cs : List Char) (solid : SolidEnds cs) : trim cs = cs := by
  have kept (part : List Char) (first : ∀ c ∈ part.head?, isBlank c = false) :
      part.dropWhile isBlank = part := by
    cases part with
    | nil => rfl
    | cons c rest =>
      exact List.dropWhile_cons_of_neg (by rw [first c rfl]; exact Bool.false_ne_true)
  have back : ∀ c ∈ cs.reverse.head?, isBlank c = false := by
    rw [List.head?_reverse]
    exact solid.back
  rw [trim, trimStart, kept cs solid.front, trimEnd, kept cs.reverse back, List.reverse_reverse]

/-- What is left in front when leading white space is dropped is not white space. -/
theorem head_dropWhile_blank (cs : List Char) :
    ∀ c ∈ (cs.dropWhile isBlank).head?, isBlank c = false := by
  intro c first
  have solid := List.head?_dropWhile_not isBlank cs
  rw [Option.mem_def.mp first] at solid
  simpa using solid

/-- A trimmed text has solid ends. -/
theorem solidEnds_trim (cs : List Char) : SolidEnds (trim cs) where
  front := by
    intro c first
    have front : trim cs <+: trimStart cs := by
      have mirrored := List.dropWhile_suffix isBlank (l := (trimStart cs).reverse)
      have turned := List.reverse_prefix.mpr mirrored
      rw [List.reverse_reverse] at turned
      exact turned
    obtain ⟨rest, whole⟩ := front
    have led : (trimStart cs).head? = some c := by
      rw [← whole, List.head?_append, Option.mem_def.mp first, Option.some_or]
    exact head_dropWhile_blank cs c led
  back := by
    intro c last
    rw [trim, trimEnd, List.getLast?_reverse] at last
    exact head_dropWhile_blank _ c last

/-- A trimmed text stays as it is when it is trimmed again. -/
theorem trimmed_trimmed (s : String) : trimmed (trimmed s) = trimmed s := by
  rw [trimmed, trimmed, String.toList_ofList, trim_of_solidEnds _ (solidEnds_trim s.toList)]

/-- Lowering keeps the ends of a text solid. -/
theorem solidEnds_lower (cs : List Char) (solid : SolidEnds cs) : SolidEnds (lower cs) := by
  have kept (before after : List Char) (c lowered : Char) (visible : isBlank c = false)
      (member : lowered ∈ lowerBetween before c after) : isBlank lowered = false := by
    rw [Bool.eq_false_iff]
    intro blank
    rw [← eq_of_mem_lowerBetween before after c lowered member (Or.inr blank), blank] at visible
    cases visible
  have some (before after : List Char) (c : Char) : lowerBetween before c after ≠ [] := by
    unfold lowerBetween
    split
    · exact List.cons_ne_nil _ _
    · split <;> exact List.cons_ne_nil _ _
  constructor
  · intro lowered first
    cases cs with
    | nil => cases first
    | cons c rest =>
      apply kept [] rest c lowered (solid.front c rfl)
      obtain ⟨letter, others, letters⟩ := List.exists_cons_of_ne_nil (some [] rest c)
      rw [lower, lowerAfter, letters] at first
      obtain rfl := Option.some.inj first
      exact letters ▸ List.mem_cons_self
  · intro lowered last
    rcases List.eq_nil_or_concat cs with rfl | ⟨front, c, whole⟩
    · cases last
    · rw [List.concat_eq_append] at whole
      subst whole
      apply kept front.reverse [] c lowered (solid.back c List.getLast?_concat)
      have parts : lower (front ++ [c]) =
          lowerWithin [] front [c] ++ lowerBetween front.reverse c [] := by
        rw [lower, lowerAfter_append, lowerAfter, lowerAfter, List.append_nil, List.append_nil]
      rw [parts, List.getLast?_append] at last
      cases final : (lowerBetween front.reverse c []).getLast? with
      | none => exact absurd (List.getLast?_eq_none_iff.mp final) (some _ _ _)
      | some letter =>
        rw [final, Option.some_or] at last
        obtain rfl := Option.some.inj last
        exact List.mem_of_getLast? final

/-- The keys of what stays differ from each other, and from those already seen. -/
theorem nodup_dedupeAfter (seen entries : List String) :
    ((dedupeAfter seen entries).map lowered).Nodup ∧
      ∀ kept ∈ dedupeAfter seen entries, lowered kept ∉ seen := by
  induction entries generalizing seen with
  | nil => exact ⟨List.nodup_nil, fun kept member => nomatch member⟩
  | cons first rest inductionHypothesis =>
    rw [dedupeAfter]
    split
    · exact inductionHypothesis seen
    · next stays =>
      obtain ⟨apart, unseen⟩ := inductionHypothesis (entryKey first :: seen)
      have new : entryKey first ∉ seen := by
        intro known
        exact stays (Bool.or_eq_true_iff.mpr (Or.inr (List.contains_iff_mem.mpr known)))
      constructor
      · rw [List.map_cons, List.nodup_cons]
        refine ⟨?_, apart⟩
        intro again
        obtain ⟨kept, member, same⟩ := List.mem_map.mp again
        have head : lowered kept ∈ entryKey first :: seen := by
          rw [same]
          exact List.mem_cons_self
        exact unseen kept member head
      · intro kept member
        rcases List.mem_cons.mp member with rfl | later
        · exact new
        · exact fun known => unseen kept later (List.mem_cons_of_mem _ known)

/-- Of small texts stay, trimmed, all that are not blank. -/
theorem mem_dedupe_small_iff (entries : List String)
    (isSmall : ∀ entry ∈ entries, ∀ c ∈ entry.toList, small c = c) (kept : String) :
    kept ∈ dedupe entries ↔ ∃ entry ∈ entries, trimmed entry ≠ "" ∧ kept = trimmed entry := by
  constructor
  · intro member
    obtain ⟨entry, found, visible, rfl⟩ := (mem_dedupe_iff entries kept).mp member
    have listed : entry ∈ entries := List.mem_of_find?_eq_some found
    rw [entryKey_of_small entry (isSmall entry listed)] at visible
    exact ⟨entry, listed, visible, rfl⟩
  · rintro ⟨entry, listed, visible, rfl⟩
    exact trimmed_mem_dedupe entries entry listed visible isSmall

end Text

namespace Extract

/-- Banned words as they should be on file. -/
structure IsTidy (word : String) : Prop where
  trimmed : Text.trimmed word = word
  lowered : Text.lowered word = word
  unseparated : ∀ c ∈ word.toList, c ≠ ',' ∧ c ≠ ';'
  visible : word ≠ ""

/-- The parts that a rule lists, as they stand there. -/
def listedParts (name description : String) : List (List Char) :=
  if Text.mentions banWords name.toList then
    (bannedList.findAll description.toList).flatMap fun found =>
      partsBetween (fun c => c == ',' || c == ';') ((found.group? 1).getD [])
  else []

/-- The terms of a rule are its parts, as far as they are long enough. -/
theorem bannedTerms_eq (name description : String) :
    bannedTerms name description = (listedParts name description).filterMap bannedTerm? := by
  unfold bannedTerms listedParts
  split
  · rw [List.filterMap_flatMap]
  · rfl

/-- No separator stands in a part between separators. -/
theorem separates_of_mem_partsBetween (separates : Char → Bool) (cs part : List Char)
    (member : part ∈ partsBetween separates cs) : ∀ c ∈ part, separates c = false := by
  induction cs generalizing part with
  | nil =>
    obtain rfl := List.mem_singleton.mp member
    intro c inside
    cases inside
  | cons first rest inductionHypothesis =>
    rw [partsBetween] at member
    split at member
    · rcases List.mem_cons.mp member with rfl | later
      · intro c inside
        cases inside
      · exact inductionHypothesis part later
    · next solid =>
      rcases List.mem_cons.mp member with rfl | later
      · intro c inside
        rcases List.mem_cons.mp inside with rfl | behind
        · exact Bool.eq_false_iff.mpr solid
        · cases parts : partsBetween separates rest with
          | nil =>
            rw [parts] at behind
            cases behind
          | cons next others =>
            rw [parts] at behind
            exact inductionHypothesis next (parts ▸ List.mem_cons_self) c behind
      · exact inductionHypothesis part (List.mem_of_mem_drop later)

/-- Stripping quotes leaves a part of a text. -/
theorem stripQuotes_subset (cs : List Char) : stripQuotes cs ⊆ cs := by
  intro c member
  unfold stripQuotes at member
  have behind := (List.dropWhile_suffix _).subset (List.mem_reverse.mp member)
  exact (List.dropWhile_suffix _).subset (List.mem_reverse.mp behind)

/-- Nothing is stripped from a text without quotes. -/
theorem stripQuotes_of_unquoted (cs : List Char) (unquoted : ∀ c ∈ cs, c ≠ '"' ∧ c ≠ '\'') :
    stripQuotes cs = cs := by
  have kept (part : List Char) (within : part ⊆ cs) :
      part.dropWhile (fun c => c == '"' || c == '\'') = part := by
    cases part with
    | nil => rfl
    | cons first rest =>
      apply List.dropWhile_cons_of_neg
      intro quoted
      obtain ⟨double, single⟩ := unquoted first (within List.mem_cons_self)
      rcases Bool.or_eq_true_iff.mp quoted with same | same
      · exact double (beq_iff_eq.mp same)
      · exact single (beq_iff_eq.mp same)
  unfold stripQuotes
  dsimp only
  rw [kept cs (fun _ => id), kept cs.reverse (fun _ => List.mem_reverse.mp), List.reverse_reverse]

/-- A part is a term exactly when it is longer than two characters once trimmed, out of its quotes
and lowered. -/
theorem bannedTerm?_eq_some_iff (part : List Char) (term : String) :
    bannedTerm? part = some term ↔
      term.toList = Text.lower (stripQuotes (Text.trim part)) ∧ 2 < term.toList.length := by
  unfold bannedTerm?
  dsimp only
  constructor
  · intro taken
    split at taken
    · next long =>
      obtain rfl := Option.some.inj taken
      rw [String.toList_ofList]
      exact ⟨rfl, long⟩
    · cases taken
  · rintro ⟨letters, long⟩
    rw [letters] at long
    rw [if_pos long, ← letters, String.ofList_toList]

/-- A term of a part without quotes has no white space at its ends. -/
theorem trimmed_of_unquoted (part : List Char) (unquoted : ∀ c ∈ part, c ≠ '"' ∧ c ≠ '\'')
    (term : String) (taken : bannedTerm? part = some term) : Text.trimmed term = term := by
  obtain ⟨letters, -⟩ := (bannedTerm?_eq_some_iff part term).mp taken
  have within := (Text.trim_isInfix part).subset
  rw [stripQuotes_of_unquoted _ fun c inside => unquoted c (within inside)] at letters
  have solid := Text.solidEnds_lower _ (Text.solidEnds_trim part)
  rw [Text.trimmed, letters, Text.trim_of_solidEnds _ solid, ← letters, String.ofList_toList]

/-- No separator stands in a term. -/
theorem unseparated_of_mem_bannedTerms (name description term : String)
    (extracted : term ∈ bannedTerms name description) :
    ∀ c ∈ term.toList, c ≠ ',' ∧ c ≠ ';' := by
  rw [bannedTerms_eq] at extracted
  obtain ⟨part, listed, taken⟩ := List.mem_filterMap.mp extracted
  obtain ⟨letters, -⟩ := (bannedTerm?_eq_some_iff part term).mp taken
  have clean : ∀ c ∈ part, (c == ',' || c == ';') = false := by
    unfold listedParts at listed
    split at listed
    · obtain ⟨found, -, between⟩ := List.mem_flatMap.mp listed
      exact separates_of_mem_partsBetween _ _ part between
    · cases listed
  have absent (mark : Char) (low : mark.toNat ≤ 90)
      (separates : (mark == ',' || mark == ';') = true) : mark ∉ term.toList := by
    intro inside
    rw [letters] at inside
    have unlowered := Text.mem_of_mem_lower_low _ mark low inside
    have among := (Text.trim_isInfix part).subset (stripQuotes_subset _ unlowered)
    rw [clean mark among] at separates
    cases separates
  intro c inside
  constructor
  · rintro rfl
    exact absent ',' (by decide) rfl inside
  · rintro rfl
    exact absent ';' (by decide) rfl inside

end Extract

open Extract (bannedTerms)

/-- Whatever the published rules and the wiki page say, once every rule can be read the banned words
that they amount to are trimmed, unchanged by lowering, free of separators and not empty, and they
differ from each other also when they are lowered. All are longer than two characters exactly when
every term is, without the white space at its ends; and a shorter one comes out of a part with a
quote in it.

Proof: terms are lowered before they are compared, so of all that are not blank the trimmed text
stays, and a part without quotes is trimmed before its length is checked. -/
theorem Gathered.bannedWords_wellFormed (rules : List Json) (wiki : Json)
    (statements : List Statement) (read : rules.mapM Statement.ofJson = .ok statements) :
    ∃ compiled, compile ⟨rules, wiki⟩ = .ok compiled ∧
      (∀ word ∈ compiled.bannedWords, Extract.IsTidy word) ∧
      (compiled.bannedWords.map Text.lowered).Nodup ∧
      ((∀ word ∈ compiled.bannedWords, 2 < word.toList.length) ↔
        ∀ statement ∈ statements, ∀ term ∈ bannedTerms statement.name statement.description,
          Text.trimmed term = "" ∨ 2 < (Text.trimmed term).toList.length) ∧
      ∀ word ∈ compiled.bannedWords, 2 < word.toList.length ∨
        ∃ statement ∈ statements,
          ∃ part ∈ Extract.listedParts statement.name statement.description,
            ('"' ∈ part ∨ '\'' ∈ part) ∧
              (Extract.bannedTerm? part).map Text.trimmed = some word := by
  let terms := statements.flatMap fun s => bannedTerms s.name s.description
  have compiled : compile ⟨rules, wiki⟩ = .ok (Rules.compile statements (wikiText ⟨rules, wiki⟩)) :=
    (bind_eq_ok_iff _ _ _).mpr ⟨statements, read, rfl⟩
  have isSmall : ∀ term ∈ terms, ∀ c ∈ term.toList, Text.small c = c := by
    intro term listed
    obtain ⟨statement, -, extracted⟩ := List.mem_flatMap.mp listed
    exact small_of_mem_bannedTerms _ _ term extracted
  have words (word : String) := Text.mem_dedupe_small_iff terms isSmall word
  refine ⟨_, compiled, ?_, (Text.nodup_dedupeAfter [] terms).1, ?_, ?_⟩
  · intro word banned
    obtain ⟨term, listed, visible, rfl⟩ := (words word).mp banned
    obtain ⟨statement, -, extracted⟩ := List.mem_flatMap.mp listed
    have within : (Text.trimmed term).toList ⊆ term.toList := by
      rw [Text.trimmed, String.toList_ofList]
      exact (Text.trim_isInfix term.toList).subset
    refine ⟨Text.trimmed_trimmed term, ?_, ?_, visible⟩
    · rw [Text.lowered, Text.lower_of_small _ fun c inside => isSmall term listed c (within inside),
        String.ofList_toList]
    · intro c inside
      exact Extract.unseparated_of_mem_bannedTerms _ _ term extracted c (within inside)
  · constructor
    · intro long statement member term extracted
      by_cases visible : Text.trimmed term = ""
      · exact Or.inl visible
      · have listed : term ∈ terms := List.mem_flatMap.mpr ⟨statement, member, extracted⟩
        exact Or.inr (long _ ((words _).mpr ⟨term, listed, visible, rfl⟩))
    · intro long word banned
      obtain ⟨term, listed, visible, rfl⟩ := (words word).mp banned
      obtain ⟨statement, member, extracted⟩ := List.mem_flatMap.mp listed
      exact (long statement member term extracted).resolve_left visible
  · intro word banned
    obtain ⟨term, listed, -, rfl⟩ := (words word).mp banned
    obtain ⟨statement, member, extracted⟩ := List.mem_flatMap.mp listed
    rw [Extract.bannedTerms_eq] at extracted
    obtain ⟨part, stands, taken⟩ := List.mem_filterMap.mp extracted
    by_cases quoted : '"' ∈ part ∨ '\'' ∈ part
    · refine Or.inr ⟨statement, member, part, stands, quoted, ?_⟩
      rw [taken, Option.map_some]
    · have unquoted : ∀ c ∈ part, c ≠ '"' ∧ c ≠ '\'' := by
        intro c inside
        exact ⟨fun same => quoted (Or.inl (same ▸ inside)),
          fun same => quoted (Or.inr (same ▸ inside))⟩
      rw [Extract.trimmed_of_unquoted part unquoted term taken]
      exact Or.inl ((Extract.bannedTerm?_eq_some_iff part term).mp taken).2

/-- A rule whose list has capitals, quotes, and one of its terms twice. -/
def quotedPage : List Json :=
  [.obj [("short_name", .str "Banned words"),
    ("description", .str "Banned: \"Spam\", eggs; 'ham ', SPAM")]]

/-- Its words are tidy and long enough. -/
theorem Gathered.quoted_terms_are_tidy :
    ∃ compiled, compile ⟨quotedPage, .str ""⟩ = .ok compiled ∧
      compiled.bannedWords = ["spam", "eggs", "ham"] ∧
      ∀ word ∈ compiled.bannedWords, Extract.IsTidy word ∧ 2 < word.toList.length := by
  obtain ⟨compiled, given, tidy, -, -⟩ := bannedWords_wellFormed quotedPage (.str "")
    [⟨"Banned words", "Banned: \"Spam\", eggs; 'ham ', SPAM"⟩] rfl
  have words : compiled.bannedWords = ["spam", "eggs", "ham"] := by
    obtain rfl : _ = compiled := Except.ok.inj given
    decide +kernel
  refine ⟨compiled, given, words, fun word banned => ⟨tidy word banned, ?_⟩⟩
  rw [words] at banned
  have long : ∀ listed ∈ ["spam", "eggs", "ham"], 2 < listed.toList.length := by decide
  exact long word banned

/-- A letter in quotes with white space behind it is long enough when it is read, and stays as a
banned word of one letter. -/
theorem Gathered.padded_letter_is_banned :
    ∃ compiled, compile ⟨[.obj [("short_name", .str "Banned words"),
        ("description", .str "Banned: \"a  \"")]], .str ""⟩ = .ok compiled ∧
      compiled.bannedWords = ["a"] ∧
      ¬ ∀ word ∈ compiled.bannedWords, 2 < word.toList.length := by
  have words : (Rules.compile [⟨"Banned words", "Banned: \"a  \""⟩] "").bannedWords = ["a"] := by
    decide +kernel
  refine ⟨_, rfl, words, ?_⟩
  intro long
  have short := long "a" (words ▸ List.mem_singleton.mpr rfl)
  exact absurd short (by decide)

end Rulebook
