import Rulebook.Proofs.Keys
import Rulebook.Proofs.Store

/-!
# The characters of keys

A key is meant to be written in small letters and digits of ASCII and in underscores, so that it is
the same wherever and however often a name is reduced to it. Which characters stay in a key is
decided ignoring case, and four letters outside ASCII are spellings of letters inside it: the dotted
capital I, the dotless i, the long s and the kelvin sign. They stay, and lowering makes a letter of
ASCII of the kelvin sign only.

So three letters keep a key from being canonical, and the dotted capital I keeps it from being
settled as well: a caller that reduces a name before it asks a store then asks for another row. A
key that has been reduced once more is settled in any case.
-/

namespace Rulebook

namespace Community

open Text (isBlank small smallVariants lowerBetween capitalRuns)

/-- Small letters and digits of ASCII and the underscore. -/
def isCanonicalChar (c : Char) : Bool := c.isLower || c.isDigit || c == '_'

/-- The letters outside ASCII that stay in a key. -/
def wideKeyChars : List Char := ['İ', 'ı', 'ſ', '\u212a']

/-- Those of them that are not lowered to a letter of ASCII. -/
def strayLetters : List Char := ['İ', 'ı', 'ſ']

/-- A character that stays in a key as it is is one of ASCII, and not the first of all. -/
theorem toNat_of_isPlainKeyChar (c : Char) (plain : isPlainKeyChar c = true) :
    0 < c.toNat ∧ c.toNat < 128 := by
  have range := Text.range_of_plain c plain
  omega

/-- The runs of the table whose small letters meet ASCII, the dotless i or the long s are those of
the dotted capital I and of the kelvin sign, of one capital each. -/
theorem target_of_plain_run : ∀ run ∈ capitalRuns,
    (run.first = 0x130 ∧ run.last = 0x130) ∨ (run.first = 0x212a ∧ run.last = 0x212a) ∨
      (127 < run.target ∧
        (run.target + (run.last - run.first) < 0x131 ∨ 0x131 < run.target) ∧
        (run.target + (run.last - run.first) < 0x17f ∨ 0x17f < run.target)) := by decide +kernel

/-- A letter outside ASCII whose small letter is in ASCII, or is the dotless i or the long s, is one
of the four that stay in a key. -/
theorem mem_wideKeyChars_of_small (c : Char) (wide : ¬ c.toNat < 128)
    (reached : (small c).toNat < 128 ∨ small c = 'ı' ∨ small c = 'ſ') : c ∈ wideKeyChars := by
  unfold small at reached
  rw [if_neg wide] at reached
  split at reached
  · next run found =>
    have member : run ∈ capitalRuns := List.mem_of_find?_eq_some found
    have held : run.holds c.toNat = true := by simpa using List.find?_some found
    have number := run.toNat_small member c.toNat held
    have bounds : run.first ≤ c.toNat ∧ c.toNat ≤ run.last := by
      simp only [Text.CapitalRun.holds, Bool.and_eq_true, decide_eq_true_eq] at held
      exact held.1
    rcases target_of_plain_run run member with
      ⟨first, last⟩ | ⟨first, last⟩ | ⟨above, dotless, long⟩
    · have same : c = 'İ' := Char.toNat_inj.mp (show c.toNat = 0x130 by omega)
      rw [same]
      decide
    · have same : c = '\u212a' := Char.toNat_inj.mp (show c.toNat = 0x212a by omega)
      rw [same]
      decide
    · rcases reached with below | same | same
      · omega
      · rw [same, show 'ı'.toNat = 0x131 from rfl] at number
        omega
      · rw [same, show 'ſ'.toNat = 0x17f from rfl] at number
        omega
  · rcases reached with below | rfl | rfl
    · exact absurd below wide
    · decide
    · decide

/-- In a key stay the letters and digits of ASCII, the underscore, and four letters outside
ASCII. -/
theorem isKeyChar_iff (c : Char) :
    isKeyChar c = true ↔ isPlainKeyChar c = true ∨ c ∈ wideKeyChars := by
  have inAscii : ∀ point < 128, (smallVariants (small (Char.ofNat point))).any isPlainKeyChar =
      isPlainKeyChar (Char.ofNat point) := by decide
  rw [isKeyChar_eq_variants]
  constructor
  · intro stays
    by_cases ascii : c.toNat < 128
    · obtain ⟨point, below, rfl⟩ := Text.exists_point_of_ascii c ascii
      exact Or.inl ((inAscii point below).symm.trans stays)
    · obtain ⟨variant, isVariant, plain⟩ := List.any_eq_true.mp stays
      have reached := Text.plain_or_of_variant (small c) variant isVariant
        (toNat_of_isPlainKeyChar variant plain).2
      exact Or.inr (mem_wideKeyChars_of_small c ascii reached)
  · rintro (plain | wide)
    · obtain ⟨point, below, rfl⟩ :=
        Text.exists_point_of_ascii c (toNat_of_isPlainKeyChar c plain).2
      exact (inAscii point below).trans plain
    · have checked : (wideKeyChars.all fun letter =>
          (smallVariants (small letter)).any isPlainKeyChar) = true := by decide
      exact List.all_eq_true.mp checked c wide

/-- What a character that stays is lowered to is canonical exactly when it is no stray letter, and
is the dotless i, the long s or a dot else. -/
theorem canonical_lowered_iff (c : Char) (stays : isKeyChar c = true) :
    ((∀ lowered ∈ lowerBetween [] c [], isCanonicalChar lowered = true) ↔ c ∉ strayLetters) ∧
      ∀ lowered ∈ lowerBetween [] c [],
        isCanonicalChar lowered = true ∨ lowered = 'ı' ∨ lowered = 'ſ' ∨ lowered = dot := by
  rw [← List.all_eq_true, ← List.contains_iff_mem]
  rcases (isKeyChar_iff c).mp stays with plain | wide
  · have checked : ∀ point < 128, isPlainKeyChar (Char.ofNat point) = true →
        (lowerBetween [] (Char.ofNat point) []).all isCanonicalChar = true ∧
          ¬ strayLetters.contains (Char.ofNat point) = true := by decide
    obtain ⟨point, below, rfl⟩ :=
      Text.exists_point_of_ascii c (toNat_of_isPlainKeyChar c plain).2
    obtain ⟨canonical, stray⟩ := checked point below plain
    refine ⟨iff_of_true canonical stray, fun lowered member => Or.inl ?_⟩
    exact List.all_eq_true.mp canonical lowered member
  · have checked : (wideKeyChars.all fun letter =>
        ((lowerBetween [] letter []).all isCanonicalChar == !strayLetters.contains letter) &&
          (lowerBetween [] letter []).all fun lowered =>
            isCanonicalChar lowered || lowered == 'ı' || lowered == 'ſ' || lowered == dot) =
        true := by decide
    obtain ⟨canonical, members⟩ :=
      Bool.and_eq_true_iff.mp (List.all_eq_true.mp checked c wide)
    constructor
    · rw [beq_iff_eq.mp canonical, Bool.not_eq_true', Bool.not_eq_true]
    · intro lowered member
      have among := List.all_eq_true.mp members lowered member
      simp only [Bool.or_eq_true, beq_iff_eq, or_assoc] at among
      exact among

/-- A key is written letter by letter: no sigma stays in it. -/
theorem toList_key_eq_flatMap (name : String) :
    (key name).toList = (keptChars name).flatMap fun c => lowerBetween [] c [] := by
  have noSigma : 'Σ' ∉ keptChars name := by
    intro member
    exact absurd (List.mem_filter.mp member).2 (by decide +kernel)
  rw [toList_key, Text.lower_eq_flatMap _ noSigma]

/-- White space is all that is dropped around a name. -/
theorem mem_trim_iff (c : Char) (cs : List Char) (solid : isBlank c = false) :
    c ∈ Text.trim cs ↔ c ∈ cs := by
  have dropped (part : List Char) : c ∈ part.dropWhile isBlank ↔ c ∈ part := by
    constructor
    · intro member
      exact (List.dropWhile_suffix isBlank).subset member
    · intro member
      rw [← List.takeWhile_append_dropWhile (p := isBlank) (l := part)] at member
      apply (List.mem_append.mp member).resolve_left
      intro front
      rw [List.mem_takeWhile_imp front] at solid
      cases solid
  rw [Text.trim, Text.trimEnd, List.mem_reverse, dropped, List.mem_reverse, Text.trimStart, dropped]

/-- A slash and a spelling of the letter of the mark are all that is dropped with it. -/
theorem mem_dropMark_iff (c : Char) (cs : List Char) (noSlash : c ≠ '/')
    (noMark : Text.sameLetter 'r' c = false) : c ∈ dropMark cs ↔ c ∈ cs := by
  have differs (r : Char) (mark : Text.sameLetter 'r' r = true) : c ≠ r := by
    rintro rfl
    rw [mark] at noMark
    cases noMark
  unfold dropMark
  split
  · split
    · next mark => simp [noSlash, differs _ mark]
    · exact Iff.rfl
  · split
    · next mark => simp [noSlash, differs _ mark]
    · exact Iff.rfl
  · exact Iff.rfl

/-- A stray letter stays in the key of every name that it stands in. -/
theorem stray_mem_keptChars_iff (letter : Char) (stray : letter ∈ strayLetters) (name : String) :
    letter ∈ keptChars name ↔ letter ∈ name.toList := by
  have checked : (strayLetters.all fun letter => wideKeyChars.contains letter &&
      !isBlank letter && letter != '/' && !Text.sameLetter 'r' letter) = true := by decide
  have here := List.all_eq_true.mp checked letter stray
  simp only [Bool.and_eq_true, Bool.not_eq_true', bne_iff_ne] at here
  obtain ⟨⟨⟨wide, solid⟩, noSlash⟩, noMark⟩ := here
  have stays := (isKeyChar_iff letter).mpr (Or.inr (List.contains_iff_mem.mp wide))
  rw [keptChars, List.mem_filter, mem_dropMark_iff letter _ noSlash noMark,
    mem_trim_iff letter _ solid, and_iff_left stays]

/-- The key of a name is canonical exactly when no stray letter stands in the name. -/
theorem canonical_key_iff (name : String) :
    (∀ c ∈ (key name).toList, isCanonicalChar c = true) ↔
      ∀ letter ∈ strayLetters, letter ∉ name.toList := by
  have among : ∀ c ∈ keptChars name, isKeyChar c = true := fun c member =>
    (List.mem_filter.mp member).2
  rw [toList_key_eq_flatMap]
  constructor
  · intro canonical letter stray member
    have kept := (stray_mem_keptChars_iff letter stray name).mpr member
    have clean := (canonical_lowered_iff letter (among letter kept)).1.mp fun lowered here =>
      canonical lowered (List.mem_flatMap.mpr ⟨letter, kept, here⟩)
    exact clean stray
  · intro clean lowered member
    obtain ⟨c, kept, here⟩ := List.mem_flatMap.mp member
    have noStray : c ∉ strayLetters := fun stray =>
      clean c stray ((stray_mem_keptChars_iff c stray name).mp kept)
    exact (canonical_lowered_iff c (among c kept)).1.mpr noStray lowered here

/-- What else may stand in a key are the dotless i, the long s and the dot of a dotted capital. -/
theorem canonical_or_of_mem_key (name : String) (c : Char) (member : c ∈ (key name).toList) :
    isCanonicalChar c = true ∨ c = 'ı' ∨ c = 'ſ' ∨ c = dot := by
  rw [toList_key_eq_flatMap] at member
  obtain ⟨kept, among, here⟩ := List.mem_flatMap.mp member
  exact (canonical_lowered_iff kept (List.mem_filter.mp among).2).2 c here

end Community

open Community (key)

/-- Two names reach the same rules in every database exactly when they have one key. -/
theorem Database.getRules_agree_iff (name other : String) :
    (∀ db : Database, db.getRules name = db.getRules other) ↔ key name = key other := by
  constructor
  · intro agree
    by_contra differs
    -- A database that has one document, under the key of the second name, tells them apart.
    obtain ⟨db, connected, present, rows⟩ : ∃ db : Database, db.connected = true ∧
        db.rules.present = true ∧
        db.rules.rows = Table.putRow RuleRow.community ⟨key other, .obj []⟩ [] :=
      ⟨{ rules := { rows := _ } }, rfl, rfl, rfl⟩
    have read := agree db
    rw [db.getRules_eq name connected present, db.getRules_eq other connected present, rows,
      Database.rowAt?_put, Database.rowAt?_put, if_neg differs, if_pos rfl] at read
    change Except.ok none = (Failure.ofChecked (RuleSpec.read (.obj []))).map some at read
    cases outcome : Failure.ofChecked (RuleSpec.read (.obj [])) with
    | error failure =>
      rw [outcome] at read
      cases read
    | ok spec =>
      rw [outcome] at read
      cases read
  · intro same db
    exact db.getRules_of_key_eq name other same

/-- A name of any characters has a canonical key exactly when no stray letter stands in it. Its key
is settled, and a store that reduces what its caller has reduced reaches the row of the name,
exactly when no dotted capital I stands in it. All that may stand in a key besides canonical
characters are the two small stray letters and the dot, and the key of a key is settled. -/
theorem Community.key_canonical_and_settled (name : String) :
    ((∀ c ∈ (key name).toList, Community.isCanonicalChar c = true) ↔
      ∀ letter ∈ Community.strayLetters, letter ∉ name.toList) ∧
    (key (key name) = key name ↔ 'İ' ∉ name.toList) ∧
    ((∀ db : Database, db.getRules (key name) = db.getRules name) ↔ 'İ' ∉ name.toList) ∧
    (∀ c ∈ (key name).toList,
      Community.isCanonicalChar c = true ∨ c = 'ı' ∨ c = 'ſ' ∨ c = Community.dot) ∧
    key (key (key name)) = key (key name) := by
  have dotted : 'İ' ∈ Community.keptChars name ↔ 'İ' ∈ name.toList :=
    Community.stray_mem_keptChars_iff 'İ' (by decide) name
  have settled : key (key name) = key name ↔ 'İ' ∉ name.toList :=
    (Community.key_key_eq_iff name).trans (not_congr dotted)
  refine ⟨Community.canonical_key_iff name, settled, ?_, Community.canonical_or_of_mem_key name,
    Community.key_key_key name⟩
  exact (Database.getRules_agree_iff (key name) name).trans settled

/-- A caller that reduces a name with a dotted capital I asks for another row than the name has:
its key keeps a dot, which is no character of a key, and loses it when it is reduced again. -/
theorem Community.dotted_capital_is_unsettled :
    key "İstanbul" = "i\u0307stanbul" ∧ Community.isCanonicalChar Community.dot = false ∧
      key (key "İstanbul") = "istanbul" ∧
      ∃ db : Database, db.getRules (key "İstanbul") ≠ db.getRules "İstanbul" := by
  have first : key "İstanbul" = "i\u0307stanbul" := by decide +kernel
  have second : key (key "İstanbul") = "istanbul" := by decide +kernel
  refine ⟨first, by decide, second, ?_⟩
  by_contra none
  have agree : ∀ db : Database, db.getRules (key "İstanbul") = db.getRules "İstanbul" :=
    fun db => by_contra fun differs => none ⟨db, differs⟩
  have same := (Database.getRules_agree_iff _ _).mp agree
  rw [second, first] at same
  exact absurd same (by decide)

end Rulebook
