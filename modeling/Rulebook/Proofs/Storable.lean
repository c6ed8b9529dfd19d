import Rulebook.Proofs.Numbers
import Rulebook.Proofs.Documents
import Rulebook.Store.Basic
import Rulebook.Sync.One

/-!
# Documents that can be written

A document can be written when none of its integers is beyond the digit limit. A
specification has four integers among its rule fields, and the same four once more in its
automated rules and in its corrections. Corrections that were read from a stored document
can be written again, and so can everything that is compiled, but for the age of an account.
-/

namespace Rulebook

open Document Extract

namespace Json

/-- Fields can be written when those in front and those behind can. -/
@[simp] theorem fieldsStorable_append (front back : List (String × Json)) :
    fieldsStorable (front ++ back) = (fieldsStorable front && fieldsStorable back) := by
  induction front with
  | nil => rfl
  | cons field front inductionHypothesis =>
    rw [List.cons_append, fieldsStorable, fieldsStorable, inductionHypothesis, Bool.and_assoc]

/-- Texts can be written. -/
@[simp] theorem isStorable_strings (items : List String) : (strings items).isStorable = true := by
  have each : areStorable (items.map .str) = true := by
    induction items with
    | nil => rfl
    | cons item rest inductionHypothesis =>
      rw [List.map_cons, areStorable, inductionHypothesis]
      rfl
  rw [strings, isStorable, each]

/-- An open value can be written. -/
@[simp] theorem isStorable_ofOption {α : Type} (encode : α → Json) (value : Option α) :
    (ofOption encode value).isStorable = value.all fun inner => (encode inner).isStorable := by
  cases value <;> rfl

/-- The value of a field of an object that can be written can be written. -/
theorem isStorable_of_lookup? (key : String) (fields : List (String × Json)) (value : Json)
    (storable : fieldsStorable fields = true) (found : lookup? key fields = some value) :
    value.isStorable = true := by
  induction fields with
  | nil => cases found
  | cons field rest inductionHypothesis =>
    rw [fieldsStorable, Bool.and_eq_true] at storable
    rw [lookup?_cons] at found
    split at found
    · exact Option.some.inj found ▸ storable.1
    · exact inductionHypothesis storable.2 found

/-- The items of a list that can be written can be written. -/
theorem isStorable_of_mem (items : List Json) (item : Json) (storable : areStorable items = true)
    (member : item ∈ items) : item.isStorable = true := by
  induction items with
  | nil => cases member
  | cons first rest inductionHypothesis =>
    rw [areStorable, Bool.and_eq_true] at storable
    rcases List.mem_cons.mp member with rfl | behind
    · exact storable.1
    · exact inductionHypothesis storable.2 behind

end Json

/-- A field that is left out when it is open can be written. -/
@[simp] theorem fieldsStorable_sparse {α : Type} (name : String) (encode : α → Json)
    (value : Option α) :
    Json.fieldsStorable (sparse name encode value) =
      value.all fun inner => (encode inner).isStorable := by
  cases value <;> simp [sparse, Json.fieldsStorable]

/-- Manual flags whose numbers can be written. -/
def ManualFlags.isShort (flags : ManualFlags) : Bool :=
  flags.minKarma.all Decimal.isShort && flags.minAccountAgeDays.all Decimal.isShort

/-- Rules whose numbers can be written. -/
def Rules.isShort (rules : Rules) : Bool :=
  rules.maxTitleLength.all Decimal.isShort && rules.maxBodyLength.all Decimal.isShort
    && rules.manualFlags.isShort

/-- Corrections whose numbers can be written. -/
def Override.isShort (o : Override) : Bool :=
  o.maxTitleLength.all Decimal.isShort && o.maxBodyLength.all Decimal.isShort
    && o.manualFlags.all ManualFlags.isShort

/-- Manual flags can be written exactly when their numbers can. -/
@[simp] theorem ManualFlags.isStorable_document (flags : ManualFlags) :
    flags.document.isStorable = flags.isShort := by
  simp [document, isShort, Json.isStorable, Json.fieldsStorable]

/-- Leaving out open fields makes no difference. -/
@[simp] theorem ManualFlags.isStorable_sparseDocument (flags : ManualFlags) :
    flags.sparseDocument.isStorable = flags.isShort := by
  simp [sparseDocument, isShort, Json.isStorable, Json.fieldsStorable]

/-- Rules can be written exactly when their numbers can. -/
@[simp] theorem Rules.fieldsStorable_fields (rules : Rules) :
    Json.fieldsStorable rules.fields = rules.isShort := by
  simp [fields, isShort, Json.isStorable, Json.fieldsStorable, Bool.and_assoc]

/-- Corrections can be written exactly when their numbers can. -/
@[simp] theorem Override.isStorable_document (o : Override) :
    o.document.isStorable = o.isShort := by
  simp [document, isShort, Json.isStorable, Bool.and_assoc]

/-- Corrections and rules that can be written make rules that can be written. -/
theorem Override.isShort_apply (o : Override) (rules : Rules) (corrections : o.isShort = true)
    (automated : rules.isShort = true) : (o.apply rules).isShort = true := by
  simp only [isShort, Rules.isShort, Bool.and_eq_true] at corrections automated ⊢
  obtain ⟨⟨title, body⟩, flags⟩ := corrections
  obtain ⟨⟨plainTitle, plainBody⟩, plainFlags⟩ := automated
  refine ⟨⟨?_, ?_⟩, ?_⟩
  · cases known : o.maxTitleLength <;> simp_all [apply]
  · cases known : o.maxBodyLength <;> simp_all [apply]
  · cases known : o.manualFlags <;> simp_all [apply]

/-- The provenance can be written exactly when the automated rules can. -/
@[simp] theorem Provenance.isStorable_document (source : Provenance) :
    source.document.isStorable = source.automatedBase.isShort := by
  simp [document, Rules.document, Json.isStorable, Json.fieldsStorable]

/-- A specification can be written exactly when its rules, its automated rules and its
corrections can. -/
theorem RuleSpec.isStorable_document (spec : RuleSpec) :
    spec.document.isStorable = (spec.rules.isShort
      && spec.source.all (fun source => source.automatedBase.isShort)
      && spec.overrides.all Override.isShort) := by
  simp [document, Json.isStorable, Json.fieldsStorable, Bool.and_assoc]

/-- What a sync is going to store can be written exactly when the automated rules and the
corrections can. -/
theorem syncedSpec_isStorable_iff (automated : Rules) (overrides : Option Override)
    (fetchedAt : Calendar.Moment) (aboutUrl wikiUrl : String) :
    (syncedSpec automated overrides fetchedAt aboutUrl wikiUrl).document.isStorable = true ↔
      automated.isShort = true ∧ (overrides.getD {}).isShort = true := by
  rw [RuleSpec.isStorable_document]
  simp only [syncedSpec, RuleSpec.merge, Option.all_some, Bool.and_eq_true]
  constructor
  · rintro ⟨⟨-, base⟩, corrections⟩
    exact ⟨base, corrections⟩
  · rintro ⟨base, corrections⟩
    exact ⟨⟨Override.isShort_apply _ _ corrections base, base⟩, corrections⟩

/-- A length that is shown can be written when the stated one can. -/
theorem isShort_shownLength (stated : Option Int) (default : Int)
    (short : stated.all Decimal.isShort = true) (plain : Decimal.isShort default = true) :
    Decimal.isShort (shownLength stated default) = true := by
  unfold shownLength
  split
  · split
    · exact plain
    · simpa only [Option.all_some] using short
  · exact plain

/-- Small numbers can be written. -/
theorem isShort_of_small (number : Int) (small : number.natAbs < Decimal.wordLimit) :
    Decimal.isShort number = true := by
  simpa [Decimal.isShort] using Nat.lt_of_lt_of_le small Decimal.wordLimit_le

/-- An overview can be written when the rules can and the banned words can be counted. -/
theorem RuleSpec.isStorable_overview (spec : RuleSpec) (short : spec.rules.isShort = true)
    (counted : Decimal.isShort spec.rules.bannedWords.length = true) :
    spec.overview.document.isStorable = true := by
  simp only [Rules.isShort, ManualFlags.isShort, Bool.and_eq_true] at short
  obtain ⟨⟨title, body⟩, karma, age⟩ := short
  have orZero (stated : Option Int) (known : stated.all Decimal.isShort = true) :
      Decimal.isShort (stated.getD 0) = true := by
    cases stated with
    | none => exact isShort_of_small 0 (by decide)
    | some number => simpa only [Option.all_some, Option.getD_some] using known
  have shownTitle := isShort_shownLength _ defaultTitleLength title
    (isShort_of_small _ (by decide))
  have shownBody := isShort_shownLength _ defaultBodyLength body (isShort_of_small _ (by decide))
  simp [overview, Overview.document, Json.isStorable, Json.fieldsStorable, orZero _ karma,
    orZero _ age, shownTitle, shownBody, counted]

/-- A field that is found in either spelling is a field. -/
theorem Key.find?_storable (key : Key) (fields : List (String × Json)) (name : String)
    (value : Json) (storable : Json.fieldsStorable fields = true)
    (found : key.find? fields = some (name, value)) : value.isStorable = true := by
  unfold Key.find? at found
  split at found
  · next stored =>
    obtain ⟨-, rfl⟩ := Prod.mk.inj (Option.some.inj found)
    exact Json.isStorable_of_lookup? _ _ _ storable stored
  · obtain ⟨stored, other, same⟩ := Option.map_eq_some_iff.mp found
    obtain ⟨-, rfl⟩ := Prod.mk.inj same
    exact Json.isStorable_of_lookup? _ _ _ storable other

/-- What holds of every value that is read from a field that can be written holds of an
optional one. -/
theorem all_of_optional {α : Type} (path : Path) (fields : List (String × Json)) (key : Key)
    (read : Reader α) (short : α → Bool) (value : Option α)
    (storable : Json.fieldsStorable fields = true)
    (each : ∀ path value inner, Json.isStorable value = true → read path value = .ok inner →
      short inner = true)
    (found : optional path fields key read = .ok value) : value.all short = true := by
  unfold Document.optional at found
  split at found
  · obtain rfl := Checked.ok.inj found
    rfl
  · next name stored _ present =>
    obtain ⟨inner, read, rfl⟩ := (map_eq_ok_iff some _ _).mp found
    exact each _ _ _ (Key.find?_storable key fields name stored storable present) read
  · obtain rfl := Checked.ok.inj found
    rfl

/-- An integer of a document that can be written can be written. -/
theorem isShort_of_readStorable (path : Path) (value : Json) (whole : Int)
    (storable : value.isStorable = true) (found : readInteger path value = .ok whole) :
    Decimal.isShort whole = true :=
  isShort_of_readInteger path value whole (by rintro inner rfl; exact storable) found

/-- Manual flags that are read from a value that can be written can be written. -/
theorem ManualFlags.isShort_of_read (path : Path) (value : Json) (flags : ManualFlags)
    (storable : value.isStorable = true) (found : ManualFlags.read path value = .ok flags) :
    flags.isShort = true := by
  unfold ManualFlags.read at found
  split at found
  · next fields =>
    simp only [seq_eq_ok_iff, map_eq_ok_iff] at found
    obtain ⟨-, notes, ⟨-, verification, ⟨-, age, ⟨karma, karmaRead, rfl⟩, ageRead, rfl⟩, -, rfl⟩,
      -, rfl⟩ := found
    have shortKarma := all_of_optional path fields _ readInteger Decimal.isShort karma storable
      isShort_of_readStorable karmaRead
    have shortAge := all_of_optional path fields _ readInteger Decimal.isShort age storable
      isShort_of_readStorable ageRead
    simp only [isShort, shortKarma, shortAge, Bool.and_self]
  · cases found

/-- Corrections that are read from a value that can be written can be written. -/
theorem Override.isShort_of_read (path : Path) (value : Json) (o : Override)
    (storable : value.isStorable = true) (found : Override.read path value = .ok o) :
    o.isShort = true := by
  unfold Override.read at found
  split at found
  · next fields =>
    simp only [seq_eq_ok_iff, map_eq_ok_iff] at found
    obtain ⟨-, notes, ⟨-, flags, ⟨-, body, ⟨-, title, ⟨-, tags, ⟨-, flair, ⟨-, policy,
      ⟨-, bodyRegexes, ⟨-, titleRegexes, ⟨words, -, rfl⟩, -, rfl⟩, -, rfl⟩, -, rfl⟩, -, rfl⟩,
      -, rfl⟩, titleRead, rfl⟩, bodyRead, rfl⟩, flagsRead, rfl⟩, -, rfl⟩ := found
    have shortTitle := all_of_optional path fields _ readInteger Decimal.isShort title storable
      isShort_of_readStorable titleRead
    have shortBody := all_of_optional path fields _ readInteger Decimal.isShort body storable
      isShort_of_readStorable bodyRead
    have shortFlags := all_of_optional path fields _ ManualFlags.read ManualFlags.isShort flags
      storable ManualFlags.isShort_of_read flagsRead
    simp only [isShort, shortTitle, shortBody, shortFlags, Bool.and_self]
  · cases found

/-- The corrections of a document that can be written can be written again. -/
theorem RuleSpec.overrides_isShort_of_read (document : Json) (spec : RuleSpec)
    (storable : document.isStorable = true) (found : RuleSpec.read document = .ok spec) :
    (spec.overrides.getD {}).isShort = true := by
  obtain ⟨fields, plain, read, rfl, origin⟩ := RuleSpec.exists_fields_of_read document spec found
  have fieldsStorable : Json.fieldsStorable fields = true := by
    rcases origin with rfl | rfl
    · exact storable
    · rfl
  have stated := ((RuleSpec.readPlain_eq_ok_iff _ _ _).mp read).2.1
  have short := all_of_optional [] fields _ Override.read Override.isShort plain.overrides
    fieldsStorable Override.isShort_of_read stated
  rw [RuleSpec.overrides_reapply]
  cases known : plain.overrides with
  | none => rfl
  | some o => simpa [known] using short

/-- The first number that a list of statements states can be written, if every number can that
one of them states. -/
theorem isShort_of_findSome? (statements : List Statement) (read : Statement → Option Nat)
    (short : ∀ s number, read s = some number → Decimal.isShort (Int.ofNat number) = true) :
    ((statements.findSome? read).map Int.ofNat).all Decimal.isShort = true := by
  cases found : statements.findSome? read with
  | none => rfl
  | some number =>
    obtain ⟨s, -, here⟩ := List.exists_of_findSome?_eq_some found
    rw [Option.map_some, Option.all_some]
    exact short s number here

/-- A compiled limit on titles can be written. -/
theorem Rules.maxTitleLength_isShort (statements : List Statement) (wiki : String) :
    (Rules.compile statements wiki).maxTitleLength.all Decimal.isShort = true :=
  isShort_of_findSome? statements (fun s => maxTitleLength? s.description)
    fun _ number found => isShort_of_firstNumber? _ _ number found

/-- A compiled limit on bodies can be written. -/
theorem Rules.maxBodyLength_isShort (statements : List Statement) (wiki : String) :
    (Rules.compile statements wiki).maxBodyLength.all Decimal.isShort = true :=
  isShort_of_findSome? statements (fun s => maxBodyLength? s.description)
    fun _ number found => isShort_of_firstNumber? _ _ number found

/-- A compiled minimum of karma can be written. -/
theorem ManualFlags.minKarma_isShort (wiki : String) :
    (ManualFlags.ofWiki wiki).minKarma.all Decimal.isShort = true := by
  unfold ManualFlags.ofWiki
  split
  · rfl
  · cases found : minKarma? wiki with
    | none => rfl
    | some number =>
      rw [Option.map_some, Option.all_some]
      exact isShort_of_minKarma? wiki number found

/-- What is compiled can be written exactly when the age of an account can: lengths and karma
are numbers as they were read, and the age is one times the days of its unit. -/
theorem Rules.isShort_compile (statements : List Statement) (wiki : String) :
    (Rules.compile statements wiki).isShort =
      (Rules.compile statements wiki).manualFlags.minAccountAgeDays.all Decimal.isShort := by
  have karma : (Rules.compile statements wiki).manualFlags.minKarma.all Decimal.isShort = true :=
    ManualFlags.minKarma_isShort wiki
  simp only [isShort, ManualFlags.isShort, Rules.maxTitleLength_isShort,
    Rules.maxBodyLength_isShort, karma, Bool.true_and]

namespace Json

mutual

/-- A value that can be written can be shown. -/
theorem isSome_nestedText? (value : Json) (storable : value.isStorable = true) :
    (nestedText? value).isSome = true := by
  cases value with
  | int number =>
    have short : Decimal.isShort number = true := storable
    simp [nestedText?, short]
  | arr items => simpa [nestedText?] using isSome_nestedItems? items storable
  | obj fields => simpa [nestedText?] using isSome_nestedFields? fields storable
  | _ => rfl

/-- Items that can be written can be shown. -/
theorem isSome_nestedItems? (items : List Json) (storable : areStorable items = true) :
    (nestedItems? items).isSome = true := by
  cases items with
  | nil => rfl
  | cons item rest =>
    rw [areStorable, Bool.and_eq_true] at storable
    obtain ⟨text, shown⟩ := Option.isSome_iff_exists.mp (isSome_nestedText? item storable.1)
    obtain ⟨texts, others⟩ := Option.isSome_iff_exists.mp (isSome_nestedItems? rest storable.2)
    simp [nestedItems?, shown, others]

/-- Entries that can be written can be shown. -/
theorem isSome_nestedFields? (fields : List (String × Json))
    (storable : fieldsStorable fields = true) : (nestedFields? fields).isSome = true := by
  cases fields with
  | nil => rfl
  | cons field rest =>
    rw [fieldsStorable, Bool.and_eq_true] at storable
    obtain ⟨text, shown⟩ := Option.isSome_iff_exists.mp (isSome_nestedText? field.2 storable.1)
    obtain ⟨texts, others⟩ := Option.isSome_iff_exists.mp (isSome_nestedFields? rest storable.2)
    simp [nestedFields?, shown, others]

end

/-- A field of an object that can be written gives a text. -/
theorem exists_fieldText (fields : List (String × Json)) (key : String)
    (storable : fieldsStorable fields = true) : ∃ text, fieldText fields key = .ok text := by
  unfold fieldText
  split
  · exact ⟨_, rfl⟩
  · next value found =>
    split
    · exact ⟨_, rfl⟩
    · have written := isStorable_of_lookup? key fields value storable found
      have shown : (value.shown?).isSome = true := by
        cases value with
        | str text => rfl
        | _ => exact isSome_nestedText? _ written
      obtain ⟨text, same⟩ := Option.isSome_iff_exists.mp shown
      exact ⟨text, by rw [same]⟩

end Json

/-- Published rules as they come: objects whose numbers can be written. -/
def ArePublished (rules : List Json) : Prop :=
  ∀ rule ∈ rules, ∃ fields, rule = .obj fields ∧ Json.fieldsStorable fields = true

/-- A list of rules is read exactly when each of them is. -/
theorem exists_mapM_ofJson_iff (rules : List Json) :
    (∃ statements, rules.mapM Statement.ofJson = .ok statements) ↔
      ∀ rule ∈ rules, ∃ statement, Statement.ofJson rule = .ok statement := by
  induction rules with
  | nil => exact iff_of_true ⟨[], rfl⟩ fun rule member => absurd member List.not_mem_nil
  | cons rule rest inductionHypothesis =>
    rw [List.forall_mem_cons, ← inductionHypothesis, List.mapM_cons]
    constructor
    · rintro ⟨statements, read⟩
      cases first : Statement.ofJson rule with
      | error fault =>
        rw [first] at read
        cases read
      | ok statement =>
        cases others : rest.mapM Statement.ofJson with
        | error fault =>
          rw [first, others] at read
          cases read
        | ok remaining => exact ⟨⟨statement, rfl⟩, remaining, rfl⟩
    · rintro ⟨⟨statement, first⟩, remaining, others⟩
      exact ⟨statement :: remaining, by rw [first, others]; rfl⟩

/-- An object whose numbers can be written is read as a rule. -/
theorem exists_ofJson (fields : List (String × Json)) (storable : Json.fieldsStorable fields = true) :
    ∃ statement, Statement.ofJson (.obj fields) = .ok statement := by
  obtain ⟨name, named⟩ := Json.exists_fieldText fields "short_name" storable
  obtain ⟨description, described⟩ := Json.exists_fieldText fields "description" storable
  exact ⟨⟨name, description⟩, by rw [Statement.ofJson, named, described]; rfl⟩

/-- Rules that come as objects are read. -/
theorem exists_statements (rules : List Json) (published : ArePublished rules) :
    ∃ statements, rules.mapM Statement.ofJson = .ok statements := by
  refine (exists_mapM_ofJson_iff rules).mpr fun rule member => ?_
  obtain ⟨fields, rfl, storable⟩ := published rule member
  exact exists_ofJson fields storable

end Rulebook
