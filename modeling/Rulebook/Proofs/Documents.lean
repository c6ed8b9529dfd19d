import Rulebook.Proofs.Moments
import Rulebook.Rules.Printer
import Rulebook.Rules.Reader

/-!
# Documents that read back

What is written as a document reads back as the same value, field by field. A field is
found under its public key, whether the document states every field or leaves out the open
ones; leaving a field out and writing a null read alike.

A reader of some fields does not see the others, so a field may be replaced under their
feet.
-/

namespace Rulebook

open Document

namespace Json

/-- Fields in front are found first. -/
@[simp] theorem lookup?_append (key : String) (front back : List (String × Json)) :
    lookup? key (front ++ back) = (lookup? key front).or (lookup? key back) := by
  unfold lookup?
  rw [List.find?_append]
  cases front.find? (·.1 == key) <;> simp

/-- A field in front is found under its own key only. -/
@[simp] theorem lookup?_cons (key name : String) (value : Json) (rest : List (String × Json)) :
    lookup? key ((name, value) :: rest) = if name = key then some value else lookup? key rest := by
  unfold lookup?
  rw [List.find?_cons]
  by_cases same : name = key
  · simp [same]
  · rw [beq_eq_false_iff_ne.mpr same, if_neg same]

/-- Nothing is found among no fields. -/
@[simp] theorem lookup?_nil (key : String) : lookup? key [] = none := rfl

end Json

/-- A field that is written only with a value is found only with one. -/
@[simp] theorem lookup?_sparse {α : Type} (key name : String) (encode : α → Json) (value : Option α) :
    Json.lookup? key (sparse name encode value) =
      if name = key then value.map encode else none := by
  cases value with
  | none => simp [sparse, Json.lookup?]
  | some value => simp [sparse, Json.lookup?_cons, Json.lookup?_nil]

namespace Document

variable {α : Type} (path : Path) (fields : List (String × Json)) (key : Key) (read : Reader α)
  (encode : α → Json)

/-- A value other than null is found under the public key. -/
theorem findSet?_of_lookup (value : Json) (stored : Json.lookup? key.main fields = some value)
    (stated : value ≠ .null) : key.findSet? fields = some (key.main, value) := by
  cases value <;> simp_all [Key.findSet?]

/-- A field that is always written reads back. -/
theorem withDefault_of_lookup (default value : α)
    (stored : Json.lookup? key.main fields = some (encode value)) (stated : encode value ≠ .null)
    (back : read (path ++ [key.main]) (encode value) = .ok value) :
    withDefault path fields key default read = .ok value := by
  rw [withDefault, findSet?_of_lookup fields key _ stored stated]
  exact back

/-- A field states an optional value: with a null for an open one, or by not being there in
either spelling. -/
def States (value : Option α) : Prop :=
  Json.lookup? key.main fields = some (Json.ofOption encode value) ∨
    Json.lookup? key.main fields = value.map encode ∧ Json.lookup? key.other fields = none

/-- A field that states an optional value reads back. -/
theorem optional_of_states (value : Option α) (stated : States fields key encode value)
    (present : ∀ inner, encode inner ≠ .null)
    (back : ∀ inner, value = some inner →
      read (path ++ [key.main]) (encode inner) = .ok inner) :
    optional path fields key read = .ok value := by
  unfold optional Key.find?
  cases value with
  | none =>
    rcases stated with null | ⟨missing, other⟩
    · rw [null]
      rfl
    · simp [missing, other]
  | some inner =>
    have stored : Json.lookup? key.main fields = some (encode inner) := by
      rcases stated with stored | ⟨stored, -⟩ <;> exact stored
    have reads := back inner rfl
    have notNull := present inner
    rw [stored]
    cases shape : encode inner <;> simp_all

/-- A replaced field is not seen under another key. -/
theorem withDefault_put (default : α) (name : String) (value : Json)
    (main : key.main ≠ name) (other : key.other ≠ name) :
    withDefault path (Json.put name value fields) key default read =
      withDefault path fields key default read := by
  unfold withDefault Key.findSet?
  simp only [Json.lookup?_put_of_ne name _ value fields main,
    Json.lookup?_put_of_ne name _ value fields other]

/-- A replaced field is not seen under another key that may be missing. -/
theorem optional_put (name : String) (value : Json)
    (main : key.main ≠ name) (other : key.other ≠ name) :
    optional path (Json.put name value fields) key read = optional path fields key read := by
  unfold optional Key.find?
  simp only [Json.lookup?_put_of_ne name _ value fields main,
    Json.lookup?_put_of_ne name _ value fields other]

end Document

/-- A function of a read value is read exactly when the value is. -/
theorem map_eq_ok_iff {α β : Type} (f : α → β) (value : Checked α) (result : β) :
    (f <$> value) = .ok result ↔ ∃ inner, value = .ok inner ∧ f inner = result := by
  cases value <;> simp [Functor.map, Checked.map]

/-- Two parts are read exactly when both are. -/
theorem seq_eq_ok_iff {α β : Type} (f : Checked (α → β)) (value : Checked α) (result : β) :
    (f <*> value) = .ok result ↔ ∃ g inner, f = .ok g ∧ value = .ok inner ∧ g inner = result :=
  Checked.app_eq_ok_iff f value result

/-- A list of texts reads back. -/
theorem readList_strings (path : Path) (items : List String) :
    readList readText path (Json.strings items) = .ok items := by
  have each : (items.map Json.str).mapIdx
      (fun index item => readText (path ++ [toString index]) item) = items.map .ok := by
    apply List.ext_getElem
    · simp
    · intro index inside outside
      simp [readText]
  rw [Json.strings, readList, each, Checked.all_map_ok]

/-- The manual flags read back from fields that state them. -/
theorem ManualFlags.read_of_states (path : Path) (fields : List (String × Json))
    (flags : ManualFlags)
    (karma : States fields ⟨"minKarma", "min_karma"⟩ .int flags.minKarma)
    (age : States fields ⟨"minAccountAgeDays", "min_account_age_days"⟩ .int
      flags.minAccountAgeDays)
    (verification : Json.lookup? "verificationRequired" fields =
      some (.bool flags.verificationRequired))
    (notes : Json.lookup? "notes" fields = some (Json.strings flags.notes)) :
    ManualFlags.read path (.obj fields) = .ok flags := by
  rw [ManualFlags.read,
    optional_of_states _ _ _ _ _ _ karma (by simp) (fun _ _ => rfl),
    optional_of_states _ _ _ _ _ _ age (by simp) (fun _ _ => rfl),
    withDefault_of_lookup _ _ _ _ Json.bool _ _ verification (by simp) rfl,
    withDefault_of_lookup _ _ (.single "notes") _ Json.strings _ _ notes (by simp [Json.strings])
      (readList_strings _ _)]
  rfl

/-- The manual flags read back. -/
theorem ManualFlags.read_document (path : Path) (flags : ManualFlags) :
    ManualFlags.read path flags.document = .ok flags :=
  read_of_states path _ flags (Or.inl rfl) (Or.inl rfl) rfl rfl

/-- The manual flags read back without their open fields, too. -/
theorem ManualFlags.read_sparseDocument (path : Path) (flags : ManualFlags) :
    ManualFlags.read path flags.sparseDocument = .ok flags := by
  apply read_of_states <;> simp [States]

/-- A link policy reads back from its name. -/
theorem LinkPolicy.readLenient_name (path : Path) (policy : LinkPolicy) :
    LinkPolicy.readLenient path (.str policy.name) = .ok policy := by
  rw [LinkPolicy.readLenient, LinkPolicy.ofName?_name, Option.getD_some]

/-- The public keys of a field list hold the ten fields of some rules; the flags may be written with
their open fields or without them. -/
structure Rules.WrittenIn (rules : Rules) (fields : List (String × Json)) : Prop where
  bannedWords : Json.lookup? "bannedWords" fields = some (Json.strings rules.bannedWords)
  titleRegexes : Json.lookup? "titleRegexes" fields = some (Json.strings rules.titleRegexes)
  bodyRegexes : Json.lookup? "bodyRegexes" fields = some (Json.strings rules.bodyRegexes)
  linkPolicy : Json.lookup? "linkPolicy" fields = some (.str rules.linkPolicy.name)
  flairRequired : Json.lookup? "flairRequired" fields = some (.bool rules.flairRequired)
  requiredTags : Json.lookup? "requiredTags" fields = some (Json.strings rules.requiredTags)
  maxTitleLength : Json.lookup? "maxTitleLength" fields =
    some (Json.ofOption .int rules.maxTitleLength)
  maxBodyLength : Json.lookup? "maxBodyLength" fields = some (Json.ofOption .int rules.maxBodyLength)
  manualFlags : Json.lookup? "manualFlags" fields = some rules.manualFlags.document ∨
    Json.lookup? "manualFlags" fields = some rules.manualFlags.sparseDocument
  wikiNotes : Json.lookup? "wikiNotes" fields = some (Json.strings rules.wikiNotes)

/-- The rule fields read back from fields that hold them. -/
theorem Rules.WrittenIn.read {rules : Rules} {fields : List (String × Json)}
    (written : rules.WrittenIn fields) (path : Path) :
    Rules.readFields path fields = .ok rules := by
  have words (key : Key) (items : List String)
      (stored : Json.lookup? key.main fields = some (Json.strings items)) :
      withDefault path fields key [] (readList readText) = .ok items :=
    withDefault_of_lookup _ _ key _ Json.strings [] items stored (by simp [Json.strings])
      (readList_strings _ items)
  have size (key : Key) (value : Option Int)
      (stored : Json.lookup? key.main fields = some (Json.ofOption .int value)) :
      optional path fields key readInteger = .ok value :=
    optional_of_states _ _ key _ Json.int value (Or.inl stored) (by simp) (fun _ _ => rfl)
  have policy : withDefault path fields linkPolicyKey .unknown LinkPolicy.readLenient =
      .ok rules.linkPolicy :=
    withDefault_of_lookup _ _ _ _ (fun policy => .str (LinkPolicy.name policy)) _ _
      written.linkPolicy (by simp) (LinkPolicy.readLenient_name _ _)
  have flair : withDefault path fields flairRequiredKey false readTruth = .ok rules.flairRequired :=
    withDefault_of_lookup _ _ _ _ Json.bool _ _ written.flairRequired (by simp) rfl
  have flags : withDefault path fields manualFlagsKey {} ManualFlags.read =
      .ok rules.manualFlags := by
    rcases written.manualFlags with full | sparse
    · exact withDefault_of_lookup _ _ _ _ ManualFlags.document _ _ full
        (by simp [ManualFlags.document]) (ManualFlags.read_document _ _)
    · exact withDefault_of_lookup _ _ _ _ ManualFlags.sparseDocument _ _ sparse
        (by simp [ManualFlags.sparseDocument]) (ManualFlags.read_sparseDocument _ _)
  rw [Rules.readFields, words bannedWordsKey _ written.bannedWords,
    words titleRegexesKey _ written.titleRegexes, words bodyRegexesKey _ written.bodyRegexes, policy,
    flair, words requiredTagsKey _ written.requiredTags,
    size maxTitleLengthKey _ written.maxTitleLength, size maxBodyLengthKey _ written.maxBodyLength,
    flags, words wikiNotesKey _ written.wikiNotes]
  rfl

/-- Rules are written in their own fields, whatever is written behind them. -/
theorem Rules.writtenIn_fields (rules : Rules) (rest : List (String × Json)) :
    rules.WrittenIn (rules.fields ++ rest) :=
  ⟨rfl, rfl, rfl, rfl, rfl, rfl, rfl, rfl, Or.inl rfl, rfl⟩

/-- The rule fields read back, whatever is written behind them. -/
theorem Rules.readFields_fields (path : Path) (rules : Rules) (rest : List (String × Json)) :
    Rules.readFields path (rules.fields ++ rest) = .ok rules :=
  (rules.writtenIn_fields rest).read path

/-- Rules of their own read back. -/
theorem Rules.read_document (path : Path) (rules : Rules) :
    Rules.read path rules.document = .ok rules := by
  have whole := Rules.readFields_fields path rules []
  rw [List.append_nil] at whole
  exact whole

open Rules in
/-- Corrections read back, the open ones as open. -/
theorem Override.read_document (path : Path) (o : Override) :
    Override.read path o.document = .ok o := by
  have words (fields : List (String × Json)) (key : Key) (items : Option (List String))
      (stated : States fields key Json.strings items) :
      optional path fields key (readList readText) = .ok items :=
    optional_of_states _ _ _ _ _ _ stated (by simp [Json.strings])
      (fun inner _ => readList_strings _ inner)
  have size (fields : List (String × Json)) (key : Key) (value : Option Int)
      (stated : States fields key .int value) : optional path fields key readInteger = .ok value :=
    optional_of_states _ _ _ _ _ _ stated (by simp) (fun _ _ => rfl)
  have policy (fields : List (String × Json))
      (stated : States fields linkPolicyKey (fun policy => .str (LinkPolicy.name policy))
        o.linkPolicy) :
      optional path fields linkPolicyKey (readChoice LinkPolicy.ofName?) = .ok o.linkPolicy :=
    optional_of_states _ _ _ _ _ _ stated (by simp)
      (fun inner _ => by rw [readChoice, LinkPolicy.ofName?_name])
  have flair (fields : List (String × Json))
      (stated : States fields flairRequiredKey .bool o.flairRequired) :
      optional path fields flairRequiredKey readTruth = .ok o.flairRequired :=
    optional_of_states _ _ _ _ _ _ stated (by simp) (fun _ _ => rfl)
  have flags (fields : List (String × Json))
      (stated : States fields manualFlagsKey ManualFlags.sparseDocument o.manualFlags) :
      optional path fields manualFlagsKey ManualFlags.read = .ok o.manualFlags :=
    optional_of_states _ _ _ _ _ _ stated (by simp [ManualFlags.sparseDocument])
      (fun inner _ => ManualFlags.read_sparseDocument _ inner)
  rw [Override.document, Override.read, words _ bannedWordsKey o.bannedWords,
    words _ titleRegexesKey o.titleRegexes, words _ bodyRegexesKey o.bodyRegexes, policy, flair,
    words _ requiredTagsKey o.requiredTags, size _ maxTitleLengthKey o.maxTitleLength,
    size _ maxBodyLengthKey o.maxBodyLength, flags, words _ wikiNotesKey o.wikiNotes]
  · rfl
  all_goals simp [States, bannedWordsKey, titleRegexesKey, bodyRegexesKey, linkPolicyKey,
    flairRequiredKey, requiredTagsKey, maxTitleLengthKey, maxBodyLengthKey, manualFlagsKey,
    wikiNotesKey]

/-- The provenance reads back, if its time does. -/
theorem Provenance.read_document (path : Path) (source : Provenance)
    (writable : ∀ fetchedAt, source.fetchedAt = some fetchedAt → fetchedAt.IsWritable) :
    Provenance.read path source.document = .ok source := by
  rw [Provenance.document, Provenance.read,
    optional_of_states _ _ _ _ (fun m => .str (Calendar.Moment.text m)) source.fetchedAt
      (Or.inl rfl) (by simp) (fun m known => by
        rw [readMoment, Calendar.Moment.read?_text m (writable m known)]),
    optional_of_states _ _ _ _ Json.str source.aboutRulesUrl (Or.inl rfl) (by simp)
      (fun _ _ => rfl),
    optional_of_states _ _ _ _ Json.str source.wikiRulesUrl (Or.inl rfl) (by simp)
      (fun _ _ => rfl),
    withDefault_of_lookup _ _ _ _ Rules.document _ source.automatedBase rfl
      (by simp [Rules.document]) (Rules.read_document _ _)]
  rfl

/-- A specification whose time of fetching can be shown. -/
def RuleSpec.IsWritable (spec : RuleSpec) : Prop :=
  ∀ source fetchedAt, spec.source = some source → source.fetchedAt = some fetchedAt →
    fetchedAt.IsWritable

/-- A specification reads back from its document. -/
theorem RuleSpec.readPlain_document (path : Path) (spec : RuleSpec) (writable : spec.IsWritable) :
    RuleSpec.readPlain path spec.document = .ok spec := by
  rw [RuleSpec.document, RuleSpec.readPlain, Rules.readFields_fields,
    optional_of_states _ _ (.single "overrides") _ Override.document spec.overrides (Or.inl rfl)
      (by simp [Override.document]) (fun o _ => Override.read_document _ o),
    optional_of_states _ _ (.single "source") _ Provenance.document spec.source (Or.inl rfl)
      (by simp [Provenance.document])
      (fun source known => Provenance.read_document _ source (writable source · known))]
  rfl

/-- Reading a stored specification applies its corrections to its own rules. -/
theorem RuleSpec.read_document (spec : RuleSpec) (writable : spec.IsWritable) :
    RuleSpec.read spec.document = .ok spec.reapply := by
  have stated : spec.document.truthy = true := rfl
  rw [RuleSpec.read, stated, if_pos rfl, RuleSpec.readPlain_document [] spec writable]
  rfl

/-- A specification is read exactly when its three parts are. -/
theorem RuleSpec.readPlain_eq_ok_iff (path : Path) (fields : List (String × Json))
    (spec : RuleSpec) :
    RuleSpec.readPlain path (.obj fields) = .ok spec ↔
      Rules.readFields path fields = .ok spec.rules ∧
        Document.optional path fields (.single "overrides") Override.read = .ok spec.overrides ∧
        Document.optional path fields (.single "source") Provenance.read = .ok spec.source := by
  rw [RuleSpec.readPlain]
  simp only [seq_eq_ok_iff, map_eq_ok_iff]
  constructor
  · rintro ⟨-, source, ⟨-, overrides, ⟨rules, readRules, rfl⟩, readOverrides, rfl⟩, readSource, rfl⟩
    exact ⟨readRules, readOverrides, readSource⟩
  · rintro ⟨readRules, readOverrides, readSource⟩
    exact ⟨_, _, ⟨_, _, ⟨_, readRules, rfl⟩, readOverrides, rfl⟩, readSource, rfl⟩

/-- Applying corrections again changes neither them nor the source. -/
@[simp] theorem RuleSpec.overrides_reapply (spec : RuleSpec) :
    spec.reapply.overrides = spec.overrides := by
  unfold reapply
  split
  · rfl
  · split <;> rfl

@[simp] theorem RuleSpec.source_reapply (spec : RuleSpec) : spec.reapply.source = spec.source := by
  unfold reapply
  split
  · rfl
  · split <;> rfl

/-- Corrections are applied to the specification's own rules. -/
theorem RuleSpec.rules_reapply (spec : RuleSpec) :
    spec.reapply.rules = (spec.overrides.getD {}).apply spec.rules := by
  unfold reapply
  cases known : spec.overrides with
  | none => simp
  | some o =>
    by_cases empty : o = {}
    · simp [Override.isEmpty, empty]
    · simp [Override.isEmpty, empty, RuleSpec.merge]

/-- An object is read as it is written, and then its corrections are applied again. -/
theorem RuleSpec.read_obj (fields : List (String × Json)) :
    RuleSpec.read (.obj fields) = (RuleSpec.readPlain [] (.obj fields)).map RuleSpec.reapply := by
  cases fields <;> rfl

/-- What is read is an object, or counts as false and reads as an empty one. -/
theorem RuleSpec.exists_fields_of_read (document : Json) (spec : RuleSpec)
    (found : RuleSpec.read document = .ok spec) :
    ∃ fields plain, RuleSpec.readPlain [] (.obj fields) = .ok plain ∧ plain.reapply = spec ∧
      (document = .obj fields ∨ fields = []) := by
  obtain ⟨plain, read, same⟩ := (map_eq_ok_iff RuleSpec.reapply _ _).mp found
  split at read
  · cases document with
    | obj fields => exact ⟨fields, plain, read, same, Or.inl rfl⟩
    | _ => cases read
  · exact ⟨[], plain, read, same, Or.inr rfl⟩

end Rulebook
