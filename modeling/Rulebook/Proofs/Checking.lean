import Rulebook.Proofs.Layers
import Rulebook.Proofs.Store
import Rulebook.Settings.Check

/-!
# What a check of the settings reports

The check asks something of eleven settings: that a number is positive or not negative, or that a
value is given at all. Anything may be asked whether it is given, but only numbers can be compared.
So the check lists what is wrong, in a fixed order, as long as it meets numbers where it compares,
and else it breaks off and lists nothing.

Defaults and variables of the environment are numbers there. It is the document that can hold anything
anywhere, a text for the number of a port for one. So the check gives a list exactly when the document
holds numbers for all settings that are compared, and whether the port is one of them depends on
whether the address of the database is put together from its parts.
-/

namespace Rulebook

/-- What a check may ask of a setting. -/
inductive Demand where
  | positive
  | notNegative
  | given
deriving DecidableEq

/-- Whether a value goes against a demand, if that can be told. -/
def Demand.refuses? : Demand → Json → Option Bool
  | .positive, value => value.number?.map (·.atMost (.int 0))
  | .notNegative, value => value.number?.map (·.less (.int 0))
  | .given, value => some !value.truthy

/-- What the check asks of a setting, and the words it has if it does not get it. -/
structure Requirement where
  setting : Setting
  demand : Demand
  complaint : String

/-- What is asked in any case. -/
def generalRequirements : List Requirement :=
  [⟨⟨"sync", ["batch_size"], none, (·.sync.batchSize)⟩, .positive,
      "sync.batch_size must be greater than 0"⟩,
    ⟨⟨"sync", ["batch_delay_sec"], none, (·.sync.batchDelay)⟩, .notNegative,
      "sync.batch_delay_sec must not be negative"⟩,
    ⟨⟨"sync", ["request_timeout_sec"], none, (·.sync.requestTimeout)⟩, .positive,
      "sync.request_timeout_sec must be greater than 0"⟩,
    ⟨⟨"sync", ["user_agent"], some ⟨"REDDIT_USER_AGENT", .filled⟩, (·.sync.userAgent)⟩, .given,
      "sync.user_agent must be set (Reddit rejects anonymous agents)"⟩,
    ⟨⟨"rate_limit", ["max_requests_per_minute"], none, (·.rate.maxRequestsPerMinute)⟩, .positive,
      "rate_limit.max_requests_per_minute must be greater than 0"⟩,
    ⟨⟨"gate", ["required_ok_previews"], none, (·.gate.requiredOkPreviews)⟩, .positive,
      "gate.required_ok_previews must be greater than 0"⟩,
    ⟨⟨"gate", ["window_days"], none, (·.gate.windowDays)⟩, .positive,
      "gate.window_days must be greater than 0"⟩]

/-- What is asked when the address of the database is put together from its parts. -/
def addressRequirements : List Requirement :=
  [⟨⟨"postgres", ["host"], some ⟨"PG_HOST", .text⟩, (·.database.host)⟩, .given,
      "PG_HOST must be specified when PostgreSQL is enabled"⟩,
    ⟨⟨"postgres", ["port"], some ⟨"PG_PORT", .integer⟩, (·.database.portNumber)⟩, .positive,
      "PG_PORT must be a positive integer"⟩,
    ⟨⟨"postgres", ["database", "dbname"], some ⟨"PG_DB", .text⟩, (·.database.database)⟩, .given,
      "PG_DB must be specified when PostgreSQL is enabled"⟩,
    ⟨⟨"postgres", ["user"], some ⟨"PG_USER", .text⟩, (·.database.user)⟩, .given,
      "PG_USER must be specified when PostgreSQL is enabled"⟩]

/-- What is asked of settings, in order. -/
def Settings.requirements (settings : Settings) : List Requirement :=
  generalRequirements ++
    if settings.database.enabled.truthy && !settings.database.url.truthy then addressRequirements
    else []

/-- Whether settings go against a requirement, if that can be told. -/
def Requirement.refuses? (requirement : Requirement) (settings : Settings) : Option Bool :=
  requirement.demand.refuses? (requirement.setting.value settings)

/-- The words for what is wrong with settings. -/
def Settings.complaints (settings : Settings) : List String :=
  (settings.requirements.filter (·.refuses? settings == some true)).map (·.complaint)

/-- The check of a single requirement. -/
def Requirement.check (requirement : Requirement) (settings : Settings) :
    Except Fault (List String) :=
  match requirement.demand with
  | .positive => checkPositive requirement.complaint (requirement.setting.value settings)
  | .notNegative => checkNotNegative requirement.complaint (requirement.setting.value settings)
  | .given => checkGiven requirement.complaint (requirement.setting.value settings)

/-- The check goes through the requirements in order. -/
theorem problems_eq_mapM (settings : Settings) :
    settings.problems =
      List.flatten <$> settings.requirements.mapM (·.check settings) := by
  unfold Settings.problems SyncSettings.problems RateSettings.problems GateSettings.problems
    DatabaseSettings.problems Settings.requirements generalRequirements addressRequirements
  by_cases composed : (settings.database.enabled.truthy && !settings.database.url.truthy) = true
  · simp [composed, Requirement.check]
  · simp [composed, Requirement.check]

/-- A requirement on which nothing can be told breaks the check off. -/
theorem Requirement.check_eq (requirement : Requirement) (settings : Settings) :
    requirement.check settings =
      match requirement.refuses? settings with
      | some refused => .ok (if refused then [requirement.complaint] else [])
      | none => .error .wrongType := by
  obtain ⟨setting, demand, complaint⟩ := requirement
  cases demand with
  | given =>
    simp only [check, refuses?, Demand.refuses?, checkGiven]
    cases (setting.value settings).truthy <;> rfl
  | positive | notNegative =>
    simp only [check, refuses?, Demand.refuses?, checkPositive, checkNotNegative, Json.number]
    cases (setting.value settings).number? <;> rfl

/-- Requirements that can all be told on give the list of the complaints, and others break off. -/
theorem mapM_check_eq (requirements : List Requirement) (settings : Settings) :
    List.flatten <$> requirements.mapM (·.check settings) =
      if requirements.all fun requirement => (requirement.refuses? settings).isSome then
        .ok ((requirements.filter (·.refuses? settings == some true)).map (·.complaint))
      else .error .wrongType := by
  induction requirements with
  | nil => rfl
  | cons first rest inductionHypothesis =>
    have further : List.flatten <$> (first :: rest).mapM (·.check settings) = (do
        let here ← first.check settings
        (here ++ ·) <$> (List.flatten <$> rest.mapM (·.check settings))) := by
      simp [List.mapM_cons]
    rw [further, inductionHypothesis, first.check_eq settings, List.all_cons]
    cases told : first.refuses? settings with
    | none => rfl
    | some refused =>
      cases rest.all fun requirement => (requirement.refuses? settings).isSome with
      | false => rfl
      | true => cases refused <;> simp [told, bind, Except.bind, Functor.map, Except.map]

/-- Settings are checked to the end when something can be told on every requirement. -/
theorem problems_eq (settings : Settings) :
    settings.problems =
      if settings.requirements.all fun requirement => (requirement.refuses? settings).isSome then
        .ok settings.complaints
      else .error .wrongType :=
  (problems_eq_mapM settings).trans (mapM_check_eq settings.requirements settings)

/-- Something can be told on a value unless it is compared and is no number. -/
theorem Demand.isSome_refuses? (demand : Demand) (value : Json) :
    (demand.refuses? value).isSome ↔ (demand ≠ .given → value.number?.isSome) := by
  cases demand <;> simp [refuses?]

/-- The requirements are on settings of the table. -/
theorem setting_mem_table (requirement : Requirement)
    (listed : requirement ∈ generalRequirements ++ addressRequirements) :
    requirement.setting ∈ settingTable := by
  simp only [generalRequirements, addressRequirements, List.cons_append, List.nil_append,
    List.mem_cons, List.not_mem_nil, or_false] at listed
  rcases listed with rfl | rfl | rfl | rfl | rfl | rfl | rfl | rfl | rfl | rfl | rfl <;>
    simp [settingTable]

/-- A variable for an integer gives a number or is refused. -/
theorem Environment.isSome_of_integerOr (environment : Environment) (name : String)
    (default value : Json) (isNumber : default.number?.isSome)
    (given : environment.integerOr name default = .ok value) : value.number?.isSome := by
  unfold integerOr at given
  split at given
  · split at given
    · obtain rfl := Except.ok.inj given
      rfl
    · cases given
  · obtain rfl := Except.ok.inj given
    exact isNumber

/-- What is compared is a number as long as only defaults and the environment have a say. -/
theorem isSome_of_ofEnvironment (environment : Environment) (below : Settings)
    (given : Settings.ofEnvironment environment = .ok below) (requirement : Requirement)
    (listed : requirement ∈ generalRequirements ++ addressRequirements)
    (compared : requirement.demand ≠ .given) :
    (requirement.setting.value below).number?.isSome := by
  obtain ⟨database, fromVariables, same⟩ := (bind_eq_ok_iff _ _ _).mp given
  obtain rfl := Except.ok.inj same
  obtain ⟨portNumber, read, same⟩ := (bind_eq_ok_iff _ _ _).mp fromVariables
  obtain rfl := Except.ok.inj same
  have isNumber := environment.isSome_of_integerOr "PG_PORT" _ portNumber rfl read
  have ofInt (value : Int) : (Json.int value).number?.isSome := rfl
  have ofFloat (value : Float) : (Json.float value).number?.isSome := rfl
  revert compared requirement
  simp [generalRequirements, addressRequirements, isNumber, ofInt, ofFloat]

/-- The fields of a document, of which one that is no mapping has none. -/
def documentFields : Json → List (String × Json)
  | .obj fields => fields
  | _ => []

/-- Settings that can be read are those of the environment, overridden by the document. -/
theorem exists_below_of_read (environment : Environment) (document : Json) (settings : Settings)
    (read : Settings.read environment document = .ok settings) :
    ∃ below, Settings.ofEnvironment environment = .ok below ∧
      settings = below.override (documentFields document) := by
  obtain ⟨below, given, rest⟩ := (bind_eq_ok_iff _ _ _).mp read
  have holds : Settings.HasFields document (documentFields document) := by
    cases document with
    | obj fields => exact .mapping fields
    | _ =>
      apply Settings.HasFields.empty
      rw [← Bool.not_eq_true]
      intro isTrue
      simp [isTrue, throw, throwThe, MonadExceptOf.throw] at rest
  rw [Settings.read_of_hasFields environment document _ holds below given] at read
  exact ⟨below, given, (Except.ok.inj read).symm⟩

/-- A document has numbers, if anything, where the check compares. -/
def Settings.HoldsNumbers (settings : Settings) (document : Json) : Prop :=
  ∀ requirement ∈ settings.requirements, requirement.demand ≠ .given →
    ∀ value, requirement.setting.held? (documentFields document) = some value →
      value.number?.isSome

/-- Something can be told on every requirement exactly when the document holds numbers. -/
theorem Settings.holdsNumbers_iff (environment : Environment) (document : Json)
    (settings : Settings) (read : Settings.read environment document = .ok settings) :
    (settings.requirements.all fun requirement => (requirement.refuses? settings).isSome) = true ↔
      settings.HoldsNumbers document := by
  obtain ⟨below, given, overridden⟩ := exists_below_of_read environment document settings read
  rw [List.all_eq_true]
  apply forall₂_congr
  intro requirement asked
  have listed : requirement ∈ generalRequirements ++ addressRequirements := by
    rcases List.mem_append.mp asked with general | address
    · exact List.mem_append_left _ general
    · split at address
      · exact List.mem_append_right _ address
      · cases address
  have value : requirement.setting.value settings =
      (requirement.setting.held? (documentFields document)).getD
        (requirement.setting.value below) := by
    rw [overridden]
    exact value_override below _ _ (setting_mem_table requirement listed)
  rw [Requirement.refuses?, Demand.isSome_refuses?, value]
  apply forall_congr'
  intro compared
  have isNumber := isSome_of_ofEnvironment environment below given requirement listed compared
  cases requirement.setting.held? (documentFields document) with
  | none => simp [isNumber]
  | some held => simp

/-- A check gives a list of what is wrong exactly when the document of the settings holds numbers
where the check compares.

Take any environment and any document from which the settings can be read. If there is something
else than a number in the document for one of the compared settings, the check breaks off, always
with the same fault; the number of the port is compared unless the database is not in use or has an
address of its own. Otherwise the check lists the words of the requirements that are not met, in
their order and without any others. -/
theorem Settings.check_reports_iff (environment : Environment) (document : Json)
    (settings : Settings) (read : Settings.read environment document = .ok settings) :
    ((∃ texts, settings.problems = .ok texts) ↔ settings.HoldsNumbers document) ∧
      (∀ texts, settings.problems = .ok texts → texts = settings.complaints) ∧
      ∀ fault, settings.problems = .error fault → fault = .wrongType := by
  rw [← Settings.holdsNumbers_iff environment document settings read, problems_eq]
  split
  · next decided => simp [decided, eq_comm]
  · next undecided => simp [undecided, eq_comm]

/-- A document with an empty batch, no agent, and a text for the number of a port that is not used,
for the address of the database is given. -/
def flawedDocument : Json :=
  .obj [("sync", .obj [("batch_size", .int 0), ("batch_delay_sec", .bool true),
      ("request_timeout_sec", .int 3), ("user_agent", .null)]),
    ("postgres", .obj [("port", .str "5432"), ("url", .str "sqlite://")])]

/-- The batch and the agent are reported. -/
theorem Settings.flawed_document_is_reported :
    ∃ settings, Settings.read {} flawedDocument = .ok settings ∧
      settings.HoldsNumbers flawedDocument ∧
      settings.problems = .ok ["sync.batch_size must be greater than 0",
        "sync.user_agent must be set (Reddit rejects anonymous agents)"] := by
  obtain ⟨settings, read⟩ : ∃ settings, Settings.read {} flawedDocument = .ok settings := ⟨_, rfl⟩
  obtain ⟨reports, listed, -⟩ := check_reports_iff {} flawedDocument settings read
  have asked : settings.requirements = generalRequirements := by
    obtain rfl := Except.ok.inj read
    rfl
  have holds : settings.HoldsNumbers flawedDocument := by
    intro requirement general compared value held
    rw [asked] at general
    simp only [generalRequirements, List.mem_cons, List.not_mem_nil, or_false] at general
    rcases general with rfl | rfl | rfl | rfl | rfl | rfl | rfl
    case inr.inr.inr.inl => exact absurd rfl compared
    all_goals cases held <;> rfl
  obtain ⟨texts, checked⟩ := reports.mpr holds
  refine ⟨settings, read, holds, ?_⟩
  rw [checked, listed texts checked]
  obtain rfl := Except.ok.inj read
  rfl

/-- A document with a text for the number of the port. -/
def textualPort : Json := .obj [("postgres", .obj [("port", .str "5432")])]

/-- The text is not reported as a number that is not positive; the check breaks off. -/
theorem Settings.textual_port_breaks_off :
    ¬ ∀ (environment : Environment) (document : Json) (settings : Settings),
      Settings.read environment document = .ok settings →
        ∃ texts, settings.problems = .ok texts := by
  intro law
  obtain ⟨settings, read⟩ : ∃ settings, Settings.read {} textualPort = .ok settings := ⟨_, rfl⟩
  obtain ⟨texts, checked⟩ := law {} textualPort settings read
  obtain rfl : _ = settings := Except.ok.inj read
  rw [problems_eq, if_neg (by decide)] at checked
  cases checked

end Rulebook
