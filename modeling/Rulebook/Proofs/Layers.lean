import Rulebook.Settings.Reader

/-!
# Layers of settings

Each setting has a place in the document, and some have a variable. The value of a setting is the
one at its place, else the one its variable gives, else the default, and nothing else has a say in
it. Of a variable that is set twice the one of the process counts, also if it is empty, for a
variable that is empty is set; only where a setting has no use for an empty text does it pass on to
the default.

The table below lists the settings. That the law holds for all of its lines says how the settings
come about as a whole, since settings that agree on all of these lines are the same. So what the
document has at other places has no effect, and neither has a section that is no mapping, in which
there are no places.
-/

namespace Rulebook

/-- What the text of a variable stands for. -/
inductive VariableKind where
  | text
  /-- A text that must not be empty. -/
  | filled
  | integer
  | switch

/-- The value that a text stands for. -/
def VariableKind.read? : VariableKind → String → Option Json
  | .text, value => some (.str value)
  | .filled, value => if value = "" then none else some (.str value)
  | .integer, value => (Decimal.readInt? value).map .int
  | .switch, value => some (.bool (Text.lowered value == "true"))

/-- A variable that a setting is taken from. -/
structure EnvironmentVariable where
  name : String
  kind : VariableKind

/-- The value that a variable gives. The process sets it, or else the last line of the file that
does. -/
def EnvironmentVariable.value? (source : EnvironmentVariable) (environment : Environment) :
    Option Json :=
  ((environment.process.lookup source.name).or
    (environment.file.reverse.lookup source.name)).bind source.kind.read?

/-- A setting: the section that it belongs to, unless it stands outside of all sections, its keys,
of which the first that is there counts, and its variable if it has one. -/
structure Setting where
  group : Option String
  keys : List String
  source : Option EnvironmentVariable
  value : Settings → Json

namespace Setting

variable (setting : Setting) (document : List (String × Json)) (environment : Environment)

/-- The fields of a document among which the setting is looked for. -/
def fields : List (String × Json) :=
  match setting.group with
  | some group => sectionFields group document
  | none => document

/-- The value that a document holds for the setting. -/
def held? : Option Json := setting.keys.findSome? (Json.lookup? · (setting.fields document))

/-- The value that the environment gives to the setting. -/
def given? : Option Json := setting.source.bind (·.value? environment)

/-- The default of the setting. -/
def default : Json := setting.value {}

/-- The value of the topmost layer that has one. -/
def layered : Json :=
  ((setting.held? document).or (setting.given? environment)).getD setting.default

end Setting

/-- All settings. -/
def settingTable : List Setting :=
  [⟨none, ["log_level"], none, (·.logLevel)⟩,
    ⟨none, ["log_file"], none, (·.logFile)⟩,
    ⟨"sync", ["base_url"], none, (·.sync.baseUrl)⟩,
    ⟨"sync", ["user_agent"], some ⟨"REDDIT_USER_AGENT", .filled⟩, (·.sync.userAgent)⟩,
    ⟨"sync", ["request_timeout_sec"], none, (·.sync.requestTimeout)⟩,
    ⟨"sync", ["batch_size"], none, (·.sync.batchSize)⟩,
    ⟨"sync", ["batch_delay_sec"], none, (·.sync.batchDelay)⟩,
    ⟨"rate_limit", ["max_requests_per_minute"], none, (·.rate.maxRequestsPerMinute)⟩,
    ⟨"rate_limit", ["min_remaining_calls"], none, (·.rate.minRemainingCalls)⟩,
    ⟨"rate_limit", ["sleep_buffer_sec"], none, (·.rate.sleepBuffer)⟩,
    ⟨"gate", ["required_ok_previews"], none, (·.gate.requiredOkPreviews)⟩,
    ⟨"gate", ["window_days"], none, (·.gate.windowDays)⟩,
    ⟨"monitoring", ["enable_prometheus"], none, (·.monitoring.enabled)⟩,
    ⟨"monitoring", ["prometheus_port"], none, (·.monitoring.portNumber)⟩,
    ⟨"postgres", ["host"], some ⟨"PG_HOST", .text⟩, (·.database.host)⟩,
    ⟨"postgres", ["port"], some ⟨"PG_PORT", .integer⟩, (·.database.portNumber)⟩,
    ⟨"postgres", ["database", "dbname"], some ⟨"PG_DB", .text⟩, (·.database.database)⟩,
    ⟨"postgres", ["user"], some ⟨"PG_USER", .text⟩, (·.database.user)⟩,
    ⟨"postgres", ["password"], some ⟨"PG_PASSWORD", .text⟩, (·.database.password)⟩,
    ⟨"postgres", ["enabled"], some ⟨"USE_POSTGRES", .switch⟩, (·.database.enabled)⟩,
    ⟨"postgres", ["url"], some ⟨"DATABASE_URL", .filled⟩, (·.database.url)⟩,
    ⟨"postgres", ["pool_size"], none, (·.database.poolSize)⟩,
    ⟨"postgres", ["max_overflow"], none, (·.database.maxOverflow)⟩]

/-- Settings that agree throughout the table are the same. -/
theorem Settings.eq_of_table (settings other : Settings)
    (same : ∀ setting ∈ settingTable, setting.value settings = setting.value other) :
    settings = other := by
  obtain ⟨_, _, ⟨⟩, ⟨⟩, ⟨⟩, ⟨⟩, ⟨⟩⟩ := settings
  obtain ⟨_, _, ⟨⟩, ⟨⟩, ⟨⟩, ⟨⟩, ⟨⟩⟩ := other
  simpa [settingTable, and_assoc] using same

/-- What is held decides over what is below as one look after the other does, from the last key to
the first. -/
theorem Setting.getD_held? (setting : Setting) (document : List (String × Json)) (below : Json) :
    (setting.held? document).getD below =
      setting.keys.foldr
        (fun key below => settingOr key below (setting.fields document)) below := by
  unfold held?
  induction setting.keys with
  | nil => rfl
  | cons key rest inductionHypothesis =>
    rw [List.foldr_cons, ← inductionHypothesis, settingOr, List.findSome?_cons]
    cases Json.lookup? key (setting.fields document) <;> rfl

/-- A document overrides the settings that it holds, and no others. -/
theorem Settings.value_override (settings : Settings) (document : List (String × Json)) :
    ∀ setting ∈ settingTable, setting.value (settings.override document) =
      (setting.held? document).getD (setting.value settings) := by
  simp only [Setting.getD_held?, settingTable, List.forall_mem_cons, List.not_mem_nil,
    false_implies, implies_true, and_true]
  and_intros <;> rfl

namespace Environment

variable (environment : Environment) (name : String) (default : Json)

/-- A variable gives what its text stands for. -/
theorem value?_eq (kind : VariableKind) : EnvironmentVariable.value? ⟨name, kind⟩ environment =
    (environment.get? name).bind kind.read? := by
  unfold EnvironmentVariable.value? get?
  cases environment.process.lookup name <;> rfl

/-- A text is what its variable gives, or else the default. -/
theorem textOr_eq : environment.textOr name default =
    (EnvironmentVariable.value? ⟨name, .text⟩ environment).getD default := by
  rw [value?_eq, textOr]
  cases environment.get? name <;> rfl

/-- Likewise for a text that must not be empty. -/
theorem filledOr_eq : environment.filledOr name default =
    (EnvironmentVariable.value? ⟨name, .filled⟩ environment).getD default := by
  rw [value?_eq, filledOr]
  cases environment.get? name with
  | none => rfl
  | some text => by_cases empty : text = "" <;> simp [VariableKind.read?, empty]

/-- Likewise for a switch. -/
theorem switchOr_eq : environment.switchOr name default =
    (EnvironmentVariable.value? ⟨name, .switch⟩ environment).getD default := by
  rw [value?_eq, switchOr]
  cases environment.get? name <;> rfl

/-- Likewise for an integer, unless its variable is set to something else. -/
theorem integerOr_eq
    (readable : ∀ text, environment.get? name = some text → (Decimal.readInt? text).isSome) :
    environment.integerOr name default =
      .ok ((EnvironmentVariable.value? ⟨name, .integer⟩ environment).getD default) := by
  rw [value?_eq, integerOr]
  cases given : environment.get? name with
  | none => rfl
  | some text =>
    obtain ⟨number, read⟩ := Option.isSome_iff_exists.mp (readable text given)
    simp [VariableKind.read?, read]

end Environment

/-- The environment gives the settings that have a variable with a value, and no others. -/
theorem Settings.value_ofEnvironment (environment : Environment)
    (readable : ∀ text, environment.get? "PG_PORT" = some text →
      (Decimal.readInt? text).isSome) :
    ∃ settings, Settings.ofEnvironment environment = .ok settings ∧
      ∀ setting ∈ settingTable,
        setting.value settings = (setting.given? environment).getD setting.default := by
  simp only [Settings.ofEnvironment, DatabaseSettings.ofEnvironment,
    Environment.integerOr_eq environment _ _ readable, Environment.textOr_eq,
    Environment.filledOr_eq, Environment.switchOr_eq]
  refine ⟨_, rfl, ?_⟩
  simp only [settingTable, List.forall_mem_cons, List.not_mem_nil, false_implies, implies_true,
    and_true]
  and_intros <;> rfl

namespace Settings

/-- A document of settings has the fields of a mapping, or none if it counts as false. -/
inductive HasFields : Json → List (String × Json) → Prop where
  | mapping (fields : List (String × Json)) : HasFields (.obj fields) fields
  | empty (document : Json) (nothing : document.truthy = false) : HasFields document []

/-- The settings are those of the environment, overridden by the document. -/
theorem read_of_hasFields (environment : Environment) (document : Json)
    (fields : List (String × Json)) (holds : HasFields document fields) (below : Settings)
    (given : ofEnvironment environment = .ok below) :
    Settings.read environment document = .ok (below.override fields) := by
  rw [Settings.read, given]
  cases holds with
  | mapping => rfl
  | empty _ nothing =>
    -- Nothing is overridden by no fields.
    cases document with
    | null => rfl
    | obj held =>
      cases held with
      | nil => rfl
      | cons => cases nothing
    | _ => exact if_neg (Bool.eq_false_iff.mp nothing)

/-- Settings come from three layers, and each setting is settled on its own.

Where the variable for the number of the port can be read and the document is a mapping, or is empty
or missing, the settings can be read. Each is the value held by the document, else the one given by
the environment, else the default. A document that holds the same for all settings gives the same
settings, whatever else is in it. And a setting for which a document holds the same has the same
value, whatever becomes of the others, in its own section or in another. -/
theorem layers_have_precedence (environment : Environment) (document : Json)
    (fields : List (String × Json)) (holds : HasFields document fields)
    (readable : ∀ text, environment.get? "PG_PORT" = some text →
      (Decimal.readInt? text).isSome) :
    ∃ settings, Settings.read environment document = .ok settings ∧
      (∀ setting ∈ settingTable, setting.value settings = setting.layered fields environment) ∧
      (∀ other others, HasFields other others →
        (∀ setting ∈ settingTable, setting.held? others = setting.held? fields) →
          Settings.read environment other = .ok settings) ∧
      ∀ other others changed, HasFields other others →
        Settings.read environment other = .ok changed →
          ∀ setting ∈ settingTable, setting.held? others = setting.held? fields →
            setting.value changed = setting.value settings := by
  obtain ⟨below, given, values⟩ := value_ofEnvironment environment readable
  have layered (document : List (String × Json)) : ∀ setting ∈ settingTable,
      setting.value (below.override document) = setting.layered document environment := by
    intro setting listed
    rw [value_override below document setting listed, values setting listed, Setting.layered,
      Option.getD_or]
  have sameValue (others : List (String × Json)) : ∀ setting ∈ settingTable,
      setting.held? others = setting.held? fields →
        setting.value (below.override others) = setting.value (below.override fields) := by
    intro setting listed alike
    rw [layered others setting listed, layered fields setting listed, Setting.layered,
      Setting.layered, alike]
  refine ⟨below.override fields, read_of_hasFields environment document fields holds below given,
    layered fields, ?_, ?_⟩
  · intro other others alsoHolds agree
    rw [read_of_hasFields environment other others alsoHolds below given]
    apply congrArg
    apply eq_of_table
    intro setting listed
    exact sameValue others setting listed (agree setting listed)
  · intro other others changed alsoHolds read setting listed alike
    rw [read_of_hasFields environment other others alsoHolds below given] at read
    obtain rfl := Except.ok.inj read
    exact sameValue others setting listed alike

/-- A file asks for a user, a port and an address, but the process sets the user and the address to
nothing. -/
def emptiedEnvironment : Environment where
  process := [("PG_USER", ""), ("DATABASE_URL", "")]
  file := [("PG_USER", "writer"), ("PG_PORT", " 6_000 "), ("DATABASE_URL", "sqlite://")]

/-- A document with a name for the database under its short key, a key without a meaning and a
section that is no mapping. -/
def partialDocument : List (String × Json) :=
  [("postgres", .obj [("dbname", .str "rules"), ("colour", .str "red")]), ("gate", .str "open")]

/-- The process has the user, the file the port, the document the name, and the rest are defaults;
neither the meaningless key nor the section that is no mapping changes anything. -/
theorem emptied_environment_is_layered :
    ∃ settings, Settings.read emptiedEnvironment (.obj partialDocument) = .ok settings ∧
      settings.database.user = .str "" ∧ settings.database.portNumber = .int 6000 ∧
      settings.database.database = .str "rules" ∧ settings.database.url = .null ∧
      settings.gate.windowDays = .int 14 ∧
      Settings.read emptiedEnvironment (.obj [("postgres", .obj [("dbname", .str "rules")])]) =
        .ok settings := by
  have readable : ∀ text, emptiedEnvironment.get? "PG_PORT" = some text →
      (Decimal.readInt? text).isSome := by
    intro text given
    obtain rfl := Option.some.inj given
    decide +kernel
  obtain ⟨settings, read, layered, agree, -⟩ := layers_have_precedence emptiedEnvironment
    (.obj partialDocument) partialDocument (.mapping _) readable
  refine ⟨settings, read, ?_, ?_, ?_, ?_, ?_, ?_⟩
  · exact layered settingTable[17] (List.getElem_mem _)
  · exact layered settingTable[15] (List.getElem_mem _)
  · exact layered settingTable[16] (List.getElem_mem _)
  · exact layered settingTable[20] (List.getElem_mem _)
  · exact layered settingTable[11] (List.getElem_mem _)
  · apply agree _ _ (.mapping _)
    simp only [settingTable, List.forall_mem_cons, List.not_mem_nil, false_implies, implies_true,
      and_true]
    and_intros <;> rfl

end Settings

end Rulebook
