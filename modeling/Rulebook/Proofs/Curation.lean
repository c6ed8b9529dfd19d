import Rulebook.Proofs.Sync

/-!
# Curators at work between syncs

A stored document holds every rule field twice: as it was compiled, and as the last sync has
merged it with the corrections of that time. Reading applies the corrections of now, and it
applies them to the merged fields. So a correction that a curator has added or changed is seen
at once, and one that was taken back is seen until the next sync, unless it said what the
automated rules say.

The laws follow the specification that a sync has last put on file under each key. Syncs and
edits keep its rules and its source in the document; only the corrections move on.
-/

namespace Rulebook

open Document

/-- Those of earlier corrections whose fields are open now. -/
def Override.withdrawn (before now : Override) : Override where
  bannedWords := if now.bannedWords.isSome then none else before.bannedWords
  titleRegexes := if now.titleRegexes.isSome then none else before.titleRegexes
  bodyRegexes := if now.bodyRegexes.isSome then none else before.bodyRegexes
  linkPolicy := if now.linkPolicy.isSome then none else before.linkPolicy
  flairRequired := if now.flairRequired.isSome then none else before.flairRequired
  requiredTags := if now.requiredTags.isSome then none else before.requiredTags
  maxTitleLength := if now.maxTitleLength.isSome then none else before.maxTitleLength
  maxBodyLength := if now.maxBodyLength.isSome then none else before.maxBodyLength
  manualFlags := if now.manualFlags.isSome then none else before.manualFlags
  wikiNotes := if now.wikiNotes.isSome then none else before.wikiNotes

/-- Corrections over earlier ones amount to the corrections alone exactly when those of the
earlier ones that are open now say what the rules say. -/
theorem Override.apply_apply_eq_iff (now before : Override) (rules : Rules) :
    now.apply (before.apply rules) = now.apply rules ↔
      (before.withdrawn now).apply rules = rules := by
  have list {α : Type} (new old : Option α) (plain : α) :
      new.getD (old.getD plain) = new.getD plain ↔
        (if new.isSome then none else old).getD plain = plain := by
    cases new <;> simp
  have size {α : Type} (new old plain : Option α) :
      new.or (old.or plain) = new.or plain ↔
        (if new.isSome then none else old).or plain = plain := by
    cases new <;> simp
  obtain ⟨words, titles, bodies, policy, flair, tags, title, body, flags, notes⟩ := rules
  simp only [apply, withdrawn, Rules.mk.injEq, list, size]

namespace Database

/-- A curator's edit: the corrections of a stored document are replaced by others that can be
read. -/
def editOverrides (db : Database) (name : String) (corrections : Json) : Database :=
  match Override.read ["overrides"] corrections,
      Table.rowAt? RuleRow.community (Community.key name) db.rules.rows with
  | .ok _, some ⟨_, .obj fields⟩ =>
    let document := .obj (Json.put "overrides" corrections fields)
    if document.isStorable then (db.putDocument? (Community.key name) document).getD db else db
  | _, _ => db

end Database

/-- What happens to an engine: a sync, or an edit by a curator. -/
inductive Action where
  | sync (visit : Visit)
  | edit (name : String) (corrections : Json)

/-- An engine with what the last syncs have put on file, by key. -/
structure Curated where
  engine : Engine
  lastSynced : String → Option RuleSpec := fun _ => none

namespace Curated

/-- The specifications last put on file, after one more under a key. -/
def noted (lastSynced : String → Option RuleSpec) (key : String) :
    Option RuleSpec → String → Option RuleSpec
  | some spec, other => if other = key then some spec else lastSynced other
  | none, other => lastSynced other

/-- One action. -/
def step (state : Curated) : Action → Curated
  | .sync visit =>
    { engine := state.engine.visit visit
      lastSynced := noted state.lastSynced (Community.key (Community.key visit.name))
        ((state.engine.met visit).synced? visit.name) }
  | .edit name corrections =>
    { state with engine := { state.engine with
        db := state.engine.db.editOverrides name corrections } }

/-- A sync leaves the engine of its visit, and is noted. -/
theorem step_sync (state : Curated) (visit : Visit) :
    state.step (.sync visit) =
      ⟨state.engine.visit visit, noted state.lastSynced (Community.key (Community.key visit.name))
        ((state.engine.met visit).synced? visit.name)⟩ := rfl

/-- Several actions, one after another. -/
def run (state : Curated) (actions : List Action) : Curated := actions.foldl step state

/-- A run goes on from where its first action leads. -/
theorem run_cons (state : Curated) (first : Action) (rest : List Action) :
    state.run (first :: rest) = (state.step first).run rest := by
  rw [run, List.foldl_cons, run]

end Curated

/-- A stored document under the specification that a sync has put there: it states the rules
and the source of the specification, and some corrections. -/
structure StatedBy (spec : RuleSpec) (fields : List (String × Json)) : Prop where
  rules : Rules.readFields [] fields = .ok spec.rules
  source : Document.optional [] fields (.single "source") Provenance.read = .ok spec.source
  overrides : ∃ o, Document.optional [] fields (.single "overrides") Override.read = .ok (some o)

/-- What a sync can have put on file: automated rules, merged with corrections. -/
def IsSynced (spec : RuleSpec) : Prop :=
  ∃ automated overrides fetchedAt aboutUrl wikiUrl,
    spec = syncedSpec automated overrides fetchedAt aboutUrl wikiUrl

/-- Other fields are read as before when the corrections are replaced. -/
theorem Rules.readFields_put (path : Path) (fields : List (String × Json)) (value : Json) :
    Rules.readFields path (Json.put "overrides" value fields) = Rules.readFields path fields := by
  simp [readFields, withDefault_put, optional_put, bannedWordsKey, titleRegexesKey,
    bodyRegexesKey, linkPolicyKey, flairRequiredKey, requiredTagsKey, maxTitleLengthKey,
    maxBodyLengthKey, manualFlagsKey, wikiNotesKey]

/-- What a sync puts on file states itself. -/
theorem statedBy_document (spec : RuleSpec) (writable : spec.IsWritable)
    (corrected : spec.overrides.isSome = true) :
    ∃ fields, spec.document = .obj fields ∧ StatedBy spec fields := by
  obtain ⟨o, known⟩ := Option.isSome_iff_exists.mp corrected
  obtain ⟨rules, overrides, source⟩ :=
    (RuleSpec.readPlain_eq_ok_iff [] _ spec).mp (RuleSpec.readPlain_document [] spec writable)
  exact ⟨_, rfl, rules, source, o, known ▸ overrides⟩

/-- A document whose corrections are replaced states the same otherwise. -/
theorem StatedBy.put {spec : RuleSpec} {fields : List (String × Json)}
    (stated : StatedBy spec fields) (corrections : Json) (o : Override)
    (read : Override.read ["overrides"] corrections = .ok o) :
    StatedBy spec (Json.put "overrides" corrections fields) := by
  constructor
  · rw [Rules.readFields_put]
    exact stated.rules
  · rw [optional_put [] fields (.single "source") _ "overrides" corrections (by decide) (by decide)]
    exact stated.source
  · refine ⟨o, ?_⟩
    unfold Document.optional Key.find?
    simp only [Key.single, Json.lookup?_put_self]
    cases corrections with
    | obj inner =>
      show Checked.map some (Override.read ["overrides"] (.obj inner)) = _
      rw [read]
      rfl
    | _ => cases read

/-- A document reads as the specification that it states, with its own corrections applied. -/
theorem StatedBy.read {spec : RuleSpec} {fields : List (String × Json)}
    (stated : StatedBy spec fields) (o : Override)
    (corrections : Document.optional [] fields (.single "overrides") Override.read =
      .ok (some o)) :
    RuleSpec.read (.obj fields) =
      .ok ({ spec with overrides := some o } : RuleSpec).reapply := by
  have plain := (RuleSpec.readPlain_eq_ok_iff [] fields
    { spec with overrides := some o }).mpr ⟨stated.rules, corrections, stated.source⟩
  rw [RuleSpec.read_obj, plain, Checked.map_ok]

/-- An edit leaves the database as it was, or replaces the corrections of one document. -/
theorem Database.editOverrides_cases (db : Database) (name : String) (corrections : Json) :
    db.editOverrides name corrections = db ∨
      ∃ o community fields, Override.read ["overrides"] corrections = .ok o ∧
        Table.rowAt? RuleRow.community (Community.key name) db.rules.rows =
          some ⟨community, .obj fields⟩ ∧
        db.editOverrides name corrections = { db with rules := { db.rules with
          rows := Table.putRow RuleRow.community
            ⟨Community.key name, .obj (Json.put "overrides" corrections fields)⟩
            db.rules.rows } } := by
  unfold editOverrides
  split
  · next o community fields read found =>
    dsimp only
    split
    · cases written : db.putDocument? (Community.key name)
          (.obj (Json.put "overrides" corrections fields)) with
      | none => exact Or.inl rfl
      | some after =>
        obtain ⟨rules, wrote, rfl⟩ := Option.map_eq_some_iff.mp written
        obtain ⟨-, -, rfl⟩ := (write?_eq_some_iff _ _ _).mp wrote
        exact Or.inr ⟨o, community, fields, read, found, rfl⟩
    · exact Or.inl rfl
  · exact Or.inl rfl

namespace Curated

/-- A row on record: the last sync under its key has put a specification there, and the
document still states it. -/
structure OnRecord (state : Curated) (key : String) (row : RuleRow) : Prop where
  connected : state.engine.db.connected = true
  present : state.engine.db.rules.present = true
  stated : ∃ spec fields, state.lastSynced key = some spec ∧ IsSynced spec ∧
    row.document = .obj fields ∧ StatedBy spec fields

/-- Every row is on record. -/
def Faithful (state : Curated) : Prop :=
  ∀ key row, Table.rowAt? RuleRow.community key state.engine.db.rules.rows = some row →
    state.OnRecord key row

/-- A sync puts the row of its own key on record and leaves the others there. Nothing is
assumed of the replies: a sync that fails before it has stored anything changes no row. -/
theorem faithful_sync (state : Curated) (visit : Visit) (faithful : state.Faithful) :
    (state.step (.sync visit)).Faithful := by
  obtain ⟨connected, rules⟩ := state.engine.visit_rules visit
  rw [step_sync]
  generalize state.engine.visit visit = after at connected rules ⊢
  intro key row found
  cases synced : (state.engine.met visit).synced? visit.name with
  | none =>
    rw [synced] at rules
    rw [show after.db.rules.rows = state.engine.db.rules.rows by rw [rules]; rfl] at found
    obtain ⟨opened, present, stated⟩ := faithful key row found
    exact ⟨connected.trans opened, by rw [rules]; exact present, stated⟩
  | some spec =>
    rw [synced] at rules
    obtain ⟨automated, existing, aboutUrl, wikiUrl, -, read, same⟩ :=
      (state.engine.met visit).exists_of_synced? visit.name spec synced
    obtain ⟨opened, present⟩ := Database.open_of_getRules _ _ existing read
    have stillOpen : after.db.connected = true := connected.trans opened
    have stillPresent : after.db.rules.present = true := by
      rw [rules]
      exact present
    rw [rules] at found
    have placed := (Database.rowAt?_put _ key spec.document state.engine.db.rules.rows).symm.trans found
    split at placed
    · next here =>
      obtain rfl := Option.some.inj placed
      have writable : spec.IsWritable := by
        rw [← same]
        exact syncedSpec_isWritable _ _ _ _ _ visit.shown
      obtain ⟨fields, shape, stated⟩ := statedBy_document spec writable (by rw [← same]; rfl)
      exact ⟨stillOpen, stillPresent, spec, fields, by simp [noted, here],
        ⟨automated, _, _, aboutUrl, wikiUrl, same.symm⟩, shape, stated⟩
    · next different =>
      obtain ⟨-, -, last, fields, recorded, rest⟩ := faithful key row placed
      refine ⟨stillOpen, stillPresent, last, fields, ?_, rest⟩
      simp [noted, different, recorded]

/-- An edit leaves every row on record. -/
theorem faithful_edit (state : Curated) (name : String) (corrections : Json)
    (faithful : state.Faithful) : (state.step (.edit name corrections)).Faithful := by
  intro key row found
  rcases state.engine.db.editOverrides_cases name corrections with
    same | ⟨o, community, fields, read, before, same⟩
  · simp only [step, same] at found ⊢
    obtain ⟨connected, present, stated⟩ := faithful key row found
    exact ⟨connected, present, stated⟩
  · simp only [step, same] at found ⊢
    obtain ⟨connected, present, spec, stated, last, synced, shape, states⟩ :=
      faithful (Community.key name) _ before
    obtain rfl := Json.obj.inj shape
    rw [Database.rowAt?_put] at found
    split at found
    · next edited =>
      obtain rfl := Option.some.inj found
      rw [← edited] at last
      exact ⟨connected, present, spec, _, last, synced, rfl, states.put corrections o read⟩
    · obtain ⟨_, _, other⟩ := faithful key row found
      exact ⟨connected, present, other⟩

/-- Every run keeps every row on record. -/
theorem faithful_run (state : Curated) (actions : List Action) (faithful : state.Faithful) :
    (state.run actions).Faithful := by
  induction actions generalizing state with
  | nil => exact faithful
  | cons action rest inductionHypothesis =>
    rw [run_cons]
    cases action with
    | sync visit => exact inductionHypothesis _ (faithful_sync state visit faithful)
    | edit name corrections =>
      exact inductionHypothesis _ (faithful_edit state name corrections faithful)

/-- A row on record is read with the corrections of now over the rules that the last sync has
merged. -/
theorem OnRecord.read {state : Curated} {name : String} {row : RuleRow}
    (onRecord : state.OnRecord (Community.key name) row)
    (found : Table.rowAt? RuleRow.community (Community.key name) state.engine.db.rules.rows =
      some row) :
    ∃ spec last source merged current,
      state.engine.db.getRules name = .ok (some spec) ∧
      state.lastSynced (Community.key name) = some last ∧ last.overrides = some merged ∧
      spec.source = some source ∧ spec.overrides = some current ∧
      spec.rules = current.apply (merged.apply source.automatedBase) := by
  obtain ⟨connected, present, last, fields, noted, synced, shape, stated⟩ := onRecord
  obtain ⟨current, corrections⟩ := stated.overrides
  have read := stated.read current corrections
  rw [← shape] at read
  have notNull : row.document.isNull = false := by
    rw [shape]
    rfl
  obtain ⟨automated, overrides, fetchedAt, aboutUrl, wikiUrl, rfl⟩ := synced
  generalize whole : ({ syncedSpec automated overrides fetchedAt aboutUrl wikiUrl with
    overrides := some current } : RuleSpec) = shown at read
  have readBack : state.engine.db.getRules name = .ok (some shown.reapply) := by
    rw [Database.getRules_eq _ _ connected present, found]
    simp only [notNull, read]
    rfl
  refine ⟨shown.reapply, _, ⟨some fetchedAt, some aboutUrl, some wikiUrl, automated⟩,
    overrides.getD {}, current, readBack, noted, rfl, ?_, ?_, ?_⟩
  · rw [RuleSpec.source_reapply, ← whole]
    rfl
  · rw [RuleSpec.overrides_reapply, ← whole]
  · rw [RuleSpec.rules_reapply, ← whole]
    rfl

/-- From an engine without rules on file, by any run of syncs and edits: what is read for a
community with a document are the automated rules with the corrections of now exactly when the
corrections that the last sync has merged, as far as they were taken back since, say what the
automated rules say.

Every run keeps every row on record, so the document states the rules that the last sync has
merged; reading applies the corrections of now to these and not to the automated rules.
-/
theorem rules_eq_apply_base_iff (engine : Engine) (actions : List Action) (name : String)
    (row : RuleRow) (empty : engine.db.rules.rows = [])
    (found : Table.rowAt? RuleRow.community (Community.key name)
      (run ⟨engine, fun _ => none⟩ actions).engine.db.rules.rows = some row) :
    ∃ spec last source merged current,
      (run ⟨engine, fun _ => none⟩ actions).engine.db.getRules name = .ok (some spec) ∧
      (run ⟨engine, fun _ => none⟩ actions).lastSynced (Community.key name) = some last ∧
      last.overrides = some merged ∧ spec.source = some source ∧ spec.overrides = some current ∧
      (spec.rules = current.apply source.automatedBase ↔
        (merged.withdrawn current).apply source.automatedBase = source.automatedBase) := by
  have initial : Faithful ⟨engine, fun _ => none⟩ := by
    intro key row here
    rw [empty] at here
    cases here
  have onRecord := faithful_run _ actions initial (Community.key name) row found
  obtain ⟨spec, last, source, merged, current, read, noted, wasMerged, sourced, corrected, rules⟩ :=
    onRecord.read found
  refine ⟨spec, last, source, merged, current, read, noted, wasMerged, sourced, corrected, ?_⟩
  rw [rules]
  exact Override.apply_apply_eq_iff current merged source.automatedBase

/-- An engine with nothing on file. -/
def vacant : Engine where
  traffic := offlineVisit.traffic
  now := offlineVisit.now

/-- A correction that is merged by a sync and taken back afterwards. -/
def withdrawal : List Action :=
  [.sync offlineVisit, .edit "cats" (.obj [("bannedWords", Json.strings ["spam"])]),
    .sync offlineVisit, .edit "cats" (.obj [])]

/-- The document is there to be read after the correction was taken back. -/
theorem withdrawal_is_on_file :
    vacant.db.rules.rows = [] ∧
      ∃ row, Table.rowAt? RuleRow.community (Community.key "cats")
          (run ⟨vacant, fun _ => none⟩ withdrawal).engine.db.rules.rows = some row ∧
        ∃ spec last source merged current,
          (run ⟨vacant, fun _ => none⟩ withdrawal).engine.db.getRules "cats" = .ok (some spec) ∧
          (run ⟨vacant, fun _ => none⟩ withdrawal).lastSynced (Community.key "cats") = some last ∧
          last.overrides = some merged ∧ spec.source = some source ∧
          spec.overrides = some current ∧
          (spec.rules = current.apply source.automatedBase ↔
            (merged.withdrawn current).apply source.automatedBase = source.automatedBase) := by
  have there : (Table.rowAt? RuleRow.community (Community.key "cats")
      (run ⟨vacant, fun _ => none⟩ withdrawal).engine.db.rules.rows).isSome = true := by
    decide +kernel
  obtain ⟨row, found⟩ := Option.isSome_iff_exists.mp there
  exact ⟨rfl, row, found, rules_eq_apply_base_iff vacant withdrawal "cats" row rfl found⟩

/-- A correction that was taken back is still read: the banned word stays although no
corrections are left and the automated rules have none. -/
theorem withdrawn_correction_is_read :
    ¬ ∀ (engine : Engine) (actions : List Action) (name : String) (spec : RuleSpec)
        (source : Provenance) (current : Override),
      engine.db.rules.rows = [] →
      (run ⟨engine, fun _ => none⟩ actions).engine.db.getRules name = .ok (some spec) →
      spec.source = some source → spec.overrides = some current →
      spec.rules = current.apply source.automatedBase := by
  intro law
  have observed : ((run ⟨vacant, fun _ => none⟩ withdrawal).engine.db.getRules "cats").toOption.join.any
      (fun spec => decide (spec.rules.bannedWords = ["spam"] ∧ spec.overrides = some {} ∧
        spec.source.map (·.automatedBase) = some {})) = true := by decide +kernel
  obtain ⟨spec, found, seen⟩ := (Option.any_eq_true _ _).mp observed
  obtain ⟨words, corrections, base⟩ := of_decide_eq_true seen
  obtain ⟨source, sourced, automated⟩ := Option.map_eq_some_iff.mp base
  have read : (run ⟨vacant, fun _ => none⟩ withdrawal).engine.db.getRules "cats" =
      .ok (some spec) := by
    cases outcome : (run ⟨vacant, fun _ => none⟩ withdrawal).engine.db.getRules "cats" with
    | error failure =>
      rw [outcome] at found
      cases found
    | ok answer =>
      rw [outcome] at found
      exact congrArg Except.ok (Option.some.inj (Option.join_eq_some_iff.mp found))
  have required := law vacant withdrawal "cats" spec source {} rfl read sourced corrections
  rw [required, automated] at words
  exact absurd words (by decide)

end Curated

end Rulebook
