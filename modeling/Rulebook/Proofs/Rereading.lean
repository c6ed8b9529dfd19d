import Rulebook.Proofs.Sync

/-!
# Reading what was read before

A document may spell a field in several ways, leave it out or hold a null in it, and older
documents do. What is written after reading has one spelling for each field. Reading that
again gives the same specification: every time that is read has an offset that its text can
show, and corrections that were applied once change nothing when they are applied again.
-/

namespace Rulebook

open Document Calendar

/-- A moment that is read from a value of any kind can be shown. -/
theorem Document.isWritable_of_readMoment (path : Path) (value : Json) (m : Moment)
    (found : readMoment path value = .ok m) : m.IsWritable := by
  cases value with
  | str text =>
    simp only [readMoment] at found
    split at found
    · next read =>
      obtain rfl := Checked.ok.inj found
      exact Moment.isWritable_of_read? text _ read
    · cases found
  | int count =>
    simp only [readMoment] at found
    split at found
    · next read =>
      obtain rfl := Checked.ok.inj found
      exact Moment.isWritable_of_universal _ (offset_of_ofCount? count 0 _ read)
    · cases found
  | float count =>
    simp only [readMoment] at found
    split at found
    · next read =>
      obtain rfl := Checked.ok.inj found
      exact Moment.isWritable_of_universal _ (offset_of_ofFloatCount? count _ read)
    · cases found
  | _ => cases found

/-- A value of an optional field was read from somewhere. -/
theorem Document.exists_read_of_optional {α : Type} (path : Path) (fields : List (String × Json))
    (key : Key) (read : Reader α) (value : α)
    (found : Document.optional path fields key read = .ok (some value)) :
    ∃ place stored, read place stored = .ok value := by
  unfold Document.optional at found
  split at found
  · cases found
  · next name stored _ _ =>
    obtain ⟨inner, read, same⟩ := (map_eq_ok_iff some _ _).mp found
    obtain rfl := Option.some.inj same
    exact ⟨_, stored, read⟩
  · cases found

/-- The time of a provenance that is read can be shown. -/
theorem Provenance.isWritable_of_read (path : Path) (value : Json) (source : Provenance)
    (found : Provenance.read path value = .ok source) (fetchedAt : Moment)
    (known : source.fetchedAt = some fetchedAt) : fetchedAt.IsWritable := by
  unfold Provenance.read at found
  split at found
  · next fields =>
    simp only [seq_eq_ok_iff, map_eq_ok_iff] at found
    obtain ⟨-, base, ⟨-, wikiUrl, ⟨-, aboutUrl, ⟨fetched, fetchedRead, rfl⟩, -, rfl⟩, -, rfl⟩, -,
      rfl⟩ := found
    obtain rfl : fetched = some fetchedAt := known
    obtain ⟨place, stored, read⟩ := Document.exists_read_of_optional path fields _ _ _ fetchedRead
    exact Document.isWritable_of_readMoment place stored fetchedAt read
  · cases found

/-- A specification that is read can be written without loss. -/
theorem RuleSpec.isWritable_of_read (document : Json) (spec : RuleSpec)
    (found : RuleSpec.read document = .ok spec) : spec.IsWritable := by
  obtain ⟨fields, plain, read, rfl, -⟩ := RuleSpec.exists_fields_of_read document spec found
  have sourceRead := ((RuleSpec.readPlain_eq_ok_iff [] fields plain).mp read).2.2
  intro source fetchedAt sourced fetched
  rw [RuleSpec.source_reapply] at sourced
  rw [sourced] at sourceRead
  obtain ⟨place, stored, provenance⟩ :=
    Document.exists_read_of_optional [] fields _ _ _ sourceRead
  exact Provenance.isWritable_of_read place stored source provenance fetchedAt fetched

/-- Corrections that are in place stay as they are. -/
theorem RuleSpec.reapply_reapply (spec : RuleSpec) : spec.reapply.reapply = spec.reapply := by
  have rules : spec.reapply.reapply.rules = spec.reapply.rules := by
    rw [RuleSpec.rules_reapply spec.reapply, RuleSpec.overrides_reapply, RuleSpec.rules_reapply,
      Override.apply_apply]
  have overrides : spec.reapply.reapply.overrides = spec.reapply.overrides :=
    RuleSpec.overrides_reapply _
  have source : spec.reapply.reapply.source = spec.reapply.source := RuleSpec.source_reapply _
  generalize spec.reapply.reapply = twice at rules overrides source
  generalize spec.reapply = once at rules overrides source
  obtain ⟨_, _, _⟩ := once
  obtain ⟨_, _, _⟩ := twice
  simp_all

/-- Whatever the document that a specification was read from, the document it is written as
reads as the same specification: the same effective rules, corrections and source, the time of
fetching with its offset and its microseconds, and integers of any size. So writing it once
more gives the same document.

Reading has applied the corrections, and the document states the rules that resulted.
-/
theorem RuleSpec.read_document_of_read (document : Json) (spec : RuleSpec)
    (found : RuleSpec.read document = .ok spec) :
    RuleSpec.read spec.document = .ok spec ∧
      (RuleSpec.read spec.document).map RuleSpec.document = .ok spec.document := by
  have settled : spec.reapply = spec := by
    obtain ⟨_, plain, -, rfl, -⟩ := RuleSpec.exists_fields_of_read document spec found
    exact plain.reapply_reapply
  have back : RuleSpec.read spec.document = .ok spec := by
    rw [RuleSpec.read_document spec (RuleSpec.isWritable_of_read document spec found), settled]
  exact ⟨back, by rw [back, Checked.map_ok]⟩

/-- A document of older date: a key in its other spelling, a policy that is out of use, nulls,
a truth value and an integer as texts, a number beyond every machine word, corrections of the
policy and of flags with open fields, and a time with an offset and microseconds. -/
def legacyDocument : Json :=
  .obj [("banned_words", Json.strings ["spam"]), ("linkPolicy", .str "two-links"),
    ("titleRegexes", .null), ("flairRequired", .str "Yes"),
    ("maxTitleLength", .str " 120.0 "), ("maxBodyLength", .int (Decimal.tenTo 30)),
    ("overrides", .obj [("linkPolicy", .str "no-link"),
      ("manualFlags", .obj [("minKarma", .null), ("min_account_age_days", .int 90)])]),
    ("source", .obj [("fetchedAt", .str "2026-02-28 23:59:59.000123-05:30"),
      ("automatedBase", .null)])]

/-- The document reads, with its corrections and its time. -/
theorem legacyDocument_rereads :
    ∃ spec, RuleSpec.read legacyDocument = .ok spec ∧
      spec.rules.maxBodyLength = some (Decimal.tenTo 30 : Int) ∧ spec.rules.linkPolicy = .noLink ∧
      (spec.source.bind (·.fetchedAt)).map Moment.text =
        some "2026-02-28T23:59:59.000123-05:30" ∧
      RuleSpec.read spec.document = .ok spec := by
  obtain ⟨spec, found⟩ : ∃ spec, RuleSpec.read legacyDocument = .ok spec := ⟨_, rfl⟩
  refine ⟨spec, found, ?_, ?_, ?_, (RuleSpec.read_document_of_read legacyDocument spec found).1⟩
  all_goals obtain rfl := Checked.ok.inj found; decide +kernel

end Rulebook
