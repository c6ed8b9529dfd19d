import Mathlib.Logic.Relation
import Mathlib.Tactic.FinCases
import Rulebook.Proofs.Rereading

/-!
# Spellings of a document

Documents come from several hands. One states every field, another leaves the open ones out or
holds nulls in them; one spells keys the public way, another with underscores; and some hold keys
that nobody reads. Such differences are edits of a document. Each edit may happen at the top or
in any object inside, and any number of them may follow each other.

An edit changes what is given for a field only from null to nothing or back, or inside the object
that is given. Every reader of a field looks at what is given for it and not at its spelling or
its place, so an edited document reads as the same specification. This needs that no field is
given twice, for then the edits would decide which value counts.
-/

namespace Rulebook

open Document

/-- The objects that a stored document is made of. -/
inductive Part where
  | spec
  | rules
  | corrections
  | provenance
  | flags
deriving DecidableEq

/-- A field of an object, and which object it holds, if any. -/
structure Slot where
  key : Key
  part : Option Part := none
deriving DecidableEq

namespace Part

open Rules in
/-- The ten rule fields. -/
def ruleSlots : List Slot :=
  [⟨bannedWordsKey, none⟩, ⟨titleRegexesKey, none⟩, ⟨bodyRegexesKey, none⟩, ⟨linkPolicyKey, none⟩,
    ⟨flairRequiredKey, none⟩, ⟨requiredTagsKey, none⟩, ⟨maxTitleLengthKey, none⟩,
    ⟨maxBodyLengthKey, none⟩, ⟨manualFlagsKey, some .flags⟩, ⟨wikiNotesKey, none⟩]

/-- The fields that are read from an object. -/
def slots : Part → List Slot
  | .spec =>
    ruleSlots ++ [⟨.single "overrides", some .corrections⟩, ⟨.single "source", some .provenance⟩]
  | .rules => ruleSlots
  | .corrections => ruleSlots
  | .provenance =>
    [⟨⟨"fetchedAt", "fetched_at"⟩, none⟩, ⟨⟨"aboutRulesUrl", "about_rules_url"⟩, none⟩,
      ⟨⟨"wikiRulesUrl", "wiki_rules_url"⟩, none⟩,
      ⟨⟨"automatedBase", "automated_base"⟩, some .rules⟩]
  | .flags =>
    [⟨⟨"minKarma", "min_karma"⟩, none⟩, ⟨⟨"minAccountAgeDays", "min_account_age_days"⟩, none⟩,
      ⟨⟨"verificationRequired", "verification_required"⟩, none⟩, ⟨.single "notes", none⟩]

/-- How many objects lie inside each other at most. -/
def depth : Part → Nat
  | .spec => 3
  | .provenance => 2
  | .rules => 1
  | .corrections => 1
  | .flags => 0

end Part

namespace Document.Key

/-- A name is one of the two spellings. -/
def spells (key : Key) (name : String) : Bool := name == key.main || name == key.other

/-- All values that are given for a field, in either spelling. -/
def given (key : Key) (fields : List (String × Json)) : List Json :=
  (fields.filter fun field => key.spells field.1).map (·.2)

/-- The value that counts, nulls counting as absent. -/
def value? (key : Key) (fields : List (String × Json)) : Option Json :=
  (key.given fields).find? fun value => !value.isNull

end Document.Key

/-- One edit of an object that changes nothing in its meaning. The fields of an object have no
order, so an edit is stated for the field in front and any field may be moved there. -/
inductive Part.Edit : Part → Json → Json → Prop where
  | move (part : Part) (fields others : List (String × Json)) (moved : fields.Perm others) :
      Edit part (.obj fields) (.obj others)
  /-- A null is taken out. -/
  | dropNull (part : Part) (slot : Slot) (listed : slot ∈ part.slots) (name : String)
      (spelled : slot.key.spells name = true) (rest : List (String × Json)) :
      Edit part (.obj ((name, .null) :: rest)) (.obj rest)
  /-- A null is put in for a field that is not there. -/
  | addNull (part : Part) (slot : Slot) (listed : slot ∈ part.slots) (name : String)
      (spelled : slot.key.spells name = true) (rest : List (String × Json))
      (absent : slot.key.given rest = []) :
      Edit part (.obj rest) (.obj ((name, .null) :: rest))
  /-- A field gets its other spelling. -/
  | respell (part : Part) (slot : Slot) (listed : slot ∈ part.slots) (name other : String)
      (spelled : slot.key.spells name = true) (respelled : slot.key.spells other = true)
      (value : Json) (rest : List (String × Json)) :
      Edit part (.obj ((name, value) :: rest)) (.obj ((other, value) :: rest))
  /-- A key that is not read is put in, with any value. -/
  | addUnknown (part : Part) (name : String)
      (unknown : ∀ slot ∈ part.slots, slot.key.spells name = false) (value : Json)
      (rest : List (String × Json)) :
      Edit part (.obj rest) (.obj ((name, value) :: rest))
  /-- The object that a field holds is edited. -/
  | within (part inner : Part) (slot : Slot) (listed : slot ∈ part.slots)
      (holds : slot.part = some inner) (name : String) (spelled : slot.key.spells name = true)
      (before after : Json) (rest : List (String × Json)) (edit : Edit inner before after) :
      Edit part (.obj ((name, before) :: rest)) (.obj ((name, after) :: rest))

/-- Any field may come to the front. -/
theorem Part.Edit.front (part : Part) (before : List (String × Json)) (field : String × Json)
    (behind : List (String × Json)) :
    part.Edit (.obj (before ++ field :: behind)) (.obj (field :: (before ++ behind))) :=
  .move part _ _ List.perm_middle

/-- No field of an object is given twice, under one spelling or under both, nor is one of an object
inside it. -/
inductive Part.Plain : Part → Json → Prop where
  | scalar (part : Part) (value : Json) (noObject : ∀ fields, value ≠ .obj fields) :
      Plain part value
  | object (part : Part) (fields : List (String × Json))
      (once : ∀ slot ∈ part.slots, (slot.key.given fields).length ≤ 1)
      (inside : ∀ slot ∈ part.slots, ∀ inner, slot.part = some inner →
        ∀ value ∈ slot.key.given fields, Plain inner value) :
      Plain part (.obj fields)

namespace Part

/-- No name spells two fields of an object. -/
theorem slot_of_spells (part : Part) (slot other : Slot) (listed : slot ∈ part.slots)
    (alsoListed : other ∈ part.slots) (name : String) (spelled : slot.key.spells name = true)
    (alsoSpelled : other.key.spells name = true) : slot = other := by
  have apart : ∀ slot ∈ part.slots, ∀ other ∈ part.slots,
      (slot.key.main = other.key.main ∨ slot.key.main = other.key.other ∨
        slot.key.other = other.key.main ∨ slot.key.other = other.key.other) → slot = other := by
    cases part <;> decide +kernel
  simp only [Key.spells, Bool.or_eq_true, beq_iff_eq] at spelled alsoSpelled
  refine apart slot listed other alsoListed ?_
  rcases spelled with rfl | rfl <;> rcases alsoSpelled with same | same <;> simp [same]

/-- What lies inside an object is less deep. -/
theorem depth_of_slot (part inner : Part) (slot : Slot) (listed : slot ∈ part.slots)
    (holds : slot.part = some inner) : inner.depth < part.depth := by
  have each : ∀ slot ∈ part.slots, (slot.part.map depth).all (· < part.depth) = true := by
    cases part <;> decide +kernel
  simpa [holds] using each slot listed

namespace Plain

variable {part : Part} {fields : List (String × Json)} {slot : Slot}

/-- At most one value is given for a field. -/
theorem once (plain : part.Plain (.obj fields)) (listed : slot ∈ part.slots) :
    (slot.key.given fields).length ≤ 1 := by
  cases plain with
  | scalar _ _ noObject => exact absurd rfl (noObject fields)
  | object _ _ once _ => exact once slot listed

/-- What is given for a field that holds an object is plain, too. -/
theorem inside (plain : part.Plain (.obj fields)) (listed : slot ∈ part.slots) {inner : Part}
    (holds : slot.part = some inner) {value : Json} (given : value ∈ slot.key.given fields) :
    inner.Plain value := by
  cases plain with
  | scalar _ _ noObject => exact absurd rfl (noObject fields)
  | object _ _ _ inside => exact inside slot listed inner holds value given

end Plain

end Part

namespace Document.Key

variable (key : Key) (name : String) (value : Json) (rest : List (String × Json))

/-- A field in front is given when its name is a spelling. -/
theorem given_cons_of_spells (spelled : key.spells name = true) :
    key.given ((name, value) :: rest) = value :: key.given rest := by
  simp [given, spelled]

/-- Any other field in front is passed over. -/
theorem given_cons_of_not_spells (unspelled : key.spells name = false) :
    key.given ((name, value) :: rest) = key.given rest := by
  simp [given, unspelled]

end Document.Key

/-- What an edit may change of what is given for a field: a null, or the inside of an object. -/
inductive Slot.Change (slot : Slot) : List Json → List Json → Prop where
  | same (given : List Json) : Change slot given given
  | dropped : Change slot [.null] []
  | added : Change slot [] [.null]
  | within (inner : Part) (holds : slot.part = some inner) (before after : Json)
      (edit : inner.Edit before after) : Change slot [before] [after]

namespace Slot.Change

variable {slot : Slot} {before after : List Json}

/-- Nothing is given twice after an edit that was not before. -/
theorem once (change : slot.Change before after) (once : before.length ≤ 1) :
    after.length ≤ 1 := by
  cases change with
  | same => exact once
  | dropped => exact Nat.zero_le 1
  | added => exact Nat.le_refl 1
  | within => exact Nat.le_refl 1

/-- What is given after an edit was given before, is null, or is an edited object. -/
theorem of_mem (change : slot.Change before after) {value : Json} (given : value ∈ after) :
    value ∈ before ∨ value = .null ∨
      ∃ inner old, slot.part = some inner ∧ old ∈ before ∧ inner.Edit old value := by
  cases change with
  | same => exact Or.inl given
  | dropped => cases given
  | added => exact Or.inr (Or.inl (List.mem_singleton.mp given))
  | within inner holds old new edit =>
    obtain rfl := List.mem_singleton.mp given
    exact Or.inr (Or.inr ⟨inner, old, holds, List.mem_singleton_self old, edit⟩)

end Slot.Change

namespace Part

/-- An edit is one of an object, and changes what is given for each field as edits may. -/
theorem Edit.changes {part : Part} {before after : Json} (edit : part.Edit before after)
    (plain : part.Plain before) :
    ∃ fields others, before = .obj fields ∧ after = .obj others ∧
      ∀ slot ∈ part.slots, slot.Change (slot.key.given fields) (slot.key.given others) := by
  -- A field in front that is given once is the only one that is given.
  have alone {slot : Slot} {name : String} {value : Json} {rest : List (String × Json)}
      (plain : part.Plain (.obj ((name, value) :: rest))) (listed : slot ∈ part.slots)
      (spelled : slot.key.spells name = true) : slot.key.given rest = [] := by
    have once := plain.once listed
    rw [slot.key.given_cons_of_spells name value rest spelled, List.length_cons] at once
    exact List.eq_nil_of_length_eq_zero (by omega)
  -- The name of one field is passed over by all others.
  have unspelled {slot other : Slot} {name : String} (listed : slot ∈ part.slots)
      (alsoListed : other ∈ part.slots) (spelled : slot.key.spells name = true)
      (different : other ≠ slot) : other.key.spells name = false :=
    Bool.eq_false_iff.mpr fun alsoSpelled =>
      different (slot_of_spells part other slot alsoListed listed name alsoSpelled spelled)
  cases edit with
  | move _ fields others moved =>
    refine ⟨fields, others, rfl, rfl, fun slot listed => ?_⟩
    have permuted : (slot.key.given fields).Perm (slot.key.given others) :=
      (moved.filter _).map _
    have once := plain.once listed
    cases stated : slot.key.given fields with
    | nil =>
      rw [stated, List.nil_perm] at permuted
      rw [permuted]
      exact .same []
    | cons value more =>
      rw [stated, List.length_cons] at once
      obtain rfl : more = [] := List.eq_nil_of_length_eq_zero (by omega)
      rw [stated, List.singleton_perm] at permuted
      rw [← permuted]
      exact .same [value]
  | dropNull _ slot listed name spelled rest =>
    refine ⟨_, rest, rfl, rfl, fun other alsoListed => ?_⟩
    by_cases here : other = slot
    · rw [here, slot.key.given_cons_of_spells name _ rest spelled, alone plain listed spelled]
      exact .dropped
    · rw [other.key.given_cons_of_not_spells name _ rest (unspelled listed alsoListed spelled here)]
      exact .same _
  | addNull _ slot listed name spelled rest absent =>
    refine ⟨rest, _, rfl, rfl, fun other alsoListed => ?_⟩
    by_cases here : other = slot
    · rw [here, slot.key.given_cons_of_spells name _ rest spelled, absent]
      exact .added
    · rw [other.key.given_cons_of_not_spells name _ rest (unspelled listed alsoListed spelled here)]
      exact .same _
  | respell _ slot listed name renamed spelled respelled value rest =>
    refine ⟨_, _, rfl, rfl, fun other alsoListed => ?_⟩
    by_cases here : other = slot
    · rw [here, slot.key.given_cons_of_spells name _ rest spelled,
        slot.key.given_cons_of_spells renamed _ rest respelled]
      exact .same _
    · rw [other.key.given_cons_of_not_spells name _ rest (unspelled listed alsoListed spelled here),
        other.key.given_cons_of_not_spells renamed _ rest
          (unspelled listed alsoListed respelled here)]
      exact .same _
  | addUnknown _ name unknown value rest =>
    refine ⟨rest, _, rfl, rfl, fun slot listed => ?_⟩
    rw [slot.key.given_cons_of_not_spells name value rest (unknown slot listed)]
    exact .same _
  | within _ inner slot listed holds name spelled before after rest edit =>
    refine ⟨_, _, rfl, rfl, fun other alsoListed => ?_⟩
    by_cases here : other = slot
    · rw [here, slot.key.given_cons_of_spells name _ rest spelled,
        slot.key.given_cons_of_spells name _ rest spelled, alone plain listed spelled]
      exact .within inner holds before after edit
    · rw [other.key.given_cons_of_not_spells name _ rest (unspelled listed alsoListed spelled here),
        other.key.given_cons_of_not_spells name _ rest (unspelled listed alsoListed spelled here)]
      exact .same _

/-- An edit gives no field twice. -/
theorem Edit.plain {part : Part} {before after : Json} (edit : part.Edit before after)
    (plain : part.Plain before) : part.Plain after := by
  obtain ⟨fields, others, rfl, rfl, changes⟩ := edit.changes plain
  refine .object part others (fun slot listed => (changes slot listed).once (plain.once listed))
    fun slot listed inner holds value given => ?_
  rcases (changes slot listed).of_mem given with kept | rfl | ⟨edited, old, same, stood, within⟩
  · exact plain.inside listed holds kept
  · exact .scalar inner .null fun _ => Json.noConfusion
  · obtain rfl : inner = edited := Option.some.inj (holds.symm.trans same)
    have shallower := depth_of_slot part inner slot listed holds
    exact within.plain (plain.inside listed holds stood)
termination_by part.depth

end Part

namespace Document

namespace Key

variable (key : Key) (fields : List (String × Json))

theorem spells_main : key.spells key.main = true := by simp [spells]

theorem spells_other : key.spells key.other = true := by simp [spells]

/-- A field that is not given is found under no spelling. -/
theorem lookup?_of_not_given (absent : key.given fields = []) (name : String)
    (spelled : key.spells name = true) : Json.lookup? name fields = none := by
  induction fields with
  | nil => rfl
  | cons field rest inductionHypothesis =>
    obtain ⟨other, value⟩ := field
    cases here : key.spells other with
    | true =>
      rw [key.given_cons_of_spells other value rest here] at absent
      cases absent
    | false =>
      rw [key.given_cons_of_not_spells other value rest here] at absent
      have different : other ≠ name := by
        rintro rfl
        rw [spelled] at here
        cases here
      rw [Json.lookup?_cons, if_neg different]
      exact inductionHypothesis absent

/-- A field that is given once is found under one of its spellings and not under the other. -/
theorem lookup?_of_given (value : Json) (stated : key.given fields = [value]) :
    ∃ name, key.spells name = true ∧ ∀ other, key.spells other = true →
      Json.lookup? other fields = if other = name then some value else none := by
  induction fields with
  | nil => cases stated
  | cons field rest inductionHypothesis =>
    obtain ⟨name, first⟩ := field
    cases here : key.spells name with
    | true =>
      rw [key.given_cons_of_spells name first rest here] at stated
      obtain ⟨rfl, absent⟩ := List.cons.inj stated
      refine ⟨name, here, fun other spelled => ?_⟩
      rw [Json.lookup?_cons, key.lookup?_of_not_given rest absent other spelled]
      simp only [eq_comm]
    | false =>
      rw [key.given_cons_of_not_spells name first rest here] at stated
      obtain ⟨found, spelled, others⟩ := inductionHypothesis stated
      refine ⟨found, spelled, fun other alsoSpelled => ?_⟩
      have different : name ≠ other := by
        rintro rfl
        rw [alsoSpelled] at here
        cases here
      rw [Json.lookup?_cons, if_neg different]
      exact others other alsoSpelled

/-- What is found of a field that is given once. Where nulls count as absent, a null is not
found. -/
theorem found_of_given (value : Json) (stated : key.given fields = [value]) :
    ∃ name, key.find? fields = some (name, value) ∧
      key.findSet? fields = if value.isNull then none else some (name, value) := by
  obtain ⟨name, spelled, found⟩ := key.lookup?_of_given fields value stated
  have main := found key.main key.spells_main
  have other := found key.other key.spells_other
  simp only [spells, Bool.or_eq_true, beq_iff_eq] at spelled
  by_cases here : key.main = name
  · subst here
    rw [if_pos rfl] at main
    refine ⟨key.main, by simp [find?, main], ?_⟩
    cases value with
    | null =>
      by_cases single : key.other = key.main <;> simp [findSet?, main, other, single, Json.isNull]
    | _ => simp [findSet?, main, Json.isNull]
  · obtain rfl := spelled.resolve_left (Ne.symm here)
    rw [if_neg here] at main
    rw [if_pos rfl] at other
    refine ⟨key.other, by simp [find?, main, other], ?_⟩
    cases value <;> simp [findSet?, main, other, Json.isNull]

end Key

section Fields

variable {α : Type} (path : Path) (fields : List (String × Json)) (key : Key) (read : Reader α)

/-- A field that is given at most once is not given or given alone. -/
theorem given_cases (once : (key.given fields).length ≤ 1) :
    key.given fields = [] ∨ ∃ value, key.given fields = [value] := by
  cases stated : key.given fields with
  | nil => exact Or.inl rfl
  | cons value more =>
    rw [stated, List.length_cons] at once
    exact Or.inr ⟨value, by rw [List.eq_nil_of_length_eq_zero (by omega : more.length = 0)]⟩

/-- An optional field that is given at most once is read from the value that counts. -/
theorem optional_of_once (once : (key.given fields).length ≤ 1) :
    ∃ place, optional path fields key read =
      match key.value? fields with
      | some value => (read place value).map some
      | none => .ok none := by
  rcases given_cases fields key once with absent | ⟨value, stated⟩
  · have main := key.lookup?_of_not_given fields absent _ key.spells_main
    have other := key.lookup?_of_not_given fields absent _ key.spells_other
    exact ⟨path, by simp [optional, Key.find?, Key.value?, main, other, absent]⟩
  · obtain ⟨name, found, -⟩ := key.found_of_given fields value stated
    refine ⟨path ++ [name], ?_⟩
    rw [optional, found, Key.value?, stated]
    cases value <;> rfl

/-- A field with a value for absence that is given at most once is read from the value that
counts. -/
theorem withDefault_of_once (default : α) (once : (key.given fields).length ≤ 1) :
    ∃ place, withDefault path fields key default read =
      match key.value? fields with
      | some value => read place value
      | none => .ok default := by
  rcases given_cases fields key once with absent | ⟨value, stated⟩
  · have main := key.lookup?_of_not_given fields absent _ key.spells_main
    have other := key.lookup?_of_not_given fields absent _ key.spells_other
    exact ⟨path, by simp [withDefault, Key.findSet?, Key.value?, main, other, absent]⟩
  · obtain ⟨name, -, found⟩ := key.found_of_given fields value stated
    refine ⟨path ++ [name], ?_⟩
    rw [withDefault, found, Key.value?, stated]
    cases value <;> rfl

end Fields

namespace Checked

variable {α β : Type}

/-- What is read the first way is read the second way, too. -/
def Carries (first second : Checked α) : Prop := ∀ value, first = .ok value → second = .ok value

theorem Carries.map {first second : Checked α} (carries : first.Carries second) (f : α → β) :
    Carries (f <$> first) (f <$> second) := by
  intro result found
  obtain ⟨value, read, same⟩ := (map_eq_ok_iff f first result).mp found
  exact (map_eq_ok_iff f second result).mpr ⟨value, carries value read, same⟩

/-- Two parts carry over together. -/
theorem Carries.seq {first second : Checked (α → β)} {value other : Checked α}
    (functions : first.Carries second) (values : value.Carries other) :
    Carries (first <*> value) (second <*> other) := by
  intro result found
  obtain ⟨f, inner, readFunction, readValue, same⟩ := (seq_eq_ok_iff first value result).mp found
  exact (seq_eq_ok_iff second other result).mpr
    ⟨f, inner, functions f readFunction, values inner readValue, same⟩

/-- The items of a list carry over one by one. -/
theorem Carries.all_mapIdx (items : List Json) (first second : Nat → Json → Checked α)
    (each : ∀ index item, (first index item).Carries (second index item)) :
    Carries (all (items.mapIdx first)) (all (items.mapIdx second)) := by
  induction items generalizing first second with
  | nil => exact fun _ found => found
  | cons item rest inductionHypothesis =>
    rw [List.mapIdx_cons, List.mapIdx_cons]
    have others := inductionHypothesis _ _ fun index item => each (index + 1) item
    exact ((each 0 item).map List.cons).seq others

end Checked

/-- Two values of a field that mean the same: equal ones, or a plain object and the object that an
edit makes of it. -/
def Alike : Option Part → Json → Json → Prop
  | none, before, after => after = before
  | some part, before, after => part.Plain before ∧ (after = before ∨ part.Edit before after)

/-- A reader that gives the same for values that mean the same, wherever they stand. -/
def Follows {α : Type} (part : Option Part) (read : Reader α) : Prop :=
  ∀ place other before after, Alike part before after →
    (read place before).Carries (read other after)

/-- Two lists of fields that give a field at most once, and values that mean the same. -/
structure Agree (slot : Slot) (fields others : List (String × Json)) : Prop where
  once : (slot.key.given fields).length ≤ 1
  alsoOnce : (slot.key.given others).length ≤ 1
  alike : Option.Rel (Alike slot.part) (slot.key.value? fields) (slot.key.value? others)

/-- The fields of a plain object agree with themselves. -/
theorem agree_refl {part : Part} {fields : List (String × Json)} (plain : part.Plain (.obj fields))
    (slot : Slot) (listed : slot ∈ part.slots) : Agree slot fields fields := by
  refine ⟨plain.once listed, plain.once listed, ?_⟩
  cases counted : slot.key.value? fields with
  | none => exact .none
  | some value =>
    refine .some ?_
    have given : value ∈ slot.key.given fields := List.mem_of_find?_eq_some counted
    cases holds : slot.part with
    | none => rfl
    | some inner => exact ⟨plain.inside listed holds given, Or.inl rfl⟩

/-- The fields of a plain object agree with those that an edit makes of them. -/
theorem agree_of_change {part : Part} {fields others : List (String × Json)}
    (plain : part.Plain (.obj fields)) (slot : Slot) (listed : slot ∈ part.slots)
    (change : slot.Change (slot.key.given fields) (slot.key.given others)) :
    Agree slot fields others := by
  have once := plain.once listed
  refine ⟨once, change.once once, ?_⟩
  have itself := (agree_refl plain slot listed).alike
  have inside (inner : Part) (holds : slot.part = some inner) (value : Json)
      (given : value ∈ slot.key.given fields) : inner.Plain value := plain.inside listed holds given
  unfold Key.value? at itself ⊢
  generalize slot.key.given fields = before at *
  generalize slot.key.given others = after at *
  cases change with
  | same => exact itself
  | dropped => exact .none
  | added => exact .none
  | within inner holds old new edit =>
    have plainInside := inside inner holds old (List.mem_singleton_self old)
    obtain ⟨_, _, rfl, rfl, -⟩ := edit.changes plainInside
    refine .some ?_
    rw [holds]
    exact ⟨plainInside, Or.inr edit⟩

section Readers

variable {α : Type} {fields others : List (String × Json)} {slot : Slot} {read : Reader α}

/-- An optional field is read alike from fields that agree. -/
theorem Follows.optional (follows : Follows slot.part read) (agree : Agree slot fields others)
    (place other : Path) :
    (Document.optional place fields slot.key read).Carries
      (Document.optional other others slot.key read) := by
  obtain ⟨here, first⟩ := optional_of_once place fields slot.key read agree.once
  obtain ⟨there, second⟩ := optional_of_once other others slot.key read agree.alsoOnce
  rw [first, second]
  have alike := agree.alike
  cases before : slot.key.value? fields <;> cases after : slot.key.value? others <;>
    rw [before, after] at alike <;> cases alike
  · exact fun _ found => found
  · next _ _ meant => exact (follows here there _ _ meant).map some

/-- A field with a value for absence is read alike from fields that agree. -/
theorem Follows.withDefault (follows : Follows slot.part read) (agree : Agree slot fields others)
    (place other : Path) (default : α) :
    (Document.withDefault place fields slot.key default read).Carries
      (Document.withDefault other others slot.key default read) := by
  obtain ⟨here, first⟩ := withDefault_of_once place fields slot.key read default agree.once
  obtain ⟨there, second⟩ := withDefault_of_once other others slot.key read default agree.alsoOnce
  rw [first, second]
  have alike := agree.alike
  cases before : slot.key.value? fields <;> cases after : slot.key.value? others <;>
    rw [before, after] at alike <;> cases alike
  · exact fun _ found => found
  · next _ _ meant => exact follows here there _ _ meant

/-- A reader of objects follows edits when its fields are read alike from fields that agree. -/
theorem follows_of_fields (part : Part) (read : Reader α)
    (objects : ∀ place value result, read place value = .ok result → ∃ fields, value = .obj fields)
    (each : ∀ place other fields others, (∀ slot ∈ part.slots, Agree slot fields others) →
      (read place (.obj fields)).Carries (read other (.obj others))) :
    Follows (some part) read := by
  rintro place other before after ⟨plain, rfl | edit⟩
  · intro result found
    obtain ⟨fields, rfl⟩ := objects place after result found
    exact each place other fields fields (agree_refl plain) result found
  · obtain ⟨fields, others, rfl, rfl, changes⟩ := edit.changes plain
    exact each place other fields others fun slot listed =>
      agree_of_change plain slot listed (changes slot listed)

/-- A reader follows when it gives the same value at every place. -/
theorem follows_of_steady
    (steady : ∀ place other value, (read place value).Carries (read other value)) :
    Follows none read := by
  rintro place other _ value rfl
  exact steady place other value

end Readers

theorem follows_readText : Follows none readText :=
  follows_of_steady fun place other value result found => by
    cases value <;> first | exact found | cases found

theorem follows_readTexts : Follows none (readList readText) :=
  follows_of_steady fun place other value => by
    cases value with
    | arr items =>
      exact Checked.Carries.all_mapIdx items _ _ fun index item =>
        follows_readText _ _ item item rfl
    | _ => exact fun _ found => nomatch found

theorem follows_readInteger : Follows none readInteger :=
  follows_of_steady fun place other value result found => by
    cases value <;> simp only [readInteger] at found ⊢ <;> grind [problem]

theorem follows_readTruth : Follows none readTruth :=
  follows_of_steady fun place other value result found => by
    cases value <;> simp only [readTruth, truthOfInt] at found ⊢ <;> grind [problem]

theorem follows_readMoment : Follows none readMoment :=
  follows_of_steady fun place other value result found => by
    cases value <;> simp only [readMoment] at found ⊢ <;> grind [problem]

theorem follows_readChoice {α : Type} (ofName? : String → Option α) :
    Follows none (readChoice ofName?) :=
  follows_of_steady fun place other value result found => by
    cases value <;> simp only [readChoice] at found ⊢ <;> grind [problem]

end Document

/-- Manual flags are read alike from objects that mean the same. -/
theorem ManualFlags.follows_read : Follows (some .flags) ManualFlags.read := by
  refine follows_of_fields .flags ManualFlags.read ?_ ?_
  · intro place value result found
    cases value with
    | obj fields => exact ⟨fields, rfl⟩
    | _ => cases found
  · intro place other fields others agree
    have karma := agree ⟨⟨"minKarma", "min_karma"⟩, none⟩ (by decide)
    have age := agree ⟨⟨"minAccountAgeDays", "min_account_age_days"⟩, none⟩ (by decide)
    have verification := agree ⟨⟨"verificationRequired", "verification_required"⟩, none⟩ (by decide)
    have notes := agree ⟨.single "notes", none⟩ (by decide)
    exact ((((follows_readInteger.optional karma place other).map ManualFlags.mk).seq
      (follows_readInteger.optional age place other)).seq
      (follows_readTruth.withDefault verification place other false)).seq
      (follows_readTexts.withDefault notes place other [])

/-- Lenient link policies are read alike everywhere. -/
theorem LinkPolicy.follows_readLenient : Follows none LinkPolicy.readLenient :=
  follows_of_steady fun place other value result found => by
    cases value <;> first | exact found | cases found

open Rules in
/-- The rule fields are read alike from fields that agree. -/
theorem Rules.carries_readFields (place other : Path) (fields others : List (String × Json))
    (agree : ∀ slot ∈ Part.ruleSlots, Agree slot fields others) :
    (Rules.readFields place fields).Carries (Rules.readFields other others) := by
  have words (key : Key) (listed : ⟨key, none⟩ ∈ Part.ruleSlots) :=
    follows_readTexts.withDefault (agree ⟨key, none⟩ listed) place other []
  have size (key : Key) (listed : ⟨key, none⟩ ∈ Part.ruleSlots) :=
    follows_readInteger.optional (agree ⟨key, none⟩ listed) place other
  have policy := LinkPolicy.follows_readLenient.withDefault
    (agree ⟨linkPolicyKey, none⟩ (by decide)) place other .unknown
  have flair := follows_readTruth.withDefault
    (agree ⟨flairRequiredKey, none⟩ (by decide)) place other false
  have flags := ManualFlags.follows_read.withDefault
    (agree ⟨manualFlagsKey, some .flags⟩ (by decide)) place other {}
  have first := ((((words bannedWordsKey (by decide)).map Rules.mk).seq
    (words titleRegexesKey (by decide))).seq (words bodyRegexesKey (by decide))).seq policy
  exact (((((first.seq flair).seq (words requiredTagsKey (by decide))).seq
    (size maxTitleLengthKey (by decide))).seq (size maxBodyLengthKey (by decide))).seq flags).seq
    (words wikiNotesKey (by decide))

/-- Rules are read alike from objects that mean the same. -/
theorem Rules.follows_read : Follows (some .rules) Rules.read := by
  refine follows_of_fields .rules Rules.read ?_ Rules.carries_readFields
  intro place value result found
  cases value with
  | obj fields => exact ⟨fields, rfl⟩
  | _ => cases found

open Rules in
/-- Corrections are read alike from objects that mean the same. -/
theorem Override.follows_read : Follows (some .corrections) Override.read := by
  refine follows_of_fields .corrections Override.read ?_ ?_
  · intro place value result found
    cases value with
    | obj fields => exact ⟨fields, rfl⟩
    | _ => cases found
  · intro place other fields others agree
    have words (key : Key) (listed : ⟨key, none⟩ ∈ Part.ruleSlots) :=
      follows_readTexts.optional (agree ⟨key, none⟩ listed) place other
    have size (key : Key) (listed : ⟨key, none⟩ ∈ Part.ruleSlots) :=
      follows_readInteger.optional (agree ⟨key, none⟩ listed) place other
    have policy := (follows_readChoice LinkPolicy.ofName?).optional
      (agree ⟨linkPolicyKey, none⟩ (by decide)) place other
    have flair := follows_readTruth.optional
      (agree ⟨flairRequiredKey, none⟩ (by decide)) place other
    have flags := ManualFlags.follows_read.optional
      (agree ⟨manualFlagsKey, some .flags⟩ (by decide)) place other
    have first := ((((words bannedWordsKey (by decide)).map Override.mk).seq
      (words titleRegexesKey (by decide))).seq (words bodyRegexesKey (by decide))).seq policy
    exact (((((first.seq flair).seq (words requiredTagsKey (by decide))).seq
      (size maxTitleLengthKey (by decide))).seq (size maxBodyLengthKey (by decide))).seq flags).seq
      (words wikiNotesKey (by decide))

/-- The provenance is read alike from objects that mean the same. -/
theorem Provenance.follows_read : Follows (some .provenance) Provenance.read := by
  refine follows_of_fields .provenance Provenance.read ?_ ?_
  · intro place value result found
    cases value with
    | obj fields => exact ⟨fields, rfl⟩
    | _ => cases found
  · intro place other fields others agree
    have fetched := agree ⟨⟨"fetchedAt", "fetched_at"⟩, none⟩ (by decide)
    have about := agree ⟨⟨"aboutRulesUrl", "about_rules_url"⟩, none⟩ (by decide)
    have wiki := agree ⟨⟨"wikiRulesUrl", "wiki_rules_url"⟩, none⟩ (by decide)
    have base := agree ⟨⟨"automatedBase", "automated_base"⟩, some .rules⟩ (by decide)
    exact ((((follows_readMoment.optional fetched place other).map Provenance.mk).seq
      (follows_readText.optional about place other)).seq
      (follows_readText.optional wiki place other)).seq
      (Rules.follows_read.withDefault base place other {})

/-- A whole document is read alike from objects that mean the same. -/
theorem RuleSpec.follows_readPlain : Follows (some .spec) RuleSpec.readPlain := by
  refine follows_of_fields .spec RuleSpec.readPlain ?_ ?_
  · intro place value result found
    cases value with
    | obj fields => exact ⟨fields, rfl⟩
    | _ => cases found
  · intro place other fields others agree
    have rules := Rules.carries_readFields place other fields others fun slot listed =>
      agree slot (List.mem_append_left _ listed)
    have corrections := agree ⟨.single "overrides", some .corrections⟩ (by decide)
    have source := agree ⟨.single "source", some .provenance⟩ (by decide)
    exact ((rules.map RuleSpec.mk).seq (Override.follows_read.optional corrections place other)).seq
      (Provenance.follows_read.optional source place other)

/-- One edit leaves a document that reads as the same specification. -/
theorem RuleSpec.read_of_edit (before after : Json) (spec : RuleSpec)
    (plain : Part.spec.Plain before) (edit : Part.spec.Edit before after)
    (found : RuleSpec.read before = .ok spec) : RuleSpec.read after = .ok spec := by
  have carries := RuleSpec.follows_readPlain [] [] before after ⟨plain, Or.inr edit⟩
  obtain ⟨fields, others, rfl, rfl, -⟩ := edit.changes plain
  rw [RuleSpec.read_obj] at found ⊢
  exact carries.map RuleSpec.reapply spec found

/-- Spellings of a document do not matter.

A document that gives no field twice may be edited in any number of steps: nulls are taken out or
put in, fields get their other spelling, fields that nobody reads are put in, and fields change
their places, at the top and inside the manual flags, the corrections, the source and the
automated rules. If the document was read as a specification, so is the edited one, and as the
same.

Proof: one edit does not change what any reader gives, from the flags inside up to the whole, and
gives no field twice; the rest is induction on the edits.
-/
theorem RuleSpec.read_of_respelled (document respelled : Json) (spec : RuleSpec)
    (plain : Part.spec.Plain document)
    (edits : Relation.ReflTransGen Part.spec.Edit document respelled)
    (found : RuleSpec.read document = .ok spec) : RuleSpec.read respelled = .ok spec := by
  have both : Part.spec.Plain respelled ∧ RuleSpec.read respelled = .ok spec := by
    induction edits with
    | refl => exact ⟨plain, found⟩
    | tail _ edit inductionHypothesis =>
      obtain ⟨stillPlain, reads⟩ := inductionHypothesis
      exact ⟨edit.plain stillPlain, RuleSpec.read_of_edit _ _ spec stillPlain edit reads⟩
  exact both.2

/-- A document of older date: one key in its other spelling, nulls at the top and in the flags that
are corrected. -/
def olderDocument : Json :=
  .obj [("banned_words", Json.strings ["spam"]), ("titleRegexes", .null),
    ("overrides", .obj [("manualFlags",
      .obj [("minKarma", .null), ("min_account_age_days", .int 90)])])]

/-- The same document as somebody else would write it, with a field of their own. -/
def newerDocument : Json :=
  .obj [("source", .null),
    ("overrides", .obj [("manual_flags",
      .obj [("by", .str "kim"), ("minAccountAgeDays", .int 90)])]),
    ("bannedWords", Json.strings ["spam"])]

/-- It gives no field twice, at the top and in the objects inside. -/
theorem olderDocument_plain : Part.spec.Plain olderDocument := by
  have flags : Part.flags.Plain (.obj [("minKarma", .null), ("min_account_age_days", .int 90)]) :=
    .object _ _ (by decide) fun slot listed inner holds => by
      have none : ∀ slot ∈ Part.flags.slots, slot.part = none := by decide
      rw [none slot listed] at holds
      cases holds
  have corrections : Part.corrections.Plain (.obj [("manualFlags",
      .obj [("minKarma", .null), ("min_account_age_days", .int 90)])]) := by
    refine .object _ _ (by decide) fun slot listed inner holds value given => ?_
    fin_cases listed <;> cases holds
    obtain rfl := List.mem_singleton.mp given
    exact flags
  refine .object .spec _ (by decide) fun slot listed inner holds value given => ?_
  fin_cases listed <;> cases holds
  · cases given
  · obtain rfl := List.mem_singleton.mp given
    exact corrections
  · cases given

/-- The two documents read as the same specification. -/
theorem older_spelling_reads_alike :
    Part.spec.Plain olderDocument ∧
      Relation.ReflTransGen Part.spec.Edit olderDocument newerDocument ∧
      ∃ spec, RuleSpec.read olderDocument = .ok spec ∧ spec.rules.bannedWords = ["spam"] ∧
        spec.rules.manualFlags.minAccountAgeDays = some 90 ∧
        RuleSpec.read newerDocument = .ok spec := by
  have flags (before after : Json) (name : String) (rest : List (String × Json))
      (spelled : Rules.manualFlagsKey.spells name = true) (edit : Part.flags.Edit before after) :
      Part.spec.Edit (.obj (("overrides", .obj [(name, before)]) :: rest))
        (.obj (("overrides", .obj [(name, after)]) :: rest)) :=
    .within _ .corrections ⟨.single "overrides", some .corrections⟩ (by decide) rfl _ (by decide)
      _ _ rest (.within _ .flags ⟨Rules.manualFlagsKey, some .flags⟩ (by decide) rfl name spelled
        _ _ [] edit)
  have edits : Relation.ReflTransGen Part.spec.Edit olderDocument newerDocument := by
    refine .head (.respell _ ⟨Rules.bannedWordsKey, none⟩ (by decide) _ "bannedWords" (by decide)
      (by decide) _ _) ?_
    refine .head (.front _ [_] ("titleRegexes", .null) _) ?_
    refine .head (.dropNull _ ⟨Rules.titleRegexesKey, none⟩ (by decide) _ (by decide) _) ?_
    refine .head (.front _ [_] ("overrides", _) _) ?_
    refine .head (flags _ _ _ _ (by decide)
      (.dropNull _ ⟨⟨"minKarma", "min_karma"⟩, none⟩ (by decide) _ (by decide) _)) ?_
    refine .head (flags _ _ _ _ (by decide)
      (.respell _ ⟨⟨"minAccountAgeDays", "min_account_age_days"⟩, none⟩ (by decide) _
        "minAccountAgeDays" (by decide) (by decide) _ _)) ?_
    refine .head (flags _ _ _ _ (by decide) (.addUnknown _ "by" (by decide) (.str "kim") _)) ?_
    refine .head (.within _ .corrections ⟨.single "overrides", some .corrections⟩ (by decide) rfl _
      (by decide) _ _ _ (.respell _ ⟨Rules.manualFlagsKey, some .flags⟩ (by decide) _ "manual_flags"
        (by decide) (by decide) _ _)) ?_
    exact .single (.addNull _ ⟨.single "source", some .provenance⟩ (by decide) _ (by decide) _
      (by decide))
  obtain ⟨spec, found⟩ : ∃ spec, RuleSpec.read olderDocument = .ok spec := ⟨_, rfl⟩
  refine ⟨olderDocument_plain, edits, spec, found, ?_, ?_,
    RuleSpec.read_of_respelled _ _ spec olderDocument_plain edits found⟩
  all_goals obtain rfl := Checked.ok.inj found; decide +kernel

/-- Where a field is given under both spellings, a null that counts for one of them decides, and
taking it out lets the other value count. -/
example :
    let stated (fields : List (String × Json)) :=
      (RuleSpec.read (.obj fields)).value?.map (·.rules.maxTitleLength)
    stated [("maxTitleLength", .null), ("max_title_length", .int 5)] = some none ∧
      stated [("max_title_length", .int 5)] = some (some 5) := by decide +kernel

end Rulebook
