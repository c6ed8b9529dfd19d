import Mathlib.Tactic.ByContra
import Rulebook.Lint.Check
import Rulebook.Proofs.Numbers
import Rulebook.Proofs.RuleMap
import Rulebook.Proofs.Sync

/-!
# Which requests are refused

A request is refused for what it is and for nothing else. It must be an object that gives a
community and a title as texts; a body, if one is given, must be a text, and so must the flag for
links be one of the values that can be read as a truth value; and something must be left of the name
of the community once it is reduced to a key. Whatever falls short of this is refused, and all else
is not.

A refusal comes before anything is looked up. It is the same for every user and in every state of
the engine, also where no table can be read, and it leaves the engine as it was. What is not refused
goes on to the rules on file, and where those cannot be read the check fails for that reason.
-/

namespace Rulebook

open Document Lint

section Numbers

open Decimal

/-- A machine number compares as equal with an integer exactly when it is this integer and has no
fraction. -/
theorem compareIntFloat_eq_iff (count : Int) (x : Float) :
    compareIntFloat count x = some .eq ↔ truncate? x = some count ∧ isWhole x = true := by
  constructor
  · unfold compareIntFloat truncate? isWhole
    cases readFloat x with
    | finite negative magnitude =>
      intro same
      have scaled := Int.compare_eq_eq.mp (Option.some.inj same)
      have positive := magnitude.den_pos
      have apart : (magnitude.den : Int) ≠ 0 := by omega
      have whole : magnitude.num = count.natAbs * magnitude.den := by
        have sizes := congrArg Int.natAbs scaled
        rw [Int.natAbs_mul, Int.natAbs_natCast] at sizes
        rw [sizes]
        cases negative <;> simp
      have quotient : magnitude.num / magnitude.den = count.natAbs := by
        rw [whole, Nat.mul_div_cancel _ positive]
      have signed : (if negative = true then -(count.natAbs : Int) else count.natAbs) = count := by
        apply Int.eq_of_mul_eq_mul_right apart
        rw [scaled, whole, Int.natCast_mul]
        cases negative with
        | false => rfl
        | true => exact Int.neg_mul _ _
      constructor
      · dsimp only
        rw [quotient, signed]
      · dsimp only
        rw [whole, Nat.mul_mod_left]
        rfl
    | infinite negative => cases negative <;> rintro ⟨⟩
    | notANumber => rintro ⟨⟩
  · rintro ⟨cut, whole⟩
    rw [compareIntFloat_of_whole count count x cut whole, Int.compare_eq_eq.mpr rfl]

end Numbers

namespace Json

/-- A value that counts as a certain integer. -/
def IsWorth (value : Json) (whole : Int) : Prop :=
  ∃ number, value.number? = some number ∧ number.order? (.int whole) = some .eq

/-- An integer is worth itself. -/
theorem isWorth_int_iff (number whole : Int) : (int number).IsWorth whole ↔ number = whole := by
  rw [← Int.compare_eq_eq]
  constructor
  · rintro ⟨_, ⟨⟩, same⟩
    exact Option.some.inj same
  · intro same
    exact ⟨_, rfl, congrArg some same⟩

/-- A machine number is worth an integer if it is this integer and has no fraction. -/
theorem isWorth_float_iff (number : Float) (whole : Int) : (float number).IsWorth whole ↔
    Decimal.truncate? number = some whole ∧ Decimal.isWhole number = true := by
  rw [← compareIntFloat_eq_iff]
  constructor
  · rintro ⟨_, ⟨⟩, same⟩
    obtain ⟨order, compared, turned⟩ := Option.map_eq_some_iff.mp same
    cases order <;> cases turned
    exact compared
  · intro same
    refine ⟨_, rfl, ?_⟩
    rw [Number.order?, same]
    rfl

/-- What can be read as a truth value: anything that counts as zero or one, as the truth values
themselves do, and the names of truth and falsehood in small or capital letters. -/
inductive IsTruth : Json → Bool → Prop where
  | number (value : Json) (truth : Bool) (worth : value.IsWorth (if truth then 1 else 0)) :
      IsTruth value truth
  | name (text name : String) (truth : Bool)
      (listed : name ∈ if truth then trueNames else falseNames)
      (spelled : text.toList.map Char.toLower = name.toList) : IsTruth (.str text) truth

end Json

/-- A value that is no text is read as a truth value if it counts as zero or one. -/
theorem isTruth_iff_isWorth (value : Json) (truth : Bool) (noText : ∀ text, value ≠ .str text) :
    value.IsTruth truth ↔ value.IsWorth (if truth then 1 else 0) := by
  constructor
  · intro reads
    cases reads with
    | number _ _ worth => exact worth
    | name text => exact absurd rfl (noText text)
  · exact .number value truth

/-- Texts are read by their names. -/
theorem isTruth_str_iff (text : String) (truth : Bool) : (Json.str text).IsTruth truth ↔
    String.ofList (text.toList.map Char.toLower) ∈ if truth then trueNames else falseNames := by
  constructor
  · intro reads
    cases reads with
    | number _ _ worth =>
      obtain ⟨_, ⟨⟩, -⟩ := worth
    | name _ name _ listed spelled => rwa [spelled, String.ofList_toList]
  · intro listed
    exact .name text _ truth listed String.toList_ofList.symm

/-- Zero and one are small. -/
theorem small_of_truth (truth : Bool) :
    (if truth then 1 else 0 : Int).natAbs < Decimal.wordLimit := by
  cases truth <;> decide

/-- An integer stands for a truth value if it is zero or one. -/
theorem truthOfInt_eq_ok_iff (path : Path) (whole : Int) (truth : Bool) :
    truthOfInt path whole = .ok truth ↔ whole = if truth then 1 else 0 := by
  unfold truthOfInt
  by_cases zero : whole = 0
  · subst zero
    cases truth <;> simp
  · by_cases one : whole = 1
    · subst one
      cases truth <;> simp
    · cases truth <;> simp [zero, one, problem]

/-- Integers are read as truth values if they stand for one; large ones are refused before that. -/
theorem readTruth_int_iff (path : Path) (number : Int) (truth : Bool) :
    readTruth path (.int number) = .ok truth ↔ number = if truth then 1 else 0 := by
  rw [← truthOfInt_eq_ok_iff path, readTruth]
  split
  · rfl
  · next large =>
    refine iff_of_false (by rintro ⟨⟩) ?_
    intro read
    obtain rfl := (truthOfInt_eq_ok_iff path number truth).mp read
    exact large (small_of_truth truth)

/-- Machine numbers are read if they are without a fraction and stand for a truth value. -/
theorem readTruth_float_iff (path : Path) (number : Float) (truth : Bool) :
    readTruth path (.float number) = .ok truth ↔
      Decimal.truncate? number = some (if truth then 1 else 0) ∧ Decimal.isWhole number = true := by
  rw [readTruth]
  cases cut : Decimal.truncate? number with
  | none => exact iff_of_false (by rintro ⟨⟩) (by rintro ⟨⟨⟩, -⟩)
  | some whole =>
    rw [Option.some.injEq, ← truthOfInt_eq_ok_iff path]
    dsimp only
    split
    · next inside => exact (and_iff_left (Bool.and_eq_true_iff.mp inside).1).symm
    · next outside =>
      refine iff_of_false (by rintro ⟨⟩) ?_
      rintro ⟨read, exact⟩
      obtain rfl := (truthOfInt_eq_ok_iff path _ truth).mp read
      apply outside
      rw [exact, Bool.true_and]
      exact decide_eq_true (small_of_truth truth)

/-- Texts are read if they are names, and no name is one of both truth and falsehood. -/
theorem readTruth_str_iff (path : Path) (text : String) (truth : Bool) :
    readTruth path (.str text) = .ok truth ↔
      String.ofList (text.toList.map Char.toLower) ∈ if truth then trueNames else falseNames := by
  have apart : ∀ name ∈ falseNames, name ∉ trueNames := by decide
  rw [readTruth]
  split
  · next yes =>
    have listed := List.contains_iff_mem.mp yes
    cases truth with
    | true => exact iff_of_true rfl listed
    | false => exact iff_of_false (by rintro ⟨⟩) fun no => apart _ no listed
  · next notYes =>
    split
    · next no =>
      have listed := List.contains_iff_mem.mp no
      cases truth with
      | true => exact iff_of_false (by rintro ⟨⟩) (apart _ listed)
      | false => exact iff_of_true rfl listed
    · next notNo =>
      refine iff_of_false (by rintro ⟨⟩) ?_
      intro listed
      cases truth with
      | true => exact notYes (List.contains_iff_mem.mpr listed)
      | false => exact notNo (List.contains_iff_mem.mpr listed)

/-- The reader of truth values reads exactly what can be read as one. -/
theorem readTruth_eq_ok_iff (path : Path) (value : Json) (truth : Bool) :
    readTruth path value = .ok truth ↔ value.IsTruth truth := by
  have other (value : Json) (none : value.number? = none) (noText : ∀ text, value ≠ .str text) :
      ¬ value.IsTruth truth := by
    rw [isTruth_iff_isWorth value truth noText]
    rintro ⟨number, counted, -⟩
    rw [none] at counted
    cases counted
  cases value with
  | null => exact iff_of_false (by rintro ⟨⟩) (other _ rfl (by rintro text ⟨⟩))
  | bool given =>
    -- A truth value counts as the integer that stands for it.
    rw [isTruth_iff_isWorth _ _ (by rintro text ⟨⟩)]
    refine Iff.trans ?_ (Json.isWorth_int_iff (if given then 1 else 0) _).symm
    cases given <;> cases truth <;> simp [readTruth]
  | int number =>
    rw [isTruth_iff_isWorth _ _ (by rintro text ⟨⟩), Json.isWorth_int_iff]
    exact readTruth_int_iff path number truth
  | float number =>
    rw [isTruth_iff_isWorth _ _ (by rintro text ⟨⟩), Json.isWorth_float_iff]
    exact readTruth_float_iff path number truth
  | str text =>
    rw [isTruth_str_iff]
    exact readTruth_str_iff path text truth
  | arr items => exact iff_of_false (by rintro ⟨⟩) (other _ rfl (by rintro text ⟨⟩))
  | obj fields => exact iff_of_false (by rintro ⟨⟩) (other _ rfl (by rintro text ⟨⟩))

/-- A result that does not refuse a request: it is a value, or fails for another reason. -/
def NeverRejects {α : Type} (result : Except Failure α) : Prop :=
  ∀ rejection, result ≠ .error (.rejected rejection)

namespace NeverRejects

/-- A value is no refusal. -/
theorem ok {α : Type} (value : α) : NeverRejects (.ok value) := by
  rintro rejection ⟨⟩

/-- Steps that do not refuse make up steps that do not. -/
theorem bind {α β : Type} {first : Except Failure α} {next : α → Except Failure β}
    (quiet : NeverRejects first) (alsoQuiet : ∀ value, NeverRejects (next value)) :
    NeverRejects (first >>= next) := by
  intro rejection refused
  rcases (bind_eq_error_iff _ _ _).mp refused with here | ⟨value, -, there⟩
  · exact quiet rejection here
  · exact alsoQuiet value rejection there

/-- A fault is no refusal. -/
theorem ofFault {α : Type} (result : Except Fault α) : NeverRejects (Failure.ofFault result) := by
  intro rejection refused
  cases result <;> cases refused

/-- Nor is a document that cannot be read. -/
theorem ofChecked {α : Type} (result : Checked α) : NeverRejects (Failure.ofChecked result) := by
  intro rejection refused
  cases result <;> cases refused

/-- Nor is a database that is not there, -/
theorem session (db : Database) : NeverRejects db.session := by
  intro rejection refused
  obtain ⟨-, other⟩ := (Database.session_eq_error_iff _ _).mp refused
  cases other

/-- or a part of it. -/
theorem orFail {α : Type} (failure : StoreFailure) (found : Option α) :
    NeverRejects (Database.orFail failure found) := by
  intro rejection refused
  obtain ⟨-, other⟩ := (Database.orFail_eq_error_iff _ _ _).mp refused
  cases other

/-- Looking up rules refuses no request. -/
theorem getRules (db : Database) (name : String) : NeverRejects (db.getRules name) := by
  refine bind ?_ fun document => ?_
  · refine bind (session db) fun _ => bind (orFail _ _) fun rows => ?_
    split
    · exact ok _
    · exact ok _
  · split
    · exact bind (ofChecked _) fun spec => ok _
    · exact ok _

/-- Nor does recording an event. -/
theorem insertEvent (db : Database) (event : PreviewEvent) :
    NeverRejects (db.insertEvent event) := by
  have universal : NeverRejects (Database.universal event.createdAt) := by
    unfold Database.universal
    split
    · exact ok _
    · rintro rejection ⟨⟩
  have fits : NeverRejects (Database.checkColumn event.userId) := by
    unfold Database.checkColumn
    split
    · exact ok _
    · rintro rejection ⟨⟩
  exact bind universal fun _ => bind (session db) fun _ => bind (orFail _ _) fun _ =>
    bind fits fun _ => bind (orFail _ _) fun _ => ok _

/-- A verdict is no refusal. -/
theorem verdict (engine : Engine) (request : Lint.Request) :
    NeverRejects (engine.verdict request) := by
  refine bind (getRules _ _) fun found => ?_
  split
  · exact ok _
  · exact ofFault _

/-- Recording a check refuses no request. -/
theorem recordCheck (engine : Engine) (request : Lint.Request) (result : LintResult)
    (userId : Json) : NeverRejects (engine.recordCheck request result userId).1 := by
  unfold Engine.recordCheck
  split
  · exact ok _
  · split
    · rintro rejection ⟨⟩
    · split
      · exact ok _
      · next user _ failure failed =>
        intro rejection refused
        obtain rfl := Except.error.inj refused
        exact insertEvent _ _ rejection failed

/-- Once a request is valid it is not refused any more. -/
theorem lintRequest (engine : Engine) (request : Lint.Request) (userId : Json) :
    NeverRejects (engine.lintRequest request userId).1 := by
  unfold Engine.lintRequest
  split
  · next failure failed =>
    intro rejection refused
    obtain rfl := Except.error.inj refused
    exact verdict engine request rejection failed
  · split
    · next failure engine failed =>
      intro rejection refused
      obtain rfl := Except.error.inj refused
      exact recordCheck _ _ _ _ rejection (congrArg Prod.fst failed)
    · exact ok _

end NeverRejects

/-- What is given for a field, under its public key or else under its older one. -/
def Document.Key.stated? (key : Key) (fields : List (String × Json)) : Option Json :=
  (Json.lookup? key.main fields).or (Json.lookup? key.other fields)

section Fields

variable {α : Type} (path : Path) (fields : List (String × Json)) (key : Key) (read : Reader α)

/-- The value that counts is the stated one. -/
theorem map_find? : (key.find? fields).map (·.2) = key.stated? fields := by
  unfold Key.find? Key.stated?
  cases Json.lookup? key.main fields with
  | some value => rfl
  | none => cases Json.lookup? key.other fields <;> rfl

/-- A field that must be there is read exactly when its value is. -/
theorem required_eq_ok_iff (Reads : Json → α → Prop)
    (reads : ∀ path value result, read path value = .ok result ↔ Reads value result) (result : α) :
    required path fields key read = .ok result ↔
      ∃ value, key.stated? fields = some value ∧ Reads value result := by
  rw [← map_find?, required]
  cases key.find? fields with
  | none => exact iff_of_false (by rintro ⟨⟩) (by rintro ⟨_, ⟨⟩, -⟩)
  | some found =>
    obtain ⟨name, value⟩ := found
    simp [reads]

/-- A field that may be missing is read exactly when it is, or else its value is. -/
theorem plainDefault_eq_ok_iff (Reads : Json → α → Prop)
    (reads : ∀ path value result, read path value = .ok result ↔ Reads value result)
    (default result : α) :
    plainDefault path fields key default read = .ok result ↔
      (key.stated? fields = none ∧ default = result) ∨
        ∃ value, key.stated? fields = some value ∧ Reads value result := by
  rw [← map_find?, plainDefault]
  cases key.find? fields with
  | none => simp
  | some found =>
    obtain ⟨name, value⟩ := found
    simp [reads]

/-- A text is read from a text and nothing else. -/
theorem readText_eq_ok_iff (value : Json) (text : String) :
    readText path value = .ok text ↔ value = .str text := by
  cases value <;> simp [readText, problem]

end Fields

namespace Lint.Request

/-- The key of the flag for links. -/
def linkKey : Key := ⟨"hasLink", "has_link"⟩

/-- What is wrong with a request that is refused. -/
inductive Malformed : Json → Prop where
  | noObject (value : Json) (other : ∀ fields, value ≠ .obj fields) : Malformed value
  /-- A field that must be there is missing or no text. -/
  | noText (fields : List (String × Json)) (key : String) (listed : key ∈ ["subreddit", "title"])
      (unread : ∀ text, (Key.single key).stated? fields ≠ some (.str text)) :
      Malformed (.obj fields)
  | body (fields : List (String × Json)) (value : Json)
      (stated : (Key.single "body").stated? fields = some value)
      (unread : ∀ text, value ≠ .str text) : Malformed (.obj fields)
  | link (fields : List (String × Json)) (value : Json)
      (stated : linkKey.stated? fields = some value) (unread : ∀ truth, ¬ value.IsTruth truth) :
      Malformed (.obj fields)
  /-- Nothing is left of the name of the community. -/
  | nameless (fields : List (String × Json)) (name : String)
      (stated : (Key.single "subreddit").stated? fields = some (.str name))
      (empty : Community.key name = "") : Malformed (.obj fields)

/-- An object is read as a request exactly when its fields are. -/
theorem read_eq_ok_iff (fields : List (String × Json)) (request : Request) :
    read [] (.obj fields) = .ok request ↔
      (Key.single "subreddit").stated? fields = some (.str request.community) ∧
        (Key.single "title").stated? fields = some (.str request.title) ∧
        (((Key.single "body").stated? fields = none ∧ "" = request.body) ∨
          (Key.single "body").stated? fields = some (.str request.body)) ∧
        ((linkKey.stated? fields = none ∧ false = request.hasLink) ∨
          ∃ value, linkKey.stated? fields = some value ∧ value.IsTruth request.hasLink) := by
  obtain ⟨community, title, body, hasLink⟩ := request
  rw [read]
  simp only [seq_eq_ok_iff, map_eq_ok_iff, required_eq_ok_iff _ _ _ _ _ readText_eq_ok_iff,
    plainDefault_eq_ok_iff _ _ _ _ _ readText_eq_ok_iff,
    plainDefault_eq_ok_iff _ _ _ _ _ readTruth_eq_ok_iff, exists_eq_right]
  constructor
  · rintro ⟨_, _, ⟨_, _, ⟨_, _, ⟨_, named, rfl⟩, titled, rfl⟩, filled, rfl⟩, linked, same⟩
    cases same
    exact ⟨named, titled, filled, linked⟩
  · rintro ⟨named, titled, filled, linked⟩
    exact ⟨_, _, ⟨_, _, ⟨_, _, ⟨_, named, rfl⟩, titled, rfl⟩, filled, rfl⟩, linked, rfl⟩

/-- A value is valid exactly when it is an object that is read as a request, with a name of which
something is left. -/
theorem validate_eq_ok_iff (value : Json) (request : Request) :
    validate value = .ok request ↔ ∃ fields, value = .obj fields ∧
      read [] (.obj fields) = .ok request ∧ Community.key request.community ≠ "" := by
  have named (request valid : Request) :
      request.named = .ok valid ↔ request = valid ∧ Community.key valid.community ≠ "" := by
    unfold Request.named
    split
    · next empty =>
      refine iff_of_false (by rintro ⟨⟩) ?_
      rintro ⟨rfl, given⟩
      exact given (beq_iff_eq.mp empty)
    · next given =>
      rw [Except.ok.injEq]
      refine (and_iff_left_of_imp ?_).symm
      rintro rfl
      exact fun empty => given (beq_iff_eq.mpr empty)
  constructor
  · intro valid
    unfold validate at valid
    cases found : read [] value with
    | bad problems =>
      rw [found] at valid
      cases valid
    | ok given =>
      rw [found] at valid
      obtain ⟨rfl, some⟩ := (named given request).mp valid
      cases value with
      | obj fields => exact ⟨fields, rfl, found, some⟩
      | _ => cases found
  · rintro ⟨fields, rfl, found, some⟩
    rw [validate, found]
    exact (named request request).mpr ⟨rfl, some⟩

/-- Nothing is wrong with a valid value. -/
theorem not_malformed_of_validate (value : Json) (request : Request)
    (valid : validate value = .ok request) : ¬ Malformed value := by
  obtain ⟨fields, rfl, read, given⟩ := (validate_eq_ok_iff value request).mp valid
  obtain ⟨community, title, body, link⟩ := (read_eq_ok_iff fields request).mp read
  intro malformed
  cases malformed with
  | noObject _ other => exact other fields rfl
  | noText _ key listed unread =>
    simp only [List.mem_cons, List.not_mem_nil, or_false] at listed
    rcases listed with rfl | rfl
    · exact unread _ community
    · exact unread _ title
  | body _ value stated unread =>
    rcases body with ⟨missing, -⟩ | text
    · rw [missing] at stated
      cases stated
    · rw [text] at stated
      exact unread _ (Option.some.inj stated).symm
  | link _ value stated unread =>
    rcases link with ⟨missing, -⟩ | ⟨flag, found, reads⟩
    · rw [missing] at stated
      cases stated
    · rw [found] at stated
      exact unread _ (Option.some.inj stated ▸ reads)
  | nameless _ name stated empty =>
    rw [community] at stated
    exact given (Json.str.inj (Option.some.inj stated) ▸ empty)

/-- A field in which nothing is wrong can be read, or is missing. -/
theorem exists_reading {α : Type} (key : Key) (fields : List (String × Json)) (default : α)
    (Reads : Json → α → Prop)
    (sound : ∀ value, key.stated? fields = some value → ¬ ∀ result, ¬ Reads value result) :
    ∃ result, (key.stated? fields = none ∧ default = result) ∨
      ∃ value, key.stated? fields = some value ∧ Reads value result := by
  cases stated : key.stated? fields with
  | none => exact ⟨default, Or.inl ⟨rfl, rfl⟩⟩
  | some value =>
    obtain ⟨result, reads⟩ := not_forall_not.mp (sound value stated)
    exact ⟨result, Or.inr ⟨value, rfl, reads⟩⟩

/-- A value in which nothing is wrong is valid. -/
theorem exists_validate_of_sound (value : Json) (sound : ¬ Malformed value) :
    ∃ request, validate value = .ok request := by
  obtain ⟨fields, rfl⟩ : ∃ fields, value = .obj fields := by
    by_contra other
    exact sound (.noObject value (not_exists.mp other))
  have text (key : String) (listed : key ∈ ["subreddit", "title"]) :
      ∃ text, (Key.single key).stated? fields = some (.str text) := by
    by_contra unread
    exact sound (.noText fields key listed (not_exists.mp unread))
  obtain ⟨community, named⟩ := text "subreddit" (by decide)
  obtain ⟨title, titled⟩ := text "title" (by decide)
  obtain ⟨body, filled⟩ := exists_reading (.single "body") fields ""
    (fun value text => value = .str text)
    fun value stated unread => sound (.body fields value stated unread)
  obtain ⟨hasLink, linked⟩ := exists_reading linkKey fields false Json.IsTruth
    fun value stated unread => sound (.link fields value stated unread)
  refine ⟨⟨community, title, body, hasLink⟩, (validate_eq_ok_iff _ _).mpr ⟨fields, rfl, ?_, ?_⟩⟩
  · apply (read_eq_ok_iff _ _).mpr
    refine ⟨named, titled, ?_, linked⟩
    simpa only [exists_eq_right] using filled
  · intro empty
    exact sound (.nameless fields community named empty)

/-- A value is valid exactly when nothing is wrong with it. -/
theorem exists_validate_iff (value : Json) :
    (∃ request, validate value = .ok request) ↔ ¬ Malformed value := by
  constructor
  · rintro ⟨request, valid⟩
    exact not_malformed_of_validate value request valid
  · exact exists_validate_of_sound value

/-- A value is refused exactly when something is wrong with it. -/
theorem exists_rejection_iff (value : Json) :
    (∃ rejection, validate value = .error rejection) ↔ Malformed value := by
  have valid := exists_validate_iff value
  cases judged : validate value with
  | ok request =>
    refine iff_of_false (by rintro ⟨_, ⟨⟩⟩) ?_
    exact valid.mp ⟨request, judged⟩
  | error rejection =>
    refine iff_of_true ⟨rejection, rfl⟩ ?_
    by_contra sound
    obtain ⟨request, given⟩ := valid.mpr sound
    rw [judged] at given
    cases given

end Lint.Request

namespace Engine

/-- Requests are refused for what is wrong with them, before anything is looked up.

A check is refused exactly when the request is malformed, in every state of the engine and for every
user. The refusal of a malformed request is one and the same in all states, those in which no table
can be read included, and leaves the engine as it was, with its tables and its counters. A request
that is not malformed gets as far as the rules: where their table is not there, it fails for that
reason. -/
theorem requests_are_validated_first (request : Json) :
    (∀ (engine : Engine) (userId : Json),
      (∃ rejection, (engine.lint request userId).1 = .error (.rejected rejection)) ↔
        Request.Malformed request) ∧
    (Request.Malformed request → ∃ rejection, ∀ (engine : Engine) (userId : Json),
      engine.lint request userId = (.error (.rejected rejection), engine)) ∧
    (¬ Request.Malformed request → ∃ key, ∀ (engine : Engine) (userId : Json),
      engine.db.connected = true → engine.db.rules.present = false →
        engine.lint request userId = (.error (.store (.ruleRead key)), engine)) := by
  have refused (rejection : Rejection) (invalid : Request.validate request = .error rejection)
      (engine : Engine) (userId : Json) :
      engine.lint request userId = (.error (.rejected rejection), engine) := by
    rw [lint, invalid]
  refine ⟨fun engine userId => ?_, fun malformed => ?_, fun sound => ?_⟩
  · rw [← Request.exists_rejection_iff]
    constructor
    · rintro ⟨rejection, failed⟩
      cases judged : Request.validate request with
      | error cause => exact ⟨cause, rfl⟩
      | ok post =>
        rw [lint, judged] at failed
        exact absurd failed (NeverRejects.lintRequest engine post userId rejection)
    · rintro ⟨rejection, invalid⟩
      exact ⟨rejection, by rw [refused rejection invalid]⟩
  · obtain ⟨rejection, invalid⟩ := (Request.exists_rejection_iff request).mpr malformed
    exact ⟨rejection, refused rejection invalid⟩
  · obtain ⟨post, valid⟩ := (Request.exists_validate_iff request).mpr sound
    refine ⟨Community.key (Community.key post.community), fun engine userId connected missing => ?_⟩
    have unread : engine.verdict post =
        .error (.store (.ruleRead (Community.key (Community.key post.community)))) := by
      rw [verdict, Database.getRules_of_missing _ _ connected missing]
      rfl
    rw [lint, valid]
    dsimp only
    rw [lintRequest, unread]

/-- An engine without a table of rules. -/
def ruleless : Engine where
  db := { rules := { present := false } }
  traffic := offlineVisit.traffic
  now := offlineVisit.now

/-- A flag that is no truth value is refused where no rules can be read. The same request with a
flag that is one is not refused, and it is the rules that it fails for. -/
theorem undecided_flag_is_refused_first :
    (∃ rejection, ruleless.lint (.obj [("subreddit", .str "r/Cats"), ("title", .str "Cats"),
        ("has_link", .str "maybe")]) .null = (.error (.rejected rejection), ruleless)) ∧
      ∃ key, ruleless.lint (.obj [("subreddit", .str "r/Cats"), ("title", .str "Cats"),
        ("has_link", .str "Yes")]) .null = (.error (.store (.ruleRead key)), ruleless) := by
  constructor
  · obtain ⟨-, refused, -⟩ := requests_are_validated_first (.obj [("subreddit", .str "r/Cats"),
      ("title", .str "Cats"), ("has_link", .str "maybe")])
    have undecided : ∀ truth, ¬ (Json.str "maybe").IsTruth truth := by
      intro truth
      rw [isTruth_str_iff]
      cases truth <;> decide
    obtain ⟨rejection, everywhere⟩ := refused (.link _ (.str "maybe") rfl undecided)
    exact ⟨rejection, everywhere ruleless .null⟩
  · obtain ⟨-, -, goesOn⟩ := requests_are_validated_first (.obj [("subreddit", .str "r/Cats"),
      ("title", .str "Cats"), ("has_link", .str "Yes")])
    have valid : Request.validate (.obj [("subreddit", .str "r/Cats"), ("title", .str "Cats"),
        ("has_link", .str "Yes")]) = .ok ⟨"r/Cats", "Cats", "", true⟩ := rfl
    obtain ⟨key, fails⟩ := goesOn ((Request.exists_validate_iff _).mp ⟨_, valid⟩)
    exact ⟨key, fails ruleless .null rfl rfl⟩

end Engine

end Rulebook
