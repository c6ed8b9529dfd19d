import Rulebook.CommandLine.Host
import Rulebook.Proofs.Countdown
import Rulebook.Proofs.Printing

/-!
# What the status of a command tells

The status of a command and what it prints are two accounts of one outcome, and they agree. The
status of a check is that of a blocked post exactly when the verdict that is printed blocks it; the
status of the gate is that of a denial exactly when the decision that is printed denies; a sync is
done exactly when the report that is printed has no failures. Otherwise the command has failed, and
a check or a question to the gate that has failed prints nothing.

What is printed is a text. That it tells the verdict, the decision or the report is the law of
printing, so the accounts can be compared from outside: no other verdict is printed as the same
text.

The laws hold for all settings and databases, also for those that a command refuses. A line that
asks for help or makes no sense is not taken to be a command.
-/

namespace Rulebook

open Json

/-- Texts are without floating-point numbers. -/
@[simp] theorem Json.isExact_strings (items : List String) : (strings items).isExact = true := by
  rw [strings, isExact]
  induction items with
  | nil => rfl
  | cons item rest inductionHypothesis =>
    rw [List.map_cons, areExact, inductionHypothesis]
    rfl

/-- So are verdicts. -/
theorem LintResult.isExact_document (result : LintResult) : result.document.isExact = true := by
  simp [document, isExact, fieldsExact]

/-- A document tells its verdict. -/
theorem LintResult.state_of_document_eq (result other : LintResult)
    (same : result.document = other.document) : result.state = other.state := by
  have names : result.state.name = other.state.name := by
    simp only [document, Json.obj.injEq, List.cons.injEq, Prod.mk.injEq, Json.str.injEq] at same
    exact same.1.2
  cases first : result.state <;> cases second : other.state <;> simp_all [PolicyState.name]

/-- Reports are without floating-point numbers. -/
theorem SyncReport.isExact_document (report : SyncReport) : report.document.isExact = true := by
  have failures : fieldsExact (report.failed.map fun failure => (failure.1, .str failure.2)) =
      true := by
    induction report.failed with
    | nil => rfl
    | cons failure rest inductionHypothesis =>
      rw [List.map_cons, fieldsExact, inductionHypothesis]
      rfl
  simp [document, isExact, fieldsExact, failures]

/-- A document tells whether its report has failures. -/
theorem SyncReport.ok_of_document_eq (report other : SyncReport)
    (same : report.document = other.document) : report.ok = other.ok := by
  simp only [document, Json.obj.injEq, List.cons.injEq, Prod.mk.injEq, true_and, and_true] at same
  have lengths := congrArg List.length same.2.2
  rw [List.length_map, List.length_map] at lengths
  rw [ok, ok, Bool.eq_iff_iff, List.isEmpty_iff_length_eq_zero, List.isEmpty_iff_length_eq_zero,
    lengths]

/-- Decisions are without floating-point numbers. -/
theorem GateDecision.isExact_sparseDocument (decision : GateDecision) :
    decision.sparseDocument.isExact = true := by
  obtain ⟨canQueue, required, current, reason⟩ := decision
  cases required <;> cases current <;> cases reason <;> rfl

/-- A document tells whether its decision allows, and how many clean checks it has counted. -/
theorem GateDecision.of_sparseDocument_eq (decision other : GateDecision)
    (same : decision.sparseDocument = other.sparseDocument) :
    decision.canQueue = other.canQueue ∧ decision.current = other.current := by
  have allows (decision : GateDecision) :
      decision.sparseDocument.get? "canQueue" = some (.bool decision.canQueue) := by
    obtain ⟨canQueue, required, current, reason⟩ := decision
    cases required <;> cases current <;> cases reason <;> rfl
  have counts (decision : GateDecision) :
      decision.sparseDocument.get? "current" = decision.current.map .int := by
    obtain ⟨canQueue, required, current, reason⟩ := decision
    cases required <;> cases current <;> cases reason <;> rfl
  constructor
  · have answers := allows decision
    rw [same, allows other] at answers
    exact (Json.bool.inj (Option.some.inj answers)).symm
  · have counted := counts decision
    rw [same, counts other] at counted
    exact (Option.map_injective (fun _ _ same => Json.int.inj same) counted).symm

/-- The counts of a user allow exactly with enough clean checks. -/
theorem Engine.canQueue_iff_of_previewStats (engine : Engine) (userId : Int) (stats : PreviewStats)
    (counted : engine.previewStats userId = .ok stats) :
    stats.canQueue = true ↔ stats.required ≤ stats.okCount := by
  simp only [previewStats, bind_eq_ok_iff] at counted
  obtain ⟨since, -, threshold, isNumber, required, reads, same⟩ := counted
  obtain rfl := Except.ok.inj same
  refine Number.atMost_int_iff ["required"] engine.gate.requiredOkPreviews threshold required _
    ?_ ?_
  · cases number : engine.gate.requiredOkPreviews.number with
    | error fault =>
      rw [number] at isNumber
      cases isNumber
    | ok value =>
      rw [number] at isNumber
      rw [Except.ok.inj isNumber]
  · cases read : Document.readInteger ["required"] engine.gate.requiredOkPreviews with
    | bad problems =>
      rw [read] at reads
      cases reads
    | ok value =>
      rw [read] at reads
      rw [Except.ok.inj reads]

namespace CommandLine

/-- What the gate prints: counts, a decision, and how many clean checks remain. -/
def gateSheet (stats : PreviewStats) (decision : GateDecision) (remaining : Int) : Json :=
  .obj [("stats", stats.document), ("decision", decision.sparseDocument),
    ("remaining", .int remaining)]

/-- Sheets are without floating-point numbers. -/
theorem isExact_gateSheet (stats : PreviewStats) (decision : GateDecision) (remaining : Int) :
    (gateSheet stats decision remaining).isExact = true := by
  have decided := decision.isExact_sparseDocument
  simp [gateSheet, PreviewStats.document, isExact, fieldsExact, decided]

/-- A sheet tells its counts, whether it allows, what it has counted and what remains. -/
theorem of_gateSheet_eq (stats others : PreviewStats) (decision other : GateDecision)
    (remaining otherRemaining : Int)
    (same : gateSheet stats decision remaining = gateSheet others other otherRemaining) :
    stats = others ∧ decision.canQueue = other.canQueue ∧ decision.current = other.current ∧
      remaining = otherRemaining := by
  simp only [gateSheet, Json.obj.injEq, List.cons.injEq, Prod.mk.injEq, true_and, and_true,
    Json.int.injEq] at same
  obtain ⟨counts, decisions, remains⟩ := same
  obtain ⟨canQueue, current⟩ := decision.of_sparseDocument_eq other decisions
  refine ⟨?_, canQueue, current, remains⟩
  simp only [PreviewStats.document, Json.obj.injEq, List.cons.injEq, Prod.mk.injEq, true_and,
    and_true, Json.int.injEq, Json.bool.injEq] at counts
  obtain ⟨clean, all, allows, required⟩ := counts
  cases stats
  cases others
  simp_all

namespace Output

/-- An output is a document and a line end, and nothing else. -/
def Prints (output : Output) (value : Json) : Prop := output.text = value.indented ++ "\n"

/-- An output prints one document at most. -/
theorem Prints.unique {output : Output} {value other : Json} (prints : output.Prints value)
    (also : output.Prints other) (exact : value.isExact = true) (alsoExact : other.isExact = true) :
    value = other := by
  have texts : value.indented ++ "\n" = other.indented ++ "\n" := prints.symm.trans also
  exact indented_inj value other exact alsoExact ((String.append_left_inj _).mp texts)

/-- A command that failed prints no document. -/
theorem not_prints_failed (value : Json) : ¬ failed.Prints value := by
  intro prints
  have lengths := congrArg String.length prints
  rw [String.length_append] at lengths
  cases lengths

/-- A document is printed under its status, or the command fails. -/
theorem document_cases (status : Status) (value : Json) :
    document status value = failed ∨
      (document status value).status = status ∧ (document status value).Prints value := by
  unfold document
  split
  · exact Or.inr ⟨rfl, rfl⟩
  · exact Or.inl rfl

/-- Something that is printed has a property exactly when what was meant to be printed has it, if
its document tells. -/
theorem Prints.exists_iff {α : Type} {output : Output} (print : α → Json) (Holds : α → Prop)
    (meant : α) (prints : output.Prints (print meant))
    (exact : ∀ other, (print other).isExact = true)
    (told : ∀ other, print meant = print other → (Holds meant ↔ Holds other)) :
    (∃ other, output.Prints (print other) ∧ Holds other) ↔ Holds meant := by
  constructor
  · rintro ⟨other, also, holds⟩
    exact (told other (prints.unique also (exact meant) (exact other))).mpr holds
  · exact fun holds => ⟨meant, prints, holds⟩

end Output

/-- The status of a check agrees with the verdict that is printed. -/
structure TellsVerdict (output : Output) : Prop where
  blocked : output.status.code = 2 ↔
    ∃ result : LintResult, output.Prints result.document ∧ result.state = .blocked
  passed : output.status.code = 0 ↔
    ∃ result : LintResult, output.Prints result.document ∧ result.state ≠ .blocked
  otherwise : output.status.code ≠ 2 → output.status.code ≠ 0 →
    output.status.code = 1 ∧ output.text = ""

/-- The status of a question to the gate agrees with the decision that is printed. -/
structure TellsDecision (output : Output) : Prop where
  denied : output.status.code = 3 ↔
    ∃ stats decision remaining, output.Prints (gateSheet stats decision remaining) ∧
      decision.canQueue = false
  missing : ∀ stats decision remaining, output.Prints (gateSheet stats decision remaining) →
    decision.canQueue = false →
      decision.current = some stats.okCount ∧ (1 ≤ stats.required → 1 ≤ remaining)
  allowed : output.status.code = 0 ↔
    ∃ stats decision remaining, output.Prints (gateSheet stats decision remaining) ∧
      decision.canQueue = true ∧ remaining = 0
  otherwise : output.status.code ≠ 3 → output.status.code ≠ 0 →
    output.status.code = 1 ∧ output.text = ""

/-- The status of a sync agrees with the report that is printed. -/
structure TellsReport (output : Output) : Prop where
  done : output.status.code = 0 ↔
    ∃ report : SyncReport, output.Prints report.document ∧ report.failed = []
  otherwise : output.status.code ≠ 0 → output.status.code = 1

/-- The status of a command agrees with what it prints. Other commands than these three print
nothing when they fail, and are done otherwise. -/
def Command.Tells (output : Output) : Command → Prop
  | .lint _ _ _ _ _ => TellsVerdict output
  | .gate _ => TellsDecision output
  | .sync _ => TellsReport output
  | .addCommunity _ _ | .showCommunity _ | .initDb =>
    output.status.code = 0 ∨ output.status.code = 1 ∧ output.text = ""

/-- A check that failed tells so. -/
theorem TellsVerdict.of_failed : TellsVerdict .failed where
  blocked := iff_of_false (by decide) fun ⟨_, prints, _⟩ => Output.not_prints_failed _ prints
  passed := iff_of_false (by decide) fun ⟨_, prints, _⟩ => Output.not_prints_failed _ prints
  otherwise _ _ := ⟨rfl, rfl⟩

/-- A verdict is printed under its status. -/
theorem TellsVerdict.of_verdictOutput (result : LintResult) :
    TellsVerdict (verdictOutput result) := by
  unfold verdictOutput
  rcases Output.document_cases (if result.state == .blocked then .blocked else .done)
    result.document with failed | ⟨status, prints⟩
  · rw [failed]
    exact .of_failed
  · have told (Holds : PolicyState → Prop) :=
      prints.exists_iff LintResult.document (fun result => Holds result.state) result
        LintResult.isExact_document fun other same => by
          rw [result.state_of_document_eq other same]
    refine ⟨?_, ?_, ?_⟩
    · rw [told (· = .blocked), status]
      cases result.state <;> decide
    · rw [told (· ≠ .blocked), status]
      cases result.state <;> decide
    · rw [status]
      cases result.state <;> simp [Status.code]

/-- A question to the gate that failed tells so. -/
theorem TellsDecision.of_failed : TellsDecision .failed where
  denied := iff_of_false (by decide) fun ⟨_, _, _, prints, _⟩ => Output.not_prints_failed _ prints
  missing _ _ _ prints := absurd prints (Output.not_prints_failed _)
  allowed := iff_of_false (by decide) fun ⟨_, _, _, prints, _⟩ => Output.not_prints_failed _ prints
  otherwise _ _ := ⟨rfl, rfl⟩

/-- Whatever sheet is printed for counts, it is that of the counts and of their decision. -/
theorem of_prints_gateDocument (stats others : PreviewStats) (decision : GateDecision)
    (remaining : Int) (output : Output) (prints : output.Prints (gateDocument stats))
    (also : output.Prints (gateSheet others decision remaining)) :
    stats = others ∧ stats.decide.canQueue = decision.canQueue ∧
      stats.decide.current = decision.current ∧ stats.decide.remaining = remaining :=
  of_gateSheet_eq stats others stats.decide decision _ remaining
    (prints.unique also (isExact_gateSheet _ _ _) (isExact_gateSheet _ _ _))

/-- A denial is printed under its status, with what is missing. -/
theorem TellsDecision.of_denied (stats : PreviewStats) (output : Output)
    (denies : stats.canQueue = false) (short : stats.okCount < stats.required)
    (status : output.status = .denied) (prints : output.Prints (gateDocument stats)) :
    TellsDecision output := by
  have decision : stats.decide = ⟨false, some stats.required, some stats.okCount,
      some GateDecision.notMet⟩ := by
    rw [PreviewStats.decide, denies]
    rfl
  have printed := of_prints_gateDocument stats
  constructor
  · rw [status]
    exact iff_of_true rfl ⟨stats, stats.decide, _, prints, by rw [decision]⟩
  · intro others other remaining also _
    obtain ⟨rfl, -, current, rfl⟩ := printed others other remaining output prints also
    rw [← current, decision]
    refine ⟨rfl, fun _ => ?_⟩
    have lacking : 1 ≤ stats.required - stats.okCount := by omega
    exact Int.le_trans lacking (Int.le_max_left _ 0)
  · rw [status]
    refine iff_of_false (by decide) ?_
    rintro ⟨others, other, remaining, also, allows, -⟩
    obtain ⟨-, canQueue, -⟩ := printed others other remaining output prints also
    rw [decision, allows] at canQueue
    cases canQueue
  · intro other
    rw [status] at other
    exact absurd rfl other

/-- A permission is printed under its status, and nothing remains. -/
theorem TellsDecision.of_allowed (stats : PreviewStats) (output : Output)
    (allows : stats.canQueue = true) (status : output.status = .done)
    (prints : output.Prints (gateDocument stats)) : TellsDecision output := by
  have decision : stats.decide = { canQueue := true } := by
    rw [PreviewStats.decide, allows]
    rfl
  have denial (others : PreviewStats) (other : GateDecision) (remaining : Int)
      (also : output.Prints (gateSheet others other remaining)) (denies : other.canQueue = false) :
      False := by
    obtain ⟨-, canQueue, -⟩ :=
      of_prints_gateDocument stats others other remaining output prints also
    rw [decision, denies] at canQueue
    cases canQueue
  constructor
  · rw [status]
    refine iff_of_false (by decide) ?_
    rintro ⟨others, other, remaining, also, denies⟩
    exact denial others other remaining also denies
  · intro others other remaining also denies
    exact (denial others other remaining also denies).elim
  · rw [status]
    exact iff_of_true rfl ⟨stats, stats.decide, _, prints, by rw [decision], by rw [decision]; rfl⟩
  · intro _ other
    rw [status] at other
    exact absurd rfl other

/-- A decision is printed under its status. The counts come from one reading of the log, so what
remains is what they lack. -/
theorem TellsDecision.of_gateOutput (stats : PreviewStats)
    (enough : stats.canQueue = true ↔ stats.required ≤ stats.okCount) :
    TellsDecision (gateOutput stats) := by
  unfold gateOutput
  rcases Output.document_cases (if stats.canQueue then .done else .denied) (gateDocument stats) with
    failed | ⟨status, prints⟩
  · rw [failed]
    exact .of_failed
  · by_cases allows : stats.canQueue = true
    · rw [if_pos allows] at status prints ⊢
      exact .of_allowed stats _ allows status prints
    · have short : stats.okCount < stats.required :=
        Int.not_le.mp fun met => allows (enough.mpr met)
      rw [if_neg allows] at status prints ⊢
      exact .of_denied stats _ (Bool.not_eq_true _ ▸ allows) short status prints

/-- A sync that failed tells so. -/
theorem TellsReport.of_failed : TellsReport .failed where
  done := iff_of_false (by decide) fun ⟨_, prints, _⟩ => Output.not_prints_failed _ prints
  otherwise _ := rfl

/-- A report is printed under its status. -/
theorem TellsReport.of_reportOutput (report : SyncReport) : TellsReport (reportOutput report) := by
  unfold reportOutput
  rcases Output.document_cases (if report.ok then .done else .failed) report.document with
    failed | ⟨status, prints⟩
  · rw [failed]
    exact .of_failed
  · have told := prints.exists_iff SyncReport.document (·.failed = []) report
      SyncReport.isExact_document fun other same => by
        rw [← List.isEmpty_iff, ← List.isEmpty_iff, ← SyncReport.ok, ← SyncReport.ok,
          report.ok_of_document_eq other same]
    refine ⟨?_, ?_⟩
    · rw [told, status, ← List.isEmpty_iff, ← SyncReport.ok]
      cases report.ok <;> decide
    · rw [status]
      cases report.ok <;> simp [Status.code]

/-- A command that failed tells so. -/
theorem Command.tells_failed (command : Command) : command.Tells .failed := by
  cases command with
  | lint community title body hasLink userId => exact TellsVerdict.of_failed
  | gate userId => exact TellsDecision.of_failed
  | sync community => exact TellsReport.of_failed
  | addCommunity name displayName => exact Or.inr ⟨rfl, rfl⟩
  | showCommunity name => exact Or.inr ⟨rfl, rfl⟩
  | initDb => exact Or.inr ⟨rfl, rfl⟩

/-- A sync of one community tells what has come of it. -/
theorem TellsReport.of_executeSyncOne (engine : Engine) (community : String) :
    TellsReport (executeSyncOne engine community).1 := by
  unfold executeSyncOne
  dsimp only
  split
  · dsimp only
    exact .of_reportOutput _
  · dsimp only
    split
    · exact .of_reportOutput _
    · exact .of_failed

/-- So does a sync of all of them. -/
theorem TellsReport.of_executeSyncAll (engine : Engine) :
    TellsReport (executeSyncAll engine).1 := by
  unfold executeSyncAll
  split
  · dsimp only
    exact .of_reportOutput _
  · exact .of_failed

/-- A check tells what has come of it. -/
theorem TellsVerdict.of_executeLint (engine : Engine) (request : Lint.Request)
    (userId : Option Int) : TellsVerdict (executeLint engine request userId).1 := by
  unfold executeLint
  split
  · exact .of_failed
  · split
    · exact .of_verdictOutput _
    · exact .of_failed

/-- A question to the gate tells what has come of it. -/
theorem TellsDecision.of_executeGate (engine : Engine) (userId : Int) :
    TellsDecision (executeGate engine userId) := by
  unfold executeGate
  split
  · next stats counted =>
    exact .of_gateOutput stats (engine.canQueue_iff_of_previewStats userId stats counted)
  · exact .of_failed

/-- A command that shows an overview is done when it prints one. -/
theorem executeShow_code (engine : Engine) (name : String) :
    (executeShow engine name).status.code = 0 ∨
      (executeShow engine name).status.code = 1 ∧ (executeShow engine name).text = "" := by
  unfold executeShow
  split
  · next overview _ =>
    cases overview.isNull with
    | true => exact Or.inr ⟨rfl, rfl⟩
    | false =>
      rcases Output.document_cases .done overview with failed | ⟨status, -⟩
      · exact Or.inr ⟨congrArg (·.status.code) failed, congrArg (·.text) failed⟩
      · exact Or.inl (congrArg Status.code status)
  · exact Or.inr ⟨rfl, rfl⟩

/-- A command tells what has come of it. -/
theorem Command.tells_execute (engine : Engine) (command : Command) :
    command.Tells (command.execute engine).1 := by
  cases command with
  | sync community =>
    cases community with
    | none => exact TellsReport.of_executeSyncAll engine
    | some community => exact TellsReport.of_executeSyncOne engine community
  | lint community title body hasLink userId =>
    exact TellsVerdict.of_executeLint engine ⟨community, title, body, hasLink⟩ userId
  | gate userId => exact TellsDecision.of_executeGate engine userId
  | addCommunity name displayName =>
    simp only [Tells, execute, executeAdd]
    split
    · exact Or.inl rfl
    · exact Or.inl rfl
    · exact Or.inr ⟨rfl, rfl⟩
  | showCommunity name => exact executeShow_code engine name
  | initDb =>
    simp only [Tells, execute, executeInit]
    split
    · exact Or.inl rfl
    · exact Or.inr ⟨rfl, rfl⟩

/-- Exit codes tell the truth. Whatever settings, database and source a command finds, and whatever
its arguments are, its status agrees with what it prints.

Proof: a command breaks off before it is executed or with a failure, and then prints nothing, or it
prints one document under the status that goes with it. The text tells the document. -/
theorem Host.run_tells (host : Host) (words : List String) (invocation : Invocation)
    (accepted : Demand.read words = .run invocation) :
    invocation.command.Tells (host.run words).1 := by
  simp only [run, accepted, invoke]
  split
  · exact invocation.command.tells_failed
  · exact invocation.command.tells_execute _

/-- A host with a database in memory, which has no tables yet. -/
def emptyHost : Host where
  documents := [(defaultConfigPath, .obj
    [("sync", .obj [("request_timeout_sec", .int 10), ("batch_delay_sec", .int 2)]),
      ("postgres", .obj [("url", .str "sqlite://")])])]
  now := ⟨⟨2026, 3, 5, by decide⟩, 36000000000, some 0, by decide⟩

/-- Without a log the gate is closed, and the decision that is printed denies. -/
theorem closed_gate_denies :
    (emptyHost.run ["gate", "7"]).1.status.code = 3 ∧
      ∃ stats decision remaining,
        (emptyHost.run ["gate", "7"]).1.Prints (gateSheet stats decision remaining) ∧
          decision.canQueue = false ∧ decision.current = some stats.okCount := by
  have accepted : Demand.read ["gate", "7"] = .run ⟨.gate 7, defaultConfigPath, none⟩ := by
    decide +kernel
  have denied : (emptyHost.run ["gate", "7"]).1.status.code = 3 := by decide +kernel
  have tells : TellsDecision (emptyHost.run ["gate", "7"]).1 :=
    emptyHost.run_tells ["gate", "7"] _ accepted
  obtain ⟨stats, decision, remaining, prints, denies⟩ := tells.denied.mp denied
  obtain ⟨current, -⟩ := tells.missing stats decision remaining prints denies
  exact ⟨denied, stats, decision, remaining, prints, denies, current⟩

end CommandLine

end Rulebook
