import Rulebook.Lint.Check
import Rulebook.Proofs.Redaction
import Rulebook.Proofs.Store

/-!
# Previews on record

A check records at most one event, and the event holds a preview of the title and one of the
body. Nothing else of the post is kept, so what the log shows of links is what redaction
leaves in these two texts.
-/

namespace Rulebook.Engine

open Lint Document

/-- A check leaves the events alone or appends the one event that records it. -/
theorem recordCheck_rows (engine : Engine) (request : Request) (result : LintResult)
    (userId : Json) :
    (engine.recordCheck request result userId).2.db.events.rows = engine.db.events.rows ∨
      ∃ user id createdAt, (engine.recordCheck request result userId).2.db.events.rows =
        engine.db.events.rows ++ [{ engine.eventOf request result user with id, createdAt }] := by
  unfold recordCheck
  split
  · exact Or.inl rfl
  · split
    · exact Or.inl rfl
    · next user read =>
      cases inserted : engine.db.insertEvent (engine.eventOf request result user) with
      | error failure => exact Or.inl rfl
      | ok appended =>
        obtain ⟨id, createdAt, rows⟩ := Database.insertEvent_rows _ _ _ _ inserted
        exact Or.inr ⟨user, id, createdAt, rows⟩

/-- Counting the verdict touches no events. -/
theorem lintRequest_rows (engine : Engine) (request : Request) (userId : Json)
    (result : LintResult) (judged : engine.verdict request = .ok result) :
    (engine.lintRequest request userId).2.db.events.rows =
      (engine.recordCheck request result userId).2.db.events.rows := by
  simp only [lintRequest, judged]
  split <;> next recorded => simp [recorded, record]

/-- A preview counts no link exactly when it is clear, and whether a recorded event shows a
link is decided in this way by the two texts of its post alone. A request that fails, and one
without a user, records nothing. -/
theorem previews_linkFree_iff_clear (text : String) (limit : Int) (engine : Engine)
    (request userId : Json) :
    (countLinks (redactPreview text limit) = 0 ↔ PreviewClear text limit) ∧
      ((engine.lint request userId).2.db.events.rows = engine.db.events.rows ∨
        ∃ post event, Request.validate request = .ok post ∧
          (engine.lint request userId).2.db.events.rows = engine.db.events.rows ++ [event] ∧
          (countLinks event.titlePreview = 0 ↔ PreviewClear post.title titlePreviewLimit) ∧
          (countLinks event.bodyPreview = 0 ↔ PreviewClear post.body bodyPreviewLimit)) := by
  refine ⟨countLinks_redactPreview_eq_zero_iff text limit, ?_⟩
  unfold lint
  cases validated : Request.validate request with
  | error rejection => exact Or.inl rfl
  | ok post =>
    cases judged : engine.verdict post with
    | error failure => exact Or.inl (by simp [lintRequest, judged])
    | ok result =>
      rw [lintRequest_rows engine post userId result judged]
      rcases recordCheck_rows engine post result userId with kept | ⟨user, id, createdAt, rows⟩
      · exact Or.inl kept
      · exact Or.inr ⟨post, _, rfl, rows,
          countLinks_redactPreview_eq_zero_iff post.title titlePreviewLimit,
          countLinks_redactPreview_eq_zero_iff post.body bodyPreviewLimit⟩

end Rulebook.Engine
