import Rulebook.Pattern.Reader

/-!
# The steps of the reader

A reader of patterns only ever takes tokens from the front, so what is ahead of it is always an end
of the text that it began with. A step keeps to a text when that is so after it as well, and when it
rejects the text as malformed if it rejects it at all.

What the calls within one another need is counted by the opening parentheses ahead, with two calls
for each. What room there is besides is spare: it grows when a parenthesis is taken, and a part that
is read within what is under way has to do with less of it.

The steps are gone through in the order of the reader, from those that take a token to those that
read a set, a mark, a flag or a name. Those that read a count or switch flags on keep to some texts
only and are not among them.
-/

namespace Rulebook.Pattern

/-- The text that tokens stand for. -/
def spelled (ahead : List Token) : List Char := ahead.flatMap Token.chars

/-- A text is the text of its tokens. -/
theorem spelled_tokens (cs : List Char) : spelled (tokens cs) = cs := by
  fun_induction tokens cs with
  | case1 => rfl
  | case2 => rfl
  | case3 c rest inductionHypothesis =>
    simpa [spelled, Token.chars] using inductionHypothesis
  | case4 c rest _ _ inductionHypothesis =>
    simpa [spelled, Token.chars] using inductionHypothesis

/-- A step settles when it reads on, with a result of a kind, or rejects the text as malformed. -/
def Settles {α : Type} (Post : α → Draft → Prop) (step : Step α) (draft : Draft) : Prop :=
  match step.run draft with
  | .ok (value, after) => Post value after
  | .error defect => defect = .malformed

section Settles

variable {α β : Type} {Post : α → Draft → Prop}

@[simp] theorem settles_pure (value : α) (draft : Draft) :
    Settles Post (pure value) draft ↔ Post value draft := Iff.rfl

@[simp] theorem settles_malformed (draft : Draft) : Settles Post malformed draft := rfl

@[simp] theorem settles_get {Post : Draft → Draft → Prop} (draft : Draft) :
    Settles Post get draft ↔ Post draft draft := Iff.rfl

@[simp] theorem settles_set {Post : PUnit → Draft → Prop} (next draft : Draft) :
    Settles Post (set next) draft ↔ Post ⟨⟩ next := Iff.rfl

@[simp] theorem settles_modify {Post : PUnit → Draft → Prop} (change : Draft → Draft)
    (draft : Draft) : Settles Post (modify change) draft ↔ Post ⟨⟩ (change draft) := Iff.rfl

@[simp] theorem settles_bind {Post : β → Draft → Prop} (first : Step α) (next : α → Step β)
    (draft : Draft) :
    Settles Post (first >>= next) draft ↔
      Settles (fun value after => Settles Post (next value) after) first draft := by
  unfold Settles
  rw [StateT.run_bind]
  cases first.run draft <;> rfl

@[simp] theorem settles_peek {Post : Option Token → Draft → Prop} (draft : Draft) :
    Settles Post peek draft ↔ Post draft.ahead.head? draft := Iff.rfl

/-- A step that settles on results of a kind settles on those of a wider one. -/
theorem Settles.mono {Wide : α → Draft → Prop} {step : Step α} {draft : Draft}
    (settles : Settles Post step draft) (wider : ∀ value after, Post value after → Wide value after) :
    Settles Wide step draft := by
  unfold Settles at *
  split
  · next value after outcome =>
    rw [outcome] at settles
    exact wider value after settles
  · next defect outcome =>
    rw [outcome] at settles
    exact settles

/-- A step settles when its first part does and the rest settles after it. -/
theorem Settles.bind {Final : β → Draft → Prop} {first : Step α} {next : α → Step β}
    {draft : Draft} (settles : Settles Post first draft)
    (further : ∀ value after, Post value after → Settles Final (next value) after) :
    Settles Final (first >>= next) draft :=
  (settles_bind first next draft).mpr (settles.mono further)

/-- A step that is chosen by a test settles when both choices do. -/
theorem settles_ite {test : Prop} [Decidable test] {step other : Step α} {draft : Draft}
    (yes : test → Settles Post step draft) (no : ¬ test → Settles Post other draft) :
    Settles Post (if test then step else other) draft := by
  split
  · next passed => exact yes passed
  · next failed => exact no failed

/-- A step settles when either first part does and the rest settles after it. -/
theorem settles_ite_bind {Final : β → Draft → Prop} {test : Prop} [Decidable test]
    {first other : Step α} {next : α → Step β} {draft : Draft} (Mid : α → Draft → Prop)
    (yes : test → Settles Mid first draft) (no : ¬ test → Settles Mid other draft)
    (further : ∀ value after, Mid value after → Settles Final (next value) after) :
    Settles Final (if test then first >>= next else other >>= next) draft :=
  settles_ite (fun passed => (yes passed).bind further) fun failed => (no failed).bind further

end Settles

/-- The draft after its first token. -/
def Draft.drop (draft : Draft) : Draft := { draft with ahead := draft.ahead.tail }

/-- Taking a token settles on the one ahead and leaves the others. -/
theorem settles_take {Post : Option Token → Draft → Prop} {draft : Draft}
    (given : Post draft.ahead.head? draft.drop) : Settles Post take draft := by
  obtain ⟨platform, room, ahead, flags, names, widths, behindFrom, mentioned, spoiled⟩ := draft
  cases ahead with
  | nil => exact given
  | cons token rest =>
    simp only [take, settles_bind, settles_get]
    split
    · exact settles_malformed _
    · rw [settles_bind, settles_set, settles_pure]
      exact given

/-- A character is accepted when it is ahead, and then it is taken. -/
theorem settles_accept {Post : Bool → Draft → Prop} (c : Char) {draft : Draft}
    (here : draft.ahead.head? = some (.plain c) → Post true draft.drop)
    (elsewhere : Post false draft) : Settles Post (accept c) draft := by
  simp only [accept, settles_bind, settles_peek]
  split
  · next same =>
    rw [settles_bind]
    exact settles_take (here (beq_iff_eq.mp same))
  · exact elsewhere

/-- A draft that reads a text is at an end of it, all scripts are not flagged for the whole pattern,
and there is room for the groups ahead and for `spare` calls besides. -/
structure Draft.Reads (text : List Char) (spare : Nat) (draft : Draft) : Prop where
  ahead : spelled draft.ahead <:+ text
  narrow : draft.flags.unicode = false
  roomy : 2 * (spelled draft.ahead).count '(' + spare ≤ draft.room

/-- What is ahead is the characters of the token ahead and what is ahead after it. -/
theorem Draft.spelled_of_head? {draft : Draft} {token : Token}
    (next : draft.ahead.head? = some token) :
    spelled draft.ahead = token.chars ++ spelled draft.drop.ahead := by
  obtain ⟨rest, split⟩ := List.head?_eq_some_iff.mp next
  simp only [Draft.drop, split, List.tail_cons, spelled, List.flatMap_cons]

/-- Room that is spare need not be spared. -/
theorem Draft.Reads.mono {text : List Char} {spare less : Nat} {draft : Draft}
    (reads : draft.Reads text spare) (fewer : less ≤ spare) : draft.Reads text less :=
  ⟨reads.ahead, reads.narrow, Nat.le_trans (Nat.add_le_add_left fewer _) reads.roomy⟩

/-- A draft still reads a text when what is ahead is an end of what was ahead. -/
theorem Draft.Reads.of_suffix {text : List Char} {spare : Nat} {draft after : Draft}
    (reads : draft.Reads text spare) (front : spelled after.ahead <:+ spelled draft.ahead)
    (flags : after.flags = draft.flags) (room : after.room = draft.room) :
    after.Reads text spare := by
  refine ⟨front.trans reads.ahead, flags ▸ reads.narrow, ?_⟩
  have fewer := front.sublist.count_le '('
  have roomy := reads.roomy
  omega

/-- A draft still reads a text after its first token. -/
theorem Draft.Reads.drop {text : List Char} {spare : Nat} {draft : Draft}
    (reads : draft.Reads text spare) : draft.drop.Reads text spare := by
  refine reads.of_suffix ?_ rfl rfl
  cases next : draft.ahead.head? with
  | none =>
    rw [List.head?_eq_none_iff] at next
    simp only [Draft.drop, next, List.tail_nil, List.suffix_rfl]
  | some token =>
    rw [Draft.spelled_of_head? next]
    exact List.suffix_append token.chars _

/-- The room for a group is spare once its parenthesis is taken. -/
theorem Draft.Reads.drop_open {text : List Char} {spare : Nat} {draft : Draft}
    (reads : draft.Reads text spare) (opens : draft.ahead.head? = some (.plain '(')) :
    draft.drop.Reads text (spare + 2) := by
  refine ⟨reads.drop.ahead, reads.narrow, ?_⟩
  have roomy := reads.roomy
  rw [Draft.spelled_of_head? opens, Token.chars, List.count_append, List.count_singleton_self]
    at roomy
  have same : draft.drop.room = draft.room := rfl
  omega

/-- A step keeps to a text when it settles on drafts that still read it and have as much room. -/
def Keeps {α : Type} (text : List Char) (spare : Nat) (step : Step α) : Prop :=
  ∀ draft, draft.Reads text spare → Settles (fun _ after => after.Reads text spare) step draft

section Keeps

variable {α β : Type} {text : List Char} {spare : Nat}

theorem keeps_pure (value : α) : Keeps text spare (pure value) := fun _ reads => reads

theorem keeps_malformed : Keeps text spare (malformed : Step α) :=
  fun _ _ => settles_malformed _

/-- A step keeps to a text when its first part does and the rest does with any result of it. -/
theorem Keeps.bind {first : Step α} {next : α → Step β} (keeps : Keeps text spare first)
    (further : ∀ value, Keeps text spare (next value)) : Keeps text spare (first >>= next) :=
  fun draft reads => (keeps draft reads).bind fun value after => further value after

/-- A step that is chosen by a test keeps to a text when both choices do. -/
theorem Keeps.ite {test : Prop} [Decidable test] {step other : Step α}
    (yes : Keeps text spare step) (no : Keeps text spare other) :
    Keeps text spare (if test then step else other) :=
  fun draft reads => settles_ite (fun _ => yes draft reads) fun _ => no draft reads

/-- A part keeps to a text within what is under way when it does with less room by its calls. -/
theorem keeps_within (calls : Nat) {part : Step α} (keeps : Keeps text spare part) :
    Keeps text (spare + calls) (within calls part) := by
  intro draft reads
  have roomy := reads.roomy
  rw [within, settles_bind, settles_get]
  refine settles_ite (fun scarce => ?_) fun _ => ?_
  · omega
  · rw [settles_bind, settles_set]
    have readsPart : Draft.Reads text spare { draft with room := draft.room - calls } := by
      refine ⟨reads.ahead, reads.narrow, ?_⟩
      dsimp only
      omega
    refine (keeps _ readsPart).bind fun given after readsAfter => ?_
    rw [settles_bind, settles_modify, settles_pure]
    refine ⟨readsAfter.ahead, readsAfter.narrow, ?_⟩
    rw [← Nat.add_assoc]
    exact Nat.add_le_add_right readsAfter.roomy calls

theorem keeps_get : Keeps text spare get := fun _ reads => reads

/-- What else a draft holds is changed freely. -/
theorem keeps_modify (change : Draft → Draft)
    (stays : ∀ draft, (change draft).ahead = draft.ahead ∧ (change draft).flags = draft.flags ∧
      (change draft).room = draft.room) :
    Keeps text spare (modify change) := by
  intro draft reads
  obtain ⟨ahead, flags, room⟩ := stays draft
  exact reads.of_suffix (ahead ▸ List.suffix_rfl) flags room

theorem keeps_peek : Keeps text spare peek := fun _ reads => reads

theorem keeps_take : Keeps text spare take := fun _ reads => settles_take reads.drop

theorem keeps_accept (c : Char) : Keeps text spare (accept c) :=
  fun _ reads => settles_accept c (fun _ => reads.drop) reads

theorem keeps_demand (c : Char) : Keeps text spare (demand c) :=
  (keeps_accept c).bind fun _ => keeps_malformed.ite (keeps_pure _)

/-- Characters are taken from the front of what is ahead. -/
theorem settles_takeSome (passes : Char → Bool) (count : Nat) (draft : Draft) :
    Settles (fun found after => found ++ spelled after.ahead = spelled draft.ahead ∧
      after.flags = draft.flags ∧ after.room = draft.room ∧ ∀ c ∈ found, passes c = true)
        (takeSome passes count) draft := by
  induction count generalizing draft with
  | zero => exact ⟨rfl, rfl, rfl, List.forall_mem_nil _⟩
  | succ count inductionHypothesis =>
    simp only [takeSome, settles_bind, settles_peek]
    split
    · next c next =>
      split
      · next passed =>
        rw [settles_bind]
        refine settles_take ((inductionHypothesis draft.drop).bind ?_)
        rintro found after ⟨front, flags, room, others⟩
        refine ⟨?_, flags, room, List.forall_mem_cons.mpr ⟨passed, others⟩⟩
        rw [Draft.spelled_of_head? next, ← front]
        rfl
      · exact ⟨rfl, rfl, rfl, List.forall_mem_nil _⟩
    · exact ⟨rfl, rfl, rfl, List.forall_mem_nil _⟩

theorem keeps_takeSome (passes : Char → Bool) (count : Nat) :
    Keeps text spare (takeSome passes count) := by
  intro draft reads
  refine (settles_takeSome passes count draft).mono ?_
  rintro found after ⟨front, flags, room, -⟩
  exact reads.of_suffix ⟨found, front⟩ flags room

theorem keeps_takeName (terminator : Char) (fuel : Nat) :
    Keeps text spare (takeName terminator fuel) := by
  induction fuel with
  | zero => exact keeps_malformed
  | succ fuel inductionHypothesis =>
    refine keeps_take.bind fun next => ?_
    cases next with
    | none => exact keeps_malformed
    | some token => exact (keeps_pure _).ite (inductionHypothesis.bind fun _ => keeps_pure _)

theorem keeps_name (terminator : Char) : Keeps text spare (name terminator) :=
  keeps_get.bind fun _ => (keeps_takeName terminator _).bind fun _ =>
    keeps_malformed.ite (keeps_pure _)

theorem keeps_hexPoint (width : Nat) : Keeps text spare (hexPoint width) :=
  (keeps_takeSome isHex width).bind fun _ => (keeps_pure _).ite keeps_malformed

theorem keeps_namedPoint : Keeps text spare namedPoint := by
  refine (keeps_demand _).bind fun _ => (keeps_name _).bind fun cs => keeps_get.bind fun draft => ?_
  split
  · exact keeps_pure _
  · exact keeps_malformed

theorem keeps_spelledEscape (c : Char) : Keeps text spare (spelledEscape c) := by
  unfold spelledEscape
  split
  · exact keeps_namedPoint.bind fun _ => keeps_pure _
  · exact (keeps_hexPoint 2).bind fun _ => keeps_pure _
  · exact (keeps_hexPoint 4).bind fun _ => keeps_pure _
  · exact (keeps_hexPoint 8).bind fun _ => keeps_pure _
  · exact keeps_pure _

theorem keeps_selfEscape (c : Char) : Keeps text spare (selfEscape c) :=
  keeps_malformed.ite (keeps_pure _)

theorem keeps_checkBehind (index : Nat) : Keeps text spare (checkBehind index) := by
  refine keeps_get.bind fun draft => ?_
  split
  · exact keeps_pure _
  · exact keeps_malformed.ite (keeps_pure _)

theorem keeps_recallPiece (flags : Flags) (index : Nat) :
    Keeps text spare (recallPiece flags index) := by
  refine keeps_get.bind fun draft => ?_
  split
  · exact keeps_malformed
  · exact (keeps_checkBehind index).bind fun _ => keeps_pure _

theorem keeps_digitEscape (flags : Flags) (first : Char) :
    Keeps text spare (digitEscape flags first) := by
  refine keeps_peek.bind fun next => ?_
  split
  · refine Keeps.ite (keeps_take.bind fun _ => keeps_peek.bind fun next => ?_)
      (keeps_recallPiece flags _)
    split
    · exact (keeps_take.bind fun _ => keeps_malformed.ite (keeps_pure _)).ite
        (keeps_recallPiece flags _)
    · exact keeps_recallPiece flags _
  · exact keeps_recallPiece flags _

theorem keeps_escapePiece (flags : Flags) (c : Char) : Keeps text spare (escapePiece flags c) := by
  refine (keeps_pure _).ite ((keeps_pure _).ite ((keeps_pure _).ite ((keeps_pure _).ite ?_)))
  split
  · exact keeps_pure _
  · exact keeps_pure _
  · refine (keeps_spelledEscape c).bind fun spelling => ?_
    cases spelling with
    | some point => exact keeps_pure _
    | none =>
      refine Keeps.ite ((keeps_takeSome isOctal 2).bind fun _ => keeps_pure _) ?_
      exact (keeps_digitEscape flags c).ite ((keeps_selfEscape c).bind fun _ => keeps_pure _)

theorem keeps_escapeMember (c : Char) : Keeps text spare (escapeMember c) := by
  unfold escapeMember
  split
  · exact keeps_pure _
  · exact keeps_pure _
  · refine (keeps_spelledEscape c).bind fun spelling => ?_
    cases spelling with
    | some point => exact keeps_pure _
    | none =>
      refine Keeps.ite ((keeps_takeSome isOctal 2).bind fun _ => ?_) ?_
      · exact keeps_malformed.ite (keeps_pure _)
      · exact keeps_malformed.ite ((keeps_selfEscape c).bind fun _ => keeps_pure _)

theorem keeps_member (token : Token) : Keeps text spare (member token) := by
  cases token with
  | plain c => exact keeps_pure _
  | escaped c => exact keeps_escapeMember c
  | dangling => exact keeps_malformed

theorem keeps_setEntries (fuel : Nat) (taken : List Entry) :
    Keeps text spare (setEntries fuel taken) := by
  induction fuel generalizing taken with
  | zero => exact keeps_malformed
  | succ fuel inductionHypothesis =>
    refine keeps_take.bind fun next => ?_
    cases next with
    | none => exact keeps_malformed
    | some token =>
      -- A hyphen after a member ends the set with it, or begins a range.
      refine (keeps_pure _).ite ((keeps_member token).bind fun first =>
        (keeps_accept '-').bind fun _ => Keeps.ite (keeps_take.bind fun next => ?_)
          (inductionHypothesis _))
      cases next with
      | none => exact keeps_malformed
      | some token =>
        refine (keeps_pure _).ite ((keeps_member token).bind fun last => ?_)
        split
        · exact keeps_malformed.ite (inductionHypothesis _)
        · exact keeps_malformed

theorem keeps_setPiece (flags : Flags) : Keeps text spare (setPiece flags) :=
  (keeps_accept '^').bind fun _ => keeps_get.bind fun _ =>
    (keeps_setEntries _ _).bind fun _ => keeps_pure _

theorem keeps_greedMark : Keeps text spare greedMark := by
  refine keeps_peek.bind fun next => ?_
  split
  · exact keeps_take.bind fun _ => keeps_pure _
  · exact keeps_take.bind fun _ => keeps_pure _
  · exact keeps_pure _

theorem keeps_applyCount (flags : Flags) (least : Nat) (most : Option Nat) (pieces : List Piece) :
    Keeps text spare (applyCount flags least most pieces) := by
  cases pieces with
  | nil => exact keeps_malformed
  | cons piece rest =>
    refine keeps_malformed.ite (keeps_greedMark.bind fun greed => Keeps.ite ?_ (keeps_pure _))
    exact Keeps.bind (keeps_modify _ fun _ => ⟨rfl, rfl, rfl⟩) fun _ => keeps_pure _

theorem keeps_flagsOff (fuel : Nat) (sum : Flags) (c : Char) :
    Keeps text spare (flagsOff fuel sum c) := by
  induction fuel generalizing sum c with
  | zero => exact keeps_malformed
  | succ fuel inductionHypothesis =>
    unfold flagsOff
    split
    · exact keeps_malformed
    · refine keeps_malformed.ite (keeps_take.bind fun next => ?_)
      split
      · exact (keeps_pure _).ite (inductionHypothesis _ _)
      · exact keeps_malformed

theorem keeps_openGroup (name : Option (List Char)) : Keeps text spare (openGroup name) := by
  intro draft reads
  rw [openGroup, settles_bind, settles_get]
  cases name with
  | none =>
    simp only [settles_bind, settles_pure, settles_set]
    exact ⟨reads.ahead, reads.narrow, reads.roomy⟩
  | some cs =>
    dsimp only
    split
    · simp only [settles_bind, settles_malformed]
    · simp only [settles_bind, settles_pure, settles_set]
      exact ⟨reads.ahead, reads.narrow, reads.roomy⟩

theorem keeps_closeGroup (index : Nat) (body : Piece) : Keeps text spare (closeGroup index body) :=
  keeps_modify _ fun _ => ⟨rfl, rfl, rfl⟩

theorem keeps_namedGroup (cs : List Char) : Keeps text spare (namedGroup cs) := by
  refine keeps_get.bind fun draft => ?_
  split
  · exact keeps_pure _
  · exact keeps_malformed

theorem keeps_conditionGroup (cs : List Char) : Keeps text spare (conditionGroup cs) := by
  refine (keeps_namedGroup cs).ite ?_
  split
  · refine keeps_malformed.ite (Keeps.bind (keeps_modify _ ?_) fun _ => keeps_pure _)
    exact fun _ => ⟨rfl, rfl, rfl⟩
  · exact keeps_malformed

theorem keeps_dropComment (fuel : Nat) : Keeps text spare (dropComment fuel) := by
  induction fuel with
  | zero => exact keeps_malformed
  | succ fuel inductionHypothesis =>
    refine keeps_take.bind fun next => ?_
    cases next with
    | none => exact keeps_malformed
    | some token => exact (keeps_pure _).ite inductionHypothesis

theorem keeps_dropLine (fuel : Nat) : Keeps text spare (dropLine fuel) := by
  induction fuel with
  | zero => exact keeps_pure _
  | succ fuel inductionHypothesis =>
    refine keeps_take.bind fun next => ?_
    cases next with
    | none => exact keeps_pure _
    | some token => exact (keeps_pure _).ite inductionHypothesis

end Keeps

end Rulebook.Pattern
