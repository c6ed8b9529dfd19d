import Rulebook.Proofs.Refusals

/-!
# Groups that are too deep

A group is read within the one around it, and each takes its calls from what there is room for. So
opening parentheses in a row are refused as too deep exactly when there is no room for all of them,
whether the groups are closed again or not.

The proof is by induction on the parentheses. Where there is room for a group, its fate is that of the
next one inside it, which is read with the room that is left.
-/

namespace Rulebook.Pattern

/-- Without a backslash every character is a token of its own. -/
theorem tokens_eq_map {cs : List Char} (plain : '\\' ∉ cs) : tokens cs = cs.map .plain := by
  fun_induction tokens cs with
  | case1 => rfl
  | case2 => exact absurd (List.mem_singleton_self _) plain
  | case3 c rest => exact absurd List.mem_cons_self plain
  | case4 c rest _ _ inductionHypothesis =>
    rw [inductionHypothesis fun member => plain (List.mem_cons_of_mem c member), List.map_cons]

/-- A step fails when it rejects the text with a defect. -/
def Fails {α : Type} (defect : Defect) (step : Step α) (draft : Draft) : Prop :=
  step.run draft = .error defect

section Fails

variable {α β : Type} {defect : Defect}

theorem fails_get (next : Draft → Step α) (draft : Draft) :
    Fails defect (get >>= next) draft ↔ Fails defect (next draft) draft := Iff.rfl

theorem fails_set (changed : Draft) (next : PUnit → Step α) (draft : Draft) :
    Fails defect (set changed >>= next) draft ↔ Fails defect (next ⟨⟩) changed := Iff.rfl

theorem fails_peek (next : Option Token → Step α) (draft : Draft) :
    Fails defect (peek >>= next) draft ↔ Fails defect (next draft.ahead.head?) draft := Iff.rfl

/-- A step fails when its first part does. -/
theorem Fails.bind {first : Step α} {draft : Draft} (fails : Fails defect first draft)
    (next : α → Step β) : Fails defect (first >>= next) draft := by
  unfold Fails at *
  rw [StateT.run_bind, fails]
  rfl

/-- A step that takes a token fails when the rest does after it, unless a backslash ends the text
behind the token. -/
theorem fails_take {next : Option Token → Step α} {draft : Draft}
    (sound : draft.drop.ahead.head? ≠ some .dangling)
    (fails : Fails defect (next draft.ahead.head?) draft.drop) :
    Fails defect (take >>= next) draft := by
  obtain ⟨platform, room, ahead, flags, names, widths, behindFrom, mentioned, spoiled⟩ := draft
  cases ahead with
  | nil => exact fails
  | cons token rest =>
    have whole : ¬ (rest.head? == some .dangling) = true := mt beq_iff_eq.mp sound
    simp only [Fails, take, StateT.run_bind, StateT.run_get, pure_bind, if_neg whole]
    exact fails

/-- A step that would accept a character that is not ahead fails when the rest does without it. -/
theorem fails_accept {c : Char} {next : Bool → Step α} {draft : Draft}
    (elsewhere : draft.ahead.head? ≠ some (.plain c)) (fails : Fails defect (next false) draft) :
    Fails defect (accept c >>= next) draft := by
  have test : ¬ (draft.ahead.head? == some (.plain c)) = true := mt beq_iff_eq.mp elsewhere
  unfold Fails accept peek at *
  simp only [StateT.run_bind, StateT.run_get, pure_bind, StateT.run_pure, if_neg test]
  exact fails

/-- A part that there is no room for is too deep. -/
theorem fails_within_of_scarce {calls : Nat} {draft : Draft} (scarce : draft.room < calls)
    (part : Step α) : Fails .tooDeep (within calls part) draft := by
  rw [within, fails_get, if_pos scarce]
  rfl

/-- A part that there is room for fails as it does with the room that is left. -/
theorem fails_within {calls : Nat} {draft : Draft} (roomy : ¬ draft.room < calls) {part : Step α}
    (fails : Fails defect part { draft with room := draft.room - calls }) :
    Fails defect (within calls part) draft := by
  rw [within, fails_get, if_neg roomy, fails_set]
  exact fails.bind _

/-- A group that remembers its text fails as it does inside, where it counts as open. -/
theorem fails_captured {fuel : Nat} {flags : Flags} {draft : Draft}
    (inside : Fails defect (enclosed fuel flags) { draft with widths := draft.widths ++ [none] }) :
    Fails defect (captured (fuel + 1) none flags) draft := by
  unfold captured openGroup
  simp only [bind_assoc, pure_bind]
  rw [fails_get, fails_set]
  exact inside.bind _

/-- A sequence that begins with a group fails as the group does. -/
theorem fails_sequence {fuel : Nat} {first : Bool} {pieces : List Piece} {flags : Flags}
    {draft : Draft} (opens : draft.ahead.head? = some (.plain '('))
    (sound : draft.drop.ahead.head? ≠ some .dangling)
    (unmarked : draft.drop.ahead.head? ≠ some (.plain '?'))
    (fails : Fails defect (captured fuel none flags) draft.drop) :
    Fails defect (sequence (fuel + 2) first pieces flags) draft := by
  have filler : isFiller '(' = false := by decide
  have group : Fails defect (parenthesis (fuel + 1) flags) draft.drop := by
    unfold parenthesis
    exact fails_accept unmarked (fails.bind _)
  unfold sequence
  rw [fails_peek, opens]
  refine fails_take sound ?_
  rw [opens]
  simp only [filler, Char.reduceBEq, beq_self_eq_true, Bool.and_false, Bool.false_eq_true,
    if_false, if_true]
  exact group.bind _

end Fails

/-- Parentheses that open and, as far as they do, close again. -/
def nested (opened closed : Nat) : List Token :=
  List.replicate opened (.plain '(') ++ List.replicate closed (.plain ')')

/-- No other tokens are among them. -/
theorem head?_nested_ne {opened closed : Nat} {token : Token} (opens : token ≠ .plain '(')
    (closes : token ≠ .plain ')') : (nested opened closed).head? ≠ some token := by
  intro head
  rcases List.mem_append.mp (List.mem_of_head? head) with member | member
  · exact opens (List.eq_of_mem_replicate member)
  · exact closes (List.eq_of_mem_replicate member)

/-- Branches that begin with a group fail as the group does inside, where it counts as open. -/
theorem fails_branches {opened closed fuel : Nat} {top : Bool} {flags : Flags} {draft : Draft}
    {defect : Defect} (ahead : draft.ahead = nested (opened + 1) closed)
    (inside : Fails defect (enclosed fuel flags)
      { draft with ahead := nested opened closed, widths := draft.widths ++ [none] }) :
    Fails defect (branches (fuel + 4) top [] flags) draft := by
  have behind : draft.drop.ahead = nested opened closed := by
    rw [Draft.drop, ahead]
    rfl
  have group : Fails defect (captured (fuel + 1) none flags) draft.drop := by
    refine fails_captured ?_
    rw [Draft.drop, ahead]
    exact inside
  unfold branches
  refine (fails_sequence ?_ ?_ ?_ group).bind _
  · rw [ahead]
    rfl
  · rw [behind]
    exact head?_nested_ne (by decide) (by decide)
  · rw [behind]
    exact head?_nested_ne (by decide) (by decide)

/-- What a group encloses is too deep when there is no room for it and the groups inside it. -/
theorem fails_enclosed {opened closed fuel : Nat} {flags : Flags} {draft : Draft}
    (ahead : draft.ahead = nested opened closed) (scarce : draft.room < 2 * (opened + 1))
    (fueled : 5 * opened < fuel) : Fails .tooDeep (enclosed fuel flags) draft := by
  induction opened generalizing fuel draft with
  | zero =>
    obtain ⟨fuel, rfl⟩ := Nat.exists_eq_add_of_lt fueled
    unfold enclosed
    exact (fails_within_of_scarce scarce _).bind _
  | succ opened inductionHypothesis =>
    obtain ⟨fuel, rfl⟩ : ∃ less, fuel = less + 5 := ⟨fuel - 5, by omega⟩
    unfold enclosed
    refine Fails.bind ?_ _
    by_cases short : draft.room < 2
    · exact fails_within_of_scarce short _
    · refine fails_within short (fails_branches ahead (inductionHypothesis rfl ?_ ?_))
      · dsimp only
        omega
      · omega

/-- Parentheses that open and close as text. -/
def nestedText (opened closed : Nat) : String :=
  String.ofList (List.replicate opened '(' ++ List.replicate closed ')')

/-- The tokens of that text are its characters. -/
theorem tokens_nestedText (opened closed : Nat) :
    tokens (nestedText opened closed).toList = nested opened closed := by
  rw [nestedText, String.toList_ofList, tokens_eq_map, List.map_append, List.map_replicate,
    List.map_replicate, nested]
  intro member
  rcases List.mem_append.mp member with backslash | backslash
  · exact absurd (List.eq_of_mem_replicate backslash) (by decide)
  · exact absurd (List.eq_of_mem_replicate backslash) (by decide)

/-- As many parentheses of the text open as it says. -/
theorem count_nestedText (opened closed : Nat) :
    (nestedText opened closed).toList.count '(' = opened := by
  rw [nestedText, String.toList_ofList, List.count_append, List.count_replicate_self,
    List.count_replicate, if_neg (by decide), Nat.add_zero]

/-- Parentheses in a row are a modest text. -/
theorem isModest_nestedText (opened closed : Nat) : IsModest (nestedText opened closed).toList := by
  rw [nestedText, String.toList_ofList]
  refine isModest_of_few_digits ?_ fun switched => ?_
  · rw [List.countP_append, List.countP_replicate, List.countP_replicate, if_neg (by decide),
      if_neg (by decide)]
    decide
  · have mark := switched.subset (List.mem_cons_of_mem _ List.mem_cons_self)
    rcases List.mem_append.mp mark with mark | mark
    · exact absurd (List.eq_of_mem_replicate mark) (by decide)
    · exact absurd (List.eq_of_mem_replicate mark) (by decide)

/-- Parentheses in a row are too deep when there is no room for all that open. -/
theorem read_nested {platform : Platform} {opened closed : Nat}
    (scarce : platform.room (nestedText opened closed) < 2 * opened) :
    read platform (nestedText opened closed) = .error .tooDeep := by
  obtain ⟨more, rfl⟩ : ∃ more, opened = more + 1 := ⟨opened - 1, by omega⟩
  have ahead := tokens_nestedText (more + 1) closed
  have fails : Fails .tooDeep wholeText (.start platform (nestedText (more + 1) closed)) := by
    have whole : ¬ ((Draft.start platform (nestedText (more + 1) closed)).ahead.head? ==
        some .dangling) = true := by
      rw [beq_iff_eq, Draft.start, ahead]
      exact head?_nested_ne (by decide) (by decide)
    rw [wholeText, fails_get, if_neg whole]
    refine (fails_branches ahead (fails_enclosed rfl scarce ?_)).bind _
    rw [Draft.start, ahead, nested, List.length_append, List.length_replicate]
    omega
  rw [read, fails]
  rfl

end Rulebook.Pattern
