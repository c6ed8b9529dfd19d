import Rulebook.Proofs.Numbers
import Rulebook.Proofs.Steps

/-!
# How texts are refused as patterns

A text that is no pattern is refused as malformed, wherever it goes wrong. The kinds of refusal that
are told apart from that need something of the text: a count that cannot be held needs ten digits in
a row, a contradiction between the flags needs the flag for all scripts, and groups that are too deep
in one another need more opening parentheses than there is room for. So a text without any of these
is a pattern or malformed.

The calls that read one another are described together, by induction on their fuel. What carries it
is that a text is only ever read from its end on, that no flag for all scripts has been set, and that
there is room for the groups ahead. Where an opening parenthesis has been taken, it is remembered that
it stands before what is ahead, since only there flags can follow, and the room for its group is spare.
-/

namespace Rulebook.Pattern

/-- Texts that neither have ten digits in a row nor name the flag for all scripts. -/
structure IsModest (cs : List Char) : Prop where
  counts : ∀ digits, digits <:+: cs → (∀ c ∈ digits, c.isDigit = true) → digits.length < 10
  flags : ∀ letters, (∀ c ∈ letters, (flagOf? c).isSome = true) →
    ¬ '(' :: '?' :: (letters ++ ['u']) <:+: cs

/-- Digits spell a number below the next power of ten. -/
theorem valueIn_ten_lt (digits : List Char) (all : ∀ c ∈ digits, c.isDigit = true) :
    valueIn 10 digits < Decimal.tenTo digits.length := by
  have same : valueIn 10 digits = Decimal.valueOf (digits.map hexValue) := by
    rw [Decimal.valueOf, List.foldl_map, valueIn]
  rw [same, ← digits.length_map hexValue]
  refine Decimal.valueOf_lt _ ?_
  simp only [List.mem_map, forall_exists_index, and_imp, forall_apply_eq_imp_iff₂]
  intro c member
  have digit := all c member
  rw [hexValue, if_pos digit]
  simp only [Char.isDigit, UInt32.le_iff_toNat_le, Bool.and_eq_true, decide_eq_true_eq] at digit
  have most : c.toNat ≤ 57 := digit.2
  omega

/-- Less than ten digits are a count that can be held. -/
theorem settles_countOf {Post : Option Nat → Draft → Prop} {digits : List Char} {draft : Draft}
    (all : ∀ c ∈ digits, c.isDigit = true) (few : digits.length < 10)
    (given : ∀ count, Post count draft) : Settles Post (countOf digits) draft := by
  have short : ¬ Decimal.digitLimit < digits.length := by
    have wide : 10 ≤ Decimal.digitLimit := by decide
    omega
  have small : ¬ countLimit ≤ valueIn 10 digits := by
    have below := Nat.lt_of_lt_of_le (valueIn_ten_lt digits all)
      (Decimal.tenTo_le digits.length 9 (Nat.le_of_lt_succ few))
    have wide : Decimal.tenTo 9 ≤ countLimit := by decide
    omega
  by_cases blank : digits.isEmpty = true
  · rw [countOf, if_pos blank]
    exact given none
  · rw [countOf, if_neg blank, if_neg short]
    dsimp only
    rw [if_neg small]
    exact given _

/-- All scripts are flagged in a union when they are in one of its parts. -/
theorem unicode_union (flags more : Flags) :
    (flags.union more).unicode = (flags.unicode || more.unicode) := rfl

/-- A letter other than the one for all scripts is another flag. -/
theorem unicode_eq_false_of_flagOf? {c : Char} {flag : Flags} (letter : flagOf? c = some flag)
    (other : c ≠ 'u') : flag.unicode = false := by
  unfold flagOf? at letter
  split at letter
  case h_7 => exact absurd rfl other
  case h_8 => cases letter
  all_goals
    obtain rfl := Option.some.inj letter
    rfl

/-- A switch is narrow when it leaves out the flag for all scripts of the whole pattern. -/
def Switch.IsNarrow : Switch → Prop
  | .whole on => on.unicode = false
  | .inside _ _ => True

variable {text : List Char} {spare : Nat} (modest : IsModest text)
include modest

/-- In a modest text there are less than ten digits in a row. -/
theorem settles_digitsAhead {draft : Draft} (reads : draft.Reads text spare) :
    Settles (fun digits after => after.Reads text spare ∧ (∀ c ∈ digits, c.isDigit = true) ∧
      digits.length < 10) digitsAhead draft := by
  rw [digitsAhead, settles_bind, settles_get]
  refine (settles_takeSome Char.isDigit _ draft).mono ?_
  rintro digits after ⟨front, flags, room, all⟩
  have ending : digits ++ spelled after.ahead <:+ text := front ▸ reads.ahead
  refine ⟨reads.of_suffix ⟨digits, front⟩ flags room, all, ?_⟩
  exact modest.counts digits ((List.prefix_append digits _).isInfix.trans ending.isInfix) all

/-- Bounds can be held in a modest text, or stand for themselves. -/
theorem keeps_bounds : Keeps text spare bounds := by
  intro draft reads
  rw [bounds, settles_bind, settles_get, settles_bind, settles_peek]
  refine settles_ite (fun _ => reads) fun _ => (settles_digitsAhead modest reads).bind ?_
  rintro low afterLow ⟨readsLow, allLow, fewLow⟩
  refine (keeps_accept ',' afterLow readsLow).bind fun comma next readsNext => ?_
  -- Without a second bound of its own a count is bounded by the first.
  refine settles_ite_bind _ (fun _ => settles_digitsAhead modest readsNext)
    (fun _ => ⟨readsNext, allLow, fewLow⟩) ?_
  rintro high after ⟨readsHigh, allHigh, fewHigh⟩
  refine (keeps_accept '\x7d' after readsHigh).bind fun closed last readsLast => ?_
  -- The one step that does not read on: what was taken is put back.
  refine settles_ite (fun _ => reads) fun _ => ?_
  rw [settles_bind]
  refine settles_countOf allLow fewLow fun least => ?_
  rw [settles_bind]
  refine settles_countOf allHigh fewHigh fun most => ?_
  cases most with
  | none => exact readsLast
  | some most => exact settles_ite (fun _ => settles_malformed last) fun _ => readsLast

/-- The flags that are read after `letters` in a modest text leave out the one for all scripts. -/
theorem settles_flagsOn (fuel : Nat) (letters : List Char) (sum : Flags) (c : Char) (draft : Draft)
    (reads : draft.Reads text spare) (narrow : sum.unicode = false)
    (named : ∀ letter ∈ letters, (flagOf? letter).isSome = true)
    (behind : '(' :: '?' :: (letters ++ c :: spelled draft.ahead) <:+ text) :
    Settles (fun read after => after.Reads text spare ∧ read.1.unicode = false)
      (flagsOn fuel sum c) draft := by
  induction fuel generalizing letters sum c draft with
  | zero => exact settles_malformed draft
  | succ fuel inductionHypothesis =>
    unfold flagsOn
    cases letter : flagOf? c with
    | none => exact settles_malformed draft
    | some flag =>
      have other : c ≠ 'u' := by
        rintro rfl
        refine modest.flags letters named (List.IsInfix.trans ?_ behind.isInfix)
        refine ⟨[], spelled draft.ahead, ?_⟩
        simp only [List.nil_append, List.cons_append, List.append_assoc]
      refine settles_ite (fun _ => settles_malformed draft) fun _ => ?_
      rw [settles_bind]
      refine settles_take ?_
      split
      · next next ahead =>
        have narrower : (sum.union flag).unicode = false := by
          rw [unicode_union, narrow, Bool.false_or]
          exact unicode_eq_false_of_flagOf? letter other
        refine settles_ite (fun _ => ⟨reads.drop, narrower⟩) fun _ => ?_
        refine inductionHypothesis (letters ++ [c]) _ next draft.drop reads.drop narrower ?_ ?_
        · intro other member
          rcases List.mem_append.mp member with known | here
          · exact named other known
          · rw [List.mem_singleton.mp here, letter]
            rfl
        · rw [Draft.spelled_of_head? ahead] at behind
          simpa [Token.chars] using behind
      · exact settles_malformed _

/-- The flags that a modest text switches on leave out the one for all scripts. -/
theorem settles_switch (c : Char) {draft : Draft} (reads : draft.Reads text spare)
    (behind : '(' :: '?' :: c :: spelled draft.ahead <:+ text) :
    Settles (fun switched after => after.Reads text spare ∧ switched.IsNarrow) (switch c)
      draft := by
  rw [switch, settles_bind, settles_get]
  refine settles_ite_bind (fun read after => after.Reads text spare ∧ read.1.unicode = false)
    (fun _ => ⟨reads, rfl⟩)
    (fun _ => settles_flagsOn modest _ [] {} c draft reads rfl (List.forall_mem_nil _) behind) ?_
  rintro ⟨on, last⟩ after ⟨readsOn, narrow⟩
  have closes : ∀ (off : Flags) (final : Draft), final.Reads text spare →
      Settles (fun switched after => after.Reads text spare ∧ switched.IsNarrow)
        (if off.template || on.meets off then malformed else return Switch.inside on off) final := by
    intro off final readsFinal
    exact settles_ite (fun _ => settles_malformed final) fun _ => ⟨readsFinal, trivial⟩
  refine settles_ite (fun _ => ⟨readsOn, narrow⟩) fun _ => ?_
  refine settles_ite (fun _ => settles_malformed after) fun _ => ?_
  refine settles_ite (fun _ => ?_) fun _ => closes {} after readsOn
  rw [settles_bind]
  refine settles_take ?_
  split
  · exact (keeps_flagsOff _ _ _ _ readsOn.drop).bind closes
  · exact (settles_bind _ _ _).mpr (settles_malformed _)

omit modest

/-- What stands in parentheses is narrow when it leaves out the flag for all scripts of the whole
pattern. -/
def Contribution.IsNarrow : Contribution → Prop
  | .flags on => on.unicode = false
  | _ => True

/-- A piece that a step gives is narrow whenever the step keeps to the text. -/
theorem Keeps.settles_piece {α : Type} {text : List Char} {spare : Nat} {step : Step α}
    {draft : Draft} (keeps : Keeps text spare step) (piece : α → Piece)
    (reads : draft.Reads text spare) :
    Settles (fun given after => after.Reads text spare ∧ given.IsNarrow)
      (do return Contribution.piece (piece (← step))) draft :=
  (keeps draft reads).bind fun _ _ reads => ⟨reads, trivial⟩

/-- With some fuel the calls that read one another keep to a text. Those that follow an opening
parenthesis need the room for its group. -/
structure KeepsAt (text : List Char) (fuel : Nat) : Prop where
  branches : ∀ spare top taken flags, Keeps text spare (branches fuel top taken flags)
  sequence : ∀ spare first pieces flags, Keeps text spare (sequence fuel first pieces flags)
  parenthesis : ∀ spare flags draft, draft.Reads text (spare + 2) →
    '(' :: spelled draft.ahead <:+ text →
      Settles (fun given after => after.Reads text (spare + 2) ∧ given.IsNarrow)
        (parenthesis fuel flags) draft
  enclosed : ∀ spare flags, Keeps text (spare + 2) (enclosed fuel flags)
  captured : ∀ spare name flags, Keeps text (spare + 2) (captured fuel name flags)
  lookBehind : ∀ spare negated flags, Keeps text (spare + 2) (lookBehind fuel negated flags)
  conditional : ∀ spare index flags, Keeps text (spare + 2) (conditional fuel index flags)

section KeepsAt

variable {text : List Char} {fuel : Nat} (below : KeepsAt text fuel) (spare : Nat)
include below

theorem keeps_branches (top : Bool) (taken : List Piece) (flags : Flags) :
    Keeps text spare (branches (fuel + 1) top taken flags) := by
  unfold branches
  exact (below.sequence _ _ _ _).bind fun branch => (keeps_accept '|').bind fun _ =>
    (keeps_get.bind fun draft => below.branches _ _ _ _).ite (keeps_pure _)

theorem keeps_enclosed (flags : Flags) : Keeps text (spare + 2) (enclosed (fuel + 1) flags) := by
  unfold enclosed
  exact (keeps_within 2 (below.branches _ _ _ _)).bind fun body =>
    (keeps_demand ')').bind fun _ => keeps_pure _

theorem keeps_captured (name : Option (List Char)) (flags : Flags) :
    Keeps text (spare + 2) (captured (fuel + 1) name flags) := by
  unfold captured
  exact (keeps_openGroup name).bind fun index => (below.enclosed _ flags).bind fun body =>
    (keeps_closeGroup index body).bind fun _ => keeps_pure _

theorem keeps_lookBehind (negated : Bool) (flags : Flags) :
    Keeps text (spare + 2) (lookBehind (fuel + 1) negated flags) := by
  unfold lookBehind
  refine keeps_get.bind fun outer => Keeps.bind (keeps_modify _ fun _ => ⟨rfl, rfl, rfl⟩) fun _ =>
    (keeps_within 2 (below.branches _ _ _ _)).bind fun body =>
      Keeps.bind (keeps_modify _ fun _ => ⟨rfl, rfl, rfl⟩) fun _ =>
        (keeps_demand ')').bind fun _ => ?_
  refine Keeps.ite (Keeps.bind (keeps_modify _ ?_) fun _ => keeps_pure _) (keeps_pure _)
  exact fun _ => ⟨rfl, rfl, rfl⟩

theorem keeps_conditional (index : Nat) (flags : Flags) :
    Keeps text (spare + 2) (conditional (fuel + 1) index flags) := by
  unfold conditional
  have closes (piece : Piece) : Keeps text (spare + 2) (do demand ')'; return piece) :=
    (keeps_demand ')').bind fun _ => keeps_pure _
  have branch : Keeps text (spare + 2) (within 1 (sequence fuel false [] flags)) :=
    keeps_within 1 (below.sequence _ _ _ _)
  refine branch.bind fun yes => (keeps_accept '|').bind fun _ => Keeps.ite ?_ (closes _)
  exact branch.bind fun no => keeps_peek.bind fun _ => keeps_malformed.ite (closes _)

/-- What stands in parentheses is read to its end, and is narrow: only a switch of flags could be
otherwise, and it stands behind the parenthesis and a question mark. -/
theorem settles_parenthesis (modest : IsModest text) (flags : Flags) (draft : Draft)
    (reads : draft.Reads text (spare + 2)) (behind : '(' :: spelled draft.ahead <:+ text) :
    Settles (fun given after => after.Reads text (spare + 2) ∧ given.IsNarrow)
      (parenthesis (fuel + 1) flags) draft := by
  unfold parenthesis
  rw [settles_bind]
  refine settles_accept '?' (fun mark => ?_) ?_
  · rw [Draft.spelled_of_head? mark] at behind
    rw [Bool.not_true, if_neg Bool.false_ne_true, settles_bind]
    refine settles_take ?_
    have readsKind := reads.drop.drop
    split
    · exact (below.enclosed _ flags).settles_piece _ readsKind
    · exact (below.enclosed _ flags).settles_piece _ readsKind
    · rw [settles_bind, settles_get]
      exact (keeps_dropComment _ _ readsKind).bind fun _ after reads => ⟨reads, trivial⟩
    · exact (below.enclosed _ flags).settles_piece _ readsKind
    · exact (below.enclosed _ flags).settles_piece _ readsKind
    · rw [settles_bind]
      refine settles_take ?_
      split
      · exact (below.lookBehind _ false flags).settles_piece _ readsKind.drop
      · exact (below.lookBehind _ true flags).settles_piece _ readsKind.drop
      · exact settles_malformed _
    · rw [settles_bind]
      refine settles_take ?_
      split
      · refine (keeps_name '>' _ readsKind.drop).bind fun cs after readsName => ?_
        refine settles_ite (fun _ => ?_) fun _ => settles_malformed _
        exact (below.captured _ _ flags).settles_piece _ readsName
      · refine (keeps_name ')' _ readsKind.drop).bind fun cs after readsName => ?_
        refine settles_ite (fun _ => ?_) fun _ => settles_malformed _
        refine (keeps_namedGroup cs _ readsName).bind fun index after readsIndex => ?_
        exact (keeps_recallPiece flags index).settles_piece _ readsIndex
      · exact settles_malformed _
    · refine (keeps_name ')' _ readsKind).bind fun cs after readsName => ?_
      refine (keeps_conditionGroup cs _ readsName).bind fun index after readsIndex => ?_
      refine (keeps_checkBehind index _ readsIndex).bind fun _ after readsCheck => ?_
      exact (below.conditional _ index flags).settles_piece _ readsCheck
    · next c _ _ _ _ _ _ _ _ kind =>
      split
      · rw [Draft.spelled_of_head? kind] at behind
        refine (settles_switch modest c readsKind behind).bind ?_
        rintro switched after ⟨readsSwitch, narrow⟩
        cases switched with
        | whole on => exact ⟨readsSwitch, narrow⟩
        | inside on off =>
          exact (below.enclosed _ _).settles_piece _ readsSwitch
      · exact settles_malformed _
    · exact settles_malformed _
  · exact (below.captured _ none flags).settles_piece _ reads

/-- A sequence keeps to a modest text. Flags are set for the whole pattern here and nowhere else. -/
theorem keeps_sequence (modest : IsModest text) (first : Bool) (pieces : List Piece)
    (flags : Flags) : Keeps text spare (sequence (fuel + 1) first pieces flags) := by
  have counted : ∀ (least : Nat) (most : Option Nat), Keeps text spare (do
      sequence fuel first (← applyCount flags least most pieces) flags) := fun least most =>
    (keeps_applyCount flags least most pieces).bind fun counted => below.sequence _ _ _ _
  intro draft reads
  unfold sequence
  rw [settles_bind, settles_peek]
  refine settles_ite (fun _ => reads) fun _ => ?_
  rw [settles_bind]
  refine settles_take ?_
  have further := reads.drop
  cases next : draft.ahead.head? with
  | none => exact settles_malformed _
  | some token =>
    cases token with
    | dangling => exact settles_malformed _
    | escaped c =>
      exact (keeps_escapePiece flags c _ further).bind fun piece after =>
        below.sequence _ _ _ _ after
    | plain c =>
      -- The tests stand in the order of the reader. Only a count and a group ask more of the text.
      refine settles_ite (fun _ => below.sequence _ _ _ _ _ further) fun _ => ?_
      refine settles_ite (fun _ => ?_) fun _ => ?_
      · have comment : Keeps text spare (do
            dropLine ((← get).ahead.length + 1)
            sequence fuel first pieces flags) :=
          keeps_get.bind fun _ => (keeps_dropLine _).bind fun _ => below.sequence _ _ _ _
        exact comment _ further
      refine settles_ite (fun _ => ?_) fun _ => ?_
      · exact ((keeps_setPiece flags).bind fun piece => below.sequence _ _ _ _) _ further
      refine settles_ite (fun _ => counted 0 none _ further) fun _ => ?_
      refine settles_ite (fun _ => counted 1 none _ further) fun _ => ?_
      refine settles_ite (fun _ => counted 0 (some 1) _ further) fun _ => ?_
      refine settles_ite (fun _ => ?_) fun _ => ?_
      · refine (keeps_bounds modest _ further).bind fun bounds after readsBounds => ?_
        cases bounds with
        | none => exact below.sequence _ _ _ _ _ readsBounds
        | some bounds => exact counted bounds.1 bounds.2 _ readsBounds
      refine settles_ite (fun _ => below.sequence _ _ _ _ _ further) fun _ => ?_
      refine settles_ite (fun _ => below.sequence _ _ _ _ _ further) fun _ => ?_
      refine settles_ite (fun _ => below.sequence _ _ _ _ _ further) fun _ => ?_
      refine settles_ite (fun opens => ?_) fun _ => below.sequence _ _ _ _ _ further
      have behind : '(' :: spelled draft.drop.ahead <:+ text := by
        have here := reads.ahead
        rw [Draft.spelled_of_head? next, beq_iff_eq.mp opens] at here
        exact here
      have opened := reads.drop_open (beq_iff_eq.mp opens ▸ next)
      refine (below.parenthesis _ flags _ opened behind).bind ?_
      rintro given after ⟨readsSpare, narrow⟩
      have readsGroup := readsSpare.mono (Nat.le_add_right spare 2)
      cases given with
      | piece piece => exact below.sequence _ _ _ _ _ readsGroup
      | nothing => exact below.sequence _ _ _ _ _ readsGroup
      | flags on =>
        refine settles_ite (fun _ => ?_) fun _ => settles_malformed _
        rw [settles_bind, settles_modify, settles_bind, settles_get]
        refine below.sequence _ _ _ _ _ ⟨readsGroup.ahead, ?_, readsGroup.roomy⟩
        have kept : after.flags.unicode = false := readsGroup.narrow
        have added : on.unicode = false := narrow
        simp only [unicode_union, kept, added, Bool.or_self]

end KeepsAt

/-- In a modest text the calls that read one another keep to it with any fuel. -/
theorem keepsAt {text : List Char} (modest : IsModest text) (fuel : Nat) : KeepsAt text fuel := by
  induction fuel with
  | zero =>
    exact
      { branches := fun _ _ _ _ => keeps_malformed
        sequence := fun _ _ _ _ => keeps_malformed
        parenthesis := fun _ _ draft _ _ => settles_malformed draft
        enclosed := fun _ _ => keeps_malformed
        captured := fun _ _ _ => keeps_malformed
        lookBehind := fun _ _ _ => keeps_malformed
        conditional := fun _ _ _ => keeps_malformed }
  | succ fuel inductionHypothesis =>
    exact
      { branches := keeps_branches inductionHypothesis
        sequence := fun spare => keeps_sequence inductionHypothesis spare modest
        parenthesis := fun spare => settles_parenthesis inductionHypothesis spare modest
        enclosed := keeps_enclosed inductionHypothesis
        captured := keeps_captured inductionHypothesis
        lookBehind := keeps_lookBehind inductionHypothesis
        conditional := keeps_conditional inductionHypothesis }

/-- Reading a whole modest text settles. -/
theorem settles_wholeText {text : List Char} (modest : IsModest text) {draft : Draft}
    (reads : draft.Reads text 0) : Settles (fun _ after => after.Reads text 0) wholeText draft := by
  rw [wholeText, settles_bind, settles_get]
  refine settles_ite (fun _ => settles_malformed _) fun _ => ?_
  refine ((keepsAt modest _).branches _ _ _ _ _ reads).bind fun body after readsBody => ?_
  rw [settles_bind, settles_get]
  refine settles_ite (fun both => ?_) fun _ => ?_
  · rw [readsBody.narrow, Bool.and_false] at both
    exact absurd both Bool.false_ne_true
  refine settles_ite (fun _ => settles_malformed _) fun _ => ?_
  refine settles_ite (fun _ => settles_malformed _) fun _ => ?_
  exact settles_ite (fun _ => settles_malformed _) fun _ => readsBody

/-- A modest text with room for its groups is a pattern or malformed. -/
theorem malformed_of_isModest {platform : Platform} {s : String} (modest : IsModest s.toList)
    (fits : 2 * s.toList.count '(' ≤ platform.room s) {defect : Defect}
    (refused : read platform s = .error defect) : defect = .malformed := by
  have whole : spelled (Draft.start platform s).ahead = s.toList := spelled_tokens s.toList
  have reads : (Draft.start platform s).Reads s.toList 0 := by
    refine ⟨whole ▸ List.suffix_rfl, rfl, ?_⟩
    rw [whole]
    exact fits
  have settles := settles_wholeText modest reads
  rw [read] at refused
  unfold Settles at settles
  split at settles
  · next value after outcome =>
    rw [outcome] at refused
    cases refused
  · next other outcome =>
    rw [outcome] at refused
    obtain rfl := Except.error.inj refused
    exact settles

/-- A text with less than ten digits that switches no flags is modest. -/
theorem isModest_of_few_digits {cs : List Char} (few : cs.countP Char.isDigit < 10)
    (unswitched : ¬ ['(', '?'] <:+: cs) : IsModest cs where
  counts digits within all := by
    have counted := within.sublist.countP_le (p := Char.isDigit)
    rw [List.countP_eq_length.mpr all] at counted
    exact Nat.lt_of_le_of_lt counted few
  flags letters _ within := by
    refine unswitched (List.IsInfix.trans ?_ within)
    exact ⟨[], letters ++ ['u'], rfl⟩

end Rulebook.Pattern
