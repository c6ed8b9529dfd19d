import Mathlib.Data.List.Forall2
import Rulebook.Proofs.Readings

/-!
# Local patterns

A pattern is local when nothing beyond the border of its word decides a reading, apart from
word boundaries. Its readings do not depend on the text around it, as long as the borders
stay alike: a reading stays when the text behind it is replaced, and from two positions with
the same text behind them the readings are the same, one by one.

Conditions on the text ahead or behind, references to groups and firm parts are not local.
-/

namespace Rulebook

namespace Pattern

/-- True of a single character. -/
def isChar : Pattern → Bool
  | .char _ => true
  | _ => false

/-- True when only the text that a reading takes and the borders of its words decide it. Of the
repetitions these are the ones of a single character that reconsider, and parts that may be
missing. -/
def isLocal : Pattern → Bool
  | .empty | .char _ | .place (.boundary ..) => true
  | .seq first second | .alt first second => first.isLocal && second.isLocal
  | .group _ body => body.isLocal
  | .loop greed least most body =>
    (greed != .firm && body.isChar)
      || (greed == .most && least == 0 && most == some 1 && body.isLocal)
  | _ => false

/-- The local patterns by the way in which they are built. -/
inductive Local : Pattern → Prop where
  | empty : Local .empty
  | char (test : CharTest) : Local (.char test)
  | edge (negated ascii : Bool) : Local (.place (.boundary negated ascii))
  | seq {first second : Pattern} (left : Local first) (right : Local second) :
    Local (.seq first second)
  | alt {first second : Pattern} (left : Local first) (right : Local second) :
    Local (.alt first second)
  | group (index : Nat) {body : Pattern} (inner : Local body) : Local (.group index body)
  | many {greed : Greed} (reconsiders : greed ≠ .firm) (least : Nat) (most : Option Nat)
    (test : CharTest) : Local (.loop greed least most (.char test))
  | optional {body : Pattern} (inner : Local body) : Local (optional body)

theorem Local.of_isLocal (pattern : Pattern) (checked : pattern.isLocal = true) :
    Local pattern := by
  induction pattern with
  | empty => exact .empty
  | char test => exact .char test
  | seq first second ihFirst ihSecond =>
    obtain ⟨left, right⟩ := Bool.and_eq_true_iff.mp checked
    exact .seq (ihFirst left) (ihSecond right)
  | alt first second ihFirst ihSecond =>
    obtain ⟨left, right⟩ := Bool.and_eq_true_iff.mp checked
    exact .alt (ihFirst left) (ihSecond right)
  | group index body ih => exact .group index (ih checked)
  | place spot =>
    cases spot with
    | boundary negated ascii => exact .edge negated ascii
    | _ => simp [isLocal] at checked
  | loop greed least most body ih =>
    simp only [isLocal, Bool.or_eq_true, Bool.and_eq_true, bne_iff_ne, beq_iff_eq] at checked
    rcases checked with ⟨reconsiders, single⟩ | ⟨⟨⟨rfl, rfl⟩, rfl⟩, inner⟩
    · cases body with
      | char test => exact .many reconsiders least most test
      | _ => simp [isChar] at single
    · exact .optional (ih inner)
  | _ => simp [isLocal] at checked

end Pattern

/-- Two texts that look the same to a word boundary beside them. -/
structure AlikeAt (one other : List Char) : Prop where
  ended : one.isEmpty = other.isEmpty
  inWord : ∀ ascii, one.head?.any (CharKind.word.holds ascii) =
    other.head?.any (CharKind.word.holds ascii)

namespace AlikeAt

variable {one other : List Char}

theorem refl (text : List Char) : AlikeAt text text := ⟨rfl, fun _ => rfl⟩

/-- A text in front of both makes them alike or leaves them as they are. -/
theorem append (word : List Char) (alike : AlikeAt one other) :
    AlikeAt (word ++ one) (word ++ other) := by
  cases word with
  | nil => exact alike
  | cons c rest => exact ⟨rfl, fun _ => rfl⟩

/-- A word boundary sees alike texts as the same. -/
theorem boundary_holds (negated ascii : Bool) (cursor next : Cursor)
    (before : AlikeAt cursor.before next.before) (after : AlikeAt cursor.after next.after) :
    (Place.boundary negated ascii).holds cursor = (Place.boundary negated ascii).holds next := by
  simp only [Place.holds, before.ended, after.ended, before.inWord, after.inWord]

end AlikeAt

namespace Pattern

/-- A reading of a local pattern stays when the text behind its word is replaced by one that
looks the same to a word boundary. -/
theorem Local.mem_readings {pattern : Pattern} (isLocal : Local pattern) (cursor stop : Cursor)
    (word other : List Char) (member : stop ∈ pattern.readings cursor)
    (split : cursor.after = word ++ stop.after) (alike : AlikeAt stop.after other) :
    { stop with after := other } ∈ pattern.readings { cursor with after := word ++ other } := by
  induction isLocal generalizing cursor stop word other with
  | empty =>
    obtain rfl := List.mem_singleton.mp member
    obtain rfl : word = [] := by simpa using split
    exact List.mem_singleton_self _
  | char test =>
    obtain ⟨c, accepted, splitChar, isStop⟩ := (mem_readings_char test cursor stop).mp member
    obtain rfl : word = [c] := List.append_cancel_right (split.symm.trans splitChar)
    refine (mem_readings_char test _ _).mpr ⟨c, accepted, rfl, ?_⟩
    rw [isStop]
    rfl
  | edge negated ascii =>
    rw [readings] at member ⊢
    split at member
    · next held =>
      obtain rfl := List.mem_singleton.mp member
      obtain rfl : word = [] := by simpa using split
      have same := AlikeAt.boundary_holds negated ascii stop { stop with after := other } (.refl _)
        alike
      rw [List.nil_append, if_pos (same ▸ held)]
      exact List.mem_singleton_self _
    · simp at member
  | @seq first second _ _ ihFirst ihSecond =>
    obtain ⟨mid, reached, onward⟩ := List.mem_flatMap.mp member
    obtain ⟨early, -, splitEarly, -, -⟩ := (moves_of_mem_readings first cursor mid reached).taken
    obtain ⟨late, -, splitLate, -, -⟩ := (moves_of_mem_readings second mid stop onward).taken
    obtain rfl : word = early ++ late := by
      rw [splitEarly, splitLate, ← List.append_assoc] at split
      exact (List.append_cancel_right split).symm
    have middle : AlikeAt mid.after (late ++ other) := splitLate ▸ alike.append late
    have start := ihFirst cursor mid early (late ++ other) reached splitEarly middle
    rw [← List.append_assoc] at start
    exact List.mem_flatMap.mpr ⟨_, start, ihSecond mid stop late other onward splitLate alike⟩
  | alt _ _ ihFirst ihSecond =>
    rcases List.mem_append.mp member with left | right
    · exact List.mem_append_left _ (ihFirst cursor stop word other left split alike)
    · exact List.mem_append_right _ (ihSecond cursor stop word other right split alike)
  | @group index body _ ih =>
    obtain ⟨inner, reached, rfl⟩ := List.mem_map.mp member
    refine List.mem_map.mpr ⟨_, ih cursor inner word other reached split alike, ?_⟩
    obtain ⟨taken, -, splitTaken, -, forward⟩ :=
      (moves_of_mem_readings body cursor inner reached).taken
    obtain rfl : word = taken := List.append_cancel_right (split.symm.trans splitTaken)
    rw [Cursor.remember_eq index word cursor inner splitTaken forward]
    exact Cursor.remember_eq index word _ _ rfl forward
  | many reconsiders least most test =>
    rw [mem_readings_many _ least most test reconsiders] at member ⊢
    obtain ⟨taken, repeated, splitTaken, isStop⟩ := member
    obtain rfl : word = taken := List.append_cancel_right (split.symm.trans splitTaken)
    refine ⟨word, repeated, rfl, ?_⟩
    rw [isStop]
    rfl
  | optional _ ih =>
    rw [readings_optional] at member ⊢
    rcases List.mem_append.mp member with inside | outside
    · exact List.mem_append_left _ (ih cursor stop word other inside split alike)
    · obtain rfl := List.mem_singleton.mp outside
      obtain rfl : word = [] := by simpa using split
      exact List.mem_append_right _ (List.mem_singleton_self _)

end Pattern

/-- Two positions, each relative to a start of its own, that look the same to a local pattern:
the same text follows them, and one group has the same text. -/
structure Cursor.Alike (index start onset : Nat) (cursor other : Cursor) : Prop where
  after : cursor.after = other.after
  before : AlikeAt cursor.before other.before
  offset : cursor.position + onset = other.position + start
  remembered : cursor.group? index = other.group? index

namespace Cursor.Alike

variable {index start onset : Nat} {cursor other : Cursor}

theorem step (alike : cursor.Alike index start onset other) (c : Char) (after : List Char) :
    (cursor.step c after).Alike index start onset (other.step c after) := by
  refine ⟨rfl, ⟨rfl, fun _ => rfl⟩, ?_, alike.remembered⟩
  have := alike.offset
  simp only [Cursor.step]
  omega

theorem remember (alike : cursor.Alike index start onset other) (own : Nat) {since origin : Cursor}
    (begun : since.Alike index start onset origin) :
    (cursor.remember own since).Alike index start onset (other.remember own origin) := by
  refine ⟨alike.after, alike.before, alike.offset, ?_⟩
  by_cases same : index = own
  · have length : cursor.position - since.position = other.position - origin.position := by
      have here := alike.offset
      have there := begun.offset
      omega
    rw [same, group?_remember, group?_remember, length, begun.after]
  · rw [group?_remember_of_ne cursor since own index same,
      group?_remember_of_ne other origin own index same, alike.remembered]

/-- The stretches from alike positions have alike ends. -/
theorem forall₂_stretch (alike : cursor.Alike index start onset other) (test : CharTest)
    (room : Option Nat) (text : List Char) :
    List.Forall₂ (Cursor.Alike index start onset) (stretch test room cursor text)
      (stretch test room other text) := by
  induction text generalizing cursor other room with
  | nil => exact .cons alike .nil
  | cons c after inductionHypothesis =>
    rw [stretch, stretch]
    split
    · exact .cons alike (inductionHypothesis (alike.step c after) _)
    · exact .cons alike .nil

end Cursor.Alike

namespace Pattern

/-- From alike positions a local pattern has the same readings. -/
theorem Local.forall₂_readings {pattern : Pattern} (isLocal : Local pattern)
    (index start onset : Nat) (cursor other : Cursor)
    (alike : cursor.Alike index start onset other) :
    List.Forall₂ (Cursor.Alike index start onset) (pattern.readings cursor)
      (pattern.readings other) := by
  induction isLocal generalizing cursor other with
  | empty => exact .cons alike .nil
  | char test =>
    rw [readings, readings, alike.after]
    cases other.after with
    | nil => exact .nil
    | cons c after =>
      by_cases accepted : test.accepts c = true
      · simpa only [accepted, if_true] using .cons (alike.step c after) .nil
      · simpa only [accepted] using .nil
  | edge negated ascii =>
    rw [readings, readings, AlikeAt.boundary_holds negated ascii cursor other alike.before
      (alike.after ▸ .refl _)]
    split
    · exact .cons alike .nil
    · exact .nil
  | seq _ _ ihFirst ihSecond =>
    exact List.rel_flatMap (ihFirst cursor other alike) (fun _ _ related => ihSecond _ _ related)
  | alt _ _ ihFirst ihSecond =>
    exact List.rel_append (ihFirst cursor other alike) (ihSecond cursor other alike)
  | group own _ ih =>
    exact List.rel_map (fun _ _ related => related.remember own alike) (ih cursor other alike)
  | @many greed reconsiders least most test =>
    have ends := List.forall₂_drop least (alike.forall₂_stretch test most other.after)
    cases greed with
    | most => simpa only [readings, roundsOfChar, alike.after] using List.rel_reverse ends
    | fewest => simpa only [readings, roundsOfChar, alike.after] using ends
    | firm => exact absurd rfl reconsiders
  | optional _ ih =>
    rw [readings_optional, readings_optional]
    exact List.rel_append (ih cursor other alike) (.cons alike .nil)

/-- From alike positions a local pattern can be read or not. -/
theorem Local.readings_ne_nil {pattern : Pattern} (isLocal : Local pattern)
    {index start onset : Nat} {cursor other : Cursor}
    (alike : cursor.Alike index start onset other) (some : pattern.readings cursor ≠ []) :
    pattern.readings other ≠ [] := by
  have same := (isLocal.forall₂_readings index start onset cursor other alike).length_eq
  intro none
  rw [none, List.length_nil] at same
  exact some (List.length_eq_zero_iff.mp same)

/-- From alike positions a local pattern has alike first readings, if any. -/
theorem Local.head?_readings {pattern : Pattern} (isLocal : Local pattern)
    {index start onset : Nat} {cursor other : Cursor}
    (alike : cursor.Alike index start onset other) :
    ((pattern.readings cursor).head? = none ∧ (pattern.readings other).head? = none) ∨
      ∃ stop ∈ pattern.readings cursor, ∃ otherStop ∈ pattern.readings other,
        (pattern.readings cursor).head? = some stop ∧
        (pattern.readings other).head? = some otherStop ∧
        stop.Alike index start onset otherStop := by
  have related := isLocal.forall₂_readings index start onset cursor other alike
  cases ends : pattern.readings cursor with
  | nil =>
    rw [ends, List.forall₂_nil_left_iff] at related
    exact .inl ⟨rfl, by rw [related]; rfl⟩
  | cons stop rest =>
    rw [ends, List.forall₂_cons_left_iff] at related
    obtain ⟨otherStop, others, same, -, isOther⟩ := related
    rw [isOther]
    exact .inr ⟨stop, List.mem_cons_self, otherStop, List.mem_cons_self, rfl, rfl, same⟩

end Pattern

end Rulebook
