import Rulebook.Proofs.Landing

/-!
# Rows in order

A table keeps its rows in strictly increasing order of their keys. So no key has two rows, a row
that is put under a key on record takes the place of the row there, and a row that is put under a
new key adds that key and no other.

The order is that of the characters of the keys. What puts a row reads no further than the first
key that is not smaller, so all of this rests on the rows being in order before.
-/

namespace Rulebook.Table

variable {α : Type} {keyOf : α → String} {rows : List α}

/-- True of rows in strictly increasing order of their keys. -/
def Ordered (keyOf : α → String) (rows : List α) : Prop := (rows.map keyOf).Pairwise (· < ·)

/-- The first of several rows in order has the smallest key. -/
theorem ordered_cons_iff (first : α) (rest : List α) :
    Ordered keyOf (first :: rest) ↔
      (∀ row ∈ rest, keyOf first < keyOf row) ∧ Ordered keyOf rest := by
  simp only [Ordered, List.map_cons, List.pairwise_cons, List.forall_mem_map]

/-- A smaller key is another one. -/
theorem ne_of_lt {key other : String} (before : key < other) : key ≠ other := by
  rintro rfl
  exact String.lt_irrefl key before

/-- A key that is neither the same nor smaller is larger. -/
theorem lt_of_not_lt (key other : String) (different : other ≠ key) (later : ¬ key < other) :
    other < key := Std.lt_of_le_of_ne (Std.not_lt.mp later) different

/-- A row goes to the front, in the place of the first row or before it, or behind that row. -/
theorem putRow_cases (keyOf : α → String) (row first : α) (rest : List α) :
    (keyOf first = keyOf row ∧ putRow keyOf row (first :: rest) = row :: rest) ∨
      (keyOf row < keyOf first ∧ putRow keyOf row (first :: rest) = row :: first :: rest) ∨
      (keyOf first < keyOf row ∧
        putRow keyOf row (first :: rest) = first :: putRow keyOf row rest) := by
  rw [putRow]
  by_cases same : keyOf first = keyOf row
  · exact Or.inl ⟨same, if_pos (beq_iff_eq.mpr same)⟩
  · rw [if_neg fun alike => same (beq_iff_eq.mp alike)]
    by_cases before : keyOf row < keyOf first
    · exact Or.inr (Or.inl ⟨before, if_pos before⟩)
    · exact Or.inr (Or.inr ⟨lt_of_not_lt _ _ same before, if_neg before⟩)

/-- Nothing but the row that is put is new. -/
theorem mem_of_mem_putRow (row other : α) (member : other ∈ putRow keyOf row rows) :
    other = row ∨ other ∈ rows := by
  induction rows with
  | nil => exact Or.inl (List.mem_singleton.mp member)
  | cons first rest inductionHypothesis =>
    rcases putRow_cases keyOf row first rest with ⟨-, put⟩ | ⟨-, put⟩ | ⟨-, put⟩
    · rw [put] at member
      exact (List.mem_cons.mp member).imp id (List.mem_cons_of_mem first)
    · rw [put] at member
      exact List.mem_cons.mp member
    · rw [put] at member
      rcases List.mem_cons.mp member with rfl | among
      · exact Or.inr List.mem_cons_self
      · exact (inductionHypothesis among).imp id (List.mem_cons_of_mem first)

/-- A row that is put keeps the order. -/
theorem Ordered.putRow (ordered : Ordered keyOf rows) (row : α) :
    Ordered keyOf (putRow keyOf row rows) := by
  induction rows with
  | nil => exact List.pairwise_singleton _ _
  | cons first rest inductionHypothesis =>
    obtain ⟨smallest, others⟩ := (ordered_cons_iff first rest).mp ordered
    rcases putRow_cases keyOf row first rest with ⟨same, put⟩ | ⟨before, put⟩ | ⟨after, put⟩
    · rw [put, ordered_cons_iff, ← same]
      exact ⟨smallest, others⟩
    · rw [put, ordered_cons_iff]
      refine ⟨List.forall_mem_cons.mpr ⟨before, fun other member => ?_⟩, ordered⟩
      exact String.lt_trans before (smallest other member)
    · rw [put, ordered_cons_iff]
      refine ⟨fun other member => ?_, inductionHypothesis others⟩
      rcases mem_of_mem_putRow row other member with rfl | among
      · exact after
      · exact smallest other among

/-- No two rows in order have the same key. -/
theorem Ordered.nodup (ordered : Ordered keyOf rows) : (rows.map keyOf).Nodup :=
  ordered.imp fun before => ne_of_lt before

/-- A row is found under a key exactly when the key is one of the rows'. -/
theorem isSome_rowAt?_iff (key : String) :
    (rowAt? keyOf key rows).isSome = true ↔ key ∈ rows.map keyOf := by
  simp only [rowAt?, List.find?_isSome, List.mem_map, beq_iff_eq]

/-- No row is found under a key that is none of the rows'. -/
theorem rowAt?_eq_none_iff (key : String) :
    rowAt? keyOf key rows = none ↔ key ∉ rows.map keyOf := by
  rw [← isSome_rowAt?_iff, Bool.not_eq_true, Option.isSome_eq_false_iff, Option.isNone_iff_eq_none]

/-- A change to the row under a key that is not there changes nothing. -/
theorem map_change_of_notMem (change : α → α) (key : String) (absent : key ∉ rows.map keyOf) :
    (rows.map fun other => if keyOf other = key then change other else other) = rows := by
  refine (List.map_congr_left fun other member => ?_).trans (List.map_id rows)
  refine if_neg fun here => absent ?_
  exact here ▸ List.mem_map_of_mem member

/-- The changed row takes the place of the one that was found, and all other rows stay. -/
theorem Ordered.putRow_change (ordered : Ordered keyOf rows) (change : α → α) (key : String)
    (row : α) (found : rowAt? keyOf key rows = some row) (kept : keyOf (change row) = key) :
    Table.putRow keyOf (change row) rows =
      rows.map fun other => if keyOf other = key then change other else other := by
  have here := key_of_rowAt? keyOf key rows row found
  induction rows with
  | nil => cases found
  | cons first rest inductionHypothesis =>
    obtain ⟨smallest, others⟩ := (ordered_cons_iff first rest).mp ordered
    rw [rowAt?, List.find?_cons] at found
    split at found
    · next same =>
      obtain rfl := Option.some.inj found
      have absent : key ∉ rest.map keyOf := by
        rw [← here, List.mem_map]
        rintro ⟨other, member, same⟩
        exact ne_of_lt (smallest other member) same.symm
      have replaced : (keyOf first == keyOf (change first)) = true := by
        rw [here, kept, beq_self_eq_true]
      rw [List.map_cons, if_pos here, map_change_of_notMem change key absent,
        Table.putRow, if_pos replaced]
    · next different =>
      have larger := smallest row (List.mem_of_find?_eq_some found)
      rw [here, ← kept] at larger
      rcases putRow_cases keyOf (change row) first rest with ⟨same, -⟩ | ⟨before, -⟩ | ⟨-, put⟩
      · exact absurd same (ne_of_lt larger)
      · exact absurd rfl (ne_of_lt (String.lt_trans larger before))
      · rw [put, List.map_cons, if_neg (ne_of_beq_false different),
          inductionHypothesis others found]

/-- A row under a new key adds that key to the others. -/
theorem keys_putRow_of_notMem (row : α) (fresh : keyOf row ∉ rows.map keyOf) :
    ((putRow keyOf row rows).map keyOf).Perm (keyOf row :: rows.map keyOf) := by
  induction rows with
  | nil => exact .refl _
  | cons first rest inductionHypothesis =>
    obtain ⟨different, others⟩ := List.ne_and_not_mem_of_not_mem_cons fresh
    rcases putRow_cases keyOf row first rest with ⟨same, -⟩ | ⟨-, put⟩ | ⟨-, put⟩
    · exact absurd same.symm different
    · rw [put]
      exact .refl _
    · rw [put, List.map_cons, List.map_cons]
      exact ((inductionHypothesis others).cons _).trans (.swap _ _ _)

end Rulebook.Table
