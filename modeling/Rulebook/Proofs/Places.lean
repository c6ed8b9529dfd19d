import Mathlib.Data.List.Sort

/-!
# What stands where

What is read off a text or off a list stands at some place of it. A list of such items is described
by saying what stands at which place: it has all that stands somewhere and nothing else, in the
order of the places. That settles the list, items that stand at several places included, since
they are listed once for each.
-/

namespace Rulebook

variable {α β : Type}

/-- Items with their places, in order, which are all that stands somewhere. -/
structure Placed (stands : Nat → α → Prop) (placed : List (α × Nat)) : Prop where
  ascending : placed.Pairwise fun first next => first.2 < next.2
  complete : ∀ item place, (item, place) ∈ placed ↔ stands place item

/-- A list of all that stands somewhere, in the order of the places. -/
def ListsInOrder (stands : Nat → α → Prop) (found : List α) : Prop :=
  ∃ placed, Placed stands placed ∧ placed.map (·.1) = found

/-- The items of a list stand at their own places. -/
theorem listsInOrder_self (list : List α) :
    ListsInOrder (fun place item => list[place]? = some item) list := by
  refine ⟨list.zipIdx, ⟨?_, ?_⟩, List.zipIdx_map_fst 0 list⟩
  · generalize 0 = start
    induction list generalizing start with
    | nil => exact .nil
    | cons item rest inductionHypothesis =>
      rw [List.zipIdx_cons]
      apply List.Pairwise.cons _ (inductionHypothesis (start + 1))
      intro next member
      exact (List.mem_zipIdx member).1
  · intro item place
    exact List.mem_zipIdx_iff_getElem?

namespace ListsInOrder

variable {stands other : Nat → α → Prop} {found : List α}

theorem nil (nothing : ∀ place item, ¬ stands place item) : ListsInOrder stands [] := by
  refine ⟨[], ⟨.nil, ?_⟩, rfl⟩
  intro item place
  exact iff_of_false List.not_mem_nil (nothing place item)

theorem congr (lists : ListsInOrder stands found)
    (same : ∀ place item, other place item ↔ stands place item) : ListsInOrder other found := by
  obtain ⟨placed, ⟨ascending, complete⟩, rfl⟩ := lists
  refine ⟨placed, ⟨ascending, ?_⟩, rfl⟩
  intro item place
  rw [complete, same]

/-- An item in front of all others is listed first. -/
theorem cons (lists : ListsInOrder stands found) (front : Nat) (value : α)
    (behind : ∀ place item, stands place item → front < place) :
    ListsInOrder (fun place item => (place = front ∧ item = value) ∨ stands place item)
      (value :: found) := by
  obtain ⟨placed, ⟨ascending, complete⟩, rfl⟩ := lists
  refine ⟨(value, front) :: placed, ⟨?_, ?_⟩, rfl⟩
  · apply List.Pairwise.cons _ ascending
    rintro ⟨item, place⟩ member
    exact behind place item ((complete item place).mp member)
  · intro item place
    rw [List.mem_cons, complete, Prod.mk.injEq, and_comm]

/-- All places may be moved back by the same width. -/
theorem shift (lists : ListsInOrder stands found) (width : Nat) :
    ListsInOrder (fun place item => ∃ start, place = start + width ∧ stands start item) found := by
  obtain ⟨placed, ⟨ascending, complete⟩, rfl⟩ := lists
  refine ⟨placed.map fun entry => (entry.1, entry.2 + width), ⟨?_, ?_⟩, ?_⟩
  · rw [List.pairwise_map]
    exact ascending.imp fun before => Nat.add_lt_add_right before width
  · intro item place
    rw [List.mem_map]
    constructor
    · rintro ⟨⟨source, start⟩, member, same⟩
      obtain ⟨rfl, rfl⟩ := Prod.mk.inj same
      exact ⟨start, rfl, (complete _ _).mp member⟩
    · rintro ⟨start, rfl, stood⟩
      exact ⟨(item, start), (complete _ _).mpr stood, rfl⟩
  · rw [List.map_map]
    rfl

/-- What is made of the items stands where they do. -/
theorem filterMap (lists : ListsInOrder stands found) (f : α → Option β) :
    ListsInOrder (fun place value => ∃ item, stands place item ∧ f item = some value)
      (found.filterMap f) := by
  obtain ⟨placed, ⟨ascending, complete⟩, rfl⟩ := lists
  refine ⟨placed.filterMap fun entry => (f entry.1).map (·, entry.2), ⟨?_, ?_⟩, ?_⟩
  · refine ascending.filterMap _ ?_
    intro first next before value isValue further isFurther
    obtain ⟨_, -, rfl⟩ := Option.map_eq_some_iff.mp isValue
    obtain ⟨_, -, rfl⟩ := Option.map_eq_some_iff.mp isFurther
    exact before
  · intro value place
    rw [List.mem_filterMap]
    constructor
    · rintro ⟨⟨item, start⟩, member, made⟩
      obtain ⟨_, isValue, same⟩ := Option.map_eq_some_iff.mp made
      obtain ⟨rfl, rfl⟩ := Prod.mk.inj same
      exact ⟨item, (complete _ _).mp member, isValue⟩
    · rintro ⟨item, stood, isValue⟩
      refine ⟨(item, place), (complete _ _).mpr stood, ?_⟩
      rw [isValue, Option.map_some]
  · rw [List.map_filterMap, List.filterMap_map]
    congr 1
    funext entry
    rw [Option.map_map]
    exact Option.map_id_apply

/-- Listed is what stands somewhere. -/
theorem mem_iff (lists : ListsInOrder stands found) (item : α) :
    item ∈ found ↔ ∃ place, stands place item := by
  obtain ⟨placed, ⟨-, complete⟩, rfl⟩ := lists
  rw [List.mem_map]
  constructor
  · rintro ⟨⟨item, place⟩, member, rfl⟩
    exact ⟨place, (complete item place).mp member⟩
  · rintro ⟨place, stood⟩
    exact ⟨(item, place), (complete item place).mpr stood, rfl⟩

/-- What is listed earlier stands further in front. -/
theorem pairwise (lists : ListsInOrder stands found) :
    found.Pairwise fun first next =>
      ∃ place later, place < later ∧ stands place first ∧ stands later next := by
  obtain ⟨placed, ⟨ascending, complete⟩, rfl⟩ := lists
  rw [List.pairwise_map]
  refine ascending.imp_of_mem ?_
  rintro ⟨first, place⟩ ⟨next, later⟩ isFirst isNext before
  exact ⟨place, later, before, (complete _ _).mp isFirst, (complete _ _).mp isNext⟩

/-- What stands where settles the list. -/
theorem unique {also : List α} (lists : ListsInOrder stands found)
    (listsAlso : ListsInOrder stands also) : found = also := by
  obtain ⟨placed, ⟨ascending, complete⟩, rfl⟩ := lists
  obtain ⟨others, ⟨ascendingAlso, completeAlso⟩, rfl⟩ := listsAlso
  have irreflexive : Std.Irrefl fun first next : α × Nat => first.2 < next.2 :=
    ⟨fun _ => Nat.lt_irrefl _⟩
  have antisymmetric : Std.Antisymm fun first next : α × Nat => first.2 < next.2 :=
    ⟨fun _ _ before after => absurd before (Nat.lt_asymm after)⟩
  have same : placed = others := by
    apply ascending.eq_of_mem_iff ascendingAlso
    rintro ⟨item, place⟩
    rw [complete, completeAlso]
  rw [same]

end ListsInOrder

end Rulebook
