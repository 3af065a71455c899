/-
This file is about the few items of a set that are nearest to something. How far an item is
away is a key in a linear order, and distinct items have distinct keys. An item is among the
`count` nearest of a set when fewer than `count` items of the set are strictly nearer. The
nearest of a growing set can be kept from the nearest so far and what is added. A program
that sorts a list and cuts it keeps the nearest as long as what is left has no duplicates,
and this file says when that is so. It also says which items such a program may leave out.
-/

import Mathlib

namespace Nearest

variable {Item Distance : Type} [LinearOrder Distance]

/-! ### The nearest items of a set -/

/-- The number of items of the set that are strictly nearer. -/
def rank (key : Item → Distance) (items : Finset Item) (item : Item) : Nat :=
  (items.filter (key · < key item)).card

/-- The items of the set with fewer than `count` nearer ones. -/
def nearest (key : Item → Distance) (count : Nat) (items : Finset Item) : Finset Item :=
  items.filter (rank key items · < count)

variable {key : Item → Distance}

theorem mem_nearest {count : Nat} {items : Finset Item} {item : Item} :
    item ∈ nearest key count items ↔ item ∈ items ∧ rank key items item < count :=
  Finset.mem_filter

theorem rank_mono {items larger : Finset Item} (included : items ⊆ larger) (item : Item) :
    rank key items item ≤ rank key larger item :=
  Finset.card_le_card (Finset.filter_subset_filter _ included)

theorem rank_lt_rank {items : Finset Item} {near far : Item} (member : near ∈ items)
    (nearer : key near < key far) : rank key items near < rank key items far := by
  refine Finset.card_lt_card (Finset.ssubset_iff_subset_ne.mpr ⟨?_, fun same => ?_⟩)
  · intro other held
    obtain ⟨inside, before⟩ := Finset.mem_filter.mp held
    exact Finset.mem_filter.mpr ⟨inside, before.trans nearer⟩
  · have counted : near ∈ items.filter (key · < key far) :=
      Finset.mem_filter.mpr ⟨member, nearer⟩
    rw [← same] at counted
    exact lt_irrefl _ (Finset.mem_filter.mp counted).2

theorem rank_lt_card {items : Finset Item} {item : Item} (member : item ∈ items) :
    rank key items item < items.card := by
  refine Finset.card_lt_card (Finset.filter_ssubset.mpr ⟨item, member, ?_⟩)
  exact lt_irrefl _

/-- Every rank below the size of the set is taken, since distinct items have distinct ranks. -/
theorem exists_rank_eq (injective : Function.Injective key) {items : Finset Item} {place : Nat}
    (inside : place < items.card) : ∃ item ∈ items, rank key items item = place := by
  have distinct : Set.InjOn (rank key items) items := by
    intro first firstIn second secondIn same
    by_contra different
    rcases lt_or_gt_of_ne (injective.ne different) with nearer | nearer
    · exact absurd same (rank_lt_rank firstIn nearer).ne
    · exact absurd same (rank_lt_rank secondIn nearer).ne'
  have all : items.image (rank key items) = Finset.range items.card := by
    refine Finset.eq_of_subset_of_card_le (fun place held => ?_) ?_
    · obtain ⟨item, member, rfl⟩ := Finset.mem_image.mp held
      exact Finset.mem_range.mpr (rank_lt_card member)
    · rw [Finset.card_range, Finset.card_image_of_injOn distinct]
  exact Finset.mem_image.mp (all ▸ Finset.mem_range.mpr inside)

/-- A set of enough items has `count` nearest ones. -/
theorem le_card_nearest (injective : Function.Injective key) {items : Finset Item} {count : Nat}
    (enough : count ≤ items.card) : count ≤ (nearest key count items).card := by
  have taken : Finset.range count ⊆ (nearest key count items).image (rank key items) := by
    intro place below
    rw [Finset.mem_range] at below
    obtain ⟨item, member, same⟩ := exists_rank_eq injective (below.trans_le enough)
    exact Finset.mem_image.mpr ⟨item, mem_nearest.mpr ⟨member, same ▸ below⟩, same⟩
  calc
    count = (Finset.range count).card := (Finset.card_range count).symm
    _ ≤ ((nearest key count items).image (rank key items)).card := Finset.card_le_card taken
    _ ≤ (nearest key count items).card := Finset.card_image_le

/-! ### Sorting and cutting a list -/

/-- The stable sort of a list by a key. -/
def sortByKey (key : Item → Distance) (items : List Item) : List Item :=
  items.insertionSort (key · ≤ key ·)

theorem perm_sortByKey (key : Item → Distance) (items : List Item) :
    (sortByKey key items).Perm items :=
  List.perm_insertionSort _ items

theorem pairwise_sortByKey (key : Item → Distance) (items : List Item) :
    (sortByKey key items).Pairwise (key · ≤ key ·) :=
  List.pairwise_insertionSort _ items

/-- An item that is nearer than all before it, and no farther than all after it, comes first. -/
theorem sortByKey_append_cons {before after : List Item} {item : Item}
    (nearer : ∀ other ∈ before, key item < key other)
    (first : ∀ other ∈ after, key item ≤ key other) :
    ∃ rest, sortByKey key (before ++ item :: after) = item :: rest := by
  induction before with
  | nil =>
    refine ⟨sortByKey key after, ?_⟩
    rw [List.nil_append, sortByKey, List.insertionSort_cons]
    cases sorted : after.insertionSort (key · ≤ key ·) with
    | nil => rw [List.orderedInsert_nil, sortByKey, sorted]
    | cons head tail =>
      have member : head ∈ after := by
        refine (perm_sortByKey key after).mem_iff.mp ?_
        rw [sortByKey, sorted]
        exact List.mem_cons_self
      rw [List.orderedInsert_cons_of_le (key · ≤ key ·) _ (first head member), sortByKey, sorted]
  | cons other before inductionHypothesis =>
    obtain ⟨rest, sorted⟩ := inductionHypothesis fun another member =>
      nearer another (List.mem_cons_of_mem _ member)
    rw [sortByKey] at sorted
    refine ⟨rest.orderedInsert (key · ≤ key ·) other, ?_⟩
    rw [List.cons_append, sortByKey, List.insertionSort_cons, sorted]
    exact List.orderedInsert_of_not_le (key · ≤ key ·) _ (nearer other List.mem_cons_self).not_ge

variable {sorted : List Item}

/-- What follows the cut of a sorted list is not nearer than what stands before it. -/
theorem le_of_mem_drop (order : sorted.Pairwise (key · ≤ key ·)) {count : Nat} {near far : Item}
    (before : near ∈ sorted.take count) (after : far ∈ sorted.drop count) : key near ≤ key far := by
  rw [← List.take_append_drop count sorted, List.pairwise_append] at order
  exact order.2.2 near before far after

theorem length_take_of_mem_drop {list : List Item} {count : Nat} {item : Item}
    (after : item ∈ list.drop count) : (list.take count).length = count := by
  have long := List.length_pos_of_mem after
  rw [List.length_drop] at long
  exact List.length_take_of_le (by omega)

/-- Whatever is nearer than an item before the cut stands before the cut too. -/
theorem mem_take_of_lt (order : sorted.Pairwise (key · ≤ key ·)) {count : Nat} {near far : Item}
    (member : near ∈ sorted) (before : far ∈ sorted.take count) (nearer : key near < key far) :
    near ∈ sorted.take count := by
  rw [← List.take_append_drop count sorted, List.mem_append] at member
  refine member.resolve_right fun after => ?_
  exact absurd nearer (le_of_mem_drop order before after).not_gt

/-! ### Leaving items out -/

/-- Lists of the same items at distinct distances are sorted to the same list. -/
theorem sortByKey_eq_of_perm {first second : List Item} (distinct : (first.map key).Nodup)
    (perm : first.Perm second) : sortByKey key first = sortByKey key second := by
  refine List.Perm.eq_of_pairwise (fun one other oneIn otherIn le ge => ?_)
    (pairwise_sortByKey key first) (pairwise_sortByKey key second)
      ((perm_sortByKey key first).trans (perm.trans (perm_sortByKey key second).symm))
  refine List.inj_on_of_nodup_map distinct ?_ ?_ (le_antisymm le ge)
  · exact (perm_sortByKey key first).mem_iff.mp oneIn
  · exact perm.mem_iff.mpr ((perm_sortByKey key second).mem_iff.mp otherIn)

/-- Whatever is nearer than an item before the cut leaves room for the item. -/
theorem countP_lt_of_mem_take (order : sorted.Pairwise (key · ≤ key ·)) {count : Nat} {item : Item}
    (before : item ∈ sorted.take count) : sorted.countP (key · < key item) < count := by
  have none : (sorted.drop count).countP (key · < key item) = 0 := by
    refine List.countP_eq_zero.mpr fun other after nearer => ?_
    exact absurd (of_decide_eq_true nearer) (le_of_mem_drop order before after).not_gt
  have fewer : (sorted.take count).countP (key · < key item) < (sorted.take count).length := by
    refine lt_of_le_of_ne List.countP_le_length fun all => ?_
    exact absurd (of_decide_eq_true (List.countP_eq_length.mp all item before)) (lt_irrefl _)
  have parts : sorted.countP (key · < key item) = (sorted.take count).countP (key · < key item) +
      (sorted.drop count).countP (key · < key item) := by
    rw [← List.countP_append, List.take_append_drop]
  have short := List.length_take_le count sorted
  omega

/-- Enough nearer items fill the cut of a sorted list. -/
theorem le_of_mem_take (order : sorted.Pairwise (key · ≤ key ·)) {count : Nat}
    {near far : Item} (before : near ∈ sorted.take count)
    (many : count ≤ sorted.countP (key · < key far)) : key near ≤ key far := by
  by_contra further
  rw [not_le] at further
  have nearer : sorted.countP (key · < key far) ≤ sorted.countP (key · < key near) :=
    List.countP_mono_left fun other _ nearer =>
      decide_eq_true ((of_decide_eq_true nearer).trans further)
  exact absurd (many.trans nearer) (countP_lt_of_mem_take order before).not_ge

/-- An item that is left out is not missed only if the cut is full of nearer ones. -/
theorem le_countP_of_take_eq {kept left : List Item}
    (distinct : ((kept ++ left).map key).Nodup) {count : Nat}
    (equal : (sortByKey key kept).take count = (sortByKey key (kept ++ left)).take count)
    {far : Item} (member : far ∈ left) : count ≤ kept.countP (key · < key far) := by
  have size := (perm_sortByKey key kept).length_eq
  have among {item : Item} (before : item ∈ (sortByKey key kept).take count) : item ∈ kept :=
    (perm_sortByKey key kept).mem_iff.mp (List.mem_of_mem_take before)
  have all : far ∈ sortByKey key (kept ++ left) :=
    (perm_sortByKey key _).mem_iff.mpr (List.mem_append_right _ member)
  have outside : far ∉ (sortByKey key kept).take count := by
    intro before
    rw [List.map_append] at distinct
    exact List.disjoint_of_nodup_append distinct (List.mem_map_of_mem (among before))
      (List.mem_map_of_mem member)
  by_contra few
  rw [not_le] at few
  -- more items are left than kept ones, so that the cut is full
  have full : ((sortByKey key kept).take count).length = count := by
    have lengths := congrArg List.length equal
    have positive := List.length_pos_of_mem member
    rw [List.length_take, List.length_take, size, (perm_sortByKey key _).length_eq,
      List.length_append] at lengths
    rw [List.length_take, size]
    omega
  have within : ((sortByKey key kept).take count).countP (key · < key far) < count := by
    refine lt_of_le_of_lt ?_ few
    rw [← (perm_sortByKey key kept).countP_eq]
    exact (List.take_sublist count _).countP_le
  obtain ⟨other, before, notNearer⟩ : ∃ other ∈ (sortByKey key kept).take count,
      ¬ key other < key far := by
    by_contra nearer
    push Not at nearer
    rw [List.countP_eq_length.mpr fun other before => decide_eq_true (nearer other before),
      full] at within
    exact lt_irrefl _ within
  refine outside ?_
  rcases (not_lt.mp notNearer).lt_or_eq with nearer | same
  · rw [equal] at before ⊢
    exact mem_take_of_lt (pairwise_sortByKey key _) all before nearer
  · rwa [List.inj_on_of_nodup_map distinct (List.mem_append_right _ member)
      (List.mem_append_left _ (among before)) same]

/-- Items that are left out do not change the cut, exactly if for each of them there are enough
nearer ones among the others. -/
theorem take_sortByKey_eq_iff {kept left : List Item}
    (distinct : ((kept ++ left).map key).Nodup) (count : Nat) :
    (sortByKey key kept).take count = (sortByKey key (kept ++ left)).take count ↔
      ∀ far ∈ left, count ≤ kept.countP (key · < key far) := by
  refine ⟨fun equal far => le_countP_of_take_eq distinct equal, fun many => ?_⟩
  by_cases none : left = []
  · rw [none, List.append_nil]
  obtain ⟨some, member⟩ := List.exists_mem_of_ne_nil left none
  have enough : count ≤ (sortByKey key kept).length := by
    rw [(perm_sortByKey key kept).length_eq]
    exact (many some member).trans List.countP_le_length
  -- what stands before the cut, and behind it the rest with what was left out
  have whole : sortByKey key (kept ++ left) =
      (sortByKey key kept).take count ++
        sortByKey key ((sortByKey key kept).drop count ++ left) := by
    have perm : (kept ++ left).Perm ((sortByKey key kept).take count ++
        sortByKey key ((sortByKey key kept).drop count ++ left)) := by
      refine .trans ?_ ((perm_sortByKey key _).symm.append_left _)
      rw [← List.append_assoc, List.take_append_drop]
      exact (perm_sortByKey key kept).symm.append_right left
    refine List.Perm.eq_of_pairwise (fun one other oneIn otherIn le ge => ?_)
      (pairwise_sortByKey key _) (List.pairwise_append.mpr ⟨(pairwise_sortByKey key kept).sublist
        (List.take_sublist count _), pairwise_sortByKey key _, fun near before far after => ?_⟩)
      ((perm_sortByKey key _).trans perm)
    · exact List.inj_on_of_nodup_map distinct ((perm_sortByKey key _).mem_iff.mp oneIn)
        (perm.mem_iff.mpr otherIn) (le_antisymm le ge)
    · rcases List.mem_append.mp ((perm_sortByKey key _).mem_iff.mp after) with behind | out
      · exact le_of_mem_drop (pairwise_sortByKey key kept) before behind
      · refine le_of_mem_take (pairwise_sortByKey key kept) before ?_
        rw [(perm_sortByKey key kept).countP_eq]
        exact many far out
  rw [whole, List.take_append_of_le_length (by rw [List.length_take_of_le enough]), List.take_take,
    Nat.min_self]

/-! ### Keeping the nearest -/

variable [DecidableEq Item]

/-- The nearest of a set and some further items are found among the nearest of the set and the
further items. -/
theorem nearest_nearest_union (injective : Function.Injective key) (count : Nat)
    (items further : Finset Item) :
    nearest key count (nearest key count items ∪ further) =
      nearest key count (items ∪ further) := by
  have included : nearest key count items ∪ further ⊆ items ∪ further :=
    Finset.union_subset_union_left (Finset.filter_subset _ _)
  have found : nearest key count (items ∪ further) ⊆ nearest key count items ∪ further := by
    intro item held
    obtain ⟨member, few⟩ := mem_nearest.mp held
    rcases Finset.mem_union.mp member with old | new
    · refine Finset.mem_union_left _ (mem_nearest.mpr ⟨old, ?_⟩)
      exact (rank_mono Finset.subset_union_left item).trans_lt few
    · exact Finset.mem_union_right _ new
  refine Finset.Subset.antisymm (fun item held => ?_) fun item held => ?_
  · obtain ⟨member, few⟩ := mem_nearest.mp held
    refine mem_nearest.mpr ⟨included member, ?_⟩
    -- if too many were nearer, the nearest of those would count against the item as well
    by_contra many
    rw [not_lt] at many
    refine few.not_ge ((le_card_nearest injective many).trans (Finset.card_le_card ?_))
    intro other chosen
    obtain ⟨nearer, fewNearer⟩ := mem_nearest.mp chosen
    obtain ⟨inside, before⟩ := Finset.mem_filter.mp nearer
    refine Finset.mem_filter.mpr ⟨found (mem_nearest.mpr ⟨inside, ?_⟩), before⟩
    refine (Finset.card_le_card fun third held => ?_).trans_lt fewNearer
    obtain ⟨thirdInside, thirdBefore⟩ := Finset.mem_filter.mp held
    exact Finset.mem_filter.mpr
      ⟨Finset.mem_filter.mpr ⟨thirdInside, thirdBefore.trans before⟩, thirdBefore⟩
  · have few := (mem_nearest.mp held).2
    exact mem_nearest.mpr ⟨found held, (rank_mono included item).trans_lt few⟩

/-- A cut without duplicates holds the nearest items. -/
theorem toFinset_take (injective : Function.Injective key)
    (order : sorted.Pairwise (key · ≤ key ·)) {count : Nat}
    (distinct : (sorted.take count).Nodup) :
    (sorted.take count).toFinset = nearest key count sorted.toFinset := by
  ext item
  rw [mem_nearest, List.mem_toFinset, List.mem_toFinset]
  constructor
  · intro before
    refine ⟨List.mem_of_mem_take before, ?_⟩
    -- what is nearer stands before the cut, next to the item itself
    have included : sorted.toFinset.filter (key · < key item) ⊆
        (sorted.take count).toFinset.erase item := by
      intro near held
      obtain ⟨member, nearer⟩ := Finset.mem_filter.mp held
      refine Finset.mem_erase.mpr ⟨fun same => lt_irrefl _ (same ▸ nearer), ?_⟩
      exact List.mem_toFinset.mpr (mem_take_of_lt order (List.mem_toFinset.mp member) before nearer)
    calc
      rank key sorted.toFinset item ≤ ((sorted.take count).toFinset.erase item).card :=
        Finset.card_le_card included
      _ < (sorted.take count).toFinset.card :=
        Finset.card_erase_lt_of_mem (List.mem_toFinset.mpr before)
      _ ≤ (sorted.take count).length := List.toFinset_card_le _
      _ ≤ count := List.length_take_le _ _
  · rintro ⟨member, few⟩
    by_contra outside
    have after : item ∈ sorted.drop count := by
      rw [← List.take_append_drop count sorted, List.mem_append] at member
      exact member.resolve_left outside
    have full := length_take_of_mem_drop after
    have nearer : (sorted.take count).toFinset ⊆ sorted.toFinset.filter (key · < key item) := by
      intro near before
      rw [List.mem_toFinset] at before
      refine Finset.mem_filter.mpr ⟨List.mem_toFinset.mpr (List.mem_of_mem_take before), ?_⟩
      refine (le_of_mem_drop order before after).lt_of_ne (injective.ne fun same => ?_)
      exact outside (same ▸ before)
    have many := Finset.card_le_card nearer
    rw [List.toFinset_card_of_nodup distinct, full] at many
    exact few.not_ge many

/-- The cut of a sorted list has no duplicates exactly when every item that occurs twice has
enough items in front of it, counted with their repetitions, to be cut off after its first
occurrence. -/
theorem nodup_take_iff (injective : Function.Injective key)
    (order : sorted.Pairwise (key · ≤ key ·)) (count : Nat) :
    (sorted.take count).Nodup ↔
      ∀ item, 2 ≤ sorted.count item → count ≤ sorted.countP (key · < key item) + 1 := by
  have split (item : Item) : sorted.count item =
      (sorted.take count).count item + (sorted.drop count).count item := by
    rw [← List.count_append, List.take_append_drop]
  constructor
  · intro distinct item twice
    have once := List.nodup_iff_count_le_one.mp distinct item
    have after : item ∈ sorted.drop count := by
      rw [← List.count_pos_iff]
      have := split item
      omega
    have full := length_take_of_mem_drop after
    -- all of the cut is nearer than the item, save the item itself
    have nearer : (sorted.take count).countP
        (fun near => decide ¬ decide (key near < key item) = true) ≤
          (sorted.take count).count item := by
      refine List.countP_mono_left fun near before far => ?_
      rw [decide_eq_true_iff, decide_eq_true_iff, not_lt] at far
      exact beq_iff_eq.mpr (injective ((le_of_mem_drop order before after).antisymm far))
    have parts := (sorted.take count).length_eq_countP_add_countP (key · < key item)
    have within := (List.take_sublist count sorted).countP_le (p := (key · < key item))
    omega
  · intro spare
    refine List.nodup_iff_count_le_one.mpr fun item => ?_
    by_contra twice
    have before : item ∈ sorted.take count := by
      rw [← List.count_pos_iff]
      omega
    have enough := spare item (by have := split item; omega)
    have none : (sorted.drop count).countP (key · < key item) = 0 := by
      refine List.countP_eq_zero.mpr fun far after nearer => ?_
      exact absurd (of_decide_eq_true nearer) (le_of_mem_drop order before after).not_gt
    have parts : sorted.countP (key · < key item) =
        (sorted.take count).countP (key · < key item) +
          (sorted.drop count).countP (key · < key item) := by
      rw [← List.countP_append, List.take_append_drop]
    rw [none] at parts
    have disjoint : (sorted.take count).countP (key · < key item) +
        (sorted.take count).count item ≤ (sorted.take count).length := by
      rw [(sorted.take count).length_eq_countP_add_countP (key · < key item)]
      refine Nat.add_le_add_left (List.countP_mono_left fun near _ same => ?_) _
      rw [beq_iff_eq.mp same]
      simp
    have short := List.length_take_le count sorted
    omega

end Nearest
