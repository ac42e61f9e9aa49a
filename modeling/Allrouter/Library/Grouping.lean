import Mathlib.Tactic

/-!
# Grouping by key

A list of items with keys, grouped: one group for each key, in the order in which the keys
appear, with the items of that key in their order. This is how the fragments of a stream are put
together by whoever reads them. A long list is also cut into chunks, whatever is in it.
-/

namespace Grouping

open List

variable {ι α β : Type*} [DecidableEq ι] {blocks : List β} {key : β → ι}

def items (l : List (ι × α)) (k : ι) : List α :=
  l.filterMap fun x => if x.1 = k then some x.2 else none

/-- The groups, in the order in which their keys first appear. -/
def group (l : List (ι × α)) : List (ι × List α) := (l.map Prod.fst).eraseDups.map fun k =>
    (k, items l k)

@[simp]
lemma items_append (l m : List (ι × α)) (k : ι) : items (l ++ m) k = items l k ++ items m k :=
  filterMap_append

lemma items_eq_nil {l : List (ι × α)} {k : ι} (h : k ∉ l.map Prod.fst) : items l k = [] := by
  refine filterMap_eq_nil_iff.2 fun x hx => if_neg ?_
  rintro rfl
  exact h (mem_map_of_mem hx)

/-- Lists without a key in common are grouped one after the other. -/
lemma group_append {l m : List (ι × α)} (h : List.Disjoint (l.map Prod.fst) (m.map Prod.fst)) :
    group (l ++ m) = group l ++ group m := by
  have hremove : (m.map Prod.fst).removeAll (l.map Prod.fst) = m.map Prod.fst := by
    refine filter_eq_self.2 fun k hk => ?_
    simpa using fun hl => h hl hk
  rw [group, map_append, eraseDups_append, hremove, map_append]
  congr 1
  · refine map_congr_left fun k hk => ?_
    rw [items_append, items_eq_nil (l := m) fun hm => h (mem_eraseDups.1 hk) hm, append_nil]
  · refine map_congr_left fun k hk => ?_
    rw [items_append, items_eq_nil (l := l) fun hl => h hl (mem_eraseDups.1 hk), nil_append]

lemma group_map_mk {l : List α} (k : ι) (h : l ≠ []) : group (l.map (Prod.mk k)) = [(k, l)] := by
  obtain ⟨a, l, rfl⟩ := exists_cons_of_ne_nil h
  have hkeys : (((a :: l).map (Prod.mk k)).map Prod.fst).eraseDups = [k] := by
    rw [map_map, map_cons, eraseDups_cons]
    simp
  rw [group, hkeys, map_singleton]
  simp [items]

section

variable (hkey : blocks.Pairwise fun a b => key a ≠ key b)
include hkey

/-- Blocks of different keys, one after the other, are the groups. -/
lemma group_flatMap {parts : β → List α} (hparts : ∀ b ∈ blocks, parts b ≠ []) :
    group (blocks.flatMap fun b => (parts b).map (Prod.mk (key b))) = blocks.map fun b =>
      (key b, parts b) := by
  induction blocks with
  | nil => rfl
  | cons b blocks ih =>
    obtain ⟨hb, hblocks⟩ := pairwise_cons.1 hkey
    have hdisjoint : List.Disjoint (((parts b).map (Prod.mk (key b))).map Prod.fst)
        ((blocks.flatMap fun b => (parts b).map (Prod.mk (key b))).map Prod.fst) := by
      intro k hk hk'
      simp only [mem_map, mem_flatMap] at hk hk'
      obtain ⟨x, ⟨a, -, rfl⟩, hx⟩ := hk
      obtain ⟨y, ⟨b', hb', a', -, rfl⟩, hy⟩ := hk'
      exact hb b' hb' (hx.trans hy.symm)
    rw [flatMap_cons, group_append hdisjoint, group_map_mk _ (hparts b mem_cons_self),
      ih hblocks fun b' hb' => hparts b' (mem_cons_of_mem _ hb')]
    rfl

end

lemma nodup_eraseDups (l : List ι) : l.eraseDups.Nodup := by
  match l with
  | [] => simp
  | k :: l =>
    rw [eraseDups_cons]
    exact nodup_cons.2 ⟨by simp [mem_eraseDups], nodup_eraseDups _⟩
termination_by l.length
decreasing_by exact Nat.lt_succ_of_le (length_filter_le _ _)

/-- Where every block is a group of its own, the blocks have different keys. -/
lemma nodup_of_length_group {parts : β → List α}
    (h : (group (blocks.flatMap fun b => (parts b).map (Prod.mk (key b)))).length = blocks.length) :
    (blocks.map key).Nodup := by
  rw [group, length_map] at h
  refine Multiset.toFinset_card_eq_card_iff_nodup.1 (le_antisymm (toFinset_card_le _) ?_)
  rw [Multiset.coe_card, length_map, ← h, ← toFinset_card_of_nodup (nodup_eraseDups _)]
  refine Finset.card_le_card fun k hk => mem_toFinset.2 ?_
  obtain ⟨x, hx, rfl⟩ := mem_map.1 (mem_eraseDups.1 (mem_toFinset.1 hk))
  obtain ⟨b, hb, hx⟩ := mem_flatMap.1 hx
  obtain ⟨a, -, rfl⟩ := mem_map.1 hx
  exact mem_map_of_mem hb

/-! ## Chunks -/

/-- The list in chunks of `size`, the last of which may be shorter. -/
def chunk (size : ℕ) : List α → List (List α)
  | [] => []
  | a :: l =>
    let (first, rest) := toChunksAux (size - 1) l (size - 1)
    (a :: first) :: rest

lemma flatten_toChunksAux {α : Type*} (n : ℕ) (l : List α) (i : ℕ) :
    (toChunksAux n l i).1 ++ (toChunksAux n l i).2.flatten = l := by
  induction l generalizing i with
  | nil => rfl
  | cons a l ih =>
    cases i with
    | zero => simpa [toChunksAux] using ih n
    | succ i => simpa [toChunksAux] using ih i

@[simp]
lemma flatten_chunk {α : Type*} (size : ℕ) (l : List α) : (chunk size l).flatten = l := by
  cases l with
  | nil => rfl
  | cons a l => simpa [chunk] using flatten_toChunksAux (size - 1) l (size - 1)

end Grouping
