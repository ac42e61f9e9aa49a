import Mathlib.Tactic

/-!
# Tables

A *table* is a list of rows, each carrying a key; it is *keyed* when no two
rows share one. Rows are looked up by key (`get?`), replaced in place (`put`),
and `others k` are the rows of every key but `k`.

A quantity summed over the rows of a keyed table splits into the row of a key
and the others (`sum_eq_others_add`), and replacing a row leaves the others as
they are (`others_put`): this is how a change of one row is accounted for.
-/

namespace Table

open List

variable {α κ : Type*} [DecidableEq κ] (key : α → κ)

/-- The first row of the key `k`. -/
def get? (k : κ) (l : List α) : Option α := l.find? fun x => key x = k

/-- The table in which `x` replaces the row of its key. -/
def put (x : α) (l : List α) : List α := l.map fun y => if key y = key x then x else y

/-- The table in which the rows of the key `k` are changed. -/
def modify (k : κ) (f : α → α) (l : List α) : List α := l.map fun y => if key y = k then f y else y

/-- The rows of every key but `k`. -/
def others (k : κ) (l : List α) : List α := l.filter fun x => key x ≠ k

/-- No two rows share a key. -/
def Keyed (l : List α) : Prop := (l.map key).Nodup

instance (l : List α) : Decidable (Keyed key l) := inferInstanceAs (Decidable (l.map key).Nodup)

variable {key} {l : List α} {x y : α} {k : κ} {β : Type*}

lemma get?_eq_some (h : get? key k l = some x) : x ∈ l ∧ key x = k :=
  ⟨mem_of_find?_eq_some h, by simpa using find?_some h⟩

lemma get?_eq_none : get? key k l = none ↔ ∀ x ∈ l, key x ≠ k := by
  simp [get?]

/-- Rows added at the end do not hide a row. -/
lemma get?_append (h : get? key k l = some x) (m : List α) : get? key k (l ++ m) = some x := by
  rw [get?, find?_append]
  rw [get?] at h
  rw [h, Option.some_or]

lemma get?_append_self (h : get? key (key x) l = none) : get? key (key x) (l ++ [x]) = some x := by
  rw [get?] at h
  simp [get?, h]

omit [DecidableEq κ] in
lemma Keyed.eq_of_mem (hl : Keyed key l) (hx : x ∈ l) (hy : y ∈ l) (h : key x = key y) : x = y :=
  inj_on_of_nodup_map hl hx hy h

omit [DecidableEq κ] in
lemma Keyed.append_singleton (hl : Keyed key l) (hx : ∀ y ∈ l, key y ≠ key x) :
    Keyed key (l ++ [x]) := by
  simp only [Keyed, map_append]
  refine List.Nodup.append hl (nodup_singleton _) ?_
  simpa using hx

lemma Keyed.others (hl : Keyed key l) (k : κ) : Keyed key (others key k l) :=
  hl.sublist (filter_sublist.map _)

lemma Keyed.get?_of_mem (hl : Keyed key l) (hx : x ∈ l) : get? key (key x) l = some x := by
  cases h : get? key (key x) l with
  | none => exact absurd rfl (get?_eq_none.1 h x hx)
  | some y =>
    obtain ⟨hy, hk⟩ := get?_eq_some h
    rw [hl.eq_of_mem hy hx hk]

lemma mem_others : x ∈ others key k l ↔ x ∈ l ∧ key x ≠ k := by
  simp [others]

lemma map_key_put : (put key x l).map key = l.map key := by
  rw [put, map_map]
  refine map_congr_left fun y _ => ?_
  by_cases h : key y = key x <;> simp [h]

lemma Keyed.put (hl : Keyed key l) (x : α) : Keyed key (put key x l) := by
  rw [Keyed, map_key_put]
  exact hl

lemma mem_put (hy : y ∈ put key x l) : y = x ∨ (y ∈ l ∧ key y ≠ key x) := by
  obtain ⟨z, hz, rfl⟩ := mem_map.1 hy
  by_cases h : key z = key x
  · exact .inl (if_pos h)
  · refine .inr ⟨?_, ?_⟩ <;> simp only [if_neg h]
    exacts [hz, h]

lemma mem_put_self (hy : y ∈ l) (h : key y = key x) : x ∈ put key x l :=
  mem_map.2 ⟨y, hy, if_pos h⟩

lemma mem_put_of_ne (hy : y ∈ l) (h : key y ≠ key x) : y ∈ put key x l :=
  mem_map.2 ⟨y, hy, if_neg h⟩

lemma others_put : others key (key x) (put key x l) = others key (key x) l := by
  induction l with
  | nil => rfl
  | cons y l ih =>
    simp only [others, put, map_cons, filter_cons] at ih ⊢
    by_cases h : key y = key x
    · rw [ih, h]
      simp
    · rw [if_neg h, ih]

/-- Replacing the row of another key: it is among the others. -/
lemma get?_put_of_ne (h : k ≠ key x) : get? key k (put key x l) = get? key k l := by
  induction l with
  | nil => rfl
  | cons y l ih =>
    simp only [get?, put, map_cons, find?_cons] at ih ⊢
    by_cases hy : key y = key x
    · simp [hy, h.symm, ih]
    · simp [hy, ih]

lemma get?_put_self (h : get? key (key x) l = some y) :
    get? key (key x) (put key x l) = some x := by
  induction l with
  | nil => simp [get?] at h
  | cons z l ih =>
    simp only [get?, put, map_cons, find?_cons] at ih h ⊢
    by_cases hz : key z = key x
    · simp [hz]
    · simp only [hz, if_false] at h ⊢
      exact ih h

/-- Saving a row of a keyed table back changes nothing. -/
lemma put_of_mem (hl : Keyed key l) (hx : x ∈ l) : put key x l = l := by
  refine (map_congr_left fun y hy => ?_).trans l.map_id
  split_ifs with h
  · exact (hl.eq_of_mem hy hx h).symm
  · rfl

lemma put_put (h : key x = key y) : put key y (put key x l) = put key y l := by
  simp only [put, map_map]
  refine map_congr_left fun z _ => ?_
  by_cases hz : key z = key y <;> simp [h, hz]

/-- A row that is replaced by one that is found under the same value of `f`: the row that is found
    has the same key. -/
lemma map_get?_put {ι : Type*} [DecidableEq ι] {f : α → ι} (i : ι) (hl : Keyed key l) (hy : y ∈ l)
    (h : key y = key x) (hf : f x = f y) :
      (get? f i (put key x l)).map key = (get? f i l).map key := by
  have hsame : ∀ z ∈ l, key z = key x → f z = f x := fun z hz hz' => by
    rw [hf, hl.eq_of_mem hz hy (hz'.trans h.symm)]
  clear hl hy
  induction l with
  | nil => rfl
  | cons z l ih =>
    rw [forall_mem_cons] at hsame
    simp only [get?, put, map_cons, find?_cons] at ih ⊢
    by_cases hz : key z = key x
    · rw [if_pos hz, hsame.1 hz]
      by_cases hi : f x = i
      · simp [hi, hz]
      · simpa only [hi, decide_false] using ih hsame.2
    · rw [if_neg hz]
      by_cases hi : f z = i
      · simp [hi]
      · simpa only [hi, decide_false] using ih hsame.2

/-- A row that is replaced by one that looks the same. -/
lemma map_filter_put {p : α → Bool} {f : α → β} (hl : Keyed key l) (hy : y ∈ l) (h : key y = key x)
    (hp : p x = p y) (hf : f x = f y) : ((put key x l).filter p).map f = (l.filter p).map f := by
  rw [← filterMap_eq_map, filterMap_filter, filterMap_filter, put, filterMap_map]
  refine filterMap_congr fun z hz => ?_
  by_cases hz' : key z = key x
  · obtain rfl := hl.eq_of_mem hy hz (h.trans hz'.symm)
    simp [if_pos h, hp, hf]
  · simp [if_neg hz']

/-- In a keyed table, changing the row of a key is replacing it. -/
lemma modify_eq_put (hl : Keyed key l) (hx : x ∈ l) {f : α → α} (hf : key (f x) = key x) :
    modify key (key x) f l = put key (f x) l := by
  refine map_congr_left fun y hy => ?_
  rw [hf]
  split_ifs with h
  · rw [hl.eq_of_mem hy hx h]
  · rfl

lemma sum_eq_others_add {M : Type*} [AddCommMonoid M] (f : α → M) (hl : Keyed key l) (hx : x ∈ l) :
    (l.map f).sum = ((others key (key x) l).map f).sum + f x := by
  induction l with
  | nil => cases hx
  | cons y l ih =>
    rw [Keyed, map_cons, nodup_cons] at hl
    rcases mem_cons.1 hx with rfl | hx'
    · have : others key (key x) (x :: l) = l := by
        simp only [others, filter_cons, ne_eq]
        refine filter_eq_self.2 fun z hz => ?_
        have : key z ≠ key x := fun h => hl.1 (h ▸ mem_map_of_mem hz)
        simpa using this
      rw [this, map_cons, sum_cons, add_comm]
    · have : key y ≠ key x := fun h => hl.1 (h ▸ mem_map_of_mem hx')
      have hc : others key (key x) (y :: l) = y :: others key (key x) l := by
        simp [others, this]
      rw [hc, map_cons, map_cons, sum_cons, sum_cons, ih hl.2 hx', add_assoc]

lemma sum_put {M : Type*} [AddCommMonoid M] (f : α → M) (hl : Keyed key l) (hy : y ∈ l)
    (h : key y = key x) :
    ((put key x l).map f).sum = ((others key (key x) l).map f).sum + f x := by
  rw [sum_eq_others_add f (hl.put x) (mem_put_self hy h), others_put]

omit [DecidableEq κ] in
lemma countP_eq_sum (p : α → Bool) (l : List α) :
    l.countP p = (l.map fun x => if p x then 1 else 0).sum := by
  induction l with
  | nil => rfl
  | cons x l ih => rw [countP_cons, map_cons, sum_cons, ih, add_comm]

lemma countP_put (p : α → Bool) (hl : Keyed key l) (hy : y ∈ l) (h : key y = key x) :
    (put key x l).countP p + (if p y then 1 else 0) = l.countP p + if p x then 1 else 0 := by
  rw [countP_eq_sum, countP_eq_sum, sum_put _ hl hy h, sum_eq_others_add _ hl hy, h]
  omega

/-- The rows of another table that refer to a row of this one, counted for each of its rows. -/
lemma sum_countP_le (hl : Keyed key l) (ref : β → κ) (m : List β) :
    (l.map fun x => m.countP fun y => ref y = key x).sum ≤ m.length := by
  induction m with
  | nil => simp
  | cons y m ih =>
    simp only [countP_cons]
    rw [sum_map_add, ← countP_eq_sum]
    refine Nat.add_le_add ih ?_
    calc l.countP (fun x => decide (ref y = key x))
        = (l.map key).count (ref y) := by
          rw [count, countP_map]
          exact countP_congr fun x _ => by simpa using eq_comm
      _ ≤ 1 := nodup_iff_count_le_one.1 hl _

/-- Rows that each count for no more than those that refer to them. -/
lemma sum_le_length (hl : Keyed key l) (ref : β → κ) (m : List β) {f : α → ℤ}
    (hf : ∀ x ∈ l, f x ≤ (m.countP fun y => ref y = key x : ℕ)) : (l.map f).sum ≤ m.length :=
  calc (l.map f).sum
      ≤ (l.map fun x => ((m.countP fun y => ref y = key x : ℕ) : ℤ)).sum := sum_le_sum hf
    _ = ((l.map fun x => m.countP fun y => ref y = key x).sum : ℕ) := by
        rw [Nat.cast_list_sum, map_map]
        rfl
    _ ≤ m.length := Int.ofNat_le.2 (sum_countP_le hl ref m)

end Table
