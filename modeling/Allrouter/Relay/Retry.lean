import Mathlib.Tactic

/-!
# Retries

`Relay` tries the channel of the context, and selects others while the errors are worth a retry. To
go on to another group, the selection sets the counter of the loop back, and may keep it there for a
turn. Still the loop stops (`relay_retries`): with `g` groups and `r` retries it tries at most `(g +
1) * (r + 1)` channels, group by group, and in a group with one `priorityRetry` after the other.
-/

namespace Allrouter

open List

/-- `RetryParam`, with the index that the context has. -/
structure RetryParam where
  (autoGroupIndex retry : ℕ)
  resetNextTry : Bool

def RetryParam.increaseRetry (p : RetryParam) : RetryParam :=
  if p.resetNextTry then { p with resetNextTry := false } else { p with retry := p.retry + 1 }

/-- What a turn meets: which groups have a channel, and for which `priorityRetry`, and
    whether there is an error with which `shouldRetry`, given the retries that are left. -/
structure Turn where
  satisfied : String → ℕ → Bool
  shouldRetry : ℤ → Bool

/-- The first of the groups, from `i` on, that has a channel. -/
def selectGroup (turn : Turn) : ℕ → ℕ → List String → Option (ℕ × ℕ)
  | _, _, [] => none
  | i, priorityRetry, group :: groups =>
    if turn.satisfied group priorityRetry then some (i, priorityRetry)
      else selectGroup turn (i + 1) 0 groups

/-- The settings that decide on retries. -/
structure Retries where
  tokenGroup : String
  autoGroups : List String
  crossGroupRetry : Bool
  retryTimes : ℕ

namespace Retries

variable (s : Retries)

/-- A channel is selected by the index of its group and the `priorityRetry`. -/
def cacheGetRandomSatisfiedChannel (turn : Turn) (p : RetryParam) : Option (RetryParam × ℕ × ℕ) :=
  if s.tokenGroup = "auto" then
    (selectGroup turn p.autoGroupIndex p.retry (s.autoGroups.drop p.autoGroupIndex)).map
      fun (i, priorityRetry) =>
      (if s.crossGroupRetry && priorityRetry ≥ s.retryTimes then ⟨i + 1, 0, true⟩
        else ⟨i, priorityRetry, p.resetNextTry⟩, i, priorityRetry)
  else if turn.satisfied s.tokenGroup p.retry then some (p, p.autoGroupIndex, p.retry) else none

/-- The channels that the loop selects in these turns, unless it goes on after them. -/
def relayFrom : List Turn → RetryParam → Option (List (ℕ × ℕ))
  | [], p => if p.retry ≤ s.retryTimes then none else some []
  | turn :: turns, p =>
    if p.retry ≤ s.retryTimes then
      match s.cacheGetRandomSatisfiedChannel turn p with
      | none => some []
      | some (p, channel) =>
        if turn.shouldRetry (s.retryTimes - p.retry) then (relayFrom turns p.increaseRetry).map
          (channel :: ·)
        else some [channel]
    else some []

/-- There is no `ChannelMeta` in the first turn, and so no channel is selected in it. -/
def relay (index : ℕ) (turn : Turn) (turns : List Turn) : Option (List (ℕ × ℕ)) :=
  if turn.shouldRetry s.retryTimes then s.relayFrom turns ⟨index, 1, false⟩ else some []

/-- The number of groups to go on to. -/
def groups : ℕ := if s.tokenGroup = "auto" then s.autoGroups.length else 0

/-- The channels that can still be tried, from a group and a `priorityRetry` on. -/
def left (i k : ℕ) : ℕ := (s.groups - i) * (s.retryTimes + 1) + (s.retryTimes + 1 - k)

/-- A channel of the group `i` for `k`, or of a later group for zero. -/
def Starts (i k : ℕ) : ℕ × ℕ → Prop := fun (j, l) => j = i ∧ l = k ∨ i < j ∧ l = 0

def Follows (last next : ℕ × ℕ) : Prop := Starts last.1 (last.2 + 1) next

variable {s} {turn : Turn} {turns : List Turn} {i j k l : ℕ} {channel a : ℕ × ℕ} {p : RetryParam}

lemma selectGroup_eq_some {groups : List String} (h : selectGroup turn i k groups = some (j, l)) :
    (j = i ∧ l = k ∨ i < j ∧ l = 0) ∧ j < i + groups.length := by
  induction groups generalizing i k with
  | nil => cases h
  | cons group groups ih =>
    rw [selectGroup] at h
    rw [length_cons]
    split_ifs at h
    · cases h
      omega
    · have := ih h
      omega

lemma left_succ_lt (hk : k ≤ s.retryTimes) : s.left i (k + 1) < s.left i k := by
  rw [left, left]
  omega

lemma left_lt (hk : k ≤ s.retryTimes) (hij : i < j) (hj : j ≤ s.groups) :
    s.left j 0 < s.left i k := by
  have := Nat.mul_le_mul_right (s.retryTimes + 1) (show s.groups - j + 1 ≤ s.groups - i by omega)
  rw [add_mul] at this
  rw [left, left]
  omega

/-- After a turn there is one channel less to be tried. -/
lemma starts_of_selected (hk : k ≤ s.retryTimes)
    (h : s.cacheGetRandomSatisfiedChannel turn ⟨i, k, false⟩ = some (p, channel)) :
    Starts i k channel ∧ ∃ j l, p.increaseRetry = ⟨j, l, false⟩ ∧ s.left j l < s.left i k ∧
      ∀ next, Starts j l next → Follows channel next := by
  rw [cacheGetRandomSatisfiedChannel] at h
  split_ifs at h with hauto
  · obtain ⟨⟨j, l⟩, hselect, ⟨⟩⟩ := Option.map_eq_some_iff.1 h
    obtain ⟨hstarts, hj⟩ : _ ∧ j < i + (s.autoGroups.drop i).length := selectGroup_eq_some hselect
    have hgroups : j < s.groups := by
      rw [groups, if_pos hauto]
      rw [length_drop] at hj
      omega
    refine ⟨hstarts, ?_⟩
    split_ifs
    · refine ⟨j + 1, 0, rfl, left_lt hk (by omega) hgroups, ?_⟩
      rintro ⟨_, _⟩ h
      simp only [Follows, Starts] at *
      omega
    · refine ⟨j, l + 1, rfl, ?_, fun _ h => h⟩
      obtain ⟨rfl, rfl⟩ | ⟨hij, rfl⟩ := hstarts
      · exact left_succ_lt hk
      · exact (left_succ_lt (Nat.zero_le _)).trans (left_lt hk hij hgroups.le)
  · cases h
    exact ⟨.inl ⟨rfl, rfl⟩, i, k + 1, rfl, left_succ_lt hk, fun _ h => h⟩

lemma relayFrom_eq_some (ha : ∀ next, Starts i k next → Follows a next)
    (hturns : s.left i k ≤ turns.length) : ∃ tried, s.relayFrom turns ⟨i, k, false⟩ = some tried ∧
      tried.length ≤ s.left i k ∧ (a :: tried).IsChain Follows := by
  induction turns generalizing i k a with
  | nil =>
    refine ⟨[], if_neg fun hk => ?_, Nat.zero_le _, .singleton _⟩
    exact (left_succ_lt hk).not_ge (hturns.trans (Nat.zero_le _))
  | cons turn turns ih =>
    rw [relayFrom]
    split
    · rename_i hk
      split
      · exact ⟨[], rfl, Nat.zero_le _, .singleton _⟩
      · rename_i p channel h
        obtain ⟨hstarts, j, l, hp, hleft, hnext⟩ := starts_of_selected hk h
        split_ifs
        · obtain ⟨tried, hrelay, hlength, hchain⟩ :=
            ih hnext (Nat.le_of_lt_succ (hleft.trans_le hturns))
          rw [hp, hrelay]
          exact ⟨channel :: tried, rfl, hlength.trans_lt hleft,
            .cons_cons (ha channel hstarts) hchain⟩
        · exact ⟨[channel], rfl, (Nat.zero_le _).trans_lt hleft,
            .cons_cons (ha channel hstarts) (.singleton _)⟩
    · exact ⟨[], rfl, Nat.zero_le _, .singleton _⟩

/-- A request is tried a bounded number of times, each time at the next priority of a group or at
    the first one of a later group. -/
theorem relay_retries (s : Retries) (index : ℕ) (turn : Turn) (turns : List Turn)
    (hturns : (s.groups + 1) * (s.retryTimes + 1) ≤ turns.length) :
    ∃ tried, s.relay index turn turns = some tried ∧
      tried.length < (s.groups + 1) * (s.retryTimes + 1) ∧
        ((index, 0) :: tried).IsChain Follows := by
  have hleft : s.left index 1 < (s.groups + 1) * (s.retryTimes + 1) := by
    rw [add_mul, one_mul]
    exact Nat.add_lt_add_of_le_of_lt (Nat.mul_le_mul_right _ (Nat.sub_le _ _))
      s.retryTimes.lt_succ_self
  rw [relay]
  split_ifs
  · obtain ⟨tried, hrelay, hlength, hchain⟩ :=
      relayFrom_eq_some (a := (index, 0)) (fun _ h => h) (hleft.le.trans hturns)
    exact ⟨tried, hrelay, hlength.trans_lt hleft, hchain⟩
  · exact ⟨[], rfl, (Nat.zero_le _).trans_lt hleft, .singleton _⟩

namespace TwoGroups

/-- Two groups, of which the first has two priorities. -/
def retries : Retries := ⟨"auto", ["a", "b"], true, 1⟩

/-- Every channel fails with an error that is worth a retry. -/
def failing : Turn := ⟨fun _ _ => true, fun _ => true⟩

end TwoGroups

/-- The loop tries the second priority of the first group, and then both of the second one. -/
theorem relay_retries_two_groups : ∃ tried,
    TwoGroups.retries.relay 0 TwoGroups.failing (replicate 6 TwoGroups.failing) = some tried ∧
      tried = [(0, 1), (1, 0), (1, 1)] ∧ tried.length < 6 ∧ ((0, 0) :: tried).IsChain Follows := by
  obtain ⟨tried, hrelay, hlength, hchain⟩ :=
    relay_retries TwoGroups.retries 0 TwoGroups.failing (replicate 6 TwoGroups.failing) (by decide)
  have hrun : TwoGroups.retries.relay 0 TwoGroups.failing (replicate 6 TwoGroups.failing) =
      some [(0, 1), (1, 0), (1, 1)] := by decide
  obtain rfl : tried = [(0, 1), (1, 0), (1, 1)] := Option.some.inj (hrelay.symm.trans hrun)
  exact ⟨_, hrun, rfl, hlength, hchain⟩

end Retries

end Allrouter
