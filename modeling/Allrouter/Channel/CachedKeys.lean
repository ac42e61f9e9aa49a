import Allrouter.Channel.MultiKey
import Mathlib.Data.List.Rotate

/-!
# Cached channels with several keys

With the memory cache a selection polls the cached channel, whose position it moves, and a change
of status is made twice: in the cached channel, and in the row.

* `Channel.polls_each_enabled_key_once`: the enabled keys stand in a queue, of which a selection
  moves the first to the end;
* `ChannelCopies.agree_of_status_changes`: the two copies stay in agreement, if each change is for a
  status other than that of the row; `ChannelCopies.enabled_in_cache_only`: otherwise the row is
  left.
-/

namespace Allrouter

open List ChannelInfo Channel

/-! ## Polling -/

namespace Channel

variable (decode : String → Option (List String)) (c : Channel)

/-- A selection on the cached channel, which keeps the position. -/
def getNextEnabledKey (pick : ℕ) : Except KeyError (String × ℕ) × Channel :=
  match c.answer decode pick with
  | some result => (result, c)
  | none =>
    let polled := c.poll decode c.channelInfo.multiKeyPollingIndex
    (.ok polled.1, polled.2)

/-- The enabled keys in the order in which they are polled. -/
def queue : List ℕ :=
  (c.pollingOrder decode c.channelInfo.multiKeyPollingIndex).filter fun idx =>
    c.channelInfo.getStatus idx = .enabled

def moveTo (index : ℤ) : Channel :=
  { c with channelInfo := { c.channelInfo with multiKeyPollingIndex := index } }

/-- A channel that polls, with a key that is enabled. -/
structure Polls : Prop where
  multiKey : c.channelInfo.isMultiKey = true
  mode : c.channelInfo.multiKeyMode = .polling
  enabled : c.enabledIdx decode ≠ []

variable {decode c}

lemma pollingOrder_eq_rotate (start : ℤ) :
    c.pollingOrder decode start = (range (c.getKeys decode).length).rotate
      (if start < 0 ∨ ((c.getKeys decode).length : ℤ) ≤ start then 0 else start.toNat) := by
  refine ext_getElem (by simp [pollingOrder]) fun i _ _ => ?_
  simp [pollingOrder, add_comm]

lemma pollingOrder_next {start : ℤ} {idx : ℕ} {before after : List ℕ}
    (h : c.pollingOrder decode start = before ++ idx :: after) :
    c.pollingOrder decode ((idx + 1) % (c.getKeys decode).length : ℕ) =
      after ++ (before ++ [idx]) := by
  rw [pollingOrder_eq_rotate] at h ⊢
  generalize (c.getKeys decode).length = n at h ⊢
  generalize (if start < 0 ∨ (n : ℤ) ≤ start then 0 else start.toNat) = first at h
  have hlen : before.length < n := by
    have := congrArg length h
    simp at this
    omega
  have hidx : idx = (before.length + first) % n := by
    have := congrArg (·[before.length]?) h
    simpa [hlen] using this.symm
  have hlt := Nat.mod_lt (idx + 1) (Nat.zero_lt_of_lt hlen)
  rw [if_neg (by omega)]
  calc (range n).rotate ((idx + 1) % n)
      = (range n).rotate ((first + (before.length + 1)) % n) := by
        rw [hidx, Nat.mod_add_mod]
        congr 2
        omega
    _ = (before ++ [idx] ++ after).rotate (before ++ [idx]).length := by
        have := rotate_mod (range n) (first + (before.length + 1))
        rw [length_range] at this
        rw [this, ← rotate_rotate, h]
        simp
    _ = after ++ (before ++ [idx]) := rotate_append_length_eq _ _

lemma queue_perm : (c.queue decode).Perm (c.enabledIdx decode) := by
  rw [queue, pollingOrder_eq_rotate]
  exact (rotate_perm _ _).filter _

/-- A selection returns the first key of the queue and moves it to the end. -/
lemma Polls.next (h : c.Polls decode) (pick : ℕ) : ∃ idx rest index, c.queue decode = idx :: rest ∧
      c.getNextEnabledKey decode pick = (.ok (c.keyAt decode idx), c.moveTo index) ∧
      (c.moveTo index).queue decode = rest ++ [idx] := by
  have hkeys : c.getKeys decode ≠ [] := fun hnil => h.enabled (by simp [enabledIdx, hnil])
  have hanswer : c.answer decode pick = none := by simp [answer, h.multiKey, hkeys,
    h.enabled, h.mode]
  obtain ⟨idx, hfind⟩ : ∃ idx, (c.pollingOrder decode c.channelInfo.multiKeyPollingIndex).find?
      (fun idx => c.channelInfo.getStatus idx = .enabled) = some idx := by
    obtain ⟨i, hi⟩ := exists_mem_of_ne_nil _ h.enabled
    obtain ⟨hmem, henabled⟩ := mem_filter.1 (queue_perm.symm.subset hi)
    exact Option.isSome_iff_exists.1 (find?_isSome.2 ⟨i, hmem, henabled⟩)
  obtain ⟨hidx, before, after, horder, hbefore⟩ := find?_eq_some_iff_append.1 hfind
  have hnone : before.filter (fun idx => c.channelInfo.getStatus idx = .enabled) = [] :=
    filter_eq_nil_iff.2 fun a ha => by simpa using hbefore a ha
  refine ⟨idx, after.filter fun idx => c.channelInfo.getStatus idx = .enabled,
    ((idx + 1) % (c.getKeys decode).length : ℕ), ?_, ?_, ?_⟩
  · simp [queue, horder, hnone, hidx]
  · rw [getNextEnabledKey, hanswer]
    simp only [poll, hfind]
    rfl
  · change (c.pollingOrder decode _).filter (fun idx => c.channelInfo.getStatus idx = .enabled) = _
    rw [moveTo, pollingOrder_next horder]
    simp [hnone, hidx]

end Channel

/-! ## Changes of a status -/

/-- A change of status, with the times at which it writes the cached channel and the row. -/
structure StatusCall where
  usingKey : String
  status : ChannelStatus
  reason : String
  (cachedAt savedAt : ℤ)

/-- A channel in the cache, and its row. -/
structure ChannelCopies where
  (cached row : Channel)

namespace ChannelCopies

variable (decode : String → Option (List String))

def updateChannelStatus (s : ChannelCopies) (call : StatusCall) : ChannelCopies :=
  let multiKey := s.cached.channelInfo.isMultiKey
  if !multiKey ∧ s.cached.status = call.status then s
  else
    let cached := if multiKey then
        s.cached.handlerMultiKeyUpdate decode call.usingKey call.status call.reason call.cachedAt
      else { s.cached with status := call.status }
    match s.row.updateStatus decode call.usingKey call.status call.reason call.savedAt with
    | none => { s with cached }
    | some updated => { cached, row := updated.saveWithoutKey s.row }

/-- The copies are of one channel with several keys, and agree on the statuses. -/
structure Agree (s : ChannelCopies) : Prop where
  cachedMultiKey : s.cached.channelInfo.isMultiKey = true
  rowMultiKey : s.row.channelInfo.isMultiKey = true
  key : s.cached.key = s.row.key
  keyStatus : ∀ i, s.cached.channelInfo.getStatus i = s.row.channelInfo.getStatus i
  status : s.cached.status = s.row.status

/-- Each of the calls is for a status other than the one that the row then has. -/
def OtherStatus : ChannelCopies → List StatusCall → Prop
  | _, [] => True
  | s, call :: calls =>
    s.row.status ≠ call.status ∧ (s.updateChannelStatus decode call).OtherStatus calls

variable {decode} {s : ChannelCopies}

lemma Agree.handlerMultiKeyUpdate (h : s.Agree) (usingKey : String) (status : ChannelStatus)
    (reason : String) (now now' : ℤ) :
      Agree ⟨s.cached.handlerMultiKeyUpdate decode usingKey status reason now,
      (s.row.handlerMultiKeyUpdate decode usingKey status reason now').saveWithoutKey s.row⟩ := by
  have hkeys : s.cached.getKeys decode = s.row.getKeys decode := by
    simp only [getKeys, h.key]
  simp only [Channel.handlerMultiKeyUpdate, Channel.keyIndex, hkeys]
  split
  · exact { h with status := rfl }
  split
  · split
    · exact h
    · exact { h with status := rfl }
  next idx _ =>
    have hset : ∀ i, (s.cached.channelInfo.setKeyStatus idx status reason now).getStatus i =
        (s.row.channelInfo.setKeyStatus idx status reason now').getStatus i := fun i => by
      by_cases hi : i = idx
      · rw [hi, getStatus_setKeyStatus, getStatus_setKeyStatus]
      · rw [getStatus_setKeyStatus_of_ne hi, getStatus_setKeyStatus_of_ne hi, h.keyStatus]
    have hcached := (isMultiKey_setKeyStatus _ idx status reason now).1.trans h.cachedMultiKey
    have hrow := (isMultiKey_setKeyStatus _ idx status reason now').1.trans h.rowMultiKey
    have hany : hasEnabledMultiKey (s.row.getKeys decode)
        (s.cached.channelInfo.setKeyStatus idx status reason now) = hasEnabledMultiKey
          (s.row.getKeys decode) (s.row.channelInfo.setKeyStatus idx status reason now') := by
      simp only [hasEnabledMultiKey, hset]
    rw [hany]
    split_ifs
    · exact ⟨hcached, hrow, h.key, hset, rfl⟩
    · exact ⟨hcached, hrow, h.key, hset, rfl⟩
    · exact ⟨hcached, hrow, h.key, hset, h.status⟩

lemma Agree.updateChannelStatus (h : s.Agree) {call : StatusCall}
    (hne : s.row.status ≠ call.status) :
    (s.updateChannelStatus decode call).Agree := by
  simp only [ChannelCopies.updateChannelStatus, updateStatus, h.cachedMultiKey,
    h.rowMultiKey, if_neg hne]
  exact h.handlerMultiKeyUpdate call.usingKey call.status call.reason call.cachedAt call.savedAt

/-- **Agreement.** Changes of a status other than the stored one keep the cached channel and the
    row in agreement, after each of them. -/
theorem agree_of_status_changes (decode : String → Option (List String)) (calls : List StatusCall)
    (s : ChannelCopies) (h : s.Agree) (hother : s.OtherStatus decode calls) :
    (calls.foldl (updateChannelStatus decode) s).Agree := by
  induction calls generalizing s with
  | nil => exact h
  | cons call calls ih => exact ih _ (h.updateChannelStatus hother.1) hother.2

/-- Both keys are disabled one after the other, and with the second one the channel; then the first
    one is enabled. -/
theorem agree_of_status_changes_twoKeys : ∃ s : ChannelCopies, s.cached.status = .enabled ∧
    [0, 1].map s.cached.channelInfo.getStatus = [.enabled, .autoDisabled] ∧ s.Agree :=
  have h := agree_of_status_changes TwoKeys.noArray
    [⟨"sk-0", .autoDisabled, "quota", 100, 101⟩, ⟨"sk-1", .autoDisabled, "quota", 102, 103⟩,
      ⟨"sk-0", .enabled, "", 104, 105⟩]
    ⟨TwoKeys.row, TwoKeys.row⟩ ⟨rfl, rfl, rfl, fun _ => rfl, rfl⟩
    ⟨by decide +kernel, by decide +kernel, by decide +kernel, trivial⟩
  ⟨_, by decide +kernel, by decide +kernel, h⟩

/-- The first key is disabled in the row of a channel with two, which is cached so, and a call
    enables the key: the channel is enabled already, and the row keeps the status of the key. -/
theorem enabled_in_cache_only : ∃ s : ChannelCopies, ∃ call, s.Agree ∧
    (s.updateChannelStatus TwoKeys.noArray call).cached.channelInfo.getStatus 0 = .enabled ∧
    (s.updateChannelStatus TwoKeys.noArray call).row.channelInfo.getStatus 0 = .autoDisabled :=
  ⟨⟨TwoKeys.disabled, TwoKeys.disabled⟩, ⟨"sk-0", .enabled, "", 101, 101⟩,
    ⟨by decide +kernel, by decide +kernel, rfl, fun _ => rfl, rfl⟩, by decide +kernel,
    by decide +kernel⟩

end ChannelCopies

end Allrouter
