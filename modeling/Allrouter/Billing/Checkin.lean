import Mathlib.Tactic

/-!
# Check-ins

A user checks in once a day for a reward. With SQLite there is no transaction: the row of the day is
written, the reward added, and for users of a provider a record of it is written. When a write
fails, the row is deleted.

* `rewarded_once`: users without provider, or whose records do not fail, get one reward a day;
* `rewarded_twice`: when the record fails, the row is deleted but the reward is not taken back.
-/

namespace Allrouter

/-- The row of a user and a day. -/
structure Checkin where
  (providerId userId : ℤ)
  checkinDate : String
  quotaAwarded : ℤ
  deriving DecidableEq

/-- The rows, and the rewards and records of one user on one day. -/
structure CheckinStore where
  checkins : List Checkin := []
  (rewards records : List ℤ := [])
  deriving DecidableEq

/-- The writes of a check-in, each of which may fail. -/
inductive CheckinWrite
  | checkin
  | quota
  | record
  | delete
  deriving DecidableEq

/-- A call with the settings it reads, the number it draws, and the writes that fail. -/
structure CheckinCall where
  checkinEnabled : Bool := true
  (checkinMinQuota checkinMaxQuota drawn : ℤ := 1)
  fails : CheckinWrite → Bool := fun _ => false

namespace CheckinStore

variable (s : CheckinStore) (fails : CheckinWrite → Bool) (checkin : Checkin)

def hasCheckedInTodayInProvider (providerId userId : ℤ) (today : String) : Bool :=
  s.checkins.any fun c => c.providerId = providerId ∧ c.userId = userId ∧ c.checkinDate = today

def delete : CheckinStore :=
  if fails .delete then s else { s with checkins := s.checkins.erase checkin }

/-- The unique index refuses a second row. -/
def userCheckinWithoutTransaction : CheckinStore :=
  if fails .checkin ||
    s.hasCheckedInTodayInProvider checkin.providerId checkin.userId checkin.checkinDate then s
  else
    let s := { s with checkins := checkin :: s.checkins }
    if checkin.quotaAwarded < 0 || fails .quota then s.delete fails checkin
    else
      let s := { s with rewards := checkin.quotaAwarded :: s.rewards }
      if checkin.providerId > 0 then
        if fails .record then s.delete fails checkin
        else { s with records := checkin.quotaAwarded :: s.records }
      else s

/-- A row for today, with a reward, if there is none. -/
def userCheckin (providerId userId : ℤ) (today : String) (call : CheckinCall) : CheckinStore :=
  if !call.checkinEnabled || s.hasCheckedInTodayInProvider providerId userId today then s
  else
    let more := if call.checkinMaxQuota > call.checkinMinQuota then call.drawn else 0
    s.userCheckinWithoutTransaction call.fails ⟨providerId, userId, today,
      call.checkinMinQuota + more⟩

def userCheckins (providerId userId : ℤ) (today : String) (calls : List CheckinCall) :
    CheckinStore :=
  calls.foldl (fun s call => s.userCheckin providerId userId today call) s

variable {s} {providerId userId : ℤ} {today : String}

/-- A reward has its row. -/
def Rewarded (providerId userId : ℤ) (today : String) (s : CheckinStore) : Prop :=
  s.rewards = [] ∨ s.rewards.length = 1 ∧ s.hasCheckedInTodayInProvider providerId userId today

lemma Rewarded.userCheckin {call : CheckinCall} (h : Rewarded providerId userId today s)
    (hfails : providerId ≤ 0 ∨ (call.fails .record → call.fails .delete)) :
    Rewarded providerId userId today (s.userCheckin providerId userId today call) := by
  rcases h with h | ⟨hlength, hrow⟩
  · simp only [CheckinStore.userCheckin, userCheckinWithoutTransaction, delete]
    -- a row is deleted only if there is no reward
    split_ifs <;> simp_all [Rewarded, hasCheckedInTodayInProvider]
    all_goals omega
  · rw [CheckinStore.userCheckin, if_pos ((Bool.or_eq_true _ _).mpr (.inr hrow))]
    exact .inr ⟨hlength, hrow⟩

/-- **One reward a day**, whichever writes fail: for users without provider, and for those whose
    records do not fail, unless the deletion of the row fails with them. -/
theorem rewarded_once (calls : List CheckinCall) (hstart : s.rewards = [])
    (hfails : ∀ call ∈ calls, providerId ≤ 0 ∨ (call.fails .record → call.fails .delete)) :
    (s.userCheckins providerId userId today calls).rewards.length ≤ 1 := by
  have h : Rewarded providerId userId today (s.userCheckins providerId userId today calls) :=
    List.foldlRecOn _ _ (.inl hstart) fun s hs call hcall => hs.userCheckin (hfails call hcall)
  rcases h with h | h
  · simp [h]
  · exact h.1.le

/-- The reward is not written, and the row is deleted; then only the record is not written, nor is
    the row deleted. -/
def failing : List CheckinCall :=
  [{ fails := (· = .quota) }, { fails := fun write => write = .record || write = .delete }, {}]

/-- A call that fails before its reward, one that fails after it, and a third one. -/
theorem rewarded_once_failing : (userCheckins {} 7 1 "2026-01-01" failing).rewards.length = 1 := by
  have hfails : ∀ call ∈ failing, (7 : ℤ) ≤ 0 ∨ (call.fails .record → call.fails .delete) := by
    simp [failing]
  exact (rewarded_once failing rfl hfails).antisymm (by decide)

/-- The record of the first call fails after its reward, and the second call is rewarded again. -/
theorem rewarded_twice :
    (userCheckins {} 7 1 "2026-01-01" [{ fails := (· = .record) }, {}]).rewards.length = 2 := by
  decide

end CheckinStore

end Allrouter
