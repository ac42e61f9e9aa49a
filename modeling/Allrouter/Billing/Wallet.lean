import Mathlib.Tactic.Linarith
import Allrouter.Library.Interleaving

/-!
# The wallet of a user

The balance of a user is `quota`, of which `rewardQuota` was given as a reward; a
charge takes the reward first (`decreaseUserQuotaPreferReward`), and a refund gives
back to where the charge was taken from (`increaseUserQuotaByBreakdown`).

A charge selects the row, checks it, and then updates it relative to what is
stored. The option that should lock the row is one the library ignores, so other
charges of the same user run between the two statements (`DecreaseCall`).

* `overdrawn_of_two_decreases`: two charges that select the row before either of
  them updates it are both accepted, and leave a negative balance;
* `withinBalance_of_current`: the balance is never overdrawn as long as every
  update finds the row its charge has selected.
-/

namespace Allrouter

open Interleaving List

/-- The two columns of a user that make up the wallet. -/
structure UserWallet where
  (quota rewardQuota : ℤ)
  deriving DecidableEq

/-- What a debit took, by its parts. -/
structure UserQuotaBreakdown where
  (total rewardUsed paidUsed : ℤ)
  deriving DecidableEq

/-- Why a wallet refuses a change. -/
inductive QuotaError
  /-- "quota 不能为负数！" -/
  | negative
  /-- "user quota is not enough, user quota: …, need quota: …" -/
  | notEnough (quota need : ℤ)
  /-- "reward quota cannot exceed total quota" -/
  | rewardExceedsTotal
  deriving DecidableEq

/-! ## The operations -/

namespace UserWallet

variable (wallet : UserWallet)

/-- The parts of a charge, by the row that was selected: the reward first, of
    which no more counts than the whole balance. -/
def breakdown (quota : ℤ) : UserQuotaBreakdown :=
  let rewardAvailable := max (min wallet.rewardQuota wallet.quota) 0
  let rewardUsed := min rewardAvailable quota
  { total := quota, rewardUsed := rewardUsed, paidUsed := quota - rewardUsed }

def checkDecrease (quota : ℤ) : Except QuotaError UserQuotaBreakdown :=
  if wallet.quota < quota then .error (.notEnough wallet.quota quota)
    else .ok (wallet.breakdown quota)

/-- The update of a charge, relative to the row as it is stored. -/
def decrease (b : UserQuotaBreakdown) : UserWallet :=
  { quota := wallet.quota - b.total, rewardQuota := wallet.rewardQuota - b.rewardUsed }

/-- The update of a refund, relative to the row as it is stored. -/
def increase (total reward : ℤ) : UserWallet :=
  { quota := wallet.quota + total, rewardQuota := wallet.rewardQuota + reward }

end UserWallet

/-- A charge that no other operation interrupts. -/
def decreaseUserQuotaPreferReward (wallet : UserWallet) (quota : ℤ) :
    Except QuotaError (UserQuotaBreakdown × UserWallet) :=
  if quota < 0 then .error .negative
  else if quota = 0 then .ok ({ total := quota, rewardUsed := 0, paidUsed := 0 }, wallet)
  else (wallet.checkDecrease quota).map fun b => (b, wallet.decrease b)

/-- A refund, by the parts the charge was taken from. -/
def increaseUserQuotaByBreakdown (wallet : UserWallet) (total reward : ℤ) :
    Except QuotaError UserWallet :=
  if total < 0 ∨ reward < 0 then .error .negative
  else if total < reward then .error .rewardExceedsTotal
  else if total = 0 then .ok wallet
  else .ok (wallet.increase total reward)

def increaseUserQuota (wallet : UserWallet) (quota : ℤ) : Except QuotaError UserWallet :=
  if quota < 0 then .error .negative else .ok (wallet.increase quota 0)

section

variable {wallet : UserWallet} {quota : ℤ} {b : UserQuotaBreakdown}

lemma UserWallet.checkDecrease_eq_ok :
    wallet.checkDecrease quota = .ok b ↔ quota ≤ wallet.quota ∧ wallet.breakdown quota = b := by
  rw [checkDecrease]
  split_ifs with h
  · exact iff_of_false (fun h => nomatch h) fun h' => absurd h'.1 (not_le.2 h)
  · exact ⟨fun h' => ⟨not_lt.1 h, Except.ok.inj h'⟩, fun h' => congrArg _ h'.2⟩

end

/-! ## Charges side by side -/

/-- The row of a user, and what the charges that succeeded took from it. -/
structure WalletState where
  wallet : UserWallet
  succeeded : List UserQuotaBreakdown
  deriving DecidableEq

/-- A charge under way: it selects the row, or it has selected it and updates it. -/
inductive DecreaseCall
  | select (quota : ℤ)
  | update (selected : UserWallet) (b : UserQuotaBreakdown)
  deriving DecidableEq

namespace DecreaseCall

/-- A call; only a positive amount opens a transaction. -/
def start (quota : ℤ) (s : WalletState) : WalletState × Option DecreaseCall :=
  if quota < 0 then (s, none)
  else if quota = 0 then
    ({ s with succeeded := { total := quota, rewardUsed := 0, paidUsed := 0 } :: s.succeeded },
      none)
  else (s, some (.select quota))

/-- The next statement of the transaction; a failed check ends it. -/
def next (s : WalletState) : DecreaseCall → WalletState × Option DecreaseCall
  | .select quota =>
    match s.wallet.checkDecrease quota with
    | .error _ => (s, none)
    | .ok b => (s, some (.update s.wallet b))
  | .update _ b => ({ wallet := s.wallet.decrease b, succeeded := b :: s.succeeded }, none)

/-- The update finds the row the charge has selected. -/
def Current (s : WalletState) : DecreaseCall → Prop
  | .select _ => True
  | .update selected _ => s.wallet = selected

def Starts (s s' : WalletState) (o : Option DecreaseCall) : Prop :=
  ∃ quota, start quota s = (s', o)

def Moves (s : WalletState) (call : DecreaseCall) (s' : WalletState) (o : Option DecreaseCall) :
    Prop :=
  next s call = (s', o)

/-- The statements of the transactions, where every update finds the row its charge has selected. -/
def MovesCurrent (s : WalletState) (call : DecreaseCall) (s' : WalletState)
    (o : Option DecreaseCall) :
    Prop :=
  call.Current s ∧ call.Moves s s' o

end DecreaseCall

/-- The debits took no more than there was at first. -/
structure WithinBalance (initial : UserWallet) (s : WalletState) : Prop where
  quota : 0 ≤ s.wallet.quota
  rewardQuota : 0 ≤ s.wallet.rewardQuota
  total : (s.succeeded.map (·.total)).sum ≤ initial.quota
  rewardUsed : (s.succeeded.map (·.rewardUsed)).sum ≤ initial.rewardQuota

/-! ### The balance is kept -/

/-- What was taken and what is left is what was there. -/
structure WalletInvariant (initial : UserWallet) (s : WalletState) : Prop where
  rewardQuota : 0 ≤ s.wallet.rewardQuota
  le : s.wallet.rewardQuota ≤ s.wallet.quota
  total : s.wallet.quota + (s.succeeded.map (·.total)).sum = initial.quota
  rewardUsed : s.wallet.rewardQuota + (s.succeeded.map (·.rewardUsed)).sum = initial.rewardQuota

/-- What a charge that is about to update has checked. -/
def DecreaseCall.Checked : DecreaseCall → Prop
  | .select _ => True
  | .update selected b => b.total ≤ selected.quota ∧ b = selected.breakdown b.total

section

variable {initial : UserWallet} {s s' : WalletState} {call : DecreaseCall} {o : Option DecreaseCall}

variable (h : WalletInvariant initial s)
include h

lemma WalletInvariant.starts (hstart : DecreaseCall.Starts s s' o) :
    WalletInvariant initial s' ∧ ∀ c ∈ o, c.Checked := by
  obtain ⟨quota, hq⟩ := hstart
  rw [DecreaseCall.start] at hq
  split_ifs at hq with h₁ h₂ <;> cases hq
  · exact ⟨h, by simp⟩
  · exact ⟨⟨h.rewardQuota, h.le, by simpa [h₂] using h.total, by simpa using h.rewardUsed⟩, by simp⟩
  · refine ⟨h, fun c hc => ?_⟩
    cases hc
    trivial

/-- An update by a breakdown of the row it finds. -/
lemma WalletInvariant.decrease {quota : ℤ} (hle : quota ≤ s.wallet.quota) : WalletInvariant initial
      { wallet := s.wallet.decrease (s.wallet.breakdown quota)
        succeeded := s.wallet.breakdown quota :: s.succeeded } := by
  have hreward : (s.wallet.breakdown quota).rewardUsed = min s.wallet.rewardQuota quota := by
    simp only [UserWallet.breakdown, min_eq_left h.le, max_eq_left h.rewardQuota]
  have htotal : (s.wallet.breakdown quota).total = quota := rfl
  refine ⟨?_, ?_, ?_, ?_⟩
  · simp [UserWallet.decrease, hreward]
  · -- either the reward covers the charge, or none of it is left
    simp only [UserWallet.decrease, hreward]
    rcases le_total s.wallet.rewardQuota quota with hcase | hcase
    · rw [min_eq_left hcase]
      linarith
    · rw [min_eq_right hcase]
      linarith [h.le]
  · simp only [UserWallet.decrease, map_cons, sum_cons]
    linarith [h.total]
  · simp only [UserWallet.decrease, map_cons, sum_cons]
    linarith [h.rewardUsed]

lemma WalletInvariant.movesCurrent (hchecked : call.Checked)
    (hmove : call.MovesCurrent s s' o) : WalletInvariant initial s' ∧ ∀ c ∈ o, c.Checked := by
  obtain ⟨hcurrent, hnext⟩ := hmove
  cases call with
  | select quota =>
    rw [DecreaseCall.Moves, DecreaseCall.next] at hnext
    split at hnext <;> cases hnext
    · exact ⟨h, by simp⟩
    · rename_i b hb
      obtain ⟨hle, rfl⟩ := UserWallet.checkDecrease_eq_ok.1 hb
      refine ⟨h, fun c hc => ?_⟩
      cases hc
      exact ⟨hle, rfl⟩
  | update selected b =>
    obtain ⟨hle, hb⟩ := hchecked
    obtain rfl : s.wallet = selected := hcurrent
    cases hnext
    refine ⟨?_, by simp⟩
    have := h.decrease hle
    rwa [← hb] at this

end

/-- As long as no decrease works on a balance that has changed since, no more is taken than there
    was. -/
theorem withinBalance_of_current {wallet : UserWallet} (hnonneg : 0 ≤ wallet.rewardQuota)
    (hle : wallet.rewardQuota ≤ wallet.quota) {p : Pool WalletState DecreaseCall}
    (hrun : Run DecreaseCall.Starts DecreaseCall.MovesCurrent ⟨⟨wallet, []⟩, []⟩ p) :
    WithinBalance wallet p.shared := by
  have hinit : WalletInvariant wallet ⟨wallet, []⟩ := ⟨hnonneg, hle, by simp, by simp⟩
  have hfinal := Run.invariant (WalletInvariant wallet) (fun _ call => call.Checked)
    (fun hI hcall => ⟨(hI.starts hcall).1, fun _ hc => hc, (hI.starts hcall).2⟩)
    (fun hI hA hmove => ⟨(hI.movesCurrent hA hmove).1, fun _ hc =>
      hc, (hI.movesCurrent hA hmove).2⟩)
    hrun ⟨hinit, by simp⟩
  have h := hfinal.1
  exact ⟨h.rewardQuota.trans h.le, h.rewardQuota, by linarith [h.total, h.rewardQuota.trans h.le],
    by linarith [h.rewardUsed, h.rewardQuota]⟩

/-- Two charges of `10`, one after the other, on a balance of `15` with a reward of `4`. -/
theorem withinBalance_of_current_sequence : ∃ p : Pool WalletState DecreaseCall,
      Run DecreaseCall.Starts DecreaseCall.MovesCurrent ⟨⟨⟨15, 4⟩, []⟩, []⟩ p ∧
        p.threads = [] ∧ p.shared.wallet = ⟨5, 0⟩ ∧ WithinBalance ⟨15, 4⟩ p.shared := by
  have hrun : Run DecreaseCall.Starts DecreaseCall.MovesCurrent ⟨⟨⟨15, 4⟩, []⟩, []⟩ _ :=
    .head (.call [] ⟨10, rfl⟩) <| .head (.move [] [] ⟨trivial, rfl⟩) <|
      .head (.move [] [] ⟨rfl, rfl⟩) <| .head (.call [] ⟨10, rfl⟩) <|
      .head (.move [] [] ⟨trivial, rfl⟩) .refl
  exact ⟨_, hrun, rfl, rfl, withinBalance_of_current (by decide) (by decide) hrun⟩

/-- Two decreases check the same balance, and both take all of it. -/
theorem overdrawn_of_two_decreases : ∃ p : Pool WalletState DecreaseCall,
      Run DecreaseCall.Starts DecreaseCall.Moves ⟨⟨⟨10, 0⟩, []⟩, []⟩ p ∧ p.threads = [] ∧
        p.shared.wallet.quota = -10 ∧
        p.shared.succeeded = [⟨10, 0, 10⟩, ⟨10, 0, 10⟩] ∧ ¬ WithinBalance ⟨10, 0⟩ p.shared := by
  exact ⟨_, .head (.call [] ⟨10, rfl⟩) <| .head (.call _ ⟨10, rfl⟩) <| .head (.move [] [_] rfl) <|
    .head (.move [_] [] rfl) <| .head (.move [] [_] rfl) <| .head (.move [] [] rfl) .refl,
    rfl, rfl, rfl, fun h => absurd h.quota (by decide)⟩

end Allrouter
