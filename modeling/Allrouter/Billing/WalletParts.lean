import Allrouter.Billing.Withdraw

/-!
# The parts of a wallet

The reward of a user is a part of the balance, so that `0 ≤ rewardQuota ≤ quota` should hold
(`UserWallet.Split`). Charges and refunds move both columns; others move the balance only, and
some of them later, with the next batch (`WalletAccount`).

* `WalletOperation.split_perform_iff`: which operations keep the parts. What takes from the balance
  without the reward must leave the reward (`LeavesReward`), which nothing checks;
* `split_of_leavesReward`: the parts are kept along every run of such operations;
* `unsplit_of_decrease`: a plain decrease and the approval of a withdrawal that do not keep them.
-/

namespace Allrouter

open Relation

/-- The reward is a part of the quota. -/
structure UserWallet.Split (wallet : UserWallet) : Prop where
  rewardQuota_nonneg : 0 ≤ wallet.rewardQuota
  rewardQuota_le : wallet.rewardQuota ≤ wallet.quota

def UserWallet.paidQuota (wallet : UserWallet) : ℤ := wallet.quota - wallet.rewardQuota

/-! ## The operations -/

/-- Takes from the balance, whatever it is, and leaves the reward. -/
def decreaseUserQuota (wallet : UserWallet) (quota : ℤ) : Except QuotaError UserWallet :=
  if quota < 0 then .error .negative else .ok { wallet with quota := wallet.quota - quota }

/-- Gives a reward, which is a part of the balance. -/
def increaseUserRewardQuota (wallet : UserWallet) (quota : ℤ) : Except QuotaError UserWallet :=
  if quota < 0 then .error .negative else .ok (wallet.increase quota quota)

/-- The approval of a withdrawal takes its amount from the balance of the owner, if there is as
    much. -/
def approveWithdraw (wallet : UserWallet) (withdraw : ProviderWithdraw) (quotaPerUnit : ℚ) :
    Except WithdrawError UserWallet :=
  let deduction := withdraw.deduction quotaPerUnit
  if wallet.quota < deduction then .error .insufficientBalance
  else .ok { wallet with quota := wallet.quota - deduction }

/-- The wallet, and what the next batch adds to the balance. -/
structure WalletAccount where
  wallet : UserWallet
  pending : ℤ := 0
  deriving DecidableEq

/-- The operations on a wallet; `db` asks for a plain change of the balance to be written at
    once. -/
inductive WalletOperation
  | decreasePreferReward (quota : ℤ)
  | increaseByBreakdown (total reward : ℤ)
  | increase (quota : ℤ) (db : Bool)
  | decrease (quota : ℤ) (db : Bool)
  | increaseReward (quota : ℤ)
  | approveWithdraw (withdraw : ProviderWithdraw) (quotaPerUnit : ℚ)
  | batchUpdate

namespace WalletOperation

/-- The account after the operation; one that fails changes nothing. -/
def perform (batchUpdateEnabled : Bool) (s : WalletAccount) : WalletOperation → WalletAccount
  | decreasePreferReward quota =>
    { s with wallet := commit s.wallet ((decreaseUserQuotaPreferReward s.wallet quota).map Prod.snd)
      }
  | increaseByBreakdown total reward =>
    { s with wallet := commit s.wallet (increaseUserQuotaByBreakdown s.wallet total reward) }
  | increase quota db =>
    if quota < 0 then s
    else if !db && batchUpdateEnabled then { s with pending := s.pending + quota }
    else { s with wallet := commit s.wallet (increaseUserQuota s.wallet quota) }
  | decrease quota db =>
    if quota < 0 then s
    else if !db && batchUpdateEnabled then { s with pending := s.pending - quota }
    else { s with wallet := commit s.wallet (decreaseUserQuota s.wallet quota) }
  | increaseReward quota =>
    { s with wallet := commit s.wallet (increaseUserRewardQuota s.wallet quota) }
  | approveWithdraw withdraw quotaPerUnit =>
    { s with wallet := commit s.wallet (Allrouter.approveWithdraw s.wallet withdraw quotaPerUnit) }
  | batchUpdate => { wallet := { s.wallet with quota := s.wallet.quota + s.pending }, pending := 0 }

/-- What the operation takes from the balance without the reward, if it is done, is of the paid
    part. -/
def LeavesReward (batchUpdateEnabled : Bool) (s : WalletAccount) : WalletOperation → Prop
  | decreasePreferReward _ | increaseByBreakdown _ _ | increase _ _ | increaseReward _ => True
  | decrease quota db => (!db && batchUpdateEnabled) = false → quota ≤ 0 ∨
    quota ≤ s.wallet.paidQuota
  | approveWithdraw withdraw quotaPerUnit =>
    withdraw.deduction quotaPerUnit ≤ s.wallet.quota →
      withdraw.deduction quotaPerUnit ≤ s.wallet.paidQuota
  | batchUpdate => -s.pending ≤ s.wallet.paidQuota

section

variable {batchUpdateEnabled : Bool} {s : WalletAccount} {wallet wallet' : UserWallet} {quota : ℤ}

/-- A charge takes the reward first, and nothing of it that is not there. -/
lemma split_of_decreasePreferReward {b : UserQuotaBreakdown} (h : wallet.Split)
    (hcharge : decreaseUserQuotaPreferReward wallet quota = .ok (b, wallet')) : wallet'.Split := by
  rw [decreaseUserQuotaPreferReward] at hcharge
  split_ifs at hcharge with hneg hzero
  · cases hcharge
    exact h
  · obtain ⟨b, hcheck, ⟨⟩⟩ := Except.map_eq_ok.1 hcharge
    obtain ⟨hle, rfl⟩ := UserWallet.checkDecrease_eq_ok.1 hcheck
    have hnonneg := h.rewardQuota_nonneg
    have hreward := h.rewardQuota_le
    refine ⟨?_, ?_⟩ <;> simp only [UserWallet.decrease, UserWallet.breakdown] <;> omega

lemma split_of_increaseByBreakdown {total reward : ℤ} (h : wallet.Split)
    (hrefund : increaseUserQuotaByBreakdown wallet total reward = .ok wallet') : wallet'.Split := by
  have hnonneg := h.rewardQuota_nonneg
  have hreward := h.rewardQuota_le
  rw [increaseUserQuotaByBreakdown] at hrefund
  split_ifs at hrefund
  · cases hrefund
    exact h
  · cases hrefund
    exact ⟨by simp only [UserWallet.increase]; omega, by simp only [UserWallet.increase]; omega⟩

/-- A change of the balance alone keeps the parts if it leaves the reward. -/
lemma split_iff_of_quota (h : wallet.Split) (change : ℤ) :
    ({ wallet with quota := wallet.quota + change } : UserWallet).Split ↔
      -change ≤ wallet.paidQuota := by
  have hnonneg := h.rewardQuota_nonneg
  constructor
  · rintro ⟨-, hle⟩
    dsimp only at hle
    rw [UserWallet.paidQuota]
    omega
  · intro hle
    rw [UserWallet.paidQuota] at hle
    exact ⟨hnonneg, by dsimp only; omega⟩

lemma split_perform_iff (h : s.wallet.Split) (op : WalletOperation) :
    (op.perform batchUpdateEnabled s).wallet.Split ↔ op.LeavesReward batchUpdateEnabled s := by
  have hle := h.rewardQuota_le
  cases op with
  | decreasePreferReward quota =>
    refine iff_of_true (commit_invariant h fun wallet' hdone => ?_) trivial
    obtain ⟨⟨b, _⟩, hcharge, rfl⟩ := Except.map_eq_ok.1 hdone
    exact split_of_decreasePreferReward h hcharge
  | increaseByBreakdown total reward =>
    exact iff_of_true (commit_invariant h fun wallet' => split_of_increaseByBreakdown h) trivial
  | increase quota db =>
    refine iff_of_true ?_ trivial
    rw [perform]
    split_ifs with hneg
    · exact h
    · exact h
    · rw [increaseUserQuota, if_neg hneg]
      have hsplit := (split_iff_of_quota h quota).2 (by rw [UserWallet.paidQuota]; omega)
      simpa [commit, UserWallet.increase] using hsplit
  | decrease quota db =>
    rw [perform]
    split_ifs with hneg hbatch
    · exact iff_of_true h fun _ => .inl (by omega)
    · exact iff_of_true h fun hdirect => absurd hbatch (by simp [hdirect])
    · rw [decreaseUserQuota, if_neg hneg]
      have hsplit := split_iff_of_quota h (-quota)
      rw [neg_neg] at hsplit
      refine hsplit.trans ⟨fun h _ => .inr h, fun hpaid => ?_⟩
      rcases hpaid (by simpa using hbatch) with hzero | hpaid
      · rw [UserWallet.paidQuota]
        omega
      · exact hpaid
  | increaseReward quota =>
    refine iff_of_true (commit_invariant h fun wallet' hreward => ?_) trivial
    rw [increaseUserRewardQuota] at hreward
    split_ifs at hreward
    cases hreward
    have hnonneg := h.rewardQuota_nonneg
    exact ⟨by simp only [UserWallet.increase]; omega, by simp only [UserWallet.increase]; omega⟩
  | approveWithdraw withdraw quotaPerUnit =>
    rw [perform, Allrouter.approveWithdraw]
    split_ifs with henough
    · exact iff_of_true h fun h => absurd h (not_le.2 henough)
    · have hsplit := split_iff_of_quota h (-withdraw.deduction quotaPerUnit)
      rw [neg_neg] at hsplit
      exact hsplit.trans ⟨fun h _ => h, fun h => h (not_lt.1 henough)⟩
  | batchUpdate => exact split_iff_of_quota h s.pending

end

end WalletOperation

def WalletStep (batchUpdateEnabled : Bool) (s s' : WalletAccount) : Prop :=
  ∃ op : WalletOperation, op.LeavesReward batchUpdateEnabled s ∧
    s' = op.perform batchUpdateEnabled s

/-- Along a run whose steps leave the reward part within the whole, it stays between zero and the
    whole. -/
theorem split_of_leavesReward {batchUpdateEnabled : Bool} {s s' : WalletAccount}
    (h : s.wallet.Split) (hrun : ReflTransGen (WalletStep batchUpdateEnabled) s s') :
      s'.wallet.Split := by
  induction hrun with
  | refl => exact h
  | tail _ hstep ih =>
    obtain ⟨op, hleaves, rfl⟩ := hstep
    exact (op.split_perform_iff ih).2 hleaves

/-- A charge of `12`, its refund, and a withdrawal of the `5` that were paid. -/
theorem split_of_leavesReward_withdraw : (⟨15, 10⟩ : UserWallet).Split ∧
    (⟨10, 10⟩ : UserWallet).Split := by
  let withdraw : ProviderWithdraw := ⟨1, 1, 5, "$", 0, .pending, 0⟩
  have hrun : ReflTransGen (WalletStep false) ⟨⟨15, 10⟩, 0⟩ ⟨⟨10, 10⟩, 0⟩ :=
    .head ⟨.decreasePreferReward 12, trivial, rfl⟩ <|
      .head ⟨.increaseByBreakdown 12 10, trivial, rfl⟩ <|
      .single ⟨.approveWithdraw withdraw 1, fun _ => by decide +kernel, by decide +kernel⟩
  exact ⟨⟨by decide, by decide⟩, split_of_leavesReward ⟨by decide, by decide⟩ hrun⟩

/-- A decrease, or a payout, takes from the whole and not from the reward part. -/
theorem unsplit_of_decrease : (⟨10, 10⟩ : UserWallet).Split ∧
      ((WalletOperation.decrease 5 true).perform false ⟨⟨10, 10⟩, 0⟩).wallet = ⟨5, 10⟩ ∧
      ((WalletOperation.approveWithdraw ⟨1, 1, 5, "$", 0, .pending, 0⟩ 1).perform false ⟨⟨10, 10⟩,
        0⟩).wallet = ⟨5, 10⟩ ∧
      ¬(⟨5, 10⟩ : UserWallet).Split := by
  exact ⟨⟨by decide, by decide⟩, by decide +kernel, by decide +kernel,
    fun h => absurd h.rewardQuota_le (by decide)⟩

end Allrouter
