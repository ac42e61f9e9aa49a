import Allrouter.Billing.Wallet
import Allrouter.Library.Transaction
import Allrouter.Library.Unlocked

/-!
# Transfers of affiliate quota

A user moves all of their affiliate quota to the balance, where it counts as a reward. The
transfer selects the row of the user without a lock, and saves the whole of it; debits
and credits of the wallet are relative to what is stored.

* `conserved_of_current`: no update is lost, and the affiliate quota is moved once, as long
  as every transfer saves the row that it has selected;
* `lost_debit_of_transfer`: a debit between the two is undone by the save.
-/

namespace Allrouter

open Interleaving List UserWallet

/-- A user with the quota that they earned by inviting. -/
structure AffUser where
  wallet : UserWallet
  affQuota : ℤ
  deriving DecidableEq

/-- The row a transfer saves, by the one it has selected. -/
def transferAllAffQuotaToQuota (user : AffUser) : Option AffUser :=
  -- "邀请额度不足！"
  if user.affQuota ≤ 0 then none
  else some { wallet := user.wallet.increase user.affQuota user.affQuota, affQuota := 0 }

/-- An update of the wallet, relative to what is stored. -/
inductive WalletUpdate
  | debit (b : UserQuotaBreakdown)
  | credit (total reward : ℤ)

namespace WalletUpdate

def apply (wallet : UserWallet) : WalletUpdate → UserWallet
  | debit b => wallet.decrease b
  | credit total reward => wallet.increase total reward

def total : WalletUpdate → ℤ
  | debit b => -b.total
  | credit total _ => total

def reward : WalletUpdate → ℤ
  | debit b => -b.rewardUsed
  | credit _ reward => reward

lemma apply_quota (wallet : UserWallet) (update : WalletUpdate) :
    (update.apply wallet).quota = wallet.quota + update.total := by
  cases update with
  | debit b => exact sub_eq_add_neg _ _
  | credit total reward => rfl

lemma apply_rewardQuota (wallet : UserWallet) (update : WalletUpdate) :
    (update.apply wallet).rewardQuota = wallet.rewardQuota + update.reward := by
  cases update with
  | debit b => exact sub_eq_add_neg _ _
  | credit total reward => rfl

end WalletUpdate

/-- The user, and what was written so far. -/
structure TransferState where
  user : AffUser
  updates : List WalletUpdate := []
  transferred : List ℤ := []

/-- Transfers of one user, with the updates of the wallet. -/
def transfers : Unlocked TransferState AffUser Unit WalletUpdate where
  read s := s.user
  commit _ user s :=
    match transferAllAffQuotaToQuota user with
    | none => s
    | some user' => { s with user := user', transferred := user.affQuota :: s.transferred }
  act update s :=
    { s with
      user := { s.user with wallet := update.apply s.user.wallet }
      updates := update :: s.updates }

/-- The balance is what it was with all the updates and what was transferred, which is
    nothing or all of the affiliate quota. -/
structure Conserved (user : AffUser) (s : TransferState) : Prop where
  quota : s.user.wallet.quota = user.wallet.quota + (s.updates.map (·.total)).sum +
    s.transferred.sum
  rewardQuota : s.user.wallet.rewardQuota =
    user.wallet.rewardQuota + (s.updates.map (·.reward)).sum + s.transferred.sum
  transferred : s.transferred = [] ∧ s.user.affQuota = user.affQuota ∨
    s.transferred = [user.affQuota] ∧ s.user.affQuota = 0

lemma Conserved.update {user : AffUser} {s : TransferState} (h : Conserved user s)
    (update : WalletUpdate) :
    Conserved user (transfers.act update s) := by
  refine ⟨?_, ?_, h.transferred⟩
  · simp only [transfers, WalletUpdate.apply_quota, map_cons, sum_cons]
    linarith [h.quota]
  · simp only [transfers, WalletUpdate.apply_rewardQuota, map_cons, sum_cons]
    linarith [h.rewardQuota]

lemma Conserved.transfer {user : AffUser} {s : TransferState} (h : Conserved user s) :
    Conserved user (transfers.commit () (transfers.read s) s) := by
  simp only [transfers]
  split
  · exact h
  · rename_i user' htransfer
    rw [transferAllAffQuotaToQuota] at htransfer
    split_ifs at htransfer with haff
    cases htransfer
    -- there is something to move only if nothing was moved yet
    obtain ⟨hnone, haff'⟩ : s.transferred = [] ∧ s.user.affQuota = user.affQuota := by
      rcases h.transferred with h' | ⟨-, hzero⟩
      · exact h'
      · exact absurd hzero.le haff
    have hquota := h.quota
    have hreward := h.rewardQuota
    rw [hnone, sum_nil, add_zero] at hquota hreward
    refine ⟨?_, ?_, .inr ⟨by rw [hnone, haff'], rfl⟩⟩
    · simp only [increase, hnone, sum_singleton]
      rw [hquota]
    · simp only [increase, hnone, sum_singleton]
      rw [hreward]

/-- As long as no transfer saves a user that has changed since, nothing is lost. -/
theorem conserved_of_current {user : AffUser} {p : Pool TransferState (Unit × AffUser)}
    (h : transfers.CurrentRun ⟨{ user := user }, []⟩ p) : Conserved user p.shared :=
  Unlocked.invariant_of_current (Conserved user) (fun _ _ hs => hs.transfer) (fun update _ hs =>
    hs.update update) h
    ⟨by simp, by simp, .inl ⟨rfl, rfl⟩⟩

namespace Inviter

def user : AffUser where
  wallet := ⟨100, 0⟩
  affQuota := 50

def debit : WalletUpdate := .debit { total := 30, rewardUsed := 0, paidUsed := 30 }

/-- A debit of 30 comes between the two statements of a transfer. -/
def debited : Pool TransferState (Unit × AffUser) :=
  transfers.after ⟨{ user := user }, []⟩ [.call (.inl ()), .call (.inr debit), .move 0 ()]

end Inviter

/-- A debit, a transfer, and another one with nothing left. -/
theorem conserved_of_inviter : ∃ p : Pool TransferState (Unit × AffUser),
    transfers.CurrentRun ⟨{ user := Inviter.user }, []⟩ p ∧ p.threads = [] ∧
      p.shared.user = ⟨⟨120, 50⟩, 0⟩ ∧ Conserved Inviter.user p.shared := by
  have hrun : transfers.CurrentRun ⟨{ user := Inviter.user }, []⟩ _ :=
    .head (.call [] ⟨.inr Inviter.debit, rfl⟩) <| .head (.call [] ⟨.inl (), rfl⟩) <|
      .head (.move [] [] ⟨rfl, (), rfl⟩) <| .head (.call [] ⟨.inl (), rfl⟩) <|
      .head (.move [] [] ⟨rfl, (), rfl⟩) .refl
  exact ⟨_, hrun, rfl, by decide +kernel, conserved_of_current hrun⟩

/-- A debit between the read and the save of a transfer is lost. -/
theorem lost_debit_of_transfer : transfers.Run ⟨{ user := Inviter.user }, []⟩ Inviter.debited ∧
    Inviter.debited.shared.user = ⟨⟨150, 50⟩, 0⟩ ∧ Inviter.debited.shared.transferred = [50] ∧
    Inviter.debited.shared.updates.length = 1 ∧ ¬Conserved Inviter.user Inviter.debited.shared := by
  exact ⟨transfers.run_after _ _, by decide +kernel, by decide +kernel, by decide +kernel,
    fun h => absurd h.quota (by decide +kernel)⟩

end Allrouter
