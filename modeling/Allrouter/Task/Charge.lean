import Allrouter.Billing.Lifecycle
import Allrouter.Task.Billing

/-!
# What is charged for a task

Next to the row of a task stands what was taken for it in net (`Ledger`). The two
agree where a settlement is under way (`Settling`), and where none is (`Settled`).

A settlement moves one side after the other, and each may fail. Whatever it stops at, the
two still agree (`ensures_settleTaskBillingTarget`): what every stage keeps is
`Settling`, at the target of the settlement.
-/

namespace Allrouter

open Durable Text Ledger Program

/-! ## Rows that agree with the ledger -/

namespace Task

variable (task : Task)

/-- What a subscription has reserved for a task whose quota is zero. -/
def reservation : ℤ := { task with quota := 0 }.refundQuota

/-- The wallet parts in the row, where it has them, make up `funding`. -/
def WalletParts (funding : ℤ) : Prop :=
  task.isSubscription = false → task.privateData.walletQuotaBreakdownRecorded = true →
    0 ≤ task.privateData.walletRewardUsed ∧ 0 ≤ task.privateData.walletPaidUsed ∧
      task.privateData.walletRewardUsed + task.privateData.walletPaidUsed = funding

variable {task}

lemma refundQuota_of_pos (h : 0 < task.quota) : task.refundQuota = task.quota := if_pos h

lemma refundQuota_of_not_pos (h : ¬0 < task.quota) : task.refundQuota = task.reservation :=
  if_neg h

lemma refundQuota_nonneg : 0 ≤ task.refundQuota := by
  rw [refundQuota]
  split_ifs with hpos hnone
  · exact le_of_lt hpos
  · exact le_rfl
  · rw [Bool.or_eq_true, not_or, decide_eq_true_eq] at hnone
    exact le_min (le_of_lt (not_le.1 hnone.2)) (by decide)

lemma reservation_of_not_isSubscription (h : task.isSubscription = false) :
    task.reservation = 0 := by
  have h' : { task with quota := 0 }.isSubscription = false := h
  simp [reservation, refundQuota, h']

lemma isSubscription_of_tokenQuotaRequired (h : task.tokenQuotaRequired = true) :
    task.isSubscription = false := by
  simp only [tokenQuotaRequired, Bool.and_eq_true, decide_eq_true_eq] at h
  simp [isSubscription, h.1]

end Task

/-- What of the billing of a task no settlement changes. -/
structure TaskTerms where
  reservation : ℤ
  tokenQuotaRequired : Bool
  deriving DecidableEq

def Task.terms (task : Task) : TaskTerms where
  reservation := task.reservation
  tokenQuotaRequired := task.tokenQuotaRequired

/-- A settlement at `target` is under way, and the ledger is where the checkpoint says. -/
structure Settling (target : ℤ) (terms : TaskTerms) (task : Task) (w : TaskWorld Ledger) :
    Prop where
  row : w.row.privateData = task.privateData
  pending : task.privateData.billingSettlementPending = true
  target_eq : task.privateData.billingSettlementTarget = target
  target_nonneg : 0 ≤ target
  notRefunded : task.privateData.billingRefunded = false
  terms_eq : task.terms = terms
  funding : w.store.funding = task.privateData.billingSettlementFundingAmount
  token : w.store.token =
    if task.tokenQuotaRequired then task.privateData.billingSettlementTokenAmount else 0
  nonneg : 0 ≤ w.store.funding ∧ 0 ≤ w.store.token
  wallet : task.WalletParts w.store.funding
  fundingDone : task.privateData.billingSettlementFundingDone = true →
    task.privateData.billingSettlementFundingAmount = target
  tokenDone : task.privateData.billingSettlementTokenDone = true → task.tokenQuotaRequired = true →
    task.privateData.billingSettlementTokenAmount = target

/-- No settlement is under way, and the ledger is at the quota of the task, at the
    reservation where that is zero, or at nothing after a refund. -/
structure Settled (w : TaskWorld Ledger) : Prop where
  notPending : w.row.privateData.billingSettlementPending = false
  quota_nonneg : w.row.privateData.billingRefunded = false → 0 ≤ w.row.quota
  funding : w.store.funding =
    if w.row.privateData.billingRefunded then 0 else w.row.refundQuota
  token : w.store.token =
    if w.row.tokenQuotaRequired && !w.row.privateData.billingRefunded then w.row.quota else 0
  wallet : w.row.WalletParts w.store.funding

/-- The row and the ledger of a task agree. -/
def Agrees (w : TaskWorld Ledger) : Prop :=
  (∃ target terms, Settling target terms w.row w) ∨ Settled w

/-- Only an operation of the stores has failed. -/
def TaskError.IsStore {ε : Type} : TaskError ε → Prop
  | .store _ => True
  | _ => False

/-! ## One stage after the other -/

section

variable {fate : Fate} {task : Task} {w : TaskWorld Ledger} {target delta quota : ℤ}
  {terms : TaskTerms} {E : TaskError Unit → TaskWorld Ledger → Prop}
  {Q : Task → TaskWorld Ledger → Prop}

lemma ensures_persist
    (h : Q task (w.persist task)) :
    (persistTaskBillingState task : TaskProgram Ledger Unit Task).Ensures w Q E :=
  ensures_commit (fun _ _ heq => by cases heq; exact h) (fun _ heq => nomatch heq)

lemma ensures_commitStore {side : TaskCommit} {f : Ledger → Except Unit Ledger}
    (hok : ∀ x, f w.store = .ok x → Q task { w with store := x }) :
    (commitStore side task f : TaskProgram Ledger Unit Task).Ensures w Q (fun e w' => w' = w ∧
        e.IsStore) := by
  refine ensures_commit (fun a w' heq => ?_) fun e heq => ?_
  · split at heq
    · cases heq
    · rename_i x hx
      cases heq
      exact hok x hx
  · split at heq <;> cases heq
    exact ⟨rfl, trivial⟩

lemma Ledger.increaseUserQuota_eq_ok {l l' : Ledger}
    (h : (stores fate).increaseUserQuota l quota = .ok l') :
      l' = { l with funding := l.funding - quota } := by
  simp only [stores] at h
  split at h
  · cases h
  · split at h <;> cases h
    rfl

lemma Ledger.adjustSubscription_eq_ok {l l' : Ledger} {requestId : String}
    (h : (stores fate).adjustSubscriptionPreConsume l requestId delta = .ok l') :
    l' = { l with funding := l.funding + delta } := by
  simp only [stores] at h
  split at h <;> cases h
  rfl

lemma Ledger.postConsume_eq_ok {l l' : Ledger} {id : ℤ}
    (h : (stores fate).postConsumeUserSubscriptionDelta l id delta = .ok l') :
    l' = { l with funding := l.funding + delta } := by
  simp only [stores] at h
  split at h <;> cases h
  rfl

lemma Ledger.decreaseToken_eq_ok {l l' : Ledger}
    (h : (stores fate).decreaseTokenQuota l quota = .ok l') :
    l' = { l with token := l.token + quota } := by
  simp only [stores] at h
  split_ifs at h
  cases h
  rfl

/-- Funding has moved by `delta`, and of the task only the wallet parts with it. -/
def Moved (task : Task) (w : TaskWorld Ledger) (delta : ℤ) (task' : Task) (w' : TaskWorld Ledger) :
    Prop :=
  ∃ reward paid, task' = task.withParts reward paid ∧
    w' = { w with store := { w.store with funding := w.store.funding + delta } } ∧
    task'.WalletParts (w.store.funding + delta)

lemma moved_self (hparts : task.WalletParts (w.store.funding + delta)) :
    Moved task w delta task { w with store := { w.store with funding := w.store.funding +
      delta } } :=
  ⟨_, _, rfl, rfl, hparts⟩

lemma ensures_taskChargeWallet (hparts : task.WalletParts w.store.funding) (hpos : 0 < delta) :
    (taskChargeWallet (stores fate) task delta).Ensures w (Moved task w delta) (fun e w' => w' = w ∧
      e.IsStore) := by
  refine ensures_commit (fun a w' heq => ?_) fun e heq => ?_
  · split at heq
    · cases heq
    · rename_i b x hx
      cases heq
      obtain ⟨rfl, hsum, hreward, hpaid⟩ := decrease_eq_ok hpos hx
      split_ifs with hrecorded
      · refine ⟨_, _, rfl, rfl, fun hwallet _ => ?_⟩
        obtain ⟨h₁, h₂, h₃⟩ := hparts hwallet hrecorded
        exact ⟨add_nonneg h₁ hreward, add_nonneg h₂ hpaid, by simp only [Task.withParts]; omega⟩
      · exact moved_self fun _ h => absurd h hrecorded
  · split at heq <;> cases heq
    exact ⟨rfl, trivial⟩

/-- No more is given back than was taken, so none of the checks on the parts fails. -/
lemma ensures_taskRefundWallet (hwallet : task.isSubscription = false)
    (hparts : task.WalletParts w.store.funding) (hnonneg : 0 ≤ w.store.funding + delta) :
    (taskRefundWallet (stores fate) task (-delta)).Ensures w (Moved task w delta) (fun e w' =>
      w' = w ∧ e.IsStore) := by
  simp only [taskRefundWallet]
  split_ifs with hrecorded htotal hreward
  · refine ensures_commitStore fun x hx => ?_
    rw [increaseUserQuota_eq_ok hx, sub_neg_eq_add]
    exact moved_self fun _ h => absurd h (by simpa using hrecorded)
  all_goals
    obtain ⟨h₁, h₂, h₃⟩ := hparts hwallet (by simpa using hrecorded)
  · exact absurd htotal (by omega)
  · exact absurd hreward (by omega)
  · refine ensures_commitStore fun x hx => ?_
    rw [increase_eq_ok hx, sub_neg_eq_add]
    refine ⟨_, _, rfl, rfl, fun _ _ => ?_⟩
    simp only [Task.withParts]
    omega

/-- Funding moves by `delta`, or an operation of the stores fails and nothing moves. -/
lemma ensures_taskAdjustFunding (hparts : task.WalletParts w.store.funding)
    (hnonneg : 0 ≤ w.store.funding + delta) :
    (taskAdjustFunding (stores fate) task delta).Ensures w (Moved task w delta) (fun e w' =>
      w' = w ∧ e.IsStore) := by
  have hsubscription : task.isSubscription = true → task.WalletParts (w.store.funding + delta) :=
    fun hsub hwallet => absurd hsub (by simp [hwallet])
  simp only [taskAdjustFunding]
  split_ifs with hsub hid hpos hzero
  · refine ensures_commitStore fun x hx => ?_
    rw [adjustSubscription_eq_ok hx]
    exact moved_self (hsubscription hsub)
  · refine ensures_commitStore fun x hx => ?_
    rw [postConsume_eq_ok hx]
    exact moved_self (hsubscription hsub)
  · exact ensures_taskChargeWallet hparts hpos
  · subst hzero
    refine ensures_pure _ ⟨_, _, rfl, ?_, ?_⟩
    · rw [add_zero]
    · rwa [add_zero]
  · exact ensures_taskRefundWallet (Bool.eq_false_of_not_eq_true hsub) hparts hnonneg

/-- Token quota moves by `delta` where the token counts the task, or fails to. -/
lemma ensures_taskAdjustTokenQuota : (taskAdjustTokenQuota (stores fate) task delta).Ensures w
      (fun task' w' => task' = task ∧ w' = { w with store := { w.store with
        token := if task.tokenQuotaRequired then w.store.token + delta else w.store.token } })
      (fun e w' => w' = w ∧ e.IsStore) := by
  rw [taskAdjustTokenQuota]
  by_cases hskip : task.tokenQuotaRequired = false ∨ delta = 0
  · rw [if_pos (by simpa using hskip)]
    refine ensures_pure _ ⟨rfl, ?_⟩
    rcases hskip with h | h <;> simp [h]
  rw [if_neg (by simpa using hskip)]
  obtain ⟨hrequired, -⟩ : task.tokenQuotaRequired = true ∧ ¬delta = 0 := by simpa using hskip
  refine ensures_get_bind ?_
  rw [if_neg (by simp [stores])]
  split_ifs
  · refine ensures_commitStore fun x hx => ?_
    rw [decreaseToken_eq_ok hx]
    exact ⟨rfl, rfl⟩
  · refine ensures_commitStore fun x hx => ?_
    rw [increaseToken_eq_ok hx, sub_neg_eq_add]
    exact ⟨rfl, rfl⟩

/-- The row when its funds are at the target. -/
def Task.fundingAt (task : Task) (target : ℤ) : Task :=
  { task with privateData := { task.privateData with
      billingSettlementFundingAmount := target
      billingSettlementFundingDone := true } }

/-- The row when its token is at the target. -/
def Task.tokenAt (task : Task) (target : ℤ) : Task :=
  { task with privateData := { task.privateData with
      billingSettlementTokenAmount := target
      billingSettlementTokenDone := true } }

/-- Funding moves to the target; the checkpoint is still to be written. -/
lemma Settling.ensures_adjustFunding (h : Settling target terms task w) :
    (taskAdjustFunding (stores fate) task
      (target - task.privateData.billingSettlementFundingAmount)).Ensures w
      (fun task' w' => Settling target terms (task'.fundingAt target)
        (w'.persist (task'.fundingAt target)) ∧
        w'.store.funding = target ∧ w'.row = w.row) (fun e w' => w' = w ∧ e.IsStore) := by
  have hsum : w.store.funding + (target - task.privateData.billingSettlementFundingAmount) =
      target := by
    rw [h.funding, add_sub_cancel]
  refine (ensures_taskAdjustFunding h.wallet (by rw [hsum]; exact h.target_nonneg)).mono ?_
    fun _ _ h => h
  rintro task' w' ⟨reward, paid, rfl, rfl, hparts⟩
  rw [hsum] at hparts ⊢
  refine ⟨?_, rfl, rfl⟩
  exact
    { h with
      row := rfl
      funding := rfl
      nonneg := ⟨h.target_nonneg, h.nonneg.2⟩
      wallet := hparts
      fundingDone := fun _ => rfl }

lemma ensures_settleTaskFunding (h : Settling target terms task w) :
    (settleTaskFunding (stores fate) task target).Ensures w
      (fun task' w' => Settling target terms task' w' ∧ w'.store.funding = target)
      (fun e w' => w' = w ∧ e.IsStore) := by
  rw [settleTaskFunding]
  split_ifs with hdone
  · exact ensures_pure _ ⟨h, h.funding.trans (h.fundingDone hdone)⟩
  · exact h.ensures_adjustFunding.bind fun _ _ h' => ensures_persist ⟨h'.1, h'.2.1⟩

/-- Both sides have come to the target of the settlement. -/
structure Reached (target : ℤ) (terms : TaskTerms) (task : Task) (w : TaskWorld Ledger) : Prop
    extends Settling target terms task w where
  funding_eq : w.store.funding = target
  token_eq : w.store.token = if task.tokenQuotaRequired then target else 0

section

variable (h : Settling target terms task w) (hfunding : w.store.funding = target)
include h hfunding

lemma Settling.reached
    (hdone : task.privateData.billingSettlementTokenDone = true) : Reached target terms task w := by
  refine { h with funding_eq := hfunding, token_eq := ?_ }
  rw [h.token]
  exact ite_congr rfl (fun hrequired => h.tokenDone hdone hrequired) fun _ => rfl

/-- Token quota moves to the target; the checkpoint is still to be written. -/
lemma Settling.ensures_adjustToken : (taskAdjustTokenQuota (stores fate) task
      (target - task.privateData.billingSettlementTokenAmount)).Ensures w
      (fun task' w' => Reached target terms (task'.tokenAt target)
        (w'.persist (task'.tokenAt target)) ∧ w'.row = w.row)
      (fun e w' => w' = w ∧ e.IsStore) := by
  refine ensures_taskAdjustTokenQuota.mono ?_ fun _ _ h => h
  rintro task' w' ⟨rfl, rfl⟩
  have htoken : (if task'.tokenQuotaRequired then w.store.token +
      (target - task'.privateData.billingSettlementTokenAmount) else w.store.token) =
      if task'.tokenQuotaRequired then target else 0 := by
    rw [h.token]
    split_ifs
    · rw [add_sub_cancel]
    · rfl
  have htoken_nonneg : 0 ≤ if task'.tokenQuotaRequired then target else 0 := by
    split_ifs
    · exact h.target_nonneg
    · exact le_rfl
  rw [htoken]
  refine ⟨?_, rfl⟩
  exact { h with
    row := rfl
    token := rfl
    nonneg := ⟨h.nonneg.1, htoken_nonneg⟩
    tokenDone := fun _ _ => rfl
    funding_eq := hfunding
    token_eq := rfl }

lemma ensures_settleTaskToken :
    (settleTaskToken (stores fate) task target).Ensures w (Reached target terms)
      (fun e w' => w' = w ∧ e.IsStore) := by
  rw [settleTaskToken]
  split_ifs with hdone
  · exact ensures_pure _ (h.reached hfunding hdone)
  · exact (h.ensures_adjustToken hfunding).bind fun _ _ h' => ensures_persist h'.1

end

/-- A checkpoint where both sides are as the ledger has them, at whatever target. -/
lemma Settling.checkpoint {funding token : ℤ} (htarget : 0 ≤ target)
    (hlive : task.privateData.billingRefunded = false) (hfunding : w.store.funding = funding)
    (htoken : w.store.token = if task.tokenQuotaRequired then token else 0)
    (hnonneg : 0 ≤ w.store.funding ∧ 0 ≤ w.store.token)
    (hwallet : task.WalletParts w.store.funding) :
    Settling target task.terms (task.checkpoint target funding token)
      (w.persist (task.checkpoint target funding token)) where
  row := rfl
  pending := rfl
  target_eq := rfl
  target_nonneg := htarget
  notRefunded := hlive
  terms_eq := rfl
  funding := hfunding
  token := htoken
  nonneg := hnonneg
  wallet := hwallet
  fundingDone := by simp [Task.checkpoint]
  tokenDone := by
    intro hdone hrequired
    have hrequired : task.tokenQuotaRequired = true := hrequired
    simpa [Task.checkpoint, hrequired] using hdone

lemma Settling.congr {task' : Task} (h : Settling target terms task w)
    (hdata : task'.privateData = task.privateData) : Settling target terms task' w := by
  cases task
  cases hdata
  exact { h with }

lemma Settling.agrees (h : Settling target terms task w) : Agrees w := .inl ⟨_, _, h.congr h.row⟩

/-- A settlement that is under way gets another target. -/
lemma Settling.retarget {old : ℤ} (h : Settling old terms task w) (htarget : 0 ≤ target) :
    let task' := task.checkpoint target task.privateData.billingSettlementFundingAmount
      task.privateData.billingSettlementTokenAmount
    Settling target terms task' (w.persist task') := by
  obtain rfl := h.terms_eq
  exact .checkpoint htarget h.notRefunded h.funding h.token h.nonneg h.wallet

lemma ensures_settleTaskBillingTarget {old : ℤ} (h : Settling old terms task w)
    (htarget : 0 ≤ target) :
    (settleTaskBillingTarget (stores fate) task target).Ensures w (Reached target terms)
      (fun e w' => Agrees w' ∧ e.IsStore) := by
  have hretarget : (retargetTaskBillingSettlement task target :
    TaskProgram Ledger Unit Task).Ensures w
      (Settling target terms) (fun e w' => Agrees w' ∧ e.IsStore) := by
    simp only [retargetTaskBillingSettlement, if_pos h.pending]
    split_ifs with hne
    · exact ensures_persist (h.retarget htarget)
    · obtain rfl : old = target := h.target_eq.symm.trans (not_ne_iff.1 hne)
      exact ensures_pure _ h
  rw [settleTaskBillingTarget, if_neg (not_lt.2 htarget)]
  refine hretarget.bind fun task₁ w₁ h₁ => ?_
  refine Program.Ensures.bind (Q := fun task' w' => Settling target terms task' w' ∧
    w'.store.funding = target) ?_ ?_
  · refine (ensures_settleTaskFunding h₁).mono (fun _ _ h => h) ?_
    rintro e w' ⟨rfl, he⟩
    exact ⟨h₁.agrees, he⟩
  · rintro task₂ w₂ ⟨h₂, hfunding⟩
    refine (ensures_settleTaskToken h₂ hfunding).mono (fun _ _ h => h) ?_
    rintro e w' ⟨rfl, he⟩
    exact ⟨h₂.agrees, he⟩

end

end Allrouter
