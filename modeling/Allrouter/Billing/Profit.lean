import Allrouter.Library.Table
import Allrouter.Billing.TopUp

/-!
# Profits of providers and rebates of inviters

A settled request may leave a profit, or a cost, to the owner of a provider
(`ApplyProviderProfit`), and a rebate to the inviter of its user
(`ApplyInviteConsumeRebate`). Each of them writes a row of the request, with a
unique index on it, and moves the balances, in one transaction. Calls for one
request may come from several workers at once: a transaction is open from its
first read to its commit, and others commit in between. What its reads return is
left open, but for the row of the request.

* `ProfitStore.Books`: a transaction moves the balances by what its new rows
  record, and no row takes the key of another;
* `profits_booked_once`: so whatever calls there are, a balance has moved by each
  recorded profit, cost and rebate once, a request has one row once a call for
  it has succeeded, and all its rebates were written together.
-/

namespace Allrouter

open Interleaving List Option Except UserWallet

/-! ## Rows -/

/-- What a request on a resold model cost and earned. -/
structure ProviderProfit where
  (providerId ownerUserId providerUserId : ℤ)
  (requestId publicModelName baseModelName : String)
  (providerUserQuota baseCostQuota paidQuota coveredCostQuota ownerCostQuota profitQuota : ℤ)
  (grossProfitQuota rebateQuota : ℤ := 0)
  (profitSettled ownerCostSettled : Bool := false)
  createdAt : ℤ := 0
  deriving DecidableEq

/-- What an inviter had for a request of one they invited. -/
structure ConsumeRebate where
  (providerId inviterId inviteeId : ℤ)
  requestId : String
  (level sourceQuota : ℤ)
  rebateRatio : ℚ
  (rebateQuota providerPricingId : ℤ)
  (publicModelName baseModelName : String)
  createdAt : ℤ
  deriving DecidableEq

def ConsumeRebate.key (rebate : ConsumeRebate) : String × ℤ := (rebate.requestId, rebate.level)

/-- The tables that the calls write. -/
structure ProfitStore where
  users : ℤ → Option UserWallet
  profits : List ProviderProfit
  rebates : List ConsumeRebate

/-- The unique indexes of the two tables. -/
structure ProfitStore.Indexed (s : ProfitStore) : Prop where
  profits : Table.Keyed ProviderProfit.requestId s.profits
  rebates : Table.Keyed ConsumeRebate.key s.rebates

/-- The columns of a user that decide about rebates. -/
structure InviteUserRef where
  (inviterId providerId inviteConsumeRebateEnabled : ℤ)

/-- The price of a model at a provider, as far as rebates go. -/
structure RebatePricing where
  id : ℤ
  (publicModelName baseModelName : String)
  consumeRebateRatioLevel1 : ℚ

/-- What a call reads. -/
structure ProfitReads where
  invitee : Option InviteUserRef
  pricing : Option RebatePricing
  inviter : Option InviteUserRef
  /-- The provider of the receiver of a rebate, by level. -/
  receiver : ℤ → Option ℤ
  inviter2 : Option InviteUserRef
  owner : Option UserWallet
  /-- The ratio of the main site. -/
  inviteTopupRebateRatio : ℚ
  now : ℤ

/-- Why a transaction was rolled back. -/
inductive ProfitError
  | recordNotFound
  | duplicateKey
  /-- "provider owner quota is not enough, user quota: …, need quota: …" -/
  | ownerQuotaNotEnough (quota need : ℤ)
  deriving DecidableEq

/-! ## Updates -/

/-- The users after one of them got `quota`, of which `reward` as a reward. A user
    that does not exist is passed over. -/
def creditWallets (users : ℤ → Option UserWallet) (userId quota reward : ℤ) :
    ℤ → Option UserWallet := fun id =>
  if id = userId then (users id).map fun wallet => wallet.increase quota reward else users id

namespace ProfitStore

variable (s : ProfitStore)

/-- The row is inserted and the inviter is credited, unless the index has the key. -/
def insertRebate (row : ConsumeRebate) : Option ProfitStore :=
  if row.key ∈ s.rebates.map ConsumeRebate.key then none
  else some
    { s with
      users := creditWallets s.users row.inviterId row.rebateQuota row.rebateQuota
      rebates := row :: s.rebates }

/-- The row is inserted, and the owner pays the cost and gets the profit. -/
def insertProfit (row : ProviderProfit) (rewardUsed : ℤ) : ProfitStore :=
  let users := if 0 < row.ownerCostQuota then
    creditWallets s.users row.ownerUserId (-row.ownerCostQuota) (-rewardUsed) else s.users
  let users := if 0 < row.profitQuota then creditWallets users row.ownerUserId row.profitQuota 0
    else users
  { s with
    users := users
    profits := row :: s.profits }

def hasProfit (requestId : String) : Bool := requestId ∈ s.profits.map ProviderProfit.requestId

end ProfitStore

open ProfitStore

/-! ## Profits -/

namespace ProviderProfit

variable (record : ProviderProfit) (reads : ProfitReads)

/-- A level of the rebates on a profit: together they do not exceed it. A key that
    is taken fails the transaction. -/
def applyLevel (pricing : RebatePricing) (level receiverId : ℤ) (ratio : ℚ) (s : ProfitStore)
    (total : ℤ) :
    Except ProfitError (ProfitStore × ℤ) :=
  let rebateQuota := intPart (record.profitQuota * ratio / 100)
  if receiverId ≤ 0 ∨ ratio ≤ 0 ∨ record.profitQuota - total ≤ 0 ∨
    rebateQuota ≤ 0 then .ok (s, total)
  else match reads.receiver level with
  | none => .error .recordNotFound
  | some providerId =>
    let row : ConsumeRebate :=
      { providerId := providerId
        inviterId := receiverId
        inviteeId := record.providerUserId
        requestId := record.requestId
        level := level
        sourceQuota := record.profitQuota
        rebateRatio := ratio
        rebateQuota := min rebateQuota (record.profitQuota - total)
        providerPricingId := pricing.id
        publicModelName := pricing.publicModelName
        baseModelName := pricing.baseModelName
        createdAt := reads.now }
    match s.insertRebate row with
    | none => .error .duplicateKey
    | some s => .ok (s, total + row.rebateQuota)

def level2Ratio : ℚ := 0

/-- The rebates on a profit, and what they amount to. -/
def applyProviderProfitRebatesTx (s : ProfitStore) : Except ProfitError (ProfitStore × ℤ) :=
  if record.profitQuota ≤ 0 ∨ record.providerId ≤ 0 ∨ record.providerUserId ≤ 0 ∨
    record.requestId = "" then
    .ok (s, 0)
  else match reads.invitee, reads.pricing, reads.inviter with
  | some invitee, some pricing, some inviter =>
    if invitee.inviterId ≤ 0 ∨ (pricing.consumeRebateRatioLevel1 ≤ 0 ∧ level2Ratio ≤ 0) ∨
        inviter.inviteConsumeRebateEnabled ≠ 1 then .ok (s, 0)
    else do
      let (s, total) ← record.applyLevel reads pricing 1 invitee.inviterId
        pricing.consumeRebateRatioLevel1 s 0
      if 0 < inviter.inviterId ∧ 0 < level2Ratio then
        match reads.inviter2 with
        | some inviter2 =>
          if inviter2.inviteConsumeRebateEnabled ≠ 1 then .ok (s, total)
          else record.applyLevel reads pricing 2 inviter.inviterId level2Ratio s total
        | none => .ok (s, total)
      else .ok (s, total)
  | _, _, _ => .ok (s, 0)

/-- The row when the rebate is taken off the profit. -/
def settled (rebateQuota : ℤ) : ProviderProfit :=
  let profitQuota := max (record.profitQuota - rebateQuota) 0
  { record with
    grossProfitQuota := record.profitQuota
    rebateQuota := rebateQuota
    profitQuota := profitQuota
    profitSettled := 0 < profitQuota
    ownerCostSettled := 0 < record.ownerCostQuota
    createdAt := if record.createdAt = 0 then reads.now else record.createdAt }

/-- The part of the cost that is taken from the reward of the owner, who needs the
    quota for it. -/
def ownerRewardUsed : Except ProfitError ℤ :=
  if 0 < record.ownerCostQuota then
    match reads.owner with
    | none => .error .recordNotFound
    | some owner =>
      if owner.quota < record.ownerCostQuota then .error
        (.ownerQuotaNotEnough owner.quota record.ownerCostQuota)
      else .ok (min (max (min owner.rewardQuota owner.quota) 0) record.ownerCostQuota)
  else .ok 0

/-- There is something to book. -/
def Applicable : Prop :=
  0 < record.providerId ∧ 0 < record.ownerUserId ∧ 0 < record.providerUserId ∧
    record.requestId ≠ "" ∧
    (0 < record.profitQuota ∨ 0 < record.ownerCostQuota)

instance : Decidable record.Applicable := inferInstanceAs (Decidable (_ ∧ _))

/-- The transaction of `ApplyProviderProfit`, once it has found no row of the
    request. -/
def applyProviderProfit (s : ProfitStore) : Except ProfitError ProfitStore := do
  let (s, rebateQuota) ← record.applyProviderProfitRebatesTx reads s
  require (¬s.hasProfit record.requestId) .duplicateKey
  let rewardUsed ← record.ownerRewardUsed reads
  .ok (s.insertProfit (record.settled reads rebateQuota) rewardUsed)

end ProviderProfit

/-! ## Rebates -/

/-- The model that a rebate is for. -/
structure ConsumeRebateContext where
  (providerId providerPricingId : ℤ)
  (publicModelName baseModelName : String)

/-- A call of `ApplyInviteConsumeRebate`. The id of the request is a new one where
    none is given. -/
structure RebateCall where
  inviteeId : ℤ
  requestId : String
  paidQuota : ℤ
  context : Option ConsumeRebateContext

namespace RebateCall

variable (call : RebateCall) (reads : ProfitReads)

def siteProviderId : ℤ :=
  match call.context with
  | some context => if context.providerId ≤ 0 then 0 else context.providerId
  | none => 0

/-- The price that the ratio is of: on the main site there is none, but the setting. -/
def rebatePricing : Option RebatePricing :=
  if call.siteProviderId = 0 then
    some
      { id := 0
        publicModelName := (call.context.map ConsumeRebateContext.publicModelName).getD ""
        baseModelName := (call.context.map ConsumeRebateContext.baseModelName).getD ""
        consumeRebateRatioLevel1 := reads.inviteTopupRebateRatio }
  else reads.pricing

/-- A level of the rebates on what was paid. A key that is taken is passed over. -/
def applyLevel (pricing : RebatePricing) (level receiverId : ℤ) (ratio : ℚ) (s : ProfitStore) :
    Except ProfitError ProfitStore :=
  let rebateQuota := intPart (call.paidQuota * ratio / 100)
  if receiverId ≤ 0 ∨ ratio ≤ 0 ∨ rebateQuota ≤ 0 then .ok s
  else match reads.receiver level with
  | none => .error .recordNotFound
  | some providerId =>
    if providerId ≠ call.siteProviderId then .ok s
    else
      .ok <| (s.insertRebate
        { providerId := providerId
          inviterId := receiverId
          inviteeId := call.inviteeId
          requestId := call.requestId
          level := level
          sourceQuota := call.paidQuota
          rebateRatio := ratio
          rebateQuota := rebateQuota
          providerPricingId := pricing.id
          publicModelName := pricing.publicModelName
          baseModelName := pricing.baseModelName
          createdAt := reads.now }).getD s

/-- An inviter is one of the site and, but on the main one, entitled to rebates. -/
def Entitled (inviter : InviteUserRef) : Prop :=
  inviter.providerId = call.siteProviderId ∧
    (call.siteProviderId = 0 ∨ inviter.inviteConsumeRebateEnabled = 1)

instance (inviter : InviteUserRef) : Decidable (call.Entitled inviter) :=
  inferInstanceAs (Decidable (_ ∧ _))

/-- The second level has no ratio. -/
def level2Ratio : ℚ := 0

def applyInviteConsumeRebate (s : ProfitStore) : Except ProfitError ProfitStore :=
  if call.inviteeId ≤ 0 ∨ call.paidQuota ≤ 0 then .ok s
  else match reads.invitee, call.rebatePricing reads, reads.inviter with
  | some invitee, some pricing, some inviter =>
    if invitee.providerId ≠ call.siteProviderId ∨ invitee.inviterId ≤ 0 ∨
        (pricing.consumeRebateRatioLevel1 ≤ 0 ∧ level2Ratio ≤ 0) ∨ ¬call.Entitled inviter then .ok s
    else do
      let s ← call.applyLevel reads pricing 1 invitee.inviterId pricing.consumeRebateRatioLevel1 s
      if 0 < inviter.inviterId ∧ 0 < level2Ratio then
        match reads.inviter2 with
        | some inviter2 =>
          if ¬call.Entitled inviter2 then .ok s
          else call.applyLevel reads pricing 2 inviter.inviterId level2Ratio s
        | none => .ok s
      else .ok s
  | _, _, _ => .ok s

end RebateCall

/-! ## What is booked -/

/-- What the row says that the balance of a user has moved by. -/
def ProviderProfit.effectOn (row : ProviderProfit) (userId : ℤ) : ℤ :=
  if row.ownerUserId = userId then max row.profitQuota 0 - max row.ownerCostQuota 0 else 0

def ConsumeRebate.effectOn (row : ConsumeRebate) (userId : ℤ) : ℤ :=
  if row.inviterId = userId then row.rebateQuota else 0

/-- The balance of a user after it moved by `change`. -/
def BalancesMoved (users users' : ℤ → Option UserWallet) (change : ℤ → ℤ) : Prop :=
  ∀ id, (users' id).map quota = (users id).map (·.quota + change id)

lemma BalancesMoved.refl (users : ℤ → Option UserWallet) :
    BalancesMoved users users fun _ => 0 := by
  intro id
  simp

lemma BalancesMoved.congr {users users' : ℤ → Option UserWallet} {change change' : ℤ → ℤ}
    (h : BalancesMoved users users' change) (heq : ∀ id, change id = change' id) :
      BalancesMoved users users' change' :=
  funext heq ▸ h

lemma BalancesMoved.trans {users users' users'' : ℤ → Option UserWallet} {change change' : ℤ → ℤ}
    (h : BalancesMoved users users' change) (h' : BalancesMoved users' users'' change') :
    BalancesMoved users users'' fun id => change id + change' id := by
  intro id
  have hid := h id
  rw [h' id]
  cases hu : users id with
  | none =>
    rw [hu] at hid
    simp only [map_none, map_eq_none_iff] at hid
    simp [hid]
  | some wallet =>
    rw [hu] at hid
    obtain ⟨wallet', hwallet', hquota⟩ := map_eq_some_iff.1 hid
    simp [hwallet', hquota, add_assoc]

lemma moved_creditWallets (users : ℤ → Option UserWallet) (userId quota reward : ℤ) :
    BalancesMoved users (creditWallets users userId quota reward) fun id =>
      if id = userId then quota else 0 := by
  intro id
  unfold creditWallets
  by_cases hid : id = userId
  · cases users id <;> simp [increase, hid]
  · simp [hid]

/-- The store has the rows `profits` and `rebates` in addition, each with a key of its
    own, and the balances have moved by what these rows say. -/
structure ProfitStore.BooksRows (s s' : ProfitStore) (profits : List ProviderProfit)
    (rebates : List ConsumeRebate) :
    Prop where
  profits_eq : s'.profits = profits ++ s.profits
  rebates_eq : s'.rebates = rebates ++ s.rebates
  level_eq : ∀ row ∈ rebates, row.level = 1
  indexed : s.Indexed → s'.Indexed
  moved : BalancesMoved s.users s'.users fun id =>
    (profits.map (·.effectOn id)).sum + (rebates.map (·.effectOn id)).sum

/-- Rows were added, and the users have what those say. -/
def ProfitStore.Books (s s' : ProfitStore) : Prop :=
  ∃ profits rebates, s.BooksRows s' profits rebates

namespace ProfitStore

variable {s s' s'' : ProfitStore}

lemma Books.refl (s : ProfitStore) : s.Books s :=
  ⟨[], [], rfl, rfl, by simp, id, BalancesMoved.refl _⟩

lemma Books.trans (h : s.Books s') (h' : s'.Books s'') : s.Books s'' := by
  obtain ⟨profits, rebates, h⟩ := h
  obtain ⟨profits', rebates', h'⟩ := h'
  refine ⟨profits' ++ profits, rebates' ++ rebates, ?_, ?_, ?_, h'.indexed ∘ h.indexed, ?_⟩
  · rw [h'.profits_eq, h.profits_eq, append_assoc]
  · rw [h'.rebates_eq, h.rebates_eq, append_assoc]
  · intro row hrow
    rcases mem_append.1 hrow with hrow | hrow
    · exact h'.level_eq row hrow
    · exact h.level_eq row hrow
  · refine (h.moved.trans h'.moved).congr fun id => ?_
    simp only [map_append, sum_append]
    ring

lemma books_insertRebate {row : ConsumeRebate} (hlevel : row.level = 1)
    (h : s.insertRebate row = some s') :
    s.Books s' := by
  unfold insertRebate at h
  split_ifs at h with hkey
  cases h
  refine ⟨[], [row], rfl, rfl, by simpa using hlevel, fun hs => ⟨hs.profits, ?_⟩, ?_⟩
  · exact nodup_cons.2 ⟨hkey, hs.rebates⟩
  · refine (moved_creditWallets s.users row.inviterId row.rebateQuota row.rebateQuota).congr
      fun id => ?_
    simp [ConsumeRebate.effectOn, eq_comm]

lemma books_insertProfit {row : ProviderProfit} (hnew : s.hasProfit row.requestId = false)
    (rewardUsed : ℤ) :
    s.Books (s.insertProfit row rewardUsed) := by
  refine ⟨[row], [], rfl, rfl, by simp, fun hs => ⟨?_, hs.rebates⟩, ?_⟩
  · exact nodup_cons.2 ⟨by simpa [hasProfit] using hnew, hs.profits⟩
  · have hcredit (users : ℤ → Option UserWallet) (n quota reward : ℤ) : BalancesMoved users
        (if 0 < n then creditWallets users row.ownerUserId quota reward else users)
        fun id => if 0 < n ∧ id = row.ownerUserId then quota else 0 := by
      split_ifs with hpos
      · simpa [hpos] using moved_creditWallets users row.ownerUserId quota reward
      · simpa [hpos] using BalancesMoved.refl users
    refine ((hcredit s.users _ _ (-rewardUsed)).trans
      (hcredit _ row.profitQuota row.profitQuota 0)).congr fun id => ?_
    by_cases hid : id = row.ownerUserId
    · simp only [ProviderProfit.effectOn, hid, and_true, map_cons, map_nil, sum_cons,
        sum_nil, if_true]
      split_ifs <;> omega
    · simp [ProviderProfit.effectOn, hid, Ne.symm hid]

lemma hasProfit_of_books {requestId : String} (h : s.Books s') (hrow : s.hasProfit requestId) :
    s'.hasProfit requestId := by
  obtain ⟨profits, _, h⟩ := h
  simp only [hasProfit, h.profits_eq, map_append, mem_append, decide_eq_true_eq] at hrow ⊢
  exact .inr hrow

end ProfitStore

namespace ProviderProfit

variable {record : ProviderProfit} {reads : ProfitReads} {s s' : ProfitStore} {total total' : ℤ}

lemma books_applyLevel {pricing : RebatePricing} {receiverId : ℤ} {ratio : ℚ}
    (h : record.applyLevel reads pricing 1 receiverId ratio s total = .ok (s', total')) :
      s.Books s' := by
  simp only [applyLevel] at h
  split_ifs at h
  · cases h
    exact .refl s
  · split at h
    · cases h
    · split at h
      · cases h
      · rename_i hinsert
        cases h
        exact books_insertRebate rfl hinsert

lemma books_applyProviderProfitRebatesTx
    (h : record.applyProviderProfitRebatesTx reads s = .ok (s', total)) :
    s.Books s' := by
  have hnoSecond {n : ℤ} : ¬(0 < n ∧ 0 < level2Ratio) := fun hboth => lt_irrefl _ hboth.2
  unfold applyProviderProfitRebatesTx at h
  split_ifs at h
  · cases h
    exact .refl s
  · split at h
    · split at h
      · cases h
        exact .refl s
      · obtain ⟨⟨s₁, total₁⟩, hlevel, h⟩ := bind_eq_ok.1 h
        dsimp only at h
        rw [if_neg hnoSecond] at h
        cases h
        exact books_applyLevel hlevel
    · cases h
      exact .refl s

/-- The transaction of a profit books what it records, a row of the request among it. -/
lemma books_applyProviderProfit (h : record.applyProviderProfit reads s = .ok s') :
    s.Books s' ∧ s'.hasProfit record.requestId := by
  obtain ⟨⟨s₁, rebateQuota⟩, hrebates, h⟩ := bind_eq_ok.1 h
  obtain ⟨hnew, h⟩ := require_bind_eq_ok.1 h
  obtain ⟨rewardUsed, -, h⟩ := bind_eq_ok.1 h
  cases h
  refine ⟨(books_applyProviderProfitRebatesTx hrebates).trans (books_insertProfit ?_ rewardUsed),
    ?_⟩
  · exact Bool.eq_false_iff.2 hnew
  · simp [hasProfit, insertProfit, settled]

end ProviderProfit

namespace RebateCall

variable {call : RebateCall} {reads : ProfitReads} {s s' : ProfitStore}

lemma books_applyLevel {pricing : RebatePricing} {receiverId : ℤ} {ratio : ℚ}
    (h : call.applyLevel reads pricing 1 receiverId ratio s = .ok s') : s.Books s' := by
  simp only [applyLevel] at h
  split_ifs at h
  · cases h
    exact .refl s
  · split at h
    · cases h
    · split_ifs at h
      · cases h
        exact .refl s
      · cases h
        cases hinsert : s.insertRebate _ with
        | none => exact .refl s
        | some s₁ => exact books_insertRebate rfl hinsert

lemma books_applyInviteConsumeRebate (h : call.applyInviteConsumeRebate reads s = .ok s') :
    s.Books s' := by
  have hnoSecond {n : ℤ} : ¬(0 < n ∧ 0 < level2Ratio) := fun hboth => lt_irrefl _ hboth.2
  unfold applyInviteConsumeRebate at h
  split_ifs at h
  · cases h
    exact .refl s
  · split at h
    · split at h
      · cases h
        exact .refl s
      · obtain ⟨s₁, hlevel, h⟩ := bind_eq_ok.1 h
        rw [if_neg hnoSecond] at h
        cases h
        exact books_applyLevel hlevel
    · cases h
      exact .refl s

end RebateCall

/-! ## Transactions side by side -/

/-- The store, and the requests whose calls of `ApplyProviderProfit` have
    succeeded. -/
structure ProfitState where
  store : ProfitStore
  served : List String

/-- A call under way. -/
inductive ProfitThread
  | profit (record : ProviderProfit)
  /-- It has looked for the row of the request. -/
  | checked (record : ProviderProfit) (found : Bool)
  | rebate (call : RebateCall)

/-- A call begins its transaction; one with nothing to apply does not. -/
inductive ProfitStart (s : ProfitState) : ProfitState → Option ProfitThread → Prop
  | profit {record : ProviderProfit} : record.Applicable → ProfitStart s s (some (.profit record))
  | nothing : ProfitStart s s none
  | rebate (call : RebateCall) : ProfitStart s s (some (.rebate call))

/-- A transaction goes on, whatever its reads return, or fails without effect. -/
inductive ProfitMove (s : ProfitState) : ProfitThread → ProfitState → Option ProfitThread → Prop
  | check (record : ProviderProfit) :
      ProfitMove s (.profit record) s (some (.checked record (s.store.hasProfit record.requestId)))
  | found (record : ProviderProfit) :
      ProfitMove s (.checked record true) { s with served := record.requestId :: s.served } none
  | apply {record : ProviderProfit} (reads : ProfitReads) {store : ProfitStore} :
      record.applyProviderProfit reads s.store = .ok store →
        ProfitMove s (.checked record false) ⟨store, record.requestId :: s.served⟩ none
  | rebate {call : RebateCall} (reads : ProfitReads) {store : ProfitStore} :
      call.applyInviteConsumeRebate reads s.store = .ok store →
        ProfitMove s (.rebate call) { s with store := store } none
  | fail (thread : ProfitThread) : ProfitMove s thread s none

abbrev ProfitRun : Pool ProfitState ProfitThread → Pool ProfitState ProfitThread →
    Prop := Run ProfitStart ProfitMove

/-- What an open transaction has found is there. -/
def ProfitThread.Current (s : ProfitState) : ProfitThread → Prop
  | .checked record true => s.store.hasProfit record.requestId
  | _ => True

/-- The store follows from `start`, and the requests that were served have a row. -/
structure ProfitState.Booked (start : ProfitStore) (s : ProfitState) : Prop where
  books : start.Books s.store
  served : ∀ requestId ∈ s.served, s.store.hasProfit requestId

variable {thread : ProfitThread}

lemma ProfitThread.Current.books {s s' : ProfitState} (h : thread.Current s)
    (hbooks : s.store.Books s'.store) : thread.Current s' := by
  match thread, h with
  | .checked record true, h => exact hasProfit_of_books hbooks h
  | .checked record false, _ => trivial
  | .profit record, _ => trivial
  | .rebate call, _ => trivial

lemma ProfitMove.books {s s' : ProfitState} {o : Option ProfitThread}
    (hcurrent : thread.Current s) (h : ProfitMove s thread s' o) : s.store.Books s'.store ∧
      (∀ requestId ∈ s'.served, requestId ∈ s.served ∨ s'.store.hasProfit requestId) ∧
        ∀ t ∈ o, t.Current s' := by
  cases h with
  | check record =>
    refine ⟨.refl _, fun _ h => .inl h, fun t ht => ?_⟩
    obtain rfl := mem_some_iff.1 ht
    cases hfound : s.store.hasProfit record.requestId with
    | true => exact hfound
    | false => trivial
  | found record =>
    refine ⟨.refl _, fun requestId h => ?_, by simp⟩
    rcases mem_cons.1 h with rfl | h
    · exact .inr hcurrent
    · exact .inl h
  | apply reads happly =>
    obtain ⟨hbooks, hrow⟩ := ProviderProfit.books_applyProviderProfit happly
    refine ⟨hbooks, fun requestId h => ?_, by simp⟩
    rcases mem_cons.1 h with rfl | h
    · exact .inr hrow
    · exact .inl h
  | rebate reads happly => exact ⟨RebateCall.books_applyInviteConsumeRebate happly, fun _ h =>
    .inl h, by simp⟩
  | fail => exact ⟨.refl _, fun _ h => .inl h, by simp⟩

lemma booked_of_run {start : ProfitStore} {p q : Pool ProfitState ProfitThread} (h : ProfitRun p q)
    (hp : p.shared.Booked start ∧ ∀ t ∈ p.threads, t.Current p.shared) :
    q.shared.Booked start ∧ ∀ t ∈ q.threads, t.Current q.shared := by
  refine Run.invariant (·.Booked start) (fun s t => t.Current s) (fun hs hc => ?_)
    (fun hs ht hm => ?_) h hp
  · cases hc with
    | nothing => exact ⟨hs, fun _ h => h, by simp⟩
    | profit | rebate => exact ⟨hs, fun _ h => h, fun t ht => mem_some_iff.1 ht ▸ trivial⟩
  · obtain ⟨hbooks, hserved, hnew⟩ := hm.books ht
    refine ⟨⟨hs.books.trans hbooks, fun requestId hid => ?_⟩, fun u hu => hu.books hbooks, hnew⟩
    rcases hserved requestId hid with hold | hrow
    · exact hasProfit_of_books hbooks (hs.served requestId hold)
    · exact hrow

/-- A request with a rebate of the first level gets no further ones. -/
lemma ProfitStore.Books.rebates_of_request {s s' : ProfitStore} (h : s.Books s') (hs : s.Indexed)
    {row : ConsumeRebate} (hrow : row ∈ s.rebates) (hlevel : row.level = 1) :
    s'.rebates.filter (·.requestId = row.requestId) =
      s.rebates.filter (·.requestId = row.requestId) := by
  obtain ⟨profits, rebates, h⟩ := h
  have hkeys := (h.indexed hs).rebates
  rw [h.rebates_eq, Table.Keyed, map_append, nodup_append] at hkeys
  rw [h.rebates_eq, filter_append]
  refine (congrArg (· ++ _) (filter_eq_nil_iff.2 fun new hnew hsame => ?_)).trans (nil_append _)
  have hkey : new.key = row.key :=
    Prod.ext (of_decide_eq_true hsame) ((h.level_eq new hnew).trans hlevel.symm)
  exact hkeys.2.2 _ (mem_map_of_mem hnew) _ (mem_map_of_mem hrow) hkey

namespace Resale

def record : ProviderProfit where
  providerId := 1
  ownerUserId := 10
  providerUserId := 20
  requestId := "request"
  publicModelName := "model"
  baseModelName := "model"
  providerUserQuota := 130
  baseCostQuota := 30
  paidQuota := 130
  coveredCostQuota := 0
  ownerCostQuota := 30
  profitQuota := 100

def reads : ProfitReads where
  invitee := some ⟨30, 1, 0⟩
  pricing := some ⟨5, "model", "model", 10⟩
  inviter := some ⟨0, 1, 1⟩
  receiver := fun _ => some 1
  inviter2 := none
  owner := some ⟨500, 0⟩
  inviteTopupRebateRatio := 0
  now := 1000

def store : ProfitStore where
  users := fun id => if id = 10 then some ⟨500, 0⟩ else if id = 30 then some ⟨0, 0⟩ else none
  profits := []
  rebates := []

def applied : ProfitStore := commit store (record.applyProviderProfit reads store)

lemma applyProviderProfit_record : record.applyProviderProfit reads store = .ok applied := by
  have hok : (record.applyProviderProfit reads store).isOk = true := by decide +kernel
  unfold applied
  cases hresult : record.applyProviderProfit reads store with
  | ok s => rfl
  | error e =>
    rw [hresult] at hok
    cases hok

lemma run_first :
    ProfitRun ⟨⟨store, []⟩, []⟩ ⟨⟨applied, ["request"]⟩, [.checked record false]⟩ := by
  have happlicable : record.Applicable := by decide
  have hbegin (ts : List ProfitThread) :
      Step ProfitStart ProfitMove ⟨⟨store, []⟩, ts⟩ ⟨⟨store, []⟩, .profit record :: ts⟩ :=
    Step.call ts (ProfitStart.profit happlicable)
  have hcheck (l r : List ProfitThread) : Step ProfitStart ProfitMove ⟨⟨store, []⟩,
    l ++ .profit record :: r⟩
        ⟨⟨store, []⟩, l ++ [.checked record false] ++ r⟩ :=
    Step.move l r (ProfitMove.check record)
  have happly : Step ProfitStart ProfitMove ⟨⟨store, []⟩,
    [.checked record false, .checked record false]⟩
      ⟨⟨applied, ["request"]⟩, [.checked record false]⟩ :=
    Step.move [] [.checked record false] (ProfitMove.apply reads applyProviderProfit_record)
  exact (((((Relation.ReflTransGen.single (hbegin [])).tail (hbegin _)).tail
    (hcheck [] [.profit record])).tail (hcheck [.checked record false] []))).tail happly

end Resale

/-- Along every run the rows are unique by request, the users have what the rows say, and a rebate
    that was booked is not booked again. -/
theorem profits_booked_once {start : ProfitStore} (hstart : start.Indexed)
    {p q : Pool ProfitState ProfitThread} (hp : ProfitRun ⟨⟨start, []⟩, []⟩ p)
    (hq : ProfitRun p q) :
    let s := q.shared.store
    s.Indexed ∧ (∃ profits rebates, s.profits = profits ++ start.profits ∧
      s.rebates = rebates ++ start.rebates ∧
        ∀ id wallet, start.users id = some wallet → ∃ wallet', s.users id = some wallet' ∧
          wallet'.quota = wallet.quota + (profits.map (·.effectOn id)).sum +
            (rebates.map (·.effectOn id)).sum) ∧
      (∀ requestId ∈ q.shared.served, ∃! row, row ∈ s.profits ∧ row.requestId = requestId) ∧
      ∀ requestId, (∀ row ∈ start.rebates, row.requestId ≠ requestId) →
        (∃ row ∈ p.shared.store.rebates, row.requestId = requestId) →
        s.rebates.filter (·.requestId = requestId) =
          p.shared.store.rebates.filter (·.requestId = requestId) := by
  obtain ⟨hbooked, hcurrent⟩ := booked_of_run hp ⟨⟨.refl start, by simp⟩, by simp⟩
  have hlast := (booked_of_run hq ⟨hbooked, hcurrent⟩).1
  obtain ⟨profits, rebates, hbooks⟩ := hlast.books
  have hs := hbooks.indexed hstart
  refine ⟨hs, ⟨profits, rebates, hbooks.profits_eq, hbooks.rebates_eq, fun id wallet hwallet => ?_⟩,
    fun requestId hid => ?_, ?_⟩
  · have hmoved := hbooks.moved id
    rw [hwallet] at hmoved
    obtain ⟨wallet', hwallet', hquota⟩ := map_eq_some_iff.1 hmoved
    exact ⟨wallet', hwallet', by rw [hquota, add_assoc]⟩
  · have hrow := hlast.served requestId hid
    simp only [hasProfit, decide_eq_true_eq] at hrow
    obtain ⟨row, hmem, hkey⟩ := mem_map.1 hrow
    exact ⟨row, ⟨hmem, hkey⟩, fun other hother =>
      hs.profits.eq_of_mem hother.1 hmem (hother.2.trans hkey.symm)⟩
  · rintro requestId hnone ⟨row, hrow, rfl⟩
    -- The row is one of the calls, so it is of the first level.
    obtain ⟨profits₀, rebates₀, hbooks₀⟩ := hbooked.books
    have hmem := hbooks₀.rebates_eq ▸ hrow
    have hlevel := hbooks₀.level_eq row ((mem_append.1 hmem).resolve_right fun h => hnone row h rfl)
    have hsince := (booked_of_run hq ⟨⟨.refl p.shared.store, hbooked.served⟩, hcurrent⟩).1.books
    exact hsince.rebates_of_request (hbooks₀.indexed hstart) hrow hlevel

/-- A second booking of a request is refused, and leaves the users as they are. -/
theorem profits_booked_once_resale :
    (Resale.record.applyProviderProfit Resale.reads Resale.applied).isOk = false ∧
      Resale.applied.users 10 = some ⟨560, 0⟩ ∧ Resale.applied.users 30 = some ⟨10, 10⟩ ∧
      ∃! row, row ∈ Resale.applied.profits ∧ row.requestId = "request" := by
  have hstart : Resale.store.Indexed := ⟨nodup_nil, nodup_nil⟩
  exact ⟨by decide +kernel, by decide +kernel, by decide +kernel,
    -- the second call fails at the index
    (profits_booked_once hstart Resale.run_first
      (.single (.move [] [] (.fail (.checked Resale.record false))))).2.2.1 "request" mem_cons_self⟩

end Allrouter
