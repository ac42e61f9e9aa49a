import Allrouter.Billing.Lifecycle
import Allrouter.Subscription.Settlement

/-!
# Charging a request that has succeeded

After a request has succeeded its charge is settled at what it cost
(`settleBilling`). Where the settlement fails, the session is refunded as a request
that has failed would be (`postTextConsumeQuota`).

The stores are the tables: the wallet of the user, the subscriptions and the records
of the requests, and the quota of the token (`Accounts`).

* `free_of_empty_wallet`: a request that cost more than was charged in advance, and
  more than the wallet has left, is free;
* `charged_iff`: at least the smaller one of cost and advance charge is taken
  exactly if the difference is covered.
-/

namespace Allrouter

open Civil Text FundingSource Worker UserWallet

/-! ## The operations on the tables -/

/-- What a request can be charged to. -/
structure Accounts where
  wallet : UserWallet
  db : Database
  /-- What is left of the quota of the token. -/
  tokenQuota : ℤ
  deriving DecidableEq

/-- Why a charge was refused. -/
inductive AccountsError
  | wallet (e : QuotaError)
  | subscription (e : Error)
  /-- "quota 不能为负数！" -/
  | negativeTokenQuota
  /-- "token quota is not enough, token remain quota: …, need quota: …" -/
  | tokenQuotaNotEnough (remain need : ℤ)
  deriving DecidableEq

namespace Accounts

variable (loc : Location) (now clock : ℤ)

def decreaseToken (x : Accounts) (quota : ℤ) : Except AccountsError Accounts :=
  if quota < 0 then .error .negativeTokenQuota
    else .ok { x with tokenQuota := x.tokenQuota - quota }

def increaseToken (x : Accounts) (quota : ℤ) : Except AccountsError Accounts :=
  if quota < 0 then .error .negativeTokenQuota
    else .ok { x with tokenQuota := x.tokenQuota + quota }

def onSubscriptions (x : Accounts) (result : Except Error Database) :
    Except AccountsError Accounts :=
  match result with
  | .error e => .error (.subscription e)
  | .ok db => .ok { x with db := db }

/-- The accounts as the stores of a session. -/
def stores : BillingStores Accounts AccountsError where
  decreaseUserQuotaPreferReward x quota :=
    match Allrouter.decreaseUserQuotaPreferReward x.wallet quota with
    | .error e => .error (.wallet e)
    | .ok (b, wallet) => .ok (b, { x with wallet := wallet })
  increaseUserQuotaByBreakdown x total reward :=
    match Allrouter.increaseUserQuotaByBreakdown x.wallet total reward with
    | .error e => .error (.wallet e)
    | .ok wallet => .ok { x with wallet := wallet }
  increaseUserQuota x quota :=
    match Allrouter.increaseUserQuota x.wallet quota with
    | .error e => .error (.wallet e)
    | .ok wallet => .ok { x with wallet := wallet }
  preConsumeUserSubscription x request :=
    match Allrouter.preConsumeUserSubscription loc x.db request now clock with
    | .error e => .error (.subscription e)
    | .ok (db, result) => .ok ({ x with db := db }, result)
  settleSubscriptionPreConsume x requestId actualAmount :=
    x.onSubscriptions (Allrouter.settleSubscriptionPreConsume loc x.db requestId actualAmount now)
  refundSubscriptionPreConsume x requestId :=
    x.onSubscriptions (Allrouter.refundSubscriptionPreConsume loc x.db requestId now)
  adjustSubscriptionPreConsume x requestId delta :=
    x.onSubscriptions (Allrouter.adjustSubscriptionPreConsume loc x.db requestId delta now)
  postConsumeUserSubscriptionDelta x userSubscriptionId delta :=
    x.onSubscriptions (Allrouter.postConsumeUserSubscriptionDelta x.db userSubscriptionId delta)
  preConsumeTokenQuota x unlimited quota :=
    if !unlimited && x.tokenQuota < quota then .error (.tokenQuotaNotEnough x.tokenQuota quota)
    else x.decreaseToken quota
  decreaseTokenQuota := decreaseToken
  increaseTokenQuota := increaseToken
  tokenFound _ := true

end Accounts

open Accounts

/-! ## The settlement, and what follows where it fails -/

section

variable {σ ε : Type*} (stores : BillingStores σ ε)

/-- Settles a request. On a subscription a cost of zero counts as unknown, and the advance
    charge is kept. -/
def settleBilling (s : BillingSession) (x : σ) (actualQuota : ℤ) : Outcome σ ε :=
  let keeps := s.funding.isSubscription && s.preConsumedQuota > 0 && actualQuota = 0
  s.settle stores x (if keeps then s.preConsumedQuota else actualQuota)

def Worker.run : ℕ → BillingSession → σ → Option Worker → BillingSession × σ
  | 0, s, x, _ => (s, x)
  | _ + 1, s, x, none => (s, x)
  | n + 1, s, x, some w =>
    let ((s, x), o) := w.next stores s x
    run n s x o

/-- Charges a request that has cost `quota`. A worker is done after five steps. -/
def postTextConsumeQuota (s : BillingSession) (x : σ) (quota : ℤ) : BillingSession × σ :=
  let r := settleBilling stores s x quota
  match r.error with
  | none => (r.session, r.store)
  | some _ =>
    if r.session.needsRefund then
      let (session, worker) := r.session.refund
      run stores 5 session r.store worker
    else (r.session, r.store)

end

/-- What the funding source has lost between two states of the tables: the balance of
    the wallet, or the room that the record of the request takes up. -/
def FundingSource.lost (before after : Accounts) : FundingSource → ℤ
  | .wallet _ => before.wallet.quota - after.wallet.quota
  | .subscription f => after.db.effectiveAmount f.requestId - before.db.effectiveAmount f.requestId

/-- A session as charging `P` in advance has left it. -/
structure Precharged (P : ℤ) (s : BillingSession) : Prop where
  initialized : s.quotaStateInitialized = true
  took : s.funding.Took P
  preConsumedQuota : s.preConsumedQuota = P
  fundingQuota : s.fundingQuota = P
  tokenConsumed : s.tokenConsumed = s.tokenQuota
  tokenQuota : 0 ≤ s.tokenQuota
  noRefund : s.NoRefund
  noRollback : s.NoRollback
  settled : s.settled = false
  refunded : s.refunded = false

/-! ## Running to the end -/

/-- The two tables that pay for requests are the same. -/
def Accounts.SameFunds (x y : Accounts) : Prop := x.wallet = y.wallet ∧ x.db = y.db

/-- What moving the funding side does: nothing where it is there already. -/
def FundingSource.move {σ ε : Type*} (stores : BillingStores σ ε) (f : FundingSource) (x : σ)
    (delta : ℤ) :
    Except ε (FundingSource × σ) :=
  if delta ≠ 0 then f.settle stores x delta else .ok (f, x)

section

variable {loc : Location} {now clock P a : ℤ} {s : BillingSession} {x y : Accounts}
  {f : FundingSource} {e : AccountsError}

lemma adjustFunding_eq (hquota : s.fundingQuota = P) : s.adjustFunding (stores loc now clock) x a =
    (s.funding.move (stores loc now clock) x (a - P)).map fun (f, y) =>
      ({ s with funding := f, fundingQuota := a }, y) := by
  subst hquota
  rw [BillingSession.adjustFunding, move]
  split_ifs with hdelta
  · rfl
  · obtain rfl : a = s.fundingQuota := by omega
    rfl

/-- The token can always be moved, and moving it leaves the funds alone. -/
lemma adjustToken_sameFunds (loc : Location) (now clock : ℤ) (s : BillingSession)
    (x : Accounts) (a : ℤ) :
    ∃ s₁ y, s.adjustToken (stores loc now clock) x a = .ok (s₁, y) ∧ y.SameFunds x := by
  rw [BillingSession.adjustToken]
  split_ifs with hrequired
  · rw [BillingSession.adjustTokenQuota]
    split_ifs with h₀ hpos
    · exact ⟨_, _, rfl, rfl, rfl⟩
    · simp only [stores, decreaseToken, if_neg hpos.not_gt]
      exact ⟨_, _, rfl, rfl, rfl⟩
    · simp only [stores, increaseToken]
      rw [if_neg (by omega)]
      exact ⟨_, _, rfl, rfl, rfl⟩
  · exact ⟨_, _, rfl, rfl, rfl⟩

lemma settleBilling_of_precharged {σ ε : Type*} (stores : BillingStores σ ε) (hs : Precharged P s)
    (ha : 0 < a) (x : σ) : ∃ s₀ r, Precharged P s₀ ∧ s₀.funding = s.funding ∧
      r = s₀.applyTarget stores x a ∧
      settleBilling stores s x a =
        { r with session := { r.session with settled := r.error.isNone ||
          r.session.settled } } := by
  rw [settleBilling, if_neg (by simp [ha.ne'])]
  obtain ⟨r, hr, hsettle⟩ :=
    BillingSession.settle_of_open stores hs.noRefund.1 hs.settled hs.noRollback.1 hs.refunded x a
  exact ⟨{ s with progressPending := false }, r, { hs with }, rfl, hr, hsettle⟩

lemma run_sameFunds {w : Worker} (hundo : w.undo = .refund) (hstage : w.stage = .funding)
    (hdone : w.fundingDone = false) (h : s.funding.refund (stores loc now clock) x = .ok y) :
    (run (stores loc now clock) 5 s x (some w)).2.SameFunds y := by
  simp only [run, next, hstage, hdone, h, hundo, Bool.false_eq_true, if_false]
  cases hreturns : returnsToken { w with stage := .token } (s.markFunding .refund) with
  | false =>
    simp only [returnsToken] at hreturns ⊢
    simp only [hreturns]
    exact ⟨rfl, rfl⟩
  | true =>
    have hpos : 0 < w.tokenAmount := by
      simp only [returnsToken, Bool.and_eq_true, decide_eq_true_eq] at hreturns
      exact hreturns.1.2
    simp only [returnsToken] at hreturns ⊢
    simp only [hreturns, stores, increaseToken, if_neg hpos.not_gt]
    exact ⟨rfl, rfl⟩

lemma Precharged.refund (hs : Precharged P s) (hP : 0 < P) :
    s.needsRefund = true ∧ ∃ s' w, s.refund = (s', some w) ∧ s'.funding = s.funding ∧
      w.undo = .refund ∧ w.stage = .funding ∧ w.fundingDone = false := by
  have hneeds : s.needsRefund = true := by
    have htook := hs.took
    rw [BillingSession.needsRefund, hs.settled, hs.refunded]
    cases hf : s.funding with
    | wallet w =>
      rw [hf] at htook
      simp [hs.noRefund.2.2.1, refundable, htook.1, hP]
    | subscription f =>
      rw [hf] at htook
      simp [hs.noRefund.2.2.1, refundable, htook.2.1]
  refine ⟨hneeds, ?_⟩
  rw [BillingSession.refund, if_neg (by simp [hs.settled, hs.refunded, hs.noRefund.2.1, hneeds]),
    BillingSession.initializeQuotaState, if_pos hs.initialized]
  exact ⟨_, _, rfl, rfl, rfl, rfl, hs.noRefund.2.2.1⟩

/-- Where the funding side can be moved, that is all that happens to the funds; where it cannot,
    everything is given back. -/
lemma postTextConsumeQuota_sameFunds (hs : Precharged P s) (hP : 0 < P) (ha : 0 < a)
    (h : (∃ f, s.funding.move (stores loc now clock) x (a - P) = .ok (f, y)) ∨
      (∃ e, s.funding.move (stores loc now clock) x (a - P) = .error e) ∧
        s.funding.refund (stores loc now clock) x = .ok y) :
    (postTextConsumeQuota (stores loc now clock) s x a).2.SameFunds y := by
  obtain ⟨s₀, r, hs₀, hfunding, hr, hsettle⟩ :=
    settleBilling_of_precharged (stores loc now clock) hs ha x
  rw [← hfunding] at h
  rcases BillingSession.applyTarget_cases (stores loc now clock) hs₀.initialized x a with
    ⟨hneg, -⟩ | ⟨-, e, herror, htarget⟩ | ⟨-, s₁, y₁, hok, htoken⟩
  · exact absurd ha hneg.not_gt
  · rw [adjustFunding_eq hs₀.fundingQuota] at herror
    obtain ⟨f, hmove⟩ | ⟨-, hrefund⟩ := h
    · rw [hmove] at herror
      cases herror
    obtain ⟨hneeds, s₁, w, hstart, hsource, hundo, hstage, hdone⟩ := hs₀.refund hP
    have hfailed : settleBilling (stores loc now clock) s x a = ⟨some (.store e), s₀, x⟩ := by
      rw [hsettle, hr, htarget]
      rfl
    rw [postTextConsumeQuota, hfailed]
    simp only [hneeds, hstart]
    exact run_sameFunds hundo hstage hdone (hsource ▸ hrefund)
  · rw [adjustFunding_eq hs₀.fundingQuota] at hok
    obtain ⟨f, hmove⟩ | ⟨⟨e, hmove⟩, -⟩ := h
    · rw [hmove] at hok
      obtain ⟨-, rfl⟩ := Prod.mk.inj (Except.ok.inj hok)
      obtain ⟨s₂, z, hadjust, hsame⟩ := adjustToken_sameFunds loc now clock s₁ y a
      rcases htoken with ⟨e, herror, -⟩ | ⟨s₃, z', hadjust', htarget⟩
      · rw [hadjust] at herror
        cases herror
      · rw [hadjust] at hadjust'
        cases hadjust'
        rw [postTextConsumeQuota, hsettle, hr, htarget]
        exact hsame
    · rw [hmove] at hok
      cases hok

lemma FundingSource.lost_congr {z : Accounts} (h : z.SameFunds y) (f : FundingSource) :
    f.lost x z = f.lost x y := by
  cases f <;> simp only [lost, h.1, h.2]

/-! ## The wallet -/

variable {w : WalletFunding}

/-- A wallet that covers the difference pays it, and takes back what was charged too much. -/
lemma wallet_move_eq_ok (htook : (wallet w).Took P) (ha : 0 < a)
    (hcovers : a ≤ P ∨ a - P ≤ x.wallet.quota) :
    ∃ f y, (wallet w).move (stores loc now clock) x (a - P) = .ok (f, y) ∧
      y.wallet.quota = x.wallet.quota - (a - P) := by
  rw [move]
  split_ifs with hdelta
  · rw [settle, WalletFunding.settle, if_neg hdelta]
    split_ifs with hpos
    · have hle : ¬ x.wallet.quota < a - P := by omega
      simp only [stores, decreaseUserQuotaPreferReward, if_neg (show ¬ a - P < 0 by omega),
        if_neg hdelta, checkDecrease, if_neg hle]
      exact ⟨_, _, rfl, rfl⟩
    · obtain ⟨paid, reward, hparts, hpaid, hreward, hsum, -, -⟩ :=
        WalletFunding.refundParts_spec htook (show 0 ≤ -(a - P) by omega) (by omega)
      simp only [hparts, stores, increaseUserQuotaByBreakdown]
      rw [if_neg (by omega), if_neg (by omega), if_neg (by omega)]
      refine ⟨_, _, rfl, ?_⟩
      simp only [increase]
      omega
  · exact ⟨_, _, rfl, by omega⟩

lemma wallet_move_eq_error (hcovers : ¬ (a ≤ P ∨ a - P ≤ x.wallet.quota)) :
    ∃ e, (wallet w).move (stores loc now clock) x (a - P) = .error e := by
  have hlt : x.wallet.quota < a - P := by omega
  have hpos : 0 < a - P := by omega
  rw [move, if_pos hpos.ne', settle, WalletFunding.settle, if_pos hpos]
  simp only [stores, decreaseUserQuotaPreferReward, if_neg hpos.not_gt, if_neg hpos.ne',
    checkDecrease, if_pos hlt]
  exact ⟨_, rfl⟩

lemma wallet_refund_eq_ok (htook : (wallet w).Took P) (hP : 0 < P) :
    ∃ y, (wallet w).refund (stores loc now clock) x = .ok y ∧
      y.wallet.quota = x.wallet.quota + P := by
  obtain ⟨rfl, hsum, hreward, hpaid⟩ := htook
  rw [refund, WalletFunding.refund, if_neg (not_le.2 hP)]
  simp only [stores, increaseUserQuotaByBreakdown]
  rw [if_neg (by omega), if_neg (by omega), if_neg hP.ne']
  exact ⟨_, rfl, rfl⟩

/-! ## Subscriptions -/

variable {g : SubscriptionFunding} {record : SubscriptionPreConsumeRecord} {sub : UserSubscription}
  {plan : Option SubscriptionPlan}

lemma subscription_move_eq (htook : (subscription g).Took P) (ha : 0 < a) (hne : a ≠ P) :
    (subscription g).move (stores loc now clock) x (a - P) =
      (x.onSubscriptions (settleSubscriptionPreConsume loc x.db g.requestId a now)).map fun y =>
        (.subscription { g with currentAmount := a, currentAmountInitialized := true }, y) := by
  obtain ⟨hid, hpre, hinit, hcurrent, -⟩ := htook
  have hsum : max 0 (P + (a - P)) = a := by omega
  rw [move, if_pos (sub_ne_zero.2 hne), settle, SubscriptionFunding.settle, if_pos ⟨hid, hpre⟩]
  simp only [hinit, if_true, hcurrent, hsum, stores]
  cases x.onSubscriptions (settleSubscriptionPreConsume loc x.db g.requestId a now) <;> rfl

/-- The source can pay for a cost of `a` what `P` does not cover: the wallet has the
    difference left, or all limits of the subscription have room for it. -/
def FundingSource.Covers (loc : Location) (now : ℤ) (x : Accounts) (P a : ℤ) : FundingSource → Prop
  | .wallet _ => a - P ≤ x.wallet.quota
  | .subscription f => ∀ record sub plan, x.db.findRecord f.requestId = some record →
      Intact x.db record sub plan →
      HasRoomFor loc (x.db.saveSubscription (sub.upToDate loc plan now)) (sub.upToDate loc plan now)
        (quotaPolicyForSubscription sub plan) record a now

lemma Intact.unique {db : Database} {sub' : UserSubscription} {plan' : Option SubscriptionPlan}
    (h : Intact db record sub plan) (h' : Intact db record sub' plan') :
    sub' = sub ∧ plan' = plan := by
  obtain rfl : sub' = sub := Option.some.inj (h'.subscription.symm.trans h.subscription)
  exact ⟨rfl, Except.ok.inj (h'.planFound.symm.trans h.planFound)⟩

/-- The record and what it was charged on are the only ones of the request. -/
lemma covers_of_hasRoomFor (hfind : x.db.findRecord g.requestId = some record)
    (hintact : Intact x.db record sub plan)
    (h : HasRoomFor loc (x.db.saveSubscription (sub.upToDate loc plan now))
    (sub.upToDate loc plan now)
      (quotaPolicyForSubscription sub plan) record a now) :
        (subscription g).Covers loc now x P a := by
  intro record' sub' plan' hfind' hintact'
  obtain rfl := Option.some.inj (hfind.symm.trans hfind')
  obtain ⟨rfl, rfl⟩ := hintact.unique hintact'
  exact h

section

variable (htook : (subscription g).Took P) (ha : 0 < a)
  (hfind : x.db.findRecord g.requestId = some record) (hlive : record.status ≠ .refunded)
  (hamount : effectivePreConsumeAmount record = P) (hintact : Intact x.db record sub plan)

include htook ha hfind hlive hamount hintact

lemma subscription_move_eq_ok (hcovers : a ≤ P ∨ (subscription g).Covers loc now x P a) :
    ∃ f y, (subscription g).move (stores loc now clock) x (a - P) = .ok (f, y) ∧
      y.db.effectiveAmount g.requestId = a := by
  by_cases hne : a = P
  · subst hne
    refine ⟨.subscription g, x, by simp [move], ?_⟩
    rw [Database.effectiveAmount_of_find hfind, hamount]
  · have hok : ∃ db', settleSubscriptionPreConsume loc x.db g.requestId a now = .ok db' := by
      subst hamount
      rcases lt_or_gt_of_ne hne with hlt | hgt
      · exact settle_isOk_of_lt hintact hfind htook.1 hlive ha.le hlt
      · exact (settle_isOk_iff hintact hfind htook.1 hlive hgt).2
          (hcovers.resolve_left (not_le.2 hgt) _ _ _ hfind hintact)
    obtain ⟨db', hok⟩ := hok
    rw [subscription_move_eq htook ha hne, hok]
    exact ⟨_, _, rfl, effectiveAmount_of_settle hok⟩

lemma subscription_move_eq_error (hcovers : ¬ (a ≤ P ∨ (subscription g).Covers loc now x P a)) :
    ∃ e, (subscription g).move (stores loc now clock) x (a - P) = .error e := by
  rw [not_or, not_le] at hcovers
  rw [subscription_move_eq htook ha hcovers.1.ne']
  cases hsettle : settleSubscriptionPreConsume loc x.db g.requestId a now with
  | error e => exact ⟨_, rfl⟩
  | ok db' =>
    subst hamount
    have hroom := (settle_isOk_iff hintact hfind htook.1 hlive hcovers.1).1 ⟨db', hsettle⟩
    exact absurd (covers_of_hasRoomFor hfind hintact hroom) hcovers.2

omit ha hamount in
lemma subscription_refund_eq_ok : ∃ y, (subscription g).refund (stores loc now clock) x = .ok y ∧
      y.db.effectiveAmount g.requestId = 0 := by
  obtain ⟨db', hok⟩ := refund_isOk hintact hfind htook.1 hlive loc now
  rw [refund, SubscriptionFunding.refund, if_neg (not_le.2 htook.2.1)]
  simp only [refundWithRetry, stores, hok]
  refine ⟨_, rfl, ?_⟩
  rcases findRecord_of_refund hfind hok with hfind' | ⟨-, hrefunded⟩
  · exact Database.effectiveAmount_of_find hfind'
  · exact absurd hrefunded hlive

end

end

/-! ## Either of them -/

/-- The tables hold an advance charge of `P`: for a subscription in the record of the
    request, of a subscription that is intact. -/
def FundingSource.HeldBy (x : Accounts) (P : ℤ) : FundingSource → Prop
  | .wallet _ => True
  | .subscription f => ∃ record sub plan, x.db.findRecord f.requestId = some record ∧
      record.status ≠ .refunded ∧ effectivePreConsumeAmount record = P ∧ Intact x.db record sub plan

/-- A request costs at least the smaller of what it used and what was taken in advance, just where
    it used no more than that or the funds cover the rest. -/
theorem charged_iff {loc : Location} {now clock P a : ℤ} {s : BillingSession} {x : Accounts}
    (hP : 0 < P) (ha : 0 < a) (hs : Precharged P s) (hx : s.funding.HeldBy x P) :
    min P a ≤ P + s.funding.lost x (postTextConsumeQuota (stores loc now clock) s x a).2 ↔
      a ≤ P ∨ s.funding.Covers loc now x P a := by
  have htook := hs.took
  have hfree : ¬ min P a ≤ P + -P := by omega
  have hcharged : min P a ≤ P + (a - P) := by omega
  cases hfunding : s.funding with
  | wallet w =>
    rw [hfunding] at htook
    by_cases hcovers : a ≤ P ∨ a - P ≤ x.wallet.quota
    · obtain ⟨f, y, hmove, hquota⟩ := wallet_move_eq_ok htook ha hcovers
      rw [lost_congr (postTextConsumeQuota_sameFunds hs hP ha (.inl ⟨f, hfunding ▸ hmove⟩)), lost,
        hquota, sub_sub_cancel]
      exact iff_of_true hcharged hcovers
    · obtain ⟨e, hmove⟩ := wallet_move_eq_error hcovers
      obtain ⟨y, hrefund, hquota⟩ := wallet_refund_eq_ok htook hP
      rw [lost_congr (postTextConsumeQuota_sameFunds hs hP ha (.inr ⟨⟨e, hfunding ▸ hmove⟩,
        hfunding ▸ hrefund⟩)), lost, hquota, sub_add_cancel_left]
      exact iff_of_false hfree hcovers
  | subscription g =>
    rw [hfunding] at htook hx
    obtain ⟨record, sub, plan, hfind, hlive, hamount, hintact⟩ := hx
    have hbefore : x.db.effectiveAmount g.requestId = P := by
      rw [Database.effectiveAmount_of_find hfind, hamount]
    by_cases hcovers : a ≤ P ∨ (subscription g).Covers loc now x P a
    · obtain ⟨f, y, hmove, hafter⟩ :=
        subscription_move_eq_ok htook ha hfind hlive hamount hintact hcovers
      rw [lost_congr (postTextConsumeQuota_sameFunds hs hP ha (.inl ⟨f, hfunding ▸ hmove⟩)), lost,
        hafter, hbefore]
      exact iff_of_true hcharged hcovers
    · obtain ⟨e, hmove⟩ := subscription_move_eq_error htook ha hfind hlive hamount hintact hcovers
      obtain ⟨y, hrefund, hafter⟩ := subscription_refund_eq_ok htook hfind hlive hintact
      rw [lost_congr (postTextConsumeQuota_sameFunds hs hP ha (.inr ⟨⟨e, hfunding ▸ hmove⟩,
        hfunding ▸ hrefund⟩)), lost, hafter, hbefore, zero_sub]
      exact iff_of_false hfree hcovers

namespace Shortfall

def utc : Location := .fixed 0

def accounts : Accounts where
  wallet := ⟨15, 0⟩
  db := ⟨[], [], [], []⟩
  tokenQuota := 100

def opened : Outcome Accounts AccountsError :=
  (walletSession {}).preConsume (stores utc 0 0) accounts 10

lemma precharged : Precharged 10 opened.session where
  initialized := rfl
  took := by
    refine ⟨?_, ?_, ?_, ?_⟩ <;> decide +kernel
  preConsumedQuota := by decide +kernel
  fundingQuota := by decide +kernel
  tokenConsumed := by decide +kernel
  tokenQuota := by decide +kernel
  noRefund := by refine ⟨?_, ?_, ?_, ?_⟩ <;> decide +kernel
  noRollback := by refine ⟨?_, ?_, ?_, ?_⟩ <;> decide +kernel
  settled := by decide +kernel
  refunded := by decide +kernel

end Shortfall

/-- A wallet that covers two more than was taken. -/
theorem charged_of_covered :
    min 10 12 ≤ 10 + Shortfall.opened.session.funding.lost Shortfall.opened.store
      (postTextConsumeQuota (stores Shortfall.utc 0 0) Shortfall.opened.session
        Shortfall.opened.store 12).2 :=
  (charged_iff (by decide) (by decide) Shortfall.precharged trivial).2
    (.inr (show (12 : ℤ) - 10 ≤ Shortfall.opened.store.wallet.quota by decide +kernel))

/-- A wallet that does not cover ten more: all that was taken is given back. -/
theorem free_of_empty_wallet : Shortfall.opened.error = none ∧
    Shortfall.opened.store.wallet.quota = 5 ∧
      (postTextConsumeQuota (stores Shortfall.utc 0 0) Shortfall.opened.session
        Shortfall.opened.store 20).2.wallet.quota = 15 ∧
      ¬ min 10 20 ≤ 10 + Shortfall.opened.session.funding.lost Shortfall.opened.store
        (postTextConsumeQuota (stores Shortfall.utc 0 0) Shortfall.opened.session
          Shortfall.opened.store 20).2 := by
  decide +kernel

end Allrouter
