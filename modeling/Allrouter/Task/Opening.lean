import Allrouter.Task.Submit

/-!
# Opening a session

`NewBillingSession` for requests of every kind, and what it leaves on the wallet, on the
subscription and on the token, whatever the user prefers and wherever a store fails.

* `newBillingSession_exact_iff`: an error leaves all three as they were. A session has taken
  its amount from its own source, and from the token where the wallet pays for a request
  that is not a playground one; unless that amount is below zero, which the session
  records though nothing is taken.
-/

namespace Allrouter

open Ledger BillingSession Text

/-- What a request has taken. -/
structure Debits where
  (wallet subscription token : ℤ := 0)
  deriving DecidableEq

abbrev Opening := Except ChargeError BillingSession × Debits

namespace Opening

def result (r : Outcome Ledger Unit) (reason : ChargeError) : Except ChargeError BillingSession :=
  match r.error with
  | some _ => .error reason
  | none => .ok r.session

variable (request : TaskRequest) (reads : ChargeReads) (x : Debits) (quota : ℤ)

def tryWallet : Opening :=
  match reads.userQuota with
  | none => (.error .other, x)
  | some userQuota =>
    if userQuota ≤ 0 then (.error .insufficientUserQuota, x)
    else if userQuota - quota < 0 then (.error .insufficientUserQuota, x)
    else
      let r := (walletSession { request.relayInfo with userQuota := userQuota }).preConsume
        (stores reads.wallet) ⟨x.wallet, x.token⟩ quota
      (result r .other, { x with wallet := r.store.funding, token := r.store.token })

def trySubscription : Opening :=
  let r := (subscriptionSession request.relayInfo request.requestId request.userId request.modelName
    quota).preConsume
    (stores reads.subscription) ⟨x.subscription, x.token⟩ (subConsume quota)
  (result r (if reads.subscriptionUnavailable then .insufficientUserQuota else .other),
    { x with subscription := r.store.funding, token := r.store.token })

/-- The funds are tried in the order that is preferred. -/
def newBillingSession : Opening :=
  match request.preference with
  | .subscriptionOnly => trySubscription request reads x quota
  | .walletOnly => tryWallet request reads x quota
  | .walletFirst =>
    match tryWallet request reads x quota with
    | (.error .insufficientUserQuota, x) => trySubscription request reads x quota
    | r => r
  | .subscriptionFirst =>
    match reads.hasActiveSubscription with
    | none => (.error .other, x)
    | some false => tryWallet request reads x quota
    | some true =>
      match trySubscription request reads x quota with
      | (.error .insufficientUserQuota, x) => tryWallet request reads x quota
      | r => r

/-- The session has taken what it says that it has, and nothing else. -/
def Exact : Opening → Prop
  | (.error _, x) => x = {}
  | (.ok s, x) =>
    if s.funding.isSubscription then
      s.preConsumedQuota = subConsume quota ∧ x = { subscription := s.preConsumedQuota }
    else
      s.preConsumedQuota = (if s.shouldTrust then 0 else quota) ∧
        x = { wallet := s.preConsumedQuota
              token := if s.relayInfo.isPlayground then 0 else s.preConsumedQuota }

/-- The wallet is charged an amount below zero, for a user who is not trusted. -/
def WalletUndercharged : Prop :=
  quota < 0 ∧ ∃ userQuota ∈ reads.userQuota, 0 < userQuota ∧
    (walletSession { request.relayInfo with userQuota := userQuota }).shouldTrust = false

/-- Where a charge on empty stores is exact if it goes through, it is exact. -/
lemma exact_of_preConsume {quota amount : ℤ} {fate : Fate} {s : BillingSession}
    {reason : ChargeError} (column : Ledger → Debits) (hcolumn : column {} = {})
    (h0 : s.tokenConsumed = 0)
    (hok : ∀ s' l', s.preConsume (stores fate) {} amount =
      ⟨none, s', l'⟩ → Exact quota (.ok s', column l')) :
    Exact quota (result (s.preConsume (stores fate) {} amount) reason,
      column (s.preConsume (stores fate) {} amount).store) := by
  rcases hr : s.preConsume (stores fate) {} amount with ⟨error, s', l'⟩
  cases error with
  | none => exact hok s' l' hr
  | some e =>
    have hstore := preConsume_store_of_error h0 (by rw [hr])
    rw [hr] at hstore
    exact (congrArg column hstore).trans hcolumn

lemma exact_tryWallet (hnot : ¬WalletUndercharged request reads quota) :
    Exact quota (tryWallet request reads {} quota) := by
  rw [tryWallet]
  split
  · exact rfl
  rename_i userQuota hread
  split_ifs with hempty
  · exact rfl
  · exact rfl
  refine exact_of_preConsume (fun l => { wallet := l.funding, token := l.token }) rfl rfl
    fun s l h => ?_
  obtain ⟨hquota, hcharged⟩ := charged_of_preConsume rfl (.inl rfl) rfl h
  have hc := hcharged <| by
    split_ifs with htrust
    · exact le_rfl
    · exact not_lt.1 fun hneg =>
        hnot ⟨hneg, userQuota, hread, not_le.1 hempty, Bool.eq_false_iff.2 htrust⟩
  have hwallet : s.funding.isSubscription = false := hc.source
  rw [Exact, if_neg (by simp [hwallet]), hc.shouldTrust, hc.ledger]
  refine ⟨hquota, ?_⟩
  cases hplayground : s.relayInfo.isPlayground <;> simp [tokenQuotaRequired, hwallet, hplayground]

lemma exact_trySubscription : Exact quota (trySubscription request reads {} quota) := by
  refine exact_of_preConsume (fun l => { subscription := l.funding, token := l.token }) rfl rfl
    fun s l h => ?_
  obtain ⟨hquota, hcharged⟩ :=
    charged_of_preConsume rfl (.inr ⟨_, rfl, rfl⟩) subscriptionSession_pays h
  have hc := hcharged subConsume_pos.le
  have hsubscription : s.funding.isSubscription = true := hc.source
  rw [hc.ledger]
  simp [Exact, tokenQuotaRequired, hsubscription, hquota]

/-- The session records the amount, though nothing is taken. -/
lemma tryWallet_undercharged (h : WalletUndercharged request reads quota) :
    ∃ relayInfo, tryWallet request reads {} quota = (.ok (undercharged relayInfo quota), {}) := by
  obtain ⟨hneg, userQuota, hread, hpos, htrust⟩ := h
  refine ⟨{ request.relayInfo with userQuota := userQuota }, ?_⟩
  rw [tryWallet, hread]
  dsimp only
  rw [if_neg (by omega), if_neg (by omega), preConsume_of_neg htrust hneg]
  rfl

lemma trySubscription_refused_iff :
    (trySubscription request reads {} quota).1 = .error .insufficientUserQuota ↔
      (reads.subscription.subscription = none ∨ trimSpace request.requestId = "") ∧
        reads.subscriptionUnavailable = true := by
  have hiff := @subscription_preConsume_iff reads.subscription {} request.relayInfo
    request.requestId
    request.modelName request.userId quota
  rw [trySubscription]
  dsimp only [result]
  split
  · rename_i e herror
    rw [herror] at hiff
    have hrefused := not_not.1 ((not_congr hiff).1 nofun)
    cases reads.subscriptionUnavailable <;> simp [hrefused]
  · rename_i herror
    simp [hiff.1 herror]

/-- A wallet that is asked decides, unless it is short. -/
lemma newBillingSession_cases :
    (request.asksWallet reads = true ∧
      newBillingSession request reads {} quota = tryWallet request reads {} quota) ∨
    ((request.asksWallet reads = true → (tryWallet request reads {} quota).1.isOk = false) ∧
      newBillingSession request reads {} quota = trySubscription request reads {} quota) ∨
    (request.asksWallet reads = false ∧ newBillingSession request reads {} quota =
      (.error .other, {})) := by
  simp only [newBillingSession, TaskRequest.asksWallet]
  cases request.preference with
  | subscriptionOnly => exact .inr (.inl ⟨fun h => absurd h Bool.false_ne_true, rfl⟩)
  | walletOnly => exact .inl ⟨rfl, rfl⟩
  | walletFirst =>
    dsimp only
    split
    · rename_i x heq
      obtain rfl : x = {} := by
        by_cases hunder : WalletUndercharged request reads quota
        · obtain ⟨relayInfo, hok⟩ := tryWallet_undercharged request reads quota hunder
          rw [hok] at heq
          cases heq
        · have hwallet := exact_tryWallet request reads quota hunder
          rwa [heq] at hwallet
      exact .inr (.inl ⟨fun _ => by rw [heq]; rfl, rfl⟩)
    · exact .inl ⟨rfl, rfl⟩
  | subscriptionFirst =>
    cases reads.hasActiveSubscription with
    | none => exact .inr (.inr ⟨rfl, rfl⟩)
    | some active =>
      cases active with
      | false => exact .inl ⟨rfl, rfl⟩
      | true =>
      have hrefused := trySubscription_refused_iff request reads quota
      dsimp only
      split
      · rename_i x heq
        obtain rfl : x = {} := by
          have hsubscription := exact_trySubscription request reads quota
          rwa [heq] at hsubscription
        exact .inl ⟨by simpa [heq] using hrefused, rfl⟩
      · rename_i hother
        refine .inr (.inl ⟨fun hasks => ?_, rfl⟩)
        exact (hother _ (Prod.ext (hrefused.2 (by simpa using hasks)) rfl)).elim

/-- **Opening a session.** An error leaves the wallet, the subscription and the token as they were,
    and a session has taken its amount from its own source; exactly if no amount below zero is
    charged to a wallet. -/
theorem newBillingSession_exact_iff : Exact quota (newBillingSession request reads {} quota) ↔
    ¬(request.asksWallet reads = true ∧ WalletUndercharged request reads quota) := by
  rcases newBillingSession_cases request reads quota with ⟨hasks, h⟩ | ⟨hshort, h⟩ | ⟨hasks, h⟩ <;>
    rw [h]
  · by_cases hunder : WalletUndercharged request reads quota
    · obtain ⟨relayInfo, hok⟩ := tryWallet_undercharged request reads quota hunder
      rw [hok]
      refine iff_of_false (fun hexact => ?_) (not_not.2 ⟨hasks, hunder⟩)
      have hwallet : 0 = quota := congrArg Debits.wallet hexact.2
      exact hunder.1.ne hwallet.symm
    · exact iff_of_true (exact_tryWallet request reads quota hunder) fun h => hunder h.2
  · refine iff_of_true (exact_trySubscription request reads quota) fun ⟨hasks, hunder⟩ => ?_
    obtain ⟨relayInfo, hok⟩ := tryWallet_undercharged request reads quota hunder
    have := hshort hasks
    rw [hok] at this
    cases this
  · exact iff_of_true rfl (by simp [hasks])

/-- An empty wallet opens a session for a negative quota. -/
theorem newBillingSession_below_zero :
    ∃ s, newBillingSession { requestId := "r", userId := 1, preference := .walletOnly }
        { userQuota := some 100, hasActiveSubscription := none, wallet := {}, subscription := {}
          subscriptionUnavailable := false } {} (-5) = (.ok s, {}) ∧ s.preConsumedQuota = -5 :=
  ⟨_, rfl, rfl⟩

end Opening

end Allrouter
