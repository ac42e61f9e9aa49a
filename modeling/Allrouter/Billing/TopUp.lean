import Allrouter.Billing.Wallet
import Allrouter.Library.Text
import Allrouter.Library.Transaction
import Allrouter.Library.Unlocked

/-!
# Top-ups

An order is pending until its payment is confirmed, by one of the gateways or by an
administrator, or until it expires. A confirmation credits the quota that was paid for. Every
handler selects the order without a lock, checks it, and saves the whole row
(`TopUpHandler`).

* `credited_once_of_current_order`: an order is credited once at most, and leaves the pending
  status once at most, as long as every handler saves the row that it has selected;
* `credited_twice_of_two_callbacks`: two callbacks of one payment that both select the
  order before either of them saves it are both credited.
-/

namespace Allrouter

open Interleaving Text Except

/-! ## Orders -/

/-- The status of an order. -/
inductive TopUpStatus
  | pending
  | success
  | failed
  | expired
  deriving DecidableEq

/-- An order. -/
structure TopUp where
  (id userId amount : ℤ)
  /-- What was paid, in dollars or in USDT. -/
  money : ℚ
  (tradeNo paymentMethod : String)
  (paymentProvider bizType : String := "")
  completeTime : ℤ := 0
  status : TopUpStatus
  currency : String := ""
  /-- What was paid, in the currency of the user. -/
  originalMoney : ℚ := 0
  deriving DecidableEq

/-- Why an order is not completed. -/
inductive TopUpError
  /-- "未提供支付单号" -/
  | missingTradeNo
  /-- "未提供交易哈希" -/
  | missingTxHash
  /-- "充值订单不存在" -/
  | notFound
  | methodMismatch
  /-- "充值订单状态错误" -/
  | statusInvalid
  /-- "账单类型错误" -/
  | bizTypeInvalid
  /-- "当前账单类型不支持补单" -/
  | notManual
  /-- "订单状态不是待支付，无法补单" -/
  | notPending
  /-- "无效的充值额度" -/
  | invalidQuota
  /-- "无效的兑换额度" -/
  | invalidRedemptionQuota
  /-- "无效的服务商分账额度" -/
  | invalidProviderQuota
  /-- "订阅账单不支持直接补单" -/
  | subscriptionBill
  /-- "订单支付方式缺失，无法安全计算充值额度" -/
  | missingMethod
  /-- "不支持的账单类型: …" -/
  | unsupportedBizType (bizType : String)
  /-- "加密货币交易记录不存在" -/
  | cryptoNotFound
  /-- "加密货币交易记录不匹配" -/
  | cryptoMismatch
  | cryptoStatusInvalid
  | cryptoHashUsed
  deriving DecidableEq

/-- The settings that a credit depends on. -/
structure TopUpConfig where
  quotaPerUnit : ℚ
  /-- The price of a dollar in yuan, where one is set. -/
  cnyUnitPrice : Option ℚ := none

def intPart (x : ℚ) : ℤ := x.num.tdiv x.den

namespace TopUp

variable (config : TopUpConfig) (topUp : TopUp)

/-- What an order is for. Older rows of subscriptions do not tell. -/
def getBizType : String :=
  if topUp.bizType = "" then
    if topUp.amount = 0 ∧ (toLower topUp.tradeNo).toList.take 3 = "sub".toList then "subscription"
      else "payment"
  else topUp.bizType

/-- What a payment in a currency of a chain is worth in dollars. -/
def cryptoMoney : ℚ :=
  if topUp.currency = "¥" then
    match config.cnyUnitPrice with
    | some price => if price > 0 then topUp.originalMoney / price else topUp.originalMoney
    | none => topUp.originalMoney
  else topUp.originalMoney

/-- What a paid order is worth. -/
def paymentQuota : Except TopUpError ℤ :=
  let method := topUp.paymentMethod
  if method = "provider_profit" ∨ method = "provider_subscription" then
    if topUp.amount ≤ 0 then .error .invalidProviderQuota else .ok topUp.amount
  else if method = "stripe" ∨ method = "wxpay" ∨ method = "alipay" ∨ method = "lakala" then
    .ok (intPart (topUp.money * config.quotaPerUnit))
  else if method = "crypto" then .ok (intPart (topUp.cryptoMoney config * config.quotaPerUnit))
  else if method = "creem" then
    if topUp.amount ≤ 0 then .error .invalidQuota else .ok topUp.amount
  else if method = "" then .error .missingMethod
  else .ok (intPart (topUp.amount * config.quotaPerUnit))

/-- What an order adds to the quota, by its kind. -/
def getQuotaToAdd : Except TopUpError ℤ :=
  if topUp.getBizType = "redemption" then
    if topUp.amount ≤ 0 then .error .invalidRedemptionQuota else .ok topUp.amount
  else if topUp.getBizType = "subscription" then .error .subscriptionBill
  else if topUp.getBizType = "payment" then topUp.paymentQuota config
  else .error (.unsupportedBizType topUp.bizType)

end TopUp

def positiveQuota (quota : Except TopUpError ℤ) : Except TopUpError ℤ :=
  quota.bind fun quota => if quota ≤ 0 then .error .invalidQuota else .ok quota

/-! ## Handlers -/

/-- The outcome of the checks on an order. -/
inductive Verdict
  | pass
  /-- The order is done already. -/
  | done
  | reject (e : TopUpError)
  deriving DecidableEq

/-- The first check that an order does not pass decides. -/
def checkAll (topUp : TopUp) : List (TopUp → Verdict) → Verdict
  | [] => .pass
  | check :: checks =>
    match check topUp with
    | .pass => checkAll topUp checks
    | verdict => verdict

def doneIfSuccess (topUp : TopUp) : Verdict := if topUp.status = .success then .done else .pass

def requirePending (e : TopUpError) (topUp : TopUp) : Verdict :=
  if topUp.status ≠ .pending then .reject e else .pass

def requireMethod (method : String) (topUp : TopUp) : Verdict :=
  if topUp.paymentMethod ≠ method then .reject .methodMismatch else .pass

/-- The method of the callback, which has to be given. -/
def requireExpectedMethod (method : String) (topUp : TopUp) : Verdict :=
  if method = "" ∨ topUp.paymentMethod ≠ method then .reject .methodMismatch else .pass

/-- Older orders have no provider, and are of `epay`. -/
def requireExpectedProvider (provider : String) (topUp : TopUp) : Verdict :=
  if provider ≠ "" ∧ topUp.paymentProvider ≠ provider ∧
    ¬(provider = "epay" ∧ topUp.paymentProvider = "") then
    .reject .methodMismatch
  else .pass

def requireProvider (provider : String) (topUp : TopUp) : Verdict :=
  if topUp.paymentProvider ≠ provider then .reject .methodMismatch else .pass

def requirePayment (e : TopUpError) (topUp : TopUp) : Verdict :=
  if topUp.getBizType ≠ "payment" then .reject e else .pass

/-- A handler of payments: its checks in their order, and the quota it credits. None of them
    completes an order that is not pending. -/
structure TopUpHandler where
  /-- Whether the row is saved with what the order is for. -/
  normalizes : Bool
  checks : List (TopUp → Verdict)
  quotaToAdd : TopUpConfig → TopUp → Except TopUpError ℤ
  checksPending : ∃ e, requirePending e ∈ checks

namespace TopUpHandler

/-- Stripe. -/
def recharge : TopUpHandler where
  normalizes := true
  checks := [doneIfSuccess, requireMethod "stripe", requirePending .statusInvalid,
    requirePayment .bizTypeInvalid]
  quotaToAdd config topUp := topUp.getQuotaToAdd config
  checksPending := ⟨.statusInvalid, by simp⟩

def rechargeWechatTopUp (expectedPaymentMethod expectedProvider : String) : TopUpHandler where
  normalizes := true
  checks := [requireExpectedMethod expectedPaymentMethod, requireExpectedProvider expectedProvider,
    doneIfSuccess, requirePending .statusInvalid, requirePayment .bizTypeInvalid]
  quotaToAdd config topUp := topUp.getQuotaToAdd config
  checksPending := ⟨.statusInvalid, by simp⟩

def rechargeEpay (expectedPaymentMethod : String) : TopUpHandler :=
  rechargeWechatTopUp expectedPaymentMethod "epay"

/-- An administrator confirms the payment. -/
def manualCompleteTopUp : TopUpHandler where
  normalizes := true
  checks := [doneIfSuccess, requirePayment .notManual, requirePending .notPending]
  quotaToAdd config topUp := positiveQuota (topUp.getQuotaToAdd config)
  checksPending := ⟨.notPending, by simp⟩

def rechargeCreem : TopUpHandler where
  normalizes := true
  checks := [doneIfSuccess, requireMethod "creem", requirePending .statusInvalid,
    requirePayment .bizTypeInvalid]
  quotaToAdd config topUp := topUp.getQuotaToAdd config
  checksPending := ⟨.statusInvalid, by simp⟩

def rechargeWaffo : TopUpHandler where
  normalizes := false
  checks := [requireMethod "waffo", doneIfSuccess, requirePending .statusInvalid]
  quotaToAdd config topUp := positiveQuota (.ok (intPart (topUp.amount * config.quotaPerUnit)))
  checksPending := ⟨.statusInvalid, by simp⟩

def rechargeWaffoPancake : TopUpHandler where
  normalizes := false
  checks := [requireProvider "waffo_pancake", doneIfSuccess, requirePending .statusInvalid]
  quotaToAdd config topUp := positiveQuota (topUp.getQuotaToAdd config)
  checksPending := ⟨.statusInvalid, by simp⟩

/-- The checks of the order; those of the transaction on the chain follow. -/
def rechargeCrypto : TopUpHandler where
  normalizes := false
  checks := [requireMethod "crypto", doneIfSuccess, requirePending .statusInvalid,
    requirePayment .bizTypeInvalid]
  quotaToAdd config topUp := topUp.getQuotaToAdd config
  checksPending := ⟨.statusInvalid, by simp⟩

def selected (handler : TopUpHandler) (topUp : TopUp) : TopUp :=
  if handler.normalizes then { topUp with bizType := topUp.getBizType } else topUp

/-- The row a handler saves with the quota it credits, if the order is not done already. -/
def complete (handler : TopUpHandler) (config : TopUpConfig) (now : ℤ) (topUp : TopUp) :
    Except TopUpError (Option (TopUp × ℤ)) :=
  match checkAll (handler.selected topUp) handler.checks with
  | .done => .ok none
  | .reject e => .error e
  | .pass => do
    let quota ← handler.quotaToAdd config (handler.selected topUp)
    pure (some ({ handler.selected topUp with completeTime := now, status := .success }, quota))

end TopUpHandler

/-! ## Payments on a chain -/

/-- The status of a payment on a chain. -/
inductive CryptoTransactionStatus
  | pending
  | success
  | failed
  deriving DecidableEq

/-- The payment on a chain that an order waits for. -/
structure CryptoTransaction where
  topUpId : ℤ
  txHash : Option String := none
  payerAddress : String := ""
  blockNumber : ℕ := 0
  confirmations : ℤ := 0
  status : CryptoTransactionStatus
  completeTime : ℤ := 0
  deriving DecidableEq

def normalizeTxHash (txHash : String) : String := toLower (trimSpace txHash)

/-- What is known of a payment on a chain. -/
structure CryptoReceipt where
  txHash : String
  payerAddress : String := ""
  blockNumber : ℕ := 0
  confirmations : ℤ := 0

/-- The checks of the transaction on the chain. One that has succeeded is done for the same
    hash only, and a hash that another order has is refused. -/
def CryptoReceipt.check (receipt : CryptoReceipt) (topUp : TopUp) (otherHashes : List String) :
    Option CryptoTransaction → Except TopUpError (Option CryptoTransaction)
  | none => .error .cryptoNotFound
  | some tx =>
    let txHash := normalizeTxHash receipt.txHash
    if tx.topUpId ≠ topUp.id then .error .cryptoMismatch
    else if tx.status = .success then
      if tx.txHash.map normalizeTxHash = some txHash then .ok none else .error .cryptoStatusInvalid
    else if tx.status ≠ .pending then .error .cryptoStatusInvalid
    else if otherHashes.any fun other => toLower other = toLower txHash then .error .cryptoHashUsed
    else .ok (some tx)

def CryptoReceipt.save (receipt : CryptoReceipt) (now : ℤ) (tx : CryptoTransaction) :
    CryptoTransaction :=
  { tx with
    txHash := some (normalizeTxHash receipt.txHash)
    payerAddress := receipt.payerAddress
    blockNumber := receipt.blockNumber
    confirmations := receipt.confirmations
    status := .success
    completeTime := now }

/-! ## Calls -/

/-- The rows that a call locks. -/
structure TopUpRows where
  topUp : TopUp
  crypto : Option CryptoTransaction := none
  deriving DecidableEq

/-- The rows of an order, the quota of its user, and what has happened: the quota that was
    credited for the order, and the statuses it was given when it left the pending one. -/
structure TopUpState where
  rows : TopUpRows
  otherHashes : List String := []
  userQuota : ℤ
  credits : List ℤ := []
  left : List TopUpStatus := []
  deriving DecidableEq

/-- The calls that change an order. -/
inductive TopUpCall
  | updatePendingTopUpStatus (expectedPaymentProvider : String) (targetStatus : TopUpStatus)
  | recharge
  | rechargeEpay (expectedPaymentMethod : String)
  | rechargeWechatTopUp (expectedPaymentMethod expectedProvider : String)
  | manualCompleteTopUp
  | rechargeCreem
  | rechargeWaffo
  | rechargeWaffoPancake
  | rechargeCrypto (receipt : CryptoReceipt)

/-- What a call commits. -/
structure TopUpWrite where
  rows : TopUpRows
  credit : Option ℤ

/-- A status that is written to an order that is still pending. -/
def updatePendingTopUpStatus (expectedPaymentProvider : String) (targetStatus : TopUpStatus)
    (rows : TopUpRows) :
    Except TopUpError (Option TopUpWrite) :=
  if expectedPaymentProvider ≠ "" ∧ rows.topUp.paymentProvider ≠ expectedPaymentProvider then
    .error .methodMismatch
  else if rows.topUp.status ≠ .pending then .error .statusInvalid
  else .ok (some ⟨{ rows with topUp := { rows.topUp with status := targetStatus } }, none⟩)

def TopUpHandler.write (handler : TopUpHandler) (config : TopUpConfig) (now : ℤ)
    (rows : TopUpRows) :
    Except TopUpError (Option TopUpWrite) := do
  match ← handler.complete config now rows.topUp with
  | none => pure none
  | some (topUp, quota) => pure (some ⟨{ rows with topUp := topUp }, some quota⟩)

def CryptoReceipt.write (receipt : CryptoReceipt) (config : TopUpConfig) (now : ℤ)
    (otherHashes : List String) (rows : TopUpRows) : Except TopUpError (Option TopUpWrite) :=
  if normalizeTxHash receipt.txHash = "" then .error .missingTxHash
  else
    match checkAll rows.topUp TopUpHandler.rechargeCrypto.checks with
    | .done => .ok none
    | .reject e => .error e
    | .pass => do
      match ← receipt.check rows.topUp otherHashes rows.crypto with
      | none => pure none
      | some tx =>
        match ← TopUpHandler.rechargeCrypto.complete config now rows.topUp with
        | none => pure none
        | some (topUp, quota) =>
          pure (some ⟨{ topUp := topUp, crypto := receipt.save now tx }, some quota⟩)

/-- What a call on the order `tradeNo` writes, by the rows that it has selected. -/
def TopUpCall.write (config : TopUpConfig) (tradeNo : String) (now : ℤ) (otherHashes : List String)
    (rows : TopUpRows) (call : TopUpCall) : Except TopUpError (Option TopUpWrite) :=
  if tradeNo = "" then .error .missingTradeNo
  else if rows.topUp.tradeNo ≠ tradeNo then .error .notFound
  else match call with
    | updatePendingTopUpStatus expectedPaymentProvider targetStatus =>
      Allrouter.updatePendingTopUpStatus expectedPaymentProvider targetStatus rows
    | recharge => TopUpHandler.recharge.write config now rows
    | rechargeEpay expectedPaymentMethod =>
      (TopUpHandler.rechargeEpay expectedPaymentMethod).write config now rows
    | rechargeWechatTopUp expectedPaymentMethod expectedProvider =>
      (TopUpHandler.rechargeWechatTopUp expectedPaymentMethod expectedProvider).write
        config now rows
    | manualCompleteTopUp => TopUpHandler.manualCompleteTopUp.write config now rows
    | rechargeCreem => TopUpHandler.rechargeCreem.write config now rows
    | rechargeWaffo => TopUpHandler.rechargeWaffo.write config now rows
    | rechargeWaffoPancake => TopUpHandler.rechargeWaffoPancake.write config now rows
    | rechargeCrypto receipt => receipt.write config now otherHashes rows

/-- The transaction commits. -/
def TopUpState.apply (s : TopUpState) (w : TopUpWrite) : TopUpState :=
  { s with
    rows := w.rows
    userQuota := s.userQuota + w.credit.getD 0
    credits := w.credit.toList ++ s.credits
    left := if w.rows.topUp.status = .pending then s.left else w.rows.topUp.status :: s.left }

/-- Calls on one order; a call that fails or finds the order done leaves it as it is. -/
def topUpCalls (config : TopUpConfig) :
    Unlocked TopUpState TopUpRows (TopUpCall × String × ℤ) Empty where
  read s := s.rows
  commit call rows s :=
    match call.1.write config call.2.1 call.2.2 s.otherHashes rows with
    | .ok (some w) => s.apply w
    | _ => s
  act a := nomatch a

/-! ## Calls side by side -/

/-- A write of a pending order; what is credited is no longer pending. -/
structure TopUpWrite.Proper (rows : TopUpRows) (w : TopUpWrite) : Prop where
  pending : rows.topUp.status = .pending
  credit : w.rows.topUp.status = .pending → w.credit = none

variable {topUp : TopUp}

lemma eq_pass_of_checkAll {checks : List (TopUp → Verdict)} {check : TopUp → Verdict}
    (h : checkAll topUp checks = .pass) (hcheck : check ∈ checks) : check topUp = .pass := by
  induction checks with
  | nil => cases hcheck
  | cons first rest ih =>
    rw [checkAll] at h
    split at h
    · rename_i hfirst
      rcases List.mem_cons.1 hcheck with rfl | hrest
      · exact hfirst
      · exact ih h hrest
    · rename_i hne
      exact absurd h (hne ·)

lemma TopUpHandler.pending_of_checkAll (handler : TopUpHandler)
    (h : checkAll topUp handler.checks = .pass) : topUp.status = .pending := by
  obtain ⟨e, he⟩ := handler.checksPending
  have hpass := eq_pass_of_checkAll h he
  rw [requirePending] at hpass
  split_ifs at hpass with hstatus
  exact not_ne_iff.1 hstatus

variable {handler : TopUpHandler} {now : ℤ} {otherHashes : List String} {rows : TopUpRows}
    {w : TopUpWrite}

lemma TopUpHandler.complete_eq_ok {config : TopUpConfig} {topUp' : TopUp}
    {quota : ℤ} (h : handler.complete config now topUp = .ok (some (topUp', quota))) :
    topUp.status = .pending ∧ topUp'.status = .success := by
  rw [complete] at h
  split at h
  · cases h
  · cases h
  · rename_i hpass
    obtain ⟨quota', -, h'⟩ := bind_eq_ok.1 h
    cases h'
    have hstatus : (handler.selected topUp).status = topUp.status := by
      rw [selected]
      split_ifs <;> rfl
    exact ⟨hstatus ▸ handler.pending_of_checkAll hpass, rfl⟩

lemma TopUpHandler.write_proper {config : TopUpConfig}
    (h : handler.write config now rows = .ok (some w)) : w.Proper rows := by
  obtain ⟨completed, hcomplete, h'⟩ := bind_eq_ok.1 h
  cases completed with
  | none => cases h'
  | some completed =>
    cases h'
    obtain ⟨hpending, hsuccess⟩ := complete_eq_ok hcomplete
    exact ⟨hpending, fun hpending' => by simp [hsuccess] at hpending'⟩

lemma CryptoReceipt.write_proper {receipt : CryptoReceipt} {config : TopUpConfig}
    (h : receipt.write config now otherHashes rows = .ok (some w)) : w.Proper rows := by
  rw [write] at h
  split_ifs at h
  split at h
  · cases h
  · cases h
  obtain ⟨checked, -, h'⟩ := bind_eq_ok.1 h
  cases checked with
  | none => cases h'
  | some tx =>
    obtain ⟨completed, hcomplete, h''⟩ := bind_eq_ok.1 h'
    cases completed with
    | none => cases h''
    | some completed =>
      cases h''
      obtain ⟨hpending, hsuccess⟩ := TopUpHandler.complete_eq_ok hcomplete
      exact ⟨hpending, fun hpending' => by simp [hsuccess] at hpending'⟩

lemma updatePendingTopUpStatus_proper {expectedPaymentProvider : String}
    {targetStatus : TopUpStatus}
    (h : updatePendingTopUpStatus expectedPaymentProvider targetStatus rows = .ok (some w)) :
    w.Proper rows := by
  rw [updatePendingTopUpStatus] at h
  split_ifs at h with _ hstatus
  cases h
  exact ⟨not_ne_iff.1 hstatus, fun _ => rfl⟩

lemma TopUpCall.write_proper {config : TopUpConfig} {tradeNo : String} {call : TopUpCall}
    (h : call.write config tradeNo now otherHashes rows = .ok (some w)) : w.Proper rows := by
  rw [write.eq_def] at h
  split_ifs at h
  cases call with
  | updatePendingTopUpStatus => exact updatePendingTopUpStatus_proper h
  | rechargeCrypto => exact CryptoReceipt.write_proper h
  | _ => exact TopUpHandler.write_proper h

/-- While an order is pending nothing was credited for it, and then once at most. -/
structure TopUpInv (s₀ s : TopUpState) : Prop where
  pending : s.rows.topUp.status = .pending → s.credits = [] ∧ s.left = []
  credits : s.credits.length ≤ 1
  left : s.left.length ≤ 1
  userQuota : s.userQuota = s₀.userQuota + s.credits.sum

lemma TopUpInv.apply {s₀ s : TopUpState} (h : TopUpInv s₀ s) (hw : w.Proper s.rows) :
    TopUpInv s₀ (s.apply w) := by
  obtain ⟨hcredits, hleft⟩ := h.pending hw.pending
  have hcredit : (s.apply w).credits = w.credit.toList := by simp [TopUpState.apply, hcredits]
  refine ⟨fun hpending => ?_, ?_, ?_, ?_⟩
  · rw [hcredit, hw.credit hpending]
    exact ⟨rfl, by simpa [TopUpState.apply, show w.rows.topUp.status =
      .pending from hpending] using hleft⟩
  · rw [hcredit]
    exact Option.length_toList_le
  · rw [TopUpState.apply]
    split_ifs <;> simp [hleft]
  · rw [hcredit]
    have hquota := h.userQuota
    rw [hcredits, List.sum_nil] at hquota
    cases hc : w.credit <;> simp [TopUpState.apply, hc, hquota]

/-- As long as no callback commits on an order that has changed since, the order is credited and
    closed at most once. -/
theorem credited_once_of_current_order {config : TopUpConfig} {s₀ : TopUpState}
    (hcredits : s₀.credits = []) (hleft : s₀.left = [])
    {p : Pool TopUpState ((TopUpCall × String × ℤ) × TopUpRows)}
    (h : (topUpCalls config).CurrentRun ⟨s₀, []⟩ p) : p.shared.credits.length ≤ 1 ∧
    p.shared.left.length ≤ 1 ∧
      p.shared.userQuota = s₀.userQuota + p.shared.credits.sum := by
  have hinv : TopUpInv s₀ p.shared := by
    refine Unlocked.invariant_of_current (TopUpInv s₀) (fun call s hs => ?_) (fun a => nomatch a) h
      ⟨fun _ => ⟨hcredits, hleft⟩, by simp [hcredits], by simp [hleft], by simp [hcredits]⟩
    simp only [topUpCalls]
    split
    · rename_i w hw
      exact hs.apply (TopUpCall.write_proper hw)
    · exact hs
  exact ⟨hinv.credits, hinv.left, hinv.userQuota⟩

namespace StripeOrder

def start : TopUpState where
  rows :=
    { topUp :=
        { id := 1, userId := 1, amount := 10, money := 10, tradeNo := "ref",
          paymentMethod := "stripe"
          paymentProvider := "stripe", status := .pending } }
  userQuota := 0

def config : TopUpConfig where
  quotaPerUnit := 500000

/-- Both callbacks of the payment select the order before either of them saves it. -/
def both : Pool TopUpState ((TopUpCall × String × ℤ) × TopUpRows) :=
  (topUpCalls config).after ⟨start, []⟩
    [.call (.inl (.recharge, "ref", 1800000000)), .call (.inl (.recharge, "ref", 1800000001)),
      .move 0 (), .move 0 ()]

end StripeOrder

/-- Two callbacks for an order in turn. -/
theorem credited_once_of_stripe_order :
    ∃ p : Pool TopUpState ((TopUpCall × String × ℤ) × TopUpRows),
    (topUpCalls StripeOrder.config).CurrentRun ⟨StripeOrder.start, []⟩ p ∧ p.threads = [] ∧
      p.shared.userQuota = 5000000 ∧ p.shared.credits = [5000000] ∧ p.shared.left = [.success] ∧
      p.shared.credits.length ≤ 1 ∧ p.shared.left.length ≤ 1 := by
  have hrun : (topUpCalls StripeOrder.config).CurrentRun ⟨StripeOrder.start, []⟩ _ :=
    .head (.call [] ⟨.inl (.recharge, "ref", 1800000000), rfl⟩) <|
      .head (.move [] [] ⟨rfl, (), rfl⟩) <|
      .head (.call [] ⟨.inl (.recharge, "ref", 1800000001), rfl⟩) <|
        .head (.move [] [] ⟨rfl, (), rfl⟩) .refl
  have honce := credited_once_of_current_order rfl rfl hrun
  exact ⟨_, hrun, rfl, by decide +kernel, by decide +kernel, by decide +kernel, honce.1, honce.2.1⟩

/-- Two callbacks read the order before either of them commits. -/
theorem credited_twice_of_two_callbacks :
    (topUpCalls StripeOrder.config).Run ⟨StripeOrder.start, []⟩ StripeOrder.both ∧
      StripeOrder.both.shared.userQuota = 10000000 ∧ StripeOrder.both.shared.credits =
        [5000000, 5000000] ∧
      StripeOrder.both.shared.left = [.success, .success] := by
  exact ⟨(topUpCalls StripeOrder.config).run_after _
    _, by decide +kernel, by decide +kernel, by decide +kernel⟩

end Allrouter
