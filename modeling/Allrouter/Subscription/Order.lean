import Allrouter.Billing.TopUp
import Allrouter.Subscription.Catalog

/-!
# Orders of subscriptions

An order reserves a slot of its plan when it is made. The confirmation of its payment turns the slot
into a subscription, and an order that expires gives the slot back. A confirmation may be repeated:
an order that has succeeded only has its bill and the income of its provider made up for.
Subscriptions are also issued without an order, and administrators edit the plans.

Transactions are functions on the tables (`Shop`) that fail as a whole. The history records the
subscriptions that orders have issued and the incomes that were credited; no transaction reads it.
-/

namespace Allrouter

open Civil Text Allotment Table

/-! ## Rows -/

/-- The row of a user. -/
structure ShopUser extends SubscriptionUser where
  group : String := "default"
  (quota usedQuota : ℤ := 0)
  deriving DecidableEq

/-- The status of an order. Older rows may lack one. -/
inductive OrderStatus
  | unset
  | pending
  | success
  | failed
  | expired
  deriving DecidableEq

/-- What has become of the slot of an order. Older orders have reserved none. -/
inductive StockStatus
  | unset
  | reserved
  | issued
  | released
  deriving DecidableEq

/-- The plan that an order has stored, as a text. -/
inductive PlanSnapshot
  | empty
  | malformed
  | plan (plan : CatalogPlan)
  deriving DecidableEq

/-- An order of a plan. -/
structure SubscriptionOrder where
  id : ℤ := 0
  (userId planId : ℤ)
  providerId : ℤ := 0
  /-- The price, in dollars. -/
  money : ℚ := 0
  currency : String := ""
  /-- The price, in the currency of the user. -/
  originalMoney : ℚ := 0
  (tradeNo paymentMethod : String)
  (paymentProvider paymentProductId : String := "")
  planSnapshot : PlanSnapshot := .empty
  status : OrderStatus := .unset
  (createTime completeTime : ℤ := 0)
  stockStatus : StockStatus := .unset
  stockExpiresAt : ℤ := 0
  providerPayload : String := ""
  deriving DecidableEq

/-- A bill, with the order or the income that it is for. -/
structure SubscriptionTopUp extends TopUp where
  (providerId sourceID createTime : ℤ := 0)
  deriving DecidableEq

/-- A payment on a chain, of an order of a subscription or of a top-up. -/
structure SubscriptionCryptoTransaction extends CryptoTransaction where
  (id subscriptionOrderId userId : ℤ)
  tradeNo : String
  deriving DecidableEq

/-- A reseller, and who owns it. -/
structure Provider where
  (id ownerUserId : ℤ)
  deriving DecidableEq

/-- What an order has led to. -/
inductive OrderEvent
  /-- A subscription, on a payment on a chain if there is a hash. -/
  | issued (orderId : ℤ) (txHash : Option String)
  | credited (orderId ownerUserId incomeQuota : ℤ)
  deriving DecidableEq

/-- The tables, and what the orders have led to. -/
structure Shop where
  users : List ShopUser := []
  plans : List CatalogPlan := []
  orders : List SubscriptionOrder := []
  subscriptions : List GroupSubscription := []
  topUps : List SubscriptionTopUp := []
  cryptoTransactions : List SubscriptionCryptoTransaction := []
  providers : List Provider := []
  history : List OrderEvent := []
  deriving DecidableEq

/-- The settings that orders depend on. -/
structure ShopConfig where
  loc : Location
  quotaPerUnit : ℚ

def nextKey (keys : List ℤ) : ℤ := keys.foldr max 0 + 1

/-- The rows that an order with a reserved slot has not left. -/
def SubscriptionOrder.Reserved (order : SubscriptionOrder) : Prop :=
  order.status = .pending ∧ order.stockStatus = .reserved

instance (order : SubscriptionOrder) : Decidable order.Reserved :=
  inferInstanceAs (Decidable (_ ∧ _))

/-! ## Prices -/

/-- A number to six decimals, with halves rounded away from zero. -/
def roundMicro (x : ℚ) : ℤ :=
  if x < 0 then -⌊-x * 1000000 + 1 / 2⌋ else ⌊x * 1000000 + 1 / 2⌋

def subscriptionAccountingMoneyMatches (quoted authoritative : ℚ) : Bool :=
  roundMicro quoted = roundMicro authoritative

def normalizeSubscriptionOrderCurrency (currency : String) : String :=
  match toUpper (trimSpace currency) with
  | "" | "$" | "USD" => "USD"
  | "€" | "EUR" => "EUR"
  | "￥" | "¥" | "CNY" | "RMB" => "CNY"
  | other => other

def equalFold (a b : String) : Bool := toLower a = toLower b

def expectedSubscriptionPaymentProductID (order : SubscriptionOrder) (plan : CatalogPlan) :
    String :=
  match toLower (trimSpace order.paymentProvider) with
  | "stripe" =>
    if normalizeSubscriptionOrderCurrency order.currency =
      "CNY" then trimSpace plan.stripePriceCnyId
    else trimSpace plan.stripePriceId
  | "creem" => trimSpace plan.creemProductId
  | "waffo_pancake" => trimSpace plan.waffoPancakeProductId
  | _ => trimSpace order.paymentProductId

def subscriptionCheckoutChanged : Error :=
  .text "subscription checkout configuration changed; retry checkout"

/-- The order with the price of the plan, unless it was made for another price or product. -/
def normalizeSubscriptionOrderPaymentSnapshot (order : SubscriptionOrder) (plan : CatalogPlan) :
    Except Error SubscriptionOrder :=
  if plan.priceAmount ≤ 0 then .error subscriptionCheckoutChanged
  else if order.paymentMethod = "crypto" ∨ equalFold (trimSpace order.paymentProvider) "crypto" then
    .ok { order with money := plan.priceAmount, originalMoney := plan.priceAmount }
  else if ¬subscriptionAccountingMoneyMatches order.money plan.priceAmount then .error
    subscriptionCheckoutChanged
  else if trimSpace order.paymentProductId ≠ expectedSubscriptionPaymentProductID order plan then
    .error subscriptionCheckoutChanged
  else if order.originalMoney < 0 then .error subscriptionCheckoutChanged
  else
    let isDollar : Bool := normalizeSubscriptionOrderCurrency order.currency = "USD"
    if order.originalMoney = 0 ∧ ¬isDollar then .error subscriptionCheckoutChanged
    else
      let originalMoney := if order.originalMoney = 0 then plan.priceAmount else order.originalMoney
      if isDollar ∧ |originalMoney - plan.priceAmount| >
        50001 / 10000000 then .error subscriptionCheckoutChanged
      else .ok { order with money := plan.priceAmount, originalMoney := originalMoney }

/-! ## Snapshots of plans -/

def subscriptionPlanSnapshotInvalid : Error := .text "invalid subscription plan snapshot"

def snapshotSubscriptionPlan (plan : CatalogPlan) : Except Error PlanSnapshot :=
  let copyPlan : CatalogPlan :=
    { plan.normalizeQuotaWindows with issuedCount := 0, reservedCount := 0 }
  if plan.id ≤ 0 then .error subscriptionPlanSnapshotInvalid
  else if (quotaPolicyFromPlan (some copyPlan.toSubscriptionPlan)).invalid then
    .error invalidSubscriptionQuotaPolicyError
  else .ok (.plan copyPlan)

def decodeSubscriptionPlanSnapshot (loc : Location) (planID providerID : ℤ) :
    PlanSnapshot → Except Error (Option CatalogPlan)
  | .empty => .ok none
  | .malformed => .error subscriptionPlanSnapshotInvalid
  | .plan snapshot =>
    let normalized := snapshot.normalizeQuotaWindows
    if snapshot.id ≤ 0 ∨ snapshot.id ≠ planID then .error subscriptionPlanSnapshotInvalid
    else if snapshot.providerId ≠ providerID then .error subscriptionPlanSnapshotInvalid
    else match calcPlanEndTime loc 0 normalized.toSubscriptionPlan with
      | .error _ => .error subscriptionPlanSnapshotInvalid
      | .ok _ =>
        if (quotaPolicyFromPlan (some normalized.toSubscriptionPlan)).invalid then
          .error subscriptionPlanSnapshotInvalid
        else .ok (some normalized)

/-- The plan that a subscription is issued with. A snapshot must be of the plan as it is sold. -/
def entitlementCatalogPlan (authoritativePlan : CatalogPlan) : Option CatalogPlan →
    Except Error CatalogPlan
  | none => .ok authoritativePlan
  | some entitlementSnapshot =>
    let snapshot := entitlementSnapshot.normalizeQuotaWindows
    if snapshot.id ≠ authoritativePlan.id ∨ snapshot.providerId ≠ authoritativePlan.providerId then
      .error subscriptionPlanSnapshotInvalid
    else match normalizeSubscriptionPurchaseLimitGroup authoritativePlan.purchaseLimitGroup,
        normalizeSubscriptionPurchaseLimitGroup snapshot.purchaseLimitGroup with
      | some currentGroup, some snapshotGroup =>
        if currentGroup ≠ snapshotGroup then .error subscriptionPlanSnapshotInvalid
          else .ok snapshot
      | _, _ => .error subscriptionPlanSnapshotInvalid

namespace Shop

variable (config : ShopConfig) (s : Shop) (now : ℤ)

def findUser (userId : ℤ) : Except Error ShopUser :=
  match get? (fun user : ShopUser => user.id) userId s.users with
  | none => .error .recordNotFound
  | some user => .ok user

def modifyUser (userId : ℤ) (f : ShopUser → ShopUser) : Shop :=
  { s with users := modify (fun user : ShopUser => user.id) userId f s.users }

def findOrder (tradeNo : String) : Except Error SubscriptionOrder :=
  match get? (fun order : SubscriptionOrder => order.tradeNo) tradeNo s.orders with
  | none => .error (.text "subscription order not found")
  | some order => .ok order

def saveOrder (order : SubscriptionOrder) : Shop :=
  { s with orders := put (fun order : SubscriptionOrder => order.id) order s.orders }

/-! ## The limit of a user -/

/-- The subscriptions of the user to the plans, and the orders that wait for their payment. -/
def purchases (userID : ℤ) (planIDs : List ℤ) : ℕ × ℕ :=
  (s.subscriptions.countP fun sub => sub.userId = userID ∧ sub.planId ∈ planIDs,
    s.orders.countP fun order => order.userId = userID ∧ order.planId ∈ planIDs ∧ order.Reserved)

def checkUserSubscriptionPurchaseScopeLimit (userID planID : ℤ) : Except Error Unit := do
  Except.require (0 < userID ∧ 0 < planID) (.text "invalid subscription purchase limit")
  let scope ← loadSubscriptionPurchaseScope s.plans planID
  let count := s.purchases userID scope.planIDs
  Except.require (scope.maxPerUser ≤ 0 ∨ addNonNegativeSaturated count.1 count.2 < scope.maxPerUser)
    (.text "已达到该套餐购买上限")

/-! ## Orders and subscriptions -/

/-- Makes an order, which reserves a slot of its plan. -/
def createSubscriptionOrder (draft : SubscriptionOrder) : Except Error Shop := do
  Except.require (0 < draft.userId ∧ 0 < draft.planId ∧ trimSpace draft.tradeNo ≠ "")
    (.text "invalid subscription order")
  let createTime := if draft.createTime = 0 then now else draft.createTime
  Except.require (draft.status = .unset ∨ draft.status = .pending)
    (.text "subscription order status invalid")
  Except.require (draft.stockStatus = .unset ∨
    draft.stockStatus = .reserved) subscriptionStockInvalid
  let user ← s.findUser draft.userId
  Except.require (user.providerId = draft.providerId)
    (.text "subscription provider does not match user provider")
  let scope ← loadSubscriptionPurchaseScope s.plans draft.planId
  let plan := scope.target
  Except.require (plan.providerId = draft.providerId)
    (.text "subscription plan does not belong to user provider")
  Except.require (plan.enabled = true ∧ plan.allowPurchase = 1) (.text "该套餐暂不允许订阅")
  s.checkUserSubscriptionPurchaseScopeLimit draft.userId draft.planId
  let order ← normalizeSubscriptionOrderPaymentSnapshot draft plan
  let planSnapshot ← snapshotSubscriptionPlan plan
  let plans ← reserveSubscriptionPlanStock s.plans draft.planId
  -- The number of the trade is a unique index of the orders.
  Except.require (∀ other ∈ s.orders, other.tradeNo ≠ draft.tradeNo)
    (.text "duplicate trade number")
  let stockExpiresAt := if draft.stockExpiresAt ≤ 0 then createTime + 45 * 60
    else draft.stockExpiresAt
  pure
    { s with
      plans := plans
      orders := s.orders ++
        [{ order with
          id := nextKey (s.orders.map (·.id))
          planSnapshot := planSnapshot
          status := .pending
          createTime := createTime
          stockStatus := .reserved
          stockExpiresAt := stockExpiresAt }] }

/-- Turns a reserved slot into an issued one, or takes a new one if the limit of the user allows
    it. -/
def allocateStock (userId planId : ℤ) (stockReserved : Bool) : Except Error (List CatalogPlan) :=
  if stockReserved then commitReservedSubscriptionPlanStock s.plans planId
  else do
    s.checkUserSubscriptionPurchaseScopeLimit userId planId
    issueSubscriptionPlanStock s.plans planId

/-- Adds a subscription, which moves its user to the group of the plan if there is one. -/
def addSubscription (user : ShopUser) (sub : UserSubscription) (planUpgradeGroup : String) : Shop :=
  let upgradeGroup := trimSpace planUpgradeGroup
  let moves : Bool := upgradeGroup ≠ "" && user.group ≠ upgradeGroup
  let moved := s.modifyUser user.id fun row => if moves then { row with group := upgradeGroup }
    else row
  { moved with
    subscriptions := s.subscriptions ++
      [{ sub with upgradeGroup := upgradeGroup, prevUserGroup := if moves then user.group
        else "" }] }

/-- Issues a subscription, for a slot that was reserved or for a new one. -/
def createUserSubscriptionFromPlanWithSnapshot (userId planId : ℤ)
    (entitlementSnapshot : Option CatalogPlan) (stockReserved : Bool) (orderProviderId : Option ℤ) :
      Except Error Shop := do
  Except.require (planId ≠ 0) (.text "invalid plan")
  Except.require (0 < userId) (.text "invalid user id")
  let lockedUser ← s.findUser userId
  let scope ← loadSubscriptionPurchaseScope s.plans planId
  let plan ← entitlementCatalogPlan scope.target.normalizeQuotaWindows entitlementSnapshot
  -- The provider of the plan is compared with that of the user below.
  let sub ← issueSubscription config.loc plan.toSubscriptionPlan
    (nextKey (s.subscriptions.map (·.id))) userId
    plan.providerId now
  let providerId := orderProviderId.getD lockedUser.providerId
  Except.require (providerId = lockedUser.providerId)
    (.text "subscription provider does not match user provider")
  Except.require (plan.providerId = providerId)
    (.text "subscription plan does not belong to user provider")
  let plans ← s.allocateStock userId plan.id stockReserved
  pure ({ s with plans := plans }.addSubscription lockedUser sub plan.upgradeGroup)

def createUserSubscriptionFromPlan (userId planId : ℤ) : Except Error Shop :=
  s.createUserSubscriptionFromPlanWithSnapshot config now userId planId none false none

/-! ## Bills -/

def subscriptionTopUpMismatch : Error := .text "subscription topup identity mismatch"

end Shop

def OrderStatus.topUpStatus : OrderStatus → TopUpStatus
  | unset => .pending
  | pending => .pending
  | success => .success
  | failed => .failed
  | expired => .expired

/-- The number of the bill of an income, one for each order. -/
def incomeTradeNo (orderId : ℤ) : String := "PROVIDER-SUBSCRIPTION-" ++ toString orderId

namespace SubscriptionOrder

variable (order : SubscriptionOrder) (now : ℤ)

def billTime : ℤ :=
  if order.status = .success ∧ order.completeTime = 0 then now else order.completeTime

def complete (payload : String) : SubscriptionOrder :=
  { order with
    status := .success
    stockStatus := .issued
    completeTime := now
    providerPayload := if payload = "" then order.providerPayload else payload }

def expire : SubscriptionOrder :=
  { order with
    stockStatus := if order.stockStatus = .reserved then .released else order.stockStatus
    status := .expired
    completeTime := now }

def bill : SubscriptionTopUp where
  id := 0
  userId := order.userId
  providerId := order.providerId
  amount := 0
  money := order.money
  tradeNo := order.tradeNo
  paymentMethod := order.paymentMethod
  paymentProvider := order.paymentProvider
  bizType := "subscription"
  sourceID := order.id
  createTime := order.createTime
  completeTime := order.billTime now
  status := order.status.topUpStatus
  currency := order.currency
  originalMoney := order.originalMoney

def incomeBill (ownerUserId incomeQuota : ℤ) : SubscriptionTopUp where
  id := 0
  providerId := order.providerId
  userId := ownerUserId
  amount := incomeQuota
  money := order.money
  tradeNo := incomeTradeNo order.id
  paymentMethod := "provider_subscription"
  paymentProvider := order.paymentProvider
  bizType := "payment"
  sourceID := order.id
  createTime := now
  completeTime := now
  status := .success
  currency := if order.currency = "" then "USD" else order.currency
  originalMoney := if order.originalMoney = 0 then order.money else order.originalMoney

end SubscriptionOrder

namespace SubscriptionTopUp

variable (topUp : SubscriptionTopUp) (order : SubscriptionOrder)

/-- A bill from before bills told what they are for. -/
def legacySubscriptionShape : Bool :=
  topUp.amount = 0 && topUp.sourceID = 0 && (toLower (trimSpace topUp.tradeNo)).toList.take 3 =
    "sub".toList

/-- The bill is that of the order, as far as it tells. -/
def matchesOrder : Bool :=
  (topUp.userId = 0 || topUp.userId = order.userId) &&
  (topUp.providerId = 0 || topUp.providerId = order.providerId) &&
  (trimSpace topUp.paymentMethod = "" ||
    equalFold (trimSpace topUp.paymentMethod) (trimSpace order.paymentMethod)) &&
  (trimSpace topUp.paymentProvider = "" || (trimSpace order.paymentProvider ≠ "" &&
    equalFold (trimSpace topUp.paymentProvider) (trimSpace order.paymentProvider))) &&
  (trimSpace topUp.bizType = "" || trimSpace topUp.bizType = "subscription" ||
    topUp.legacySubscriptionShape) &&
  (topUp.sourceID = 0 || topUp.sourceID = order.id) &&
  topUp.amount = 0 &&
  (topUp.money = 0 || subscriptionAccountingMoneyMatches topUp.money order.money) &&
  (topUp.originalMoney = 0 || order.originalMoney = 0 ||
    subscriptionAccountingMoneyMatches topUp.originalMoney order.originalMoney) &&
  (trimSpace topUp.currency = "" ||
    normalizeSubscriptionOrderCurrency topUp.currency =
      normalizeSubscriptionOrderCurrency order.currency)

/-- The bill with what the order tells. -/
def update (now : ℤ) : SubscriptionTopUp :=
  { topUp with
    userId := if topUp.userId = 0 then order.userId else topUp.userId
    money := order.money
    providerId := if topUp.providerId = 0 then order.providerId else topUp.providerId
    currency := if topUp.currency = "" then order.currency else topUp.currency
    originalMoney := if topUp.originalMoney = 0 then order.originalMoney else topUp.originalMoney
    paymentMethod := if topUp.paymentMethod = "" then order.paymentMethod else topUp.paymentMethod
    paymentProvider := if topUp.paymentProvider = "" then order.paymentProvider
      else topUp.paymentProvider
    bizType := if topUp.bizType = "" || topUp.legacySubscriptionShape then "subscription"
      else topUp.bizType
    sourceID := if topUp.sourceID = 0 then order.id else topUp.sourceID
    createTime := if topUp.createTime = 0 then order.createTime else topUp.createTime
    completeTime := order.billTime now
    status := order.status.topUpStatus }

/-- The bill of an income is that of the order and of its owner. -/
def matchesIncome (ownerUserId : ℤ) : Bool :=
  topUp.userId = ownerUserId &&
  (topUp.providerId = 0 || topUp.providerId = order.providerId) &&
  (trimSpace topUp.paymentMethod = "" || topUp.paymentMethod = "provider_subscription") &&
  (trimSpace topUp.paymentProvider = "" || trimSpace order.paymentProvider = "" ||
    equalFold topUp.paymentProvider order.paymentProvider) &&
  (trimSpace topUp.bizType = "" || topUp.bizType = "payment") &&
  (topUp.sourceID = 0 || topUp.sourceID = order.id) &&
  topUp.status = .success

end SubscriptionTopUp

namespace Shop

variable (config : ShopConfig) (s : Shop) (now : ℤ) (order : SubscriptionOrder)

def findTopUp (tradeNo : String) : Option SubscriptionTopUp :=
  get? (fun topUp : SubscriptionTopUp => topUp.tradeNo) tradeNo s.topUps

def addTopUp (topUp : SubscriptionTopUp) : Shop :=
  { s with topUps := s.topUps ++ [{ topUp with id := nextKey (s.topUps.map (·.id)) }] }

/-- The bill of the order, which must match it if it is there. -/
def upsertSubscriptionTopUp : Except Error Shop :=
  match s.findTopUp order.tradeNo with
  | none => .ok (s.addTopUp (order.bill now))
  | some topUp =>
    if topUp.matchesOrder order then
      .ok { s with
        topUps := put (fun topUp : SubscriptionTopUp => topUp.id)
          (topUp.update order now) s.topUps }
    else .error subscriptionTopUpMismatch

def createSubscriptionOrderWithTopUp (draft : SubscriptionOrder) : Except Error Shop := do
  let created ← s.createSubscriptionOrder now draft
  match created.orders.getLast? with
  | none => pure created
  | some order => created.upsertSubscriptionTopUp now order

/-- Credits the price of an order to the owner of its provider, with a bill of it. -/
def creditIncome (ownerUserId incomeQuota : ℤ) : Shop :=
  let credited := s.modifyUser ownerUserId fun user =>
    { user with quota := user.quota + incomeQuota }
  { credited.addTopUp (order.incomeBill now ownerUserId incomeQuota) with
    history := s.history ++ [.credited order.id ownerUserId incomeQuota] }

/-- Credits the price of an order to the owner of its provider, unless there is a bill of it. -/
def applyProviderSubscriptionIncome : Except Error Shop :=
  let incomeQuota := intPart (order.money * config.quotaPerUnit)
  if order.providerId ≤ 0 ∨ order.id ≤ 0 ∨ incomeQuota ≤ 0 then .ok s
  else match get? (fun provider : Provider => provider.id) order.providerId s.providers with
    | none => .error .recordNotFound
    | some provider =>
      if provider.ownerUserId ≤ 0 then .error (.text "provider owner user id is empty")
      else match s.findTopUp (incomeTradeNo order.id) with
        | some existing =>
          if existing.matchesIncome order provider.ownerUserId then .ok s
            else .error subscriptionTopUpMismatch
        | none => .ok (s.creditIncome now order provider.ownerUserId incomeQuota)

/-! ## Completion -/

/-- What a user has paid for counts as used. -/
def addUsedQuota (userId paidQuota : ℤ) : Shop :=
  s.modifyUser userId fun user => if paidQuota >
    0 then { user with usedQuota := user.usedQuota + paidQuota } else user

/-- The subscription of a paid order. -/
def issueSubscriptionOrder : Except Error Shop := do
  Except.require (¬(order.stockStatus = .reserved ∧ order.stockExpiresAt > 0 ∧
    order.stockExpiresAt ≤ now))
    subscriptionStockInvalid
  Except.require (0 < order.planId) (.text "invalid plan id")
  Except.require (s.plans.any fun plan => plan.id = order.planId) .recordNotFound
  let planSnapshot ← decodeSubscriptionPlanSnapshot config.loc order.planId order.providerId
    order.planSnapshot
  match order.stockStatus with
  | .reserved =>
    s.createUserSubscriptionFromPlanWithSnapshot config now order.userId order.planId
      planSnapshot true
      order.providerId
  | .unset =>
    s.createUserSubscriptionFromPlanWithSnapshot config now order.userId order.planId
      planSnapshot false
      order.providerId
  | _ => .error subscriptionStockInvalid

/-- Completes an order. One that has succeeded has its bill and its income made up for. The hash
    of a payment on a chain is for the history. -/
def completeSubscriptionOrderWith
    (tradeNo providerPayload expectedPaymentMethod expectedPaymentProvider : String)
    (txHash : Option String) : Except Error Shop := do
  Except.require (trimSpace tradeNo ≠ "") (.text "tradeNo is empty")
  let order ← s.findOrder tradeNo
  Except.require (expectedPaymentMethod = "" ∨ order.paymentMethod = expectedPaymentMethod)
    (.text "payment method mismatch")
  Except.require (expectedPaymentProvider = "" ∨ order.paymentProvider = expectedPaymentProvider ∨
    trimSpace order.paymentProvider = "") (.text "payment method mismatch")
  if order.status = .success then
    let billed ← s.upsertSubscriptionTopUp now order
    billed.applyProviderSubscriptionIncome config now order
  else do
    Except.require (order.status = .pending) (.text "subscription order status invalid")
    let issued ← s.issueSubscriptionOrder config now order
    let paid := issued.addUsedQuota order.userId (intPart (order.money * config.quotaPerUnit))
    let completed := order.complete now providerPayload
    let saved : Shop :=
      { paid.saveOrder completed with history := paid.history ++ [.issued order.id txHash] }
    let billed ← saved.upsertSubscriptionTopUp now completed
    billed.applyProviderSubscriptionIncome config now completed

def completeSubscriptionOrder
    (tradeNo providerPayload expectedPaymentMethod expectedPaymentProvider : String) :
    Except Error Shop :=
  s.completeSubscriptionOrderWith config now tradeNo providerPayload expectedPaymentMethod
    expectedPaymentProvider none

def cryptoTransactionHashUsed : Error := .text "crypto transaction hash already used"

def cryptoTransactionStatusInvalid : Error := .text "crypto transaction status invalid"

/-- The checks of the order of a payment on a chain that is confirmed for the first time. -/
def checkCryptoOrder (tradeNo txHash : String) (cryptoTx : SubscriptionCryptoTransaction) :
    Except Error Unit :=
  match get? (fun order : SubscriptionOrder => order.id) cryptoTx.subscriptionOrderId s.orders with
  | none => .error (.text "subscription order not found")
  | some order => do
    Except.require (order.tradeNo = tradeNo ∧ order.userId = cryptoTx.userId)
      (.text "crypto transaction does not match subscription order")
    Except.require (order.paymentMethod = "crypto" ∧
      (order.paymentProvider = "" ∨ order.paymentProvider = "crypto"))
      (.text "payment method mismatch")
    Except.require (order.status = .pending) (.text "subscription order status invalid")
    Except.require (∀ other ∈ s.cryptoTransactions, other.id ≠ cryptoTx.id →
      other.txHash.map toLower ≠ some (toLower txHash)) cryptoTransactionHashUsed

/-- Completes an order on a payment on a chain. A payment that was confirmed before is confirmed
    again with the same hash only. -/
def completeSubscriptionCryptoOrder (rawTradeNo providerPayload : String)
    (receipt : CryptoReceipt) :
    Except Error Shop := do
  let tradeNo := trimSpace rawTradeNo
  let txHash := normalizeTxHash receipt.txHash
  Except.require (tradeNo ≠ "") (.text "tradeNo is empty")
  Except.require (txHash ≠ "") (.text "tx hash is empty")
  match get? (fun tx : SubscriptionCryptoTransaction => tx.tradeNo) tradeNo
      s.cryptoTransactions with
  | none => .error (.text "crypto subscription transaction not found")
  | some cryptoTx => do
    Except.require (0 < cryptoTx.subscriptionOrderId ∧ cryptoTx.topUpId = 0)
      (.text "crypto transaction is not a subscription payment")
    Except.require (0 < cryptoTx.userId) (.text "crypto transaction user is invalid")
    let bound := (cryptoTx.txHash.getD "")
    if trimSpace bound ≠ "" then do
      Except.require (normalizeTxHash bound = txHash) cryptoTransactionHashUsed
      Except.require (cryptoTx.status = .success) cryptoTransactionStatusInvalid
      s.completeSubscriptionOrderWith config now tradeNo providerPayload "crypto" "crypto"
        (some txHash)
    else do
      Except.require (cryptoTx.status = .pending) cryptoTransactionStatusInvalid
      s.checkCryptoOrder tradeNo txHash cryptoTx
      let completed ← s.completeSubscriptionOrderWith config now tradeNo providerPayload "crypto"
        "crypto" (some txHash)
      let confirmed : SubscriptionCryptoTransaction :=
        { cryptoTx with
          txHash := some txHash
          payerAddress := toLower (trimSpace receipt.payerAddress)
          blockNumber := receipt.blockNumber
          confirmations := receipt.confirmations
          status := .success
          completeTime := now }
      pure
        { completed with
          cryptoTransactions :=
            put (fun tx : SubscriptionCryptoTransaction =>
              tx.id) confirmed completed.cryptoTransactions }

/-- Gives the slot of an order back, if it has reserved one. -/
def releaseStock (order : SubscriptionOrder) : Except Error (List CatalogPlan) :=
  if order.stockStatus = .reserved then releaseReservedSubscriptionPlanStock s.plans order.planId
    else .ok s.plans

/-- Expires an order that is pending, and gives its slot back. -/
def expireSubscriptionOrder (tradeNo expectedPaymentMethod : String) : Except Error Shop := do
  Except.require (tradeNo ≠ "") (.text "tradeNo is empty")
  let order ← s.findOrder tradeNo
  Except.require (expectedPaymentMethod = "" ∨ order.paymentMethod = expectedPaymentMethod)
    (.text "payment method mismatch")
  if order.status ≠ .pending then pure s
  else do
    let plans ← s.releaseStock order
    let expired := order.expire now
    ({ s with plans := plans }.saveOrder expired).upsertSubscriptionTopUp now expired

/-! ## Edits of plans -/

/-- The plans that are locked for an edit: the plan, its group and the group it comes into. -/
def lockedPlans (proposed : CatalogPlan) (proposedGroup : String)
    (current : Option (CatalogPlan × String)) :
    List CatalogPlan :=
  s.plans.filter fun plan =>
    (0 < proposed.id && plan.id = proposed.id) ||
    (match current with
      | none => false
      | some (row, currentGroup) =>
        currentGroup ≠ "" && plan.providerId = row.providerId &&
          plan.purchaseLimitGroup = currentGroup) ||
    (proposedGroup ≠ "" && plan.providerId = proposed.providerId &&
      plan.purchaseLimitGroup = proposedGroup)

/-- The row of the plan of an edit and the key of its group. The provider and the group of a plan
    stay while orders of the plan are pending. -/
def currentPlan (proposed : CatalogPlan) (proposedGroup : String) :
    Except Error (Option (CatalogPlan × String)) :=
  if proposed.id ≤ 0 then .ok none
  else match get? (fun plan : CatalogPlan => plan.id) proposed.id s.plans with
    | none => .error .recordNotFound
    | some current =>
      match normalizeSubscriptionPurchaseLimitGroup current.purchaseLimitGroup with
      | none => .error (.text "invalid existing subscription purchase limit group")
      | some lockedGroup =>
        if (current.providerId ≠ proposed.providerId ∨ lockedGroup ≠ proposedGroup) ∧
            (s.orders.countP fun order => order.planId = proposed.id ∧
              order.status = .pending) > 0 then
          .error (.text "subscription plan has pending orders")
        else .ok (some (current, lockedGroup))

/-- What a plan that is edited has allocated so far. -/
def currentCount (count : CatalogPlan → ℤ) : Option (CatalogPlan × String) → ℤ
  | none => 0
  | some (row, _) => addNonNegativeSaturated 0 (count row)

/-- The plan with the key of its group, if the limit of the group it comes into leaves room for what
    is allocated. -/
def validateSubscriptionPlanPurchaseLimits (proposed : CatalogPlan) : Except Error CatalogPlan :=
  let limitTooSmall : Error := .text "全局发放上限不能小于已发放和预占数量"
  if proposed.totalPurchaseLimit < 0 ∨ proposed.maxPurchasePerUser < 0 then .error limitTooSmall
  else match normalizeSubscriptionPurchaseLimitGroup proposed.purchaseLimitGroup with
    | none => .error (.text "invalid subscription purchase limit group")
    | some proposedGroup => do
      let current ← s.currentPlan proposed proposedGroup
      let members := if proposedGroup = "" then [] else
        (s.lockedPlans proposed proposedGroup current).filter fun member =>
          member.id ≠ proposed.id ∧ member.providerId = proposed.providerId ∧
            normalizeSubscriptionPurchaseLimitGroup member.purchaseLimitGroup = some proposedGroup
      let issued := (members.map (·.issuedCount)).foldl addNonNegativeSaturated
        (currentCount (·.issuedCount) current)
      let reserved := (members.map (·.reservedCount)).foldl addNonNegativeSaturated
        (currentCount (·.reservedCount) current)
      let effectiveLimit :=
        (members.map (·.totalPurchaseLimit)).foldl minPositiveInt64 proposed.totalPurchaseLimit
      Except.require (¬(effectiveLimit > 0 ∧ addNonNegativeSaturated issued reserved >
        effectiveLimit)) limitTooSmall
      pure { proposed with purchaseLimitGroup := proposedGroup }

def createSubscriptionPlan (plan : CatalogPlan) : Except Error Shop := do
  let plan ← s.validateSubscriptionPlanPurchaseLimits
    { plan with id := 0, issuedCount := 0, reservedCount := 0 }
  pure { s with plans := s.plans ++ [plan.withId (nextKey (s.plans.map (·.id)))] }

/-- Edits a plan. The counts are not columns of the update. -/
def updateSubscriptionPlan (plan : CatalogPlan) : Except Error Shop := do
  Except.require (0 < plan.id) (.text "无效的ID")
  let plan ← s.validateSubscriptionPlanPurchaseLimits plan
  pure { s with
    plans := modify (fun plan : CatalogPlan => plan.id) plan.id plan.withCountsOf s.plans }

end Shop

/-! ## Transactions -/

/-- The calls on the shop. -/
inductive ShopOp
  | createOrder (draft : SubscriptionOrder)
  | createOrderWithTopUp (draft : SubscriptionOrder)
  | complete (tradeNo providerPayload expectedPaymentMethod expectedPaymentProvider : String)
  | completeCrypto (tradeNo providerPayload : String) (receipt : CryptoReceipt)
  | expire (tradeNo expectedPaymentMethod : String)
  | issue (userId planId : ℤ)
  | createPlan (plan : CatalogPlan)
  | updatePlan (plan : CatalogPlan)

def ShopOp.perform (config : ShopConfig) (now : ℤ) (s : Shop) : ShopOp → Except Error Shop
  | createOrder draft => s.createSubscriptionOrder now draft
  | createOrderWithTopUp draft => s.createSubscriptionOrderWithTopUp now draft
  | complete tradeNo providerPayload expectedPaymentMethod expectedPaymentProvider =>
    s.completeSubscriptionOrder config now tradeNo providerPayload expectedPaymentMethod
      expectedPaymentProvider
  | completeCrypto tradeNo providerPayload receipt =>
    s.completeSubscriptionCryptoOrder config now tradeNo providerPayload receipt
  | expire tradeNo expectedPaymentMethod =>
    s.expireSubscriptionOrder now tradeNo expectedPaymentMethod
  | issue userId planId => s.createUserSubscriptionFromPlan config now userId planId
  | createPlan plan => s.createSubscriptionPlan plan
  | updatePlan plan => s.updateSubscriptionPlan plan

/-- One transaction, of a call that is allowed. One that fails changes nothing. -/
def ShopStep (config : ShopConfig) (Allowed : ShopOp → Prop) (s s' : Shop) : Prop :=
  ∃ op, Allowed op ∧ ∃ now, s' = commit s (op.perform config now s)

/-- One call after the other, each at its time. -/
def Shop.play (config : ShopConfig) (s : Shop) (calls : List (ℤ × ShopOp)) : Shop :=
  calls.foldl (fun s call => commit s (call.2.perform config call.1 s)) s

lemma Shop.run_play {config : ShopConfig} {Allowed : ShopOp → Prop} {s : Shop}
    {calls : List (ℤ × ShopOp)} (h : ∀ call ∈ calls, Allowed call.2) :
      Relation.ReflTransGen (ShopStep config Allowed) s (s.play config calls) := by
  induction calls generalizing s with
  | nil => exact .refl
  | cons call calls ih =>
    rw [List.forall_mem_cons] at h
    exact .head ⟨call.2, h.1, call.1, rfl⟩ (ih h.2)

end Allrouter
