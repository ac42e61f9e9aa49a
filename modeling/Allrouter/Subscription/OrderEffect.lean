import Allrouter.Subscription.Order

/-!
# What the transactions of the shop change

Every transaction changes the plans, the orders and the subscriptions in one of a few ways
(`StockEffect`): an order reserves a slot, a slot is issued or released (`SaleEffect`), or a plan is
edited (`ShopOp.effect`). What a shop keeps is then shown for each of them.
-/

namespace Allrouter

open Civil Text Allotment Shop List Except Table CatalogPlan

/-! ## Keys -/

lemma lt_nextKey {keys : List ℤ} {k : ℤ} (h : k ∈ 0 :: keys) : k < nextKey keys := by
  rw [nextKey, Int.lt_add_one_iff]
  induction keys with
  | nil => exact (mem_singleton.1 h).le
  | cons k' keys ih =>
    rw [foldr_cons, le_max_iff]
    rcases mem_cons.1 h with rfl | h
    · exact .inr (ih mem_cons_self)
    · exact (mem_cons.1 h).imp (·.le) fun h => ih (mem_cons_of_mem _ h)

lemma ne_nextKey {α : Type} {rows : List α} {row : α} (key : α → ℤ) (h : row ∈ rows) :
    key row ≠ nextKey (rows.map key) :=
  (lt_nextKey (mem_cons_of_mem _ (mem_map_of_mem h))).ne

/-- No two plans and no two orders have one id. -/
structure Shop.WellFormed (s : Shop) : Prop where
  plans : Table.Keyed (fun plan : CatalogPlan => plan.id) s.plans
  orders : Table.Keyed (fun order : SubscriptionOrder => order.id) s.orders

/-! ## Effects -/

def scopePlanIDs (catalog : List CatalogPlan) (key : ScopeKey) : List ℤ :=
  (catalog.filter (·.scopeKey = some key)).map (·.id)

/-- The limit of a user in a scope, if it is positive. -/
def scopeMaxPerUser (catalog : List CatalogPlan) (key : ScopeKey) : ℤ :=
  leastPositive ((catalog.filter (·.scopeKey = some key)).map (·.maxPurchasePerUser))

/-- The limit of the user in the scope of the plan leaves room for one more. -/
def UserHasRoom (s : Shop) (userId : ℤ) (plan : CatalogPlan) : Prop :=
  ∀ key, plan.scopeKey = some key → 0 < scopeMaxPerUser s.plans key →
    min ((s.purchases userId (scopePlanIDs s.plans key)).1 +
      (s.purchases userId (scopePlanIDs s.plans key)).2 : ℤ)
      maxInt64 < scopeMaxPerUser s.plans key

/-- The order is completed, and its stock issued. -/
structure SubscriptionOrder.Completes (order order' : SubscriptionOrder) : Prop where
  id : order'.id = order.id
  userId : order'.userId = order.userId
  planId : order'.planId = order.planId
  pending : order.status = .pending
  success : order'.status = .success
  issued : order'.stockStatus = .issued

/-- The order expires, and its stock is released. -/
structure SubscriptionOrder.Expires (order order' : SubscriptionOrder) : Prop where
  id : order'.id = order.id
  pending : order.status = .pending
  expired : order'.status = .expired
  stock : order'.stockStatus = if order.stockStatus = .reserved then .released
    else order.stockStatus

variable {order order' : SubscriptionOrder} {orders : List SubscriptionOrder}

lemma SubscriptionOrder.Completes.not_reserved (h : order.Completes order') : ¬order'.Reserved := by
  intro hreserved
  simp [SubscriptionOrder.Reserved, h.success] at hreserved

lemma SubscriptionOrder.Expires.not_reserved (h : order.Expires order') : ¬order'.Reserved := by
  intro hreserved
  simp [SubscriptionOrder.Reserved, h.expired] at hreserved

/-- The orders of a kind that have a reserved slot. -/
def waiting (p : SubscriptionOrder → Prop) [DecidablePred p] (orders : List SubscriptionOrder) :
    ℕ :=
  orders.countP fun order => p order ∧ order.Reserved

lemma waiting_append (p : SubscriptionOrder → Prop) [DecidablePred p] (hreserved : order.Reserved) :
    waiting p (orders ++ [order]) = waiting p orders + if p order then 1 else 0 := by
  simp [waiting, hreserved]

lemma waiting_put (p : SubscriptionOrder → Prop) [DecidablePred p]
    (horders : Table.Keyed (fun order : SubscriptionOrder => order.id) orders)
    (horder : order ∈ orders) (hid : order'.id = order.id) (hnot : ¬order'.Reserved) :
    waiting p (put (fun order => order.id) order' orders) + (if p order ∧
      order.Reserved then 1 else 0) =
      waiting p orders := by
  have h := countP_put (fun order : SubscriptionOrder => decide (p order ∧ order.Reserved)) horders
    horder hid.symm
  simpa [waiting, hnot] using h

/-- A plan that is edited to come into the scope of `plan'` fits its limits. -/
def FitsScope (catalog : List CatalogPlan) (plan' : CatalogPlan) : Prop :=
  ∀ key, plan'.scopeKey = some key → ∀ other ∈ catalog, other.scopeKey = some key →
    0 < other.totalPurchaseLimit →
    min (total scopeKey allocated catalog key) maxInt64 ≤ other.totalPurchaseLimit

/-- What a sale changes of the plans, the orders and the subscriptions. -/
inductive SaleEffect (s s' : Shop) : Prop
  | keep (hplans : s'.plans = s.plans) (horders : s'.orders = s.orders)
      (hsubs : s'.subscriptions = s.subscriptions)
  | reserve (plan : CatalogPlan) (order : SubscriptionOrder) (hplan : plan ∈ s.plans)
      (hroom : HasRoom s.plans plan) (huser : UserHasRoom s order.userId plan)
      (hid : order.id = nextKey (s.orders.map (·.id))) (hplanId : order.planId = plan.id)
      (hreserved : order.Reserved)
      (hplans : s'.plans =
        put (fun plan => plan.id) { plan with reservedCount := plan.reservedCount + 1 } s.plans)
      (horders : s'.orders = s.orders ++ [order]) (hsubs : s'.subscriptions = s.subscriptions)
  | issue (plan : CatalogPlan) (sub : GroupSubscription) (hplan : plan ∈ s.plans)
      (hroom : HasRoom s.plans plan) (huser : UserHasRoom s sub.userId plan)
      (hplanId : sub.planId = plan.id)
      (hplans : s'.plans = put (fun plan => plan.id) { plan with issuedCount := plan.issuedCount +
        1 } s.plans)
      (hsubs : s'.subscriptions = s.subscriptions ++ [sub])
      (horders : s'.orders = s.orders ∨ ∃ order ∈ s.orders, ∃ order', order.Completes order' ∧
        ¬order.Reserved ∧
        s'.orders = put (fun order => order.id) order' s.orders)
  | commit (plan : CatalogPlan) (order order' : SubscriptionOrder) (sub : GroupSubscription)
    (hplan : plan ∈ s.plans)
      (horder : order ∈ s.orders) (hreserved : order.Reserved) (hcompletes : order.Completes order')
      (hplanId : order.planId = plan.id) (hsubPlan : sub.planId = plan.id)
      (hsubUser : sub.userId = order.userId)
      (hplans : s'.plans = put (fun plan => plan.id)
        { plan with reservedCount := plan.reservedCount - 1, issuedCount := plan.issuedCount +
          1 } s.plans)
      (horders : s'.orders = put (fun order => order.id) order' s.orders)
      (hsubs : s'.subscriptions = s.subscriptions ++ [sub])
  | release (plan : CatalogPlan) (order order' : SubscriptionOrder) (hplan : plan ∈ s.plans)
      (horder : order ∈ s.orders) (hreserved : order.Reserved) (hexpires : order.Expires order')
      (hplanId : order.planId = plan.id)
      (hplans : s'.plans =
        put (fun plan => plan.id) { plan with reservedCount := plan.reservedCount - 1 } s.plans)
      (horders : s'.orders = put (fun order => order.id) order' s.orders)
      (hsubs : s'.subscriptions = s.subscriptions)
  | lapse (order order' : SubscriptionOrder) (horder : order ∈ s.orders) (hnot : ¬order.Reserved)
      (hexpires : order.Expires order') (hplans : s'.plans = s.plans)
      (horders : s'.orders = put (fun order => order.id) order' s.orders)
      (hsubs : s'.subscriptions = s.subscriptions)

/-- What a transaction changes of the plans, the orders and the subscriptions. -/
inductive StockEffect (s s' : Shop) : Prop
  | sale (h : SaleEffect s s')
  | addPlan (plan : CatalogPlan) (hid : plan.id = nextKey (s.plans.map (·.id)))
    (hissued : plan.issuedCount = 0)
      (hreserved : plan.reservedCount = 0) (hfits : FitsScope (s.plans ++ [plan]) plan)
      (hplans : s'.plans = s.plans ++ [plan]) (horders : s'.orders = s.orders)
      (hsubs : s'.subscriptions = s.subscriptions)
  | editPlan (row plan : CatalogPlan) (hrow : row ∈ s.plans) (hid : plan.id = row.id)
      (hissued : plan.issuedCount = row.issuedCount)
      (hreserved : plan.reservedCount = row.reservedCount)
      (hfits : FitsScope (put (fun plan => plan.id) plan s.plans) plan)
      (hplans : s'.plans = put (fun plan => plan.id) plan s.plans) (horders : s'.orders = s.orders)
      (hsubs : s'.subscriptions = s.subscriptions)

section

variable {config : ShopConfig} {s s' : Shop} {now : ℤ} {order : SubscriptionOrder}
    {userId planId : ℤ}

/-! ## Bills and incomes -/

/-- Bills are added and brought up to date, but keep their numbers. -/
inductive BillsStep (topUps : List SubscriptionTopUp) : List SubscriptionTopUp → Prop
  | add (bill : SubscriptionTopUp) (hid : bill.id = nextKey (topUps.map (·.id))) :
    BillsStep topUps (topUps ++ [bill])
  | update (topUp topUp' : SubscriptionTopUp) (htopUp : topUp ∈ topUps) (hid : topUp'.id = topUp.id)
      (htradeNo : topUp'.tradeNo = topUp.tradeNo) : BillsStep topUps
        (put (fun topUp => topUp.id) topUp' topUps)

lemma Shop.upsertTopUp_eq_ok (h : s.upsertSubscriptionTopUp now order = .ok s') :
    ∃ topUps, BillsStep s.topUps topUps ∧ s' = { s with topUps := topUps } := by
  rw [upsertSubscriptionTopUp] at h
  split at h
  · refine ⟨_, .add { order.bill now with id := _ } rfl, (ok.inj h).symm⟩
  · rename_i topUp hget
    split_ifs at h
    exact ⟨_, .update topUp (topUp.update order now) (get?_eq_some hget).1 rfl rfl, (ok.inj h).symm⟩

lemma Shop.applyIncome_eq_ok (h : s.applyProviderSubscriptionIncome config now order = .ok s') :
    s' = s ∨ ∃ ownerUserId incomeQuota,
      (∀ topUp ∈ s.topUps, topUp.tradeNo ≠ incomeTradeNo order.id) ∧
      s' = s.creditIncome now order ownerUserId incomeQuota := by
  simp only [applyProviderSubscriptionIncome] at h
  split_ifs at h
  · exact .inl (ok.inj h).symm
  split at h
  · cases h
  split_ifs at h
  split at h
  · split_ifs at h
    exact .inl (ok.inj h).symm
  · rename_i hnone
    exact .inr ⟨_, _, get?_eq_none.1 hnone, (ok.inj h).symm⟩

/-- Bills and incomes leave the plans, the orders and the subscriptions as they are. -/
structure SameStock (s s' : Shop) : Prop where
  plans : s'.plans = s.plans
  orders : s'.orders = s.orders
  subscriptions : s'.subscriptions = s.subscriptions

variable {current : Option (CatalogPlan × String)}
  {expectedPaymentMethod expectedPaymentProvider providerPayload rawTradeNo tradeNo : String}
  {f : ShopUser → ShopUser} {op : ShopOp} {plan plan' proposed : CatalogPlan}
  {plans : List CatalogPlan} {receipt : CryptoReceipt} {snapshot : Option CatalogPlan}
  {stockReserved : Bool} {s₁ : Shop} {txHash : Option String} {users : List ShopUser}

lemma SameStock.trans {s₂ s₃ : Shop} (h : SameStock s₁ s₂) (h' : SameStock s₂ s₃) :
    SameStock s₁ s₃ :=
  ⟨h'.plans.trans h.plans, h'.orders.trans h.orders, h'.subscriptions.trans h.subscriptions⟩

lemma sameStock_upsert (h : s.upsertSubscriptionTopUp now order = .ok s') : SameStock s s' := by
  obtain ⟨topUps, -, rfl⟩ := upsertTopUp_eq_ok h
  exact ⟨rfl, rfl, rfl⟩

/-! ## Orders and subscriptions -/

lemma Shop.findOrder_eq_ok (h : s.findOrder tradeNo = .ok order) :
    get? (fun order : SubscriptionOrder => order.tradeNo) tradeNo s.orders = some order := by
  rw [findOrder] at h
  split at h
  · cases h
  · rename_i hget
    rw [hget, ok.inj h]

lemma Shop.checkScopeLimit_eq_ok (hs : s.WellFormed) (hplan : plan ∈ s.plans)
    {u : Unit} (h : s.checkUserSubscriptionPurchaseScopeLimit userId plan.id = .ok u) :
      UserHasRoom s userId plan := by
  obtain ⟨-, h⟩ := require_bind_eq_ok.1 h
  obtain ⟨scope, hscope, h⟩ := bind_eq_ok.1 h
  have hroom := Except.require_eq_ok.1 h
  obtain ⟨target, htarget, hid, key, hkey, -, group, rfl⟩ := loadPurchaseScope_eq_ok hs.plans hscope
  obtain rfl := hs.plans.eq_of_mem htarget hplan hid
  intro key' hkey' hpos
  obtain rfl : key = key' := Option.some.inj (hkey.symm.trans hkey')
  exact (min_le_addSaturated (Int.natCast_nonneg _) (Int.natCast_nonneg _)).trans_lt
    (hroom.resolve_left (not_le.2 hpos))

lemma paymentSnapshot_eq_ok {order' : SubscriptionOrder}
    (h : normalizeSubscriptionOrderPaymentSnapshot order plan = .ok order') :
    order'.userId = order.userId ∧ order'.planId = order.planId := by
  rw [normalizeSubscriptionOrderPaymentSnapshot, guard_eq_ok] at h
  obtain ⟨-, h⟩ := h
  split at h
  · obtain rfl := ok.inj h
    exact ⟨rfl, rfl⟩
  · simp only [guard_eq_ok] at h
    obtain ⟨-, -, -, -, -, h⟩ := h
    obtain rfl := ok.inj h
    exact ⟨rfl, rfl⟩

lemma Shop.createSubscriptionOrder_effect (hs : s.WellFormed) {draft : SubscriptionOrder}
    (h : s.createSubscriptionOrder now draft = .ok s') : SaleEffect s s' := by
  simp only [createSubscriptionOrder, bind_eq_ok] at h
  obtain ⟨_, -, _, -, _, -, user, -, _, -, scope, -, _, -, _, -, _, hlimit, order, horder, snapshot,
    -, plans, hplans,
    _, -, h⟩ := h
  obtain rfl := ok.inj h
  obtain ⟨plan, hplan, hid, hroom, rfl⟩ := incrementScopeStock_eq_ok hs.plans hplans
  obtain ⟨huserId, hplanId⟩ := paymentSnapshot_eq_ok horder
  rw [← hid] at hlimit
  have huser := checkScopeLimit_eq_ok hs hplan hlimit
  rw [← huserId] at huser
  refine .reserve plan _ hplan hroom ?_ ?_ ?_ ?_ rfl rfl rfl
  exacts [huser, rfl, hplanId.trans hid.symm, ⟨rfl, rfl⟩]

/-! ## Issuance -/

lemma entitlementCatalogPlan_eq_ok {authoritativePlan : CatalogPlan}
    (h : entitlementCatalogPlan authoritativePlan snapshot = .ok plan) :
      plan.id = authoritativePlan.id := by
  cases snapshot with
  | none => rw [← ok.inj h]
  | some entitlementSnapshot =>
    simp only [entitlementCatalogPlan] at h
    split_ifs at h with hsame
    split at h
    · split_ifs at h
      rw [← ok.inj h]
      exact not_ne_iff.1 (not_or.1 hsame).1
    · cases h

lemma planId_of_issueSubscription {loc : Location} {plan : SubscriptionPlan}
    {id userId providerId : ℤ} {sub : UserSubscription}
    (h : issueSubscription loc plan id userId providerId now = .ok sub) :
    sub.planId = plan.id ∧ sub.userId = userId := by
  rw [issueSubscription] at h
  split at h
  · cases h
  · dsimp only at h
    split_ifs at h <;> cases h <;> exact ⟨rfl, rfl⟩

/-- A slot that is issued: one that was reserved, or a new one. -/
def Issues (s : Shop) (userId : ℤ) (plan plan' : CatalogPlan) : Bool → Prop
  | true => plan' =
    { plan with reservedCount := plan.reservedCount - 1, issuedCount := plan.issuedCount + 1 }
  | false => plan' = { plan with issuedCount := plan.issuedCount + 1 } ∧ HasRoom s.plans plan ∧
    UserHasRoom s userId plan

lemma Shop.allocateStock_eq_ok (hs : s.WellFormed)
    (h : s.allocateStock userId planId stockReserved = .ok plans) :
    ∃ plan ∈ s.plans, plan.id = planId ∧ ∃ plan', plans = put (fun plan => plan.id) plan' s.plans ∧
      Issues s userId plan plan' stockReserved := by
  cases stockReserved with
  | true =>
    obtain ⟨plan, hplan, hid, rfl⟩ := updateStock_eq_ok hs.plans h fun _ => rfl
    exact ⟨plan, hplan, hid, _, rfl, rfl⟩
  | false =>
    obtain ⟨_, hlimit, h⟩ := bind_eq_ok.1 h
    obtain ⟨plan, hplan, rfl, hroom, rfl⟩ := incrementScopeStock_eq_ok hs.plans h
    exact ⟨plan, hplan, rfl, _, rfl, rfl, hroom, s.checkScopeLimit_eq_ok hs hplan hlimit⟩

lemma Shop.addSubscription_eq (s : Shop) (user : ShopUser) (sub : UserSubscription)
    (planUpgradeGroup : String) :
    ∃ (f : ShopUser → ShopUser) (row : GroupSubscription), (∀ user, (f user).id = user.id ∧
      (f user).quota = user.quota) ∧
      row.toUserSubscription = sub ∧ s.addSubscription user sub planUpgradeGroup =
        { s with users := s.users.map f, subscriptions := s.subscriptions ++ [row] } := by
  refine ⟨_, _, fun row => ?_, ?_, rfl⟩
  · dsimp only
    split_ifs <;> exact ⟨rfl, rfl⟩
  · rfl

/-- An issued subscription, for a slot that was reserved or for a new one. -/
lemma Shop.createUserSubscription_eq_ok (hs : s.WellFormed) {providerId : Option ℤ}
    (h : s.createUserSubscriptionFromPlanWithSnapshot config now userId planId snapshot
      stockReserved providerId = .ok s') :
    ∃ plan ∈ s.plans, plan.id = planId ∧ ∃ (plan' : CatalogPlan) (sub : GroupSubscription)
    (f : ShopUser → ShopUser),
      Issues s userId plan plan' stockReserved ∧ sub.planId = planId ∧ sub.userId = userId ∧
      (∀ user, (f user).id = user.id ∧ (f user).quota = user.quota) ∧
      s' = { s with
        users := s.users.map f
        plans := put (fun plan => plan.id) plan' s.plans
        subscriptions := s.subscriptions ++ [sub] } := by
  simp only [createUserSubscriptionFromPlanWithSnapshot, bind_eq_ok] at h
  obtain ⟨_, -, _, -, user, -, scope, hscope, plan, hplan, sub, hsub, _, -, _, -, plans,
    hplans, h⟩ := h
  obtain rfl := ok.inj h
  obtain ⟨target, htarget, hid, key, -, -, group, rfl⟩ := loadPurchaseScope_eq_ok hs.plans hscope
  have hplanId :=
    (entitlementCatalogPlan_eq_ok hplan).trans ((normalizeQuotaWindows_id _).trans hid)
  obtain ⟨hsubPlan, hsubUser⟩ := planId_of_issueSubscription hsub
  obtain ⟨row, hrow, hrowId, plan', rfl, hcount⟩ := allocateStock_eq_ok hs hplans
  obtain ⟨f, sub', hf, rfl, hadd⟩ :=
    addSubscription_eq { s with plans := _ } user sub plan.upgradeGroup
  exact ⟨row, hrow, hrowId.trans hplanId, plan', sub', f, hcount, hsubPlan.trans hplanId,
    hsubUser, hf, hadd⟩

/-- A subscription that is issued without an order. -/
lemma Shop.createUserSubscriptionFromPlan_effect (hs : s.WellFormed)
    (h : s.createUserSubscriptionFromPlan config now userId planId = .ok s') : SaleEffect s s' := by
  obtain ⟨plan, hplan, rfl, plan', sub, f, ⟨rfl, hroom, huser⟩, hplanId, rfl, -, rfl⟩ :=
    createUserSubscription_eq_ok hs h
  exact .issue plan sub hplan hroom huser hplanId rfl rfl (.inl rfl)

/-! ## Completion and expiry -/

lemma Shop.issueSubscriptionOrder_eq_ok (h : s.issueSubscriptionOrder config now order = .ok s') :
    ∃ snapshot reserved providerId, s.createUserSubscriptionFromPlanWithSnapshot config now
      order.userId order.planId
      snapshot reserved providerId = .ok s' ∧ order.stockStatus = if reserved then .reserved
        else .unset := by
  simp only [issueSubscriptionOrder, bind_eq_ok] at h
  obtain ⟨_, -, _, -, _, -, snapshot, -, h⟩ := h
  split at h
  case h_1 hstock => exact ⟨_, true, _, h, hstock⟩
  case h_2 hstock => exact ⟨_, false, _, h, hstock⟩
  case h_3 => cases h

def UsersKept (users users' : List ShopUser) : Prop :=
  users'.map (fun user => (user.id, user.quota)) = users.map fun user => (user.id, user.quota)

lemma usersKept_map
    (hf : ∀ user, (f user).id = user.id ∧ (f user).quota = user.quota) :
      UsersKept users (users.map f) := by
  rw [UsersKept, map_map]
  exact map_congr_left fun user _ => Prod.ext (hf user).1 (hf user).2

lemma UsersKept.modify {users' : List ShopUser} (h : UsersKept users users') (userId : ℤ)
    (hf : ∀ user, (f user).id = user.id ∧ (f user).quota = user.quota) :
    UsersKept users (modify (fun user : ShopUser => user.id) userId f users') := by
  refine (usersKept_map fun user => ?_).trans h
  split_ifs
  · exact hf user
  · exact ⟨rfl, rfl⟩

/-- The state in which the order of a payment was saved, before its bill. -/
structure Shop.Completed (s : Shop) (order completed : SubscriptionOrder) (txHash : Option String)
    (s' : Shop) : Prop where
  completes : order.Completes completed
  tradeNo : completed.tradeNo = order.tradeNo
  orders : s'.orders = put (fun order => order.id) completed s.orders
  history : s'.history = s.history ++ [.issued order.id txHash]
  topUps : s'.topUps = s.topUps
  cryptoTransactions : s'.cryptoTransactions = s.cryptoTransactions
  users : UsersKept s.users s'.users
  stock : ∃ plan ∈ s.plans, plan.id = order.planId ∧
    ∃ (plan' : CatalogPlan) (sub : GroupSubscription),
    (order.stockStatus = .reserved ∧ Issues s order.userId plan plan' true ∨
      order.stockStatus = .unset ∧ Issues s order.userId plan plan' false) ∧
    sub.planId = order.planId ∧ sub.userId = order.userId ∧
    s'.plans = put (fun plan => plan.id) plan' s.plans ∧ s'.subscriptions = s.subscriptions ++ [sub]

/-- A completion makes up for the bill and the income of an order that has succeeded, or of one that
    it issues. -/
lemma Shop.completeWith_eq_ok (hs : s.WellFormed)
    (h : s.completeSubscriptionOrderWith config now tradeNo providerPayload expectedPaymentMethod
      expectedPaymentProvider txHash = .ok s') :
    ∃ order, get? (fun order : SubscriptionOrder => order.tradeNo) tradeNo s.orders = some order ∧
      ∃ (saved billed : Shop) (final : SubscriptionOrder), saved.upsertSubscriptionTopUp now final =
        .ok billed ∧
        billed.applyProviderSubscriptionIncome config now final = .ok s' ∧
        (order.status = .success ∧ saved = s ∨ Shop.Completed s order final txHash saved) := by
  obtain ⟨-, h⟩ := require_bind_eq_ok.1 h
  obtain ⟨order, horder, h⟩ := bind_eq_ok.1 h
  obtain ⟨-, h⟩ := require_bind_eq_ok.1 h
  obtain ⟨-, h⟩ := require_bind_eq_ok.1 h
  refine ⟨order, findOrder_eq_ok horder, ?_⟩
  split at h
  case isTrue hsuccess =>
    obtain ⟨billed, hbilled, h⟩ := bind_eq_ok.1 h
    exact ⟨s, billed, order, hbilled, h, .inl ⟨hsuccess, rfl⟩⟩
  case isFalse =>
    obtain ⟨hpending, h⟩ := require_bind_eq_ok.1 h
    obtain ⟨issued, hissued, h⟩ := bind_eq_ok.1 h
    obtain ⟨billed, hbilled, h⟩ := bind_eq_ok.1 h
    refine ⟨_, billed, _, hbilled, h, .inr ?_⟩
    obtain ⟨snapshot, reserved, providerId, hcreate, hstock⟩ := issueSubscriptionOrder_eq_ok hissued
    obtain ⟨plan, hplan, hid, plan', sub, f, hissues, hsubPlan, hsubUser, hf, rfl⟩ :=
      createUserSubscription_eq_ok hs hcreate
    have hissues : order.stockStatus = .reserved ∧ Issues s order.userId plan plan' true ∨
        order.stockStatus = .unset ∧ Issues s order.userId plan plan' false := by
      cases reserved with
      | true => exact .inl ⟨hstock, hissues⟩
      | false => exact .inr ⟨hstock, hissues⟩
    exact
      { completes := ⟨rfl, rfl, rfl, hpending, rfl, rfl⟩
        tradeNo := rfl
        orders := rfl
        history := rfl
        topUps := rfl
        cryptoTransactions := rfl
        users := (usersKept_map hf).modify _ fun user => by split_ifs <;> exact ⟨rfl, rfl⟩
        stock := ⟨plan, hplan, hid, plan', sub, hissues, hsubPlan, hsubUser, rfl, rfl⟩ }

lemma SaleEffect.congr (h : SaleEffect s s₁) (hsame : SameStock s₁ s') : SaleEffect s s' := by
  have heq : s' =
      { s' with plans := s₁.plans, orders := s₁.orders, subscriptions := s₁.subscriptions } := by
    rw [← hsame.plans, ← hsame.orders, ← hsame.subscriptions]
  rw [heq]
  cases h with
  | keep h₁ h₂ h₃ => exact .keep h₁ h₂ h₃
  | reserve _ _ h₁ h₂ h₃ h₄ h₅ h₆ h₇ h₈ h₉ => exact .reserve _ _ h₁ h₂ h₃ h₄ h₅ h₆ h₇ h₈ h₉
  | issue _ _ h₁ h₂ h₃ h₄ h₅ h₆ h₇ => exact .issue _ _ h₁ h₂ h₃ h₄ h₅ h₆ h₇
  | commit _ _ _ _ h₁ h₂ h₃ h₄ h₅ h₆ h₇ h₈ h₉ h₁₀ =>
    exact .commit _ _ _ _ h₁ h₂ h₃ h₄ h₅ h₆ h₇ h₈ h₉ h₁₀
  | release _ _ _ h₁ h₂ h₃ h₄ h₅ h₆ h₇ h₈ => exact .release _ _ _ h₁ h₂ h₃ h₄ h₅ h₆ h₇ h₈
  | lapse _ _ h₁ h₂ h₃ h₄ h₅ h₆ => exact .lapse _ _ h₁ h₂ h₃ h₄ h₅ h₆

lemma Shop.Completed.effect {completed : SubscriptionOrder}
    (h : Shop.Completed s order completed txHash s') (horder : order ∈ s.orders) :
      SaleEffect s s' := by
  obtain ⟨plan, hplan, hid, plan', sub, ⟨hstock, rfl⟩ | ⟨hstock, rfl, hroom, huser⟩, hsubPlan,
      hsubUser, hplans, hsubs⟩ :=
    h.stock
  · exact .commit plan order completed sub hplan horder ⟨h.completes.pending, hstock⟩ h.completes
      hid.symm (hsubPlan.trans hid.symm) hsubUser hplans h.orders hsubs
  · have hnot : ¬order.Reserved := fun hreserved =>
      absurd (hstock.symm.trans hreserved.2) (by decide)
    exact .issue plan sub hplan hroom (hsubUser ▸ huser) (hsubPlan.trans hid.symm) hplans hsubs
      (.inr ⟨order, horder, completed, h.completes, hnot, h.orders⟩)

lemma Shop.completeWith_effect (hs : s.WellFormed)
    (h : s.completeSubscriptionOrderWith config now tradeNo providerPayload expectedPaymentMethod
      expectedPaymentProvider txHash = .ok s') : SaleEffect s s' := by
  obtain ⟨order, hget, saved, billed, final, hbilled, hincome, hsaved⟩ := completeWith_eq_ok hs h
  have hincome : SameStock billed s' := by
    obtain rfl | ⟨_, _, -, rfl⟩ := applyIncome_eq_ok hincome <;> exact ⟨rfl, rfl, rfl⟩
  have hsame := (sameStock_upsert hbilled).trans hincome
  obtain ⟨-, rfl⟩ | hcompleted := hsaved
  · exact .keep hsame.plans hsame.orders hsame.subscriptions
  · exact (hcompleted.effect (get?_eq_some hget).1).congr hsame

lemma Shop.expireSubscriptionOrder_eq_ok
    (h : s.expireSubscriptionOrder now tradeNo expectedPaymentMethod = .ok s') :
    s' = s ∨ ∃ order ∈ s.orders, order.status = .pending ∧
      ∃ plans, s.releaseStock order = .ok plans ∧
      ({ s with plans := plans }.saveOrder (order.expire now)).upsertSubscriptionTopUp now
        (order.expire now) = .ok s' := by
  obtain ⟨-, h⟩ := require_bind_eq_ok.1 h
  obtain ⟨order, horder, h⟩ := bind_eq_ok.1 h
  obtain ⟨-, h⟩ := require_bind_eq_ok.1 h
  split at h
  · exact .inl (ok.inj h).symm
  · rename_i hpending
    obtain ⟨plans, hplans, h⟩ := bind_eq_ok.1 h
    exact .inr ⟨order, (get?_eq_some (findOrder_eq_ok horder)).1, not_ne_iff.1 hpending,
      plans, hplans, h⟩

lemma Shop.expireSubscriptionOrder_effect (hs : s.WellFormed)
    (h : s.expireSubscriptionOrder now tradeNo expectedPaymentMethod = .ok s') :
      SaleEffect s s' := by
  obtain rfl | ⟨order, horder, hpending, plans, hplans, h⟩ := expireSubscriptionOrder_eq_ok h
  · exact .keep rfl rfl rfl
  refine SaleEffect.congr ?_ (sameStock_upsert h)
  have hexpires : order.Expires (order.expire now) := ⟨rfl, hpending, rfl, rfl⟩
  rw [releaseStock] at hplans
  split_ifs at hplans with hstock
  · obtain ⟨plan, hplan, hid, rfl⟩ := updateStock_eq_ok hs.plans hplans fun _ => rfl
    exact .release plan order _ hplan horder ⟨hexpires.pending, hstock⟩ hexpires
      hid.symm rfl rfl rfl
  · obtain rfl := ok.inj hplans
    exact .lapse order _ horder (fun hreserved => hstock hreserved.2) hexpires rfl rfl rfl

/-- A payment on a chain completes its order, and is then bound to its hash if it was not. -/
lemma Shop.completeCrypto_eq_ok
    (h : s.completeSubscriptionCryptoOrder config now rawTradeNo providerPayload receipt = .ok s') :
    normalizeTxHash receipt.txHash ≠ "" ∧
    ∃ cryptoTx, get? (fun tx : SubscriptionCryptoTransaction => tx.tradeNo) (trimSpace rawTradeNo)
        s.cryptoTransactions = some cryptoTx ∧
      ∃ completed, s.completeSubscriptionOrderWith config now (trimSpace rawTradeNo) providerPayload
        "crypto" "crypto"
        (some (normalizeTxHash receipt.txHash)) = .ok completed ∧
      ((∃ bound, cryptoTx.txHash = some bound ∧
        normalizeTxHash bound = normalizeTxHash receipt.txHash) ∧ s' = completed ∨
      trimSpace (cryptoTx.txHash.getD "") = "" ∧
        (∀ other ∈ s.cryptoTransactions, other.id ≠ cryptoTx.id →
          other.txHash.map toLower ≠ some (toLower (normalizeTxHash receipt.txHash))) ∧
        ∃ confirmed : SubscriptionCryptoTransaction, confirmed.id = cryptoTx.id ∧
          confirmed.tradeNo = cryptoTx.tradeNo ∧
          confirmed.txHash = some (normalizeTxHash receipt.txHash) ∧ s' = { completed with
            cryptoTransactions :=
              put (fun tx => tx.id) confirmed completed.cryptoTransactions }) := by
  obtain ⟨-, h⟩ := require_bind_eq_ok.1 h
  obtain ⟨hhash, h⟩ := require_bind_eq_ok.1 h
  split at h
  · cases h
  rename_i cryptoTx hget
  refine ⟨hhash, cryptoTx, hget, ?_⟩
  obtain ⟨-, h⟩ := require_bind_eq_ok.1 h
  obtain ⟨-, h⟩ := require_bind_eq_ok.1 h
  dsimp only at h
  split at h
  · rename_i hbound
    obtain ⟨hsame, h⟩ := require_bind_eq_ok.1 h
    obtain ⟨-, h⟩ := require_bind_eq_ok.1 h
    refine ⟨s', h, .inl ⟨?_, rfl⟩⟩
    cases htx : cryptoTx.txHash with
    | none => simp [htx, show trimSpace "" = "" by decide] at hbound
    | some bound => exact ⟨bound, rfl, by simpa [htx] using hsame⟩
  · rename_i hunbound
    obtain ⟨-, h⟩ := require_bind_eq_ok.1 h
    obtain ⟨_, hcheck, h⟩ := bind_eq_ok.1 h
    obtain ⟨completed, hcompleted, h⟩ := bind_eq_ok.1 h
    refine ⟨completed, hcompleted, .inr ⟨not_ne_iff.1 hunbound, ?_, _, ?_, ?_, ?_, (ok.inj h).symm⟩⟩
    · rw [checkCryptoOrder] at hcheck
      split at hcheck
      · cases hcheck
      simp only [bind_eq_ok] at hcheck
      obtain ⟨_, -, _, -, _, -, hcheck⟩ := hcheck
      exact Except.require_eq_ok.1 hcheck
    all_goals rfl

lemma Shop.completeCrypto_effect (hs : s.WellFormed)
    (h : s.completeSubscriptionCryptoOrder config now rawTradeNo providerPayload receipt = .ok s') :
      SaleEffect s s' := by
  obtain ⟨-, cryptoTx, -, completed, hcompleted, ⟨-, rfl⟩ | ⟨-, -, confirmed, -, -, -, rfl⟩⟩ :=
    completeCrypto_eq_ok h
  · exact completeWith_effect hs hcompleted
  · exact (completeWith_effect hs hcompleted).congr ⟨rfl, rfl, rfl⟩

/-! ## Edits of plans -/

/-- The counts of the plans, and their keys, as the tables have them. -/
structure Shop.Counted (s : Shop) : Prop where
  ids : ∀ plan ∈ s.plans, 0 < plan.id
  counts : ∀ plan ∈ s.plans, 0 ≤ plan.issuedCount ∧ 0 ≤ plan.reservedCount

lemma Shop.currentPlan_eq_ok {proposedGroup : String}
    (h : s.currentPlan proposed proposedGroup = .ok current) :
    proposed.id ≤ 0 ∧ current = none ∨ ∃ row ∈ s.plans, row.id = proposed.id ∧
      ∃ group, current = some (row, group) ∧
      normalizeSubscriptionPurchaseLimitGroup row.purchaseLimitGroup = some group := by
  rw [currentPlan] at h
  split_ifs at h with hid
  · exact .inl ⟨hid, (ok.inj h).symm⟩
  split at h
  · cases h
  rename_i row hget
  obtain ⟨hrow, hrowId⟩ := get?_eq_some hget
  split at h
  · cases h
  rename_i group hgroup
  split_ifs at h
  exact .inr ⟨row, hrow, hrowId, group, (ok.inj h).symm, hgroup⟩

/-- The other plans of the scope that a plan comes into. -/
def scopeOthers (catalog : List CatalogPlan) (plan : CatalogPlan) (key : ScopeKey) :
    List CatalogPlan :=
  (others (fun plan : CatalogPlan => plan.id) plan.id catalog).filter (·.scopeKey = some key)

/-- The scope of the plan has room for it with `allocated` slots. -/
def AdmitsPlan (catalog : List CatalogPlan) (plan : CatalogPlan) (allocated : ℤ) : Prop :=
  ∀ key, plan.scopeKey = some key → ∀ limit ∈ plan.totalPurchaseLimit ::
    (scopeOthers catalog plan key).map (·.totalPurchaseLimit), 0 < limit →
    min (allocated + ((scopeOthers catalog plan key).map (·.allocated)).sum) maxInt64 ≤ limit

/-- The members whose slots are added up are the other plans of the scope. -/
lemma Shop.members_eq {group : String}
    (hgroup : normalizeSubscriptionPurchaseLimitGroup group = some group)
    (hcurrent : ∀ row currentGroup, current = some (row, currentGroup) →
      normalizeSubscriptionPurchaseLimitGroup row.purchaseLimitGroup = some currentGroup)
    (hid : plan.id = proposed.id) (hprovider : plan.providerId = proposed.providerId)
    (hname : plan.purchaseLimitGroup = group) {key : ScopeKey} (hkey : plan.scopeKey = some key) :
    (if group = "" then [] else (s.lockedPlans proposed group current).filter fun member =>
        member.id ≠ proposed.id ∧ member.providerId = proposed.providerId ∧
          normalizeSubscriptionPurchaseLimitGroup member.purchaseLimitGroup = some group) =
      scopeOthers s.plans proposed key := by
  by_cases hempty : group = ""
  · -- No other plan has the key of this one.
    subst hempty
    rw [← hname] at hgroup
    obtain rfl :=
      Option.some.inj
      ((scopeKey_eq_plan.2 ⟨hid, hgroup.trans (congrArg some hname)⟩).symm.trans hkey)
    rw [if_pos rfl, scopeOthers, eq_comm, filter_eq_nil_iff]
    intro plan hplan
    rw [decide_eq_true_eq, scopeKey_eq_plan]
    exact fun hsame => (mem_others.1 hplan).2 hsame.1
  · obtain rfl :=
      Option.some.inj ((scopeKey_eq_group.2 ⟨hprovider, hname, hempty, hgroup⟩).symm.trans hkey)
    rw [if_neg hempty, scopeOthers, lockedPlans, others, filter_filter, filter_filter]
    refine filter_congr fun plan _ => ?_
    rw [Bool.eq_iff_iff]
    simp only [Bool.and_eq_true, Bool.or_eq_true, decide_eq_true_eq, scopeKey_eq_group]
    constructor
    · rintro ⟨⟨hid, hprovider, hname⟩, (⟨-, hsame⟩ | hlocked) | ⟨-, hlocked⟩⟩
      · exact absurd hsame hid
      · -- A row of the old group of the plan, which is then the same group.
        cases hcur : current with
        | none => simp [hcur] at hlocked
        | some pair =>
          obtain ⟨row, currentGroup⟩ := pair
          simp only [hcur, Bool.and_eq_true, decide_eq_true_eq] at hlocked
          have hcanonical := limitGroup_normalized (hcurrent row currentGroup hcur)
          rw [hlocked.2, hcanonical] at hname
          exact ⟨⟨hprovider, hlocked.2.trans (Option.some.inj hname), hempty, hgroup⟩, hid⟩
      · exact ⟨⟨hprovider, hlocked, hempty, hgroup⟩, hid⟩
    · rintro ⟨⟨hprovider, hname, -, -⟩, hid⟩
      refine ⟨⟨hid, hprovider, ?_⟩, .inr ⟨⟨hempty, hprovider⟩, hname⟩⟩
      rw [hname, hgroup]

/-- The slots of a plan and of the others of its scope, as they are added up. -/
lemma allocated_eq_min (hplans : ∀ plan ∈ plans, 0 ≤ plan.issuedCount ∧ 0 ≤ plan.reservedCount)
    {issued reserved : ℤ} (hissued : 0 ≤ issued) (hreserved : 0 ≤ reserved) :
      addNonNegativeSaturated
        ((plans.map (·.issuedCount)).foldl addNonNegativeSaturated
          (addNonNegativeSaturated 0 issued))
        ((plans.map (·.reservedCount)).foldl addNonNegativeSaturated
          (addNonNegativeSaturated 0 reserved)) =
      min (issued + reserved + (plans.map (·.allocated)).sum) maxInt64 := by
  have hcap : (0 : ℤ) ≤ maxInt64 := by decide
  have hi : ∀ x ∈ plans.map (·.issuedCount), 0 ≤ x := forall_mem_map.2 fun plan hplan =>
    (hplans plan hplan).1
  have hr : ∀ x ∈ plans.map (·.reservedCount), 0 ≤ x := forall_mem_map.2 fun plan hplan =>
    (hplans plan hplan).2
  have hstart : ∀ {x : ℤ}, 0 ≤ x → addNonNegativeSaturated 0 x = min x maxInt64 := fun hx => by
    rw [addNonNegativeSaturated, addSaturated_eq le_rfl hcap hx, zero_add]
  have hfold : ∀ {l : List ℤ} {x : ℤ}, (∀ y ∈ l, 0 ≤ y) → 0 ≤ x →
      l.foldl addNonNegativeSaturated (min x maxInt64) = min (x + l.sum) maxInt64 := by
    intro l x hl hx
    have hsum := sum_nonneg hl
    refine (foldl_addSaturated hl (le_min hx hcap) (min_le_right _ _)).trans ?_
    omega
  have hsum : (plans.map (·.allocated)).sum = (plans.map (·.issuedCount)).sum +
      (plans.map (·.reservedCount)).sum :=
    sum_map_add
  have hisum := sum_nonneg hi
  have hrsum := sum_nonneg hr
  rw [hstart hissued, hstart hreserved, hfold hi hissued, hfold hr hreserved,
    addNonNegativeSaturated, addSaturated_min hcap (by omega) (by omega), hsum]
  congr 1
  omega

/-- A plan that passes the check fits the scope that it comes into. -/
lemma Shop.validate_eq_ok (hs : s.Counted)
    (h : s.validateSubscriptionPlanPurchaseLimits proposed = .ok plan) :
    plan.id = proposed.id ∧ plan.issuedCount = proposed.issuedCount ∧
      plan.reservedCount = proposed.reservedCount ∧
    ∃ allocated : ℤ, (proposed.id ≤ 0 ∧ allocated = 0 ∨ ∃ row ∈ s.plans, row.id = proposed.id ∧
      allocated = row.allocated) ∧
      AdmitsPlan s.plans plan allocated := by
  simp only [validateSubscriptionPlanPurchaseLimits] at h
  split_ifs at h
  split at h
  · cases h
  rename_i group hgroup
  obtain ⟨current, hcurrent, h⟩ := bind_eq_ok.1 h
  obtain ⟨hfits, h⟩ := require_bind_eq_ok.1 h
  have hplan : plan.id = proposed.id ∧ plan.providerId = proposed.providerId ∧
    plan.purchaseLimitGroup = group ∧
      plan.totalPurchaseLimit = proposed.totalPurchaseLimit ∧
        plan.issuedCount = proposed.issuedCount ∧
      plan.reservedCount = proposed.reservedCount := by
    obtain rfl := ok.inj h
    exact ⟨rfl, rfl, rfl, rfl, rfl, rfl⟩
  obtain ⟨hid, hprovider, hname, hlimit, hissued, hreserved⟩ := hplan
  refine ⟨hid, hissued, hreserved, ?_⟩
  -- What the check adds up, for each scope that the plan may come into.
  have hcanonical := limitGroup_normalized hgroup
  have hrows : ∀ row currentGroup, current = some (row, currentGroup) →
      normalizeSubscriptionPurchaseLimitGroup row.purchaseLimitGroup = some currentGroup := by
    rintro row currentGroup rfl
    obtain ⟨-, hnone⟩ | ⟨row', -, -, group', hsome, hgroup'⟩ := currentPlan_eq_ok hcurrent
    · cases hnone
    · cases hsome
      exact hgroup'
  have hothers : ∀ key, ∀ other ∈ scopeOthers s.plans plan key, 0 ≤ other.issuedCount ∧
      0 ≤ other.reservedCount :=
    fun key other hother => hs.counts other (mem_others.1 (mem_filter.1 hother).1).1
  have hcheck : ∀ {issued reserved : ℤ}, 0 ≤ issued → 0 ≤ reserved →
      currentCount (·.issuedCount) current = addNonNegativeSaturated 0 issued →
      currentCount (·.reservedCount) current = addNonNegativeSaturated 0 reserved →
      AdmitsPlan s.plans plan (issued + reserved) := by
    intro issued reserved hi hr hissued hreserved key hkey limit hmem hpos
    rw [members_eq hcanonical hrows hid hprovider hname hkey, scopeOthers, ← hid, ← scopeOthers,
      hissued, hreserved, allocated_eq_min (hothers key) hi hr, ← hlimit] at hfits
    obtain ⟨hleast, hle⟩ := foldl_minPositive_le hmem hpos
    exact (not_lt.1 fun hlt => hfits ⟨hleast, hlt⟩).trans hle
  obtain ⟨hnew, rfl⟩ | ⟨row, hrow, hrowId, group', rfl, -⟩ := currentPlan_eq_ok hcurrent
  · exact ⟨0, .inl ⟨hnew, rfl⟩, hcheck le_rfl le_rfl rfl rfl⟩
  · exact ⟨row.allocated, .inr ⟨row, hrow, hrowId, rfl⟩,
      hcheck (hs.counts row hrow).1 (hs.counts row hrow).2 rfl rfl⟩

lemma scopeKey_congr (hid : plan'.id = plan.id) (hprovider : plan'.providerId = plan.providerId)
    (hname : plan'.purchaseLimitGroup = plan.purchaseLimitGroup) :
      plan'.scopeKey = plan.scopeKey := by
  rw [scopeKey, scopeKey, hid, hprovider, hname]

/-- A plan that is added, with no slots, fits the scope that it comes into. -/
lemma fitsScope_append (hids : ∀ row ∈ plans, 0 < row.id)
    (hid : plan.id = 0) (hnew : ∀ row ∈ plans, row.id ≠ plan'.id)
    (hprovider : plan'.providerId = plan.providerId)
    (hname : plan'.purchaseLimitGroup = plan.purchaseLimitGroup)
    (hlimit : plan'.totalPurchaseLimit = plan.totalPurchaseLimit) (hzero : plan'.allocated = 0)
    (hfits : AdmitsPlan plans plan 0) : FitsScope (plans ++ [plan']) plan' := by
  intro key hkey other hother hother' hpos
  rw [total_append_singleton, hzero, ite_self, add_zero]
  have hsame : scopeOthers plans plan key = plans.filter (·.scopeKey = some key) := by
    refine congrArg (filter _) (filter_eq_self.2 fun row hrow => ?_)
    simpa using hid ▸ (hids row hrow).ne'
  cases key with
  | plan id =>
    -- No plan has the new key.
    have hnil : plans.filter (·.scopeKey = some (.plan id)) = [] := by
      rw [filter_eq_nil_iff]
      intro row hrow
      rw [decide_eq_true_eq, scopeKey_eq_plan, ← (scopeKey_eq_plan.1 hkey).1]
      exact fun hrow' => hnew row hrow hrow'.1
    rw [total, hnil]
    exact (min_le_left _ _).trans hpos.le
  | group providerId name =>
    have hkey₀ := scopeKey_eq_group.2 (by rw [← hprovider, ← hname]; exact scopeKey_eq_group.1 hkey)
    have hle := hfits _ hkey₀ other.totalPurchaseLimit
    rw [hsame, zero_add] at hle
    refine hle ?_ hpos
    obtain hother | hother := mem_append.1 hother
    · exact mem_cons_of_mem _ (mem_map_of_mem (mem_filter.2 ⟨hother, decide_eq_true hother'⟩))
    · rw [mem_singleton.1 hother, hlimit]
      exact mem_cons_self

lemma fitsScope_put {row : CatalogPlan}
    (hplans : Table.Keyed (fun plan : CatalogPlan => plan.id) plans) (hrow : row ∈ plans)
    (hrowId : row.id = plan.id) (hid : plan'.id = plan.id)
    (hprovider : plan'.providerId = plan.providerId)
    (hname : plan'.purchaseLimitGroup = plan.purchaseLimitGroup)
    (hlimit : plan'.totalPurchaseLimit = plan.totalPurchaseLimit)
    (hallocated : plan'.allocated = row.allocated) (hfits : AdmitsPlan plans plan row.allocated) :
    FitsScope (put (fun plan => plan.id) plan' plans) plan' := by
  intro key hkey other hother hother' hpos
  rw [total_put_eq_others _ _ hplans hrow (hrowId.trans hid.symm), if_pos hkey, hallocated,
    hid, add_comm]
  rw [scopeKey_congr hid hprovider hname] at hkey
  refine hfits key hkey other.totalPurchaseLimit ?_ hpos
  obtain rfl | ⟨hother, hne⟩ := mem_put hother
  · rw [hlimit]
    exact mem_cons_self
  · refine mem_cons_of_mem _ (mem_map_of_mem (mem_filter.2 ⟨mem_others.2 ⟨hother, ?_⟩, ?_⟩))
    · rwa [← hid]
    · exact decide_eq_true hother'

lemma Shop.createSubscriptionPlan_effect (hc : s.Counted)
    (h : s.createSubscriptionPlan plan = .ok s') : StockEffect s s' := by
  obtain ⟨plan, hvalid, h⟩ := bind_eq_ok.1 h
  obtain ⟨hid, hissued, hreserved, allocated, hallocated, hfits⟩ := validate_eq_ok hc hvalid
  obtain rfl : allocated = 0 := by
    obtain ⟨-, hzero⟩ | ⟨row, hrow, hrowId, -⟩ := hallocated
    · exact hzero
    · exact absurd hrowId (hc.ids row hrow).ne'
  obtain rfl := ok.inj h
  refine .addPlan (plan.withId (nextKey (s.plans.map (·.id)))) rfl hissued hreserved ?_ rfl rfl rfl
  refine fitsScope_append hc.ids hid ?_ rfl rfl rfl ?_ hfits
  · exact fun row hrow => ne_nextKey (·.id) hrow
  · rw [allocated, withId, hissued, hreserved, add_zero]

lemma Shop.updateSubscriptionPlan_effect (hs : s.WellFormed) (hc : s.Counted)
    (h : s.updateSubscriptionPlan plan = .ok s') : StockEffect s s' := by
  obtain ⟨hpos, h⟩ := require_bind_eq_ok.1 h
  obtain ⟨plan, hvalid, h⟩ := bind_eq_ok.1 h
  obtain ⟨hid, -, -, allocated, hallocated, hfits⟩ := validate_eq_ok hc hvalid
  obtain ⟨row, hrow, hrowId, rfl⟩ := hallocated.resolve_left fun hnew =>
    absurd hpos (not_lt.2 hnew.1)
  obtain rfl := ok.inj h
  rw [← hid] at hrowId
  have hput : modify (fun plan : CatalogPlan => plan.id) plan.id plan.withCountsOf s.plans =
      put (fun plan => plan.id) (plan.withCountsOf row) s.plans := by
    rw [← hrowId]
    exact modify_eq_put hs.plans hrow hrowId.symm
  exact .editPlan row (plan.withCountsOf row) hrow hrowId.symm rfl rfl
    (fitsScope_put hs.plans hrow hrowId rfl rfl rfl rfl rfl hfits) hput rfl rfl

/-! ## All transactions -/

/-- A transaction that is not an edit of a plan. -/
def ShopOp.IsSale : ShopOp → Prop
  | createPlan _ => False
  | updatePlan _ => False
  | _ => True

lemma ShopOp.effect_of_isSale (hs : s.WellFormed) (h : op.perform config now s = .ok s')
    (hop : op.IsSale) : SaleEffect s s' := by
  cases op with
  | createOrder draft => exact createSubscriptionOrder_effect hs h
  | createOrderWithTopUp draft =>
    obtain ⟨created, hcreated, h⟩ := bind_eq_ok.1 h
    refine (createSubscriptionOrder_effect hs hcreated).congr ?_
    split at h
    · obtain rfl := ok.inj h
      exact ⟨rfl, rfl, rfl⟩
    · exact sameStock_upsert h
  | complete => exact completeWith_effect hs h
  | completeCrypto => exact completeCrypto_effect hs h
  | expire => exact expireSubscriptionOrder_effect hs h
  | issue => exact createUserSubscriptionFromPlan_effect hs h
  | createPlan => exact hop.elim
  | updatePlan => exact hop.elim

lemma ShopOp.effect (hs : s.WellFormed) (hc : s.Counted) (h : op.perform config now s = .ok s') :
    StockEffect s s' := by
  cases op with
  | createPlan plan => exact createSubscriptionPlan_effect hc h
  | updatePlan plan => exact updateSubscriptionPlan_effect hs hc h
  | _ => exact .sale (ShopOp.effect_of_isSale hs h trivial)

lemma SaleEffect.wellFormed (h : SaleEffect s s') (hs : s.WellFormed) : s'.WellFormed := by
  constructor
  · cases h with
    | keep hplans | lapse _ _ _ _ _ hplans => exact hplans ▸ hs.plans
    | reserve _ _ _ _ _ _ _ _ hplans | issue _ _ _ _ _ _ hplans
    | commit _ _ _ _ _ _ _ _ _ _ _ hplans
    | release _ _ _ _ _ _ _ _ hplans => exact hplans ▸ hs.plans.put _
  · cases h with
    | keep _ horders => exact horders ▸ hs.orders
    | reserve _ _ _ _ _ hid _ _ _ horders =>
      exact horders ▸ hs.orders.append_singleton fun row hrow => hid ▸ ne_nextKey (·.id) hrow
    | issue _ _ _ _ _ _ _ _ horders =>
      obtain horders | ⟨_, _, _, _, _, horders⟩ := horders
      · exact horders ▸ hs.orders
      · exact horders ▸ hs.orders.put _
    | commit _ _ _ _ _ _ _ _ _ _ _ _ horders | release _ _ _ _ _ _ _ _ _ horders
    | lapse _ _ _ _ _ _ horders => exact horders ▸ hs.orders.put _

/-- The order that a transaction closes is `other`, or it stays. -/
lemma mem_put_or_eq {orders : List SubscriptionOrder} {order other other' : SubscriptionOrder}
    (horders : Table.Keyed (fun order : SubscriptionOrder => order.id) orders)
    (horder : order ∈ orders) (hother : other ∈ orders) (hid : other'.id = other.id) :
    order ∈ put (fun order => order.id) other' orders ∨ order = other := by
  by_cases hsame : order.id = other'.id
  · exact .inr (horders.eq_of_mem horder hother (hsame.trans hid))
  · exact .inl (mem_put_of_ne horder hsame)

lemma SaleEffect.closed (h : SaleEffect s s') (hs : s.WellFormed)
    (horder : order ∈ s.orders) (hclosed : order.status ≠ .pending) : order ∈ s'.orders := by
  have hput : ∀ {other other' : SubscriptionOrder}, other ∈ s.orders → other'.id = other.id →
    other.status = .pending →
      order ∈ put (fun order => order.id) other' s.orders := fun hother hid hpending =>
    (mem_put_or_eq hs.orders horder hother hid).resolve_right fun hsame =>
      hclosed (hsame ▸ hpending)
  cases h with
  | keep _ horders => exact horders ▸ horder
  | reserve _ _ _ _ _ _ _ _ _ horders => exact horders ▸ mem_append_left _ horder
  | issue _ _ _ _ _ _ _ _ horders =>
    obtain horders | ⟨other, hother, other', hcompletes, -, horders⟩ := horders
    · exact horders ▸ horder
    · exact horders ▸ hput hother hcompletes.id hcompletes.pending
  | lapse other other' hother _ hexpires _ horders
  | release _ other other' _ hother _ hexpires _ _ horders =>
    exact horders ▸ hput hother hexpires.id hexpires.pending
  | commit _ other other' _ _ hother _ hcompletes _ _ _ _ horders =>
    exact horders ▸ hput hother hcompletes.id hcompletes.pending

end

end Allrouter
