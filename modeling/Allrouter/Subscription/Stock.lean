import Allrouter.Subscription.OrderEffect

/-!
# The stock of plans

Orders, subscriptions and edits of plans share the slots of a scope.

* `stock_of_run`: the slots of a scope never exceed its limit, the reserved ones are those of the
  orders that wait for their payment, and an order gives up its slot once, for a subscription or
  when it expires.
-/

namespace Allrouter

open Relation Allotment CatalogPlan List Table

def issues (subscriptions : List GroupSubscription) (planId : ℤ) : ℕ :=
  subscriptions.countP fun sub => sub.planId = planId

/-- The counts of the plans are those of the tables, and the scopes are within their limits. -/
structure StockInv (plans : List CatalogPlan) (orders : List SubscriptionOrder)
    (subscriptions : List GroupSubscription) : Prop where
  plansKeyed : Table.Keyed (fun plan : CatalogPlan => plan.id) plans
  ordersKeyed : Table.Keyed (fun order : SubscriptionOrder => order.id) orders
  ids : ∀ plan ∈ plans, 0 < plan.id
  reserved : ∀ plan ∈ plans, plan.reservedCount = waiting (·.planId = plan.id) orders
  issued : ∀ plan ∈ plans, 0 ≤ plan.issuedCount ∧ plan.issuedCount ≤ issues subscriptions plan.id
  placed : ∀ order ∈ orders, order.Reserved → ∃ plan ∈ plans, plan.id = order.planId
  within : Within scopeKey totalPurchaseLimit allocated maxInt64 plans

section

variable {plans : List CatalogPlan} {orders : List SubscriptionOrder}
  {subscriptions : List GroupSubscription} {plan plan' : CatalogPlan}
  {order order' : SubscriptionOrder} {sub : GroupSubscription}

lemma StockInv.counts (h : StockInv plans orders subscriptions) (hplan : plan ∈ plans) :
    0 ≤ plan.issuedCount ∧ 0 ≤ plan.reservedCount := by
  refine ⟨(h.issued plan hplan).1, ?_⟩
  rw [h.reserved plan hplan]
  exact Int.natCast_nonneg _

lemma StockInv.allocated_nonneg (h : StockInv plans orders subscriptions) (hplan : plan ∈ plans) :
    0 ≤ plan.allocated :=
  add_nonneg (h.counts hplan).1 (h.counts hplan).2

/-! ## Orders -/

lemma issues_append (planId : ℤ) :
    issues (subscriptions ++ [sub]) planId = issues subscriptions planId + if sub.planId =
      planId then 1 else 0 := by
  simp [issues]

lemma StockInv.closeOrder (h : StockInv plans orders subscriptions) (horder : order ∈ orders)
    (hid : order'.id = order.id) (hopen : ¬order.Reserved) (hnot : ¬order'.Reserved) :
    StockInv plans (put (fun order => order.id) order' orders) subscriptions :=
  { h with
    ordersKeyed := h.ordersKeyed.put _
    reserved := fun plan hplan => by
      have := waiting_put (·.planId = plan.id) h.ordersKeyed horder hid hnot
      rw [if_neg fun hand => hopen hand.2, add_zero] at this
      rw [this, h.reserved plan hplan]
    placed := fun other hother hreserved => by
      obtain rfl | ⟨hother, -⟩ := mem_put hother
      · exact absurd hreserved hnot
      · exact h.placed other hother hreserved }

/-! ## Plans -/

lemma exists_mem_put {planId : ℤ} (h : ∃ plan ∈ plans, plan.id = planId) :
    ∃ plan ∈ put (fun plan => plan.id) plan' plans, plan.id = planId := by
  obtain ⟨plan, hplan, rfl⟩ := h
  by_cases hid : plan.id = plan'.id
  · exact ⟨plan', mem_put_self hplan hid, hid.symm⟩
  · exact ⟨plan, mem_put_of_ne hplan hid, rfl⟩

variable (h : StockInv plans orders subscriptions)
include h

variable {subscriptions' : List GroupSubscription}

/-- A plan that is changed together with the rows that it counts. -/
lemma StockInv.putPlan (hplan : plan ∈ plans) (plan' : CatalogPlan) (hid : plan'.id = plan.id)
    {orders' : List SubscriptionOrder}
    (hkeyed : Table.Keyed (fun order : SubscriptionOrder => order.id) orders')
    (hreserved : plan'.reservedCount = waiting (·.planId = plan.id) orders')
    (hreservedOthers : ∀ planId ≠ plan.id, waiting (·.planId = planId) orders' =
      waiting (·.planId = planId) orders)
    (hissued : 0 ≤ plan'.issuedCount ∧ plan'.issuedCount ≤ issues subscriptions' plan.id)
    (hissuedOthers : ∀ planId, issues subscriptions planId ≤ issues subscriptions' planId)
    (hplaced : ∀ order ∈ orders', order.Reserved → ∃ plan ∈ plans, plan.id = order.planId)
    (hwithin : Within scopeKey totalPurchaseLimit allocated maxInt64
      (put (fun plan => plan.id) plan' plans)) :
    StockInv (put (fun plan => plan.id) plan' plans) orders' subscriptions' where
  plansKeyed := h.plansKeyed.put _
  ordersKeyed := hkeyed
  ids := by
    intro row hrow
    obtain rfl | ⟨hrow, -⟩ := mem_put hrow
    · exact hid ▸ h.ids plan hplan
    · exact h.ids row hrow
  reserved := by
    intro row hrow
    obtain rfl | ⟨hrow, hne⟩ := mem_put hrow
    · rw [hreserved, hid]
    · rw [h.reserved row hrow, hreservedOthers row.id (hid ▸ hne)]
  issued := by
    intro row hrow
    obtain rfl | ⟨hrow, hne⟩ := mem_put hrow
    · rwa [hid]
    · have := h.issued row hrow
      have := hissuedOthers row.id
      omega
  placed := fun order horder hreserved => exists_mem_put (hplaced order horder hreserved)
  within := hwithin

/-- A plan that keeps its scope and its limit, and uses no more slots than before or one more if
    there is room. -/
lemma StockInv.within_put (hplan : plan ∈ plans) (hid : plan'.id = plan.id)
    (hprovider : plan'.providerId = plan.providerId)
    (hname : plan'.purchaseLimitGroup = plan.purchaseLimitGroup)
    (hlimit : plan'.totalPurchaseLimit = plan.totalPurchaseLimit)
    (hused : plan'.allocated ≤ plan.allocated ∨ plan'.allocated = plan.allocated + 1 ∧
    HasRoom plans plan) :
    Within scopeKey totalPurchaseLimit allocated maxInt64 (put (fun plan => plan.id) plan' plans) :=
  h.within.put_of_used h.plansKeyed hplan hid.symm (h.allocated_nonneg hplan)
    (scopeKey_congr hid hprovider hname)
    hlimit hused

lemma StockInv.addPlan (hid : plan.id = nextKey (plans.map (·.id)))
    (hissued : plan.issuedCount = 0) (hreserved : plan.reservedCount = 0)
    (hfits : FitsScope (plans ++ [plan]) plan) :
    StockInv (plans ++ [plan]) orders subscriptions := by
  have hnew : ∀ row ∈ plans, row.id ≠ plan.id := fun row hrow => hid ▸ ne_nextKey (·.id) hrow
  -- No order waits for the new plan.
  have hnone : waiting (·.planId = plan.id) orders = 0 := by
    rw [waiting, countP_eq_zero]
    intro order horder hand
    obtain ⟨hplanId, hreserved⟩ := of_decide_eq_true hand
    obtain ⟨row, hrow, hrowId⟩ := h.placed order horder hreserved
    exact hnew row hrow (hrowId.trans hplanId)
  constructor
  · exact h.plansKeyed.append_singleton hnew
  · exact h.ordersKeyed
  · rw [forall_mem_append, forall_mem_singleton]
    exact ⟨h.ids, hid ▸ lt_nextKey mem_cons_self⟩
  · rw [forall_mem_append, forall_mem_singleton, hreserved, hnone]
    exact ⟨h.reserved, rfl⟩
  · rw [forall_mem_append, forall_mem_singleton, hissued]
    exact ⟨h.issued, le_rfl, Int.natCast_nonneg _⟩
  · intro order horder hreserved
    obtain ⟨row, hrow, hrowId⟩ := h.placed order horder hreserved
    exact ⟨row, mem_append_left _ hrow, hrowId⟩
  · exact h.within.append hfits

/-- A scope uses no more slots than there are rows. -/
lemma StockInv.total_le (key : ScopeKey) :
    total scopeKey allocated plans key ≤ subscriptions.length + orders.length := by
  have hkeyed : Table.Keyed (fun plan : CatalogPlan => plan.id)
      (plans.filter (·.scopeKey = some key)) :=
    List.Nodup.sublist (filter_sublist.map _) h.plansKeyed
  have hissued := sum_le_length hkeyed (fun sub : GroupSubscription => sub.planId) subscriptions
      fun plan hplan =>
      (h.issued plan (mem_of_mem_filter hplan)).2
  have hreserved : ((plans.filter (·.scopeKey = some key)).map (·.reservedCount)).sum ≤
      (orders.length : ℤ) := by
    refine sum_le_length hkeyed (fun order : SubscriptionOrder => order.planId) orders
      fun plan hplan => ?_
    rw [h.reserved plan (mem_of_mem_filter hplan)]
    exact Int.ofNat_le.2 (countP_mono_left fun order _ hand =>
      decide_eq_true (of_decide_eq_true hand).1)
  calc total scopeKey allocated plans key
      = ((plans.filter (·.scopeKey = some key)).map (·.issuedCount)).sum +
          ((plans.filter (·.scopeKey = some key)).map (·.reservedCount)).sum := sum_map_add
    _ ≤ subscriptions.length + orders.length := add_le_add hissued hreserved

/-! ## Steps -/

lemma StockInv.reserve (hplan : plan ∈ plans) (hroom : HasRoom plans plan)
    (hid : order.id = nextKey (orders.map (·.id))) (hplanId : order.planId = plan.id)
    (hreserved : order.Reserved) :
    StockInv (put (fun plan => plan.id) { plan with reservedCount := plan.reservedCount + 1 } plans)
      (orders ++ [order]) subscriptions := by
  refine h.putPlan hplan { plan with reservedCount := plan.reservedCount + 1 } rfl ?_ ?_ ?_
    (h.issued plan hplan) (fun _ => le_rfl) ?_ ?_
  · exact h.ordersKeyed.append_singleton fun row hrow => hid ▸ ne_nextKey (·.id) hrow
  · rw [waiting_append _ hreserved, if_pos hplanId, h.reserved plan hplan]
    rfl
  · intro planId hne
    rw [waiting_append _ hreserved, if_neg (hplanId ▸ hne.symm)]
    rfl
  · rw [forall_mem_append, forall_mem_singleton]
    exact ⟨h.placed, fun _ => ⟨plan, hplan, hplanId.symm⟩⟩
  · exact h.within_put hplan rfl rfl rfl rfl (.inr ⟨(add_assoc _ _ _).symm, hroom⟩)

/-- A slot that is issued without an order that reserved it. -/
lemma StockInv.issue (hplan : plan ∈ plans) (hroom : HasRoom plans plan)
    (hplanId : sub.planId = plan.id) :
    StockInv (put (fun plan => plan.id) { plan with issuedCount := plan.issuedCount + 1 } plans)
      orders (subscriptions ++ [sub]) := by
  refine h.putPlan hplan { plan with issuedCount := plan.issuedCount + 1 } rfl h.ordersKeyed
    (h.reserved plan hplan) (fun _ _ => rfl) ?_ ?_ h.placed ?_
  · have := h.issued plan hplan
    rw [issues_append, if_pos hplanId]
    dsimp only
    omega
  · intro planId
    rw [issues_append]
    omega
  · exact h.within_put hplan rfl rfl rfl rfl (.inr ⟨add_right_comm _ _ _, hroom⟩)

lemma StockInv.giveUp (hplan : plan ∈ plans) (horder : order ∈ orders)
    (hreserved : order.Reserved) (hplanId : order.planId = plan.id) (hid : order'.id = order.id)
    (hnot : ¬order'.Reserved) {issued : ℤ}
    (hissued : 0 ≤ issued ∧ issued ≤ issues subscriptions' plan.id)
    (hsubs : ∀ planId, issues subscriptions planId ≤ issues subscriptions' planId)
    (hused : issued ≤ plan.issuedCount + 1) : StockInv (put (fun plan => plan.id)
        { plan with reservedCount := plan.reservedCount - 1, issuedCount := issued } plans)
      (put (fun order => order.id) order' orders) subscriptions' := by
  refine h.putPlan hplan { plan with reservedCount := plan.reservedCount - 1, issuedCount := issued
    } rfl (h.ordersKeyed.put _) ?_ ?_ hissued hsubs ?_ ?_
  · have := waiting_put (·.planId = plan.id) h.ordersKeyed horder hid hnot
    rw [if_pos ⟨hplanId, hreserved⟩] at this
    have := h.reserved plan hplan
    dsimp only
    omega
  · intro planId hne
    have := waiting_put (·.planId = planId) h.ordersKeyed horder hid hnot
    rwa [if_neg fun hand => hne (hand.1.symm.trans hplanId)] at this
  · intro other hother hreserved'
    obtain rfl | ⟨hother, -⟩ := mem_put hother
    · exact absurd hreserved' hnot
    · exact h.placed other hother hreserved'
  · refine h.within_put hplan rfl rfl rfl rfl (.inl ?_)
    simp only [allocated]
    omega

end

def Shop.StockInv (s : Shop) : Prop := Allrouter.StockInv s.plans s.orders s.subscriptions

section

variable {config : ShopConfig} {Allowed : ShopOp → Prop} {s s' : Shop} {order : SubscriptionOrder}

lemma SaleEffect.stockInv (h : SaleEffect s s') (hs : s.StockInv) : s'.StockInv := by
  rw [Shop.StockInv] at hs ⊢
  cases h with
  | keep hplans horders hsubs => rwa [hplans, horders, hsubs]
  | reserve plan order hplan hroom _ hid hplanId hreserved hplans horders hsubs =>
    rw [hplans, horders, hsubs]
    exact hs.reserve hplan hroom hid hplanId hreserved
  | issue plan sub hplan hroom _ hplanId hplans hsubs horders =>
    have hissue := hs.issue hplan hroom hplanId
    rw [hplans, hsubs]
    obtain horders | ⟨order, horder, order', hcompletes, hnot, horders⟩ := horders <;> rw [horders]
    · exact hissue
    · exact hissue.closeOrder horder hcompletes.id hnot hcompletes.not_reserved
  | commit plan order order' sub hplan horder hreserved hcompletes hplanId hsubPlan _ hplans
      horders hsubs =>
    rw [hplans, horders, hsubs]
    refine hs.giveUp hplan horder hreserved hplanId hcompletes.id hcompletes.not_reserved
      ?_ ?_ le_rfl
    · have := hs.issued plan hplan
      rw [issues_append, if_pos hsubPlan]
      omega
    · intro planId
      rw [issues_append]
      omega
  | release plan order order' hplan horder hreserved hexpires hplanId hplans horders hsubs =>
    rw [hplans, horders, hsubs]
    exact hs.giveUp hplan horder hreserved hplanId hexpires.id hexpires.not_reserved
      (hs.issued plan hplan)
      (fun _ => le_rfl) (by omega)
  | lapse order order' horder hnot hexpires hplans horders hsubs =>
    rw [hplans, horders, hsubs]
    exact hs.closeOrder horder hexpires.id hnot hexpires.not_reserved

lemma StockEffect.stockInv (h : StockEffect s s') (hs : s.StockInv) : s'.StockInv := by
  cases h with
  | sale h => exact h.stockInv hs
  | addPlan plan hid hissued hreserved hfits hplans horders hsubs =>
    rw [Shop.StockInv, hplans, horders, hsubs]
    exact hs.addPlan hid hissued hreserved hfits
  | editPlan row plan hrow hid hissued hreserved hfits hplans horders hsubs =>
    rw [Shop.StockInv, hplans, horders, hsubs]
    refine hs.putPlan hrow plan hid hs.ordersKeyed ?_ (fun _ _ => rfl) ?_ (fun _ =>
      le_rfl) hs.placed ?_
    · rw [hreserved, hs.reserved row hrow]
    · rw [hissued]
      exact hs.issued row hrow
    · exact hs.within.put hs.plansKeyed hrow hid.symm (hs.allocated_nonneg hrow) hfits

lemma Shop.StockInv.wellFormed (hs : s.StockInv) : s.WellFormed := ⟨hs.plansKeyed, hs.ordersKeyed⟩

lemma Shop.StockInv.counted (hs : s.StockInv) : s.Counted :=
  ⟨hs.ids, fun _ hplan => hs.counts hplan⟩

lemma ShopStep.effect (h : ShopStep config Allowed s s') (hs : s.StockInv) : StockEffect s s' := by
  obtain ⟨op, -, now, rfl⟩ := h
  cases hop : op.perform config now s with
  | error e => exact .sale (.keep rfl rfl rfl)
  | ok s' => exact ShopOp.effect hs.wellFormed hs.counted hop

lemma Shop.StockInv.run (hs : s.StockInv) (hrun : ReflTransGen (ShopStep config Allowed) s s') :
    s'.StockInv := by
  induction hrun with
  | refl => exact hs
  | tail _ hstep ih => exact (hstep.effect ih).stockInv ih

/-! ## The slot of an order -/

/-- What a transaction does with the reserved slot of an order: it stays reserved, becomes a
    subscription, or is given back. -/
inductive SlotStep (s s' : Shop) (order : SubscriptionOrder) : Prop
  | kept (horder : order ∈ s'.orders)
  | issued (order' : SubscriptionOrder) (sub : GroupSubscription)
    (hcompletes : order.Completes order')
      (horder : order' ∈ s'.orders) (hsubs : s'.subscriptions = s.subscriptions ++ [sub])
      (hplanId : sub.planId = order.planId) (huserId : sub.userId = order.userId)
      (hplan : ∃ plan ∈ s.plans, plan.id = order.planId ∧
        { plan with reservedCount := plan.reservedCount - 1, issuedCount := plan.issuedCount + 1 } ∈
          s'.plans)
  | released (order' : SubscriptionOrder) (hexpires : order.Expires order')
    (hstock : order'.stockStatus = .released)
      (horder : order' ∈ s'.orders) (hsubs : s'.subscriptions = s.subscriptions)
      (hplan : ∃ plan ∈ s.plans, plan.id = order.planId ∧
        { plan with reservedCount := plan.reservedCount - 1 } ∈ s'.plans)

lemma SaleEffect.slotStep (h : SaleEffect s s') (hs : s.WellFormed)
    (horder : order ∈ s.orders) (hreserved : order.Reserved) : SlotStep s s' order := by
  cases h with
  | keep _ horders => exact .kept (horders ▸ horder)
  | reserve _ _ _ _ _ _ _ _ _ horders => exact .kept (horders ▸ mem_append_left _ horder)
  | issue _ _ _ _ _ _ _ _ horders =>
    obtain horders | ⟨other, hother, other', hcompletes, hnot, horders⟩ := horders
    · exact .kept (horders ▸ horder)
    · obtain hkept | rfl := mem_put_or_eq hs.orders horder hother hcompletes.id
      · exact .kept (horders ▸ hkept)
      · exact absurd hreserved hnot
  | lapse other other' hother hnot hexpires _ horders =>
    obtain hkept | rfl := mem_put_or_eq hs.orders horder hother hexpires.id
    · exact .kept (horders ▸ hkept)
    · exact absurd hreserved hnot
  | commit plan other other' sub hplan hother _ hcompletes hplanId hsubPlan hsubUser hplans
      horders hsubs =>
    obtain hkept | rfl := mem_put_or_eq hs.orders horder hother hcompletes.id
    · exact .kept (horders ▸ hkept)
    · refine .issued other' sub hcompletes ?_ hsubs (hsubPlan.trans hplanId.symm) hsubUser
        ⟨plan, hplan, hplanId.symm, ?_⟩
      · exact horders ▸ mem_put_self horder hcompletes.id.symm
      · rw [hplans]
        exact mem_put_self hplan rfl
  | release plan other other' hplan hother _ hexpires hplanId hplans horders hsubs =>
    obtain hkept | rfl := mem_put_or_eq hs.orders horder hother hexpires.id
    · exact .kept (horders ▸ hkept)
    · refine .released other' hexpires ?_ ?_ hsubs ⟨plan, hplan, hplanId.symm, ?_⟩
      · rw [hexpires.stock, if_pos hreserved.2]
      · exact horders ▸ mem_put_self horder hexpires.id.symm
      · rw [hplans]
        exact mem_put_self hplan rfl

lemma StockEffect.slotStep (h : StockEffect s s') (hs : s.WellFormed)
    (horder : order ∈ s.orders) (hreserved : order.Reserved) : SlotStep s s' order := by
  cases h with
  | sale h => exact h.slotStep hs horder hreserved
  | addPlan _ _ _ _ _ _ horders | editPlan _ _ _ _ _ _ _ _ horders => exact .kept (horders ▸ horder)

lemma StockEffect.closed (h : StockEffect s s') (hs : s.WellFormed)
    (horder : order ∈ s.orders) (hclosed : order.status ≠ .pending) : order ∈ s'.orders := by
  cases h with
  | sale h => exact h.closed hs horder hclosed
  | addPlan _ _ _ _ _ _ horders | editPlan _ _ _ _ _ _ _ _ horders => exact horders ▸ horder

lemma Shop.StockInv.closed_run (hs : s.StockInv)
    (hrun : ReflTransGen (ShopStep config Allowed) s s') (horder : order ∈ s.orders)
    (hclosed : order.status ≠ .pending) : order ∈ s'.orders := by
  induction hrun with
  | refl => exact horder
  | tail hrun hstep ih =>
    have hs := hs.run hrun
    exact (hstep.effect hs).closed hs.wellFormed ih hclosed

/-! ## Runs -/

lemma Shop.StockInv.initial (hs : s.WellFormed) (hids : ∀ plan ∈ s.plans, 0 < plan.id)
    (hzero : ∀ plan ∈ s.plans, plan.issuedCount = 0 ∧ plan.reservedCount = 0)
    (hopen : ∀ order ∈ s.orders, ¬order.Reserved) : s.StockInv where
  plansKeyed := hs.plans
  ordersKeyed := hs.orders
  ids := hids
  reserved := by
    intro plan hplan
    have hnone : waiting (·.planId = plan.id) s.orders = 0 :=
      countP_eq_zero.2 fun order horder hand => hopen order horder (of_decide_eq_true hand).2
    rw [(hzero plan hplan).2, hnone]
    rfl
  issued := by
    intro plan hplan
    rw [(hzero plan hplan).1]
    exact ⟨le_rfl, Int.natCast_nonneg _⟩
  placed := fun order horder hreserved => absurd hreserved (hopen order horder)
  within := by
    intro key plan _ _ hpos
    have htotal : total scopeKey allocated s.plans key = 0 := by
      refine sum_eq_zero fun x hx => ?_
      obtain ⟨plan, hplan, rfl⟩ := mem_map.1 hx
      obtain ⟨hissued, hreserved⟩ := hzero plan (mem_of_mem_filter hplan)
      rw [allocated, hissued, hreserved, add_zero]
    rw [htotal]
    exact (min_le_left _ _).trans hpos.le

/-- The slots of a scope are within the limit of each of its plans that sets one. -/
lemma Shop.StockInv.within_scope (hs : s.StockInv) {key : ScopeKey} {plan : CatalogPlan}
    (hrows : (s.subscriptions.length + s.orders.length : ℤ) ≤ maxInt64) (hplan : plan ∈ s.plans)
    (hkey : plan.scopeKey = some key) (hpos : 0 < plan.totalPurchaseLimit) :
    ((s.plans.filter (·.scopeKey = some key)).map fun plan =>
      plan.issuedCount + plan.reservedCount).sum ≤
      plan.totalPurchaseLimit := by
  have hle := hs.within key plan hplan hkey hpos
  rwa [min_eq_left ((hs.total_le key).trans hrows)] at hle

/-- In every run, the slots of a scope are within the least positive limit of its plans, the
    reserved ones are those of the orders that wait, and the slot of an order is issued or released
    once. -/
theorem stock_of_run {s₀ : Shop} (hs₀ : s₀.WellFormed) (hids : ∀ plan ∈ s₀.plans, 0 < plan.id)
    (hzero : ∀ plan ∈ s₀.plans, plan.issuedCount = 0 ∧ plan.reservedCount = 0)
    (hopen : ∀ order ∈ s₀.orders, ¬order.Reserved)
    (hrun : ReflTransGen (ShopStep config Allowed) s₀ s)
    (hrows : (s.subscriptions.length + s.orders.length : ℤ) ≤ maxInt64) :
    (∀ key, ∀ plan ∈ s.plans, plan.scopeKey = some key → 0 < plan.totalPurchaseLimit →
      ((s.plans.filter (·.scopeKey = some key)).map fun plan =>
        plan.issuedCount + plan.reservedCount).sum ≤
        plan.totalPurchaseLimit) ∧
    (∀ plan ∈ s.plans, plan.reservedCount =
      (s.orders.filter fun order => order.planId = plan.id ∧ order.Reserved).length) ∧
    (∀ order ∈ s.orders, order.Reserved → ∀ s', ShopStep config Allowed s s' →
      SlotStep s s' order) ∧
    ∀ order ∈ s.orders, order.status ≠ .pending →
      ∀ s', ReflTransGen (ShopStep config Allowed) s s' → order ∈ s'.orders := by
  have hs := (Shop.StockInv.initial hs₀ hids hzero hopen).run hrun
  refine ⟨fun key plan hplan hkey hpos => hs.within_scope hrows hplan hkey hpos,
    fun plan hplan => ?_, fun order horder hreserved s' hstep =>
      (hstep.effect hs).slotStep hs.wellFormed horder hreserved,
    fun order horder hclosed s' hrun => hs.closed_run hrun horder hclosed⟩
  rw [hs.reserved plan hplan, waiting, countP_eq_length_filter]

end

/-- The shop of an example. -/
def Stall.config : ShopConfig := ⟨.fixed 0, 500000⟩

/-- Two plans that share two slots. -/
def Stall.start : Shop where
  users := [{ id := 1 }, { id := 2 }]
  plans :=
    [{ id := 1, priceAmount := 10, totalAmount := 1000, purchaseLimitGroup :=
      "vip", totalPurchaseLimit := 2 },
      { id := 2, priceAmount := 20, totalAmount := 3000, purchaseLimitGroup := "vip" }]

def Stall.order (userId planId : ℤ) (money : ℚ) (tradeNo : String) : ShopOp :=
  .createOrder
    { userId := userId, planId := planId, money := money, tradeNo := tradeNo,
      paymentMethod := "epay",
      paymentProvider := "epay" }

/-- Two orders take the slots and a third is refused, although its plan has issued one less than its
    limit. One is paid, the other expires, and its slot is taken again, by an order of the other
    plan. -/
def Stall.calls : List (ℤ × ShopOp) :=
  [(100, order 1 1 10 "a"), (110, order 2 2 20 "b"), (120, order 2 1 10 "c"),
    (130, .complete "a" "" "" ""), (140, .expire "b" ""), (150, order 2 2 20 "d"),
      (160, order 1 1 10 "e")]

def Stall.sold : Shop := Stall.start.play Stall.config Stall.calls

/-- The two plans use the slots together: one is issued of the first and one reserved of the
    second. -/
theorem stock_of_stall : ReflTransGen (ShopStep Stall.config fun _ => True) Stall.start Stall.sold ∧
    (Stall.sold.plans.map fun plan => (plan.issuedCount, plan.reservedCount)) = [(1, 0), (0, 1)] ∧
    Stall.sold.plans.filter (·.scopeKey = some (.group 0 "vip")) = Stall.sold.plans ∧
    (Stall.sold.plans.map fun plan => plan.issuedCount + plan.reservedCount).sum ≤ 2 ∧
    ∀ plan ∈ Stall.sold.plans, plan.reservedCount =
      (Stall.sold.orders.filter fun order => order.planId = plan.id ∧ order.Reserved).length := by
  have hrun : ReflTransGen (ShopStep Stall.config fun _ => True) Stall.start Stall.sold :=
    Shop.run_play fun _ _ => trivial
  have hscope : Stall.sold.plans.filter (·.scopeKey = some (.group 0 "vip")) =
      Stall.sold.plans := by
    decide +kernel
  have hlimit : ∃ plan ∈ Stall.sold.plans, plan.scopeKey = some (.group 0 "vip") ∧
      plan.totalPurchaseLimit = 2 := by
    decide +kernel
  obtain ⟨hwithin, hreserved, -⟩ := stock_of_run ⟨by decide, by decide⟩ (by decide) (by decide)
    (by decide) hrun
    (by decide +kernel)
  obtain ⟨plan, hplan, hkey, hlimit⟩ := hlimit
  have hle := hwithin _ plan hplan hkey (by omega)
  rw [hscope, hlimit] at hle
  exact ⟨hrun, by decide +kernel, hscope, hle, hreserved⟩

end Allrouter
