import Allrouter.Subscription.OrderEffect

/-!
# The limit of a user

The subscriptions of a user in a scope and the orders that wait for their payment count against one
limit. An order is counted from when it is made, so that its completion only moves it from one count
to the other.

* `SaleEffect.held`: a sale counts one purchase more only while the limit leaves room for it;
* `purchases_le_of_run`: sales keep the purchases of a user within the limit.
-/

namespace Allrouter

open Relation Allotment Shop List Table

section

variable {config : ShopConfig} {s s' : Shop} {userId : ℤ} {plan plan' : CatalogPlan}
    {key : ScopeKey}

/-! ## Scopes -/

/-- The scope has the plans and the limit of before. -/
structure SameScope (key : ScopeKey) (catalog catalog' : List CatalogPlan) : Prop where
  planIDs : scopePlanIDs catalog' key = scopePlanIDs catalog key
  maxPerUser : scopeMaxPerUser catalog' key = scopeMaxPerUser catalog key

lemma SameScope.put {catalog : List CatalogPlan}
    (hcatalog : Table.Keyed (fun plan : CatalogPlan => plan.id) catalog) (hplan : plan ∈ catalog)
    (hid : plan'.id = plan.id) (hkey : plan'.scopeKey = plan.scopeKey)
    (hmax : plan'.maxPurchasePerUser = plan.maxPurchasePerUser) (key : ScopeKey) :
    SameScope key catalog (put (fun plan => plan.id) plan' catalog) :=
  have hp : decide (plan'.scopeKey = some key) = decide (plan.scopeKey = some key) := by rw [hkey]
  ⟨map_filter_put hcatalog hplan hid.symm hp hid,
    congrArg leastPositive (map_filter_put hcatalog hplan hid.symm hp hmax)⟩

lemma SaleEffect.sameScope (h : SaleEffect s s') (hs : s.WellFormed) (key : ScopeKey) :
    SameScope key s.plans s'.plans := by
  cases h with
  | keep hplans | lapse _ _ _ _ _ hplans => exact hplans ▸ ⟨rfl, rfl⟩
  | reserve _ _ hplan _ _ _ _ _ hplans | issue _ _ hplan _ _ _ hplans
  | commit _ _ _ _ hplan _ _ _ _ _ _ hplans
  | release _ _ _ hplan _ _ _ _ hplans =>
    rw [hplans]
    refine SameScope.put hs.plans hplan ?_ ?_ ?_ key
    exacts [rfl, scopeKey_congr rfl rfl rfl, rfl]

/-! ## Purchases -/

/-- What counts against the limit of a user. -/
def Shop.held (s : Shop) (userId : ℤ) (planIDs : List ℤ) : ℕ :=
  (s.purchases userId planIDs).1 + (s.purchases userId planIDs).2

def owned (userId : ℤ) (planIDs : List ℤ) (subscriptions : List GroupSubscription) : ℕ :=
  subscriptions.countP fun sub => sub.userId = userId ∧ sub.planId ∈ planIDs

lemma Shop.held_eq (s : Shop) (userId : ℤ) (planIDs : List ℤ) : s.held userId planIDs =
    owned userId planIDs s.subscriptions +
      waiting (fun order => order.userId = userId ∧ order.planId ∈ planIDs) s.orders := by
  simp only [held, purchases, owned, waiting, and_assoc]

lemma owned_append {planIDs : List ℤ} {subscriptions : List GroupSubscription}
    {sub : GroupSubscription} :
    owned userId planIDs (subscriptions ++ [sub]) =
      owned userId planIDs subscriptions + if sub.userId = userId ∧ sub.planId ∈ planIDs then 1
        else 0 := by
  simp [owned]

/-- The limit of the scope leaves room for one more purchase. -/
def Shop.UserLeft (s : Shop) (userId : ℤ) (key : ScopeKey) : Prop :=
  0 < scopeMaxPerUser s.plans key →
    min (s.held userId (scopePlanIDs s.plans key) : ℤ) maxInt64 < scopeMaxPerUser s.plans key

lemma UserHasRoom.userLeft (h : UserHasRoom s userId plan) (hs : s.WellFormed)
    (hplan : plan ∈ s.plans) (hmem : plan.id ∈ scopePlanIDs s.plans key) :
      s.UserLeft userId key := by
  obtain ⟨row, hrow, hid⟩ := mem_map.1 hmem
  obtain ⟨hrow, hkey⟩ := mem_filter.1 hrow
  obtain rfl := hs.plans.eq_of_mem hrow hplan hid
  intro hpos
  have hroom := h key (of_decide_eq_true hkey) hpos
  rwa [← Nat.cast_add] at hroom

lemma SaleEffect.held (h : SaleEffect s s') (hs : s.WellFormed) (userId : ℤ) (key : ScopeKey) :
    s'.held userId (scopePlanIDs s.plans key) ≤ s.held userId (scopePlanIDs s.plans key) ∨
      s'.held userId (scopePlanIDs s.plans key) = s.held userId (scopePlanIDs s.plans key) + 1 ∧
        s.UserLeft userId key := by
  rw [held_eq, held_eq]
  cases h with
  | keep _ horders hsubs => exact .inl (by rw [horders, hsubs])
  | reserve plan order hplan _ huser _ hplanId hreserved _ horders hsubs =>
    rw [horders, hsubs, waiting_append _ hreserved]
    split_ifs with hmine
    · obtain ⟨rfl, hmem⟩ := hmine
      exact .inr ⟨(add_assoc _ _ _).symm, huser.userLeft hs hplan (hplanId ▸ hmem)⟩
    · exact .inl le_rfl
  | issue plan sub hplan _ huser hplanId _ hsubs horders =>
    have hwaiting : waiting (fun order => order.userId = userId ∧
      order.planId ∈ scopePlanIDs s.plans key) s'.orders =
        waiting (fun order => order.userId = userId ∧ order.planId ∈ scopePlanIDs s.plans key)
            s.orders := by
      obtain horders | ⟨order, horder, order', hcompletes, hnot, horders⟩ := horders <;>
        rw [horders]
      rw [← waiting_put _ hs.orders horder hcompletes.id hcompletes.not_reserved, if_neg fun hand =>
        hnot hand.2, add_zero]
    rw [hwaiting, hsubs, owned_append]
    split_ifs with hmine
    · obtain ⟨rfl, hmem⟩ := hmine
      exact .inr ⟨add_right_comm _ _ _, huser.userLeft hs hplan (hplanId ▸ hmem)⟩
    · exact .inl le_rfl
  | commit plan order order' sub hplan horder hreserved hcompletes hplanId hsubPlan hsubUser _
      horders hsubs =>
    -- The order and its subscription are of one user and one plan.
    have hput := waiting_put (fun order => order.userId = userId ∧
      order.planId ∈ scopePlanIDs s.plans key) hs.orders horder
      hcompletes.id hcompletes.not_reserved
    rw [horders, hsubs, owned_append, hsubUser, hsubPlan, ← hplanId, ← hput]
    refine .inl (le_of_eq ?_)
    by_cases hmine : order.userId = userId ∧ order.planId ∈ scopePlanIDs s.plans key
    · rw [if_pos hmine, if_pos ⟨hmine, hreserved⟩]
      omega
    · rw [if_neg hmine, if_neg fun hand => hmine hand.1]
      rfl
  | release _ order order' _ horder _ hexpires _ _ horders hsubs
  | lapse order order' horder _ hexpires _ horders hsubs =>
    have hput := waiting_put (fun order => order.userId = userId ∧
      order.planId ∈ scopePlanIDs s.plans key) hs.orders horder
      hexpires.id hexpires.not_reserved
    rw [horders, hsubs]
    omega

/-! ## Runs -/

/-- The limit of the scope holds for the purchases of the user. -/
structure WithinUserLimit (userId : ℤ) (key : ScopeKey) (s : Shop) : Prop where
  wellFormed : s.WellFormed
  held : (s.held userId (scopePlanIDs s.plans key) : ℤ) ≤ scopeMaxPerUser s.plans key

section

variable (h : WithinUserLimit userId key s) (hpos : 0 < scopeMaxPerUser s.plans key)
  (hint : scopeMaxPerUser s.plans key ≤ maxInt64)
include h hpos hint

lemma WithinUserLimit.step (hsale : SaleEffect s s') : WithinUserLimit userId key s' := by
  have hsame := hsale.sameScope h.wellFormed key
  refine ⟨hsale.wellFormed h.wellFormed, ?_⟩
  rw [hsame.planIDs, hsame.maxPerUser]
  have hheld := h.held
  obtain hle | ⟨heq, hleft⟩ := hsale.held h.wellFormed userId key
  · omega
  · have := hleft hpos
    omega

lemma WithinUserLimit.run (hrun : ReflTransGen (ShopStep config ShopOp.IsSale) s s') :
    WithinUserLimit userId key s' ∧ SameScope key s.plans s'.plans := by
  induction hrun with
  | refl => exact ⟨h, rfl, rfl⟩
  | @tail s₁ _ _ hstep ih =>
    obtain ⟨ih, hsame⟩ := ih
    obtain ⟨op, hop, now, rfl⟩ := hstep
    cases hperform : op.perform config now s₁ with
    | error e => exact ⟨ih, hsame⟩
    | ok s' =>
      have hsale := ShopOp.effect_of_isSale ih.wellFormed hperform hop
      have hsame' := hsale.sameScope ih.wellFormed key
      rw [← hsame.maxPerUser] at hpos hint
      exact ⟨ih.step hpos hint hsale, hsame'.planIDs.trans hsame.planIDs,
        hsame'.maxPerUser.trans hsame.maxPerUser⟩

end

/-- A user has no more subscriptions and reserved orders in a scope than its limit. -/
theorem purchases_le_of_run {s₀ : Shop} (hs₀ : s₀.WellFormed) {planId : ℤ}
    {scope : SubscriptionPurchaseScope}
    (hscope : loadSubscriptionPurchaseScope s₀.plans planId = .ok scope)
    (hpos : 0 < scope.maxPerUser) (hint : scope.maxPerUser ≤ maxInt64)
    (hinit : ((s₀.subscriptions.filter fun sub => sub.userId = userId ∧
      sub.planId ∈ scope.planIDs).length +
      (s₀.orders.filter fun order => order.userId = userId ∧ order.planId ∈ scope.planIDs ∧
        order.Reserved).length : ℤ) ≤
        scope.maxPerUser) (hrun : ReflTransGen (ShopStep config ShopOp.IsSale) s₀ s) :
    ((s.subscriptions.filter fun sub => sub.userId = userId ∧ sub.planId ∈ scope.planIDs).length +
      (s.orders.filter fun order => order.userId = userId ∧ order.planId ∈ scope.planIDs ∧
        order.Reserved).length : ℤ) ≤
        scope.maxPerUser := by
  obtain ⟨target, -, -, key, -, -, group, rfl⟩ := loadPurchaseScope_eq_ok hs₀.plans hscope
  have hheld : ∀ s : Shop, (s.held userId (scopePlanIDs s₀.plans key) : ℤ) =
      (s.subscriptions.filter fun sub => sub.userId = userId ∧
        sub.planId ∈ scopePlanIDs s₀.plans key).length +
      (s.orders.filter fun order =>
        order.userId = userId ∧ order.planId ∈ scopePlanIDs s₀.plans key ∧
            order.Reserved).length := fun s => by
    rw [held, purchases, countP_eq_length_filter, countP_eq_length_filter, Nat.cast_add]
  obtain ⟨hfinal, hsame⟩ := WithinUserLimit.run ⟨hs₀, (hheld s₀).trans_le hinit⟩ hpos hint hrun
  have hle := hfinal.held
  rw [hsame.planIDs, hsame.maxPerUser] at hle
  exact (hheld s).symm.trans_le hle

end

def Kiosk.config : ShopConfig := ⟨.fixed 0, 500000⟩

def Kiosk.small : CatalogPlan :=
  { id := 1, priceAmount := 10, totalAmount := 1000, purchaseLimitGroup := "vip",
    maxPurchasePerUser := 2 }

def Kiosk.large : CatalogPlan :=
  { id := 2, priceAmount := 20, totalAmount := 3000, purchaseLimitGroup := "vip",
    maxPurchasePerUser := 5 }

/-- Two plans of a group, of which a user may have two. -/
def Kiosk.start : Shop where
  users := [{ id := 1 }]
  plans := [small, large]

def Kiosk.order (planId : ℤ) (money : ℚ) (tradeNo : String) : ShopOp :=
  .createOrder
    { userId := 1, planId := planId, money := money, tradeNo := tradeNo, paymentMethod := "epay",
      paymentProvider := "epay" }

/-- An order of each plan. The user is then refused a third one, and a subscription, until an order
    expires. -/
def Kiosk.calls : List (ℤ × ShopOp) :=
  [(100, order 1 10 "a"), (110, order 2 20 "b"), (120, order 2 20 "c"),
    (130, .complete "a" "" "" ""), (140, .issue 1 1), (150, .expire "b" ""), (160, .issue 1 2)]

def Kiosk.sold : Shop := Kiosk.start.play Kiosk.config Kiosk.calls

lemma Kiosk.load_start : loadSubscriptionPurchaseScope Kiosk.start.plans 1 =
    .ok (purchaseScopeOf Kiosk.small Kiosk.start.plans) := by
  rfl

/-- Two plans of one scope, and a limit of two. -/
theorem purchases_le_at_kiosk :
    ReflTransGen (ShopStep Kiosk.config ShopOp.IsSale) Kiosk.start Kiosk.sold ∧
    Kiosk.sold.subscriptions.map (·.planId) = [1, 2] ∧
    ((Kiosk.sold.subscriptions.filter fun sub => sub.userId = 1 ∧ sub.planId ∈ [1, 2]).length +
      (Kiosk.sold.orders.filter fun order => order.userId = 1 ∧ order.planId ∈ [1, 2] ∧
        order.Reserved).length : ℤ) ≤ 2 := by
  have hrun : ReflTransGen (ShopStep Kiosk.config ShopOp.IsSale) Kiosk.start Kiosk.sold :=
    run_play (by simp [Kiosk.calls, Kiosk.order, ShopOp.IsSale])
  refine ⟨hrun, by decide +kernel, ?_⟩
  exact purchases_le_of_run ⟨by decide, by decide⟩ Kiosk.load_start (by decide) (by decide)
    (by decide) hrun

end Allrouter
