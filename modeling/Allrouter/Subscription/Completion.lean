import Allrouter.Subscription.OrderEffect

/-!
# Confirmations of payments

A confirmation may come any number of times, and after the order has expired. The subscription of an
order is issued while the order is pending, which it then is no more; the income of its provider is
credited while there is no bill of it, which there then is; and the payment on a chain is bound to
its hash when it completes an order.

* `OnceInv`: what holds of the history after any calls, and `HashInv` for the hashes;
* `once_of_run`: no order has two subscriptions or two incomes, no order that has expired has a
  subscription, and no hash completes two orders.
-/

namespace Allrouter

open Relation Text Shop List Table OrderEvent Option

/-- The calls that follow a payment, or its lack. -/
def ShopOp.IsConfirmation : ShopOp → Prop
  | complete .. => True
  | completeCrypto .. => True
  | expire .. => True
  | _ => False

lemma ShopOp.IsConfirmation.isSale {op : ShopOp} (h : op.IsConfirmation) : op.IsSale := by
  cases op <;> first | exact h.elim | trivial

/-! ## The history -/

namespace OrderEvent

def issuedOrder? : OrderEvent → Option ℤ
  | issued orderId _ => some orderId
  | credited .. => none

def creditedOrder? : OrderEvent → Option ℤ
  | issued .. => none
  | credited orderId _ _ => some orderId

def creditTo (userId : ℤ) : OrderEvent → ℤ
  | issued .. => 0
  | credited _ ownerUserId incomeQuota => if ownerUserId = userId then incomeQuota else 0

end OrderEvent

/-- The orders that have a subscription, once for each of them. -/
def Shop.issuedOrders (s : Shop) : List ℤ := s.history.filterMap issuedOrder?

/-- The orders that have an income, once for each of them. -/
def Shop.creditedOrders (s : Shop) : List ℤ := s.history.filterMap creditedOrder?

/-- What the orders have credited to a user. -/
def Shop.credits (s : Shop) (userId : ℤ) : ℤ := (s.history.map (creditTo userId)).sum

def Shop.orderIdOf (s : Shop) (tradeNo : String) : Option ℤ :=
  (get? (fun order : SubscriptionOrder => order.tradeNo) tradeNo s.orders).map (·.id)

section

variable {config : ShopConfig} {s₀ s s' : Shop} {now : ℤ} {order : SubscriptionOrder}
    {event : OrderEvent}

lemma Shop.issuedOrders_append (h : s'.history = s.history ++ [event]) :
    s'.issuedOrders = s.issuedOrders ++ event.issuedOrder?.toList := by
  rw [issuedOrders, h, filterMap_append]
  cases event <;> rfl

lemma Shop.creditedOrders_append (h : s'.history = s.history ++ [event]) :
    s'.creditedOrders = s.creditedOrders ++ event.creditedOrder?.toList := by
  rw [creditedOrders, h, filterMap_append]
  cases event <;> rfl

lemma Shop.credits_append (h : s'.history = s.history ++ [event]) (userId : ℤ) :
    s'.credits userId = s.credits userId + event.creditTo userId := by
  simp [credits, h]

/-! ## Bills -/

lemma BillsStep.kept {topUps topUps' : List SubscriptionTopUp} (h : BillsStep topUps topUps')
    (hkeyed : Table.Keyed (fun topUp : SubscriptionTopUp => topUp.id) topUps) :
    Table.Keyed (fun topUp : SubscriptionTopUp => topUp.id) topUps' ∧
      ∀ tradeNo ∈ topUps.map (·.tradeNo), tradeNo ∈ topUps'.map (·.tradeNo) := by
  cases h with
  | add bill hid =>
    refine ⟨hkeyed.append_singleton fun row hrow => hid ▸ ne_nextKey (·.id) hrow,
      fun tradeNo htradeNo => ?_⟩
    rw [map_append]
    exact mem_append_left _ htradeNo
  | update topUp topUp' htopUp hid htradeNo =>
    refine ⟨hkeyed.put _, fun tradeNo hmem => ?_⟩
    obtain ⟨row, hrow, rfl⟩ := mem_map.1 hmem
    by_cases hsame : row.id = topUp'.id
    · obtain rfl := hkeyed.eq_of_mem hrow htopUp (hsame.trans hid)
      exact mem_map.2 ⟨topUp', mem_put_self hrow hsame, htradeNo⟩
    · exact mem_map.2 ⟨row, mem_put_of_ne hrow hsame, rfl⟩

/-! ## What holds of the history -/

/-- What holds of the history after confirmations, from the tables `s₀` on. -/
structure OnceInv (s₀ s : Shop) : Prop where
  bills : Table.Keyed (fun topUp : SubscriptionTopUp => topUp.id) s.topUps
  issuedOnce : s.issuedOrders.Nodup
  issued : ∀ order ∈ s.orders, order.id ∈ s.issuedOrders → order.status = .success
  creditedOnce : s.creditedOrders.Nodup
  credited : ∀ orderId ∈ s.creditedOrders, incomeTradeNo orderId ∈ s.topUps.map (·.tradeNo)
  subscriptions : s.subscriptions.length = s₀.subscriptions.length + s.issuedOrders.length
  quotas : s.users.map (fun user => (user.id, user.quota)) =
    s₀.users.map fun user => (user.id, user.quota + s.credits user.id)
  orderIds : ∀ tradeNo, s.orderIdOf tradeNo = s₀.orderIdOf tradeNo

lemma OnceInv.not_issued (h : OnceInv s₀ s) (horder : order ∈ s.orders)
    (hpending : order.status = .pending) : order.id ∉ s.issuedOrders := by
  intro hmem
  have := h.issued order horder hmem
  rw [hpending] at this
  cases this

lemma orderIdOf_put (order' : SubscriptionOrder)
    (horders : Table.Keyed (fun order : SubscriptionOrder => order.id) s.orders)
    (horder : order ∈ s.orders) (hid : order'.id = order.id)
    (htradeNo : order'.tradeNo = order.tradeNo)
    (h : s'.orders = put (fun order => order.id) order' s.orders) (tradeNo : String) :
    s'.orderIdOf tradeNo = s.orderIdOf tradeNo := by
  rw [orderIdOf, h]
  exact map_get?_put tradeNo horders horder hid.symm htradeNo

lemma OnceInv.completed (h : OnceInv s₀ s) (hs : s.WellFormed) (horder : order ∈ s.orders)
    {final : SubscriptionOrder} {txHash : Option String}
    (hcompleted : Shop.Completed s order final txHash s') :
    OnceInv s₀ s' := by
  have hnew := h.not_issued horder hcompleted.completes.pending
  have hissued : s'.issuedOrders = s.issuedOrders ++ [order.id] :=
    issuedOrders_append hcompleted.history
  have hcredited := (creditedOrders_append hcompleted.history).trans (append_nil _)
  constructor
  · exact hcompleted.topUps ▸ h.bills
  · rw [hissued]
    exact h.issuedOnce.append (nodup_singleton _) (disjoint_singleton.2 hnew)
  · intro row hrow hmem
    rw [hcompleted.orders] at hrow
    obtain rfl | ⟨hrow, hne⟩ := mem_put hrow
    · exact hcompleted.completes.success
    · rw [hissued, mem_append, mem_singleton] at hmem
      exact h.issued row hrow (hmem.resolve_right (hcompleted.completes.id ▸ hne))
  · exact hcredited ▸ h.creditedOnce
  · rw [hcredited, hcompleted.topUps]
    exact h.credited
  · obtain ⟨_, _, _, _, _, _, _, _, _, hsubs⟩ := hcompleted.stock
    rw [hsubs, hissued, length_append, length_append, h.subscriptions]
    rfl
  · rw [hcompleted.users, h.quotas]
    simp only [credits_append hcompleted.history, creditTo, add_zero]
  · intro tradeNo
    rw [orderIdOf_put final hs.orders horder hcompleted.completes.id hcompleted.tradeNo
      hcompleted.orders, h.orderIds]

lemma OnceInv.billed (h : OnceInv s₀ s) {topUps : List SubscriptionTopUp}
    (hbills : BillsStep s.topUps topUps) :
    OnceInv s₀ { s with topUps := topUps } :=
  { h with
    bills := (hbills.kept h.bills).1
    credited := fun orderId hmem => (hbills.kept h.bills).2 _ (h.credited orderId hmem) }

lemma credit_quotas (users : List ShopUser) (ownerUserId incomeQuota : ℤ) :
    (modify (fun user : ShopUser => user.id) ownerUserId
      (fun user => { user with quota := user.quota + incomeQuota }) users).map (fun user =>
        (user.id, user.quota)) =
    (users.map fun user => (user.id, user.quota)).map fun (id, quota) =>
      (id, quota + if ownerUserId = id then incomeQuota else 0) := by
  rw [Table.modify, List.map_map, List.map_map]
  refine List.map_congr_left fun user _ => ?_
  by_cases howner : user.id = ownerUserId
  · simp [howner]
  · simp [howner, Ne.symm howner]

/-- The income of an order is credited while there is no bill of it. -/
lemma OnceInv.income (h : OnceInv s₀ s)
    (hincome : s.applyProviderSubscriptionIncome config now order = .ok s') :
    OnceInv s₀ s' := by
  obtain rfl | ⟨ownerUserId, incomeQuota, hnone, rfl⟩ := applyIncome_eq_ok hincome
  · exact h
  have hnew : order.id ∉ s.creditedOrders := fun hmem => by
    obtain ⟨topUp, htopUp, htradeNo⟩ := mem_map.1 (h.credited order.id hmem)
    exact hnone topUp htopUp htradeNo
  have hhistory : (s.creditIncome now order ownerUserId incomeQuota).history =
      s.history ++ [.credited order.id ownerUserId incomeQuota] := rfl
  have hissued := (issuedOrders_append hhistory).trans (append_nil _)
  have hcredited : (s.creditIncome now order ownerUserId incomeQuota).creditedOrders =
      s.creditedOrders ++ [order.id] :=
    creditedOrders_append hhistory
  have hbills :=
    BillsStep.kept (.add { order.incomeBill now ownerUserId incomeQuota with id := _ } rfl) h.bills
  constructor
  · exact hbills.1
  · rw [hissued]
    exact h.issuedOnce
  · rw [hissued]
    exact h.issued
  · rw [hcredited]
    exact h.creditedOnce.append (nodup_singleton _) (disjoint_singleton.2 hnew)
  · intro orderId hmem
    rw [hcredited, mem_append, mem_singleton] at hmem
    obtain hmem | rfl := hmem
    · exact hbills.2 _ (h.credited orderId hmem)
    · exact mem_map.2 ⟨_, mem_append_right _ (mem_singleton_self _), rfl⟩
  · rw [hissued]
    exact h.subscriptions
  · refine (credit_quotas s.users ownerUserId incomeQuota).trans ?_
    rw [h.quotas, List.map_map]
    refine map_congr_left fun user _ => ?_
    simp only [Function.comp_apply, credits_append hhistory, creditTo, add_assoc]
  · exact h.orderIds

lemma OnceInv.expire (h : OnceInv s₀ s) (hs : s.WellFormed) (horder : order ∈ s.orders)
    (hpending : order.status = .pending) (plans : List CatalogPlan) (now : ℤ) :
    OnceInv s₀ ({ s with plans := plans }.saveOrder (order.expire now)) :=
  { h with
    issued := fun row hrow hmem => by
      obtain rfl | ⟨hrow, -⟩ := mem_put hrow
      · exact absurd (show order.id ∈ s.issuedOrders from hmem) (h.not_issued horder hpending)
      · exact h.issued row hrow hmem
    orderIds := fun tradeNo =>
      (orderIdOf_put (order.expire now) hs.orders horder rfl rfl rfl tradeNo).trans
        (h.orderIds tradeNo) }

variable {tradeNo providerPayload expectedPaymentMethod expectedPaymentProvider hash : String}
  {txHash : Option String} {receipt : CryptoReceipt}

lemma OnceInv.completeWith (h : OnceInv s₀ s) (hs : s.WellFormed)
    (hcomplete : s.completeSubscriptionOrderWith config now tradeNo providerPayload
      expectedPaymentMethod
      expectedPaymentProvider txHash = .ok s') : OnceInv s₀ s' := by
  obtain ⟨order, hget, saved, billed, final, hbilled, hincome, hsaved⟩ :=
    completeWith_eq_ok hs hcomplete
  have hsaved : OnceInv s₀ saved := by
    obtain ⟨-, rfl⟩ | hcompleted := hsaved
    · exact h
    · exact h.completed hs (get?_eq_some hget).1 hcompleted
  obtain ⟨topUps, hbills, rfl⟩ := upsertTopUp_eq_ok hbilled
  exact (hsaved.billed hbills).income hincome

/-! ## Hashes -/

/-- What a call leaves as it is, and the subscription that it may issue. -/
structure Confirms (tradeNo : String) (txHash : Option String) (s s' : Shop) : Prop where
  cryptoTransactions : s'.cryptoTransactions = s.cryptoTransactions
  orderIds : ∀ tradeNo, s'.orderIdOf tradeNo = s.orderIdOf tradeNo
  history : ∀ orderId hash, .issued orderId hash ∈ s'.history →
    .issued orderId hash ∈ s.history ∨ hash = txHash ∧ s.orderIdOf tradeNo = some orderId

lemma confirms_completeWith (hs : s.WellFormed)
    (hcomplete : s.completeSubscriptionOrderWith config now tradeNo providerPayload
      expectedPaymentMethod
      expectedPaymentProvider txHash = .ok s') : Confirms tradeNo txHash s s' := by
  obtain ⟨order, hget, saved, billed, final, hbilled, hincome, hsaved⟩ :=
    completeWith_eq_ok hs hcomplete
  have hsaved : Confirms tradeNo txHash s saved := by
    obtain ⟨-, rfl⟩ | hcompleted := hsaved
    · exact ⟨rfl, fun _ => rfl, fun _ _ => .inl⟩
    · refine ⟨hcompleted.cryptoTransactions, ?_, fun orderId hash hmem => ?_⟩
      · exact orderIdOf_put final hs.orders (get?_eq_some hget).1 hcompleted.completes.id
          hcompleted.tradeNo
          hcompleted.orders
      · rw [hcompleted.history, mem_append, mem_singleton] at hmem
        refine hmem.imp_right fun hmem => ?_
        obtain ⟨rfl, rfl⟩ := issued.inj hmem
        refine ⟨rfl, ?_⟩
        rw [orderIdOf, hget, map_some]
  obtain ⟨topUps, -, rfl⟩ := upsertTopUp_eq_ok hbilled
  obtain rfl | ⟨ownerUserId, incomeQuota, -, rfl⟩ := applyIncome_eq_ok hincome
  · exact ⟨hsaved.cryptoTransactions, hsaved.orderIds, hsaved.history⟩
  · refine ⟨hsaved.cryptoTransactions, hsaved.orderIds, fun orderId hash hmem => ?_⟩
    obtain hmem | hmem := mem_append.1 hmem
    · exact hsaved.history orderId hash hmem
    · cases mem_singleton.1 hmem

/-- A hash that has completed an order is that of the payment of the order. -/
structure HashInv (s : Shop) : Prop where
  keyed : Table.Keyed (fun tx : SubscriptionCryptoTransaction => tx.id) s.cryptoTransactions
  normalized : ∀ tx ∈ s.cryptoTransactions, ∀ hash, tx.txHash = some hash →
    normalizeTxHash hash = hash
  unique : ∀ tx ∈ s.cryptoTransactions, ∀ tx' ∈ s.cryptoTransactions, ∀ hash,
    tx.txHash = some hash → tx'.txHash = some hash → tx = tx'
  bound : ∀ orderId hash, .issued orderId (some hash) ∈ s.history →
    hash ≠ "" ∧ ∃ tx ∈ s.cryptoTransactions, tx.txHash = some hash ∧
      s.orderIdOf tx.tradeNo = some orderId

lemma HashInv.eq_of_issued (h : HashInv s) {orderId orderId' : ℤ}
    (hissued : .issued orderId (some hash) ∈ s.history)
    (hissued' : .issued orderId' (some hash) ∈ s.history) :
    orderId = orderId' := by
  obtain ⟨-, tx, htx, hhash, hid⟩ := h.bound orderId hash hissued
  obtain ⟨-, tx', htx', hhash', hid'⟩ := h.bound orderId' hash hissued'
  obtain rfl := h.unique tx htx tx' htx' hash hhash hhash'
  exact some.inj (hid.symm.trans hid')

/-- A call that completes the order of a payment, if any, that is bound to the hash. -/
lemma HashInv.confirms (h : HashInv s) (hconfirms : Confirms tradeNo txHash s s')
    (hbound : ∀ hash, txHash = some hash →
      hash ≠ "" ∧ ∃ tx ∈ s.cryptoTransactions, tx.txHash = some hash ∧ tx.tradeNo = tradeNo) :
        HashInv s' := by
  have hcrypto := hconfirms.cryptoTransactions
  refine ⟨hcrypto ▸ h.keyed, hcrypto ▸ h.normalized, hcrypto ▸ h.unique,
    fun orderId hash hmem => ?_⟩
  simp only [hcrypto, hconfirms.orderIds]
  obtain hmem | ⟨hhash, hid⟩ := hconfirms.history orderId _ hmem
  · exact h.bound orderId hash hmem
  · obtain ⟨hne, tx, htx, htxHash, rfl⟩ := hbound hash hhash.symm
    exact ⟨hne, tx, htx, htxHash, hid⟩

lemma normalizeTxHash_normalizeTxHash (hash : String) :
    normalizeTxHash (normalizeTxHash hash) = normalizeTxHash hash := by
  rw [normalizeTxHash, normalizeTxHash, trimSpace_toLower, trimSpace_trimSpace, toLower_toLower]

lemma HashInv.bind (h : HashInv s) {cryptoTx confirmed : SubscriptionCryptoTransaction}
    (htx : cryptoTx ∈ s.cryptoTransactions) (hunbound : trimSpace (cryptoTx.txHash.getD "") = "")
    (hfresh : ∀ other ∈ s.cryptoTransactions, other.id ≠ cryptoTx.id →
      other.txHash.map toLower ≠ some (toLower hash))
    (hid : confirmed.id = cryptoTx.id) (hconfirmed : confirmed.txHash = some hash)
    (hnormalized : normalizeTxHash hash = hash) :
    HashInv
      { s with cryptoTransactions := put (fun tx => tx.id) confirmed s.cryptoTransactions } := by
  have hother : ∀ tx ∈ s.cryptoTransactions, tx.id ≠ confirmed.id → tx.txHash ≠ some hash :=
    fun tx htx hne hsame => hfresh tx htx (hid ▸ hne) (by rw [hsame]; rfl)
  constructor
  · exact h.keyed.put _
  · intro tx htx hash' hhash'
    obtain rfl | ⟨htx, -⟩ := mem_put htx
    · obtain rfl := some.inj (hconfirmed.symm.trans hhash')
      exact hnormalized
    · exact h.normalized tx htx hash' hhash'
  · intro tx htx tx' htx' hash' hhash hhash'
    obtain rfl | ⟨hrow, hne⟩ := mem_put htx <;> obtain rfl | ⟨hrow', hne'⟩ := mem_put htx'
    · rfl
    · exact absurd (hhash'.trans (hhash.symm.trans hconfirmed)) (hother tx' hrow' hne')
    · exact absurd (hhash.trans (hhash'.symm.trans hconfirmed)) (hother tx hrow hne)
    · exact h.unique tx hrow tx' hrow' hash' hhash hhash'
  · intro orderId hash' hmem
    obtain ⟨hne, tx, htx', hhash', hid'⟩ := h.bound orderId hash' hmem
    refine ⟨hne, tx, mem_put_of_ne htx' fun hsame => hne ?_, hhash', hid'⟩
    -- The payment had a hash that is not empty.
    obtain rfl := h.keyed.eq_of_mem htx' htx (hsame.trans hid)
    rw [hhash', getD_some] at hunbound
    rw [← h.normalized tx htx' hash' hhash', normalizeTxHash, hunbound]
    decide

/-! ## Calls -/

/-- What every run of the shop keeps. -/
structure ConfirmInv (s₀ s : Shop) : Prop where
  wellFormed : s.WellFormed
  once : OnceInv s₀ s
  hash : HashInv s

lemma HashInv.completeCrypto (h : HashInv s) (hs : s.WellFormed)
    (hcomplete : s.completeSubscriptionCryptoOrder config now tradeNo providerPayload receipt =
      .ok s') : HashInv s' := by
  obtain ⟨hne, cryptoTx, hget, completed, hcompleted, hbound⟩ := completeCrypto_eq_ok hcomplete
  obtain ⟨htx, htradeNo⟩ := get?_eq_some hget
  have hconfirms := confirms_completeWith hs hcompleted
  obtain ⟨⟨bound, hbound, hsame⟩, rfl⟩ | ⟨hunbound, hfresh, confirmed, hid, htradeNo', hconfirmed,
    rfl⟩ := hbound
  · refine h.confirms hconfirms fun hash hhash => ?_
    obtain rfl := some.inj hhash
    refine ⟨hne, cryptoTx, htx, ?_, htradeNo⟩
    rw [hbound, ← hsame, h.normalized cryptoTx htx bound hbound]
  · -- The payment is bound when the order is completed, so it may as well have been before.
    have hbind := h.bind htx hunbound hfresh hid hconfirmed (normalizeTxHash_normalizeTxHash _)
    refine hbind.confirms ⟨?_, hconfirms.orderIds, hconfirms.history⟩ fun hash hhash => ?_
    · rw [hconfirms.cryptoTransactions]
    · obtain rfl := some.inj hhash
      exact ⟨hne, confirmed, mem_put_self htx hid.symm, hconfirmed, htradeNo'.trans htradeNo⟩

lemma OnceInv.completeCrypto (h : OnceInv s₀ s) (hs : s.WellFormed)
    (hcomplete : s.completeSubscriptionCryptoOrder config now tradeNo providerPayload receipt =
      .ok s') :
    OnceInv s₀ s' := by
  obtain ⟨-, cryptoTx, -, completed, hcompleted, ⟨-, rfl⟩ | ⟨-, -, confirmed, -, -, -, rfl⟩⟩ :=
    completeCrypto_eq_ok hcomplete
  · exact h.completeWith hs hcompleted
  · exact { h.completeWith hs hcompleted with }

lemma ConfirmInv.step (h : ConfirmInv s₀ s) {op : ShopOp} (hop : op.IsConfirmation)
    (hperform : op.perform config now s = .ok s') : ConfirmInv s₀ s' := by
  have hs := h.wellFormed
  have hs' := (ShopOp.effect_of_isSale hs hperform hop.isSale).wellFormed hs
  cases op with
  | complete => exact ⟨hs', h.once.completeWith hs hperform,
    h.hash.confirms (confirms_completeWith hs hperform) (by simp)⟩
  | completeCrypto => exact ⟨hs', h.once.completeCrypto hs hperform,
    h.hash.completeCrypto hs hperform⟩
  | expire =>
    obtain rfl | ⟨order, horder, hpending, plans, -, hbilled⟩ :=
      expireSubscriptionOrder_eq_ok hperform
    · exact h
    have honce := h.once.expire hs horder hpending plans now
    have hids := orderIdOf_put (order.expire now) hs.orders horder rfl rfl
      (show ({ s with plans := plans }.saveOrder (order.expire now)).orders = _ from rfl)
    obtain ⟨topUps, hbills, rfl⟩ := upsertTopUp_eq_ok hbilled
    have hconfirms : Confirms "" none s
        { ({ s with plans := plans }.saveOrder (order.expire now)) with topUps := topUps } :=
      ⟨rfl, hids, fun _ _ => .inl⟩
    exact ⟨hs', honce.billed hbills, h.hash.confirms hconfirms (by simp)⟩
  | _ => exact hop.elim

/-! ## Runs -/

lemma ConfirmInv.run (h : ConfirmInv s₀ s)
    (hrun : ReflTransGen (ShopStep config ShopOp.IsConfirmation) s s') :
    ConfirmInv s₀ s' ∧ ∀ order ∈ s.orders, order.status ≠ .pending → order ∈ s'.orders := by
  induction hrun with
  | refl => exact ⟨h, fun _ horder _ => horder⟩
  | @tail s₁ _ _ hstep ih =>
    obtain ⟨ih, hclosed⟩ := ih
    obtain ⟨op, hop, now, rfl⟩ := hstep
    cases hperform : op.perform config now s₁ with
    | error e => exact ⟨ih, hclosed⟩
    | ok s' =>
      have hsale := ShopOp.effect_of_isSale ih.wellFormed hperform hop.isSale
      exact ⟨ih.step hop hperform, fun order horder hnot =>
        hsale.closed ih.wellFormed (hclosed order horder hnot) hnot⟩

lemma OnceInv.initial (hbills : Table.Keyed (fun topUp : SubscriptionTopUp => topUp.id) s.topUps)
    (hhistory : s.history = []) : OnceInv s s := by
  have hissued : s.issuedOrders = [] := by rw [issuedOrders, hhistory, filterMap_nil]
  have hcredited : s.creditedOrders = [] := by rw [creditedOrders, hhistory, filterMap_nil]
  constructor
  case quotas => simp [credits, hhistory]
  all_goals simp [hissued, hcredited, hbills]

/-- Every order is issued and credited once at most, an expired one never, and no payment hash
    issues two orders; users and subscriptions have what the history says. -/
theorem once_of_run (hs₀ : s₀.WellFormed)
    (hbills : Table.Keyed (fun topUp : SubscriptionTopUp => topUp.id) s₀.topUps)
    (hhistory : s₀.history = [])
    (hcrypto : Table.Keyed (fun tx : SubscriptionCryptoTransaction => tx.id) s₀.cryptoTransactions)
    (hnormalized : ∀ tx ∈ s₀.cryptoTransactions, ∀ hash, tx.txHash = some hash →
      normalizeTxHash hash = hash)
    (hunique : ∀ tx ∈ s₀.cryptoTransactions, ∀ tx' ∈ s₀.cryptoTransactions, ∀ hash,
      tx.txHash = some hash → tx'.txHash = some hash → tx = tx')
    (hrun : ReflTransGen (ShopStep config ShopOp.IsConfirmation) s₀ s) : s.issuedOrders.Nodup ∧
      s.creditedOrders.Nodup ∧
    (∀ order ∈ s.orders, order.status = .expired →
      ∀ s', ReflTransGen (ShopStep config ShopOp.IsConfirmation) s s' →
        order.id ∉ s'.issuedOrders) ∧
    (∀ hash orderId orderId', .issued orderId (some hash) ∈ s.history →
      .issued orderId' (some hash) ∈ s.history →
      orderId = orderId') ∧ s.subscriptions.length = s₀.subscriptions.length +
        s.issuedOrders.length ∧
    s.users.map (fun user => (user.id, user.quota)) =
      s₀.users.map fun user => (user.id, user.quota + s.credits user.id) := by
  have hhash : HashInv s₀ := ⟨hcrypto, hnormalized, hunique, by simp [hhistory]⟩
  obtain ⟨h, -⟩ := ConfirmInv.run ⟨hs₀, OnceInv.initial hbills hhistory, hhash⟩ hrun
  refine ⟨h.once.issuedOnce, h.once.creditedOnce, fun order horder hexpired s' hrun' hmem => ?_,
    fun hash orderId orderId' hissued hissued' => h.hash.eq_of_issued hissued hissued',
      h.once.subscriptions,
    h.once.quotas⟩
  obtain ⟨h', hclosed⟩ := h.run hrun'
  have hsuccess := h'.once.issued order (hclosed order horder (by simp [hexpired])) hmem
  rw [hexpired] at hsuccess
  cases hsuccess

end

def Desk.config : ShopConfig := ⟨.fixed 0, 500000⟩

def Desk.draft (tradeNo : String) : SubscriptionOrder :=
  { userId := 1, planId := 1, providerId := 7, tradeNo := tradeNo, paymentMethod := "crypto",
    paymentProvider := "crypto" }

def Desk.cryptoTx (id : ℤ) (tradeNo : String) : SubscriptionCryptoTransaction :=
  { id := id, topUpId := 0, status := .pending, subscriptionOrderId := id, userId := 1,
    tradeNo := tradeNo }

/-- Two orders of a plan of a provider, each with a payment on a chain. -/
def Desk.start : Shop :=
  play config
    { users := [{ id := 1, providerId := 7 }, { id := 2 }]
      plans := [{ id := 1, providerId := 7, priceAmount := 10, totalAmount := 1000 }]
      cryptoTransactions := [cryptoTx 1 "a", cryptoTx 2 "b"]
      providers := [⟨7, 2⟩] }
    [(100, .createOrder (draft "a")), (110, .createOrder (draft "b"))]

/-- A hash that is confirmed twice, and then for the other order, which expires before it is
    completed. -/
def Desk.calls : List (ℤ × ShopOp) :=
  [(120, .completeCrypto "a" "" ⟨"0xAB", "", 0, 0⟩),
    (130, .completeCrypto "a" "" ⟨" 0xab ", "", 0, 0⟩),
      (140, .completeCrypto "b" "" ⟨"0xab", "", 0, 0⟩), (150, .expire "b" "crypto"),
      (160, .complete "b" "" "" "")]

def Desk.done : Shop := Desk.start.play Desk.config Desk.calls

/-- A hash that is confirmed twice, and for another order, which expires. -/
theorem once_at_desk :
    ReflTransGen (ShopStep Desk.config ShopOp.IsConfirmation) Desk.start Desk.done ∧
    Desk.done.history = [.issued 1 (some "0xab"), .credited 1 2 5000000] ∧
    Desk.done.orders.map (fun order => (order.id, order.status)) = [(1, .success), (2, .expired)] ∧
    Desk.done.issuedOrders.Nodup ∧ Desk.done.creditedOrders.Nodup ∧
    Desk.done.subscriptions.length = Desk.start.subscriptions.length +
      Desk.done.issuedOrders.length := by
  have hrun : ReflTransGen (ShopStep Desk.config ShopOp.IsConfirmation) Desk.start Desk.done :=
    run_play (by simp [Desk.calls, ShopOp.IsConfirmation])
  have hunbound : ∀ tx ∈ Desk.start.cryptoTransactions, ∀ hash, tx.txHash ≠ some hash := by
    have hnone : ∀ tx ∈ Desk.start.cryptoTransactions, tx.txHash = none := by decide +kernel
    exact fun tx htx hash => by simp [hnone tx htx]
  obtain ⟨hissued, hcredited, -, -, hsubs, -⟩ :=
    once_of_run ⟨by decide +kernel, by decide +kernel⟩ (by decide +kernel)
    (by decide +kernel) (by decide +kernel) (fun tx htx hash hhash =>
      absurd hhash (hunbound tx htx hash))
    (fun tx htx _ _ hash hhash _ => absurd hhash (hunbound tx htx hash)) hrun
  exact ⟨hrun, by decide +kernel, by decide +kernel, hissued, hcredited, hsubs⟩

end Allrouter
