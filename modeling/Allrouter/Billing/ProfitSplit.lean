import Allrouter.Billing.Price
import Allrouter.Billing.Profit

/-!
# The profit of a relayed request

What a user has paid for a request of a provider first covers what the request
costs the provider; the rest is its profit. A user who has paid a part of the
price pays the same part of both, each of them cut to a whole number
(`providerProfitForRelay`). The part is a rounded decimal: the two together may
still not be more than what was paid (`providerProfitForRelay_split`).
-/

namespace Allrouter

/-- A quotient with as many digits as the decimals of the code have. -/
def decimalDiv (a b : ℤ) : ℚ := roundHalfAway (a / b * 10 ^ 16) / 10 ^ 16

/-- The part of an amount that is paid where `paid` was paid for `charge`. -/
def paidPart (amount paid charge : ℤ) : ℤ :=
  if 0 < charge ∧ 0 < paid then intPart (amount * decimalDiv paid charge) else 0

/-- The record of a settled request (`applyProviderProfitForRelay`), from the ids,
    names and amounts of the request. -/
def providerProfitForRelay (request : ProviderProfit) (originModelName : String) :
    Option ProviderProfit :=
  if request.providerId ≤ 0 ∨ request.ownerUserId ≤ 0 ∨ request.providerUserId ≤ 0 then none
  else if request.baseCostQuota ≤ 0 then none
  else
    let baseCost := request.baseCostQuota
    let charge := max request.providerUserQuota 0
    let paid := max request.paidQuota 0
    let paid := if 0 < charge ∧ charge < paid then charge else paid
    let covered := min (paidPart (min charge baseCost) paid charge) baseCost
    some { request with
      providerUserQuota := charge
      paidQuota := paid
      coveredCostQuota := covered
      ownerCostQuota := max (baseCost - covered) 0
      profitQuota := if 0 < charge - baseCost then paidPart (charge - baseCost) paid charge else 0
      baseModelName := if request.baseModelName = "" then originModelName
        else request.baseModelName }

lemma intPart_of_nonneg {x : ℚ} (hx : 0 ≤ x) : intPart x = ⌊x⌋ := by
  rw [intPart, Int.tdiv_eq_ediv_of_nonneg (Rat.num_nonneg.2 hx)]
  exact (Rat.floor_def _).symm

/-- A part is rounded up by half of the last digit at most, and never beyond the whole. -/
lemma decimalDiv_bounds {a b : ℤ} (ha : 0 ≤ a) (hab : a ≤ b) (hb : 0 < b) :
    0 ≤ decimalDiv a b ∧ decimalDiv a b ≤ 1 ∧ b * decimalDiv a b ≤ a + b / (2 * 10 ^ 16) := by
  have hb' : (0 : ℚ) < b := by exact_mod_cast hb
  have hx : (0 : ℚ) ≤ a / b * 10 ^ 16 := by positivity
  have hx1 : (a / b * 10 ^ 16 : ℚ) ≤ 10 ^ 16 := by
    have : (a / b : ℚ) ≤ 1 := (div_le_one hb').2 (by exact_mod_cast hab)
    linarith
  have hround : roundHalfAway (a / b * 10 ^ 16) = ⌊(a / b * 10 ^ 16 + 1 / 2 : ℚ)⌋ :=
    if_neg hx.not_gt
  have hle := Int.floor_le (a / b * 10 ^ 16 + 1 / 2 : ℚ)
  rw [decimalDiv, hround]
  refine ⟨?_, ?_, ?_⟩
  · have : 0 ≤ ⌊(a / b * 10 ^ 16 + 1 / 2 : ℚ)⌋ := Int.floor_nonneg.2 (by linarith)
    positivity
  · have : ⌊(a / b * 10 ^ 16 + 1 / 2 : ℚ)⌋ < 10 ^ 16 + 1 := Int.floor_lt.2 (by push_cast; linarith)
    have : (⌊(a / b * 10 ^ 16 + 1 / 2 : ℚ)⌋ : ℚ) ≤
      10 ^ 16 := by exact_mod_cast Int.lt_add_one_iff.1 this
    linarith
  · calc (b * (⌊(a / b * 10 ^ 16 + 1 / 2 : ℚ)⌋ / 10 ^ 16) : ℚ)
        ≤ b * ((a / b * 10 ^ 16 + 1 / 2) / 10 ^ 16) := by gcongr
      _ = a + b / (2 * 10 ^ 16) := by field_simp

section Part

variable {m n paid charge : ℤ}

lemma paidPart_bounds (hm : 0 ≤ m) (hle : 0 < charge → paid ≤ charge) :
    0 ≤ paidPart m paid charge ∧ paidPart m paid charge ≤ m := by
  rw [paidPart]
  split_ifs with hpaid
  · obtain ⟨hr, hr1, -⟩ := decimalDiv_bounds hpaid.2.le (hle hpaid.1) hpaid.1
    have hm' : (0 : ℚ) ≤ m := by exact_mod_cast hm
    have hpart := mul_nonneg hm' hr
    rw [intPart_of_nonneg hpart]
    refine ⟨Int.floor_nonneg.2 hpart, ?_⟩
    simpa using Int.floor_le_floor (mul_le_of_le_one_right hm' hr1)
  · exact ⟨le_rfl, hm⟩

/-- The parts of two amounts are cut on their own, but they share the error of the
    quotient, which is less than one. -/
lemma paidPart_add_le (hm : 0 ≤ m) (hn : 0 ≤ n) (hpaid : 0 ≤ paid) (hle : 0 < m + n → paid ≤ m + n)
    (hlt : m + n < 2 ^ 31) : paidPart m paid (m + n) + paidPart n paid (m + n) ≤ paid := by
  rw [paidPart, paidPart]
  split_ifs with hpos
  · obtain ⟨hr, -, hmul⟩ := decimalDiv_bounds hpaid (hle hpos.1) hpos.1
    generalize decimalDiv paid (m + n) = r at hr hmul ⊢
    have hm' : (0 : ℚ) ≤ m := by exact_mod_cast hm
    have hn' : (0 : ℚ) ≤ n := by exact_mod_cast hn
    have hlt' : (m + n : ℚ) < 2 ^ 31 := by exact_mod_cast hlt
    push_cast at hmul
    rw [intPart_of_nonneg (mul_nonneg hm' hr), intPart_of_nonneg (mul_nonneg hn' hr)]
    calc ⌊m * r⌋ + ⌊n * r⌋ ≤ ⌊m * r + n * r⌋ := Int.le_floor_add _ _
      _ ≤ paid := Int.lt_add_one_iff.1 (Int.floor_lt.2 (by push_cast; linarith))
  · simpa using hpaid

lemma paidPart_self (hcharge : 0 < charge) : paidPart m charge charge = m := by
  have hself : decimalDiv charge charge = 1 := by
    rw [decimalDiv, div_self (by exact_mod_cast hcharge.ne')]
    decide +kernel
  rw [paidPart, if_pos ⟨hcharge, hcharge⟩, hself, mul_one, intPart_intCast]

end Part

/-- **The split of a charge.** The cost is covered by the user and by the owner; what the user
    covers and the profit come out of what was paid for the charge, and are both in full where all
    of it was paid. -/
theorem providerProfitForRelay_split (request : ProviderProfit) (originModelName : String)
    (hprovider : 0 < request.providerId) (howner : 0 < request.ownerUserId)
    (huser : 0 < request.providerUserId) (hcost : 0 < request.baseCostQuota)
    (hpaid : 0 ≤ request.paidQuota) (hcharge : request.providerUserQuota < 2 ^ 31) :
    ∃ record, providerProfitForRelay request originModelName = some record ∧
      record.coveredCostQuota + record.ownerCostQuota = request.baseCostQuota ∧
      0 ≤ record.coveredCostQuota ∧ 0 ≤ record.profitQuota ∧
      record.profitQuota ≤ max 0 (request.providerUserQuota - request.baseCostQuota) ∧
      record.paidQuota = (if 0 < request.providerUserQuota then
        min request.paidQuota request.providerUserQuota else request.paidQuota) ∧
      record.coveredCostQuota + record.profitQuota ≤
        min request.paidQuota (max 0 request.providerUserQuota) ∧
      (0 < request.providerUserQuota → request.providerUserQuota ≤ request.paidQuota →
        record.coveredCostQuota = min request.providerUserQuota request.baseCostQuota ∧
        record.profitQuota = max 0 (request.providerUserQuota - request.baseCostQuota)) := by
  rw [providerProfitForRelay, if_neg (by omega), if_neg (by omega)]
  refine ⟨_, rfl, ?_⟩
  obtain ⟨charge, hmax⟩ : ∃ charge, charge = max request.providerUserQuota 0 := ⟨_, rfl⟩
  obtain ⟨paid, hcapped⟩ : ∃ paid, paid = if 0 < charge ∧
    charge < max request.paidQuota 0 then charge
    else max request.paidQuota 0 := ⟨_, rfl⟩
  simp only [← hmax, ← hcapped]
  have hle : 0 ≤ paid ∧
      (0 < charge → paid ≤ charge ∧ (charge ≤ request.paidQuota → paid = charge)) := by
    split_ifs at hcapped <;> omega
  generalize request.baseCostQuota = cost at hcost ⊢
  have hpart {m : ℤ} (hm : 0 ≤ m) := paidPart_bounds hm fun h => (hle.2 h).1
  have hcovered := hpart (m := min charge cost) (by omega)
  have hgross := hpart (le_max_left 0 (charge - cost))
  have hprofit : (if 0 < charge - cost then paidPart (charge - cost) paid charge else 0) =
      paidPart (max 0 (charge - cost)) paid charge := by
    split_ifs with h
    · rw [max_eq_right h.le]
    · omega
  have hzero : charge = 0 → paidPart (min charge cost) paid charge = 0 ∧
      paidPart (max 0 (charge - cost)) paid charge = 0 := by
    rintro rfl
    simp [paidPart]
  have hsplit : min charge cost + max 0 (charge - cost) = charge := by omega
  have hsum := paidPart_add_le (m := min charge cost) (n := max 0 (charge - cost))
    (by omega) (by omega)
    hle.1 (by omega) (by omega)
  rw [hsplit] at hsum
  refine ⟨by omega, by omega, by omega, by omega, ?_, ?_, fun hpos hfull => ?_⟩
  · split_ifs at hcapped ⊢ <;> omega
  · rcases (show 0 ≤ charge by omega).eq_or_lt with hnone | hpos
    · have := hzero hnone.symm
      omega
    · split_ifs at hcapped <;> omega
  rw [(hle.2 (by omega)).2 (by omega), paidPart_self (by omega), paidPart_self (by omega)]
  omega

/-- A third of the price was paid, and the quotient is rounded down. -/
theorem providerProfitForRelay_third :
    ∃ record, providerProfitForRelay
        ⟨1, 10, 20, "request", "public", "", 900, 600, 300, 0, 0, 0, 0, 0, false, false, 0⟩
        "base" = some record ∧ record.coveredCostQuota + record.profitQuota ≤ 300 :=
  (providerProfitForRelay_split _ "base" (by decide) (by decide) (by decide) (by decide) (by decide)
    (by decide)).imp fun _ h => ⟨h.1, h.2.2.2.2.2.2.1.trans (by decide)⟩

end Allrouter
