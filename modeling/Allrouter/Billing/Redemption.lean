import Allrouter.Billing.Wallet
import Allrouter.Library.Text
import Allrouter.Library.Transaction
import Allrouter.Library.Unlocked

/-!
# Redemption codes

Who redeems a code gets its quota as a reward, and the code is marked as used. The row of the
code is selected first, without a lock, and saved in the end.

* `credited_once_of_current`: the quota of a code is credited once at most, as long as
  every redemption saves the row that it has selected;
* `credited_twice_of_two_redeems`: two redemptions that both select the code before either of
  them saves it are both credited.
-/

namespace Allrouter

open Interleaving Text

/-- The status of a code. -/
inductive RedemptionStatus
  | enabled
  | disabled
  | used
  deriving DecidableEq

/-- A code and what it is worth. -/
structure Redemption where
  id : ℤ
  providerId : ℤ := 0
  key : String
  status : RedemptionStatus
  quota : ℤ
  /-- Zero for a code that does not expire. -/
  expiredTime : ℤ := 0
  (redeemedTime usedUserId : ℤ := 0)
  deriving DecidableEq

/-- The row of a user. -/
structure RedeemUser where
  providerId : ℤ := 0
  wallet : UserWallet
  deriving DecidableEq

/-- What was given instead of a code, with its currency. -/
structure RedemptionOriginalValue where
  amount : ℚ
  currency : String

/-- The bill of a code. -/
structure RedemptionTopUp where
  (providerId userId amount : ℤ)
  tradeNo : String
  (sourceID createTime : ℤ)
  currency : String
  deriving DecidableEq

/-- The record of a reward. -/
structure RewardRecord where
  (providerId userId sourceId quota : ℤ)
  deriving DecidableEq

/-- Why a redemption fails; what goes wrong in the transaction is reported as one error. -/
inductive RedeemError
  /-- "missing redemption code" -/
  | missingCode
  /-- "invalid user id" -/
  | invalidUser
  | userNotFound
  /-- "invalid redemption code" -/
  | invalidCode
  /-- "redemption code already used" -/
  | alreadyUsed
  /-- "redemption code expired" -/
  | expired
  /-- "invalid redemption original amount" -/
  | invalidOriginalAmount
  /-- "unsupported redemption currency: …" -/
  | unsupportedCurrency (currency : String)
  deriving DecidableEq

/-! ## A redemption -/

/-- A call that redeems a code. -/
structure RedeemCall where
  key : String
  (userId now : ℤ)
  randomString : String := ""
  originalValue : Option RedemptionOriginalValue := none

def normalizeRedemptionCurrency (currency : String) : Except RedeemError String :=
  let upper := toUpper (trimSpace currency)
  if upper = "USD" ∨ upper = "$" then .ok "USD"
  else if upper = "CNY" ∨ upper = "¥" ∨ upper = "￥" then .ok "CNY"
  else .error (.unsupportedCurrency currency)

namespace RedeemCall

variable (call : RedeemCall)

def currency : Except RedeemError String :=
  match call.originalValue with
  | none => .ok "USD"
  | some value => if value.amount ≤ 0 then .error .invalidOriginalAmount
    else normalizeRedemptionCurrency value.currency

def check (redemption : Redemption) (user : RedeemUser) : Except RedeemError Unit :=
  if redemption.providerId ≠ user.providerId ∨ redemption.key ≠ call.key then .error .invalidCode
  else if redemption.status ≠ .enabled then .error .alreadyUsed
  else if redemption.expiredTime ≠ 0 ∧ redemption.expiredTime < call.now then .error .expired
  else .ok ()

def tradeNo (redemption : Redemption) : String :=
  "RDM-" ++ toString redemption.id ++ "-" ++ toString call.userId ++ "-" ++ call.randomString

def topUp (redemption : Redemption) (user : RedeemUser) (currency : String) : RedemptionTopUp where
  providerId := user.providerId
  userId := call.userId
  amount := redemption.quota
  tradeNo := call.tradeNo redemption
  sourceID := redemption.id
  createTime := call.now
  currency := currency

def rewardRecords (redemption : Redemption) (user : RedeemUser) : List RewardRecord :=
  if user.providerId > 0 then
    [{ providerId := user.providerId, userId := call.userId, sourceId := redemption.id, quota :=
      redemption.quota }]
  else []

end RedeemCall

/-- The row of a code, the users, and the records of its redemptions. -/
structure RedeemState where
  redemption : Redemption
  users : ℤ → Option RedeemUser
  topUps : List RedemptionTopUp := []
  rewardRecords : List RewardRecord := []

/-- The users after one of them was given `quota` as a reward. -/
def creditUsers (users : ℤ → Option RedeemUser) (userId quota : ℤ) :
    ℤ → Option RedeemUser := fun id =>
  if id = userId then
    (users id).map fun user => { user with wallet := user.wallet.increase quota quota }
  else users id

/-- The transaction of a redemption, which has selected `redemption`. -/
def RedeemCall.redeem (call : RedeemCall) (redemption : Redemption) (s : RedeemState) :
    Except RedeemError RedeemState :=
  if call.key = "" then .error .missingCode
  else if call.userId = 0 then .error .invalidUser
  else match s.users call.userId with
  | none => .error .userNotFound
  | some user => do
    call.check redemption user
    let currency ← call.currency
    pure
      { redemption :=
          { redemption with
            status := .used
            redeemedTime := call.now
            usedUserId := call.userId }
        users := creditUsers s.users call.userId redemption.quota
        topUps := call.topUp redemption user currency :: s.topUps
        rewardRecords := call.rewardRecords redemption user ++ s.rewardRecords }

def redemptions : Unlocked RedeemState Redemption RedeemCall Empty where
  read s := s.redemption
  commit call redemption s := commit s (call.redeem redemption s)
  act a := nomatch a

/-! ## Redemptions side by side -/

variable {redemption : Redemption} {call : RedeemCall}

/-- A redemption takes a code that is enabled, marks it as used and credits its quota. -/
lemma RedeemCall.redeem_eq_ok {s s' : RedeemState}
    (h : call.redeem redemption s = .ok s') : redemption.status = .enabled ∧
      s'.redemption.status = .used ∧ s'.redemption.quota = redemption.quota ∧
      s'.users = creditUsers s.users call.userId redemption.quota := by
  rw [redeem] at h
  split_ifs at h
  split at h
  · cases h
  · obtain ⟨_, hcheck, hrest⟩ := Except.bind_eq_ok.1 h
    obtain ⟨currency, -, hs'⟩ := Except.bind_eq_ok.1 hrest
    cases hs'
    rw [check] at hcheck
    split_ifs at hcheck with _ hstatus
    exact ⟨not_ne_iff.1 hstatus, rfl, rfl, rfl⟩

/-- A code that has been credited is used. -/
def CreditedOnce (s₀ s : RedeemState) : Prop :=
  s.redemption.quota = s₀.redemption.quota ∧ (s.users = s₀.users ∨ s.redemption.status = .used ∧
      ∃ userId, s.users = creditUsers s₀.users userId s₀.redemption.quota)

lemma CreditedOnce.commit {s₀ s : RedeemState} (h : CreditedOnce s₀ s) (call : RedeemCall) :
    CreditedOnce s₀ (commit s (call.redeem s.redemption s)) := by
  refine commit_invariant h fun s' hs' => ?_
  obtain ⟨henabled, hused, hquota, husers⟩ := RedeemCall.redeem_eq_ok hs'
  obtain ⟨hquota₀, hsame | ⟨hused', -⟩⟩ := h
  · exact ⟨hquota.trans hquota₀, .inr ⟨hused, call.userId, by rw [husers, hsame, hquota₀]⟩⟩
  · rw [henabled] at hused'
    cases hused'

/-- As long as no redemption commits on a code that has changed since, one user at most is credited.
    -/
theorem credited_once_of_current {s₀ : RedeemState} {p : Pool RedeemState (RedeemCall × Redemption)}
    (h : redemptions.CurrentRun ⟨s₀, []⟩ p) : p.shared.users = s₀.users ∨
      ∃ userId, p.shared.users = creditUsers s₀.users userId s₀.redemption.quota := by
  have honce := Unlocked.invariant_of_current (CreditedOnce s₀) (fun call _ hs => hs.commit call)
    (fun a => nomatch a) h
      ⟨rfl, .inl rfl⟩
  exact honce.2.imp_right fun hused => hused.2

namespace GiftCode

def start : RedeemState where
  redemption := { id := 1, key := "gift", status := .enabled, quota := 500 }
  users id := if id = 1 ∨ id = 2 then some { wallet := ⟨0, 0⟩ } else none

def redeemBy (userId : ℤ) : RedeemCall where
  key := "gift"
  userId := userId
  now := 1800000000

/-- Both users select the code before either of them saves it. -/
def both : Pool RedeemState (RedeemCall × Redemption) :=
  redemptions.after ⟨start, []⟩
    [.call (.inl (redeemBy 1)), .call (.inl (redeemBy 2)), .move 0 (), .move 0 ()]

end GiftCode

/-- Two users redeem a code in turn. -/
theorem credited_once_of_gift_code : ∃ p : Pool RedeemState (RedeemCall × Redemption),
    redemptions.CurrentRun ⟨GiftCode.start, []⟩ p ∧ p.threads = [] ∧
      p.shared.users 1 = some { wallet := ⟨500, 500⟩ } ∧
        p.shared.users 2 = some { wallet := ⟨0, 0⟩ } ∧
      (p.shared.users = GiftCode.start.users ∨
        ∃ userId, p.shared.users = creditUsers GiftCode.start.users userId 500) := by
  have hrun : redemptions.CurrentRun ⟨GiftCode.start, []⟩ _ :=
    .head (.call [] ⟨.inl (GiftCode.redeemBy 1), rfl⟩) <| .head (.move [] [] ⟨rfl, (), rfl⟩) <|
      .head (.call [] ⟨.inl (GiftCode.redeemBy 2), rfl⟩) <| .head (.move [] [] ⟨rfl, (), rfl⟩) .refl
  exact ⟨_, hrun, rfl, by decide +kernel, by decide +kernel, credited_once_of_current hrun⟩

/-- Two users read the code before either of them commits. -/
theorem credited_twice_of_two_redeems : redemptions.Run ⟨GiftCode.start, []⟩ GiftCode.both ∧
    GiftCode.both.threads.length = 0 ∧
      GiftCode.both.shared.users 1 = some { wallet := ⟨500, 500⟩ } ∧
    GiftCode.both.shared.users 2 = some { wallet := ⟨500, 500⟩ } := by
  exact ⟨redemptions.run_after _ _, by decide +kernel, by decide +kernel, by decide +kernel⟩

end Allrouter
