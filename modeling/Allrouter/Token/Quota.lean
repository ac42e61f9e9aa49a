import Allrouter.Library.Unlocked
import Mathlib.Tactic

/-!
# The quota of a token

Before a request is relayed, its quota is taken from that of its token: `PreConsumeTokenQuota` reads
the row of the token, compares, and then subtracts in a second statement. Without Redis and
batch updates both go to the database. Any number of such calls interleave (`tokenReservations`).

* `Reserved.commit`: a call that nothing interrupts takes what it reserves from what is left;
* `reserved_le_remainQuota`: as long as every call subtracts from the quota that it has read, no
  more is reserved than the token had;
* `reserved_twice`: two calls that have read the same quota both reserve all of it.
-/

namespace Allrouter

open Interleaving

/-- The columns of a token that a reservation reads or writes, and the amounts that were
    reserved. -/
structure TokenAccount where
  remainQuota : ℤ
  (usedQuota accessedTime : ℤ := 0)
  reserved : List ℤ := []
  deriving DecidableEq

/-- A call of `PreConsumeTokenQuota`, at the time `now`. -/
structure TokenReservation where
  quota : ℤ
  now : ℤ := 0
  isPlayground : Bool := false
  /-- The request is paid by a subscription. -/
  bySubscription : Bool := false
  tokenUnlimited : Bool := false

/-- Why a debit is refused. -/
inductive TokenQuotaError
  /-- "quota 不能为负数！" -/
  | negative
  /-- "token quota is not enough, token remain quota: %s, need quota: %s" -/
  | notEnough (remain need : ℤ)
  deriving DecidableEq

namespace TokenAccount

variable (account : TokenAccount)

def decreaseTokenQuota (quota now : ℤ) : TokenAccount :=
  { account with
    remainQuota := account.remainQuota - quota
    usedQuota := account.usedQuota + quota
    accessedTime := now }

end TokenAccount

namespace TokenReservation

variable (call : TokenReservation)

/-- The comparison with the quota that was read: whether the quota is to be subtracted. -/
def check (remainQuota : ℤ) : Except TokenQuotaError Bool :=
  if call.quota < 0 then .error .negative
  else if call.isPlayground then .ok false
  else if call.bySubscription then .ok false
  else if !call.tokenUnlimited &&
    remainQuota < call.quota then .error (.notEnough remainQuota call.quota)
  else .ok true

/-- The row after the call, which has read `remainQuota` before. -/
def commit (remainQuota : ℤ) (account : TokenAccount) : TokenAccount :=
  match call.check remainQuota with
  | .ok true =>
    { account.decreaseTokenQuota call.quota call.now with reserved := account.reserved ++
      [call.quota] }
  | _ => account

end TokenReservation

/-- The calls for a token with a limit. -/
abbrev LimitedReservation := { call : TokenReservation // call.tokenUnlimited = false }

def tokenReservations : Unlocked TokenAccount ℤ LimitedReservation Empty where
  read account := account.remainQuota
  commit call remainQuota account := call.1.commit remainQuota account
  act := Empty.elim

/-- What is left and what was reserved is what the token had. -/
structure Reserved (total : ℤ) (account : TokenAccount) : Prop where
  sum : account.reserved.sum + account.remainQuota = total
  nonneg : 0 ≤ account.remainQuota

lemma TokenReservation.quota_le {call : TokenReservation} {remainQuota : ℤ}
    (hlimited : call.tokenUnlimited = false) (h : call.check remainQuota = .ok true) :
      call.quota ≤ remainQuota := by
  by_contra hless
  rw [TokenReservation.check, hlimited] at h
  split_ifs at h with _ _ _ hnot
  · cases h
  · cases h
  · simp at hnot
    omega

lemma Reserved.commit {total : ℤ} {account : TokenAccount} (h : Reserved total account)
    (call : LimitedReservation) :
    Reserved total (tokenReservations.commit call (tokenReservations.read account) account) := by
  obtain ⟨call, hlimited⟩ := call
  simp only [tokenReservations, TokenReservation.commit]
  split
  case h_1 hcheck =>
    have hquota := TokenReservation.quota_le hlimited hcheck
    refine ⟨?_, ?_⟩
    · rw [List.sum_append, List.sum_singleton, TokenAccount.decreaseTokenQuota, ← h.sum]
      ring
    · exact sub_nonneg.2 hquota
  case h_2 => exact h

/-- As long as no reservation works on a quota that has changed since, no more is reserved than
    there was. -/
theorem reserved_le_remainQuota (p q : Pool TokenAccount (LimitedReservation × ℤ))
    (hrun : tokenReservations.CurrentRun p q) (hnone : p.shared.reserved = [])
    (hnonneg : 0 ≤ p.shared.remainQuota) :
    q.shared.reserved.sum ≤ p.shared.remainQuota := by
  have hstart : Reserved p.shared.remainQuota p.shared :=
    ⟨by rw [hnone, List.sum_nil, zero_add], hnonneg⟩
  have hend := Unlocked.invariant_of_current (Reserved p.shared.remainQuota) (fun call _ h =>
    h.commit call)
    (fun update => update.elim) hrun hstart
  have hsum := hend.sum
  have hleft := hend.nonneg
  omega

namespace HundredLeft

def account : TokenAccount := { remainQuota := 100 }

def call : LimitedReservation := ⟨{ quota := 100 }, rfl⟩

def inTurn : Pool TokenAccount (LimitedReservation × ℤ) :=
  tokenReservations.after ⟨account, []⟩ [.call (.inl call), .move 0 (),
    .call (.inl call), .move 0 ()]

/-- Two calls for all of it, which both read before one of them subtracts. -/
def atOnce : Pool TokenAccount (LimitedReservation × ℤ) :=
  tokenReservations.after ⟨account, []⟩ [.call (.inl call), .call (.inl call),
    .move 0 (), .move 0 ()]

end HundredLeft

/-- Two reservations of everything, in turn. -/
theorem reserved_le_remainQuota_inTurn :
    HundredLeft.inTurn.shared.reserved = [100] ∧ HundredLeft.inTurn.shared.reserved.sum ≤ 100 := by
  refine ⟨by decide +kernel,
    reserved_le_remainQuota ⟨HundredLeft.account, []⟩ HundredLeft.inTurn ?_ rfl (by decide)⟩
  exact .head (.call [] ⟨.inl HundredLeft.call, rfl⟩) <| .head (.move [] [] ⟨rfl, (), rfl⟩) <|
    .head (.call [] ⟨.inl HundredLeft.call, rfl⟩) <| .head (.move [] [] ⟨rfl, (), rfl⟩) .refl

/-- Two reservations of everything, at once. -/
theorem reserved_twice : tokenReservations.Run ⟨HundredLeft.account, []⟩ HundredLeft.atOnce ∧
    HundredLeft.account.reserved = [] ∧ HundredLeft.account.remainQuota = 100 ∧
    HundredLeft.atOnce.shared.reserved.sum = 200 :=
  ⟨tokenReservations.run_after _ _, rfl, rfl, by decide +kernel⟩

end Allrouter
