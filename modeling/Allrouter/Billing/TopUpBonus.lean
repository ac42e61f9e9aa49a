import Allrouter.Billing.Price
import Allrouter.Library.Interleaving
import Mathlib.Data.List.MinMax

/-!
# Bonuses for top-ups

A top-up earns the bonus of the highest rule that it reaches, once per user and rule.
The user claims the rule by a row of their own, then a redemption code is written and
redeemed for them; where one of the two fails, the row is deleted again. Calls for one
user interleave (`BonusRun`).

* `bonus_credited_once`: no rule is credited twice, the one credited is the highest,
  and what is neither credited nor being worked on can be credited.
-/

namespace Allrouter

open Interleaving List

/-- A bonus, and the amount that it is due from. -/
structure TopUpGiftRule where
  id : String
  (threshold bonus : ℚ)
  deriving DecidableEq

/-- A call of `GrantTopUpBonus`: what was paid, the configuration it reads (one that
    cannot be read is not enabled), and the rate of a user who is shown CNY. -/
structure BonusCall where
  moneyUSD : ℚ
  enabled : Bool
  rules : List TopUpGiftRule
  rate : Option ℚ
  quotaPerUnit : ℚ
  deriving DecidableEq

def decimalRound (digits : ℕ) (x : ℚ) : ℚ := roundHalfAway (x * 10 ^ digits) / 10 ^ digits

namespace BonusCall

variable (call : BonusCall)

def userValue : ℚ := call.moneyUSD * call.rate.getD 1

/-- The rules that take part. An amount just below a threshold is enough. -/
def Hits (rule : TopUpGiftRule) : Prop :=
  rule.id ≠ "" ∧ 0 < rule.threshold ∧ 0 ≤ rule.bonus ∧ rule.threshold ≤ call.userValue + 1 / 1000

instance : DecidablePred call.Hits := fun _ => inferInstanceAs (Decidable (_ ∧ _))

/-- The bonus as a quota, in dollars where a rate is set. -/
def bonusQuota (rule : TopUpGiftRule) : ℤ :=
  let amount := decimalRound 6 rule.bonus
  let usd := match call.rate with
    | none => amount
    | some rate => decimalRound 6 (decimalRound 16 (amount / rate))
  quotaFromDecimal (usd * call.quotaPerUnit)

/-- The first of the highest rules, if it has a bonus at all. -/
def due : Option TopUpGiftRule :=
  if call.moneyUSD ≤ 0 ∨ call.enabled = false ∨ call.rate.any (· ≤ 0) then none
  else ((call.rules.filter call.Hits).argmax (·.threshold)).filter
    fun rule => rule.bonus ≠ 0 ∧ 0 < call.bonusQuota rule

end BonusCall

/-- The steps of a grant. -/
inductive BonusStage
  | insert
  | redeem
  | release
  deriving DecidableEq

/-- A call that grants a bonus. -/
structure BonusThread where
  call : BonusCall
  rule : TopUpGiftRule
  stage : BonusStage

/-- The rules that a user has claimed, and what was credited to them. -/
structure BonusState where
  grants : List String := []
  credited : List (BonusCall × TopUpGiftRule) := []

abbrev BonusState.Credited (s : BonusState) (id : String) : Prop := id ∈ s.credited.map (·.2.id)

/-- A call up to its claim, which may not be written. -/
def BonusCall.claim (call : BonusCall) (ok : Bool) (s : BonusState) :
    BonusState × Option BonusThread :=
  match call.due with
  | none => (s, none)
  | some rule =>
    if rule.id ∈ s.grants ∨ ok = false then (s, none)
    else ({ s with grants := rule.id :: s.grants }, some ⟨call, rule, .insert⟩)

/-- Redeeming is one transaction, which credits the bonus or has no effect. -/
def BonusThread.next (ok : Bool) (s : BonusState) (t : BonusThread) :
    BonusState × Option BonusThread :=
  match t.stage with
  | .insert => (s, some { t with stage := if ok then .redeem else .release })
  | .redeem =>
    if ok then ({ s with credited := (t.call, t.rule) :: s.credited }, none)
    else (s, some { t with stage := .release })
  | .release => ({ s with grants := s.grants.filter (· ≠ t.rule.id) }, none)

abbrev BonusRun : Pool BonusState BonusThread → Pool BonusState BonusThread → Prop :=
  Run (fun s s' o => ∃ i : BonusCall × Bool, i.1.claim i.2 s = (s', o)) fun s t s' o => ∃ ok,
    t.next ok s = (s', o)

/-- Every rule was credited once, has its grant, and was due. -/
structure BonusInv (s : BonusState) : Prop where
  nodup : (s.credited.map (·.2.id)).Nodup
  granted : ∀ c ∈ s.credited, c.2.id ∈ s.grants ∧ c.1.due = some c.2

/-- The row of a thread is its own. -/
def BonusThread.Holds (s : BonusState) (t : BonusThread) : Prop :=
  t.rule.id ∈ s.grants ∧ ¬s.Credited t.rule.id ∧ t.call.due = some t.rule

variable {s s' : BonusState} {o : Option BonusThread} {t : BonusThread}
  {p : Pool BonusState BonusThread} {call : BonusCall}

lemma BonusCall.claim_cases {ok : Bool} (h : call.claim ok s = (s', o)) :
    (s' = s ∧ o = none) ∨ ∃ rule, call.due = some rule ∧ rule.id ∉ s.grants ∧
      s' = { s with grants := rule.id :: s.grants } ∧ o = some ⟨call, rule, .insert⟩ := by
  rw [claim] at h
  split at h
  · cases h
    exact .inl ⟨rfl, rfl⟩
  · split_ifs at h with hid <;> cases h
    · exact .inl ⟨rfl, rfl⟩
    · exact .inr ⟨_, ‹_›, fun hmem => hid (.inl hmem), rfl, rfl⟩

lemma BonusThread.next_cases {ok : Bool} (h : t.next ok s = (s', o)) :
    (s' = s ∧ ∃ stage, o = some { t with stage := stage }) ∨
    (s' = { s with credited := (t.call, t.rule) :: s.credited } ∧ o = none) ∨
    s' = { s with grants := s.grants.filter (· ≠ t.rule.id) } ∧ o = none := by
  rw [next] at h
  split at h
  · cases h
    exact .inl ⟨rfl, _, rfl⟩
  · split_ifs at h <;> cases h
    · exact .inr (.inl ⟨rfl, rfl⟩)
    · exact .inl ⟨rfl, _, rfl⟩
  · cases h
    exact .inr (.inr ⟨rfl, rfl⟩)

lemma BonusRun.inv (h : BonusRun ⟨{}, []⟩ p) : BonusInv p.shared := by
  refine (h.invariant_pairwise BonusInv BonusThread.Holds (fun t u => t.rule.id ≠ u.rule.id)
    Ne.symm ?_ ?_
    ⟨⟨.nil, by simp⟩, by simp⟩).1
  · rintro s s' o hs ⟨i, hclaim⟩
    obtain ⟨rfl, rfl⟩ | ⟨rule, hdue, hid, rfl, rfl⟩ := BonusCall.claim_cases hclaim
    · simpa using hs
    · refine ⟨⟨hs.nodup, fun c hc => ⟨.tail _ (hs.granted c hc).1, (hs.granted c hc).2⟩⟩,
        fun u hu => ?_, ?_⟩
      · refine ⟨⟨.tail _ hu.1, hu.2⟩, ?_⟩
        rintro _ ⟨⟩ heq
        exact hid (heq ▸ hu.1)
      · rintro _ ⟨⟩
        refine ⟨.head _, fun hcredited => ?_, hdue⟩
        obtain ⟨c, hc, heq⟩ := mem_map.1 hcredited
        exact hid (heq ▸ (hs.granted c hc).1)
  · rintro s s' t o hs ht ⟨ok, hnext⟩
    obtain ⟨rfl, stage, rfl⟩ | ⟨rfl, rfl⟩ | ⟨rfl, rfl⟩ := BonusThread.next_cases hnext
    · refine ⟨hs, fun u hu hne => ⟨hu, ?_⟩, ?_⟩ <;> rintro _ ⟨⟩
      exacts [hne, ht]
    · refine ⟨⟨nodup_cons.2 ⟨ht.2.1, hs.nodup⟩, forall_mem_cons.2 ⟨⟨ht.1, ht.2.2⟩, hs.granted⟩⟩,
        fun u hu hne => ⟨⟨hu.1, ?_, hu.2.2⟩, by simp⟩, by simp⟩
      exact not_mem_cons_of_ne_of_not_mem hne.symm hu.2.1
    · -- a rule that is credited, or claimed by another thread, is not the released one
      refine ⟨⟨hs.nodup, fun c hc => ⟨?_, (hs.granted c hc).2⟩⟩, fun u hu hne =>
        ⟨⟨?_, hu.2⟩, by simp⟩, by simp⟩
      · refine mem_filter.2 ⟨(hs.granted c hc).1, decide_eq_true fun heq => ht.2.1 ?_⟩
        exact heq ▸ mem_map_of_mem hc
      · exact mem_filter.2 ⟨hu.1, decide_eq_true hne.symm⟩

/-- A claim that was not credited is released by the thread that holds it. -/
lemma BonusRun.released (h : BonusRun ⟨{}, []⟩ p) (id : String) :
    (id ∈ p.shared.grants → p.shared.Credited id) ∨ ∃ t ∈ p.threads, t.rule.id = id := by
  refine h.repaired (fun s => id ∈ s.grants → s.Credited id) (·.rule.id = id) ?_ ?_ (.inl (by simp))
  · rintro s s' o ⟨i, hclaim⟩
    obtain ⟨rfl, rfl⟩ | ⟨rule, -, -, rfl, rfl⟩ := BonusCall.claim_cases hclaim
    · exact .inr (.inr fun hs => hs)
    · by_cases hid : rule.id = id
      · exact .inr (.inl ⟨_, rfl, hid⟩)
      · exact .inr (.inr fun hs hmem => hs (mem_of_ne_of_mem (Ne.symm hid) hmem))
  · rintro s s' t o ⟨ok, hnext⟩
    by_cases hid : t.rule.id = id
    · obtain ⟨rfl, stage, rfl⟩ | ⟨rfl, rfl⟩ | ⟨rfl, rfl⟩ := BonusThread.next_cases hnext
      · exact .inr (.inl ⟨_, rfl, hid⟩)
      · exact .inl fun _ => by simp [hid]
      · exact .inl fun hmem => by simp [hid] at hmem
    · refine .inr (.inr ⟨hid, fun hs hmem => ?_⟩)
      obtain ⟨rfl, -⟩ | ⟨rfl, -⟩ | ⟨rfl, -⟩ := BonusThread.next_cases hnext
      exacts [hs hmem, .tail _ (hs hmem), hs (mem_of_mem_filter hmem)]

lemma BonusCall.due_spec {rule : TopUpGiftRule} (h : call.due = some rule) :
    rule ∈ call.rules ∧ call.Hits rule ∧ ∀ other ∈ call.rules, call.Hits other →
      other.threshold ≤ rule.threshold := by
  rw [due] at h
  split_ifs at h
  have hmax := (Option.filter_eq_some_iff.1 h).1
  obtain ⟨hmem, hhits⟩ := mem_filter.1 (argmax_mem hmax)
  exact ⟨hmem, of_decide_eq_true hhits, fun other hother hhits' =>
    le_of_mem_argmax (mem_filter.2 ⟨hother, decide_eq_true hhits'⟩) hmax⟩

/-- Every rule is credited once at most, each time the highest one that is hit; and a rule that is
    due can be credited from any state reached. -/
theorem bonus_credited_once {p : Pool BonusState BonusThread} (h : BonusRun ⟨{}, []⟩ p) :
    (p.shared.credited.map (·.2.id)).Nodup ∧
    (∀ call rule, (call, rule) ∈ p.shared.credited → rule ∈ call.rules ∧ call.Hits rule ∧
      ∀ other ∈ call.rules, call.Hits other → other.threshold ≤ rule.threshold) ∧
    ∀ call rule, call.due = some rule → ¬p.shared.Credited rule.id →
      (∀ t ∈ p.threads, t.rule.id ≠ rule.id) →
      ∃ q, BonusRun p q ∧ (call, rule) ∈ q.shared.credited := by
  refine ⟨h.inv.nodup, fun call rule hc => BonusCall.due_spec (h.inv.granted _ hc).2,
    fun call rule hdue hcredited hthreads => ?_⟩
  have hgrants : rule.id ∉ p.shared.grants := fun hmem =>
    (h.released rule.id).elim (fun hs => hcredited (hs hmem)) fun ⟨t, ht, hid⟩ => hthreads t ht hid
  have hclaim : call.claim true p.shared = ({ p.shared with grants := rule.id :: p.shared.grants },
    some ⟨call, rule, .insert⟩) := by simp [BonusCall.claim, hdue, hgrants]
  exact ⟨_, .head (.call p.threads ⟨(call, true), hclaim⟩) (.head (.move [] p.threads ⟨true, rfl⟩)
    (.head (.move [] p.threads ⟨true, rfl⟩) .refl)), .head _⟩

/-- A top-up of `10`, where the code could not be written the first time. -/
theorem bonus_credited_once_again : ∃ p q, BonusRun ⟨{}, []⟩ p ∧ p.shared.credited = [] ∧
    BonusRun p q ∧
    (⟨10, true, [⟨"a", 10, 1⟩], none, 500000⟩, ⟨"a", 10, 1⟩) ∈ q.shared.credited := by
  have hrun := run_getD_play (fun i : BonusCall × Bool => i.1.claim i.2) BonusThread.next ⟨{}, []⟩
    [.call (⟨10, true, [⟨"a", 10, 1⟩], none, 500000⟩, true), .move 0 false, .move 0 true]
  obtain ⟨q, hq, hmem⟩ := (bonus_credited_once hrun).2.2 ⟨10, true, [⟨"a", 10, 1⟩], none, 500000⟩
    ⟨"a", 10, 1⟩
    (by decide +kernel) (by decide +kernel) (by decide +kernel)
  exact ⟨_, q, hrun, by decide +kernel, hq, hmem⟩

/-- An amount of `9.9995` has the bonus that starts at `10`. -/
theorem bonus_credited_below_threshold : ∃ p call rule, BonusRun ⟨{}, []⟩ p ∧
    (call, rule) ∈ p.shared.credited ∧
    call.userValue < rule.threshold :=
  ⟨_, ⟨19999 / 2000, true, [⟨"a", 10, 1⟩], none, 500000⟩, ⟨"a", 10, 1⟩,
    run_getD_play (fun i : BonusCall × Bool => i.1.claim i.2) BonusThread.next ⟨{}, []⟩
      [.call (⟨19999 / 2000, true, [⟨"a", 10, 1⟩], none, 500000⟩, true), .move 0 true,
        .move 0 true],
    by decide +kernel, by decide +kernel⟩

end Allrouter
