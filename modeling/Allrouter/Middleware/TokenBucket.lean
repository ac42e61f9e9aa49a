import Mathlib.Tactic

/-!
# The token bucket

With Redis, a script counts the requests of a user. A bucket of `t * d` tokens gets `t` more each
second, and a call takes `d` of them. `bucket_limits` says what that means: in `L` seconds there are
at most `t + t * L / d` calls, and calls that keep to `t` in `d` seconds are all allowed.
-/

namespace Allrouter

open List

/-- The tokens, and when they were last filled up. -/
structure TokenBucket where
  (tokens lastTime : ℤ)
  deriving DecidableEq

/-- A run of the script at the second `now`, and whether the call is allowed. -/
def rateLimit (requested rate capacity now : ℤ) (bucket : Option TokenBucket) :
    TokenBucket × Bool :=
  let tokens := match bucket with
    | none => capacity
    | some bucket => min capacity (bucket.tokens + (now - bucket.lastTime) * rate)
  if tokens ≥ requested then (⟨tokens - requested, now⟩, true) else (⟨tokens, now⟩, false)

/-- The calls of a user, each with its time and whether it is allowed. -/
def rateLimits (t d : ℤ) : Option TokenBucket → List ℤ → List (ℤ × Bool)
  | _, [] => []
  | bucket, now :: times =>
    (now, (rateLimit d t (t * d) now bucket).2) :: rateLimits t d
      (rateLimit d t (t * d) now bucket).1 times

/-- The calls that are allowed from `a` until `L` seconds later. -/
def allowedWithin (a L : ℤ) (calls : List (ℤ × Bool)) : ℕ := calls.countP fun call => call.2 ∧
    a ≤ call.1 ∧ call.1 ≤ a + L

variable {t d a L now : ℤ} {b : TokenBucket} {times past : List ℤ}

/-- What calls may take until `L` seconds after `a`. -/
def TokenBucket.budget (b : TokenBucket) (t d a L : ℤ) : ℤ :=
  if b.lastTime < a then t * d + t * L else if b.lastTime ≤ a + L then b.tokens + t *
    (a + L - b.lastTime) else 0

lemma TokenBucket.budget_spend (ht : 0 ≤ t) (hL : 0 ≤ L) (hb : 0 ≤ b.tokens) {tokens : ℤ}
    (hnow : b.lastTime ≤ now) (hfull : tokens ≤ t * d)
    (hmore : tokens ≤ b.tokens + (now - b.lastTime) * t) (hpos : 0 ≤ tokens) (cost : ℤ) :
    (if a ≤ now ∧ now ≤ a + L then cost else 0) + budget ⟨tokens - cost, now⟩ t d a L ≤
      b.budget t d a L := by
  have htL := mul_nonneg ht hL
  have hmul {x y : ℤ} (h : x ≤ y) : 0 ≤ t * (y - x) := mul_nonneg ht (sub_nonneg.2 h)
  rw [budget, budget]
  rcases lt_or_ge now a with h | ha
  · simp [h, h.not_ge, hnow.trans_lt h]
  · rcases lt_or_ge (a + L) now with h | haL
    · simp only [h.not_ge, ha.not_gt, and_false, if_false, add_zero]
      split_ifs with h₁ h₂
      · omega
      · linarith [hmul h₂]
      · rfl
    · simp only [ha, haL, ha.not_gt, and_self, if_true, if_false]
      split_ifs with h₁ h₂
      · linarith [hmul ha]
      · linarith
      · omega

lemma allowedWithin_le (ht : 0 ≤ t) (hd : 0 ≤ d) (hL : 0 ≤ L) (hb : 0 ≤ b.tokens)
    (hsorted : (b.lastTime :: times).Pairwise (· ≤ ·)) :
    d * allowedWithin a L (rateLimits t d (some b) times) ≤ b.budget t d a L := by
  induction times generalizing b with
  | nil =>
    simp only [rateLimits, allowedWithin, countP_nil, TokenBucket.budget]
    split_ifs <;> simp <;> nlinarith
  | cons now times ih =>
    obtain ⟨hlast, hsorted⟩ := pairwise_cons.1 hsorted
    have hnow : b.lastTime ≤ now := hlast now mem_cons_self
    have hfull := min_le_left (t * d) (b.tokens + (now - b.lastTime) * t)
    have hmore := min_le_right (t * d) (b.tokens + (now - b.lastTime) * t)
    have hpos := le_min (mul_nonneg ht hd) (add_nonneg hb (mul_nonneg (sub_nonneg.2 hnow) ht))
    have hspend := TokenBucket.budget_spend (a := a) ht hL hb hnow hfull hmore hpos
    rw [rateLimits, rateLimit]
    generalize min (t * d) (b.tokens + (now - b.lastTime) * t) = tokens at *
    split_ifs with h
    · have hrest := ih (b := ⟨tokens - d, now⟩) (sub_nonneg.2 h) hsorted
      rw [allowedWithin, countP_cons, ← allowedWithin, Nat.cast_add, mul_add]
      refine (add_le_add_left hrest _).trans
        ((add_comm _ _).trans_le (le_of_eq_of_le ?_ (hspend d)))
      simp
    · have hrest := ih (b := ⟨tokens, now⟩) hpos hsorted
      rw [allowedWithin, countP_cons_of_neg (by simp), ← allowedWithin]
      exact hrest.trans (by simpa using hspend 0)

/-- Calls that keep to `t` in every window take no more than what the bucket gets. -/
lemma mul_countP_le (hd : 1 ≤ d) (hwindow : ∀ a, (times.countP fun x => a ≤ x ∧ x < a + d : ℤ) ≤ t)
    {y : ℤ} (hy : y ≤ now + d) : d * (times.countP fun x => y ≤ x ∧ x ≤ now : ℤ) ≤
      t * d + t * (now - y) := by
  have ht : 0 ≤ t := (Int.natCast_nonneg _).trans (hwindow 0)
  -- one window after the other, from `y` on
  induction hk : (now + d - y).toNat using Nat.strong_induction_on generalizing y with
  | _ k ih =>
    rcases lt_or_ge now y with h | h
    · rw [countP_eq_zero.2 (by grind), Nat.cast_zero, mul_zero, ← mul_add]
      exact mul_nonneg ht (by omega)
    · have hsplit : times.countP (fun x => y ≤ x ∧ x ≤ now) ≤
          times.countP (fun x => y ≤ x ∧ x < y + d) + times.countP (fun x => y + d ≤ x ∧
              x ≤ now) := by
        rw [countP_eq_countP_filter_add _ _ (fun x => x < y + d), countP_filter, countP_filter]
        exact add_le_add (countP_mono_left (by grind)) (countP_mono_left (by grind))
      have hrest := ih _ (by omega) (y := y + d) (by omega) rfl
      have hfirst := hwindow y
      nlinarith

/-- Since some time `y`, only calls have used the bucket. -/
def Used (t d : ℤ) (past : List ℤ) (tokens now : ℤ) : Prop :=
  ∃ y ≤ now, t * d + t * (now - y) ≤ tokens + d * (past.countP fun x => y ≤ x ∧ x ≤ now)

lemma Used.wait (hd : 0 ≤ d) (h : Used t d past b.tokens b.lastTime) (hnow : b.lastTime ≤ now) :
    Used t d past (min (t * d) (b.tokens + (now - b.lastTime) * t)) now := by
  rcases min_choice (t * d) (b.tokens + (now - b.lastTime) * t) with hmin | hmin
  · exact ⟨now, le_rfl, by rw [hmin]; simp; positivity⟩
  · obtain ⟨y, hy, hle⟩ := h
    have hcount : past.countP (fun x => y ≤ x ∧ x ≤ b.lastTime) ≤
        past.countP (fun x => y ≤ x ∧ x ≤ now) :=
      countP_mono_left (by grind)
    refine ⟨y, hy.trans hnow, ?_⟩
    rw [hmin]
    nlinarith

lemma allowed_of_windows (past : List ℤ) (hd : 1 ≤ d)
    (hwindow : ∀ a, ((past ++ times).countP fun x => a ≤ x ∧ x < a + d : ℤ) ≤ t)
    (hsorted : (b.lastTime :: times).Pairwise (· ≤ ·)) (h : Used t d past b.tokens b.lastTime) :
    ∀ call ∈ rateLimits t d (some b) times, call.2 = true := by
  induction times generalizing b past with
  | nil => exact nofun
  | cons now times ih =>
    obtain ⟨hlast, hsorted⟩ := pairwise_cons.1 hsorted
    obtain ⟨y, hy, hused⟩ := h.wait (by omega) (hlast now mem_cons_self)
    rw [rateLimits, rateLimit]
    generalize min (t * d) (b.tokens + (now - b.lastTime) * t) = tokens at *
    have hcount : (past ++ [now]).countP (fun x => y ≤ x ∧ x ≤ now) = past.countP (fun x => y ≤ x ∧
        x ≤ now) + 1 := by
      simp [hy]
    have hall := mul_countP_le hd hwindow (by omega : y ≤ now + d)
    rw [append_cons, countP_append, hcount] at hall
    rw [if_pos (by push_cast at hall; nlinarith)]
    refine forall_mem_cons.2 ⟨rfl, ih (past ++ [now]) (by simpa using hwindow) hsorted ⟨y, hy, ?_⟩⟩
    rw [hcount]
    push_cast
    linarith

/-- **The bucket of a user.** In any `L` seconds no more calls are allowed than a full bucket and
    what flows into it pay for, and calls that keep to the limit in every window are all allowed. -/
theorem bucket_limits (ht : 1 ≤ t) (hd : 1 ≤ d) (hsorted : times.Pairwise (· ≤ ·)) :
    (∀ a L, 0 ≤ L → (allowedWithin a L (rateLimits t d none times) : ℤ) ≤ t + t * L / d) ∧
      ((∀ a, (times.countP fun x => a ≤ x ∧ x < a + d : ℤ) ≤ t) →
        ∀ call ∈ rateLimits t d none times, call.2 = true) := by
  cases times with
  | nil => exact ⟨fun a L hL => by simp [rateLimits, allowedWithin]; positivity, fun _ => nofun⟩
  | cons now times =>
    have hnow : (now :: now :: times).Pairwise (· ≤ ·) :=
      pairwise_cons.2 ⟨by simpa using (pairwise_cons.1 hsorted).1, hsorted⟩
    -- the first call finds the bucket full
    rw [show rateLimits t d none (now :: times) = rateLimits t d (some ⟨t * d, now⟩)
        (now :: times) by
      simp [rateLimits, rateLimit]]
    refine ⟨fun a L hL => ?_, fun hwindow =>
      allowed_of_windows [] hd hwindow hnow ⟨now, le_rfl, by simp⟩⟩
    have hle := allowedWithin_le (a := a) (b := ⟨t * d, now⟩) (by omega : 0 ≤ t) (by omega : 0 ≤ d)
      hL (by positivity) hnow
    have hbudget : TokenBucket.budget ⟨t * d, now⟩ t d a L ≤ t * d + t * L := by
      rw [TokenBucket.budget]
      split_ifs
      · rfl
      · nlinarith
      · positivity
    rw [add_comm t, ← Int.add_mul_ediv_right _ _ (by omega : d ≠ 0),
      Int.le_ediv_iff_mul_le (by omega)]
    linarith

/-- Calls that come too early, and calls that keep to the limit of one a minute. -/
theorem bucket_limits_minute :
    (allowedWithin 0 60 (rateLimits 1 60 none [0, 1, 30, 60]) : ℤ) ≤ 1 + 1 * 60 / 60 ∧
      ∀ call ∈ rateLimits 1 60 none [0, 60, 125], call.2 = true := by
  refine ⟨(bucket_limits (by decide) (by decide) (by decide)).1 0 60 (by decide), ?_⟩
  refine (bucket_limits (by decide) (by decide) (by decide)).2 fun a => ?_
  simp only [countP_cons, countP_nil, decide_eq_true_eq]
  split_ifs <;> omega

end Allrouter
