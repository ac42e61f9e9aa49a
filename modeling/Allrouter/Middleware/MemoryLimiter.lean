import Mathlib.Tactic

/-!
# The rate limiter in memory

Without Redis, the times of the accepted calls of a key are kept in a queue, oldest first. A call is
accepted while the queue is shorter than its limit, and else if the oldest time is long enough ago.
The requests of a user to models are limited by such calls, before and after each of them
(`ModelLimiter.memoryRateLimitHandler`).

* `recent_lt_of_accepted`: if limits never go down, a call is accepted only if fewer calls than its
  limit were accepted within the duration;
* `recent_le_limit`: so there are never more within any duration;
* `accepted_after_lower_limit`: when a limit goes down, the oldest time does not tell;
* `successes_of_successLimit`: if every request succeeds, one is refused only after as many
  successes as the limit allows;
* `refused_after_failure`: the call before a request records it already, so that failures count.
-/

namespace Allrouter

open List

/-- The queue of a key, if there is one, and the times of all accepted calls, both oldest first. -/
structure MemoryLimiter where
  queue : Option (List ℤ) := none
  accepted : List ℤ := []

/-- How many of the times lie in the window that ends now. -/
def recent (duration now : ℤ) (times : List ℤ) : ℕ :=
  times.countP fun time => now - duration < time ∧ time ≤ now

namespace MemoryLimiter

variable (l : MemoryLimiter)

def push (queue : List ℤ) (now : ℤ) : MemoryLimiter := ⟨some (queue ++ [now]), l.accepted ++ [now]⟩

/-- A request is admitted below the limit, or when the oldest time is past. -/
def request (maxRequestNum duration now : ℤ) : MemoryLimiter × Bool :=
  match l.queue with
  | none => (l.push [] now, true)
  | some queue =>
    if queue.length < maxRequestNum then (l.push queue now, true)
    else match queue with
      -- No queue is empty; the source would panic.
      | [] => (l, false)
      | oldest :: rest => if now - oldest ≥ duration then (l.push rest now, true) else (l, false)

/-- The cleanup deletes a queue whose last time is too long ago. -/
def clearExpired (age now : ℤ) : MemoryLimiter :=
  if (l.queue.getD []).getLast?.all fun last => now - last > age then { l with queue := none }
    else l

/-- Calls and cleanups at times that do not go back, each limit being `Allowed` after the one
    before. -/
inductive Run (Allowed : ℤ → ℤ → Prop) (duration age : ℤ) : ℤ → ℤ → MemoryLimiter → Prop
  | start (now : ℤ) : Run Allowed duration age now 0 {}
  | request {time limit now limit' : ℤ} {l : MemoryLimiter}
    (h : Run Allowed duration age time limit l)
      (hnow : time ≤ now) (hlimit : Allowed limit limit') (hpos : 1 ≤ limit') :
      Run Allowed duration age now limit' (l.request limit' duration now).1
  | clear {time limit now : ℤ} {l : MemoryLimiter} (h : Run Allowed duration age time limit l)
    (hnow : time ≤ now) :
      Run Allowed duration age now limit (l.clearExpired age now)

/-- The queue has the latest times; those before it are too long ago for a call or a cleanup. -/
structure Tracks (duration age now limit : ℤ) (accepted queue : List ℤ) : Prop where
  accepted : ∃ dropped, accepted = dropped ++ queue ∧
    ∀ time ∈ dropped, time ≤ now - min duration age
  sorted : queue.Pairwise (· ≤ ·)
  past : ∀ time ∈ queue, time ≤ now
  length : queue.length ≤ limit

variable {l} {duration age now limit time limit' : ℤ} {accepted queue : List ℤ}

lemma Tracks.later (h : Tracks duration age time limit accepted queue) (hnow : time ≤ now)
    (hlimit : limit ≤ limit') :
    Tracks duration age now limit' accepted queue := by
  obtain ⟨dropped, heq, hold⟩ := h.accepted
  refine ⟨⟨dropped, heq, fun x hx => ?_⟩, h.sorted, fun x hx => (h.past x hx).trans hnow,
    h.length.trans hlimit⟩
  exact (hold x hx).trans (by omega)

lemma Tracks.push (h : Tracks duration age now limit accepted queue)
    (hlength : queue.length < limit) :
    Tracks duration age now limit (accepted ++ [now]) (queue ++ [now]) := by
  obtain ⟨dropped, rfl, hold⟩ := h.accepted
  refine ⟨⟨dropped, append_assoc .., hold⟩, pairwise_append.2 ⟨h.sorted, pairwise_singleton .., ?_⟩,
    ?_, ?_⟩
  · simpa using h.past
  · simpa [or_imp, forall_and] using h.past
  · simpa using hlength

lemma Tracks.drop (gone : List ℤ) {rest : List ℤ}
    (h : Tracks duration age now limit accepted (gone ++ rest))
    (hgone : ∀ time ∈ gone, time ≤ now - min duration age) :
    Tracks duration age now limit accepted rest := by
  obtain ⟨dropped, rfl, hold⟩ := h.accepted
  refine ⟨⟨dropped ++ gone, (append_assoc ..).symm, fun x hx =>
    (mem_append.1 hx).elim (hold x) (hgone x)⟩, (pairwise_append.1 h.sorted).2.1, fun x hx =>
      h.past x (mem_append_right _ hx), ?_⟩
  have := h.length
  simp only [length_append] at this
  omega

lemma Tracks.recent_le (h : Tracks duration age now limit accepted queue) (hage : duration ≤ age) :
    recent duration now accepted ≤ queue.length := by
  obtain ⟨dropped, rfl, hold⟩ := h.accepted
  rw [recent, countP_append, countP_eq_zero.2 fun x hx hrecent => ?_, zero_add]
  · exact countP_le_length
  · have := hold x hx
    simp only [decide_eq_true_eq] at hrecent
    omega

lemma Tracks.request (h : Tracks duration age now limit l.accepted (l.queue.getD []))
    (hpos : 1 ≤ limit) :
    (∃ rest, Tracks duration age now limit l.accepted rest ∧ rest.length < limit ∧
        l.request limit duration now = (l.push rest now, true)) ∨
      limit ≤ recent duration now l.accepted ∧ l.request limit duration now = (l, false) := by
  rw [MemoryLimiter.request]
  cases hqueue : l.queue with
  | none =>
    rw [hqueue] at h
    exact .inl ⟨[], h, hpos, rfl⟩
  | some queue =>
    rw [hqueue, Option.getD_some] at h
    dsimp only
    split_ifs with hlength
    · exact .inl ⟨queue, h, hlength, rfl⟩
    · have hle := h.length
      cases queue with
      | nil => exact absurd hpos hlength
      | cons oldest rest =>
        dsimp only
        split_ifs with hold
        · refine .inl ⟨rest, h.drop [oldest] (by simpa using by omega), ?_, rfl⟩
          simp only [length_cons] at hle
          omega
        · -- The oldest time is recent, and so are all of the queue.
          obtain ⟨dropped, heq, -⟩ := h.accepted
          have hall : recent duration now (oldest :: rest) = (oldest :: rest).length := by
            refine countP_eq_length.2 fun x hx => decide_eq_true ⟨?_, h.past x hx⟩
            have hx : oldest ≤ x :=
              (mem_cons.1 hx).elim (fun h => h.ge) ((pairwise_cons.1 h.sorted).1 x)
            omega
          rw [recent] at hall
          refine .inr ⟨?_, rfl⟩
          rw [heq, recent, countP_append, hall]
          omega

lemma Tracks.clearExpired (h : Tracks duration age now limit l.accepted (l.queue.getD [])) :
    Tracks duration age now limit (l.clearExpired age now).accepted
      ((l.clearExpired age now).queue.getD []) := by
  rw [MemoryLimiter.clearExpired]
  split_ifs with hlast
  · refine Tracks.drop (l.queue.getD []) (by simpa using h) fun x hx => ?_
    obtain heq | ⟨init, last, heq⟩ := eq_nil_or_concat (l.queue.getD [])
    · exact absurd (heq ▸ hx) not_mem_nil
    · rw [concat_eq_append] at heq
      have hle : x ≤ last := by
        rw [heq] at hx
        rcases mem_append.1 hx with hx | hx
        · exact (pairwise_append.1 (heq ▸ h.sorted)).2.2 x hx last (mem_singleton_self last)
        · exact (mem_singleton.1 hx).le
      simp only [heq, getLast?_append, getLast?_singleton, Option.some_or, Option.all_some,
        decide_eq_true_eq] at hlast
      omega
  · exact h

lemma accepted_clearExpired : (l.clearExpired age now).accepted = l.accepted := by
  rw [clearExpired]
  split_ifs <;> rfl

lemma Run.tracks (h : Run (· ≤ ·) duration age now limit l) :
    Tracks duration age now limit l.accepted (l.queue.getD []) := by
  induction h with
  | start => exact ⟨⟨[], rfl, by simp⟩, .nil, by simp, le_rfl⟩
  | request _ hnow hlimit hpos ih =>
    obtain ⟨rest, htracks, hlength, heq⟩ | ⟨-, heq⟩ := Tracks.request (ih.later hnow hlimit) hpos
    · rw [heq]
      exact htracks.push hlength
    · rw [heq]
      exact ih.later hnow hlimit
  | clear _ hnow ih => exact Tracks.clearExpired (ih.later hnow le_rfl)

/-- A request that is accepted, under a limit that was not lowered, has fewer accepted ones before
    it in the window. -/
theorem recent_lt_of_accepted (h : Run (· ≤ ·) duration age time limit l) (hage : duration ≤ age)
    (hnow : time ≤ now) (hlimit : limit ≤ limit') (hpos : 1 ≤ limit')
    (haccepted : (l.request limit' duration now).2 = true) :
    recent duration now l.accepted < limit' := by
  obtain ⟨rest, htracks, hlength, -⟩ | ⟨-, heq⟩ := Tracks.request (h.tracks.later hnow hlimit) hpos
  · exact (Int.ofNat_le.2 (htracks.recent_le hage)).trans_lt hlength
  · rw [heq] at haccepted
    cases haccepted

/-- The second request in a minute, with a limit of two. -/
theorem recent_lt_of_accepted_second :
    recent 60 1 (MemoryLimiter.request {} 2 60 0).1.accepted < (2 : ℤ) :=
  recent_lt_of_accepted (.request (.start 0) le_rfl (by decide) (by decide)) (le_refl 60)
    (by decide) le_rfl (by decide)
    (by decide : ((MemoryLimiter.request {} 2 60 0).1.request 2 60 1).2 = true)

/-- In every window that ends at any time, no more requests were accepted than the limit. -/
theorem recent_le_limit (h : Run (· ≤ ·) duration age time limit l)
    (hage : duration ≤ age) (now : ℤ) :
    recent duration now l.accepted ≤ limit := by
  induction h with
  | start => simp [recent]
  | @request _ _ time _ l h hnow hlimit hpos ih =>
    obtain ⟨rest, htracks, hlength, heq⟩ | ⟨-, heq⟩ :=
      Tracks.request (h.tracks.later hnow hlimit) hpos
    · obtain ⟨dropped, haccepted, hold⟩ := htracks.accepted
      rw [recent] at *
      rw [heq, push, countP_append]
      by_cases hrecent : now - duration < time ∧ time ≤ now
      · -- only times in the queue are recent
        rw [haccepted, countP_append, countP_eq_zero.2 (by grind)]
        grind
      · grind
    · exact heq ▸ ih.trans hlimit
  | clear _ _ ih => rwa [accepted_clearExpired]

namespace Busy

/-- Two calls are accepted while the limit goes up to two; a third one is refused. -/
def full : MemoryLimiter :=
  (((MemoryLimiter.request {} 1 60 0).1.request 2 60 10).1.request 2 60 20).1

/-- The cleanup deletes the queue; then two calls are accepted and one is refused. -/
def served : MemoryLimiter :=
  ((((full.clearExpired 60 100).request 2 60 100).1.request 2 60 101).1.request 2 60 102).1

end Busy

/-- Two requests, a sweep that forgets them, and two more. -/
theorem recent_le_limit_served : Busy.full.accepted = [0, 10] ∧
    (Busy.full.clearExpired 60 100).queue = none ∧
    Busy.served.accepted = [0, 10, 100, 101] ∧ recent 60 101 Busy.served.accepted ≤ (2 : ℤ) := by
  have hfull : Run (· ≤ ·) 60 60 20 2 Busy.full :=
    .request (.request (.request (.start 0) le_rfl (by decide) le_rfl) (by decide) (by decide)
      (by decide))
      (by decide) le_rfl (by decide)
  have hserved : Run (· ≤ ·) 60 60 102 2 Busy.served :=
    .request (.request (.request (.clear hfull (by decide)) le_rfl le_rfl (by decide))
      (by decide) le_rfl
      (by decide)) (by decide) le_rfl (by decide)
  exact ⟨by decide, by decide, by decide, recent_le_limit hserved le_rfl 101⟩

/-- A lower limit is compared with the oldest of the times that were kept under the higher one. -/
theorem accepted_after_lower_limit :
    ∃ l, Run (fun _ _ => True) 60 60 55 3 l ∧ (l.request 1 60 61).2 = true ∧
      recent 60 61 l.accepted = 2 :=
  ⟨(((MemoryLimiter.request {} 3 60 0).1.request 3 60 50).1.request 3 60 55).1,
    .request (.request (.request (.start 0) le_rfl trivial (by decide)) (by decide) trivial
      (by decide))
      (by decide) trivial (by decide), by decide, by decide⟩

end MemoryLimiter

/-! ## Requests to models -/

/-- The keys of a user, and when and with what status the requests that were let through have
    ended. -/
structure ModelLimiter where
  (total check success : MemoryLimiter := {})
  handled : List (ℤ × ℕ) := []

/-- When a request comes, when it is checked, and when and how it ends if it is let through. -/
structure ModelRequest where
  (arrived checked finished : ℤ)
  status : ℕ

/-- What becomes of a request. -/
inductive ModelVerdict
  | totalLimit | successLimit | served
  deriving DecidableEq

namespace ModelLimiter

open MemoryLimiter

def memoryRateLimitHandler (l : ModelLimiter) (duration totalMaxCount successMaxCount : ℤ)
    (r : ModelRequest) :
    ModelLimiter × ModelVerdict :=
  let total := if totalMaxCount > 0 then l.total.request totalMaxCount duration r.arrived
    else (l.total, true)
  let check := l.check.request successMaxCount duration r.checked
  if !total.2 then ({ l with total := total.1 }, .totalLimit)
  else if !check.2 then ({ l with total := total.1, check := check.1 }, .successLimit)
  else
    ({ total := total.1
       check := check.1
       success := if r.status < 400 then (l.success.request successMaxCount duration r.finished).1
         else l.success
       handled := l.handled ++ [(r.finished, r.status)] }, .served)

/-- The requests within the duration that succeeded. -/
def successes (l : ModelLimiter) (duration now : ℤ) : ℕ :=
  l.handled.countP fun done => done.2 < 400 ∧ now - duration < done.1 ∧ done.1 ≤ now

/-- Requests, one after the other, and cleanups. Those that are let through end with a status in
    `S`. -/
inductive Run (S : ℕ → Prop) (duration age total s : ℤ) : ℤ → ModelLimiter → Prop
  | start (now : ℤ) : Run S duration age total s now {}
  | request {time : ℤ} {l : ModelLimiter} {r : ModelRequest} (h : Run S duration age total s time l)
      (harrived : time ≤ r.arrived) (hchecked : r.arrived ≤ r.checked)
      (hfinished : r.checked ≤ r.finished)
      (hstatus : S r.status) : Run S duration age total s r.finished
        (l.memoryRateLimitHandler duration total s r).1
  | clear {time now : ℤ} {l : ModelLimiter} (h : Run S duration age total s time l)
    (hnow : time ≤ now) :
      Run S duration age total s now { l with
        total := l.total.clearExpired age now
        check := l.check.clearExpired age now
        success := l.success.clearExpired age now }

/-- Every call of the check has let a request through, which has ended since. -/
structure Checked (duration age s time : ℤ) (l : ModelLimiter) : Prop where
  tracks : Tracks duration age time s l.check.accepted (l.check.queue.getD [])
  handled : Forall₂ (fun checked done => checked ≤ done.1 ∧ done.1 ≤ time ∧
    done.2 < 400) l.check.accepted l.handled

variable {duration age total s time now : ℤ} {l : ModelLimiter} {r : ModelRequest}

lemma Checked.later (h : Checked duration age s time l) (hnow : time ≤ now) :
    Checked duration age s now l where
  tracks := h.tracks.later hnow le_rfl
  handled := h.handled.imp fun _ _ hdone => ⟨hdone.1, hdone.2.1.trans hnow, hdone.2.2⟩

lemma Checked.recent_le (h : Checked duration age s now l) :
    recent duration now l.check.accepted ≤ l.successes duration now := by
  have hhandled := h.handled
  rw [recent, successes]
  generalize l.check.accepted = times, l.handled = handled at hhandled
  induction hhandled with
  | nil => rfl
  | cons hdone _ ih =>
    rw [countP_cons, countP_cons]
    refine Nat.add_le_add ih ?_
    split_ifs with hrecent hsuccess
    all_goals simp_all
    omega

lemma Checked.request (h : Checked duration age s time l) (hs : 1 ≤ s) (harrived : time ≤ r.arrived)
    (hchecked : r.arrived ≤ r.checked) (hfinished : r.checked ≤ r.finished)
    (hstatus : r.status < 400) :
    Checked duration age s r.finished (l.memoryRateLimitHandler duration total s r).1 := by
  have h := h.later (harrived.trans hchecked)
  rw [memoryRateLimitHandler]
  generalize (if total > 0 then _ else _) = t
  obtain ⟨_, _ | _⟩ := t
  · exact { h.later hfinished with }
  obtain ⟨rest, htracks, hlength, heq⟩ | ⟨-, heq⟩ := Tracks.request h.tracks hs
  · rw [heq]
    refine ⟨(htracks.push hlength).later hfinished le_rfl, rel_append (h.later hfinished).handled
      (.cons ?_ .nil)⟩
    exact ⟨hfinished, le_rfl, hstatus⟩
  · rw [heq]
    exact { h.later hfinished with }

lemma Run.checked (h : Run (· < 400) duration age total s time l) (hs : 1 ≤ s) :
    Checked duration age s time l := by
  induction h with
  | start => exact ⟨⟨⟨[], rfl, by simp⟩, .nil, by simp, by simpa using by omega⟩, .nil⟩
  | request _ harrived hchecked hfinished hstatus ih =>
    exact ih.request hs harrived hchecked hfinished hstatus
  | clear _ hnow ih =>
    have h := ih.later hnow
    refine ⟨h.tracks.clearExpired, ?_⟩
    rw [accepted_clearExpired]
    exact h.handled

/-- If only successes are recorded, a request that is refused for the limit of successes comes after
    that many. -/
theorem successes_of_successLimit (h : Run (· < 400) duration age total s time l) (hs : 0 < s)
    (harrived : time ≤ r.arrived) (hchecked : r.arrived ≤ r.checked)
    (hrefused : (l.memoryRateLimitHandler duration total s r).2 = .successLimit) :
    s ≤ l.successes duration r.checked := by
  have h := (h.checked hs).later (harrived.trans hchecked)
  obtain ⟨rest, -, -, heq⟩ | ⟨hle, -⟩ := Tracks.request h.tracks hs
  · rw [memoryRateLimitHandler, heq] at hrefused
    generalize (if total > 0 then _ else _) = t at hrefused
    obtain ⟨_, _ | _⟩ := t <;> cases hrefused
  · exact hle.trans (Int.ofNat_le.2 h.recent_le)

/-- The second request after one that has succeeded. -/
theorem successes_of_successLimit_second :
    1 ≤ ((memoryRateLimitHandler {} 60 0 1 ⟨0, 0, 5, 200⟩).1.successes 60 7 : ℤ) :=
  have h : Run (· < 400) 60 60 0 1 5 (memoryRateLimitHandler {} 60 0 1 ⟨0, 0, 5, 200⟩).1 :=
    .request (r := ⟨0, 0, 5, 200⟩) (.start 0) le_rfl le_rfl (by decide) (by decide)
  successes_of_successLimit (r := ⟨6, 7, 9, 200⟩) h (by decide) (by decide) (by decide) (by decide)

/-- A request that has failed is recorded as well. -/
theorem refused_after_failure : ∃ l, Run (fun _ => True) 60 60 0 1 5 l ∧
    (l.memoryRateLimitHandler 60 0 1 ⟨6, 7, 9, 200⟩).2 = .successLimit ∧ l.successes 60 7 = 0 :=
  ⟨(memoryRateLimitHandler {} 60 0 1 ⟨0, 0, 5, 500⟩).1,
    .request (r := ⟨0, 0, 5, 500⟩) (.start 0) le_rfl le_rfl
      (by decide) trivial, by decide, by decide⟩

end ModelLimiter

end Allrouter
