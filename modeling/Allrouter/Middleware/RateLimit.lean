import Allrouter.Library.Interleaving
import Allrouter.Library.Spacing

/-!
# The rate limiter

With Redis, the times of the admitted requests of a client are kept in a list, latest first.
A call asks for the length of the list; below the maximum it takes the time, pushes it and admits
the request. Else it compares the oldest time, and if that is long enough ago it takes the time,
pushes it and trims the list. Each command is one step (`RateLimitThread.next`), and the commands of
the calls interleave. The time of a request is the one that it has taken, which may be before it is
pushed. Times are read from a clock in nanoseconds, and recorded in milliseconds.

* `admitted_le`: calls that wait for each other admit at most `m` requests in any window;
* `admitted_overlapping`: two calls that find the same length both admit.
-/

namespace Allrouter

open Interleaving Spacing List

/-- The list of a client in Redis, and the times of the requests that were admitted, both latest
    first. -/
structure RateLimitStore where
  now : ℤ := 0
  (times admitted : List ℤ := [])
  deriving DecidableEq

namespace RateLimitStore

variable (s : RateLimitStore)

def wait (elapsed : ℕ) : RateLimitStore := { s with now := s.now + elapsed }

def timestamp : ℤ := s.now / 1000000

end RateLimitStore

/-- The next command of a call of `redisRateLimiter`, or its next look at the clock. -/
inductive RateLimitThread
  | llen
  | lindex
  | compare (oldTime : ℤ)
  /-- The time of the request is taken; the list is to be trimmed after it is pushed. -/
  | stamp (trim : Bool)
  | lpush (time : ℤ) (trim : Bool)
  | ltrim
  deriving DecidableEq

namespace RateLimitThread

/-- A step with at most `maxRequestNum` requests in `duration` seconds. A call that ends without
    `lpush` has refused its request: it came too early, or the list was empty. -/
def step (maxRequestNum : ℕ) (duration : ℤ) (s : RateLimitStore) : RateLimitThread →
    RateLimitStore × Option RateLimitThread
  | llen => (s, some (if s.times.length < maxRequestNum then .stamp false else .lindex))
  | lindex => (s, s.times.getLast?.map .compare)
  | compare oldTime => (s, if (s.timestamp - oldTime).tdiv 1000 < duration then none
    else some (.stamp true))
  | stamp trim => (s, some (.lpush s.timestamp trim))
  | lpush time trim =>
    ({ s with times := time :: s.times, admitted := time :: s.admitted },
      if trim then some .ltrim else none)
  | ltrim => ({ s with times := s.times.take maxRequestNum }, none)

/-- A step, after some time. -/
def next (maxRequestNum : ℕ) (duration : ℤ) (elapsed : ℕ) (s : RateLimitStore)
    (thread : RateLimitThread) : RateLimitStore × Option RateLimitThread :=
  thread.step maxRequestNum duration (s.wait elapsed)

end RateLimitThread

def redisRateLimiter (_ : Unit) (s : RateLimitStore) : RateLimitStore × Option RateLimitThread :=
  (s, some .llen)

/-- Any number of calls, in any order of their commands. -/
abbrev RateLimitRun (maxRequestNum : ℕ) (duration : ℤ) :
    Pool RateLimitStore RateLimitThread → Pool RateLimitStore RateLimitThread → Prop :=
  Interleaving.Run (fun s s' o => ∃ i, redisRateLimiter i s = (s', o))
    (fun s thread s' o => ∃ elapsed, thread.next maxRequestNum duration elapsed s = (s', o))

/-- The runs in which a call waits until the one before has ended. -/
abbrev RateLimitSerialRun (maxRequestNum : ℕ) (duration : ℤ) :
    Pool RateLimitStore RateLimitThread → Pool RateLimitStore RateLimitThread → Prop :=
  Interleaving.SerialRun (fun s s' o => ∃ i, redisRateLimiter i s = (s', o))
    (fun s thread s' o => ∃ elapsed, thread.next maxRequestNum duration elapsed s = (s', o))

/-- The requests that were admitted in the `duration` seconds from the time `t` on, in
    milliseconds. -/
def RateLimitStore.admittedFrom (s : RateLimitStore) (t duration : ℤ) : ℕ :=
  s.admitted.countP fun time => t ≤ time ∧ time < t + 1000 * duration

section Serial

variable {m : ℕ} {d : ℤ} {start : List ℤ} {s s' : RateLimitStore} {o : Option RateLimitThread}
    {elapsed : ℕ}

/-- All times, those in the list at the start included, latest first. -/
def RateLimitStore.history (start : List ℤ) (s : RateLimitStore) : List ℤ := s.admitted ++ start

/-- The times are spaced, and none of them is to come. -/
structure Paced (m : ℕ) (d : ℤ) (start : List ℤ) (s : RateLimitStore) : Prop where
  spaced : Spaced m (1000 * d) (s.history start)
  past : ∀ time ∈ s.history start, time ≤ s.timestamp

/-- A time that may be pushed: it is not earlier than the others, and spaced from them. -/
structure Due (m : ℕ) (d : ℤ) (start : List ℤ) (s : RateLimitStore) (time : ℤ) : Prop where
  latest : ∀ y ∈ s.history start, y ≤ time
  apart : ∀ y ∈ (s.history start)[m - 1]?, 1000 * d ≤ time - y

lemma timestamp_le_wait (s : RateLimitStore) (elapsed : ℕ) :
    s.timestamp ≤ (s.wait elapsed).timestamp :=
  Int.ediv_le_ediv (by decide) (by simp [RateLimitStore.wait])

lemma Paced.wait (h : Paced m d start s) (elapsed : ℕ) : Paced m d start (s.wait elapsed) where
  spaced := h.spaced
  past time htime := (h.past time htime).trans (timestamp_le_wait s elapsed)

lemma Due.wait {time : ℤ} (h : Due m d start s time) (elapsed : ℕ) :
    Due m d start (s.wait elapsed) time :=
  ⟨h.latest, h.apart⟩

lemma Paced.push {time : ℤ} (h : Paced m d start s) (hdue : Due m d start s time)
    (hpast : time ≤ s.timestamp) :
    Paced m d start { s with times := time :: s.times, admitted := time :: s.admitted } where
  spaced := ⟨hdue.latest, hdue.apart, h.spaced⟩
  past := by
    intro y hy
    rcases mem_cons.1 hy with rfl | hy
    · exact hpast
    · exact h.past y hy

/-- The list is that of the latest `m` times. -/
def Current (m : ℕ) (start : List ℤ) (s : RateLimitStore) : Prop :=
  s.times = (s.history start).take m

lemma Current.length_lt (h : Current m start s) (hlength : s.times.length < m) :
    (s.history start).length < m := by
  rw [h, length_take] at hlength
  omega

lemma Current.getLast? (h : Current m start s) (hm : 1 ≤ m) (hlength : m ≤ s.times.length) :
    s.times.getLast? = (s.history start)[m - 1]? := by
  have hlong : m - 1 < (s.history start).length := by
    rw [h, length_take] at hlength
    omega
  rw [h, getLast?_take, if_neg (by omega), getElem?_eq_getElem hlong, Option.some_or]

namespace RateLimitThread

/-- What is known of a call that has come to this point, when no other one runs. -/
def PacedBy (m : ℕ) (d : ℤ) (start : List ℤ) (s : RateLimitStore) : Option RateLimitThread → Prop
  | none => Paced m d start s ∧ Current m start s
  | some llen => Paced m d start s ∧ Current m start s
  | some lindex => Paced m d start s ∧ Current m start s ∧ m ≤ s.times.length
  | some (compare oldTime) => Paced m d start s ∧ Current m start s ∧
    (s.history start)[m - 1]? = some oldTime
  | some (stamp trim) =>
    Paced m d start s ∧ Current m start s ∧ Due m d start s s.timestamp ∧
      (trim = false → s.times.length < m)
  | some (lpush time trim) =>
    Paced m d start s ∧ Current m start s ∧ Due m d start s time ∧ time ≤ s.timestamp ∧
      (trim = false → s.times.length < m)
  -- one time too many
  | some ltrim => Paced m d start s ∧ s.times.take m = (s.history start).take m

variable {thread : RateLimitThread}

lemma PacedBy.paced (h : PacedBy m d start s o) : Paced m d start s := by
  cases o with
  | none => exact h.1
  | some thread => cases thread <;> exact h.1

lemma PacedBy.wait (h : PacedBy m d start s (some thread)) (elapsed : ℕ) :
    PacedBy m d start (s.wait elapsed) (some thread) := by
  have hpaced := h.paced.wait elapsed
  cases thread with
  | llen | ltrim => exact ⟨hpaced, h.2⟩
  | lindex | compare oldTime => exact ⟨hpaced, h.2⟩
  | stamp trim =>
    obtain ⟨-, hcurrent, hdue, htrim⟩ := h
    have hle := timestamp_le_wait s elapsed
    refine ⟨hpaced, hcurrent, ⟨fun y hy => (hdue.latest y hy).trans hle, fun y hy => ?_⟩, htrim⟩
    exact (hdue.apart y hy).trans (by omega)
  | lpush time trim =>
    obtain ⟨-, hcurrent, hdue, hpast, htrim⟩ := h
    exact ⟨hpaced, hcurrent, hdue.wait elapsed, hpast.trans (timestamp_le_wait s elapsed), htrim⟩

lemma pacedBy_of_step (hm : 1 ≤ m) (h : PacedBy m d start s (some thread))
    (hstep : thread.step m d s = (s', o)) :
    PacedBy m d start s' o := by
  cases thread with
  | llen =>
    obtain ⟨hpaced, hcurrent⟩ := h
    cases hstep
    split_ifs with hlength
    · refine ⟨hpaced, hcurrent, ⟨hpaced.past, ?_⟩, fun _ => hlength⟩
      rw [getElem?_eq_none (by have := hcurrent.length_lt hlength; omega)]
      exact fun _ hy => absurd hy (Option.not_mem_none _)
    · exact ⟨hpaced, hcurrent, not_lt.1 hlength⟩
  | lindex =>
    obtain ⟨hpaced, hcurrent, hlength⟩ := h
    cases hstep
    rw [hcurrent.getLast? hm hlength]
    cases hold : (s.history start)[m - 1]? with
    | none => exact ⟨hpaced, hcurrent⟩
    | some oldTime => exact ⟨hpaced, hcurrent, hold⟩
  | compare oldTime =>
    obtain ⟨hpaced, hcurrent, hold⟩ := h
    cases hstep
    split_ifs with hearly
    · exact ⟨hpaced, hcurrent⟩
    · refine ⟨hpaced, hcurrent, ⟨hpaced.past, ?_⟩, fun h => absurd h (by decide)⟩
      -- whole seconds have passed since the time that is `m` places before
      have hnonneg := sub_nonneg.2 (hpaced.past _ (mem_of_getElem? hold))
      rw [Int.tdiv_eq_ediv_of_nonneg hnonneg] at hearly
      rw [hold]
      intro y hy
      cases hy
      omega
  | stamp trim =>
    obtain ⟨hpaced, hcurrent, hdue, htrim⟩ := h
    cases hstep
    exact ⟨hpaced, hcurrent, hdue, le_rfl, htrim⟩
  | lpush time trim =>
    obtain ⟨hpaced, hcurrent, hdue, hpast, htrim⟩ := h
    cases hstep
    have hpushed := hpaced.push hdue hpast
    cases trim with
    | true =>
      refine ⟨hpushed, ?_⟩
      change (time :: s.times).take m = (time :: s.history start).take m
      rw [hcurrent, ← Nat.sub_add_cancel hm, take_succ_cons, take_succ_cons, take_take]
      congr 2
      omega
    | false =>
      refine ⟨hpushed, ?_⟩
      change time :: s.times = (time :: s.history start).take m
      have hlength := hcurrent.length_lt (htrim rfl)
      rw [hcurrent, take_of_length_le hlength.le, take_of_length_le (by rw [length_cons]; omega)]
  | ltrim =>
    obtain ⟨hpaced, htimes⟩ := h
    cases hstep
    exact ⟨⟨hpaced.spaced, hpaced.past⟩, htimes⟩

end RateLimitThread

end Serial

/-- As long as the calls wait for each other, no more requests are admitted in a window of any start
    than the limit. -/
theorem admitted_le (maxRequestNum : ℕ) (duration : ℤ) (hmax : 1 ≤ maxRequestNum)
    (p q : Pool RateLimitStore RateLimitThread)
    (hrun : RateLimitSerialRun maxRequestNum duration p q) (hstart : p.threads = [])
    (hnone : p.shared.admitted = []) (hlength : p.shared.times.length ≤ maxRequestNum)
    (hsorted : p.shared.times.Pairwise (· ≥ ·))
    (hpast : ∀ time ∈ p.shared.times, time ≤ p.shared.timestamp) (t : ℤ) :
    q.shared.admittedFrom t duration ≤ maxRequestNum := by
  have hhistory : p.shared.history p.shared.times = p.shared.times := by
    rw [RateLimitStore.history, hnone, nil_append]
  have hidle : RateLimitThread.PacedBy maxRequestNum duration p.shared.times p.shared none := by
    refine ⟨⟨?_, ?_⟩, ?_⟩
    · rw [hhistory]
      exact spaced_of_length_le hmax hlength hsorted
    · rw [hhistory]
      exact hpast
    · rw [Current, hhistory, take_of_length_le hlength]
  have hend := hrun.invariant (RateLimitThread.PacedBy maxRequestNum duration p.shared.times) ?_ ?_
    ⟨none, hstart, hidle⟩
  · obtain ⟨o, -, ho⟩ := hend
    have hcount := ho.paced.spaced.count_le hmax t
    rw [RateLimitStore.history, countP_append] at hcount
    exact (Nat.le_add_right _ _).trans hcount
  · rintro s s' o hs ⟨i, hcall⟩
    cases hcall
    exact hs
  · rintro s s' thread o h ⟨elapsed, hmove⟩
    exact RateLimitThread.pacedBy_of_step hmax (h.wait elapsed) hmove

namespace TwoPerMinute

/-- At 50 seconds, with the requests of the seconds 10 and 20. -/
def start : RateLimitStore where
  now := 50000000000
  times := [20000, 10000]

/-- A call that finds the list full and its oldest time too late. -/
def refused (elapsed : ℕ) : List (Interleaving.Action Unit ℕ) :=
  .call () :: .move 0 elapsed :: replicate 2 (.move 0 0)

/-- A call that finds the list full, pushes its time and trims the list. -/
def trimmed (elapsed : ℕ) : List (Interleaving.Action Unit ℕ) :=
  .call () :: .move 0 elapsed :: replicate 5 (.move 0 0)

/-- Four calls, at the seconds 50, 75, 75 and 85. -/
def served : RateLimitStore × Option RateLimitThread :=
  (playSerial (fun _ _ _ => True) redisRateLimiter (RateLimitThread.next 2 60) (start, none)
    (refused 0 ++ trimmed 25000000000 ++ refused 0 ++ trimmed 10000000000)).getD (start, none)

end TwoPerMinute

/-- Two of the four calls are refused; the other two push and trim the full list. -/
theorem admitted_le_trimmed :
    TwoPerMinute.served.2 = none ∧ TwoPerMinute.served.1.times = [85000, 75000] ∧
      TwoPerMinute.served.1.admitted = [85000, 75000] ∧
      TwoPerMinute.served.1.admittedFrom 75000 60 ≤ 2 := by
  have hrun : RateLimitSerialRun 2 60 ⟨TwoPerMinute.start, []⟩
      ⟨TwoPerMinute.served.1, TwoPerMinute.served.2.toList⟩ :=
    serialRun_getD_play (fun i _ => ⟨i, rfl⟩) (fun k _ _ _ => ⟨k, rfl⟩) (TwoPerMinute.start, none) _
  refine ⟨by decide +kernel, by decide +kernel, by decide +kernel, ?_⟩
  exact admitted_le 2 60 (by decide) _ _ hrun rfl rfl (by decide) (by decide) (by decide) 75000

namespace OnePerMinute

/-- Two calls ask for the length of the list before one of them pushes. -/
def overlapping : Pool RateLimitStore RateLimitThread :=
  (play redisRateLimiter (RateLimitThread.next 1 60) ⟨{}, []⟩
    [.call (), .call (), .move 0 0, .move 1 0, .move 0 0, .move 0 0, .move 0 0, .move 0 0]).getD
      ⟨{}, []⟩

end OnePerMinute

/-- Two calls read the length of the list before either of them pushes. -/
theorem admitted_overlapping :
    RateLimitRun 1 60 ⟨{}, []⟩ OnePerMinute.overlapping ∧ OnePerMinute.overlapping.threads = [] ∧
      OnePerMinute.overlapping.shared.admittedFrom 0 60 = 2 :=
  ⟨run_getD_play _ _ _ _, by decide +kernel, by decide +kernel⟩

end Allrouter
