import Allrouter.Library.Interleaving
import Allrouter.Library.Text

/-!
# Image execution tickets

A ticket carries its claims, with a nonce and a time at which it expires. A call that consumes it
opens the ticket, reads the clock and checks the claims; then, under a lock, it deletes the expired
nonces from the cache and looks for its own (`TicketThread.next`). Time passes between any two
steps.

* `ticket_accepted_once`: a ticket is accepted at most once, if every call enters the lock before
  its ticket has expired;
* `ticket_accepted_twice`: a call that has read the clock in time, but enters the lock after a later
  call has deleted the nonce, accepts the ticket again.
-/

namespace Allrouter

open Interleaving List Option Text

/-- The image that a ticket is for. -/
structure ImageRequest where
  (model prompt : String)
  deriving DecidableEq

/-- Times are in seconds. -/
structure ResponsesImageExecutionTicketClaims where
  version : ℤ := 1
  (issuedAt expiresAt : ℤ)
  nonce : String
  (userID tokenID : ℤ)
  (requestID callID : String := "")
  callNumber : ℤ := 0
  request : ImageRequest
  deriving DecidableEq

/-- Why a ticket is refused. -/
inductive TicketError
  /-- "invalid responses image execution ticket" -/
  | invalid
  /-- "responses image execution ticket expired" -/
  | expired
  /-- "responses image execution ticket already consumed" -/
  | replay
  /-- "responses image execution ticket secret is empty" -/
  | secretEmpty
  deriving DecidableEq

namespace ResponsesImageExecutionTicketClaims

variable (claims : ResponsesImageExecutionTicketClaims) (now : ℤ)

/-- The checks of `ConsumeResponsesImageExecutionTicket` at the time `now`. -/
def check : Except TicketError Unit :=
  if claims.version ≠ 1 ∨ claims.userID ≤ 0 ∨ claims.tokenID ≤ 0 ∨ claims.callNumber < 0 ∨
    claims.nonce = "" ∨
      trimSpace claims.request.model = "" ∨ trimSpace claims.request.prompt = "" ∨
        claims.issuedAt ≤ 0 ∨
      now + 30 < claims.issuedAt ∨ claims.expiresAt ≤ claims.issuedAt ∨
        15 * 60 < claims.expiresAt - claims.issuedAt then
    .error .invalid
  else if claims.expiresAt ≤ now then .error .expired
  else .ok ()

end ResponsesImageExecutionTicketClaims

/-- What opens a ticket: its encoding and its cipher, and what they decode to. -/
abbrev TicketOpener := String → Except TicketError ResponsesImageExecutionTicketClaims

def openTicket (opener : TicketOpener) (ticket : String) :
    Except TicketError ResponsesImageExecutionTicketClaims :=
  let ticket := trimSpace ticket
  if ticket = "" ∨ 24 * 1024 < len ticket then .error .invalid else opener ticket

/-- The clock, the nonces of the cache with their times of expiry, and what the calls have
    returned. -/
structure TicketStore where
  now : ℤ
  consumed : List (String × ℤ) := []
  returned : List (Except TicketError ResponsesImageExecutionTicketClaims) := []
  deriving DecidableEq

namespace TicketStore

variable (s : TicketStore)

def wait (elapsed : ℕ) : TicketStore := { s with now := s.now + elapsed }

def answer (result : Except TicketError ResponsesImageExecutionTicketClaims) : TicketStore :=
  { s with returned := s.returned ++ [result] }

/-- The nonces that have not expired at the time `now`. -/
def purge (now : ℤ) : List (String × ℤ) := s.consumed.filter fun entry => now < entry.2

/-- The cache afterwards, and whether the nonce was new. -/
def consumeResponsesImageExecutionNonce (nonce : String) (expiresAt now : ℤ) : TicketStore × Bool :=
  if nonce ∈ (s.purge now).map Prod.fst then ({ s with consumed := s.purge now }, false)
  else ({ s with consumed := (nonce, expiresAt) :: s.purge now }, true)

variable {s} {nonce : String} {expiresAt now : ℤ}

variable (s)

def accepted : List ResponsesImageExecutionTicketClaims := s.returned.filterMap Except.toOption

end TicketStore

open TicketStore

/-- The calls, and the time between them. -/
inductive TicketCall
  | wait (elapsed : ℕ)
  | consumeResponsesImageExecutionTicket (ticket : String)

/-- A call whose ticket was opened. -/
inductive TicketThread
  /-- The call is about to read the clock. -/
  | readClock (claims : ResponsesImageExecutionTicketClaims)
  /-- It has read the clock, and waits for the lock. -/
  | enter (claims : ResponsesImageExecutionTicketClaims) (now : ℤ)
  deriving DecidableEq

def TicketCall.begin (opener : TicketOpener) (s : TicketStore) : TicketCall →
    TicketStore × Option TicketThread
  | wait elapsed => (s.wait elapsed, none)
  | consumeResponsesImageExecutionTicket ticket =>
    match openTicket opener ticket with
    | .error e => (s.answer (.error e), none)
    | .ok claims => (s, some (.readClock claims))

namespace TicketThread

def next (s : TicketStore) : TicketThread → TicketStore × Option TicketThread
  | readClock claims =>
    match claims.check s.now with
    | .error e => (s.answer (.error e), none)
    | .ok () => (s, some (.enter claims s.now))
  | enter claims now =>
    let (s, isNew) := s.consumeResponsesImageExecutionNonce claims.nonce claims.expiresAt now
    (s.answer (if isNew then .ok claims else .error .replay), none)

/-- A call enters the lock before its ticket has expired. -/
def InTime (s : TicketStore) : TicketThread → Prop
  | enter claims _ => s.now < claims.expiresAt
  | readClock _ => True

instance (s : TicketStore) : (thread : TicketThread) → Decidable (thread.InTime s)
  | enter claims _ => inferInstanceAs (Decidable (s.now < claims.expiresAt))
  | readClock _ => .isTrue trivial

/-- The clock was not later when the call has read it. -/
def Earlier (s : TicketStore) : TicketThread → Prop
  | enter _ now => now ≤ s.now
  | readClock _ => True

end TicketThread

/-- Any number of calls, each step of which satisfies `P`. -/
abbrev TicketRun (opener : TicketOpener) (P : TicketStore → TicketThread → Prop) :
    Pool TicketStore TicketThread → Pool TicketStore TicketThread → Prop :=
  Interleaving.Run (fun s s' o => ∃ call : TicketCall, call.begin opener s = (s', o))
    (fun s thread s' o => P s thread ∧ ∃ _ : Unit, thread.next s = (s', o))

/-- A ticket that was accepted and has not expired is in the cache, and no ticket was accepted
    twice. -/
structure TicketStore.Remembers (s : TicketStore) : Prop where
  cached : ∀ claims ∈ s.accepted, s.now < claims.expiresAt →
    (claims.nonce, claims.expiresAt) ∈ s.consumed
  nodup : s.accepted.Nodup

namespace TicketStore.Remembers

variable {s : TicketStore} {claims : ResponsesImageExecutionTicketClaims} {now : ℤ}

lemma wait (h : s.Remembers) (elapsed : ℕ) : (s.wait elapsed).Remembers where
  cached claims hclaims hnow :=
    h.cached claims hclaims (lt_of_le_of_lt (by simp [TicketStore.wait]) hnow)
  nodup := h.nodup

lemma answer_error (h : s.Remembers) (e : TicketError) : (s.answer (.error e)).Remembers := by
  have hsame : (s.answer (.error e)).accepted = s.accepted := by
    simp [accepted, answer, Except.toOption]
  refine ⟨?_, ?_⟩
  · rw [hsame]
    exact h.cached
  · rw [hsame]
    exact h.nodup

/-- The nonce of a ticket that has not expired is not deleted by a call that has read the clock
    before. -/
lemma mem_purge (h : s.Remembers) (hnow : now ≤ s.now)
    (hclaims : claims ∈ s.accepted) (hlive : s.now < claims.expiresAt) :
    (claims.nonce, claims.expiresAt) ∈ s.purge now :=
  mem_filter.2 ⟨h.cached claims hclaims hlive, by simpa using hnow.trans_lt hlive⟩

lemma purge (h : s.Remembers) (hnow : now ≤ s.now) :
    TicketStore.Remembers { s with consumed := s.purge now } where
  cached _ hclaims hlive := h.mem_purge hnow hclaims hlive
  nodup := h.nodup

lemma accept (h : s.Remembers) (hnow : now ≤ s.now)
    (hlive : s.now < claims.expiresAt) (hnew : claims.nonce ∉ (s.purge now).map Prod.fst) :
    (answer { s with consumed := (claims.nonce, claims.expiresAt) :: s.purge now }
      (.ok claims)).Remembers := by
  have haccepted : ∀ consumed, (answer { s with consumed := consumed } (.ok claims)).accepted =
      s.accepted ++ [claims] := by
    simp [accepted, answer, Except.toOption]
  refine ⟨?_, ?_⟩
  · rw [haccepted]
    intro c hc hc'
    rcases mem_append.1 hc with hc | hc
    · exact mem_cons_of_mem _ (h.mem_purge hnow hc hc')
    · rw [mem_singleton.1 hc]
      exact mem_cons_self
  · rw [haccepted, nodup_append]
    refine ⟨h.nodup, nodup_singleton _, ?_⟩
    -- it was not accepted before, or its nonce would be there
    rintro c hc c' hc' rfl
    rw [mem_singleton.1 hc'] at hc
    exact hnew (mem_map.2 ⟨_, h.mem_purge hnow hc hlive, rfl⟩)

end TicketStore.Remembers

lemma remembers_of_next {s s' : TicketStore} {thread : TicketThread} {o : Option TicketThread}
    (hs : s.Remembers) (hearlier : thread.Earlier s) (htime : thread.InTime s)
    (hnext : thread.next s = (s', o)) :
    s'.Remembers ∧ s'.now = s.now ∧ ∀ u ∈ o, u.Earlier s' := by
  cases thread with
  | readClock claims =>
    rw [TicketThread.next] at hnext
    split at hnext
    · cases hnext
      exact ⟨hs.answer_error _, rfl, fun _ hu => absurd hu (not_mem_none _)⟩
    · cases hnext
      refine ⟨hs, rfl, fun u hu => ?_⟩
      cases hu
      exact le_rfl
  | enter claims now =>
    rw [TicketThread.next] at hnext
    by_cases hmem : claims.nonce ∈ (s.purge now).map Prod.fst
    · rw [consumeResponsesImageExecutionNonce, if_pos hmem] at hnext
      cases hnext
      exact ⟨(hs.purge hearlier).answer_error _, rfl, fun _ hu => absurd hu (not_mem_none _)⟩
    · rw [consumeResponsesImageExecutionNonce, if_neg hmem] at hnext
      cases hnext
      exact ⟨hs.accept hearlier htime hmem, rfl, fun _ hu => absurd hu (not_mem_none _)⟩

/-- As long as no call enters the lock after its ticket has expired, every ticket is accepted once
    at most. -/
theorem ticket_accepted_once (opener : TicketOpener) (p q : Pool TicketStore TicketThread)
    (hrun : TicketRun opener (fun s thread => thread.InTime s) p q) (hstart : p.threads = [])
    (hnone : p.shared.returned = []) : q.shared.accepted.Nodup := by
  have hremembers : p.shared.Remembers := by
    have haccepted : p.shared.accepted = [] := by rw [accepted, hnone, filterMap_nil]
    refine ⟨?_, ?_⟩ <;> rw [haccepted]
    · exact fun _ hclaims => absurd hclaims not_mem_nil
    · exact nodup_nil
  refine (hrun.invariant TicketStore.Remembers (fun s thread => thread.Earlier s) ?_ ?_
    ⟨hremembers, ?_⟩).1.nodup
  · rintro s s' o hs ⟨call, hcall⟩
    cases call with
    | wait elapsed =>
      cases hcall
      refine ⟨hs.wait elapsed, fun u hu => ?_, fun _ hu => absurd hu (not_mem_none _)⟩
      cases u with
      | readClock claims => trivial
      | enter claims now => exact le_trans hu (by simp [wait])
    | consumeResponsesImageExecutionTicket ticket =>
      rw [TicketCall.begin] at hcall
      split at hcall
      · cases hcall
        exact ⟨hs.answer_error _, fun _ hu => hu, fun _ hu => absurd hu (not_mem_none _)⟩
      · cases hcall
        refine ⟨hs, fun _ hu => hu, fun u hu => ?_⟩
        cases hu
        trivial
  · rintro s s' t o hs ht ⟨htime, -, hnext⟩
    obtain ⟨hs', hnow, ho⟩ := remembers_of_next hs ht htime hnext
    refine ⟨hs', fun u hu => ?_, ho⟩
    cases u with
    | readClock claims => trivial
    | enter claims now => exact le_of_le_of_eq hu hnow.symm
  · rw [hstart]
    exact fun _ ht => absurd ht not_mem_nil

namespace TwoTickets

def claims (nonce : String) (expiresAt : ℤ) : ResponsesImageExecutionTicketClaims where
  issuedAt := 1
  expiresAt := expiresAt
  nonce := nonce
  userID := 1
  tokenID := 1
  request := { model := "gpt-image-1", prompt := "a cat" }

/-- One ticket expires at 100, the other one at 200. -/
def opener : TicketOpener := fun ticket => .ok (if ticket = "first" then claims "a" 100
    else claims "b" 200)

def start : Pool TicketStore TicketThread := ⟨{ now := 99 }, []⟩

/-- Two calls with the first ticket have read the clock, and one of them has entered the lock. -/
def begun : List (Action TicketCall Unit) :=
  [.call (.consumeResponsesImageExecutionTicket "first"),
    .call (.consumeResponsesImageExecutionTicket "first"), .move 0 (), .move 1 (), .move 0 ()]

def inTime : List (Action TicketCall Unit) := begun ++ [.move 0 ()]

/-- The first ticket expires, and the other one is consumed before the second call enters. -/
def late : List (Action TicketCall Unit) :=
  begun ++ [.call (.wait 1), .call (.consumeResponsesImageExecutionTicket "second"), .move 0 (),
    .move 0 (), .move 0 ()]

def after (schedule : List (Action TicketCall Unit)) : Pool TicketStore TicketThread :=
  (play (fun call s => call.begin opener s) (fun _ s thread => thread.next s) start schedule).getD
    start

end TwoTickets

/-- The second use of a ticket is a replay. -/
theorem ticket_accepted_once_twoTickets :
    (TwoTickets.after TwoTickets.inTime).shared.returned = [.ok (TwoTickets.claims "a" 100),
      .error .replay] ∧
      (TwoTickets.after TwoTickets.inTime).shared.accepted.Nodup := by
  have hplay : playIf (fun _ s thread => TicketThread.InTime s thread) (fun call s =>
    TicketCall.begin TwoTickets.opener s call)
      (fun _ s thread => thread.next s) TwoTickets.start TwoTickets.inTime =
        some (TwoTickets.after TwoTickets.inTime) := by decide +kernel
  exact ⟨by decide +kernel, ticket_accepted_once TwoTickets.opener TwoTickets.start _ (run_of_playIf
    (fun i _ => ⟨i, rfl⟩) (fun k _ _ hP => ⟨hP, k, rfl⟩) hplay) rfl rfl⟩

/-- A call that enters the lock late finds that the first use was forgotten. -/
theorem ticket_accepted_twice :
    TicketRun TwoTickets.opener (fun _ _ => True) TwoTickets.start
      (TwoTickets.after TwoTickets.late) ∧
      TwoTickets.start.threads = [] ∧ TwoTickets.start.shared.returned = [] ∧
      (TwoTickets.after TwoTickets.late).shared.accepted =
        [TwoTickets.claims "a" 100, TwoTickets.claims "b" 200, TwoTickets.claims "a" 100] := by
  have hplay : playIf (fun _ _ _ => True) (fun call s => TicketCall.begin TwoTickets.opener s call)
      (fun _ s thread => thread.next s) TwoTickets.start TwoTickets.late =
        some (TwoTickets.after TwoTickets.late) := by decide +kernel
  exact ⟨run_of_playIf (fun i _ => ⟨i, rfl⟩) (fun k _ _ hP => ⟨hP, k, rfl⟩) hplay, rfl,
    rfl, by decide +kernel⟩

end Allrouter
