import Allrouter.Library.Interleaving
import Mathlib.Tactic

/-!
# The cache of a token

A token is looked up by its key, in Redis first and then in the database. What was read from the
database, or written to it, is copied to Redis by a task that runs later, and the deletion of a
token leaves such a task as well. The statements of the calls and the tasks of one token
interleave (`TokenThread`); a task goes on in the thread of its call, which has returned by then.

* `TokenStore.Agrees`: a lookup finds the token that the database has, and its status;
* `agrees_of_upToDate`: if every task copies the status that the row has at that time, the two agree
  once all tasks have run;
* `deleted_token_served`: a lookup that has read the row before it is deleted copies it to Redis
  afterwards.
-/

namespace Allrouter

open Interleaving

/-- The status of a token. -/
inductive TokenStatus
  | enabled
  | disabled
  | expired
  | exhausted
  | other (code : ℤ)
  deriving DecidableEq

/-- The columns of a token that an update writes. -/
structure Token where
  name : String := ""
  status : TokenStatus
  expiredTime : ℤ := -1
  remainQuota : ℤ := 0
  (unlimitedQuota modelLimitsEnabled : Bool := false)
  modelLimits : String := ""
  allowIps : Option String := none
  group : String := ""
  crossGroupRetry : Bool := false
  accessedTime : ℤ := 0
  deriving DecidableEq

/-- The row of a token, if it was not deleted, and its copy in Redis. -/
structure TokenStore where
  row : Option Token
  cached : Option Token := none
  deriving DecidableEq

/-- What a call or its task still has to do. -/
inductive TokenThread
  /-- `GetTokenByKey` reads Redis. -/
  | lookup
  /-- It reads the database. -/
  | load
  /-- `Update`, with the columns of its token. -/
  | update (token : Token)
  | selectUpdate (token : Token)
  | delete
  /-- The task that copies a token to Redis. -/
  | cacheSetToken (token : Token)
  /-- The task that deletes the copy. -/
  | cacheDeleteToken

/-- The calls on a token. -/
inductive TokenCall
  | getTokenByKey (fromDB : Bool)
  | update (token : Token)
  | selectUpdate (token : Token)
  | delete

def TokenCall.begin (s : TokenStore) : TokenCall → TokenStore × Option TokenThread
  | getTokenByKey fromDB => (s, some (if fromDB then .load else .lookup))
  | update token => (s, some (.update token))
  | selectUpdate token => (s, some (.selectUpdate token))
  | delete => (s, some .delete)

/-- What a new lookup finds. -/
def TokenStore.getTokenByKey (s : TokenStore) : Option Token := s.cached.or s.row

namespace TokenThread

/-- The next statement or command. An update of a row that was deleted changes nothing, and its
    token is copied to Redis nevertheless. -/
def next (s : TokenStore) : TokenThread → TokenStore × Option TokenThread
  | lookup => (s, if s.cached.isSome then none else some .load)
  | load => (s, s.row.map .cacheSetToken)
  | update token =>
    ({ s with row := s.row.map fun row => { token with accessedTime := row.accessedTime } },
      some (.cacheSetToken token))
  | selectUpdate token =>
    ({ s with row := s.row.map fun row =>
      { row with accessedTime := token.accessedTime, status := token.status } },
      some (.cacheSetToken token))
  | delete => ({ s with row := none }, some .cacheDeleteToken)
  | cacheSetToken token => ({ s with cached := some token }, none)
  | cacheDeleteToken => ({ s with cached := none }, none)

/-- A task that runs when the call has returned. -/
def IsTask : TokenThread → Prop
  | cacheSetToken _ | cacheDeleteToken => True
  | _ => False

/-- The status that a task copies is the one that the row has. -/
def UpToDate (s : TokenStore) : TokenThread → Prop
  | cacheSetToken token => s.row.map Token.status = some token.status
  | _ => True

instance (s : TokenStore) : (thread : TokenThread) → Decidable (thread.UpToDate s)
  | cacheSetToken token => inferInstanceAs (Decidable (s.row.map Token.status = some token.status))
  | lookup | load | update _ | selectUpdate _ | delete | cacheDeleteToken => .isTrue trivial

end TokenThread

/-- Any number of calls for the token, with their tasks, each step of which satisfies `P`. -/
abbrev TokenRun (P : TokenStore → TokenThread → Prop) : Pool TokenStore TokenThread →
    Pool TokenStore TokenThread → Prop :=
  Interleaving.Run (fun s s' o => ∃ call : TokenCall, call.begin s = (s', o))
    (fun s thread s' o => P s thread ∧ ∃ _ : Unit, thread.next s = (s', o))

/-- A lookup finds a token if there is one, with its status. -/
def TokenStore.Agrees (s : TokenStore) : Prop :=
  s.getTokenByKey.map Token.status = s.row.map Token.status

/-- A task that is up to date leaves the two in agreement, and a change of the row leaves a task. -/
lemma agrees_of_next {s s' : TokenStore} {thread : TokenThread} {o : Option TokenThread}
    (hrow : thread.UpToDate s) (hnext : thread.next s = (s', o)) :
    s'.Agrees ∨ (∃ task ∈ o, task.IsTask) ∨ ¬thread.IsTask ∧ (s.Agrees → s'.Agrees) := by
  cases thread with
  | lookup | load =>
    cases hnext
    exact .inr (.inr ⟨fun h => h, fun h => h⟩)
  | update token | selectUpdate token | delete =>
    cases hnext
    exact .inr (.inl ⟨_, rfl, trivial⟩)
  | cacheSetToken token =>
    cases hnext
    exact .inl hrow.symm
  | cacheDeleteToken =>
    cases hnext
    exact .inl rfl

/-- **Agreement.** If every task copies the status that the row then has, a lookup finds the token
    of the database once all tasks have run. -/
theorem agrees_of_upToDate (p q : Pool TokenStore TokenThread)
    (hrun : TokenRun (fun s thread => thread.UpToDate s) p q) (hagrees : p.shared.Agrees)
    (hend : q.threads = []) : q.shared.Agrees := by
  have hrepaired := hrun.repaired TokenStore.Agrees TokenThread.IsTask ?_ ?_ (.inl hagrees)
  · rcases hrepaired with h | ⟨t, ht, -⟩
    · exact h
    · rw [hend] at ht
      cases ht
  · rintro s s' o ⟨call, hcall⟩
    have hsame : s' = s := by cases call <;> cases hcall <;> rfl
    rw [hsame]
    exact .inr (.inr id)
  · rintro s s' t o ⟨hrow, -, hnext⟩
    exact agrees_of_next hrow hnext

/-! ### A token that is deleted -/

namespace OneToken

def token : Token := { status := .enabled }

def start : Pool TokenStore TokenThread := ⟨{ row := some token }, []⟩

/-- A lookup has read the row, when a call deletes it; then the two threads move in the given
    order. -/
def schedule (order : List ℕ) : List (Action TokenCall Unit) :=
  [.call (.getTokenByKey false), .move 0 (), .move 0 (), .call .delete] ++ order.map (.move · ())

lemma run_of_schedule {P : TokenStore → TokenThread → Prop} [∀ s t, Decidable (P s t)]
    (order : List ℕ) {q : Pool TokenStore TokenThread}
    (h : playIf (fun _ => P) (fun call s => TokenCall.begin s call) (fun _ s thread =>
      thread.next s) start (schedule order) =
      some q) : TokenRun P start q := run_of_playIf (fun i _ => ⟨i, rfl⟩) (fun _ _ _ hP =>
        ⟨hP, (), rfl⟩) h

end OneToken

/-- The task of the lookup runs before the token is deleted. -/
theorem agrees_of_upToDate_oneToken :
    TokenRun (fun s thread => thread.UpToDate s) OneToken.start ⟨{ row := none }, []⟩ ∧
      TokenStore.Agrees { row := none } := by
  have hrun : TokenRun (fun s thread => thread.UpToDate s) OneToken.start ⟨{ row := none }, []⟩ :=
    OneToken.run_of_schedule [1, 0, 0] rfl
  exact ⟨hrun, agrees_of_upToDate _ _ hrun rfl rfl⟩

/-- A token is cached after it was deleted. -/
theorem deleted_token_served :
    TokenRun (fun _ _ => True) OneToken.start ⟨{ row := none, cached := some OneToken.token }, []⟩ ∧
      OneToken.start.threads = [] ∧ OneToken.start.shared.Agrees ∧
      ({ row := none, cached := some OneToken.token } : TokenStore).getTokenByKey =
          some OneToken.token :=
  ⟨OneToken.run_of_schedule [0, 0, 0] rfl, rfl, rfl, rfl⟩

end Allrouter
