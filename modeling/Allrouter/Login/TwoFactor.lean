import Allrouter.Library.Interleaving
import Allrouter.Library.Table
import Allrouter.Library.Text

/-!
# Two-factor login

A login with two-factor authentication loads the record of the user, checks that it is not locked,
compares the code, and saves the whole record; a backup code is looked for among the unused ones and
then saved as used (`TwoFAThread.next`). The statements of the calls of one user interleave. Hashes
are compared exactly: the hash of a backup code is the normalized code.

* `backupCode_accepted_once`: a backup code is accepted at most once, if no two calls with the same
  code are between reading the unused codes and saving;
* `backupCode_accepted_twice`: two such calls accept the same code;
* `wrongCodes_compared`: when logins wait for each other, at most `maxFailAttempts` wrong codes are
  compared before the record is locked, and none while it is;
* `wrongCodes_overlapping`: logins that have loaded the same record all compare their codes.
-/

namespace Allrouter

open Interleaving List Option Text Table

/-! ### Codes -/

namespace Common

def backupCodeLength : ℕ := 8

def maxFailAttempts : ℤ := 5

def lockoutDuration : ℤ := 300

def validateBackupCode (code : String) : Bool :=
  let cleanCode := toUpper (remove '-' code)
  len cleanCode = backupCodeLength &&
    cleanCode.toList.all fun c => ('A' ≤ c && c ≤ 'Z') || ('0' ≤ c && c ≤ '9')

/-- The code as `XXXX-XXXX`. -/
def normalizeBackupCode (code : String) : String :=
  let cleanCode := toUpper (remove '-' code)
  if len cleanCode = backupCodeLength then
    String.ofList (cleanCode.toList.take 4 ++ '-' :: cleanCode.toList.drop 4)
  else code

def validateNumericCode (code : String) : Except String String :=
  let code := remove ' ' code
  if len code ≠ 6 then .error "验证码必须是6位数字"
  else if (toInt? code).isNone then .error "验证码只能包含数字"
  else .ok code

/-- Whether a code is the one of the secret, at the time given to `totp`. -/
def validateTOTPCode (totp : String → String → Bool) (secret code : String) : Bool :=
  let cleanCode := remove ' ' code
  if len cleanCode ≠ 6 then false else totp cleanCode secret

end Common

/-! ### The record of a user -/

/-- Times are in nanoseconds. -/
structure TwoFA where
  secret : String
  isEnabled : Bool := true
  failedAttempts : ℤ := 0
  (lockedUntil lastUsedAt : Option ℤ := none)
  deriving DecidableEq

/-- A code that may be used once. -/
structure TwoFABackupCode where
  id : ℕ
  codeHash : String
  isUsed : Bool := false
  usedAt : Option ℤ := none
  deriving DecidableEq

namespace TwoFA

variable (t : TwoFA) (now : ℤ)

def isLocked : Bool := t.lockedUntil.any (now < ·)

/-- The record that `IncrementFailedAttempts` saves. -/
def incrementFailedAttempts : TwoFA :=
  let t := { t with failedAttempts := t.failedAttempts + 1 }
  if Common.maxFailAttempts ≤ t.failedAttempts then
    { t with lockedUntil := some (now + Common.lockoutDuration * 1000000000) }
  else t

/-- The record that is saved when a code was valid. -/
def updateUsage : TwoFA :=
  { t with failedAttempts := 0, lockedUntil := none, lastUsedAt := some now }

end TwoFA

/-- A code that was compared: when, and until when the stored record was locked. -/
structure Comparison where
  code : String
  time : ℤ
  lockedUntil : Option ℤ
  deriving DecidableEq

/-- The record and the backup codes of a user; the backup codes that calls have accepted, and the
    codes that they have compared. -/
structure TwoFAStore where
  now : ℤ := 0
  twoFA : Option TwoFA
  (backupCodes accepted : List TwoFABackupCode := [])
  compared : List Comparison := []
  deriving DecidableEq

namespace TwoFAStore

variable (s : TwoFAStore)

def wait (elapsed : ℕ) : TwoFAStore := { s with now := s.now + elapsed }

/-- A code is compared, which is kept with the time and the lock. -/
def compare (code : String) : TwoFAStore :=
  { s with compared := s.compared ++ [⟨code, s.now, s.twoFA.bind TwoFA.lockedUntil⟩] }

def unusedBackupCodes : List TwoFABackupCode := s.backupCodes.filter fun row => !row.isUsed

/-- A backup code is saved: its row is replaced, or inserted if there is none. -/
def saveBackupCode (row : TwoFABackupCode) : TwoFAStore :=
  { s with
    backupCodes :=
      if (get? TwoFABackupCode.id row.id s.backupCodes).isSome then put TwoFABackupCode.id row
        s.backupCodes
      else s.backupCodes ++ [row]
    accepted := s.accepted ++ [row] }

end TwoFAStore

/-! ### The calls -/

/-- What a call still has to do, with the record that it has loaded and changed. -/
inductive TwoFAThread
  /-- `Verify2FALogin` loads the record. -/
  | load (code : String)
  /-- `ValidateTOTPAndUpdateUsage` checks the lock. -/
  | checkTOTP (t : TwoFA) (cleanCode code : String)
  | compareTOTP (t : TwoFA) (cleanCode code : String)
  /-- The record is saved; then the code may be tried as a backup code. -/
  | update (t : TwoFA) (backup : Option String)
  /-- `ValidateBackupCodeAndUpdateUsage` checks the lock. -/
  | checkBackup (t : TwoFA) (code : String)
  /-- `ValidateBackupCode` reads the unused codes. -/
  | findBackup (t : TwoFA) (normalizedCode : String)
  | compareBackup (t : TwoFA) (normalizedCode : String) (backupCodes : List TwoFABackupCode)
  /-- The code that was found is saved as used. -/
  | saveBackup (t : TwoFA) (row : TwoFABackupCode)
  deriving DecidableEq

/-- The calls that check a code. -/
inductive TwoFACall
  | verify2FALogin (code : String)
  | validateBackupCodeAndUpdateUsage (t : TwoFA) (code : String)

def TwoFACall.begin (s : TwoFAStore) : TwoFACall → TwoFAStore × Option TwoFAThread
  | verify2FALogin code => (s, some (.load code))
  | validateBackupCodeAndUpdateUsage t code => (s, some (.checkBackup t code))

namespace TwoFAThread

/-- The two ways to verify a code, once the record is loaded. -/
def verify (t : TwoFA) (code : String) : TwoFAThread :=
  match Common.validateNumericCode code with
  | .ok cleanCode => .checkTOTP t cleanCode code
  | .error _ => .checkBackup t code

/-- The next step of a call in the store `s`; `totp now` tells the codes that are valid at the time
    `now`. -/
def step (totp : ℤ → String → String → Bool) (s : TwoFAStore) : TwoFAThread →
    TwoFAStore × Option TwoFAThread
  | load code => (s, (s.twoFA.filter TwoFA.isEnabled).map (verify · code))
  | checkTOTP t cleanCode code =>
    (s, some (if t.isLocked s.now then .checkBackup t code else .compareTOTP t cleanCode code))
  | compareTOTP t cleanCode code =>
    (s.compare cleanCode,
      some (if Common.validateTOTPCode (totp s.now) t.secret cleanCode then .update
        (t.updateUsage s.now) none
        else .update (t.incrementFailedAttempts s.now) (some code)))
  | update t backup => ({ s with twoFA := some t }, backup.map (.checkBackup t))
  | checkBackup t code =>
    (s, if t.isLocked s.now then none
      else if Common.validateBackupCode code then some
        (.findBackup t (Common.normalizeBackupCode code))
      else none)
  | findBackup t code => (s, some (.compareBackup t code s.unusedBackupCodes))
  | compareBackup t code backupCodes =>
    (s.compare code, some (match backupCodes.find? fun row => row.codeHash = code with
        | some row => .saveBackup t { row with isUsed := true, usedAt := some s.now }
        | none => .update (t.incrementFailedAttempts s.now) none))
  | saveBackup t row => (s.saveBackupCode row, some (.update (t.updateUsage s.now) none))

/-- The next step, after some time. -/
def next (totp : ℤ → String → String → Bool) (elapsed : ℕ) (s : TwoFAStore) (thread : TwoFAThread) :
    TwoFAStore × Option TwoFAThread := thread.step totp (s.wait elapsed)

/-- The backup code that a call is about to accept. -/
def claimed : TwoFAThread → Option String
  | compareBackup _ code _ => some code
  | saveBackup _ row => some row.codeHash
  | _ => none

/-- Two calls are not about to accept the same backup code. -/
def Apart (thread thread' : TwoFAThread) : Prop := ∀ code ∈ thread.claimed, code ∉ thread'.claimed

instance : DecidableRel Apart := fun thread thread' =>
  inferInstanceAs (Decidable (∀ code ∈ thread.claimed, code ∉ thread'.claimed))

end TwoFAThread

variable {totp : ℤ → String → String → Bool}

/-- Any number of calls in `C`, in any order of their steps. -/
abbrev TwoFARun (totp : ℤ → String → String → Bool) (C : TwoFACall → Prop) :
    Pool TwoFAStore TwoFAThread → Pool TwoFAStore TwoFAThread → Prop :=
  Interleaving.Run (fun s s' o => ∃ call : { call // C call }, call.1.begin s = (s', o))
    (fun s thread s' o => ∃ elapsed : ℕ, thread.next totp elapsed s = (s', o))

/-! ### Backup codes -/

/-- The runs in which no two calls are about to accept the same backup code. -/
abbrev TwoFAApartRun (totp : ℤ → String → String → Bool) (C : TwoFACall → Prop) :
    Pool TwoFAStore TwoFAThread → Pool TwoFAStore TwoFAThread → Prop :=
  ApartRun TwoFAThread.Apart (fun s s' o => ∃ call : { call // C call }, call.1.begin s = (s', o))
    (fun s thread s' o => ∃ elapsed : ℕ, thread.next totp elapsed s = (s', o))

namespace TwoFABackupCode

/-- The backup codes that were accepted are used, and each of them was accepted once. -/
structure Spent (backupCodes accepted : List TwoFABackupCode) : Prop where
  keyed : Table.Keyed id backupCodes
  used : ∀ row ∈ accepted, ∃ row' ∈ backupCodes, row'.id = row.id ∧ row'.isUsed = true
  once : (accepted.map id).Nodup

/-- A row that is to be replaced by `row`, which marks it as used. -/
structure Marks (backupCodes : List TwoFABackupCode) (row row' : TwoFABackupCode) : Prop where
  mem : row' ∈ backupCodes
  unused : row'.isUsed = false
  id_eq : row'.id = row.id
  codeHash_eq : row'.codeHash = row.codeHash
  used : row.isUsed = true

variable {s : TwoFAStore} {row row' other : TwoFABackupCode}

lemma Marks.backupCodes_saveBackupCode (h : Marks s.backupCodes row row') :
    (s.saveBackupCode row).backupCodes = put id row s.backupCodes := by
  refine if_pos (isSome_iff_ne_none.2 fun hnone => ?_)
  exact get?_eq_none.1 hnone row' h.mem h.id_eq

lemma Marks.mem_saveBackupCode (h : Marks s.backupCodes row row')
    (hkeyed : Table.Keyed id s.backupCodes) (hother : other ∈ s.backupCodes) (hne : other ≠ row') :
      other ∈ (s.saveBackupCode row).backupCodes := by
  rw [h.backupCodes_saveBackupCode]
  refine mem_put_of_ne hother fun hid => hne ?_
  exact hkeyed.eq_of_mem hother h.mem (hid.trans h.id_eq.symm)

lemma Spent.saveBackupCode (hs : Spent s.backupCodes s.accepted)
    (h : Marks s.backupCodes row row') :
    Spent (s.saveBackupCode row).backupCodes (s.saveBackupCode row).accepted := by
  have hused : ∀ r ∈ s.accepted, ∃ r' ∈ s.backupCodes, r' ≠ row' ∧ r'.id = r.id ∧
      r'.isUsed = true := by
    intro r hr
    obtain ⟨r', hr', hid, hused⟩ := hs.used r hr
    refine ⟨r', hr', fun heq => ?_, hid, hused⟩
    rw [heq, h.unused] at hused
    cases hused
  refine ⟨?_, ?_, ?_⟩
  · rw [h.backupCodes_saveBackupCode]
    exact hs.keyed.put row
  · intro r hr
    rcases mem_append.1 hr with hr | hr
    · obtain ⟨r', hr', hne, hid⟩ := hused r hr
      exact ⟨r', h.mem_saveBackupCode hs.keyed hr' hne, hid⟩
    · rw [mem_singleton.1 hr, h.backupCodes_saveBackupCode]
      exact ⟨row, mem_put_self h.mem h.id_eq, rfl, h.used⟩
  · change ((s.accepted ++ [row]).map id).Nodup
    rw [map_append, nodup_append]
    refine ⟨hs.once, nodup_singleton _, ?_⟩
    -- a row that was accepted before is used, the one that is accepted now was not
    intro i hi j hj hij
    obtain ⟨r, hr, rfl⟩ := mem_map.1 hi
    obtain ⟨r', hr', hne, hid, -⟩ := hused r hr
    rw [map_singleton, mem_singleton] at hj
    exact hne (hs.keyed.eq_of_mem hr' h.mem ((hid.trans (hij.trans hj)).trans h.id_eq.symm))

end TwoFABackupCode

namespace TwoFAThread

open TwoFABackupCode

/-- The backup code that a call is about to accept is not used. -/
def Fresh (backupCodes : List TwoFABackupCode) : TwoFAThread → Prop
  | compareBackup _ code found => ∀ row ∈ found, row.codeHash = code → row ∈ backupCodes ∧
    row.isUsed = false
  | saveBackup _ row => ∃ row', Marks backupCodes row row'
  | _ => True

lemma Apart.symm {t u : TwoFAThread} (h : Apart t u) : Apart u t := fun code hu ht => h code ht hu

variable {thread : TwoFAThread}

/-- A call that marks its code as used leaves the codes that others are about to accept. -/
lemma Fresh.saveBackupCode {s : TwoFAStore} {t : TwoFA} {row row' : TwoFABackupCode}
    (hkeyed : Table.Keyed TwoFABackupCode.id s.backupCodes) (hmarks : Marks s.backupCodes row row')
    (hapart : Apart (saveBackup t row) thread) (h : thread.Fresh s.backupCodes) :
    thread.Fresh (s.saveBackupCode row).backupCodes := by
  have hother : ∀ other ∈ s.backupCodes, other.codeHash ∈ thread.claimed →
      other ∈ (s.saveBackupCode row).backupCodes := by
    intro other hmem hclaimed
    refine hmarks.mem_saveBackupCode hkeyed hmem fun heq => hapart row.codeHash rfl ?_
    rw [← hmarks.codeHash_eq, ← heq]
    exact hclaimed
  cases thread with
  | compareBackup t' code found =>
    intro r hr hcode
    obtain ⟨hmem, hunused⟩ := h r hr hcode
    exact ⟨hother r hmem (congrArg some hcode.symm), hunused⟩
  | saveBackup t' r =>
    obtain ⟨r', hr'⟩ := h
    exact ⟨r', hother r' hr'.mem (congrArg some hr'.codeHash_eq.symm), hr'.unused, hr'.id_eq,
      hr'.codeHash_eq, hr'.used⟩
  | load | checkTOTP | compareTOTP | update | checkBackup | findBackup => trivial

/-- One step of a call: the codes that it has accepted are used, and the next one that it is about
    to accept is not. -/
lemma spent_of_step {s s' : TwoFAStore} {o : Option TwoFAThread}
    (hs : Spent s.backupCodes s.accepted) (hfresh : thread.Fresh s.backupCodes)
    (h : thread.step totp s = (s', o)) :
    Spent s'.backupCodes s'.accepted ∧
      (∀ u, Apart thread u → u.Fresh s.backupCodes → u.Fresh s'.backupCodes) ∧
        ∀ u ∈ o, u.Fresh s'.backupCodes := by
  cases thread with
  | load code =>
    cases h
    refine ⟨hs, fun _ _ hu => hu, fun u hu => ?_⟩
    obtain ⟨t, -, rfl⟩ := mem_map.1 hu
    rw [verify]
    split <;> trivial
  | checkTOTP t cleanCode code =>
    cases h
    refine ⟨hs, fun _ _ hu => hu, fun u hu => ?_⟩
    rw [← mem_some_iff.1 hu]
    split_ifs <;> trivial
  | compareTOTP t cleanCode code =>
    cases h
    refine ⟨hs, fun _ _ hu => hu, fun u hu => ?_⟩
    rw [← mem_some_iff.1 hu]
    cases Common.validateTOTPCode (totp s.now) t.secret cleanCode <;> trivial
  | update t backup =>
    cases h
    refine ⟨hs, fun _ _ hu => hu, fun u hu => ?_⟩
    obtain ⟨code, -, rfl⟩ := mem_map.1 hu
    trivial
  | checkBackup t code =>
    cases h
    refine ⟨hs, fun _ _ hu => hu, fun u hu => ?_⟩
    split_ifs at hu
    · cases hu
    · cases hu
      trivial
    · cases hu
  | findBackup t code =>
    cases h
    refine ⟨hs, fun _ _ hu => hu, fun u hu => ?_⟩
    cases hu
    intro row hrow _
    obtain ⟨hmem, hunused⟩ := mem_filter.1 hrow
    exact ⟨hmem, by simpa using hunused⟩
  | compareBackup t code found =>
    cases h
    refine ⟨hs, fun _ _ hu => hu, fun u hu => ?_⟩
    rw [← mem_some_iff.1 hu]
    split
    · rename_i row hfind
      obtain ⟨hmem, hunused⟩ :=
        hfresh row (mem_of_find?_eq_some hfind) (by simpa using find?_some hfind)
      exact ⟨row, hmem, hunused, rfl, rfl, rfl⟩
    · trivial
  | saveBackup t row =>
    cases h
    obtain ⟨row', hmarks⟩ := hfresh
    refine ⟨hs.saveBackupCode hmarks, fun u hapart hu => hu.saveBackupCode hs.keyed hmarks hapart,
      fun u hu => ?_⟩
    cases hu
    trivial

end TwoFAThread

/-- As long as the calls do not overlap, a backup code is accepted once. -/
theorem backupCode_accepted_once (totp : ℤ → String → String → Bool)
    (p q : Pool TwoFAStore TwoFAThread) (hrun : TwoFAApartRun totp (fun _ => True) p q)
    (hstart : p.threads = []) (hnone : p.shared.accepted = [])
    (hkeyed : Table.Keyed TwoFABackupCode.id p.shared.backupCodes) :
    (q.shared.accepted.map TwoFABackupCode.id).Nodup := by
  have hspent : TwoFABackupCode.Spent p.shared.backupCodes p.shared.accepted := by
    rw [hnone]
    exact ⟨hkeyed, fun _ hrow => absurd hrow not_mem_nil, nodup_nil⟩
  refine (hrun.invariant (fun s => TwoFABackupCode.Spent s.backupCodes s.accepted) (fun s t =>
    t.Fresh s.backupCodes)
    TwoFAThread.Apart.symm ?_ ?_ ⟨hspent, ?_, ?_⟩).1.once
  · rintro s s' o hs ⟨⟨call, _⟩, hcall⟩
    cases call <;> cases hcall
    · exact ⟨hs, fun _ hu => hu, fun u hu => by cases hu; trivial⟩
    · exact ⟨hs, fun _ hu => hu, fun u hu => by cases hu; trivial⟩
  · rintro s s' t o hs ht ⟨elapsed, hmove⟩
    exact TwoFAThread.spent_of_step (s := s.wait elapsed) hs ht hmove
  · rw [hstart]
    exact fun _ ht => absurd ht not_mem_nil
  · rw [hstart]
    exact List.Pairwise.nil

namespace TwoBackupCodes

def record : TwoFA := { secret := "" }

def start : Pool TwoFAStore TwoFAThread :=
  ⟨{ twoFA := some record, backupCodes := [{ id := 1, codeHash := "AAAA-AAAA" },
    { id := 2, codeHash := "BBBB-BBBB" }] }, []⟩

def validate (code : String) : Action { _call : TwoFACall // True } ℕ :=
  .call ⟨.validateBackupCodeAndUpdateUsage record code, trivial⟩

/-- Two calls, of which the second begins when the first has read the unused codes. -/
def schedule (code code' : String) : List (Action { _call : TwoFACall // True } ℕ) :=
  [validate code, .move 0 0, .move 0 0, validate code', .move 0 0, .move 0 0, .move 0 0, .move 0 0,
    .move 1 0, .move 1 0]

def after (code code' : String) : Pool TwoFAStore TwoFAThread :=
  (play (fun call s => call.1.begin s) (TwoFAThread.next fun _ _ _ => false) start
    (schedule code code')).getD start

end TwoBackupCodes

/-- Two calls with different codes overlap. -/
theorem backupCode_accepted_once_twoCodes :
    (TwoBackupCodes.after "AAAAAAAA" "bbbb-bbbb").shared.accepted.map TwoFABackupCode.id = [2, 1] ∧
      ((TwoBackupCodes.after "AAAAAAAA" "bbbb-bbbb").shared.accepted.map
        TwoFABackupCode.id).Nodup := by
  refine ⟨by decide +kernel, backupCode_accepted_once (fun _ _ _ =>
    false) TwoBackupCodes.start _ ?_ rfl rfl (by decide)⟩
  have hplay : playApart TwoFAThread.Apart (fun call s => call.1.begin s)
    (TwoFAThread.next fun _ _ _ => false)
      TwoBackupCodes.start (TwoBackupCodes.schedule "AAAAAAAA" "bbbb-bbbb") =
        some (TwoBackupCodes.after "AAAAAAAA" "bbbb-bbbb") := by decide +kernel
  exact apartRun_of_play hplay

/-- Two calls read the unused code before either of them marks it. -/
theorem backupCode_accepted_twice :
    TwoFARun (fun _ _ _ => false) (fun _ => True) TwoBackupCodes.start
      (TwoBackupCodes.after "AAAAAAAA" "AAAA-AAAA") ∧
      TwoBackupCodes.start.threads = [] ∧ TwoBackupCodes.start.shared.accepted = [] ∧
      Table.Keyed TwoFABackupCode.id TwoBackupCodes.start.shared.backupCodes ∧
      (TwoBackupCodes.after "AAAAAAAA" "AAAA-AAAA").shared.accepted.map TwoFABackupCode.id =
        [1, 1] :=
  ⟨run_getD_play _ _ _ _, rfl, rfl, by decide, by decide +kernel⟩

/-! ### Wrong codes -/

/-- If the next step compares a code, the code is wrong then: not the one of the secret at that
    time, or none of the unused backup codes that the call has read. -/
def TwoFAThread.comparesWrong (totp : ℤ → String → String → Bool) (s : TwoFAStore) :
    TwoFAThread → Bool
  | compareTOTP t cleanCode _ => !Common.validateTOTPCode (totp s.now) t.secret cleanCode
  | compareBackup _ code backupCodes => backupCodes.all fun row => row.codeHash ≠ code
  | _ => true

/-- A login begins, with any code. -/
def BeginsLogin (s s' : TwoFAStore) (o : Option TwoFAThread) : Prop :=
  ∃ code, (TwoFACall.verify2FALogin code).begin s = (s', o)

/-- The next step of a login, after some time; a code that it compares is wrong. -/
def WrongStep (totp : ℤ → String → String → Bool) (s : TwoFAStore) (thread : TwoFAThread)
    (s' : TwoFAStore) (o : Option TwoFAThread) : Prop :=
  ∃ elapsed : ℕ, thread.comparesWrong totp (s.wait elapsed) = true ∧
    thread.next totp elapsed s = (s', o)

/-- Any number of logins with wrong codes, in any order of their steps. -/
abbrev WrongLoginRun (totp : ℤ → String → String → Bool) :
    Pool TwoFAStore TwoFAThread → Pool TwoFAStore TwoFAThread → Prop :=
  Interleaving.Run BeginsLogin (WrongStep totp)

/-- Logins with wrong codes, each of which waits until the one before has ended. -/
abbrev WrongLoginSerialRun (totp : ℤ → String → String → Bool) :
    Pool TwoFAStore TwoFAThread → Pool TwoFAStore TwoFAThread → Prop :=
  Interleaving.SerialRun BeginsLogin (WrongStep totp)

/-- The codes that were compared while the record was locked until `lockedUntil`, or not locked. -/
def TwoFAStore.comparedWith (s : TwoFAStore) (lockedUntil : Option ℤ) : List Comparison :=
  s.compared.filter fun c => c.lockedUntil = lockedUntil

lemma TwoFA.isLocked_eq_false {t : TwoFA} {now : ℤ} : t.isLocked now = false ↔
    ∀ time ∈ t.lockedUntil, time ≤ now := by
  cases h : t.lockedUntil <;> simp [TwoFA.isLocked, h]

lemma TwoFA.isLocked_of_le {t : TwoFA} {now now' : ℤ} (hle : now ≤ now')
    (h : t.isLocked now = false) :
    t.isLocked now' = false :=
  TwoFA.isLocked_eq_false.2 fun time htime => (TwoFA.isLocked_eq_false.1 h time htime).trans hle

namespace TwoFA

variable (t : TwoFA) (now : ℤ)

lemma failedAttempts_incrementFailedAttempts :
    (t.incrementFailedAttempts now).failedAttempts = t.failedAttempts + 1 := by
  rw [incrementFailedAttempts]
  split_ifs <;> rfl

lemma lockedUntil_incrementFailedAttempts : (t.incrementFailedAttempts now).lockedUntil =
      if Common.maxFailAttempts ≤ t.failedAttempts + 1 then some
        (now + Common.lockoutDuration * 1000000000)
      else t.lockedUntil := by
  rw [incrementFailedAttempts]
  split_ifs <;> rfl

end TwoFA

/-- Logins with wrong codes began in `start` with the record `t₀`, and have come to the record `t`:
    as long as it has the first lock, its counter is the number of codes that were compared. -/
structure Guarded (start : TwoFAStore) (t₀ : TwoFA) (s : TwoFAStore) (t : TwoFA) : Prop where
  now_le : start.now ≤ s.now
  refused : ∀ c ∈ s.compared, ∀ time ∈ c.lockedUntil, time ≤ c.time
  count : t.lockedUntil = t₀.lockedUntil ∧
    t.failedAttempts = (s.comparedWith t₀.lockedUntil).length ∧
      ((s.comparedWith t₀.lockedUntil).length : ℤ) < Common.maxFailAttempts ∨
    t.lockedUntil ≠ t₀.lockedUntil ∧ Common.maxFailAttempts ≤ t.failedAttempts ∧
      ((s.comparedWith t₀.lockedUntil).length : ℤ) ≤ Common.maxFailAttempts

namespace Guarded

variable {start s : TwoFAStore} {t₀ t : TwoFA} {code : String}

variable (h : Guarded start t₀ s t)
include h

lemma wait (elapsed : ℕ) : Guarded start t₀ (s.wait elapsed) t where
  now_le := h.now_le.trans (by simp [TwoFAStore.wait])
  refused := h.refused
  count := h.count

lemma length_le : ((s.comparedWith t₀.lockedUntil).length : ℤ) ≤ Common.maxFailAttempts := by
  rcases h.count with ⟨-, -, hlt⟩ | ⟨-, -, hle⟩
  · exact hlt.le
  · exact hle

lemma some_ne (hstart : t₀.isLocked start.now = false) :
    some (s.now + Common.lockoutDuration * 1000000000) ≠ t₀.lockedUntil := by
  intro heq
  have htime := TwoFA.isLocked_eq_false.1 hstart _ heq.symm
  have hle := h.now_le
  simp only [Common.lockoutDuration] at htime
  omega

lemma increment (hstart : t₀.isLocked start.now = false) (hstored : s.twoFA = some t)
    (hunlocked : t.isLocked s.now = false) (code : String) :
    Guarded start t₀ (s.compare code) (t.incrementFailedAttempts s.now) := by
  have hcompared : (s.compare code).comparedWith t₀.lockedUntil = s.comparedWith t₀.lockedUntil ++
        if t.lockedUntil = t₀.lockedUntil then [⟨code, s.now, t.lockedUntil⟩] else [] := by
    simp only [TwoFAStore.comparedWith, TwoFAStore.compare, hstored, filter_append,
      filter_singleton, bind_some, Bool.cond_decide]
  refine ⟨h.now_le, ?_, ?_⟩
  · intro c hc time htime
    rcases mem_append.1 hc with hc | hc
    · exact h.refused c hc time htime
    · rw [mem_singleton.1 hc, hstored] at htime ⊢
      exact TwoFA.isLocked_eq_false.1 hunlocked time htime
  · rw [hcompared, TwoFA.failedAttempts_incrementFailedAttempts,
      TwoFA.lockedUntil_incrementFailedAttempts]
    rcases h.count with ⟨hlock, hattempts, hlt⟩ | ⟨hlock, hattempts, hle⟩
    · rw [if_pos hlock, length_append, length_singleton]
      split_ifs with hmax
      · exact .inr ⟨h.some_ne hstart, hmax, by omega⟩
      · exact .inl ⟨hlock, by omega, by omega⟩
    · rw [if_neg hlock, append_nil, if_pos (by omega)]
      exact .inr ⟨h.some_ne hstart, by omega, hle⟩

end Guarded

namespace TwoFAThread

/-- A login with a wrong code that has come to this point, when no other one runs. -/
def GuardedBy (start : TwoFAStore) (t₀ : TwoFA) (s : TwoFAStore) : Option TwoFAThread → Prop
  | none | some (load _) => ∃ t, s.twoFA = some t ∧ Guarded start t₀ s t
  | some (checkTOTP t _ _) | some (checkBackup t _) => s.twoFA = some t ∧ Guarded start t₀ s t
  | some (compareTOTP t _ _) | some (findBackup t _) | some (compareBackup t _ _) =>
    s.twoFA = some t ∧ Guarded start t₀ s t ∧ t.isLocked s.now = false
  -- the record that is to be saved, in place of the stored one
  | some (update t _) => Guarded start t₀ s t
  | some (saveBackup _ _) => False

variable {start s s' : TwoFAStore} {t₀ : TwoFA} {thread : TwoFAThread} {o : Option TwoFAThread}

lemma GuardedBy.guarded (h : GuardedBy start t₀ s o) : ∃ t, Guarded start t₀ s t := by
  cases o with
  | none =>
    obtain ⟨t, -, hguarded⟩ := h
    exact ⟨t, hguarded⟩
  | some thread =>
    cases thread with
    | load code =>
      obtain ⟨t, -, hguarded⟩ := h
      exact ⟨t, hguarded⟩
    | update t backup => exact ⟨t, h⟩
    | checkTOTP t | checkBackup t => exact ⟨t, h.2⟩
    | compareTOTP t | findBackup t | compareBackup t => exact ⟨t, h.2.1⟩
    | saveBackup t row => exact h.elim

lemma GuardedBy.wait (h : GuardedBy start t₀ s (some thread)) (elapsed : ℕ) :
    GuardedBy start t₀ (s.wait elapsed) (some thread) := by
  have hnow : s.now ≤ (s.wait elapsed).now := by simp [TwoFAStore.wait]
  cases thread with
  | load code =>
    obtain ⟨t, ht, hguarded⟩ := h
    exact ⟨t, ht, hguarded.wait elapsed⟩
  | checkTOTP | checkBackup => exact ⟨h.1, h.2.wait elapsed⟩
  | compareTOTP | findBackup | compareBackup =>
    exact ⟨h.1, h.2.1.wait elapsed, TwoFA.isLocked_of_le hnow h.2.2⟩
  | update => exact Guarded.wait h elapsed
  | saveBackup => exact h

lemma guardedBy_of_step (hstart : t₀.isLocked start.now = false)
    (h : GuardedBy start t₀ s (some thread)) (hwrong : thread.comparesWrong totp s = true)
    (hstep : thread.step totp s = (s', o)) : GuardedBy start t₀ s' o := by
  cases thread with
  | load code =>
    obtain ⟨t, ht, hguarded⟩ := h
    cases hstep
    rw [ht, filter_some]
    split_ifs
    · rw [map_some, verify]
      split <;> exact ⟨ht, hguarded⟩
    · exact ⟨t, ht, hguarded⟩
  | checkTOTP t cleanCode code =>
    obtain ⟨ht, hguarded⟩ := h
    cases hstep
    split_ifs with hlocked
    · exact ⟨ht, hguarded⟩
    · exact ⟨ht, hguarded, Bool.eq_false_iff.2 hlocked⟩
  | compareTOTP t cleanCode code =>
    obtain ⟨ht, hguarded, hunlocked⟩ := h
    cases hstep
    have hinvalid : Common.validateTOTPCode (totp s.now) t.secret cleanCode = false := by
      simpa [comparesWrong] using hwrong
    rw [if_neg (Bool.eq_false_iff.1 hinvalid)]
    exact hguarded.increment hstart ht hunlocked cleanCode
  | update t backup =>
    cases hstep
    have hsaved : Guarded start t₀ { s with twoFA := some t } t := ⟨h.now_le, h.refused, h.count⟩
    cases backup with
    | none => exact ⟨t, rfl, hsaved⟩
    | some code => exact ⟨rfl, hsaved⟩
  | checkBackup t code =>
    obtain ⟨ht, hguarded⟩ := h
    cases hstep
    by_cases hlocked : t.isLocked s.now
    · rw [if_pos hlocked]
      exact ⟨t, ht, hguarded⟩
    · rw [if_neg hlocked]
      cases Common.validateBackupCode code with
      | true => exact ⟨ht, hguarded, Bool.eq_false_iff.2 hlocked⟩
      | false => exact ⟨t, ht, hguarded⟩
  | findBackup t code =>
    cases hstep
    exact h
  | compareBackup t code found =>
    obtain ⟨ht, hguarded, hunlocked⟩ := h
    cases hstep
    have hnone : found.find? (fun row => row.codeHash = code) = none := by
      simpa [comparesWrong] using hwrong
    rw [hnone]
    exact hguarded.increment hstart ht hunlocked code
  | saveBackup t row => exact h.elim

end TwoFAThread

/-- Of logins that wait for each other, at most `maxFailAttempts` compare a wrong code before the
    record is locked, and none while it is locked. -/
theorem wrongCodes_compared (totp : ℤ → String → String → Bool) (p q : Pool TwoFAStore TwoFAThread)
    (t : TwoFA) (hrun : WrongLoginSerialRun totp p q) (hstart : p.threads = [])
    (hrecord : p.shared.twoFA = some t) (hunlocked : t.isLocked p.shared.now = false)
    (hattempts : t.failedAttempts = 0) (hnone : p.shared.compared = []) :
    ((q.shared.comparedWith t.lockedUntil).length : ℤ) ≤ Common.maxFailAttempts ∧
      ∀ c ∈ q.shared.compared, ∀ time ∈ c.lockedUntil, time ≤ c.time := by
  have hguarded : Guarded p.shared t p.shared t := by
    refine ⟨le_rfl, ?_, .inl ⟨rfl, ?_, ?_⟩⟩
    · rw [hnone]
      exact fun _ hc => absurd hc not_mem_nil
    · rw [hattempts, TwoFAStore.comparedWith, hnone]
      rfl
    · rw [TwoFAStore.comparedWith, hnone]
      exact (by decide : (0 : ℤ) < Common.maxFailAttempts)
  have hend := hrun.invariant (TwoFAThread.GuardedBy p.shared t) ?_ ?_ ⟨none, hstart, t,
    hrecord, hguarded⟩
  · obtain ⟨o, -, ho⟩ := hend
    obtain ⟨t', ht'⟩ := TwoFAThread.GuardedBy.guarded ho
    exact ⟨ht'.length_le, ht'.refused⟩
  · rintro s s' o hs ⟨code, hcall⟩
    cases hcall
    exact hs
  · rintro s s' thread o h ⟨elapsed, hwrong, hmove⟩
    exact TwoFAThread.guardedBy_of_step hunlocked (h.wait elapsed) hwrong hmove

namespace WrongLogins

/-- The code `000000` is valid after ten minutes. -/
def delayed : ℤ → String → String → Bool := fun now code _ => code = "000000" && 600000000000 ≤ now

def record : TwoFA := { secret := "" }

def start : TwoFAStore where
  twoFA := some record
  backupCodes :=
    [{ id := 1, codeHash := "AAAA-AAAA", isUsed := true }, { id := 2, codeHash := "BBBB-BBBB" }]

def beginLogin (code : String) (s : TwoFAStore) : TwoFAStore × Option TwoFAThread :=
  (TwoFACall.verify2FALogin code).begin s

/-- The code that a step compares after the time `elapsed` is wrong. -/
def Wrong (elapsed : ℕ) (s : TwoFAStore) (thread : TwoFAThread) : Prop :=
  thread.comparesWrong delayed (s.wait elapsed) = true

instance (elapsed : ℕ) (s : TwoFAStore) (thread : TwoFAThread) :
    Decidable (Wrong elapsed s thread) :=
  inferInstanceAs (Decidable (_ = true))

lemma wrongStep (elapsed : ℕ) (s : TwoFAStore) (thread : TwoFAThread) (h : Wrong elapsed s thread) :
    WrongStep delayed s thread (thread.next delayed elapsed s).1
      (thread.next delayed elapsed s).2 :=
  ⟨elapsed, h, rfl⟩

/-- A login one second later, with all its steps. -/
def login (code : String) (steps : ℕ) : List (Interleaving.Action String ℕ) :=
  .call code :: .move 0 1000000000 :: replicate (steps - 1) (.move 0 0)

/-- Four logins with a code, one with a used backup code, and one that finds the record locked. -/
def inTurn : TwoFAStore × Option TwoFAThread :=
  (playSerial Wrong beginLogin (TwoFAThread.next delayed) (start, none)
    ((replicate 4 (login "000000" 5)).flatten ++ login "aaaa-aaaa" 5 ++ login "000000" 3)).getD
      (start, none)

/-- Six logins load the record, check the lock and compare, before the first of them saves. -/
def together : Option (Pool TwoFAStore TwoFAThread) :=
  playIf Wrong beginLogin (TwoFAThread.next delayed) ⟨start, []⟩
    (replicate 6 (.call "000000") ++ (range 6).flatMap fun n => replicate 3 (.move n 0))

def overlapping : Pool TwoFAStore TwoFAThread := together.getD ⟨start, []⟩

end WrongLogins

/-- After five wrong codes, the sixth is not compared. -/
theorem wrongCodes_compared_inTurn :
    WrongLogins.inTurn.2 = none ∧
      WrongLogins.inTurn.1.twoFA.bind TwoFA.lockedUntil = some 305000000000 ∧
      WrongLogins.inTurn.1.now = 6000000000 ∧
      WrongLogins.inTurn.1.compared.map Comparison.code =
        ["000000", "000000", "000000", "000000", "AAAA-AAAA"] ∧
      ((WrongLogins.inTurn.1.comparedWith none).length : ℤ) ≤ Common.maxFailAttempts ∧
      ∀ c ∈ WrongLogins.inTurn.1.compared, ∀ time ∈ c.lockedUntil, time ≤ c.time := by
  have hrun : WrongLoginSerialRun WrongLogins.delayed ⟨WrongLogins.start, []⟩
      ⟨WrongLogins.inTurn.1, WrongLogins.inTurn.2.toList⟩ :=
    serialRun_getD_play (fun code _ => ⟨code, rfl⟩) WrongLogins.wrongStep
      (WrongLogins.start, none) _
  refine ⟨by decide +kernel, by decide +kernel, by decide +kernel, by decide +kernel, ?_⟩
  exact wrongCodes_compared WrongLogins.delayed _ _ WrongLogins.record hrun rfl rfl rfl rfl rfl

/-- Six wrong codes are compared at once, although five lock the account. -/
theorem wrongCodes_overlapping :
    WrongLoginRun WrongLogins.delayed ⟨WrongLogins.start, []⟩ WrongLogins.overlapping ∧
      WrongLogins.start.twoFA = some WrongLogins.record ∧
      WrongLogins.record.isLocked WrongLogins.start.now = false ∧
        WrongLogins.record.failedAttempts = 0 ∧
      WrongLogins.start.compared = [] ∧
      (WrongLogins.overlapping.shared.comparedWith WrongLogins.record.lockedUntil).length = 6 := by
  have hplay : WrongLogins.together = some WrongLogins.overlapping := by decide +kernel
  exact ⟨run_of_playIf (fun code _ => ⟨code, rfl⟩) WrongLogins.wrongStep hplay, rfl, rfl, rfl,
    rfl, by decide +kernel⟩

end Allrouter
