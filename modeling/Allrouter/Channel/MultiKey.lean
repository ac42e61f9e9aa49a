import Allrouter.Channel.Row
import Allrouter.Library.Interleaving

/-!
# Channels with several keys

A channel with several keys keeps, in one document of its row (`ChannelInfo`), the status of
each key and the position of the polling. Without a memory cache every call loads the row
and works on what it has loaded: a selection saves the document to advance the position, and a
change of status saves the row.

The calls are threads over the row (`ChannelThread`), whose reads and writes interleave in
any way: a selection loads the row, reads the position once more, and saves; a change of status
loads the row and saves. The lock of a channel is left out, it only excludes schedules.

* `keyStatuses_of_next`: a save over the statuses that its call has loaded changes the status of
  the key that the call names, and no other;
* `keys_stay_disabled`: if every save is of this kind, a disabled key stays disabled until a
  call enables it, and no selection changes a status;
* `enabled_by_selection`: a selection that loaded the row before a key was disabled enables it.
-/

namespace Allrouter

open Interleaving Text ChannelInfo Channel Step Option

/-- Why there is no key. -/
inductive KeyError
  /-- "no keys available" -/
  | noKeys
  /-- "no enabled keys" -/
  | noEnabledKeys
  deriving DecidableEq

namespace Channel

variable (decodeArray : String → Option (List String)) (channel : Channel)

/-! ## Selecting a key -/

/-- The places of the enabled keys. -/
def enabledIdx : List ℕ :=
  (List.range (channel.getKeys decodeArray).length).filter fun i =>
    channel.channelInfo.getStatus i = .enabled

def keyAt (idx : ℕ) : String × ℕ := ((channel.getKeys decodeArray).getD idx "", idx)

/-- A selection, on the row that it has loaded: its answer, unless it has to poll. `pick` is
    drawn at random. -/
def answer (pick : ℕ) : Option (Except KeyError (String × ℕ)) :=
  let enabled := channel.enabledIdx decodeArray
  if !channel.channelInfo.isMultiKey then some (.ok (channel.key, 0))
  else if channel.getKeys decodeArray = [] then some (.error .noKeys)
  else if enabled = [] then some (.error .noEnabledKeys)
  else match channel.channelInfo.multiKeyMode with
    | .random => some (.ok (channel.keyAt decodeArray (enabled.getD (pick % enabled.length) 0)))
    | .polling => none
    | .other _ => some (.ok (channel.keyAt decodeArray (enabled.getD 0 0)))

/-- The indices from `start` on, once around. -/
def pollingOrder (start : ℤ) : List ℕ :=
  let n := (channel.getKeys decodeArray).length
  let first := if start < 0 ∨ (n : ℤ) ≤ start then 0 else start.toNat
  (List.range n).map fun i => (first + i) % n

/-- The next enabled key from the position `start` on, and the channel with the position after
    it. The position was just read; the statuses are those that were loaded with the row. -/
def poll (start : ℤ) : (String × ℕ) × Channel :=
  match (channel.pollingOrder decodeArray start).find? fun idx =>
      channel.channelInfo.getStatus idx = .enabled with
  | some idx =>
    let next := (idx + 1) % (channel.getKeys decodeArray).length
    (channel.keyAt decodeArray idx,
      { channel with channelInfo := { channel.channelInfo with multiKeyPollingIndex := next } })
  | none => (channel.keyAt decodeArray ((channel.enabledIdx decodeArray).getD 0 0), channel)

def saveChannelInfo (row : Channel) : Channel := { row with channelInfo := channel.channelInfo }

/-! ## Changing a status -/

def hasEnabledMultiKey (keys : List String) (info : ChannelInfo) : Bool :=
  (List.range keys.length).any fun i => info.getStatus i = .enabled

def setStatus (status : ChannelStatus) (reason : String) (now : ℤ) : Channel :=
  { channel with status := status, statusReason := some reason, statusTime := some now }

def keyIndex (usingKey : String) : Option ℕ := (channel.getKeys decodeArray).findIdx? (· = usingKey)

/-- Sets the status of a key, and disables a channel without enabled keys. -/
def handlerMultiKeyUpdate (usingKey : String) (status : ChannelStatus) (reason : String) (now : ℤ) :
    Channel :=
  if channel.getKeys decodeArray = [] then { channel with status := status }
  else match channel.keyIndex decodeArray usingKey with
    | none => if usingKey ≠ "" then channel else channel.setStatus status reason now
    | some idx =>
      let info := channel.channelInfo.setKeyStatus idx status reason now
      let updated := { channel with channelInfo := info }
      if !hasEnabledMultiKey (channel.getKeys decodeArray) info then
        updated.setStatus .autoDisabled "All keys are disabled" now
      else if status = .enabled then { updated with status := .enabled }
      else updated

/-- What a change of status makes of the row that it has loaded; none if it leaves it. -/
def updateStatus (usingKey : String) (status : ChannelStatus) (reason : String) (now : ℤ) :
    Option Channel :=
  if channel.status = status then none
  else if channel.channelInfo.isMultiKey then
    some (channel.handlerMultiKeyUpdate decodeArray usingKey status reason now)
  else some (channel.setStatus status reason now)

def saveWithoutKey (row : Channel) : Channel := { channel with key := row.key }

end Channel

/-! ## Calls -/

/-- What a call still has to do, with the row that it has loaded. -/
inductive ChannelThread
  /-- `GetNextEnabledKey`, with its row. -/
  | selecting (channel : Channel)
  /-- The same, with the polling position that it has read since. -/
  | polling (channel : Channel) (start : ℤ)
  /-- `UpdateChannelStatus`, with its row. -/
  | updating (channel : Channel) (usingKey : String) (status : ChannelStatus) (reason : String)

/-- The calls on the keys of a channel. -/
inductive ChannelCall
  | getNextEnabledKey
  | updateChannelStatus (usingKey : String) (status : ChannelStatus) (reason : String)

def ChannelCall.load (row : Channel) : ChannelCall → ChannelThread
  | getNextEnabledKey => .selecting row
  | updateChannelStatus usingKey status reason => .updating row usingKey status reason

namespace ChannelThread

variable (decodeArray : String → Option (List String))

/-- The next read or write of a call, at the time `env.1` and with the random number `env.2`. -/
def next (env : ℤ × ℕ) (row : Channel) : ChannelThread → Channel × Option ChannelThread
  | selecting channel =>
    match channel.answer decodeArray env.2 with
    | some _ => (row, none)
    | none => (row, some (.polling channel row.channelInfo.multiKeyPollingIndex))
  | polling channel start => ((channel.poll decodeArray start).2.saveChannelInfo row, none)
  | updating channel usingKey status reason =>
    match channel.updateStatus decodeArray usingKey status reason env.1 with
    | none => (row, none)
    | some updated => (updated.saveWithoutKey row, none)

def IsSelection : ChannelThread → Prop
  | selecting _ | polling _ _ => True
  | updating .. => False

/-- The key statuses that the call has loaded are those of the row. -/
def UpToDate (row : Channel) : ChannelThread → Prop
  | selecting _ => True
  | polling channel _ | updating channel .. =>
    channel.channelInfo.multiKeyStatusList = row.channelInfo.multiKeyStatusList

def Enables (i : ℕ) : ChannelThread → Prop
  | selecting _ | polling _ _ => False
  | updating channel usingKey status _ => status = .enabled ∧
    channel.keyIndex decodeArray usingKey = some i

end ChannelThread

open ChannelThread

section

variable {decodeArray : String → Option (List String)} {channel row row' : Channel}
  {thread : ChannelThread} {o : Option ChannelThread} {usingKey reason : String}
  {status : ChannelStatus} {now start : ℤ} {env : ℤ × ℕ} {i : ℕ}

lemma multiKeyStatusList_poll :
    (channel.poll decodeArray start).2.channelInfo.multiKeyStatusList =
      channel.channelInfo.multiKeyStatusList := by
  rw [poll]
  split
  · rfl
  · rfl

/-- A change of status leaves the document, or writes the status of the key that it names. -/
lemma channelInfo_handlerMultiKeyUpdate :
    (channel.handlerMultiKeyUpdate decodeArray usingKey status reason now).channelInfo =
      channel.channelInfo ∨
      ∃ idx, channel.keyIndex decodeArray usingKey = some idx ∧
        (channel.handlerMultiKeyUpdate decodeArray usingKey status reason now).channelInfo =
          channel.channelInfo.setKeyStatus idx status reason now := by
  rw [handlerMultiKeyUpdate]
  split
  · exact .inl rfl
  split
  case h_1 =>
    split
    · exact .inl rfl
    · exact .inl rfl
  case h_2 idx hidx =>
    refine .inr ⟨idx, hidx, ?_⟩
    dsimp only
    split_ifs
    · rfl
    · rfl
    · rfl

lemma channelInfo_updateStatus {updated : Channel}
    (h : channel.updateStatus decodeArray usingKey status reason now = some updated) :
    updated.channelInfo = channel.channelInfo ∨
      ∃ idx, channel.keyIndex decodeArray usingKey = some idx ∧
      updated.channelInfo = channel.channelInfo.setKeyStatus idx status reason now := by
  rw [updateStatus] at h
  split_ifs at h
  · obtain rfl := some.inj h
    exact channelInfo_handlerMultiKeyUpdate
  · obtain rfl := some.inj h
    exact .inl rfl

variable (hnext : thread.next decodeArray env row = (row', o)) (hrow : thread.UpToDate row)
include hnext hrow

lemma keyStatuses_of_next :
    row'.channelInfo.multiKeyStatusList = row.channelInfo.multiKeyStatusList ∨
      ∃ channel usingKey status reason idx, thread = .updating channel usingKey status reason ∧
        channel.keyIndex decodeArray usingKey = some idx ∧ row'.channelInfo.getStatus idx = status ∧
        ∀ i ≠ idx, row'.channelInfo.getStatus i = row.channelInfo.getStatus i := by
  cases thread with
  | selecting channel =>
    rw [next] at hnext
    split at hnext
    · cases hnext
      exact .inl rfl
    · cases hnext
      exact .inl rfl
  | polling channel start =>
    cases hnext
    exact .inl (multiKeyStatusList_poll.trans hrow)
  | updating channel usingKey status reason =>
    rw [next] at hnext
    split at hnext
    case h_1 =>
      cases hnext
      exact .inl rfl
    case h_2 updated hupdated =>
      cases hnext
      rcases channelInfo_updateStatus hupdated with hsame | ⟨idx, hidx, hinfo⟩
      · left
        rw [saveWithoutKey, hsame]
        exact hrow
      · refine .inr ⟨channel, usingKey, status, reason, idx, rfl, hidx, ?_, fun i hi => ?_⟩
        · rw [saveWithoutKey, hinfo]
          exact getStatus_setKeyStatus
        · rw [saveWithoutKey, hinfo, getStatus_setKeyStatus_of_ne hi, getStatus, getStatus, hrow]

/-- A disabled key stays disabled after a step of a call that is up to date and does not enable
    it. -/
lemma disabled_of_next (hi : ¬thread.Enables decodeArray i)
    (hdisabled : row.channelInfo.getStatus i ≠ .enabled) :
    row'.channelInfo.getStatus i ≠ .enabled := by
  rcases keyStatuses_of_next hnext hrow with hsame | ⟨channel, usingKey, status, reason, idx, rfl,
    hidx, hset, hkept⟩
  · rwa [getStatus, hsame, ← getStatus]
  · by_cases h : i = idx
    · subst h
      rw [hset]
      exact fun hstatus => hi ⟨hstatus, hidx⟩
    · rwa [hkept i h]

end

/-! ## Runs -/

abbrev ChannelRun (decodeArray : String → Option (List String))
    (P : Channel → ChannelThread → Prop) :
    Pool Channel ChannelThread → Pool Channel ChannelThread → Prop :=
  Interleaving.Run (fun row row' o => row' = row ∧ ∃ call : ChannelCall, o = some (call.load row))
    (fun row thread row' o => P row thread ∧ ∃ env, thread.next decodeArray env row = (row', o))

/-- As long as threads save rows that are up to date and none enables the key, it stays disabled; a
    selection leaves all statuses as they are. -/
theorem keys_stay_disabled (decodeArray : String → Option (List String)) :
    (∀ (p q : Pool Channel ChannelThread) (i : ℕ),
      ChannelRun decodeArray (fun row thread => thread.UpToDate row ∧
        ¬thread.Enables decodeArray i) p q →
      p.shared.channelInfo.getStatus i ≠ .enabled → q.shared.channelInfo.getStatus i ≠ .enabled) ∧
    (∀ (row : Channel) (thread : ChannelThread) (env : ℤ × ℕ), thread.UpToDate row →
      thread.IsSelection →
      (thread.next decodeArray env row).1.channelInfo.multiKeyStatusList =
        row.channelInfo.multiKeyStatusList) := by
  refine ⟨fun p q i hrun hdisabled => ?_, fun row thread env hrow hselection => ?_⟩
  case refine_2 =>
    rcases keyStatuses_of_next (Prod.mk.eta.symm) hrow with hsame | ⟨_, _, _, _, _, rfl, -⟩
    · exact hsame
    · exact hselection.elim
  refine (hrun.invariant (fun row => row.channelInfo.getStatus i ≠ .enabled) (fun _ _ => True) ?_ ?_
    ⟨hdisabled, fun _ _ => trivial⟩).1
  · rintro row row' o hrow ⟨rfl, -⟩
    exact ⟨hrow, fun _ _ => trivial, fun _ _ => trivial⟩
  · rintro row row' thread o hrow - ⟨⟨hupToDate, hnot⟩, env, hnext⟩
    exact ⟨disabled_of_next hnext hupToDate hnot hrow, fun _ _ => trivial, fun _ _ => trivial⟩

/-! ### A channel with two keys -/

namespace TwoKeys

def row : Channel where
  key := "sk-0\nsk-1"
  status := .enabled
  channelInfo := { isMultiKey := true, multiKeySize := 2, multiKeyMode := .polling }

def noArray : String → Option (List String) := fun _ => none

def disabling : ChannelThread := .updating row "sk-0" .autoDisabled "quota"

def disabled : Channel := (disabling.next noArray (100, 0) row).1

/-- The row after a selection has saved, which has loaded `loaded` before. -/
def selected (loaded : Channel) : Channel :=
  (next noArray (101, 0) disabled (.polling loaded disabled.channelInfo.multiKeyPollingIndex)).1

lemma disabling_next : disabling.next noArray (100, 0) row = (disabled, none) := by
  rw [disabled, disabling, next]
  split
  · rfl
  · rfl

lemma selection_run {P : Channel → ChannelThread → Prop} {loaded : Channel}
    (h : (loaded.answer noArray 0).isNone = true) (hread : P disabled (.selecting loaded))
    (hsave : P disabled (.polling loaded disabled.channelInfo.multiKeyPollingIndex)) :
    ChannelRun noArray P ⟨disabled, [.selecting loaded]⟩ ⟨selected loaded, []⟩ := by
  let polling : ChannelThread := .polling loaded disabled.channelInfo.multiKeyPollingIndex
  have hfirst : ChannelRun noArray P ⟨disabled, [.selecting loaded]⟩ ⟨disabled, [polling]⟩ :=
    .single (move (t := selecting loaded) (o := some polling) [] []
      ⟨hread, (101, 0), by rw [next, isNone_iff_eq_none.1 h]⟩)
  have hlast : ChannelRun noArray P ⟨disabled, [polling]⟩ ⟨selected loaded, []⟩ :=
    .single (move (t := polling) (o := none) [] [] ⟨hsave, (101, 0), rfl⟩)
  exact hfirst.trans hlast

end TwoKeys

/-- A selection after the first key was disabled. -/
theorem keys_stay_disabled_twoKeys : TwoKeys.disabled.channelInfo.getStatus 0 = .autoDisabled ∧
      (TwoKeys.selected TwoKeys.disabled).channelInfo.getStatus 0 ≠ .enabled ∧
      (TwoKeys.selected TwoKeys.disabled).channelInfo.multiKeyStatusList =
        TwoKeys.disabled.channelInfo.multiKeyStatusList := by
  have hdisabled : TwoKeys.disabled.channelInfo.getStatus 0 = .autoDisabled := by decide +kernel
  obtain ⟨hrun, hselection⟩ := keys_stay_disabled TwoKeys.noArray
  refine ⟨hdisabled, hrun ⟨TwoKeys.disabled, []⟩ ⟨TwoKeys.selected TwoKeys.disabled, []⟩ 0 ?_
    (by simp [hdisabled]),
    hselection TwoKeys.disabled (.polling TwoKeys.disabled _) (101, 0) rfl trivial⟩
  exact .head (call [] ⟨rfl, .getNextEnabledKey, rfl⟩)
    (TwoKeys.selection_run (by decide +kernel) ⟨trivial, fun h => h⟩ ⟨rfl, fun h => h⟩)

/-- A selection that has read the row before saves it after the key was disabled. -/
theorem enabled_by_selection :
    ∃ threads, ChannelRun TwoKeys.noArray (fun _ _ => True) ⟨TwoKeys.row, []⟩
      ⟨TwoKeys.disabled, threads⟩ ∧
      TwoKeys.disabled.channelInfo.getStatus 0 = .autoDisabled ∧
      ChannelRun TwoKeys.noArray (fun _ thread => thread.IsSelection) ⟨TwoKeys.disabled, threads⟩
        ⟨TwoKeys.selected TwoKeys.row, []⟩ ∧
          (TwoKeys.selected TwoKeys.row).channelInfo.getStatus 0 = .enabled := by
  refine ⟨[.selecting TwoKeys.row], ?_, by decide +kernel,
    TwoKeys.selection_run (by decide +kernel) trivial trivial, by decide +kernel⟩
  refine .head (call [] ⟨rfl, .getNextEnabledKey, rfl⟩) (.head
    (call _ ⟨rfl, .updateChannelStatus "sk-0" .autoDisabled "quota", rfl⟩) (.single ?_))
  exact move (t := TwoKeys.disabling) (o := none) [] [.selecting TwoKeys.row]
    ⟨trivial, (100, 0), TwoKeys.disabling_next⟩

end Allrouter
