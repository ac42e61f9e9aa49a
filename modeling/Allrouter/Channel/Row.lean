import Allrouter.Library.Table
import Allrouter.Library.Text

/-!
# Channels

The row of a channel (`Channel`): the columns that the relay reads when it selects a channel and a
key of it, and the document with the status of each key (`ChannelInfo`). The keys stand in one
text, each on a line of its own or as the items of a JSON array (`Channel.getKeys`).
-/

namespace Allrouter

open Text Function List

/-! ## The row of a channel -/

/-- The status of a channel, or of one of its keys. -/
inductive ChannelStatus
  | unknown
  | enabled
  | manuallyDisabled
  | autoDisabled
  | other (code : ℤ)
  deriving DecidableEq

/-- How the next key is picked. -/
inductive MultiKeyMode
  | random
  | polling
  | other (mode : String)
  deriving DecidableEq

/-- What a channel keeps of its keys. -/
structure ChannelInfo where
  isMultiKey : Bool
  multiKeySize : ℤ
  multiKeyStatusList : ℕ → Option ChannelStatus := fun _ => none
  multiKeyDisabledReason : ℕ → Option String := fun _ => none
  multiKeyDisabledTime : ℕ → Option ℤ := fun _ => none
  multiKeyPollingIndex : ℤ := 0
  multiKeyMode : MultiKeyMode

/-- The zero value; the maps of a document without several keys are nil. -/
def ChannelInfo.isZero (info : ChannelInfo) : Bool :=
  !info.isMultiKey && info.multiKeySize = 0 && info.multiKeyPollingIndex = 0 &&
    info.multiKeyMode = .other ""

/-- The columns of a channel that the calls read or write; of `other_info`, its two entries
    about the status. -/
structure Channel where
  key : String
  status : ChannelStatus
  channelInfo : ChannelInfo
  statusReason : Option String := none
  statusTime : Option ℤ := none
  id : ℤ := 0
  (models group : String := "")
  priority : Option ℤ := none
  weight : Option ℕ := none
  tag : Option String := none

namespace ChannelInfo

variable (info : ChannelInfo)

/-- The status of a key; one without an entry is enabled. -/
def getStatus (idx : ℕ) : ChannelStatus := (info.multiKeyStatusList idx).getD .enabled

/-- The document with another status of a key; one other than enabled comes with a reason. -/
def setKeyStatus (idx : ℕ) (status : ChannelStatus) (reason : String) (now : ℤ) : ChannelInfo :=
  if status = .enabled then
    { info with multiKeyStatusList := update info.multiKeyStatusList idx none }
  else
    { info with
      multiKeyStatusList := update info.multiKeyStatusList idx (some status)
      multiKeyDisabledReason := update info.multiKeyDisabledReason idx (some reason)
      multiKeyDisabledTime := update info.multiKeyDisabledTime idx (some now) }

variable {info} {idx i : ℕ} {status : ChannelStatus} {reason : String} {now : ℤ}

lemma multiKeyStatusList_setKeyStatus_of_ne (h : i ≠ idx) :
    (info.setKeyStatus idx status reason now).multiKeyStatusList i = info.multiKeyStatusList i := by
  rw [setKeyStatus]
  split_ifs
  · exact update_of_ne h _ _
  · exact update_of_ne h _ _

lemma getStatus_setKeyStatus_of_ne (h : i ≠ idx) :
    (info.setKeyStatus idx status reason now).getStatus i = info.getStatus i := by
  rw [getStatus, multiKeyStatusList_setKeyStatus_of_ne h, getStatus]

lemma getStatus_setKeyStatus : (info.setKeyStatus idx status reason now).getStatus idx =
    status := by
  rw [getStatus, setKeyStatus]
  split_ifs with h
  · simp [h]
  · simp

lemma isMultiKey_setKeyStatus (info : ChannelInfo) (idx : ℕ) (status : ChannelStatus)
    (reason : String) (now : ℤ) :
    (info.setKeyStatus idx status reason now).isMultiKey = info.isMultiKey ∧
      (info.setKeyStatus idx status reason now).multiKeySize = info.multiKeySize := by
  rw [setKeyStatus]
  split_ifs
  · exact ⟨rfl, rfl⟩
  · exact ⟨rfl, rfl⟩

end ChannelInfo

def trimLines (s : String) : String :=
  String.ofList ((s.toList.dropWhile (· = '\n')).rdropWhile (· = '\n'))

namespace Channel

-- The items of a text that is a JSON array, each as it is written there.
variable (decodeArray : String → Option (List String)) (channel : Channel)

def getKeys : List String :=
  if channel.key = "" then []
  else
    let trimmed := trimSpace channel.key
    let array := if trimmed.toList.head? = some '[' then decodeArray trimmed else none
    array.getD (split '\n' (trimLines channel.key))

def groups : List String := split ',' channel.group

def modelNames : List String := split ',' channel.models

def getPriority : ℤ := channel.priority.getD 0

def getWeight : ℕ := channel.weight.getD 0

/-- The columns that an update writes are those where the new value is not the zero value. -/
def updates (row : Channel) : Channel :=
  { row with
    key := if channel.key = "" then row.key else channel.key
    status := if channel.status = .unknown then row.status else channel.status
    channelInfo := if channel.channelInfo.isZero then row.channelInfo else channel.channelInfo
    statusReason := channel.statusReason.or row.statusReason
    statusTime := channel.statusTime.or row.statusTime
    models := if channel.models = "" then row.models else channel.models
    group := if channel.group = "" then row.group else channel.group
    priority := channel.priority.or row.priority
    weight := channel.weight.or row.weight
    tag := channel.tag.or row.tag }

/-- The columns that have a default other than the zero value. -/
def withDefaults : Channel :=
  { channel with
    status := if channel.status = .unknown then .enabled else channel.status
    group := if channel.group = "" then "default" else channel.group }

end Channel

/-- The rows, of which no two have one id. -/
structure ChannelTable where
  rows : List Channel
  keyed : Table.Keyed Channel.id rows

namespace ChannelTable

variable (table : ChannelTable)

def get? (id : ℤ) : Option Channel := Table.get? Channel.id id table.rows

def insert (channel : Channel) : Option ChannelTable :=
  if h : ∀ row ∈ table.rows, row.id ≠ channel.id then some ⟨table.rows ++ [channel],
    table.keyed.append_singleton h⟩
  else none

/-- The columns of a channel are written to its row, if there is one. -/
def update (channel : Channel) : ChannelTable where
  rows := table.rows.map fun row => if row.id = channel.id then channel.updates row else row
  keyed := by
    have hid : (table.rows.map fun row => if row.id = channel.id then channel.updates row
      else row).map Channel.id =
        table.rows.map Channel.id := by
      rw [map_map]
      refine map_congr_left fun row _ => ?_
      by_cases h : row.id = channel.id
      · simp [h, Channel.updates]
      · simp [h]
    rw [Table.Keyed, hid]
    exact table.keyed

def delete (ids : List ℤ) : ChannelTable where
  rows := table.rows.filter fun row => row.id ∉ ids
  keyed := table.keyed.sublist (filter_sublist.map _)

variable {table} {row channel : Channel}

lemma rows_insert {table' : ChannelTable} (h : table.insert channel = some table') :
    table'.rows = table.rows ++ [channel] := by
  rw [insert] at h
  split_ifs at h
  rw [← Option.some.inj h]

lemma get?_of_mem (h : row ∈ table.rows) : table.get? row.id = some row :=
  table.keyed.get?_of_mem h

lemma mem_update (h : row ∈ (table.update channel).rows) : row.id = channel.id ∨
    row ∈ table.rows := by
  obtain ⟨old, hold, rfl⟩ := mem_map.1 h
  by_cases hid : old.id = channel.id
  · exact .inl (by simp [hid, Channel.updates])
  · exact .inr (by simpa [hid] using hold)

lemma mem_delete {ids : List ℤ} (h : row ∈ (table.delete ids).rows) : row ∈ table.rows ∧
    row.id ∉ ids := by
  simpa using mem_filter.1 h

end ChannelTable

end Allrouter
