import Allrouter.Channel.MultiKey

/-!
# Managing the keys of a channel

The keys of a channel stand in one text (`Channel.getKeys`), their statuses in a document, by
position (`ChannelInfo`). An administrator appends keys or replaces them, deletes a key or those
that were disabled automatically, disables and enables them (`KeyOperation`); each time the keys
that are left are written as one text again, and the statuses are moved to their new positions.

* `keysOf_joinKeys`: keys that are not blank, have no line end and no bracket in front are found
  again in the text that is made of them;
* `Plain.managed`: from such keys, an operation leaves the keys it should, and every key that it
  does not address keeps its status;
* `keys_managed`: so does each of a series of operations;
* `keys_mismanaged`: keys are not deleted if all of them are disabled, and a replaced key takes the
  status of the one that stood in its place.
-/

namespace Allrouter

open Text List Channel Option

/-! ## The model -/

/-- How keys are read from JSON. -/
structure KeyCodec where
  /-- The items of an array, each as it is written there. -/
  decodeArray : String → Option (List String)
  /-- The items of an array of Vertex AI keys, texts without their quotes. -/
  vertexArrayKeys : String → Option (List String)

/-- What becomes of the keys that there are when new ones come. -/
inductive KeyMode
  | append
  | replace
  | other (mode : String)
  deriving DecidableEq

/-- The body of an update. -/
structure PatchChannel where
  channel : Channel
  multiKeyMode : Option MultiKeyMode := none
  keyMode : Option KeyMode := none
  /-- A Vertex AI channel whose keys are JSON. -/
  vertexJSON : Bool := false

/-- A request to manage the keys of a channel; the index of the key may be missing. -/
inductive MultiKeyManageRequest
  | disableKey (keyIndex : Option ℤ)
  | enableKey (keyIndex : Option ℤ)
  | enableAllKeys
  | disableAllKeys
  | deleteKey (keyIndex : Option ℤ)
  | deleteDisabledKeys
  | unsupported (action : String)

/-- The calls that change keys. -/
inductive KeyOperation
  | updateChannel (patch : PatchChannel)
  | manageMultiKeys (request : MultiKeyManageRequest)
  | updateChannelStatus (usingKey : String) (status : ChannelStatus) (reason : String) (now : ℤ)

/-- Why a call was refused. -/
inductive KeyManageError
  /-- "该渠道不是多密钥模式" -/
  | notMultiKey
  /-- "未指定要禁用的密钥索引" -/
  | noIndexToDisable
  /-- "未指定要启用的密钥索引" -/
  | noIndexToEnable
  /-- "未指定要删除的密钥索引" -/
  | noIndexToDelete
  /-- "密钥索引超出范围" -/
  | indexOutOfRange
  /-- "没有可禁用的密钥" -/
  | nothingToDisable
  /-- "不能删除最后一个密钥" -/
  | lastKey
  /-- "没有需要删除的自动禁用密钥" -/
  | nothingToDelete
  /-- "不支持的操作" -/
  | unsupported
  /-- "追加密钥解析失败: " -/
  | keysNotParsed
  deriving DecidableEq

def isArray (text : String) : Bool := (trimSpace text).toList.head? = some '['

variable (codec : KeyCodec)

/-! ### Saving -/

namespace Channel

variable (channel : Channel)

def updateKeys (text : String) : List String :=
  if text = "" then []
  else
    let array := if isArray text then (codec.decodeArray (trimSpace text)).getD [] else []
    if array = [] then split '\n' (trimLines text) else array

/-- The number of keys, without statuses beyond it. -/
def recount (row : Channel) : Channel :=
  if channel.channelInfo.isMultiKey then
    let keys := updateKeys codec (if channel.key = "" then row.key else channel.key)
    { channel with
      channelInfo :=
        { channel.channelInfo with
          multiKeySize := keys.length
          multiKeyStatusList := fun idx => if keys.length ≤ idx then none
            else channel.channelInfo.multiKeyStatusList idx } }
  else channel

def update (row : Channel) : Channel := (channel.recount codec row).updates row

end Channel

/-! ### Appending keys -/

def existingKeys (text : String) : List String :=
  if isArray text then (codec.decodeArray (trimSpace text)).getD [] else split '\n' (trimLines text)

def PatchChannel.newKeys (patch : PatchChannel) : Option (List String) :=
  if patch.vertexJSON then
    if isArray patch.channel.key then codec.vertexArrayKeys patch.channel.key
      else some [patch.channel.key]
  else some (((split '\n' patch.channel.key).map trimSpace).filter (· ≠ ""))

/-- The keys that are not blank and were not seen before, without the white space around them. -/
def unseenKeys : List String → List String → List String
  | _, [] => []
  | seen, key :: keys =>
    let normalized := trimSpace key
    if normalized = "" then unseenKeys seen keys
    else if normalized ∈ seen then unseenKeys seen keys
    else normalized :: unseenKeys (normalized :: seen) keys

/-- The new keys that are not there yet are appended. -/
def appendKeys (existing new : List String) : List String :=
  existing ++ unseenKeys ((existing.map trimSpace).filter (· ≠ "")) new

def joinKeys (keys : List String) : String := "\n".intercalate keys

/-- The document of the row, with the mode of the request. -/
def PatchChannel.info (patch : PatchChannel) (row : Channel) : ChannelInfo :=
  match patch.multiKeyMode with
  | none => row.channelInfo
  | some mode => { row.channelInfo with multiKeyMode := mode }

def PatchChannel.withKey (patch : PatchChannel) (row : Channel) (key : String) : Channel :=
  { patch.channel with id := row.id, key := key, channelInfo := patch.info row }

def updateChannel (patch : PatchChannel) (row : Channel) : Except KeyManageError Channel :=
  if patch.keyMode = some .append ∧ (patch.info row).isMultiKey ∧ row.key ≠ "" then
    match patch.newKeys codec with
    | none => .error .keysNotParsed
    | some new =>
      .ok ((patch.withKey row (joinKeys (appendKeys (existingKeys codec row.key) new))).update codec
      row)
  else .ok ((patch.withKey row patch.channel.key).update codec row)

/-! ### Managing keys -/

namespace ChannelInfo

variable (info : ChannelInfo)

/-- An index that is given and in range. -/
def checkIndex (missing : KeyManageError) (keyIndex : Option ℤ) : Except KeyManageError ℕ :=
  match keyIndex with
  | none => .error missing
  | some idx => if idx < 0 ∨ info.multiKeySize ≤ idx then .error .indexOutOfRange else .ok idx.toNat

def disableKey (idx : ℕ) : ChannelInfo :=
  { info with multiKeyStatusList := Function.update info.multiKeyStatusList idx (some
    .manuallyDisabled) }

def enableKey (idx : ℕ) : ChannelInfo :=
  { info with
    multiKeyStatusList := Function.update info.multiKeyStatusList idx none
    multiKeyDisabledTime := Function.update info.multiKeyDisabledTime idx none
    multiKeyDisabledReason := Function.update info.multiKeyDisabledReason idx none }

def enableAllKeys : ChannelInfo :=
  { info with
    multiKeyStatusList := fun _ => none
    multiKeyDisabledTime := fun _ => none
    multiKeyDisabledReason := fun _ => none }

/-- The indices of the enabled keys, as the document counts them. -/
def enabledKeys : List ℕ := (range info.multiKeySize.toNat).filter fun i =>
    info.getStatus i = .enabled

def disableAllKeys : ChannelInfo :=
  { info with
    multiKeyStatusList := fun i => if i ∈ info.enabledKeys then some .manuallyDisabled
      else info.multiKeyStatusList i }

/-- The document when only the keys at the indices `kept` are left, with the notes of those in
    `noted`. -/
def reindex (kept : List ℕ) (noted : ℕ → Bool) : ChannelInfo :=
  { info with
    multiKeySize := kept.length
    multiKeyStatusList := fun j => kept[j]?.bind fun i =>
      (info.multiKeyStatusList i).filter (· ≠ .enabled)
    multiKeyDisabledTime := fun j => kept[j]?.bind fun i =>
      if noted i then info.multiKeyDisabledTime i else none
    multiKeyDisabledReason := fun j => kept[j]?.bind fun i =>
      if noted i then info.multiKeyDisabledReason i else none }

end ChannelInfo

open ChannelInfo

def keptIndices (keys : List String) (keep : ℕ → Bool) : List ℕ := (range keys.length).filter keep

def keysAt (keys : List String) (indices : List ℕ) : List String :=
  indices.filterMap fun i => keys[i]?

namespace Channel

variable (channel : Channel)

def withInfo (info : ChannelInfo) : Channel := { channel with channelInfo := info }

/-- The keys that are kept, with the statuses moved along. -/
def keepKeys (keep noted : ℕ → Bool) : Channel :=
  let keys := channel.getKeys codec.decodeArray
  let kept := keptIndices keys keep
  { channel with key := joinKeys (keysAt keys kept), channelInfo :=
    channel.channelInfo.reindex kept noted }

/-- Every key but that at the index, with its notes. -/
def deleteKey (idx : ℕ) : Channel := channel.keepKeys codec (fun i => i ≠ idx) fun _ => true

/-- The keys that were not disabled automatically; only those that are disabled keep their notes. -/
def deleteDisabledKeys : Channel :=
  channel.keepKeys codec (fun i => channel.channelInfo.getStatus i ≠ .autoDisabled) fun i =>
    channel.channelInfo.getStatus i ≠ .enabled

end Channel

def manageMultiKeys (request : MultiKeyManageRequest) (row : Channel) :
    Except KeyManageError Channel :=
  let info := row.channelInfo
  let keys := row.getKeys codec.decodeArray
  if !info.isMultiKey then .error .notMultiKey
  else match request with
    | .disableKey keyIndex => do
      let idx ← info.checkIndex .noIndexToDisable keyIndex
      return (row.withInfo (info.disableKey idx)).update codec row
    | .enableKey keyIndex => do
      let idx ← info.checkIndex .noIndexToEnable keyIndex
      return (row.withInfo (info.enableKey idx)).update codec row
    | .enableAllKeys => .ok ((row.withInfo info.enableAllKeys).update codec row)
    | .disableAllKeys =>
      if info.enabledKeys = [] then .error .nothingToDisable
      else .ok ((row.withInfo info.disableAllKeys).update codec row)
    | .deleteKey keyIndex => do
      let idx ← info.checkIndex .noIndexToDelete keyIndex
      if keptIndices keys (fun i => i ≠ idx) = [] then .error .lastKey
      else return (row.deleteKey codec idx).update codec row
    | .deleteDisabledKeys =>
      if ∀ i < keys.length, info.getStatus i ≠ .autoDisabled then .error .nothingToDelete
      else .ok ((row.deleteDisabledKeys codec).update codec row)
    | .unsupported _ => .error .unsupported

namespace KeyOperation

def result (row : Channel) : KeyOperation → Except KeyManageError Channel
  | updateChannel patch => Allrouter.updateChannel codec patch row
  | manageMultiKeys request => Allrouter.manageMultiKeys codec request row
  | updateChannelStatus usingKey status reason now =>
    match row.updateStatus codec.decodeArray usingKey status reason now with
    | none => .ok row
    | some updated => .ok (updated.saveWithoutKey row)

/-- The row after an operation; one that fails leaves it as it is. -/
def run (row : Channel) (operation : KeyOperation) : Channel :=
  match operation.result codec row with
  | .error _ => row
  | .ok row' => row'

end KeyOperation

open KeyOperation

/-! ## Keys that are found again -/

/-- A key on one line, neither blank nor with a bracket in front. -/
def PlainKey (key : String) : Prop :=
  '\n' ∉ key.toList ∧ ∃ c ∈ (trimSpace key).toList.head?, c ≠ '['

instance (key : String) : Decidable (PlainKey key) :=
  decidable_of_iff ('\n' ∉ key.toList ∧ (trimSpace key).toList.head?.any (· ≠ '['))
    (by simp [PlainKey, Option.any_eq_true])

/-- Different plain keys, at least one. -/
structure PlainKeys (keys : List String) : Prop where
  ne_nil : keys ≠ []
  nodup : keys.Nodup
  plain : ∀ key ∈ keys, PlainKey key

def keysOf (text : String) : List String :=
  if text = "" then []
  else
    let array := if isArray text then codec.decodeArray (trimSpace text) else none
    array.getD (split '\n' (trimLines text))

/-- A text that stands for plain keys, and is not an array that cannot be read. -/
structure PlainText (text : String) : Prop where
  keys : PlainKeys (keysOf codec text)
  array : isArray text = true → (codec.decodeArray (trimSpace text)).isSome = true

section

variable {codec} {text : String} {keys : List String}

lemma getKeys_eq (channel : Channel) :
    channel.getKeys codec.decodeArray = keysOf codec channel.key := by
  simp [getKeys, keysOf, isArray]

variable {keep : ℕ → Bool} {key : String}

lemma PlainKey.ne_empty (h : PlainKey key) : key ≠ "" := by
  rintro rfl
  obtain ⟨-, c, hc, -⟩ := h
  simp [trimSpace, trimChars] at hc

lemma joinKeys_cons (key : String) (keys : List String) :
    ∃ rest, (joinKeys (key :: keys)).toList = key.toList ++ rest := by
  cases keys with
  | nil => exact ⟨[], by simp [joinKeys]⟩
  | cons key' keys => exact ⟨_, by rw [joinKeys, String.intercalate_cons_cons, String.toList_append,
    String.toList_append, append_assoc]⟩

lemma isArray_joinKeys (h : PlainKeys keys) : isArray (joinKeys keys) = false := by
  cases keys with
  | nil => exact absurd rfl h.ne_nil
  | cons key keys =>
    obtain ⟨rest, hrest⟩ := joinKeys_cons key keys
    obtain ⟨-, c, hc, hne⟩ := h.plain key mem_cons_self
    rw [head?_trimSpace] at hc
    rw [isArray, head?_trimSpace, hrest, find?_append, hc]
    simpa using hne

lemma joinKeys_last (hne : keys ≠ []) :
    ∃ front, ∃ key ∈ keys, (joinKeys keys).toList = front ++ key.toList := by
  induction keys with
  | nil => exact absurd rfl hne
  | cons key keys ih =>
    cases keys with
    | nil => exact ⟨[], key, mem_cons_self, by simp [joinKeys]⟩
    | cons key' keys =>
      obtain ⟨front, last, hlast, hfront⟩ := ih (cons_ne_nil _ _)
      refine ⟨key.toList ++ "\n".toList ++ front, last, mem_cons_of_mem _ hlast, ?_⟩
      rw [joinKeys, String.intercalate_cons_cons, String.toList_append, String.toList_append,
        ← joinKeys, hfront, append_assoc, append_assoc, append_assoc]

/-- The first and the last key are not empty and have no line end, so nothing is trimmed. -/
lemma trimLines_joinKeys (h : PlainKeys keys) : trimLines (joinKeys keys) = joinKeys keys := by
  have hnewline : ∀ key ∈ keys, ∀ c ∈ key.toList, c ≠ '\n' := fun key hkey c hc heq =>
    (h.plain key hkey).1 (heq ▸ hc)
  have hnonempty : ∀ key ∈ keys, key.toList ≠ [] := fun key hkey hnil =>
    (h.plain key hkey).ne_empty (String.toList_eq_nil_iff.1 hnil)
  have hfirst : (joinKeys keys).toList.dropWhile (· = '\n') = (joinKeys keys).toList := by
    obtain ⟨key, rest, rfl⟩ := exists_cons_of_ne_nil h.ne_nil
    obtain ⟨tail, htail⟩ := joinKeys_cons key rest
    obtain ⟨c, cs, hcs⟩ := exists_cons_of_ne_nil (hnonempty key mem_cons_self)
    have hc := hnewline key mem_cons_self c (by simp [hcs])
    rw [htail, hcs, cons_append, dropWhile_cons_of_neg (by simpa using hc)]
  have hlast : (joinKeys keys).toList.rdropWhile (· = '\n') = (joinKeys keys).toList := by
    obtain ⟨front, key, hkey, hfront⟩ := joinKeys_last h.ne_nil
    refine rdropWhile_eq_self_iff.2 fun hl => ?_
    have hgetLast : (joinKeys keys).toList.getLast hl =
        key.toList.getLast (hnonempty key hkey) := by
      simp only [hfront]
      exact getLast_append_of_ne_nil _ (hnonempty key hkey)
    rw [hgetLast]
    simpa using hnewline key hkey _ (getLast_mem _)
  rw [trimLines, hfirst, hlast, String.ofList_toList]

lemma joinKeys_ne_empty (h : PlainKeys keys) : joinKeys keys ≠ "" := by
  intro hempty
  obtain ⟨front, key, hkey, hfront⟩ := joinKeys_last h.ne_nil
  rw [hempty] at hfront
  exact (h.plain key hkey).ne_empty (String.toList_eq_nil_iff.1 (append_eq_nil_iff.1 hfront.symm).2)

lemma keysOf_joinKeys (h : PlainKeys keys) : keysOf codec (joinKeys keys) = keys := by
  rw [keysOf, if_neg (joinKeys_ne_empty h), isArray_joinKeys h, trimLines_joinKeys h]
  exact split_intercalate rfl h.ne_nil fun key hkey => (h.plain key hkey).1

lemma plainText_joinKeys (h : PlainKeys keys) : PlainText codec (joinKeys keys) where
  keys := by
    rw [keysOf_joinKeys h]
    exact h
  array harray := by
    rw [isArray_joinKeys h] at harray
    cases harray

lemma PlainText.ne_empty (h : PlainText codec text) : text ≠ "" := by
  rintro rfl
  exact h.keys.ne_nil rfl

lemma updateKeys_eq (h : PlainText codec text) : updateKeys codec text = keysOf codec text := by
  have hne := h.keys.ne_nil
  rw [keysOf, if_neg h.ne_empty] at hne ⊢
  rw [updateKeys, if_neg h.ne_empty]
  cases harray : isArray text with
  | false => simp
  | true =>
    obtain ⟨array, hsome⟩ := isSome_iff_exists.1 (h.array harray)
    simp only [harray, hsome, if_true, getD_some] at hne ⊢
    rw [if_neg hne]

lemma existingKeys_eq (h : PlainText codec text) : existingKeys codec text = keysOf codec text := by
  rw [existingKeys, keysOf, if_neg h.ne_empty]
  cases harray : isArray text with
  | false => simp
  | true =>
    obtain ⟨array, hsome⟩ := isSome_iff_exists.1 (h.array harray)
    simp [hsome]

/-! ### Keys that are left or added -/

lemma PlainKeys.sublist {keys' : List String} (h : PlainKeys keys) (hsub : keys'.Sublist keys)
    (hne : keys' ≠ []) :
    PlainKeys keys' where
  ne_nil := hne
  nodup := h.nodup.sublist hsub
  plain key hkey := h.plain key (hsub.subset hkey)

lemma keysAt_eq_map {indices : List ℕ} (h : ∀ i ∈ indices, i < keys.length) :
    keysAt keys indices = indices.map fun i => keys.getD i "" := by
  rw [← filterMap_eq_map]
  refine filterMap_congr fun i hi => ?_
  simp [getElem?_eq_getElem (h i hi)]

lemma lt_of_mem_keptIndices {i : ℕ} (h : i ∈ keptIndices keys keep) : i < keys.length :=
  mem_range.1 (mem_filter.1 h).1

lemma keysAt_sublist (keys : List String) (keep : ℕ → Bool) :
    (keysAt keys (keptIndices keys keep)).Sublist keys := by
  have hall : keys = (range keys.length).map fun i => keys.getD i "" := by
    refine ext_getElem (by simp) fun i hi _ => ?_
    simp [getElem?_eq_getElem hi]
  rw [keysAt_eq_map fun i => lt_of_mem_keptIndices]
  conv_rhs => rw [hall]
  exact filter_sublist.map _

lemma getElem?_keysAt {j : ℕ} (h : (keysAt keys (keptIndices keys keep))[j]? = some key) :
    ∃ i, (keptIndices keys keep)[j]? = some i ∧ keys[i]? = some key := by
  rw [keysAt_eq_map fun i => lt_of_mem_keptIndices, getElem?_map] at h
  obtain ⟨i, hi, rfl⟩ := map_eq_some_iff.1 h
  have hlt := lt_of_mem_keptIndices (mem_of_getElem? hi)
  exact ⟨i, hi, by simp [getElem?_eq_getElem hlt]⟩

lemma PlainKey.trimSpace (h : PlainKey key) : PlainKey (Text.trimSpace key) := by
  obtain ⟨hnewline, c, hc, hne⟩ := h
  refine ⟨fun hmem => hnewline ?_, c, by rwa [trimSpace_trimSpace], hne⟩
  rw [Text.trimSpace, String.toList_ofList] at hmem
  exact (dropWhile_suffix _).subset ((List.rdropWhile_prefix _ _).subset hmem)

/-- The keys that are added are trimmed ones of the request, different and not seen before. -/
lemma unseenKeys_spec (seen new : List String) : (unseenKeys seen new).Nodup ∧
    ∀ key ∈ unseenKeys seen new,
      key ∉ seen ∧ key ≠ "" ∧ ∃ key' ∈ new, key = Text.trimSpace key' := by
  induction new generalizing seen with
  | nil => exact ⟨nodup_nil, fun _ h => absurd h not_mem_nil⟩
  | cons first new ih =>
    have hlift {seen' : List String} (key : String)
        (h : key ∉ seen' ∧ key ≠ "" ∧ ∃ key' ∈ new, key = Text.trimSpace key') :
        key ∉ seen' ∧ key ≠ "" ∧ ∃ key' ∈ first :: new, key = Text.trimSpace key' := by
      obtain ⟨hseen, hempty, key', hkey', rfl⟩ := h
      exact ⟨hseen, hempty, key', mem_cons_of_mem _ hkey', rfl⟩
    rw [unseenKeys]
    split_ifs with hempty hseen
    · exact ⟨(ih seen).1, fun key hkey => hlift key ((ih seen).2 key hkey)⟩
    · exact ⟨(ih seen).1, fun key hkey => hlift key ((ih seen).2 key hkey)⟩
    · obtain ⟨hnodup, hspec⟩ := ih (Text.trimSpace first :: seen)
      refine ⟨nodup_cons.2 ⟨fun hmem => (hspec _ hmem).1 mem_cons_self, hnodup⟩, fun key hkey => ?_⟩
      rcases mem_cons.1 hkey with rfl | hkey
      · exact ⟨hseen, hempty, first, mem_cons_self, rfl⟩
      · obtain ⟨hnot, hrest⟩ := hlift key (hspec key hkey)
        exact ⟨fun hmem => hnot (mem_cons_of_mem _ hmem), hrest⟩

lemma PlainKeys.appendKeys {new : List String} (h : PlainKeys keys)
    (hnew : ∀ key ∈ new, PlainKey key) :
    PlainKeys (appendKeys keys new) := by
  obtain ⟨hnodup, hspec⟩ := unseenKeys_spec ((keys.map Text.trimSpace).filter (· ≠ "")) new
  refine ⟨by simp [Allrouter.appendKeys, h.ne_nil], nodup_append.2 ⟨h.nodup, hnodup,
    ?_⟩, fun key hkey => ?_⟩
  · -- a new key is trimmed, so it would have been seen among the old ones
    rintro key hkey _ hkey' rfl
    obtain ⟨hnot, hempty, key', -, htrim⟩ := hspec key hkey'
    refine hnot (mem_filter.2 ⟨mem_map.2 ⟨key, hkey, ?_⟩, by simpa using hempty⟩)
    rw [htrim, trimSpace_trimSpace]
  · rcases mem_append.1 hkey with hkey | hkey
    · exact h.plain key hkey
    · obtain ⟨-, -, key', hkey', rfl⟩ := hspec key hkey
      exact (hnew key' hkey').trimSpace

end

/-! ## What an operation does -/

/-- A channel with several keys, which are plain. -/
structure Plain (row : Channel) : Prop where
  multi : row.channelInfo.isMultiKey = true
  size : row.channelInfo.multiKeySize = (keysOf codec row.key).length
  text : PlainText codec row.key

section

variable {codec} {text : String} {row channel : Channel} {info : ChannelInfo}

variable (hmulti : channel.channelInfo.isMultiKey = true)
  (htext : (if channel.key = "" then row.key else channel.key) = text)
  (hplain : PlainText codec text)
include hmulti htext hplain

lemma update_eq : (channel.update codec row).key = text ∧ (channel.update codec row).channelInfo =
        { channel.channelInfo with
          multiKeySize := (keysOf codec text).length
          multiKeyStatusList := fun idx =>
            if (keysOf codec text).length ≤ idx then none
                else channel.channelInfo.multiKeyStatusList idx } := by
  rw [update, recount, if_pos hmulti, htext, updateKeys_eq hplain]
  refine ⟨htext, ?_⟩
  simp [updates, isZero, hmulti]

lemma plain_update : Plain codec (channel.update codec row) := by
  obtain ⟨hkey, hinfo⟩ := update_eq hmulti htext hplain
  exact ⟨by rw [hinfo, hmulti], by rw [hinfo, hkey], by rwa [hkey]⟩

lemma getStatus_update {j : ℕ} {key : String} (hj : (keysOf codec text)[j]? = some key) :
    (channel.update codec row).channelInfo.getStatus j = channel.channelInfo.getStatus j := by
  have hlt := (List.getElem?_eq_some_iff.1 hj).1
  rw [getStatus, (update_eq hmulti htext hplain).2, getStatus]
  dsimp only
  rw [if_neg (not_le.2 hlt)]

end

namespace KeyOperation

/-- The keys that the operation is meant to leave. -/
def intendedKeys (row : Channel) : KeyOperation → List String
  | updateChannel patch =>
    if patch.keyMode = some .append then
      ((patch.newKeys codec).map (appendKeys (row.getKeys codec.decodeArray))).getD
        (row.getKeys codec.decodeArray)
    else if patch.channel.key = "" then row.getKeys codec.decodeArray
    else keysOf codec patch.channel.key
  | manageMultiKeys (.deleteKey (some idx)) =>
    let keys := row.getKeys codec.decodeArray
    keysAt keys (keptIndices keys fun i => (i : ℤ) ≠ idx)
  | manageMultiKeys .deleteDisabledKeys =>
    let keys := row.getKeys codec.decodeArray
    keysAt keys (keptIndices keys fun i => row.channelInfo.getStatus i ≠ .autoDisabled)
  | _ => row.getKeys codec.decodeArray

/-- The key at an index is one whose status the operation is to change. -/
def Addresses (row : Channel) (i : ℕ) : KeyOperation → Prop
  | manageMultiKeys (.disableKey (some idx)) | manageMultiKeys (.enableKey (some idx)) =>
  (i : ℤ) = idx
  | manageMultiKeys .disableAllKeys | manageMultiKeys .enableAllKeys => True
  | updateChannelStatus usingKey _ _ _ => row.keyIndex codec.decodeArray usingKey = some i
  | _ => False

/-- The operation has left the keys it should, and a key that is there before and after has the
    status it had, unless it was addressed. -/
structure Managed (operation : KeyOperation) (before after : Channel) : Prop where
  keys : after.getKeys codec.decodeArray = operation.intendedKeys codec before
  statuses : ∀ i j key, (before.getKeys codec.decodeArray)[i]? = some key →
    (after.getKeys codec.decodeArray)[j]? = some key → ¬operation.Addresses codec before i →
    after.channelInfo.getStatus j = before.channelInfo.getStatus i

/-- New keys are plain, a key that stays when keys are replaced has the status of its new position,
    and not all keys that are there are to be deleted. -/
def Admissible (row : Channel) : KeyOperation → Prop
  | updateChannel patch =>
    if patch.keyMode = some .append then ∀ new, patch.newKeys codec = some new →
      ∀ key ∈ new, PlainKey key
    else patch.channel.key = "" ∨ PlainText codec patch.channel.key ∧
      ∀ i j key, (row.getKeys codec.decodeArray)[i]? = some key →
        (keysOf codec patch.channel.key)[j]? = some key →
        row.channelInfo.getStatus j = row.channelInfo.getStatus i
  | manageMultiKeys .deleteDisabledKeys =>
    ∃ i < (row.getKeys codec.decodeArray).length, row.channelInfo.getStatus i ≠ .autoDisabled
  | _ => True

end KeyOperation

/-- The keys are plain again, and as they should be. -/
abbrev KeyOperation.Serves (operation : KeyOperation) (before after : Channel) : Prop :=
  Plain codec after ∧ operation.Managed codec before after

section

variable {codec} {row after : Channel} {info : ChannelInfo}

variable {i j : ℕ} {operation : KeyOperation} {patch : PatchChannel}

lemma eq_of_getElem? {keys : List String} (h : keys.Nodup) {key : String} (hi : keys[i]? = some key)
    (hj : keys[j]? = some key) : i = j :=
  (List.getElem?_inj (List.getElem?_eq_some_iff.1 hi).1 h).1 (hi.trans hj.symm)

lemma PatchChannel.isMultiKey_info (patch : PatchChannel) (row : Channel) :
    (patch.info row).isMultiKey = row.channelInfo.isMultiKey := by
  rw [PatchChannel.info]
  split
  · rfl
  · rfl

lemma PatchChannel.getStatus_info (patch : PatchChannel) (row : Channel) (i : ℕ) :
    (patch.info row).getStatus i = row.channelInfo.getStatus i := by
  rw [PatchChannel.info]
  split
  · rfl
  · rfl

lemma ChannelInfo.getStatus_reindex {kept : List ℕ} {noted : ℕ → Bool} (h : kept[j]? = some i) :
    (info.reindex kept noted).getStatus j = info.getStatus i := by
  simp only [getStatus, reindex, h, bind_some]
  cases info.multiKeyStatusList i with
  | none => rfl
  | some status =>
    by_cases hstatus : status = .enabled
    · simp [hstatus, Option.filter]
    · simp [hstatus, Option.filter]

/-- What is saved is as it should be, if its text stands for the keys that should be left, and the
    document has the statuses. -/
lemma managed_update {channel : Channel} {text : String}
    (hmulti : channel.channelInfo.isMultiKey = true)
    (htext : (if channel.key = "" then row.key else channel.key) = text)
    (hplain : PlainText codec text) (hkeys : keysOf codec text = operation.intendedKeys codec row)
    (hstatuses : ∀ i j key, (keysOf codec row.key)[i]? = some key →
      (keysOf codec text)[j]? = some key →
      ¬operation.Addresses codec row i →
        channel.channelInfo.getStatus j = row.channelInfo.getStatus i) :
    operation.Serves codec row (channel.update codec row) := by
  refine ⟨plain_update hmulti htext hplain, ⟨?_, fun i j key hi hj hnot => ?_⟩⟩
  · rw [getKeys_eq, (update_eq hmulti htext hplain).1, hkeys]
  · rw [getKeys_eq, (update_eq hmulti htext hplain).1] at hj
    rw [getStatus_update hmulti htext hplain hj]
    exact hstatuses i j key (getKeys_eq row ▸ hi) hj hnot

section

variable (h : Plain codec row)
include h

lemma Plain.withInfo (info : ChannelInfo) (operation : KeyOperation)
    (hmulti : info.isMultiKey = true)
    (hkeys : operation.intendedKeys codec row = row.getKeys codec.decodeArray)
    (hstatuses : ∀ i, ¬operation.Addresses codec row i →
      info.getStatus i = row.channelInfo.getStatus i) :
    operation.Serves codec row ((row.withInfo info).update codec row) := by
  refine managed_update hmulti (ite_self _) h.text (by rw [hkeys, getKeys_eq]) fun i j key hi
    hj hnot => ?_
  rw [eq_of_getElem? h.text.keys.nodup hj hi]
  exact hstatuses i hnot

lemma Plain.keepKeys (keep noted : ℕ → Bool)
    (hne : keptIndices (row.getKeys codec.decodeArray) keep ≠ [])
    (hkeys : operation.intendedKeys codec row =
      keysAt (row.getKeys codec.decodeArray) (keptIndices (row.getKeys codec.decodeArray) keep)) :
    operation.Serves codec row ((row.keepKeys codec keep noted).update codec row) := by
  rw [getKeys_eq] at hne hkeys
  have hkept :
      PlainKeys (keysAt (keysOf codec row.key) (keptIndices (keysOf codec row.key) keep)) := by
    refine h.text.keys.sublist (keysAt_sublist _ keep) ?_
    rw [keysAt_eq_map fun i => lt_of_mem_keptIndices]
    simpa using hne
  have hkey : (row.keepKeys codec keep noted).key =
      joinKeys (keysAt (keysOf codec row.key) (keptIndices (keysOf codec row.key) keep)) := by
    rw [Channel.keepKeys, getKeys_eq]
  have hinfo : (row.keepKeys codec keep noted).channelInfo =
      row.channelInfo.reindex (keptIndices (keysOf codec row.key) keep) noted := by
    rw [Channel.keepKeys, getKeys_eq]
  refine managed_update (by rw [hinfo]; exact h.multi)
    (by rw [hkey, if_neg (joinKeys_ne_empty hkept)])
    (plainText_joinKeys hkept) (by rw [keysOf_joinKeys hkept, hkeys]) fun i j key hi hj _ => ?_
  rw [keysOf_joinKeys hkept] at hj
  -- the key stood at the index that was moved to `j`
  obtain ⟨i', hi', hkey'⟩ := getElem?_keysAt hj
  obtain rfl := eq_of_getElem? h.text.keys.nodup hi hkey'
  rw [hinfo]
  exact getStatus_reindex hi'

lemma Plain.withKey {text : String} (hplain : PlainText codec text)
    (hkeys : keysOf codec text = (KeyOperation.updateChannel patch).intendedKeys codec row)
    (hstatuses : ∀ i j key, (keysOf codec row.key)[i]? = some key →
      (keysOf codec text)[j]? = some key →
      row.channelInfo.getStatus j = row.channelInfo.getStatus i) :
    (KeyOperation.updateChannel patch).Serves codec row
      ((patch.withKey row text).update codec row) := by
  have htext : (if (patch.withKey row text).key = "" then row.key
      else (patch.withKey row text).key) = text :=
    if_neg hplain.ne_empty
  refine managed_update ((PatchChannel.isMultiKey_info patch row).trans h.multi) htext
    hplain hkeys ?_
  intro i j key hi hj _
  exact (PatchChannel.getStatus_info patch row j).trans (hstatuses i j key hi hj)

lemma Plain.appendKeys {new : List String}
    (hmode : patch.keyMode = some .append) (hnew : patch.newKeys codec = some new)
    (hplain : ∀ key ∈ new, PlainKey key) :
    (KeyOperation.updateChannel patch).Serves codec row
      ((patch.withKey row (joinKeys (Allrouter.appendKeys (existingKeys codec row.key) new))).update
        codec row) := by
  rw [existingKeys_eq h.text]
  have hkeys := h.text.keys.appendKeys hplain
  refine h.withKey (plainText_joinKeys hkeys) ?_ fun i j key hi hj => ?_
  · rw [keysOf_joinKeys hkeys, KeyOperation.intendedKeys, if_pos hmode, hnew, getKeys_eq]
    rfl
  · rw [keysOf_joinKeys hkeys] at hj
    -- the old keys stand in front
    have hi' : (Allrouter.appendKeys (keysOf codec row.key) new)[i]? = some key := by
      rw [Allrouter.appendKeys, List.getElem?_append_left (List.getElem?_eq_some_iff.1 hi).1, hi]
    rw [eq_of_getElem? hkeys.nodup hj hi']

lemma Plain.replaceKeys (hmode : patch.keyMode ≠ some .append)
    (hadmissible : (KeyOperation.updateChannel patch).Admissible codec row) :
    (KeyOperation.updateChannel patch).Serves codec row
      ((patch.withKey row patch.channel.key).update codec row) := by
  rw [KeyOperation.Admissible, if_neg hmode] at hadmissible
  rcases hadmissible with hempty | ⟨hplain, hstatuses⟩
  · -- without a key the row keeps its text
    have hmulti := (PatchChannel.isMultiKey_info patch row).trans h.multi
    refine managed_update hmulti (if_pos hempty) h.text ?_ fun i j key hi hj _ => ?_
    · rw [KeyOperation.intendedKeys, if_neg hmode, if_pos hempty, getKeys_eq]
    · rw [eq_of_getElem? h.text.keys.nodup hj hi]
      exact PatchChannel.getStatus_info patch row i
  · rw [getKeys_eq] at hstatuses
    refine h.withKey hplain ?_ hstatuses
    rw [KeyOperation.intendedKeys, if_neg hmode, if_neg hplain.ne_empty]

lemma Plain.updateChannel (hadmissible : (KeyOperation.updateChannel patch).Admissible codec row)
    (hok : Allrouter.updateChannel codec patch row = .ok after) :
    (KeyOperation.updateChannel patch).Serves codec row after := by
  rw [Allrouter.updateChannel] at hok
  by_cases hmode : patch.keyMode = some .append
  · rw [if_pos ⟨hmode, (PatchChannel.isMultiKey_info patch row).trans h.multi,
      h.text.ne_empty⟩] at hok
    rw [KeyOperation.Admissible, if_pos hmode] at hadmissible
    cases hnew : patch.newKeys codec with
    | none =>
      rw [hnew] at hok
      cases hok
    | some new =>
      rw [hnew] at hok
      cases hok
      exact h.appendKeys hmode hnew (hadmissible new hnew)
  · rw [if_neg fun hif => hmode hif.1] at hok
    cases hok
    exact h.replaceKeys hmode hadmissible

end

lemma ChannelInfo.of_checkIndex_bind {α : Type} {missing : KeyManageError} {keyIndex : Option ℤ}
    {f : ℕ → Except KeyManageError α} {a : α}
    (h : (info.checkIndex missing keyIndex >>= f) = .ok a) :
    ∃ idx : ℕ, keyIndex = some (idx : ℤ) ∧ f idx = .ok a := by
  cases keyIndex with
  | none => cases h
  | some idx =>
    rw [checkIndex] at h
    split_ifs at h with hrange
    · cases h
    · exact ⟨idx.toNat, by rw [Int.toNat_of_nonneg (by omega)], h⟩

lemma Plain.manageMultiKeys (h : Plain codec row) {request : MultiKeyManageRequest}
    (hadmissible : (KeyOperation.manageMultiKeys request).Admissible codec row)
    (hok : Allrouter.manageMultiKeys codec request row = .ok after) :
    (KeyOperation.manageMultiKeys request).Serves codec row after := by
  simp only [Allrouter.manageMultiKeys, h.multi] at hok
  cases request with
  | disableKey keyIndex | enableKey keyIndex =>
    obtain ⟨idx, rfl, hupdate⟩ := of_checkIndex_bind hok
    cases hupdate
    refine h.withInfo _ _ h.multi rfl fun i hi => ?_
    have hne : i ≠ idx := fun heq => hi (by simp [KeyOperation.Addresses, heq])
    simp [getStatus, disableKey, enableKey, Function.update_of_ne hne]
  | enableAllKeys =>
    cases hok
    exact h.withInfo _ _ h.multi rfl fun i hi => absurd trivial hi
  | disableAllKeys =>
    dsimp only at hok
    split_ifs at hok
    cases hok
    exact h.withInfo _ _ h.multi rfl fun i hi => absurd trivial hi
  | deleteKey keyIndex =>
    obtain ⟨idx, rfl, hupdate⟩ := of_checkIndex_bind hok
    split_ifs at hupdate with hkept
    cases hupdate
    refine h.keepKeys _ _ hkept ?_
    simp [KeyOperation.intendedKeys]
  | deleteDisabledKeys =>
    dsimp only at hok
    split_ifs at hok
    cases hok
    obtain ⟨i, hi, hstatus⟩ := hadmissible
    refine h.keepKeys _ _ (ne_nil_of_mem (a := i) ?_) rfl
    exact mem_filter.2 ⟨mem_range.2 hi, by simpa using hstatus⟩
  | unsupported action =>
    cases hok

lemma Plain.updateChannelStatus (h : Plain codec row) {usingKey reason : String}
    {status : ChannelStatus} {now : ℤ} {updated : Channel}
    (hupdated : row.updateStatus codec.decodeArray usingKey status reason now = some updated) :
    (updateChannelStatus usingKey status reason now).Serves codec row
      (updated.saveWithoutKey row) := by
  have hkeys : (updated.saveWithoutKey row).getKeys codec.decodeArray =
    row.getKeys codec.decodeArray := rfl
  have hplain (hmulti : updated.channelInfo.isMultiKey = row.channelInfo.isMultiKey)
      (hsize : updated.channelInfo.multiKeySize = row.channelInfo.multiKeySize) :
      Plain codec (updated.saveWithoutKey row) := ⟨hmulti.trans h.multi, hsize.trans h.size, h.text⟩
  have hsame {i j : ℕ} {key : String} (hi : (row.getKeys codec.decodeArray)[i]? = some key)
      (hj : (row.getKeys codec.decodeArray)[j]? = some key) : j = i := by
    rw [getKeys_eq] at hi hj
    exact eq_of_getElem? h.text.keys.nodup hj hi
  rcases channelInfo_updateStatus hupdated with hinfo | ⟨idx, hidx, hinfo⟩
  · refine ⟨hplain (by rw [hinfo]) (by rw [hinfo]), rfl, fun i j key hi hj _ => ?_⟩
    rw [hsame hi hj, saveWithoutKey, hinfo]
  · obtain ⟨hmulti, hsize⟩ :=
      ChannelInfo.isMultiKey_setKeyStatus row.channelInfo idx status reason now
    refine ⟨hplain (by rw [hinfo, hmulti]) (by rw [hinfo, hsize]), rfl,
      fun i j key hi hj hnot => ?_⟩
    have hne : i ≠ idx := fun heq => hnot (heq ▸ hidx)
    rw [hsame hi hj, saveWithoutKey, hinfo, getStatus_setKeyStatus_of_ne hne]

lemma Plain.managed (h : Plain codec row) (hadmissible : operation.Admissible codec row)
    (hok : operation.result codec row = .ok after) : operation.Serves codec row after := by
  cases operation with
  | updateChannel patch => exact h.updateChannel hadmissible hok
  | manageMultiKeys request => exact h.manageMultiKeys hadmissible hok
  | updateChannelStatus usingKey status reason now =>
    rw [result] at hok
    split at hok
    case h_1 =>
      cases hok
      refine ⟨h, rfl, fun i j key hi hj _ => ?_⟩
      rw [getKeys_eq] at hi hj
      rw [eq_of_getElem? h.text.keys.nodup hj hi]
    case h_2 updated hupdated =>
      cases hok
      exact h.updateChannelStatus hupdated

lemma Plain.run (h : Plain codec row) (hadmissible : operation.Admissible codec row) :
    Plain codec (operation.run codec row) ∧
      ((∃ e, operation.result codec row = .error e ∧ operation.run codec row = row) ∨
        operation.Managed codec row (operation.run codec row)) := by
  rw [KeyOperation.run]
  cases hresult : operation.result codec row with
  | error e => exact ⟨h, .inl ⟨e, rfl, rfl⟩⟩
  | ok after => exact ⟨(h.managed hadmissible hresult).1, .inr (h.managed hadmissible hresult).2⟩

end

/-! ## A series of operations -/

/-- Each operation is admissible when its turn comes. -/
def AllAdmissible : Channel → List KeyOperation → Prop
  | _, [] => True
  | row, operation :: operations => operation.Admissible codec row ∧
    AllAdmissible (operation.run codec row) operations

def runAll (row : Channel) (operations : List KeyOperation) : Channel :=
  operations.foldl (run codec) row

/-- Along any list of admissible operations, each one fails and changes nothing, or it does to the
    keys and to their statuses what it is for. -/
theorem keys_managed (codec : KeyCodec) (row : Channel) (hrow : Plain codec row)
    (operations : List KeyOperation) (hoperations : AllAdmissible codec row operations) (n : ℕ)
    (operation : KeyOperation) (hn : operations[n]? = some operation) :
    (∃ e, operation.result codec (runAll codec row (operations.take n)) = .error e ∧
      runAll codec row (operations.take (n + 1)) = runAll codec row (operations.take n)) ∨
    operation.Managed codec (runAll codec row (operations.take n))
      (runAll codec row (operations.take (n + 1))) := by
  induction operations generalizing row n with
  | nil => cases hn
  | cons first operations ih =>
    obtain ⟨hplain, hfirst⟩ := hrow.run hoperations.1
    cases n with
    | zero =>
      cases hn
      exact hfirst
    | succ n => exact ih (first.run codec row) hplain hoperations.2 n hn

/-! ### Two keys -/

namespace TwoKeys

def lines : KeyCodec := ⟨noArray, noArray⟩

lemma plain_row : Plain lines row where
  multi := rfl
  size := by decide +kernel
  text := ⟨⟨by decide +kernel, by decide +kernel, by decide +kernel⟩, by decide +kernel⟩

def patch (key : String) (keyMode : KeyMode) : PatchChannel where
  channel := { row with key := key }
  keyMode := some keyMode

def operations : List KeyOperation :=
  [.manageMultiKeys (.disableKey (some 0)), .updateChannel (patch "sk-2" .append),
    .manageMultiKeys (.deleteKey (some 1))]

def withStatuses (first second : ChannelStatus) : Channel :=
  row.withInfo
    { row.channelInfo with
      multiKeyStatusList := fun i => if i = 0 then some first else some second }

end TwoKeys

/-- A key is disabled, one is appended, and one deleted. -/
theorem keys_managed_twoKeys :
    (runAll TwoKeys.lines TwoKeys.row TwoKeys.operations).getKeys TwoKeys.noArray =
      ["sk-0", "sk-2"] ∧
      KeyOperation.Managed TwoKeys.lines (.manageMultiKeys (.deleteKey (some 1)))
        (runAll TwoKeys.lines TwoKeys.row (TwoKeys.operations.take 2))
        (runAll TwoKeys.lines TwoKeys.row TwoKeys.operations) := by
  have hadmissible : AllAdmissible TwoKeys.lines TwoKeys.row TwoKeys.operations := by
    refine ⟨trivial, ?_, trivial, trivial⟩
    intro new hnew
    cases hnew
    decide +kernel
  refine ⟨by decide +kernel, ?_⟩
  rcases keys_managed TwoKeys.lines TwoKeys.row TwoKeys.plain_row TwoKeys.operations hadmissible
      2 _ rfl with
    ⟨e, herror, -⟩ | h
  · have hok : (result TwoKeys.lines (runAll TwoKeys.lines TwoKeys.row (TwoKeys.operations.take 2))
        (.manageMultiKeys (.deleteKey (some 1)))).isOk = true := by decide +kernel
    rw [herror] at hok
    cases hok
  · exact h

/-- Where all keys are disabled, deleting those leaves them all, enabled; and keys that are replaced
    have the statuses of their places. -/
theorem keys_mismanaged :
    let disabled := TwoKeys.withStatuses .autoDisabled .autoDisabled
    let deleted := run TwoKeys.lines disabled (.manageMultiKeys .deleteDisabledKeys)
    let replaced := run TwoKeys.lines (TwoKeys.withStatuses .autoDisabled .enabled)
      (.updateChannel (TwoKeys.patch "sk-1\nsk-0" .replace))
    (intendedKeys TwoKeys.lines disabled (.manageMultiKeys .deleteDisabledKeys) = [] ∧
      deleted.getKeys TwoKeys.noArray = ["sk-0", "sk-1"] ∧
        deleted.channelInfo.getStatus 0 = .enabled) ∧
    replaced.getKeys TwoKeys.noArray = ["sk-1", "sk-0"] ∧
      replaced.channelInfo.getStatus 0 = .autoDisabled ∧
      replaced.channelInfo.getStatus 1 = .enabled :=
  ⟨⟨by decide +kernel, by decide +kernel, by decide +kernel⟩, by decide +kernel, by decide +kernel,
    by decide +kernel⟩

end Allrouter
