import Allrouter.Channel.Row
import Allrouter.Library.Runtime

/-!
# The cache of channels

The server keeps all channels in memory (`ChannelCache`), with an index from group and model to
the ids of the enabled channels. `initChannelCache` fills it from the rows that it has read of the
two tables, a change of status takes the id out of every slice of the index, and
`getRandomSatisfiedChannel` selects by priority and weight among the ids of a slice.

* `ids_initChannelCache`: up to their order, the ids in a slice are those of the enabled rows, one
  for each time that the group and the model are in their lists;
* `outcome_getRandomSatisfiedChannel`: only a channel of the slice is selected;
* `getRandomSatisfiedChannel_of_disabled`: a channel whose lists name no group and no model twice
  when it is loaded as enabled is not selected once its status was changed;
* `disabled_selected`: a channel that names a model twice is;
* `draws_by_weight_iff`: the channels of a priority are drawn in proportion to their weights,
  exactly if those with a weight are listed equally often.
-/

namespace Allrouter

open Runtime Text Function Option

/-! ## The model -/

/-- Which channel serves which model in which group. -/
structure Ability where
  (group model : String)
  channelId : ℤ
  enabled : Bool
  priority : Option ℤ
  weight : ℕ
  tag : Option String
  deriving DecidableEq

/-- From group and model to ids. The map of a group is nil if the group has not been made. -/
abbrev ChannelIndex := String → Option (String → List ℤ)

/-- The enabled channels by group and model, and all of them by id. -/
structure ChannelCache where
  group2model2channels : ChannelIndex
  channelsIDM : ℤ → Option Channel

/-- How a slice of ids is sorted by descending priority. The order of equal ones is open. -/
structure SortSlice where
  sort (priority : ℤ → ℤ) (ids : List ℤ) : List ℤ
  perm (priority : ℤ → ℤ) (ids : List ℤ) : (sort priority ids).Perm ids
  ordered (priority : ℤ → ℤ) (ids : List ℤ) : (sort priority ids).Pairwise fun i j =>
    priority j ≤ priority i

namespace ChannelIndex

def ids (index : ChannelIndex) (group model : String) : List ℤ :=
  ((index group).map fun models => models model).getD []

/-- The groups that have abilities, without any channel. -/
def ofGroups (abilities : List Ability) : ChannelIndex := fun group =>
  if ∃ ability ∈ abilities, ability.group = group then some fun _ => [] else none

/-- A write to the map of a group that has not been made panics. -/
def add (index : ChannelIndex) (group model : String) (id : ℤ) :
    Except (Fault Empty) ChannelIndex :=
  match index group with
  | none => .error (.panic .nilMap)
  | some models =>
    .ok (update index group (some (update models model (models model ++ [id]))))

def addChannel (index : ChannelIndex) (channel : Channel) : Except (Fault Empty) ChannelIndex :=
  if channel.status ≠ .enabled then .ok index
  else channel.groups.foldlM (fun index group =>
    channel.modelNames.foldlM (fun index model => index.add group model channel.id) index) index

/-- The comparison of two ids reads the priorities of their channels, which are there
    (`channelsById_of_mem_ids`). -/
def sorted (sorting : SortSlice) (channels : ℤ → Option Channel) (index : ChannelIndex) :
    ChannelIndex := fun group =>
  (index group).map fun models model =>
    sorting.sort (fun id => ((channels id).map Channel.getPriority).getD 0) (models model)

end ChannelIndex

open ChannelIndex

/-- The channels by id; of two rows with one id the later. -/
def channelsById (channels : List Channel) : ℤ → Option Channel :=
  channels.foldl (fun byId channel => update byId channel.id (some channel)) fun _ => none

/-- The polling position of the channel that was cached before, if both poll. -/
def Channel.keepPollingIndex (channel : Channel) (old : Option Channel) : Channel :=
  let polls (info : ChannelInfo) : Bool := info.isMultiKey && info.multiKeyMode = .polling
  match old with
  | none => channel
  | some old =>
    if polls channel.channelInfo && polls old.channelInfo then
      { channel with
        channelInfo :=
          { channel.channelInfo with multiKeyPollingIndex := old.channelInfo.multiKeyPollingIndex }
          }
    else channel

/-- The cache after the rows of both tables were read. -/
def initChannelCache (sorting : SortSlice) (channels : List Channel) (abilities : List Ability)
    (old : ChannelCache) :
    Except (Fault Empty) ChannelCache := do
  let index ← channels.foldlM addChannel (ofGroups abilities)
  return {
    group2model2channels := index.sorted sorting (channelsById channels)
    channelsIDM := fun id => (channelsById channels id).map fun channel =>
      channel.keepPollingIndex (old.channelsIDM id) }

namespace ChannelCache

variable (cache : ChannelCache)

/-- Of each slice, the first occurrence of the id is removed. -/
def cacheUpdateChannelStatus (id : ℤ) (status : ChannelStatus) : ChannelCache where
  channelsIDM := update cache.channelsIDM id
    ((cache.channelsIDM id).map fun channel => { channel with status := status })
  group2model2channels :=
    if status = .enabled then cache.group2model2channels
    else fun group => (cache.group2model2channels group).map fun models model =>
      (models model).erase id

def cacheUpdateChannel (channel : Channel) : ChannelCache :=
  { cache with channelsIDM := update cache.channelsIDM channel.id (some channel) }

end ChannelCache

open ChannelCache

/-! ### Selecting a channel -/

def handleThinkingBudgetModel (name start wildcard : String) : String :=
  if startsWith start name ∧ contains "-thinking-" name then wildcard else name

def formatMatchingModelName (name : String) : String :=
  let name :=
    if startsWith "gemini-2.5-flash-lite" name then
      handleThinkingBudgetModel name "gemini-2.5-flash-lite" "gemini-2.5-flash-lite-thinking-*"
    else if startsWith "gemini-2.5-flash" name then
      handleThinkingBudgetModel name "gemini-2.5-flash" "gemini-2.5-flash-thinking-*"
    else if startsWith "gemini-2.5-pro" name then
      handleThinkingBudgetModel name "gemini-2.5-pro" "gemini-2.5-pro-thinking-*"
    else name
  let name := if startsWith "gpt-4-gizmo" name then "gpt-4-gizmo-*" else name
  if startsWith "gpt-4o-gizmo" name then "gpt-4o-gizmo-*" else name

/-- Why no channel was selected. -/
inductive SelectError
  /-- "数据库一致性错误，渠道# %d 不存在，请联系管理员修复" -/
  | inconsistent (id : ℤ)
  /-- "no channel found, group: %s, model: %s, priority: %d" -/
  | noChannel (group model : String) (priority : ℤ)
  /-- "channel not found" -/
  | notFound
  deriving DecidableEq

/-- The first channel at which the weights, summed up, exceed the random number. -/
def walkWeights (factor adjustment : ℤ) : ℤ → List Channel → Option Channel
  | _, [] => none
  | random, channel :: channels =>
    let random := random - (channel.getWeight * factor + adjustment)
    if random < 0 then some channel else walkWeights factor adjustment random channels

/-- A channel at random, by weight: without any weight all are equal, and small weights are
    multiplied. -/
def pickByWeight (channels : List Channel) (pick : ℕ) : Option Channel :=
  let sumWeight := (channels.map Channel.getWeight).sum
  if sumWeight = 0 then walkWeights 1 100 (pick % (channels.length * 100) : ℕ) channels
  else if sumWeight / channels.length < 10 then walkWeights 100 0
    (pick % (sumWeight * 100) : ℕ) channels
  else walkWeights 1 0 (pick % sumWeight : ℕ) channels

namespace ChannelCache

variable (cache : ChannelCache)

/-- The slice of the model, or else that of its matching name. -/
def candidates (group model : String) : List ℤ :=
  let exactly := cache.group2model2channels.ids group model
  if exactly = [] then cache.group2model2channels.ids group (formatMatchingModelName model)
    else exactly

def lookup (id : ℤ) : Except (Fault SelectError) Channel :=
  match cache.channelsIDM id with
  | some channel => .ok channel
  | none => .error (.failed (.inconsistent id))

def uniquePriorities (channels : List Channel) : List ℤ :=
  (channels.map Channel.getPriority).dedup.insertionSort (· ≥ ·)

/-- The priority of a retry, the last one if there are fewer. -/
def targetPriority (channels : List Channel) (retry : ℤ) : Except (Fault SelectError) ℤ :=
  let priorities := uniquePriorities channels
  let retry := if (priorities.length : ℤ) ≤ retry then (priorities.length : ℤ) - 1 else retry
  if retry < 0 then .error (.panic .index)
  else match priorities[retry.toNat]? with
    | none => .error (.panic .index)
    | some priority => .ok priority

/-- A channel of the priority of the retry, by its weight. -/
def getRandomSatisfiedChannel (group model : String) (retry : ℤ) (pick : ℕ) :
    Except (Fault SelectError) (Option Channel) :=
  match cache.candidates group model with
  | [] => .ok none
  | [id] => (cache.lookup id).map some
  | ids => do
    let channels ← ids.mapM cache.lookup
    let priority ← targetPriority channels retry
    let targets := channels.filter fun channel => channel.getPriority = priority
    if targets = [] then .error (.failed (.noChannel group model priority))
    else match pickByWeight targets pick with
      | some channel => .ok (some channel)
      | none => .error (.failed .notFound)

end ChannelCache

/-! ## What is in the index -/

/-- A place in the index, and the id that is written there. -/
abbrev IndexEntry := String × String × ℤ

def Channel.entries (channel : Channel) : List IndexEntry :=
  if channel.status ≠ .enabled then []
  else channel.groups.flatMap fun group => channel.modelNames.flatMap fun model =>
    [(group, model, channel.id)]

namespace ChannelIndex

variable {index index' index'' : ChannelIndex} {entries entries' : List IndexEntry}

/-- The slices of an index are those of another one, followed by the ids of the entries. -/
def Adds (index : ChannelIndex) (entries : List IndexEntry) (index' : ChannelIndex) : Prop :=
  ∀ group model, index'.ids group model =
    index.ids group model ++ (entries.filter fun e => e.1 = group ∧ e.2.1 = model).map fun e =>
      e.2.2

lemma Adds.nil (index : ChannelIndex) : index.Adds [] index := fun _ _ => by simp

lemma Adds.append (h : index.Adds entries index') (h' : index'.Adds entries' index'') :
    index.Adds (entries ++ entries') index'' := by
  intro group model
  rw [h', h, List.filter_append, List.map_append, List.append_assoc]

lemma adds_add (index : ChannelIndex) (group model : String) (id : ℤ) :
    Outcome (fun _ => True) (index.Adds [(group, model, id)]) (index.add group model id) := by
  rw [add]
  cases hgroup : index group with
  | none => trivial
  | some models =>
    intro group' model'
    by_cases hg : group = group'
    · subst hg
      by_cases hm : model = model'
      · subst hm
        simp [ids, hgroup]
      · simp [ids, hgroup, hm, update_of_ne (Ne.symm hm)]
    · simp [ids, hg, update_of_ne (Ne.symm hg)]

lemma adds_addChannel (index : ChannelIndex) (channel : Channel) :
    Outcome (fun _ => True) (index.Adds channel.entries) (index.addChannel channel) := by
  rw [addChannel, Channel.entries]
  split_ifs with h
  · exact Adds.nil index
  · refine Outcome.foldlM_flatMap Adds.nil Adds.append (fun group _ index => ?_) index
    exact Outcome.foldlM_flatMap Adds.nil Adds.append (fun model _ index =>
      adds_add index group model channel.id) index

lemma perm_sorted (sorting : SortSlice) (channels : ℤ → Option Channel) (index : ChannelIndex)
    (group model : String) :
    ((index.sorted sorting channels).ids group model).Perm (index.ids group model) := by
  cases h : index group with
  | none => simp [ids, sorted, h]
  | some models => simpa [ids, sorted, h] using sorting.perm _ (models model)

end ChannelIndex

section

variable {sorting : SortSlice} {channels : List Channel} {abilities : List Ability}
  {old cache : ChannelCache} {id : ℤ} {group model : String} {channel : Channel}

lemma initChannelCache_eq_ok (h : initChannelCache sorting channels abilities old = .ok cache) :
    ∃ index, channels.foldlM addChannel (ofGroups abilities) = .ok index ∧
      cache.group2model2channels = index.sorted sorting (channelsById channels) ∧
      cache.channelsIDM = fun id => (channelsById channels id).map fun channel =>
        channel.keepPollingIndex (old.channelsIDM id) := by
  rw [initChannelCache] at h
  cases hindex : channels.foldlM addChannel (ofGroups abilities) with
  | error e =>
    rw [hindex] at h
    cases h
  | ok index =>
    rw [hindex] at h
    cases h
    exact ⟨index, rfl, rfl, rfl⟩

lemma ids_initChannelCache (h : initChannelCache sorting channels abilities old = .ok cache)
    (group model : String) :
    (cache.group2model2channels.ids group model).Perm
      (((channels.flatMap Channel.entries).filter fun e => e.1 = group ∧ e.2.1 = model).map fun e =>
        e.2.2) := by
  have hfill := Outcome.foldlM_flatMap ChannelIndex.Adds.nil ChannelIndex.Adds.append
    (fun channel (_ : channel ∈ channels) index => adds_addChannel index channel)
    (ofGroups abilities)
  obtain ⟨index, hindex, hsorted, -⟩ := initChannelCache_eq_ok h
  have hids := hfill.of_ok hindex group model
  have hnil : (ofGroups abilities).ids group model = [] := by
    rw [ids, ofGroups]
    split_ifs <;> rfl
  rw [hnil, List.nil_append] at hids
  rw [← hids, hsorted]
  exact perm_sorted sorting _ index group model

lemma Channel.id_of_mem_entries {e : IndexEntry} (h : e ∈ channel.entries) :
    e.2.2 = channel.id := by
  rw [Channel.entries] at h
  split_ifs at h
  · cases h
  · obtain ⟨_, _, h⟩ := List.mem_flatMap.1 h
    obtain ⟨_, _, h⟩ := List.mem_flatMap.1 h
    rw [List.mem_singleton.1 h]

lemma Channel.nodup_entries
    (hdistinct : channel.status = .enabled → channel.groups.Nodup ∧ channel.modelNames.Nodup) :
    channel.entries.Nodup := by
  rw [Channel.entries]
  split_ifs with hstatus
  · exact List.nodup_nil
  · obtain ⟨hgroups, hmodels⟩ := hdistinct (not_not.1 hstatus)
    refine List.nodup_flatMap.2 ⟨fun group _ => ?_, hgroups.imp fun hne => ?_⟩
    · refine List.nodup_flatMap.2 ⟨fun _ _ => List.nodup_singleton _, hmodels.imp fun hne => ?_⟩
      simpa using fun h => hne h.symm
    · intro e he he'
      obtain ⟨_, _, he⟩ := List.mem_flatMap.1 he
      obtain ⟨_, _, he'⟩ := List.mem_flatMap.1 he'
      rw [List.mem_singleton.1 he] at he'
      exact hne (congrArg Prod.fst (List.mem_singleton.1 he'))

lemma count_entries_le_one (hkeyed : Table.Keyed Channel.id channels)
    (hdistinct : ∀ channel ∈ channels, channel.id = id → channel.status = .enabled →
      channel.groups.Nodup ∧ channel.modelNames.Nodup)
    (group model : String) : (channels.flatMap Channel.entries).count (group, model, id) ≤ 1 := by
  induction channels with
  | nil => simp
  | cons channel channels ih =>
    rw [Table.Keyed, List.map_cons, List.nodup_cons] at hkeyed
    rw [List.flatMap_cons, List.count_append]
    by_cases hid : channel.id = id
    · have hrest : (channels.flatMap Channel.entries).count (group, model, id) = 0 := by
        refine List.count_eq_zero.2 fun hmem => ?_
        obtain ⟨other, hother, hmem⟩ := List.mem_flatMap.1 hmem
        exact hkeyed.1
          (List.mem_map.2 ⟨other, hother, (Channel.id_of_mem_entries hmem).symm.trans hid.symm⟩)
      have hself := List.nodup_iff_count_le_one.1
        (Channel.nodup_entries (hdistinct channel List.mem_cons_self hid)) (group, model, id)
      omega
    · have hself : channel.entries.count (group, model, id) = 0 :=
        List.count_eq_zero.2 fun hmem => hid (Channel.id_of_mem_entries hmem).symm
      have hrest := ih hkeyed.2 fun other hother => hdistinct other (List.mem_cons_of_mem _ hother)
      omega

/-- A channel that names no group and no model twice writes its id at most once to a slice. -/
lemma count_initChannelCache {table : ChannelTable}
    (h : initChannelCache sorting table.rows abilities old = .ok cache)
    (hdistinct : ∀ channel ∈ table.rows, channel.id = id → channel.status = .enabled →
      channel.groups.Nodup ∧ channel.modelNames.Nodup)
    (group model : String) : (cache.group2model2channels.ids group model).count id ≤ 1 := by
  have hentry : (fun e : IndexEntry =>
    (decide (e.2.2 = id) && decide (e.1 = group ∧ e.2.1 = model))) =
      (· == (group, model, id)) := by
    funext ⟨group', model', id'⟩
    rw [Bool.eq_iff_iff]
    simp [and_left_comm, and_comm]
  calc (cache.group2model2channels.ids group model).count id
      = (table.rows.flatMap Channel.entries).count (group, model, id) := by
        rw [(ids_initChannelCache h group model).count_eq, List.count, List.countP_map,
          List.countP_filter, List.count, ← hentry]
        rfl
    _ ≤ 1 := count_entries_le_one table.keyed hdistinct group model

/-! ## What is selected -/

lemma outcome_lookup (cache : ChannelCache) (id : ℤ) :
    Outcome (fun _ => True) (fun channel => cache.channelsIDM id = some channel)
      (cache.lookup id) := by
  rw [lookup]
  split
  case h_1 channel hchannel => exact hchannel
  case h_2 => trivial

lemma mem_of_walkWeights {factor adjustment random : ℤ}
    (h : walkWeights factor adjustment random channels = some channel) : channel ∈ channels := by
  induction channels generalizing random with
  | nil => cases h
  | cons other channels ih =>
    rw [walkWeights] at h
    split_ifs at h
    · rw [some.inj h]
      exact List.mem_cons_self
    · exact List.mem_cons_of_mem _ (ih h)

lemma mem_of_pickByWeight {pick : ℕ} (h : pickByWeight channels pick = some channel) :
    channel ∈ channels := by
  rw [pickByWeight] at h
  split_ifs at h
  · exact mem_of_walkWeights h
  · exact mem_of_walkWeights h
  · exact mem_of_walkWeights h

lemma outcome_getRandomSatisfiedChannel (cache : ChannelCache) (group model : String) (retry : ℤ)
    (pick : ℕ) :
    Outcome (fun _ => True)
      (fun selected => ∀ channel ∈ selected, ∃ id ∈ cache.candidates group model,
        cache.channelsIDM id = some channel)
      (cache.getRandomSatisfiedChannel group model retry pick) := by
  rw [getRandomSatisfiedChannel]
  split
  · exact fun _ h => absurd h (not_mem_none _)
  case h_2 id hids =>
    rw [hids]
    refine (outcome_lookup cache id).map fun channel hchannel => ?_
    intro channel' h
    rw [← some.inj h]
    exact ⟨id, List.mem_cons_self, hchannel⟩
  case h_3 =>
    generalize cache.candidates group model = ids
    refine (Outcome.mapM fun id _ => outcome_lookup cache id).bind fun channels hchannels => ?_
    have hpriority : Outcome (fun _ => True) (fun _ => True) (targetPriority channels retry) := by
      cases targetPriority channels retry <;> trivial
    refine hpriority.bind fun priority _ => ?_
    dsimp only
    split_ifs
    · trivial
    split
    case h_1 channel hpick =>
      intro channel' h
      rw [← some.inj h]
      -- The channel is one of those looked up, since it is one of the targets.
      have hmem := (List.mem_filter.1 (mem_of_pickByWeight hpick)).1
      exact hchannels channel hmem
    case h_2 => trivial

lemma mem_ids_of_candidates (h : id ∈ cache.candidates group model) :
    ∃ model, id ∈ cache.group2model2channels.ids group model := by
  rw [candidates] at h
  split_ifs at h
  · exact ⟨_, h⟩
  · exact ⟨_, h⟩

end

/-! ## Changes of the cache -/

/-- What changes the cache until it is filled anew. -/
inductive CacheUpdate
  | updateStatus (id : ℤ) (status : ChannelStatus)
  | updateChannel (channel : Channel)

def CacheUpdate.apply (cache : ChannelCache) : CacheUpdate → ChannelCache
  | updateStatus id status => cache.cacheUpdateChannelStatus id status
  | updateChannel channel => cache.cacheUpdateChannel channel

namespace ChannelCache

variable {cache : ChannelCache} {id : ℤ} {status : ChannelStatus} {n : ℕ}

/-- Every channel is kept under its id. -/
def Keyed (cache : ChannelCache) : Prop := ∀ id channel, cache.channelsIDM id = some channel →
    channel.id = id

/-- The id is at most `n` times in every slice. -/
def Occurs (cache : ChannelCache) (id : ℤ) (n : ℕ) : Prop :=
  ∀ group model, (cache.group2model2channels.ids group model).count id ≤ n

lemma ids_cacheUpdateChannelStatus (hstatus : status ≠ .enabled) (group model : String) :
    (cache.cacheUpdateChannelStatus id status).group2model2channels.ids group model =
      (cache.group2model2channels.ids group model).erase id := by
  cases h : cache.group2model2channels group <;> simp [cacheUpdateChannelStatus, hstatus, ids, h]

lemma Keyed.apply (h : cache.Keyed) (update : CacheUpdate) : (update.apply cache).Keyed := by
  intro i channel hi
  cases update with
  | updateStatus id status =>
    by_cases hid : i = id
    · subst hid
      obtain ⟨cached, hcached, rfl⟩ : ∃ cached, cache.channelsIDM i = some cached ∧
          { cached with status := status } = channel := by
        simpa [CacheUpdate.apply, cacheUpdateChannelStatus] using hi
      exact h i cached hcached
    · exact h i channel (by simpa [CacheUpdate.apply, cacheUpdateChannelStatus, hid] using hi)
  | updateChannel new =>
    by_cases hid : i = new.id
    · subst hid
      have : new = channel := by simpa [CacheUpdate.apply, cacheUpdateChannel] using hi
      rw [← this]
    · exact h i channel (by simpa [CacheUpdate.apply, cacheUpdateChannel, hid] using hi)

lemma Occurs.apply (h : cache.Occurs id n) (update : CacheUpdate) :
    (update.apply cache).Occurs id n := by
  intro group model
  cases update with
  | updateStatus other status =>
    by_cases hstatus : status = .enabled
    · have hsame : (cache.cacheUpdateChannelStatus other status).group2model2channels =
        cache.group2model2channels :=
        if_pos hstatus
      rw [CacheUpdate.apply, hsame]
      exact h group model
    · rw [CacheUpdate.apply, ids_cacheUpdateChannelStatus hstatus]
      exact ((List.erase_sublist).count_le id).trans (h group model)
  | updateChannel new => exact h group model

lemma Occurs.disabled (h : cache.Occurs id (n + 1)) (hstatus : status ≠ .enabled) :
    (cache.cacheUpdateChannelStatus id status).Occurs id n := by
  intro group model
  rw [ids_cacheUpdateChannelStatus hstatus, List.count_erase_self]
  have := h group model
  omega

lemma keyed_foldl (updates : List CacheUpdate) (h : cache.Keyed) :
    (updates.foldl CacheUpdate.apply cache).Keyed := by
  induction updates generalizing cache with
  | nil => exact h
  | cons update updates ih => exact ih (h.apply update)

lemma occurs_foldl (updates : List CacheUpdate) (h : cache.Occurs id n) :
    (updates.foldl CacheUpdate.apply cache).Occurs id n := by
  induction updates generalizing cache with
  | nil => exact h
  | cons update updates ih => exact ih (h.apply update)

lemma Occurs.not_selected (h : cache.Occurs id 0) (hkeyed : cache.Keyed) {group model : String}
    {retry : ℤ} {pick : ℕ} {channel : Channel}
    (hselected : cache.getRandomSatisfiedChannel group model retry pick = .ok (some channel)) :
    channel.id ≠ id := by
  have hmem := (outcome_getRandomSatisfiedChannel cache group model retry pick).of_ok hselected
  obtain ⟨selected, hcandidate, hchannel⟩ := hmem channel rfl
  obtain ⟨model, hids⟩ := mem_ids_of_candidates hcandidate
  rw [hkeyed selected channel hchannel]
  rintro rfl
  exact List.count_eq_zero.1 (Nat.le_zero.1 (h group model)) hids

end ChannelCache

/-- Of the channels with an id, the last one. -/
lemma channelsById_eq (channels : List Channel) (id : ℤ) :
    channelsById channels id = channels.reverse.find? fun channel => channel.id = id := by
  induction channels using List.reverseRecOn with
  | nil => rfl
  | append_singleton channels last ih =>
    rw [List.reverse_append, List.reverse_singleton, List.singleton_append, List.find?_cons, ← ih,
      channelsById, List.foldl_append]
    by_cases hid : id = last.id
    · simp [hid]
    · simp [hid, Ne.symm hid, channelsById]

variable {channels : List Channel} {abilities : List Ability} {sorting : SortSlice}
    {channel : Channel}

lemma Channel.id_keepPollingIndex (channel : Channel) (old : Option Channel) :
    (channel.keepPollingIndex old).id = channel.id := by
  cases old with
  | none => rfl
  | some old =>
    simp only [Channel.keepPollingIndex]
    split_ifs
    · rfl
    · rfl

lemma keyed_initChannelCache
    {old cache : ChannelCache} (h : initChannelCache sorting channels abilities old = .ok cache) :
      cache.Keyed := by
  intro id channel hchannel
  obtain ⟨index, -, -, hchannels⟩ := initChannelCache_eq_ok h
  rw [hchannels] at hchannel
  obtain ⟨row, hrow, rfl⟩ := map_eq_some_iff.1 hchannel
  rw [Channel.id_keepPollingIndex]
  rw [channelsById_eq] at hrow
  simpa using List.find?_some hrow

/-- **Disabled channels.** Whatever changes the cache before and after, a channel that has been
    disabled is not selected, if its lists named nothing twice when it was loaded as enabled. -/
theorem getRandomSatisfiedChannel_of_disabled (sorting : SortSlice) (table : ChannelTable)
    (abilities : List Ability) (old cache : ChannelCache)
    (hinit : initChannelCache sorting table.rows abilities old = .ok cache)
    (before after : List CacheUpdate) (id : ℤ) (status : ChannelStatus)
    (hstatus : status ≠ .enabled)
    (hdistinct : ∀ channel ∈ table.rows, channel.id = id → channel.status = .enabled →
      channel.groups.Nodup ∧ channel.modelNames.Nodup)
    (group model : String) (retry : ℤ) (pick : ℕ) (channel : Channel)
    (hselected : (after.foldl CacheUpdate.apply
      ((before.foldl CacheUpdate.apply cache).cacheUpdateChannelStatus id
        status)).getRandomSatisfiedChannel
        group model retry pick = .ok (some channel)) : channel.id ≠ id := by
  have hkeyed := keyed_foldl before (keyed_initChannelCache hinit)
  have honce := occurs_foldl before (count_initChannelCache hinit hdistinct)
  have hgone := occurs_foldl after (honce.disabled hstatus)
  exact hgone.not_selected (keyed_foldl after (hkeyed.apply (.updateStatus id status))) hselected

/-! ### Two channels for one model -/

namespace TwoChannels

def insertion : SortSlice where
  sort priority ids := ids.insertionSort fun i j => priority j ≤ priority i
  perm _ _ := List.perm_insertionSort _ _
  ordered priority ids := List.pairwise_insertionSort (fun i j => priority j ≤ priority i) ids

def row (id : ℤ) (models : String) : Channel where
  key := "sk"
  status := .enabled
  channelInfo := { isMultiKey := false, multiKeySize := 0, multiKeyMode := .other "" }
  id := id
  models := models
  group := "default"

/-- The first channel serves the models that are given. -/
def table (models : String) : ChannelTable where
  rows := [row 1 models, row 2 "gpt-4"]
  keyed := show ([1, 2] : List ℤ).Nodup by decide

def ability (id : ℤ) : Ability where
  group := "default"
  model := "gpt-4"
  channelId := id
  enabled := true
  priority := none
  weight := 0
  tag := none

def empty : ChannelCache := ⟨fun _ => none, fun _ => none⟩

def cache (models : String) : ChannelCache :=
  match initChannelCache insertion (table models).rows [ability 1, ability 2] empty with
  | .ok cache => cache
  | .error _ => empty

lemma cache_eq {models : String}
    (h : (initChannelCache insertion (table models).rows [ability 1, ability 2]
      empty).isOk = true) :
    initChannelCache insertion (table models).rows [ability 1, ability 2] empty =
      .ok (cache models) := by
  rw [cache]
  cases hinit : initChannelCache insertion (table models).rows [ability 1, ability 2] empty with
  | error e => simp [hinit, Except.toBool] at h
  | ok cache => rfl

def selection (models : String) : Except (Fault SelectError) (Option Channel) :=
  ((cache models).cacheUpdateChannelStatus 1 .autoDisabled).getRandomSatisfiedChannel
    "default" "gpt-4" 0 0

def selectedId : Except (Fault SelectError) (Option Channel) → Option ℤ
  | .ok (some channel) => some channel.id
  | _ => none

lemma selected_of_id {x : Except (Fault SelectError) (Option Channel)} {id : ℤ}
    (h : selectedId x = some id) :
    ∃ channel, x = .ok (some channel) ∧ channel.id = id := by
  match x, h with
  | .ok (some channel), h => exact ⟨channel, rfl, some.inj h⟩

end TwoChannels

/-- The channel that was disabled is not selected. -/
theorem getRandomSatisfiedChannel_of_disabled_twoChannels :
    ∃ channel, TwoChannels.selection "gpt-4,gpt-4o" = .ok (some channel) ∧ channel.id ≠ 1 := by
  have hselected : TwoChannels.selectedId (TwoChannels.selection "gpt-4,gpt-4o") =
    some 2 := by decide +kernel
  obtain ⟨channel, hchannel, -⟩ := TwoChannels.selected_of_id hselected
  exact ⟨channel, hchannel, getRandomSatisfiedChannel_of_disabled TwoChannels.insertion
    (TwoChannels.table "gpt-4,gpt-4o") [TwoChannels.ability 1, TwoChannels.ability 2]
      TwoChannels.empty
    (TwoChannels.cache "gpt-4,gpt-4o") (TwoChannels.cache_eq (by decide +kernel)) [] [] 1
      .autoDisabled (by decide)
    (by decide +kernel) "default" "gpt-4" 0 0 channel hchannel⟩

/-- A model that is listed twice leaves the disabled channel in the index. -/
theorem disabled_selected :
    initChannelCache TwoChannels.insertion (TwoChannels.table "gpt-4,gpt-4").rows
        [TwoChannels.ability 1, TwoChannels.ability 2] TwoChannels.empty =
          .ok (TwoChannels.cache "gpt-4,gpt-4") ∧
      ∃ channel, ((TwoChannels.cache "gpt-4,gpt-4").cacheUpdateChannelStatus 1
        .autoDisabled).getRandomSatisfiedChannel
        "default" "gpt-4" 0 0 = .ok (some channel) ∧ channel.id = 1 :=
  ⟨TwoChannels.cache_eq (by decide +kernel),
    TwoChannels.selected_of_id (x := TwoChannels.selection "gpt-4,gpt-4") (by decide +kernel)⟩

/-! ## Draws -/

namespace ChannelCache

open List

/-- The factor and the adjustment that the weights are smoothed by. -/
def smoothing (channels : List Channel) : ℕ × ℕ :=
  let sumWeight := (channels.map Channel.getWeight).sum
  if sumWeight = 0 then (1, 100) else if sumWeight / channels.length < 10 then (100, 0) else (1, 0)

def amount (channel : Channel) (smoothing : ℕ × ℕ) : ℕ :=
  channel.getWeight * smoothing.1 + smoothing.2

def totalWeight (channels : List Channel) : ℕ := (channels.map (amount · (smoothing channels))).sum

/-- The priority of a retry: the lowest, if there are not so many. -/
def priorityAt (channels : List Channel) (retry : ℕ) : Option ℤ :=
  (uniquePriorities channels)[min retry ((uniquePriorities channels).length - 1)]?

section

variable {channels : List Channel} {cache : ChannelCache} {priority : ℤ} {retry : ℕ}

lemma map_walkWeights (s : ℕ × ℕ) (channels : List Channel) :
    (range (channels.map (amount · s)).sum).map
    (fun random : ℕ => walkWeights s.1 s.2 random channels) =
      channels.flatMap fun channel => replicate (amount channel s) (some channel) := by
  induction channels with
  | nil => rfl
  | cons channel channels ih =>
    have hamount : (amount channel s : ℤ) = channel.getWeight * s.1 + s.2 := by simp [amount]
    rw [map_cons, sum_cons, range_add, map_append, List.map_map, flatMap_cons, ← ih]
    congr 1
    · refine eq_replicate_iff.2 ⟨by simp, ?_⟩
      intro _ hmem
      obtain ⟨random, hrandom, rfl⟩ := mem_map.1 hmem
      have hlt := mem_range.1 hrandom
      rw [walkWeights, if_pos (by omega)]
    · refine map_congr_left fun random _ => ?_
      have hsub : ((amount channel s + random : ℕ) : ℤ) - (channel.getWeight * s.1 + s.2) =
        random := by omega
      rw [comp_apply, walkWeights, hsub, if_neg (by omega)]

lemma totalWeight_eq (channels : List Channel) : totalWeight channels =
    (channels.map Channel.getWeight).sum * (smoothing channels).1 + channels.length *
      (smoothing channels).2 := by
  simp [totalWeight, amount, sum_map_mul_right]

lemma pickByWeight_eq (channels : List Channel) (pick : ℕ) : pickByWeight channels pick =
    walkWeights (smoothing channels).1 (smoothing channels).2
    (pick % totalWeight channels : ℕ) channels := by
  rw [pickByWeight, totalWeight_eq, smoothing]
  split_ifs with hzero <;> simp [hzero]

lemma map_pickByWeight (channels : List Channel) :
    (range (totalWeight channels)).map (pickByWeight channels) =
    channels.flatMap fun channel => replicate (amount channel (smoothing channels))
      (some channel) := by
  rw [← map_walkWeights]
  refine map_congr_left fun pick hpick => ?_
  rw [pickByWeight_eq, Nat.mod_eq_of_lt (mem_range.1 hpick)]

lemma pickByWeight_isSome (h : channels ≠ []) (pick : ℕ) :
    ∃ channel, pickByWeight channels pick = some channel := by
  have hpos : 0 < totalWeight channels := by
    have hlength := length_pos_iff.2 h
    rw [totalWeight_eq, smoothing]
    split_ifs <;> omega
  have hmem := mem_map_of_mem (f := pickByWeight channels) (mem_range.2 (Nat.mod_lt pick hpos))
  rw [map_pickByWeight, pickByWeight_eq, Nat.mod_mod, ← pickByWeight_eq] at hmem
  obtain ⟨channel, -, hchannel⟩ := mem_flatMap.1 hmem
  exact ⟨channel, eq_of_mem_replicate hchannel⟩

open Classical in
/-- A channel is drawn as often as it takes draws, for each time that it is listed. -/
lemma countP_pickByWeight (channels : List Channel) (channel : Channel) :
    (range (totalWeight channels)).countP (fun pick => pickByWeight channels pick = some channel) =
      channels.count channel * amount channel (smoothing channels) := by
  have hcount : (range (totalWeight channels)).countP (fun pick => pickByWeight channels pick =
    some channel) =
      ((range (totalWeight channels)).map (pickByWeight channels)).count (some channel) := by
    rw [count, countP_map]
    exact countP_congr fun _ _ => by simp
  rw [hcount, map_pickByWeight]
  generalize smoothing channels = s
  clear hcount
  induction channels with
  | nil => simp
  | cons c channels ih =>
    rw [flatMap_cons, count_append, count_replicate, ih, count_cons]
    by_cases hc : c = channel
    · simp [hc]
      ring
    · simp [hc]

lemma amount_smoothing {channel : Channel} (h : channel ∈ channels) :
    amount channel (smoothing channels) =
    if ∀ c ∈ channels, c.getWeight = 0 then 100
      else channel.getWeight * (smoothing channels).1 := by
  have hsum : (channels.map Channel.getWeight).sum = 0 ↔
    ∀ c ∈ channels, c.getWeight = 0 := by simp [sum_eq_zero_iff]
  by_cases hzero : (channels.map Channel.getWeight).sum = 0
  · rw [if_pos (hsum.1 hzero), amount, hsum.1 hzero channel h, smoothing, hzero]
    rfl
  · rw [if_neg (mt hsum.2 hzero), smoothing]
    split_ifs <;> rfl

lemma mapM_lookup {ids : List ℤ} (h : ids.map cache.channelsIDM = channels.map some) :
    ids.mapM cache.lookup = .ok channels := by
  induction ids generalizing channels with
  | nil =>
    rw [map_eq_nil_iff.1 h.symm]
    rfl
  | cons id ids ih =>
    cases channels with
    | nil => cases h
    | cons channel channels =>
      obtain ⟨hid, hids⟩ := cons.inj h
      rw [mapM_cons, ih hids, ChannelCache.lookup, hid]
      rfl

lemma targetPriority_eq (hne : channels ≠ []) (retry : ℕ) :
    ∃ priority, priorityAt channels retry = some priority ∧
      targetPriority channels retry = .ok priority ∧
        channels.filter (·.getPriority = priority) ≠ [] := by
  have hpos : 0 < (uniquePriorities channels).length := by
    rw [uniquePriorities, length_insertionSort, length_pos_iff, ne_eq, dedup_eq_nil, map_eq_nil_iff]
    exact hne
  have hlt : min retry ((uniquePriorities channels).length - 1) <
    (uniquePriorities channels).length := by omega
  refine ⟨_, getElem?_eq_getElem hlt, ?_, ?_⟩
  · have hretry : (if ((uniquePriorities channels).length : ℤ) ≤
      retry then ((uniquePriorities channels).length : ℤ) - 1
        else retry) = (min retry ((uniquePriorities channels).length - 1) : ℕ) := by
      split_ifs <;> omega
    rw [targetPriority]
    simp only [hretry, Int.toNat_natCast, getElem?_eq_getElem hlt]
    rw [if_neg (by omega)]
  · have hmem := mem_dedup.1 ((mem_insertionSort _).1 (getElem_mem hlt))
    obtain ⟨channel, hchannel, hpriority⟩ := mem_map.1 hmem
    exact ne_nil_of_mem (mem_filter.2 ⟨hchannel, by simpa using hpriority⟩)

lemma getRandomSatisfiedChannel_eq {group model : String}
    (hcached : (cache.candidates group model).map cache.channelsIDM = channels.map some)
    (hpriority : targetPriority channels retry = .ok priority)
    (hne : channels.filter (·.getPriority = priority) ≠ []) (pick : ℕ) :
    cache.getRandomSatisfiedChannel group model retry pick =
      .ok (pickByWeight (channels.filter (·.getPriority = priority)) pick) := by
  obtain ⟨selected, hpick⟩ := pickByWeight_isSome hne pick
  rw [hpick, getRandomSatisfiedChannel]
  split
  case h_1 hids =>
    rw [hids] at hcached
    simp [map_eq_nil_iff.1 hcached.symm] at hne
  case h_2 id hids =>
    rw [hids] at hcached
    obtain ⟨channel, rfl⟩ := length_eq_one_iff.1 (by simpa using congrArg length hcached.symm)
    rw [ChannelCache.lookup, (cons.inj hcached).1,
      mem_singleton.1 (mem_filter.1 (mem_of_pickByWeight hpick)).1]
    rfl
  case h_3 =>
    rw [mapM_lookup hcached]
    simp only [bind, Except.bind, hpriority, if_neg hne, hpick]

/-- What the draws of a channel are to be proportional to: its weight, unless no channel of the
    priority has one. -/
def share (channels : List Channel) (priority : ℤ) (channel : Channel) : ℕ :=
  if ∀ c ∈ channels, c.getPriority = priority → c.getWeight = 0 then 1 else channel.getWeight

open Classical in
/-- The draws of a channel, for each time that it is listed. -/
lemma exists_countP_pickByWeight (channels : List Channel) (priority : ℤ) :
    ∃ factor, 0 < factor ∧ ∀ channel ∈ channels, channel.getPriority = priority →
      (range (totalWeight (channels.filter (·.getPriority = priority)))).countP
          (fun pick => pickByWeight (channels.filter (·.getPriority = priority)) pick =
            some channel) =
        channels.count channel * (share channels priority channel * factor) := by
  have hzero : (∀ c ∈ channels.filter (·.getPriority = priority), c.getWeight = 0) ↔
      ∀ c ∈ channels, c.getPriority = priority → c.getWeight = 0 := by simp
  refine ⟨if ∀ c ∈ channels, c.getPriority = priority → c.getWeight = 0 then 100
    else (smoothing (channels.filter (·.getPriority = priority))).1, ?_,
      fun channel hmem hprio => ?_⟩
  · rw [smoothing]
    split_ifs <;> decide
  · have htarget : channel ∈ channels.filter (·.getPriority = priority) :=
      mem_filter.2 ⟨hmem, by simpa using hprio⟩
    rw [countP_pickByWeight, count_filter (by simpa using hprio), amount_smoothing htarget, share]
    simp only [hzero]
    split_ifs <;> simp

/-- Some channel of a priority has a share in the draws. -/
lemma exists_share_ne_zero {channels : List Channel} {priority : ℤ}
    (htargets : channels.filter (·.getPriority = priority) ≠ []) :
    ∃ c ∈ channels, c.getPriority = priority ∧ share channels priority c ≠ 0 := by
  by_cases hzero : ∀ c ∈ channels, c.getPriority = priority → c.getWeight = 0
  · obtain ⟨c, hc⟩ := exists_mem_of_ne_nil _ htargets
    obtain ⟨hc, hprio⟩ := mem_filter.1 hc
    exact ⟨c, hc, by simpa using hprio, by simp [share, if_pos hzero]⟩
  · obtain ⟨c, hc, hprio, hweight⟩ :
        ∃ c ∈ channels, c.getPriority = priority ∧ c.getWeight ≠ 0 := by
      simpa using hzero
    exact ⟨c, hc, hprio, by rwa [share, if_neg hzero]⟩

open Classical in
/-- **Selection by weight.** A channel of the priority of the retry is selected for every draw. The
    draws are proportional to the weights exactly if the channels with a weight, or else all of
    them, are listed equally often. -/
theorem draws_by_weight_iff (cache : ChannelCache) (group model : String) (retry : ℕ)
    (channels : List Channel)
    (hcached : (cache.candidates group model).map cache.channelsIDM = channels.map some)
    (hne : channels ≠ []) : ∃ priority, priorityAt channels retry = some priority ∧
    (∀ pick, ∃ channel ∈ channels, channel.getPriority = priority ∧
      cache.getRandomSatisfiedChannel group model retry pick = .ok (some channel)) ∧
    ((∃ factor, 0 < factor ∧ ∀ channel ∈ channels, channel.getPriority = priority →
        (range (totalWeight (channels.filter (·.getPriority = priority)))).countP
            (fun pick => cache.getRandomSatisfiedChannel group model retry pick =
              .ok (some channel)) =
          share channels priority channel * factor) ↔
      ∀ c ∈ channels, ∀ c' ∈ channels, c.getPriority = priority → c'.getPriority = priority →
        share channels priority c ≠ 0 → share channels priority c' ≠ 0 →
          channels.count c = channels.count c') := by
  obtain ⟨priority, hget, hpriority, htargets⟩ := targetPriority_eq hne retry
  have hselect := getRandomSatisfiedChannel_eq hcached hpriority htargets
  obtain ⟨unit, hunit, hdraws⟩ := exists_countP_pickByWeight channels priority
  refine ⟨priority, hget, fun pick => ?_, ?_⟩
  · obtain ⟨channel, hpick⟩ := pickByWeight_isSome htargets pick
    obtain ⟨hmem, hprio⟩ := mem_filter.1 (mem_of_pickByWeight hpick)
    exact ⟨channel, hmem, by simpa using hprio, by rw [hselect, hpick]⟩
  simp only [hselect, Except.ok.injEq]
  constructor
  · rintro ⟨factor, -, hfactor⟩ c hc c' hc' hprio hprio' hshare hshare'
    have hcount {c : Channel} (hc : c ∈ channels) (hprio : c.getPriority = priority)
        (hshare : share channels priority c ≠ 0) : channels.count c * unit = factor := by
      have h := (hdraws c hc hprio).symm.trans (hfactor c hc hprio)
      rw [mul_left_comm] at h
      exact Nat.eq_of_mul_eq_mul_left (Nat.pos_of_ne_zero hshare) h
    exact Nat.eq_of_mul_eq_mul_right hunit
      ((hcount hc hprio hshare).trans (hcount hc' hprio' hshare').symm)
  · intro hequal
    obtain ⟨c, hc, hprio, hshare⟩ := exists_share_ne_zero htargets
    refine ⟨channels.count c * unit, Nat.mul_pos (count_pos_iff.2 hc) hunit,
      fun c' hc' hprio' => ?_⟩
    rw [hdraws c' hc' hprio']
    by_cases hshare' : share channels priority c' = 0
    · simp [hshare']
    · rw [hequal c' hc' c hc hprio' hprio hshare' hshare]
      ring

end

/-- Two channels of weight 10, the first of which is listed as many times. -/
def weighted (times : ℕ) : ChannelCache :=
  ⟨fun _ => some fun _ => replicate times 1 ++ [2], fun id =>
    some { TwoChannels.row id "" with weight := some 10 }⟩

open Classical in
/-- Two channels of equal weight, each of them once in the index. -/
theorem draws_by_weight_once :
    ∃ factor, 0 < factor ∧ ∀ id ∈ [1, 2], (range 20).countP (fun pick =>
      (weighted 1).getRandomSatisfiedChannel "default" "gpt-4" 0 pick =
        .ok (some { TwoChannels.row id "" with weight := some 10 })) = 10 * factor := by
  let channels := [1, 2].map fun id => { TwoChannels.row id "" with weight := some 10 }
  obtain ⟨priority, hpriority, -, hdraws⟩ :=
    draws_by_weight_iff (weighted 1) "default" "gpt-4" 0 channels
    rfl (by simp [channels])
  obtain rfl : 0 = priority := by
    have : priorityAt channels 0 = some 0 := by decide +kernel
    exact some.inj (this.symm.trans hpriority)
  obtain ⟨factor, hpos, hfactor⟩ := hdraws.2 fun c hc c' hc' _ _ _ _ => by
    have hnodup : channels.Nodup := by simp [channels, TwoChannels.row]
    rw [count_eq_one_of_mem hnodup hc, count_eq_one_of_mem hnodup hc']
  refine ⟨factor, hpos, fun id hid => ?_⟩
  have hchannel : { TwoChannels.row id "" with weight := some 10 } ∈ channels :=
    mem_map.2 ⟨id, hid, rfl⟩
  have htotal : totalWeight (channels.filter (·.getPriority = 0)) = 20 := by decide +kernel
  have hdrawn := hfactor _ hchannel rfl
  rw [htotal, share, if_neg (by decide +kernel)] at hdrawn
  exact hdrawn

/-- A channel that is listed twice is drawn twice as often as another of its weight. -/
theorem drawn_twice :
    totalWeight ([1, 1, 2].map fun id => { TwoChannels.row id "" with weight := some 10 }) = 30 ∧
    [1, 2].map (fun id => (range 30).countP fun pick => TwoChannels.selectedId
      ((weighted 2).getRandomSatisfiedChannel "default" "gpt-4" 0 pick) = some id) = [20, 10] := by
  decide +kernel

end ChannelCache

end Allrouter
