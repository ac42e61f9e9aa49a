import Allrouter.Channel.Cache
import Allrouter.Library.Grouping
import Allrouter.Library.Statements

/-!
# Abilities

The table of abilities has a row for every group and model of every channel. Channels are
inserted, updated and deleted by statements on one table and then on the other, `FixAbility` empties
the second one and fills it again, and `InitChannelCache` reads one table after the other. The
calls are lists of statements that interleave (`channelStatements`); the lock of `FixAbility` is
left out, it only excludes schedules.

* `has_newAbilities`: the new abilities of a channel cover its groups;
* `exists_initChannelCache`: filling the cache does not panic if every group of a channel has an
  ability;
* `initChannelCache_serial`: calls that wait for each other keep that, and the cache is filled
  without a panic;
* `initChannelCache_panics`: between the two halves of `FixAbility` the cache cannot be filled.
-/

namespace Allrouter

open Interleaving Runtime Text List ChannelIndex ChannelTable Outcome

/-! ## The model -/

namespace Channel

variable (channel : Channel)

def ability (group model : String) : Ability where
  group := group
  model := model
  channelId := channel.id
  enabled := channel.status = .enabled
  priority := channel.priority
  weight := channel.getWeight
  tag := channel.tag

/-- The abilities with a key that was not seen before. -/
def unseen : List String → List Ability → List Ability
  | _, [] => []
  | seen, ability :: abilities =>
    let key := ability.group ++ "|" ++ ability.model
    if key ∈ seen then unseen seen abilities else ability :: unseen (key :: seen) abilities

/-- A row for every group and model, without repetitions. -/
def newAbilities : List Ability :=
  unseen [] (channel.modelNames.flatMap fun model => channel.groups.map fun group =>
    channel.ability group model)

end Channel

variable (abilities : List Ability)

/-- Abilities are added unless there is one with the same primary key. -/
def createAbilities (new : List Ability) : List Ability :=
  new.foldl (fun abilities ability =>
    if ∃ old ∈ abilities, old.group = ability.group ∧ old.model = ability.model ∧
      old.channelId = ability.channelId then
      abilities
    else abilities ++ [ability]) abilities

def deleteAbilities (ids : List ℤ) : List Ability :=
  abilities.filter fun ability => ability.channelId ∉ ids

/-- The tables, and the cache over them. -/
structure ChannelServer where
  channels : ChannelTable
  abilities : List Ability
  cache : ChannelCache
  /-- Filling the cache has panicked. -/
  panicked : Bool := false

/-- The statements on the two tables. -/
inductive ChannelStatement
  | createChannel (channel : Channel)
  | createAbilities (abilities : List Ability)
  | updateChannel (channel : Channel)
  /-- `Update` reads the row again. -/
  | reloadChannel (channel : Channel)
  /-- A transaction. -/
  | updateAbilities (channel : Channel)
  | deleteChannel (id : ℤ)
  | deleteAbilities (ids : List ℤ)
  /-- `BatchInsertChannels`, a transaction. -/
  | batchInsert (channels : List Channel)
  /-- `BatchDeleteChannels`, a transaction. -/
  | batchDelete (ids : List ℤ)
  | truncateAbilities
  /-- `FixAbility` reads the channels. -/
  | findChannels
  /-- `InitChannelCache` reads the channels. -/
  | cacheChannels
  /-- It reads the abilities, and fills the cache. -/
  | cacheAbilities (channels : List Channel)

/-- The calls on channels. -/
inductive ChannelOperation
  | insert (channel : Channel)
  | batchInsertChannels (channels : List Channel)
  | update (channel : Channel)
  | delete (id : ℤ)
  | batchDeleteChannels (ids : List ℤ)
  | fixAbility
  | initChannelCache

def Channel.addAbilities (channel : Channel) : List ChannelStatement :=
  (Grouping.chunk 50 channel.newAbilities).map .createAbilities

/-- What `FixAbility` runs after it has read the channels. -/
def fixStatements (channels : List Channel) : List ChannelStatement :=
  if channels = [] then []
  else (Grouping.chunk 50 channels).flatMap (fun chunk =>
    .deleteAbilities (chunk.map Channel.id) :: chunk.flatMap Channel.addAbilities) ++
      [.cacheChannels]

namespace ChannelServer

variable (s : ChannelServer)

def withAbilities : ChannelServer := { s with abilities := abilities }

/-- Channels and their abilities, in one transaction; no table is changed if the id is taken. -/
def batchInsert (channels : List Channel) : ChannelServer :=
  match channels.foldlM (fun (table : ChannelTable) channel => table.insert channel.withDefaults)
      s.channels with
  | none => s
  | some table =>
    { s with
      channels := table
      abilities := (channels.map Channel.withDefaults).foldl (fun abilities channel =>
        createAbilities abilities channel.newAbilities) s.abilities }

def fillCache (sorting : SortSlice) (channels : List Channel) : ChannelServer :=
  match initChannelCache sorting channels s.abilities s.cache with
  | .ok cache => { s with cache := cache }
  | .error _ => { s with panicked := true }

end ChannelServer

/-- A statement, and those that follow it. -/
def ChannelStatement.exec (sorting : SortSlice) (s : ChannelServer) : ChannelStatement →
    ChannelServer × List ChannelStatement
  | createChannel channel =>
    match s.channels.insert channel.withDefaults with
    | none => (s, [])
    | some table => ({ s with channels := table }, channel.withDefaults.addAbilities)
  | createAbilities new => (s.withAbilities (Allrouter.createAbilities s.abilities new), [])
  | updateChannel channel => ({ s with channels := s.channels.update channel },
    [.reloadChannel channel])
  | reloadChannel channel => (s, [.updateAbilities ((s.channels.get? channel.id).getD channel)])
  | updateAbilities channel =>
    (s.withAbilities
      (Allrouter.createAbilities (Allrouter.deleteAbilities s.abilities [channel.id])
        channel.newAbilities), [])
  | deleteChannel id => ({ s with channels := s.channels.delete [id] }, [.deleteAbilities [id]])
  | deleteAbilities ids => (s.withAbilities (Allrouter.deleteAbilities s.abilities ids), [])
  | batchInsert channels => (s.batchInsert channels, [])
  | batchDelete ids =>
    ({ s with channels := s.channels.delete ids, abilities :=
      Allrouter.deleteAbilities s.abilities ids }, [])
  | truncateAbilities => (s.withAbilities [], [])
  | findChannels => (s, fixStatements s.channels.rows)
  | cacheChannels => (s, [.cacheAbilities s.channels.rows])
  | cacheAbilities channels => (s.fillCache sorting channels, [])

def ChannelOperation.statements : ChannelOperation → List ChannelStatement
  | insert channel => [.createChannel channel]
  | batchInsertChannels channels => [.batchInsert channels]
  | update channel => [.updateChannel channel]
  | delete id => [.deleteChannel id]
  | batchDeleteChannels ids => [.batchDelete ids]
  | fixAbility => [.truncateAbilities, .findChannels]
  | initChannelCache => [.cacheChannels]

def channelStatements (sorting : SortSlice) :
    Statements ChannelServer Unit ChannelStatement ChannelOperation where
  start := ChannelOperation.statements
  exec _ statement s := statement.exec sorting s

/-! ## Which groups have abilities -/

/-- There is a row for the channel and the group. -/
def Has (id : ℤ) (group : String) : Prop :=
  ∃ ability ∈ abilities, ability.channelId = id ∧ ability.group = group

instance (abilities : List Ability) (id : ℤ) (group : String) :
    Decidable (Has abilities id group) :=
  inferInstanceAs (Decidable (∃ ability ∈ abilities, ability.channelId = id ∧
    ability.group = group))

/-- Every channel has an ability in each of its groups. -/
def Covered (channels : List Channel) (abilities : List Ability) : Prop :=
  ∀ channel ∈ channels, ∀ group ∈ channel.groups, Has abilities channel.id group

instance (channels : List Channel) (abilities : List Ability) :
    Decidable (Covered channels abilities) :=
  inferInstanceAs (Decidable (∀ channel ∈ channels, ∀ group ∈ channel.groups,
    Has abilities channel.id group))

section

variable {abilities new : List Ability} {ids : List ℤ} {id : ℤ} {group : String} {channel : Channel}

lemma has_append : Has (abilities ++ new) id group ↔ Has abilities id group ∨ Has new id group := by
  simp [Has, or_and_right, exists_or]

lemma has_createAbilities :
    Has (createAbilities abilities new) id group ↔ Has abilities id group ∨ Has new id group := by
  induction new generalizing abilities with
  | nil => simp [createAbilities, Has]
  | cons ability new ih =>
    rw [← singleton_append, has_append, ← or_assoc]
    rw [createAbilities, singleton_append, foldl_cons, ← createAbilities, ih]
    refine or_congr_left ?_
    split_ifs with h
    · -- the ability that is there already has the same group and channel
      refine ⟨.inl, ?_⟩
      rintro (hold | ⟨a, ha, hid, hgroup⟩)
      · exact hold
      · rw [mem_singleton.1 ha] at hid hgroup
        obtain ⟨old, hmem, hg, -, hi⟩ := h
        exact ⟨old, hmem, hi.trans hid, hg.trans hgroup⟩
    · exact has_append

lemma has_deleteAbilities : Has (deleteAbilities abilities ids) id group ↔ Has abilities id group ∧
    id ∉ ids := by
  constructor
  · rintro ⟨ability, hmem, rfl, rfl⟩
    have hmem := mem_filter.1 hmem
    exact ⟨⟨ability, hmem.1, rfl, rfl⟩, by simpa using hmem.2⟩
  · rintro ⟨⟨ability, hmem, rfl, rfl⟩, hid⟩
    exact ⟨ability, mem_filter.2 ⟨hmem, by simpa using hid⟩, rfl, rfl⟩

/-- Of abilities for one model, one is kept for each group that was not seen. -/
lemma has_unseen {model : String} {groups seen : List String} {rest : List Ability}
    (hgroup : group ∈ groups) (hseen : ∀ key ∈ seen, key ≠ group ++ "|" ++ model) :
    Has (Channel.unseen seen (groups.map (channel.ability · model) ++ rest)) channel.id group := by
  induction groups generalizing seen with
  | nil => cases hgroup
  | cons first groups ih =>
    rw [map_cons, cons_append, Channel.unseen]
    by_cases hfirst : first = group
    · subst hfirst
      split_ifs with h
      · exact absurd rfl (hseen _ h)
      · exact ⟨_, mem_cons_self, rfl, rfl⟩
    · have hmem := (mem_cons.1 hgroup).resolve_left (Ne.symm hfirst)
      split_ifs
      · exact ih hmem hseen
      · -- the key of another group and the same model is another one
        have hkey : ∀ key ∈ (first ++ "|" ++ model) :: seen, key ≠ group ++ "|" ++ model := by
          intro key hkey heq
          rcases mem_cons.1 hkey with rfl | hkey
          · have hlist := congrArg String.toList heq
            simp only [String.toList_append, append_cancel_right_eq] at hlist
            exact hfirst (String.toList_injective hlist)
          · exact hseen key hkey heq
        obtain ⟨ability, hability, h⟩ := ih hmem hkey
        exact ⟨ability, mem_cons_of_mem _ hability, h⟩

/-- The first model of a channel covers its groups. -/
lemma has_newAbilities (hgroup : group ∈ channel.groups) :
    Has channel.newAbilities channel.id group := by
  obtain ⟨model, models, hmodels⟩ := exists_cons_of_ne_nil (split_ne_nil ',' channel.models)
  rw [Channel.newAbilities, Channel.modelNames, hmodels]
  exact has_unseen hgroup fun _ h => absurd h not_mem_nil

lemma covered_append {channels more : List Channel} :
    Covered (channels ++ more) abilities ↔ Covered channels abilities ∧ Covered more abilities := by
  simp [Covered, or_imp, forall_and]

lemma Covered.mono {channels : List Channel} {abilities' : List Ability}
    (h : Covered channels abilities)
    (himp : ∀ id group, Has abilities id group → Has abilities' id group) :
    Covered channels abilities' :=
  fun channel hchannel group hgroup => himp _ _ (h channel hchannel group hgroup)

end

/-! ## Filling the cache -/

/-- An index in which every group of the abilities has been made. -/
def Made (index : ChannelIndex) : Prop :=
  ∀ ability ∈ abilities, (index ability.group).isSome = true

variable {abilities : List Ability}

lemma made_add {index : ChannelIndex} (hmade : Made abilities index) {id : ℤ} {group : String}
    (hgroup : Has abilities id group) (model : String) (id' : ℤ) :
    Outcome (fun _ => False) (Made abilities) (index.add group model id') := by
  obtain ⟨ability, hability, -, rfl⟩ := hgroup
  obtain ⟨models, hmodels⟩ := Option.isSome_iff_exists.1 (hmade ability hability)
  rw [add, hmodels]
  intro other hother
  by_cases h : other.group = ability.group
  · simp [h]
  · rw [Function.update_of_ne h]
    exact hmade other hother

/-- **No panic.** The cache is filled if every channel that was read has an ability in each of its
    groups. -/
lemma exists_initChannelCache (sorting : SortSlice) {channels : List Channel}
    (h : Covered channels abilities) (old : ChannelCache) :
    ∃ cache, initChannelCache sorting channels abilities old = .ok cache := by
  have hmade : Made abilities (ofGroups abilities) := by
    intro ability hability
    rw [ofGroups, if_pos ⟨ability, hability, rfl⟩]
    rfl
  have hfill : Outcome (fun _ => False) (Made abilities)
      (channels.foldlM addChannel (ofGroups abilities)) := by
    refine foldlM (fun channel hchannel index hindex => ?_) hmade
    rw [addChannel]
    split_ifs
    · exact hindex
    · refine foldlM (fun group hgroup index hindex => ?_) hindex
      exact foldlM (fun model _ index hindex =>
        made_add hindex (h channel hchannel group hgroup) model _) hindex
  rw [initChannelCache]
  cases hindex : channels.foldlM addChannel (ofGroups abilities) with
  | error e =>
    rw [hindex] at hfill
    exact hfill.elim
  | ok index => exact ⟨_, rfl⟩

/-! ## Calls that wait for each other -/

namespace ChannelServer

/-- The cache has been filled without a panic, and can be filled. -/
def Fine (s : ChannelServer) : Prop := s.panicked = false ∧ Covered s.channels.rows s.abilities

/-- The statements, run without interruption, fill the cache without a panic and leave a fine
    state. -/
abbrev Ends (sorting : SortSlice) : ChannelServer → List ChannelStatement → Prop :=
  (channelStatements sorting).Ends (fun s => s.panicked = false) Fine

variable {sorting : SortSlice} {s : ChannelServer} {rest : List ChannelStatement}
    {channels : List Channel}

lemma ends_createAbilities {chunks : List (List Ability)} (hs : s.panicked = false)
    (h : ∀ abilities, (∀ id group, Has abilities id group ↔ Has s.abilities id group ∨
      Has chunks.flatten id group) →
      Ends sorting (s.withAbilities abilities) rest) : Ends sorting s
        (chunks.map .createAbilities ++ rest) := by
  induction chunks generalizing s with
  | nil => exact h s.abilities fun id group => by simp [Has]
  | cons chunk chunks ih =>
    refine .cons hs fun _ => ih hs fun abilities habilities => h abilities fun id group => ?_
    rw [habilities, flatten_cons, has_append, ← or_assoc]
    exact or_congr_left has_createAbilities

lemma ends_addAbilities (hs : s.panicked = false)
    (h : ∀ abilities, (∀ id group, Has abilities id group ↔
      Has s.abilities id group ∨ ∃ channel ∈ channels, Has channel.newAbilities id group) →
      Ends sorting (s.withAbilities abilities) rest) :
    Ends sorting s (channels.flatMap Channel.addAbilities ++ rest) := by
  induction channels generalizing s with
  | nil => exact h s.abilities fun id group => by simp
  | cons channel channels ih =>
    rw [flatMap_cons, append_assoc]
    refine ends_createAbilities hs fun abilities habilities =>
      ih hs fun abilities' habilities' => ?_
    refine h abilities' fun id group => ?_
    rw [habilities']
    simp [withAbilities, habilities, or_assoc]

lemma ends_fixChunks {chunks : List (List Channel)} {fixed : List Channel} (hs : s.panicked = false)
    (hfixed : Covered fixed s.abilities) (hkeyed : Table.Keyed Channel.id (fixed ++ chunks.flatten))
    (h : ∀ abilities, Covered (fixed ++ chunks.flatten) abilities →
      Ends sorting (s.withAbilities abilities) rest) :
    Ends sorting s (chunks.flatMap (fun chunk =>
      .deleteAbilities (chunk.map Channel.id) :: chunk.flatMap Channel.addAbilities) ++ rest) := by
  induction chunks generalizing s fixed with
  | nil => exact h s.abilities (by simpa using hfixed)
  | cons chunk chunks ih =>
    rw [flatMap_cons, append_assoc]
    refine .cons hs fun _ => ends_addAbilities hs fun abilities habilities => ?_
    rw [flatten_cons, ← append_assoc] at hkeyed h
    refine ih hs ?_ hkeyed h
    refine covered_append.2 ⟨fun channel hchannel group hgroup =>
      ?_, fun channel hchannel group hgroup => ?_⟩
    · -- no channel fixed before is deleted, since its id is another one
      refine (habilities channel.id group).2
        (.inl (has_deleteAbilities.2 ⟨hfixed channel hchannel group hgroup, ?_⟩))
      intro hmem
      rw [Table.Keyed, map_append, map_append, append_assoc] at hkeyed
      exact (nodup_append.1 hkeyed).2.2 _ (mem_map_of_mem hchannel) _ (mem_append_left _ hmem) rfl
    · exact (habilities channel.id group).2 (.inr ⟨channel, hchannel, has_newAbilities hgroup⟩)

lemma ends_cacheChannels (hs : s.Fine) : Ends sorting s [.cacheChannels] := by
  obtain ⟨cache, hcache⟩ := exists_initChannelCache sorting hs.2 s.cache
  refine .cons hs.1 fun _ => .cons hs.1 fun _ => ?_
  change Ends sorting (s.fillCache sorting s.channels.rows) []
  rw [fillCache, hcache]
  exact .nil hs.1 hs

lemma ends_fixAbility (hs : s.panicked = false) :
    Ends sorting s [.truncateAbilities, .findChannels] := by
  refine .cons hs fun _ => .cons hs fun _ => ?_
  change Ends sorting (s.withAbilities []) (fixStatements s.channels.rows ++ [])
  rw [append_nil, fixStatements]
  split_ifs with hrows
  · refine .nil hs ⟨hs, ?_⟩
    simp [withAbilities, hrows, Covered]
  · have hnone : Covered [] (s.withAbilities []).abilities := by simp [Covered]
    refine ends_fixChunks hs hnone ?_ fun abilities habilities => ends_cacheChannels ⟨hs, ?_⟩
    · simpa using s.channels.keyed
    · rwa [nil_append, Grouping.flatten_chunk] at habilities

lemma ends_insert (hs : s.Fine) (channel : Channel) : Ends sorting s [.createChannel channel] := by
  refine .cons hs.1 fun _ => ?_
  change Ends sorting ((ChannelStatement.createChannel channel).exec sorting s).1
    (((ChannelStatement.createChannel channel).exec sorting s).2 ++ [])
  rw [ChannelStatement.exec]
  split
  · exact .nil hs.1 hs
  case h_2 table htable =>
    refine ends_createAbilities hs.1 fun abilities habilities => .nil hs.1 ⟨hs.1, ?_⟩
    rw [Grouping.flatten_chunk] at habilities
    change Covered table.rows abilities
    rw [rows_insert htable]
    refine covered_append.2 ⟨hs.2.mono fun id group h => (habilities id group).2 (.inl h), ?_⟩
    intro new hnew group hgroup
    rw [mem_singleton.1 hnew] at hgroup ⊢
    exact (habilities _ group).2 (.inr (has_newAbilities hgroup))

lemma covered_update (hs : s.Fine) (channel reloaded : Channel)
    (hreloaded : ((s.channels.update channel).get? channel.id).getD channel = reloaded) :
    Covered (s.channels.update channel).rows
      (createAbilities (deleteAbilities s.abilities [reloaded.id]) reloaded.newAbilities) := by
  intro row hrow group hgroup
  rw [has_createAbilities]
  by_cases hid : row.id = channel.id
  · rw [← hid, get?_of_mem hrow] at hreloaded
    subst hreloaded
    exact .inr (has_newAbilities hgroup)
  · have hold := (mem_update hrow).resolve_left hid
    have hreloadedId : reloaded.id = channel.id := by
      rw [← hreloaded]
      cases hget : (s.channels.update channel).get? channel.id with
      | none => rfl
      | some found => exact (Table.get?_eq_some hget).2
    exact .inl (has_deleteAbilities.2
      ⟨hs.2 row hold group hgroup, by simpa [hreloadedId] using hid⟩)

lemma covered_delete (hs : s.Fine) (ids : List ℤ) :
    Covered (s.channels.delete ids).rows (deleteAbilities s.abilities ids) := by
  intro row hrow group hgroup
  obtain ⟨hmem, hid⟩ := mem_delete hrow
  exact has_deleteAbilities.2 ⟨hs.2 row hmem group hgroup, hid⟩

lemma covered_batchInsert {table table' : ChannelTable} {abilities : List Ability}
    (h : channels.foldlM (fun (table : ChannelTable) channel => table.insert channel.withDefaults)
      table = some table')
    (hcovered : Covered table.rows abilities) :
    Covered table'.rows ((channels.map Channel.withDefaults).foldl (fun abilities channel =>
      createAbilities abilities channel.newAbilities) abilities) := by
  induction channels generalizing table abilities with
  | nil =>
    cases h
    exact hcovered
  | cons channel channels ih =>
    obtain ⟨table₁, htable₁, h⟩ := Option.bind_eq_some_iff.1 h
    refine ih h ?_
    rw [rows_insert htable₁]
    refine covered_append.2 ⟨hcovered.mono fun id group h => has_createAbilities.2 (.inl h), ?_⟩
    intro new hnew group hgroup
    rw [mem_singleton.1 hnew] at hgroup ⊢
    exact has_createAbilities.2 (.inr (has_newAbilities hgroup))

lemma fine_batchInsert (hs : s.Fine) (channels : List Channel) : (s.batchInsert channels).Fine := by
  rw [batchInsert]
  split
  · exact hs
  case h_2 table htable => exact ⟨hs.1, covered_batchInsert htable hs.2⟩

lemma ends_operation (hs : s.Fine) (operation : ChannelOperation) :
    Ends sorting s operation.statements := by
  cases operation with
  | insert channel => exact ends_insert hs channel
  | batchInsertChannels channels =>
    have hfine := fine_batchInsert hs channels
    exact .cons hs.1 fun _ => .nil hfine.1 hfine
  | update channel =>
    exact .cons hs.1 fun _ => .cons hs.1 fun _ => .cons hs.1 fun _ =>
      .nil hs.1 ⟨hs.1, covered_update hs channel _ rfl⟩
  | delete id =>
    exact .cons hs.1 fun _ => .cons hs.1 fun _ => .nil hs.1 ⟨hs.1, covered_delete hs [id]⟩
  | batchDeleteChannels ids => exact .cons hs.1 fun _ => .nil hs.1 ⟨hs.1, covered_delete hs ids⟩
  | fixAbility => exact ends_fixAbility hs.1
  | initChannelCache => exact ends_cacheChannels hs

end ChannelServer

/-- As long as the calls do not overlap, the abilities cover the channels whenever the cache is
    filled, and nothing panics. -/
theorem initChannelCache_serial (sorting : SortSlice)
    (p q : Pool ChannelServer (List ChannelStatement))
    (hrun : (channelStatements sorting).SerialRun p q) (hidle : p.threads = [])
    (hp : p.shared.panicked = false)
    (hcovered : Covered p.shared.channels.rows p.shared.abilities) : q.shared.panicked = false :=
  Statements.SerialRun.during (fun operation _ hs => ChannelServer.ends_operation hs operation)
    (fun _ hs => hs.1) hrun
    hidle ⟨hp, hcovered⟩

/-! ### A run of `FixAbility` -/

namespace Fixing

def server : ChannelServer where
  channels := ⟨[TwoChannels.row 1 "gpt-4"], nodup_singleton 1⟩
  abilities := [TwoChannels.ability 1]
  cache := TwoChannels.empty

/-- The server after `FixAbility`, which nothing interrupts. -/
def fixed : ChannelServer × Option (List ChannelStatement) :=
  let statements := channelStatements TwoChannels.insertion
  (playSerial (fun _ _ _ => True) statements.begin statements.next (server, none)
    (.call .fixAbility :: replicate 7 (.move 0 ()))).getD (server, none)

/-- The cache is filled after `FixAbility` has emptied the table. -/
def overlapping : Pool ChannelServer (List ChannelStatement) :=
  (channelStatements TwoChannels.insertion).after ⟨server, []⟩
    [.call .fixAbility, .move 0 (), .call .initChannelCache, .move 0 (), .move 0 ()]

end Fixing

/-- A run of `FixAbility` that nothing interrupts. -/
theorem initChannelCache_serial_fixing :
    Fixing.fixed.2 = none ∧ Fixing.fixed.1.panicked = false ∧
      Fixing.fixed.1.cache.group2model2channels.ids "default" "gpt-4" = [1] := by
  refine ⟨by decide +kernel, ?_, by decide +kernel⟩
  exact initChannelCache_serial TwoChannels.insertion ⟨Fixing.server, []⟩
    ⟨Fixing.fixed.1, Fixing.fixed.2.toList⟩
    (serialRun_getD_play (fun k _ => ⟨k, rfl⟩) (fun e _ _ _ => ⟨e, rfl⟩) (Fixing.server, none) _)
    rfl rfl (by decide +kernel)

/-- The cache is filled while `FixAbility` has the abilities empty. -/
theorem initChannelCache_panics :
    (channelStatements TwoChannels.insertion).Run ⟨Fixing.server, []⟩ Fixing.overlapping ∧
      Covered Fixing.server.channels.rows Fixing.server.abilities ∧ Fixing.server.panicked = false ∧
      Fixing.overlapping.shared.panicked = true :=
  ⟨Statements.run_after _ _ _, by decide +kernel, rfl, by decide +kernel⟩

end Allrouter
