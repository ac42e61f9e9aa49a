import Allrouter.Library.Interleaving

/-!
# Request bodies on disk

Large bodies are kept in files, and two counters say how many there are and how much they take up.
The owner of a file removes it when its storage is closed; a cleaner removes old files. Both take
the file off the counters, which are not let below zero.

* `counters_of_orderly`: if no storage is closed after its file was cleaned up, the counters are
  right whenever nothing is going on;
* `counters_of_cleaned`: a file that is cleaned up before its storage is closed is taken off twice.
-/

namespace Allrouter

open Interleaving List

/-- A file in the directory of the cache. -/
structure DiskFile where
  name : String
  size : ℕ
  modTime : ℤ
  deriving DecidableEq

/-- The directory, the storages that are open, by their files, and the counters. -/
structure DiskCache where
  (files opened : List DiskFile := [])
  (activeDiskFiles currentDiskUsageBytes : ℤ := 0)
  deriving DecidableEq

/-- What is left of an operation, step by step. -/
inductive DiskOp
  /-- A file was written: `IncrementDiskFiles`. -/
  | addFile (file : DiskFile)
  | addBytes (file : DiskFile)
  /-- The body is too large. -/
  | discard (file : DiskFile)
  /-- A storage was marked as closed. -/
  | remove (file : DiskFile)
  /-- A file was removed: `DecrementDiskFiles`. -/
  | dropFile (size : ℕ)
  | resetFiles (size : ℕ)
  | dropBytes (size : ℕ)
  | resetBytes
  deriving DecidableEq

/-- A run of the cleaner is one call for each file that it finds. -/
inductive DiskCall
  | create (file : DiskFile) (tooLarge : Bool)
  | close (file : DiskFile)
  | cleanup (file : DiskFile) (now maxAge : ℤ)

namespace DiskCache

variable (s : DiskCache)

def isDiskCacheAvailable (enabled : Bool) (maxBytes requestSize : ℤ) : Bool :=
  enabled && s.currentDiskUsageBytes + requestSize ≤ maxBytes

def start : DiskCall → DiskCache × Option DiskOp
  | .create file tooLarge =>
    if file.name ∈ s.files.map (·.name) then (s, none)
    else ({ s with files := file :: s.files }, some (if tooLarge then .discard file
      else .addFile file))
  | .close file => if file ∈ s.opened then ({ s with opened := s.opened.erase file },
    some (.remove file)) else (s, none)
  | .cleanup file now maxAge =>
    if file ∈ s.files ∧ now - file.modTime > maxAge then
      ({ s with files := s.files.erase file }, some (.dropFile file.size))
    else (s, none)

/-- One operation on the counters or on the files. -/
def next : DiskOp → DiskCache × Option DiskOp
  | .addFile file => ({ s with activeDiskFiles := s.activeDiskFiles + 1 }, some (.addBytes file))
  | .addBytes file =>
    ({ s with currentDiskUsageBytes := s.currentDiskUsageBytes + file.size, opened := file ::
      s.opened }, none)
  | .discard file => ({ s with files := s.files.erase file }, none)
  -- An error is ignored: the file may be gone.
  | .remove file => ({ s with files := s.files.erase file }, some (.dropFile file.size))
  | .dropFile size => ({ s with activeDiskFiles := s.activeDiskFiles - 1 },
      some (if s.activeDiskFiles - 1 < 0 then .resetFiles size else .dropBytes size))
  | .resetFiles size => ({ s with activeDiskFiles := 0 }, some (.dropBytes size))
  | .dropBytes size => ({ s with currentDiskUsageBytes := s.currentDiskUsageBytes - size },
      if s.currentDiskUsageBytes - size < 0 then some .resetBytes else none)
  | .resetBytes => ({ s with currentDiskUsageBytes := 0 }, none)

/-- A storage is closed only while its file is there, and a file is cleaned up only while its
    storage is open, not while it is being created or closed. Names of open storages are not used
    again. -/
def Orderly : DiskCall → Prop
  | .create file _ => file ∉ s.opened
  | .close file => file ∈ s.opened → file ∈ s.files
  | .cleanup file now maxAge => file ∈ s.files → now - file.modTime > maxAge → file ∈ s.opened

/-- Any number of operations in any order, where the calls satisfy `P`. -/
abbrev Run (P : DiskCache → DiskCall → Prop) : Pool DiskCache DiskOp →
    Pool DiskCache DiskOp → Prop :=
  Interleaving.Run (fun s s' o => ∃ call, P s call ∧ s.start call = (s', o)) (fun s op s' o =>
    s.next op = (s', o))

end DiskCache

namespace DiskOp

/-- The file that is there because of the operation. -/
@[simp] def held : DiskOp → List DiskFile
  | addFile file | addBytes file | discard file | remove file => [file]
  | _ => []

/-- The file is still counted. -/
@[simp] def files : DiskOp → ℕ
  | addBytes _ | remove _ | dropFile _ => 1
  | _ => 0

/-- The bytes of it that are still counted. -/
@[simp] def bytes : DiskOp → ℕ
  | remove file => file.size
  | dropFile size | dropBytes size => size
  | _ => 0

/-- No counter is set back to zero. -/
def Counts : DiskOp → Prop
  | resetFiles _ | resetBytes => False
  | _ => True

end DiskOp

/-- The open storages are those with a file and those whose file is gone. The files are those of the
    former and of the operations, and so are the counters. -/
structure DiskCache.Exact (s : DiskCache) (live gone : List DiskFile) (ops : List DiskOp) :
    Prop where
  opened : s.opened.Perm (live ++ gone)
  files : s.files.Perm (live ++ ops.flatMap DiskOp.held)
  nodup : (live ++ (gone ++ ops.flatMap DiskOp.held)).Nodup
  active : s.activeDiskFiles = ↑(live.length + (ops.map DiskOp.files).sum)
  usage : s.currentDiskUsageBytes = ↑((live.map (·.size)).sum + (ops.map DiskOp.bytes).sum)
  counts : ∀ op ∈ ops, op.Counts

namespace DiskCache.Exact

variable {s s' : DiskCache} {live gone : List DiskFile} {file : DiskFile} {op : DiskOp}
  {ops ops' : List DiskOp} {o : Option DiskOp}

lemma perm (h : s.Exact live gone ops) (hops : ops.Perm ops') : s.Exact live gone ops' where
  opened := h.opened
  files := h.files.trans ((hops.flatMap_right _).append_left _)
  nodup := (((hops.flatMap_right _).append_left _).append_left _).nodup h.nodup
  active := h.active.trans (by rw [(hops.map _).sum_eq])
  usage := h.usage.trans (by rw [(hops.map _).sum_eq])
  counts op hop := h.counts op (hops.mem_iff.2 hop)

/-- The file of an operation is removed. -/
lemma erase {rest : List DiskFile} (h : s.files.Perm (live ++ file :: rest)) :
    (s.files.erase file).Perm (live ++ rest) := by
  have := (h.trans perm_middle).erase file
  rwa [erase_cons_head] at this

/-- An open storage whose file is there has one of the live files. -/
lemma exists_perm_cons (h : s.Exact live gone ops) (hopened : file ∈ s.opened)
    (hfile : file ∈ s.files) :
    ∃ live', live.Perm (file :: live') := by
  refine ⟨live.erase file, perm_cons_erase ?_⟩
  by_contra hlive
  have hgone := (mem_append.1 (h.opened.mem_iff.1 hopened)).resolve_left hlive
  have hheld := (mem_append.1 (h.files.mem_iff.1 hfile)).resolve_left hlive
  exact (nodup_append.1 (nodup_append.1 h.nodup).2.1).2.2 file hgone file hheld rfl

lemma next (h : s.Exact live gone (op :: ops)) (hnext : s.next op = (s', o)) :
    ∃ live gone, s'.Exact live gone (o.toList ++ ops) := by
  obtain ⟨hopened, hfiles, hnodup, hactive, husage, hcounts⟩ := h
  rw [flatMap_cons] at hfiles hnodup
  rw [map_cons, sum_cons] at hactive husage
  rw [forall_mem_cons] at hcounts
  -- an operation that lets go of its file leaves the others apart
  have hrest : (live ++ (gone ++ ops.flatMap DiskOp.held)).Nodup :=
    hnodup.sublist (((sublist_append_right _ _).append_left _).append_left _)
  cases op with
  | addFile file =>
    cases hnext
    refine ⟨live, gone, hopened, hfiles, hnodup, ?_, husage, forall_mem_cons.2 ⟨trivial, hcounts.2⟩⟩
    simp [hactive]
    omega
  | addBytes file =>
    cases hnext
    refine ⟨file :: live, gone, hopened.cons file, hfiles.trans perm_middle, ?_, ?_, ?_, hcounts.2⟩
    · refine (Perm.trans ?_ perm_middle).nodup hnodup
      exact perm_middle.append_left live
    · simp [hactive]
      omega
    · simp [husage]
      omega
  | discard file =>
    cases hnext
    exact ⟨live, gone, hopened, erase hfiles,
      hrest, by simpa using hactive, by simpa using husage, hcounts.2⟩
  | remove file =>
    cases hnext
    exact ⟨live, gone, hopened, erase hfiles, hrest, hactive, husage,
      forall_mem_cons.2 ⟨trivial, hcounts.2⟩⟩
  | dropFile size =>
    simp only [DiskOp.files] at hactive
    rw [DiskCache.next, if_neg (by omega)] at hnext
    cases hnext
    refine ⟨live, gone, hopened, hfiles, hrest, ?_, husage, forall_mem_cons.2 ⟨trivial, hcounts.2⟩⟩
    simp [hactive]
    omega
  | dropBytes size =>
    simp only [DiskOp.bytes] at husage
    rw [DiskCache.next, if_neg (by omega)] at hnext
    cases hnext
    refine ⟨live, gone, hopened, hfiles, hrest, by simpa using hactive, ?_, hcounts.2⟩
    simp [husage]
    omega
  | resetFiles size => exact hcounts.1.elim
  | resetBytes => exact hcounts.1.elim

lemma start {call : DiskCall} (h : s.Exact live gone ops) (horderly : s.Orderly call)
    (hstart : s.start call = (s', o)) : ∃ live gone, s'.Exact live gone (o.toList ++ ops) := by
  obtain ⟨hopened, hfiles, hnodup, hactive, husage, hcounts⟩ := id h
  cases call with
  | create file tooLarge =>
    rw [DiskCache.start] at hstart
    split at hstart
    · cases hstart
      exact ⟨live, gone, h⟩
    · rename_i hname
      cases hstart
      have hnew : file ∉ live ++ (gone ++ ops.flatMap DiskOp.held) := by
        have hfile : file ∉ s.files := fun hmem => hname (mem_map_of_mem hmem)
        rw [hfiles.mem_iff] at hfile
        have hopen : file ∉ s.opened := horderly
        rw [hopened.mem_iff] at hopen
        simp only [mem_append] at hfile hopen ⊢
        tauto
      have hfiles' := (hfiles.cons file).trans perm_middle.symm
      have hnodup' : (live ++ (gone ++ file :: ops.flatMap DiskOp.held)).Nodup :=
        ((perm_middle.append_left live).trans perm_middle).nodup_iff.2 (nodup_cons.2 ⟨hnew, hnodup⟩)
      refine ⟨live, gone, ?_⟩
      cases tooLarge
      all_goals exact ⟨hopened, hfiles', hnodup', by simpa using hactive, by simpa using husage,
        forall_mem_cons.2 ⟨trivial, hcounts⟩⟩
  | close file =>
    rw [DiskCache.start] at hstart
    split at hstart
    · rename_i hmem
      cases hstart
      obtain ⟨live', hlive⟩ := h.exists_perm_cons hmem (horderly hmem)
      refine ⟨live', gone, ?_, ?_, ?_, ?_, ?_, forall_mem_cons.2 ⟨trivial, hcounts⟩⟩
      · have := (hopened.trans (hlive.append_right gone)).erase file
        rwa [cons_append, erase_cons_head] at this
      · exact (hfiles.trans (hlive.append_right _)).trans perm_middle.symm
      · have := (hlive.append_right _).nodup hnodup
        exact ((perm_middle.append_left live').trans perm_middle).nodup_iff.2 this
      · rw [hactive, hlive.length_eq]
        simp
        omega
      · rw [husage, (hlive.map _).sum_eq]
        simp
        omega
    · cases hstart
      exact ⟨live, gone, h⟩
  | cleanup file now maxAge =>
    rw [DiskCache.start] at hstart
    split at hstart
    · rename_i hold
      cases hstart
      obtain ⟨live', hlive⟩ := h.exists_perm_cons (horderly hold.1 hold.2) hold.1
      refine ⟨live', file :: gone, ?_, ?_, ?_, ?_, ?_, forall_mem_cons.2 ⟨trivial, hcounts⟩⟩
      · exact (hopened.trans (hlive.append_right gone)).trans perm_middle.symm
      · have := (hfiles.trans (hlive.append_right _)).erase file
        rwa [cons_append, erase_cons_head] at this
      · exact perm_middle.nodup_iff.2 ((hlive.append_right _).nodup hnodup)
      · rw [hactive, hlive.length_eq]
        simp
        omega
      · rw [husage, (hlive.map _).sum_eq]
        simp
        omega
    · cases hstart
      exact ⟨live, gone, h⟩

end DiskCache.Exact

/-- Whenever nothing is going on, the counters are those of the files in the directory, so that the
    limit on disk usage is respected. -/
theorem counters_of_orderly {s : DiskCache} (h : DiskCache.Run DiskCache.Orderly ⟨{}, []⟩ ⟨s, []⟩) :
    s.activeDiskFiles = s.files.length ∧ s.currentDiskUsageBytes = (s.files.map (·.size)).sum ∧
      ∀ enabled maxBytes requestSize, s.isDiskCacheAvailable enabled maxBytes requestSize = true →
        (s.files.map (·.size)).sum + requestSize ≤ maxBytes := by
  have hexact : ∀ p, DiskCache.Run DiskCache.Orderly ⟨{}, []⟩ p →
      ∃ live gone, p.shared.Exact live gone p.threads := by
    intro p h
    induction h with
    | refl => exact ⟨[], [], .refl _, .refl _, nodup_nil, rfl, rfl, by simp⟩
    | tail _ hstep ih =>
      obtain ⟨live, gone, ih⟩ := ih
      cases hstep with
      | call ts hcall =>
        obtain ⟨call, horderly, hstart⟩ := hcall
        exact ih.start horderly hstart
      | @move _ _ _ o l r hmove =>
        obtain ⟨live, gone, hnext⟩ := (ih.perm perm_middle).next hmove
        have := hnext.perm (perm_append_comm_assoc o.toList l r)
        rw [← append_assoc] at this
        exact ⟨live, gone, this⟩
  obtain ⟨live, gone, -, hfiles, -, hactive, husage, -⟩ := hexact _ h
  rw [flatMap_nil, append_nil] at hfiles
  have husage : s.currentDiskUsageBytes = (s.files.map (·.size)).sum := by
    rw [husage, (hfiles.map _).sum_eq]
    rfl
  refine ⟨by rw [hactive,
    hfiles.length_eq]; rfl, husage, fun enabled maxBytes requestSize havailable => ?_⟩
  rw [DiskCache.isDiskCacheAvailable, husage, Bool.and_eq_true, decide_eq_true_eq] at havailable
  exact havailable.2

/-- Three storages: the file of the first is cleaned up and that of the third is too young for it,
    the second is closed twice. -/
theorem counters_of_orderly_three : ∃ s, DiskCache.Run DiskCache.Orderly ⟨{}, []⟩ ⟨s, []⟩ ∧
      s.files = [⟨"c", 30, 2⟩] ∧ s.opened = [⟨"c", 30, 2⟩, ⟨"a", 10, 0⟩] ∧
      s.activeDiskFiles = s.files.length ∧ s.currentDiskUsageBytes = (s.files.map (·.size)).sum :=
  have hrun :=
    .head (.call [] ⟨.create ⟨"a", 10, 0⟩ false, by simp [DiskCache.Orderly], rfl⟩) <|
    .head (.move [] [] rfl) <| .head (.move [] [] rfl) <|
    .head (.call [] ⟨.create ⟨"b", 20, 0⟩ false, by simp [DiskCache.Orderly], rfl⟩) <|
    .head (.move [] [] rfl) <| .head (.move [] [] rfl) <|
    .head (.call [] ⟨.cleanup ⟨"a", 10, 0⟩ 2 1, by simp [DiskCache.Orderly], rfl⟩) <|
    .head (.call [_] ⟨.close ⟨"b", 20, 0⟩, by simp [DiskCache.Orderly], rfl⟩) <|
    .head (.move [] [_] rfl) <| .head (.move [_] [] rfl) <| .head (.move [] [_] rfl) <|
    .head (.move [] [_] rfl) <| .head (.move [] [] rfl) <|
    .head (.call [] ⟨.close ⟨"b", 20, 0⟩, by simp [DiskCache.Orderly], rfl⟩) <|
    .head (.call [] ⟨.create ⟨"c", 30, 2⟩ false, by simp [DiskCache.Orderly], rfl⟩) <|
    .head (.move [] [] rfl) <| .head (.move [] [] rfl) <|
    .head (.call [] ⟨.cleanup ⟨"c", 30, 2⟩ 3 1, by simp [DiskCache.Orderly], rfl⟩) .refl
  ⟨_, hrun, rfl, rfl, (counters_of_orderly hrun).1, (counters_of_orderly hrun).2.1⟩

/-- Of two files the first is cleaned up, and then closed. -/
theorem counters_of_cleaned :
    ∃ s, DiskCache.Run (fun _ _ => True) ⟨{}, []⟩ ⟨s, []⟩ ∧ s.files = [⟨"b", 20, 0⟩] ∧
      s.activeDiskFiles = 0 ∧ s.currentDiskUsageBytes = 10 :=
  ⟨_, .head (.call [] ⟨.create ⟨"a", 10, 0⟩ false, trivial, rfl⟩) <| .head (.move [] [] rfl) <|
    .head (.move [] [] rfl) <| .head (.call [] ⟨.create ⟨"b", 20, 0⟩ false, trivial, rfl⟩) <|
    .head (.move [] [] rfl) <| .head (.move [] [] rfl) <|
    .head (.call [] ⟨.cleanup ⟨"a", 10, 0⟩ 2 1, trivial, rfl⟩) <| .head (.move [] [] rfl) <|
      .head (.move [] [] rfl) <|
    .head (.call [] ⟨.close ⟨"a", 10, 0⟩, trivial, rfl⟩) <| .head (.move [] [] rfl) <|
      .head (.move [] [] rfl) <|
    .head (.move [] [] rfl) .refl, rfl, rfl, rfl⟩

end Allrouter
