import Mathlib.Algebra.BigOperators.Group.List.Basic
import Mathlib.Tactic.Abel

/-!
# Threads over a shared state

A *pool* is a shared state with the threads that still have work to do on it
(`Pool`). It moves by a call, which acts on the shared state at once and may leave
a thread behind, or by a move of one of the threads (`Step`); the moves of
different threads interleave freely (`Run`).

* `Run.invariant`: an invariant of the shared state and an assertion about each
  thread hold along every run, when every step keeps them and no step breaks
  the assertion of another thread.
* `Run.invariant_pairwise`: the same, where a relation between any two of the threads
  holds as well, and may be used to show that they do not break each other's assertion.
* `Run.repaired`: a state is bad only as long as there is a thread that repairs it.
* `Run.conserved`: an amount that every step only moves between the shared state and the threads.
* `Run.exclusive`: when no call starts a thread beside another one, the pool
  never has more than one, and every step is a step of that thread or a call.
* `ApartRun.invariant`: what holds when certain threads are never there at the same time.
* `SerialRun.invariant`: what holds when every call waits for the one before it.
* `run_of_play`: a schedule, where calls and moves are functions, is executable; so is one whose
  moves satisfy a condition (`run_of_playIf`), one that keeps threads apart (`apartRun_of_play`),
  and one of calls that wait for each other (`serialRun_of_play`).
-/

namespace Interleaving

open List Option

variable {σ τ : Type*}

/-- A shared state, and the threads that still have work to do on it. -/
structure Pool (σ τ : Type*) where
  shared : σ
  threads : List τ
  deriving DecidableEq

/-- One step of a pool: a call, or a move of one of the threads, which ends it or
    leaves what it still has to do. -/
inductive Step (call : σ → σ → Option τ → Prop) (move : σ → τ → σ → Option τ → Prop) :
    Pool σ τ → Pool σ τ → Prop
  | call {s s' : σ} {o : Option τ} (ts : List τ) :
      call s s' o → Step call move ⟨s, ts⟩ ⟨s', o.toList ++ ts⟩
  | move {s s' : σ} {t : τ} {o : Option τ} (l r : List τ) :
      move s t s' o → Step call move ⟨s, l ++ t :: r⟩ ⟨s', l ++ o.toList ++ r⟩

abbrev Run (call : σ → σ → Option τ → Prop) (move : σ → τ → σ → Option τ → Prop) :
    Pool σ τ → Pool σ τ → Prop :=
  Relation.ReflTransGen (Step call move)

/-- The runs along which any two threads are related by `R`. -/
abbrev ApartRun (R : τ → τ → Prop) (call : σ → σ → Option τ → Prop)
    (move : σ → τ → σ → Option τ → Prop) :
    Pool σ τ → Pool σ τ → Prop :=
  Relation.ReflTransGen fun p q => Step call move p q ∧ q.threads.Pairwise R

variable {call : σ → σ → Option τ → Prop} {move : σ → τ → σ → Option τ → Prop} {p q : Pool σ τ}
    {R : τ → τ → Prop}

section

variable (I : σ → Prop) (A : σ → τ → Prop) (R : τ → τ → Prop) (hsymm : ∀ {t u}, R t u → R u t)
include hsymm

section

variable {R}
    (hcall : ∀ {s s' o}, I s → call s s' o → I s' ∧ (∀ u, A s u → A s' u) ∧ ∀ u ∈ o, A s' u)
  (hmove : ∀ {s s' t o}, I s → A s t → move s t s' o → I s' ∧ (∀ u, R t u → A s u → A s' u) ∧
    ∀ u ∈ o, A s' u)
include hcall hmove

/-- A step from threads any two of which are related by `R`: that the move of one does not break the
    assertion of another is needed for related ones only. -/
lemma Step.invariant (h : Step call move p q)
    (hp : I p.shared ∧ (∀ t ∈ p.threads, A p.shared t) ∧ p.threads.Pairwise R) :
    I q.shared ∧ ∀ t ∈ q.threads, A q.shared t := by
  obtain ⟨hI, hA, hR⟩ := hp
  cases h with
  | call ts hc =>
    obtain ⟨hI', hkeep, hnew⟩ := hcall hI hc
    refine ⟨hI', fun t ht => ?_⟩
    rcases mem_append.1 ht with ht | ht
    · exact hnew t (mem_toList.1 ht)
    · exact hkeep t (hA t ht)
  | @move s s' t o l r hm =>
    obtain ⟨-, htr, hltr⟩ := pairwise_append.1 hR
    obtain ⟨ht, -⟩ := pairwise_cons.1 htr
    obtain ⟨hI', hkeep, hnew⟩ := hmove hI (hA _ (by simp)) hm
    refine ⟨hI', fun u hu => ?_⟩
    rcases mem_append.1 hu with hu | hu
    · rcases mem_append.1 hu with hu | hu
      · exact hkeep u (hsymm (hltr u hu t mem_cons_self)) (hA u (by simp [hu]))
      · exact hnew u (mem_toList.1 hu)
    · exact hkeep u (ht u hu) (hA u (by simp [hu]))

lemma ApartRun.invariant (h : ApartRun R call move p q)
    (hp : I p.shared ∧ (∀ t ∈ p.threads, A p.shared t) ∧ p.threads.Pairwise R) :
    I q.shared ∧ (∀ t ∈ q.threads, A q.shared t) ∧ q.threads.Pairwise R := by
  induction h with
  | refl => exact hp
  | tail _ hstep ih =>
    obtain ⟨hI, hA⟩ := hstep.1.invariant I A hsymm hcall hmove ih
    exact ⟨hI, hA, hstep.2⟩

end

lemma Run.invariant_pairwise
    (hcall : ∀ {s s' o}, I s → call s s' o →
      I s' ∧ (∀ u, A s u → A s' u ∧ ∀ t ∈ o, R t u) ∧ ∀ u ∈ o, A s' u)
    (hmove : ∀ {s s' t o}, I s → A s t → move s t s' o →
      I s' ∧ (∀ u, A s u → R t u → A s' u ∧ ∀ t' ∈ o, R t' u) ∧ ∀ u ∈ o, A s' u)
    (h : Run call move p q)
    (hp : I p.shared ∧ (∀ t ∈ p.threads, A p.shared t) ∧ p.threads.Pairwise R) :
    I q.shared ∧ (∀ t ∈ q.threads, A q.shared t) ∧ q.threads.Pairwise R := by
  induction h with
  | refl => exact hp
  | tail _ hstep ih =>
    obtain ⟨hI', hA'⟩ := hstep.invariant I A hsymm
      (fun hI hc => (hcall hI hc).imp_right (And.imp_left fun hkeep u hu => (hkeep u hu).1))
      (fun hI ht hm => (hmove hI ht hm).imp_right (And.imp_left fun hkeep u hR hu =>
        (hkeep u hu hR).1)) ih
    refine ⟨hI', hA', ?_⟩
    obtain ⟨hI, hA, hR⟩ := ih
    cases hstep with
    | call ts hc =>
      refine pairwise_append.2 ⟨pairwise_toList, hR, fun t ht u hu => ?_⟩
      exact ((hcall hI hc).2.1 u (hA u hu)).2 t (mem_toList.1 ht)
    | @move s s' t o l r hm =>
      obtain ⟨hl, htr, hltr⟩ := pairwise_append.1 hR
      obtain ⟨ht, hr⟩ := pairwise_cons.1 htr
      have hothers : ∀ u, u ∈ l ∨ u ∈ r → ∀ t' ∈ o, R t' u := by
        have hkeep := (hmove hI (hA _ (by simp)) hm).2.1
        rintro u (hu | hu)
        · exact (hkeep u (hA u (by simp [hu])) (hsymm (hltr u hu t mem_cons_self))).2
        · exact (hkeep u (hA u (by simp [hu])) (ht u hu)).2
      refine pairwise_append.2 ⟨pairwise_append.2 ⟨hl, pairwise_toList, ?_⟩, hr, ?_⟩
      · exact fun u hu t' ht' => hsymm (hothers u (.inl hu) t' (mem_toList.1 ht'))
      · intro t' ht' u hu
        rcases mem_append.1 ht' with ht' | ht'
        · exact hltr t' ht' u (mem_cons_of_mem _ hu)
        · exact hothers u (.inr hu) t' (mem_toList.1 ht')

end

lemma Run.invariant (I : σ → Prop) (A : σ → τ → Prop)
    (hcall : ∀ {s s' o}, I s → call s s' o → I s' ∧ (∀ u, A s u → A s' u) ∧ ∀ u ∈ o, A s' u)
    (hmove : ∀ {s s' t o}, I s → A s t → move s t s' o → I s' ∧ (∀ u, A s u → A s' u) ∧
      ∀ u ∈ o, A s' u)
    (h : Run call move p q) (hp : I p.shared ∧ ∀ t ∈ p.threads, A p.shared t) :
    I q.shared ∧ ∀ t ∈ q.threads, A q.shared t := by
  have hall (ts : List τ) : ts.Pairwise fun _ _ => True := pairwise_of_forall fun _ _ => trivial
  have hrun : ApartRun (fun _ _ => True) call move p q :=
    Relation.ReflTransGen.mono (fun _ q hstep => ⟨hstep, hall q.threads⟩) _ _ h
  refine (ApartRun.invariant I A (fun _ => trivial) hcall (fun hs ht hm => ?_) hrun ⟨hp.1, hp.2,
    hall _⟩).imp_right And.left
  exact (hmove hs ht hm).imp_right fun ⟨hkeep, hnew⟩ => ⟨fun u _ => hkeep u, hnew⟩

lemma Run.conserved {M : Type*} [AddCommGroup M] (f : σ → M) (g : τ → M)
    (hcall : ∀ {s s' o}, call s s' o → f s' + (o.toList.map g).sum = f s)
    (hmove : ∀ {s s' t o}, move s t s' o → f s' + (o.toList.map g).sum = f s + g t)
    (h : Run call move p q) :
      f q.shared + (q.threads.map g).sum = f p.shared + (p.threads.map g).sum := by
  induction h with
  | refl => rfl
  | tail _ hstep ih =>
    rw [← ih]
    cases hstep with
    | call ts hc => rw [map_append, sum_append, ← add_assoc, hcall hc]
    | move l r hm =>
      simp only [map_append, map_cons, sum_append, sum_cons]
      rw [← sub_eq_zero, ← sub_eq_zero.2 (hmove hm)]
      abel

lemma Run.repaired (G : σ → Prop) (R : τ → Prop)
    (hcall : ∀ {s s' o}, call s s' o → G s' ∨ (∃ t ∈ o, R t) ∨ (G s → G s'))
    (hmove : ∀ {s s' t o}, move s t s' o → G s' ∨ (∃ t' ∈ o, R t') ∨ ¬R t ∧ (G s → G s'))
    (h : Run call move p q) (hp : G p.shared ∨ ∃ t ∈ p.threads, R t) :
      G q.shared ∨ ∃ t ∈ q.threads, R t := by
  induction h with
  | refl => exact hp
  | tail _ hstep ih =>
    cases hstep with
    | call ts hc =>
      rcases hcall hc with hgood | ⟨t, ht, hR⟩ | hkeep
      · exact .inl hgood
      · exact .inr ⟨t, by simp [mem_toList.2 ht], hR⟩
      · rcases ih with hgood | ⟨t, ht, hR⟩
        · exact .inl (hkeep hgood)
        · exact .inr ⟨t, mem_append_right _ ht, hR⟩
    | move l r hm =>
      rcases hmove hm with hgood | ⟨t, ht, hR⟩ | ⟨hnot, hkeep⟩
      · exact .inl hgood
      · exact .inr ⟨t, by simp [mem_toList.2 ht], hR⟩
      · rcases ih with hgood | ⟨t, ht, hR⟩
        · exact .inl (hkeep hgood)
        · -- the thread that repairs is another one
          rcases mem_append.1 ht with ht | ht
          · exact .inr ⟨t, by simp [ht], hR⟩
          · rcases mem_cons.1 ht with rfl | ht
            · exact absurd hR hnot
            · exact .inr ⟨t, by simp [ht], hR⟩

lemma Step.of_toList {s : σ} {o : Option τ} (h : Step call move ⟨s, o.toList⟩ q) :
    (∃ s' o', call s s' o' ∧ q = ⟨s', o'.toList ++ o.toList⟩) ∨
      ∃ t s' o', o = some t ∧ move s t s' o' ∧ q = ⟨s', o'.toList⟩ := by
  generalize hp : (⟨s, o.toList⟩ : Pool σ τ) = p at h
  cases h with
  | call ts hc =>
    cases hp
    exact .inl ⟨_, _, hc, rfl⟩
  | @move s₁ s' t o' l r hm =>
    obtain ⟨rfl, hthreads⟩ := Pool.mk.inj hp
    -- the only thread of the pool is the one that moves
    obtain ⟨rfl, rfl, rfl⟩ : l = [] ∧ r = [] ∧ o = some t := by
      cases o with
      | none => simp at hthreads
      | some u => cases l <;> simp_all
    exact .inr ⟨t, s', o', rfl, hm, by simp⟩

lemma Run.exclusive (J : σ → Option τ → Prop)
    (hcall : ∀ {s s' o o'}, J s o → call s s' o' → (o = none ∧ J s' o') ∨ (o' = none ∧ J s' o))
    (hmove : ∀ {s s' t o}, J s (some t) → move s t s' o → J s' o)
    (h : Run call move p q) (hp : ∃ s o, p = ⟨s, o.toList⟩ ∧ J s o) :
      ∃ s o, q = ⟨s, o.toList⟩ ∧ J s o := by
  induction h with
  | refl => exact hp
  | tail _ hstep ih =>
    obtain ⟨s, o, rfl, hJ⟩ := ih
    rcases hstep.of_toList with ⟨s', o', hc, rfl⟩ | ⟨t, s', o', rfl, hm, rfl⟩
    · rcases hcall hJ hc with ⟨rfl, hJ'⟩ | ⟨rfl, hJ'⟩
      · exact ⟨s', o', by simp, hJ'⟩
      · exact ⟨s', o, by simp, hJ'⟩
    · exact ⟨s', o', rfl, hmove hJ hm⟩

/-! ## Calls that wait for each other -/

/-- One step where a call waits until the thread of the one before has ended. -/
inductive SerialStep (call : σ → σ → Option τ → Prop) (move : σ → τ → σ → Option τ → Prop) :
    Pool σ τ → Pool σ τ → Prop
  | call {s s' : σ} {o : Option τ} : call s s' o → SerialStep call move ⟨s, []⟩ ⟨s', o.toList⟩
  | move {s s' : σ} {t : τ} {o : Option τ} : move s t s' o →
    SerialStep call move ⟨s, [t]⟩ ⟨s', o.toList⟩

/-- The pools reached by calls that wait for each other. -/
abbrev SerialRun (call : σ → σ → Option τ → Prop) (move : σ → τ → σ → Option τ → Prop) :
    Pool σ τ → Pool σ τ → Prop :=
  Relation.ReflTransGen (SerialStep call move)

lemma SerialRun.invariant (J : σ → Option τ → Prop)
    (hcall : ∀ {s s' o}, J s none → call s s' o → J s' o)
    (hmove : ∀ {s s' t o}, J s (some t) → move s t s' o → J s' o)
    (h : SerialRun call move p q) (hp : ∃ o, p.threads = o.toList ∧ J p.shared o) :
    ∃ o, q.threads = o.toList ∧ J q.shared o := by
  induction h with
  | refl => exact hp
  | tail _ hstep ih =>
    obtain ⟨o, ho, hJ⟩ := ih
    cases hstep with
    | call hc =>
      cases o with
      | none => exact ⟨_, rfl, hcall hJ hc⟩
      | some t => cases ho
    | move hm =>
      cases o with
      | none => cases ho
      | some t =>
        cases ho
        exact ⟨_, rfl, hmove hJ hm⟩

/-! ## Schedules -/

variable {ι κ : Type*}

/-- A call with its argument, or a move of the thread at a position, with what else
    decides it. -/
inductive Action (ι κ : Type*)
  | call (i : ι)
  | move (n : ℕ) (k : κ)

/-- The pool that a schedule leads to, if it only moves threads that are there. -/
def play (start : ι → σ → σ × Option τ) (next : κ → σ → τ → σ × Option τ) :
    Pool σ τ → List (Action ι κ) → Option (Pool σ τ)
  | p, [] => some p
  | p, .call i :: as =>
    play start next ⟨(start i p.shared).1, (start i p.shared).2.toList ++ p.threads⟩ as
  | p, .move n k :: as =>
    match p.threads.drop n with
    | [] => none
    | t :: r =>
      play start next
        ⟨(next k p.shared t).1, p.threads.take n ++ (next k p.shared t).2.toList ++ r⟩ as

variable {start : ι → σ → σ × Option τ} {next : κ → σ → τ → σ × Option τ} {as : List (Action ι κ)}

lemma Step.move_drop {n : ℕ} {t : τ} {r : List τ} {s : σ} {o : Option τ}
    (hdrop : p.threads.drop n = t :: r) (h : move p.shared t s o) :
      Step call move p ⟨s, p.threads.take n ++ o.toList ++ r⟩ := by
  have hstep : Step call move _ _ := .move (p.threads.take n) r h
  rwa [← hdrop, take_append_drop] at hstep

lemma run_of_play (h : play start next p as = some q) :
    Run (fun s s' o => ∃ i, start i s = (s', o)) (fun s t s' o => ∃ k, next k s t =
      (s', o)) p q := by
  induction as generalizing p with
  | nil => exact some.inj h ▸ .refl
  | cons a as ih =>
    cases a with
    | call i => exact .head (.call p.threads ⟨i, rfl⟩) (ih h)
    | move n k =>
      rw [play] at h
      split at h
      · cases h
      · rename_i t r hdrop
        exact .head (.move_drop hdrop ⟨k, rfl⟩) (ih h)

/-- A schedule that moves a thread which is not there leads nowhere. -/
lemma run_getD_play (start : ι → σ → σ × Option τ) (next : κ → σ → τ → σ × Option τ) (p : Pool σ τ)
    (as : List (Action ι κ)) :
    Run (fun s s' o => ∃ i, start i s = (s', o)) (fun s t s' o => ∃ k, next k s t = (s', o)) p
      ((play start next p as).getD p) := by
  cases h : play start next p as with
  | none => exact .refl
  | some q => exact run_of_play h

/-- The pool that a schedule leads to, if every thread that it moves is there and satisfies `P`. -/
def playIf (P : κ → σ → τ → Prop) [∀ k s t, Decidable (P k s t)] (start : ι → σ → σ × Option τ)
    (next : κ → σ → τ → σ × Option τ) : Pool σ τ → List (Action ι κ) → Option (Pool σ τ)
  | p, [] => some p
  | p, .call i :: as =>
    playIf P start next ⟨(start i p.shared).1, (start i p.shared).2.toList ++ p.threads⟩ as
  | p, .move n k :: as =>
    match p.threads.drop n with
    | [] => none
    | t :: r =>
      if P k p.shared t then
        playIf P start next ⟨(next k p.shared t).1,
          p.threads.take n ++ (next k p.shared t).2.toList ++ r⟩ as
      else none

lemma run_of_playIf {P : κ → σ → τ → Prop} [∀ k s t, Decidable (P k s t)]
    (hcall : ∀ i s, call s (start i s).1 (start i s).2)
    (hmove : ∀ k s t, P k s t → move s t (next k s t).1 (next k s t).2)
    (h : playIf P start next p as = some q) : Run call move p q := by
  induction as generalizing p with
  | nil => exact some.inj h ▸ .refl
  | cons a as ih =>
    cases a with
    | call i => exact .head (.call p.threads (hcall i p.shared)) (ih h)
    | move n k =>
      rw [playIf] at h
      split at h
      · cases h
      · rename_i t r hdrop
        split_ifs at h with hP
        exact .head (.move_drop hdrop (hmove k p.shared t hP)) (ih h)

/-- The pool after one action, if the thread that it moves is there. -/
def act (start : ι → σ → σ × Option τ) (next : κ → σ → τ → σ × Option τ) (p : Pool σ τ) :
    Action ι κ → Option (Pool σ τ)
  | .call i => some ⟨(start i p.shared).1, (start i p.shared).2.toList ++ p.threads⟩
  | .move n k =>
    match p.threads.drop n with
    | [] => none
    | t :: r => some ⟨(next k p.shared t).1, p.threads.take n ++ (next k p.shared t).2.toList ++ r⟩

lemma step_of_act {a : Action ι κ} (h : act start next p a = some q) :
    Step (fun s s' o => ∃ i, start i s = (s', o)) (fun s t s' o => ∃ k, next k s t =
      (s', o)) p q := by
  cases a with
  | call i =>
    cases h
    exact .call p.threads ⟨i, rfl⟩
  | move n k =>
    rw [act] at h
    split at h
    · cases h
    · rename_i t r hdrop
      cases h
      exact .move_drop hdrop ⟨k, rfl⟩

/-- The pool that a schedule leads to, if any two threads are always related by `R`. -/
def playApart (R : τ → τ → Prop) [DecidableRel R] (start : ι → σ → σ × Option τ)
    (next : κ → σ → τ → σ × Option τ) :
    Pool σ τ → List (Action ι κ) → Option (Pool σ τ)
  | p, [] => some p
  | p, a :: as =>
    match act start next p a with
    | none => none
    | some q => if q.threads.Pairwise R then playApart R start next q as else none

lemma apartRun_of_play [DecidableRel R] (h : playApart R start next p as = some q) :
    ApartRun R (fun s s' o => ∃ i, start i s = (s', o)) (fun s t s' o => ∃ k, next k s t =
      (s', o)) p q := by
  induction as generalizing p with
  | nil => exact some.inj h ▸ .refl
  | cons a as ih =>
    rw [playApart] at h
    split at h
    · cases h
    · rename_i p' hact
      split_ifs at h with hR
      exact .head (And.intro (step_of_act hact) hR) (ih h)

/-- What a schedule of calls that wait for each other leads to, if it only moves a thread that is
    there and satisfies `P`. -/
def playSerial (P : κ → σ → τ → Prop) [∀ k s t, Decidable (P k s t)] (start : ι → σ → σ × Option τ)
    (next : κ → σ → τ → σ × Option τ) : σ × Option τ → List (Action ι κ) → Option (σ × Option τ)
  | x, [] => some x
  | (s, none), .call i :: as => playSerial P start next (start i s) as
  | (s, some t), .move _ k :: as => if P k s t then playSerial P start next (next k s t) as
    else none
  | _, _ :: _ => none

lemma serialRun_of_play {P : κ → σ → τ → Prop} [∀ k s t, Decidable (P k s t)] {x y : σ × Option τ}
    (hcall : ∀ i s, call s (start i s).1 (start i s).2)
    (hmove : ∀ k s t, P k s t → move s t (next k s t).1 (next k s t).2)
    (h : playSerial P start next x as = some y) :
    SerialRun call move ⟨x.1, x.2.toList⟩ ⟨y.1, y.2.toList⟩ := by
  induction as generalizing x with
  | nil =>
    cases h
    exact .refl
  | cons a as ih =>
    obtain ⟨s, _ | t⟩ := x
    · cases a with
      | call i => exact .head (.call (hcall i s)) (ih h)
      | move n k => cases h
    · cases a with
      | call i => cases h
      | move n k =>
        rw [playSerial] at h
        split_ifs at h with hP
        exact .head (.move (hmove k s t hP)) (ih h)

lemma serialRun_getD_play {P : κ → σ → τ → Prop} [∀ k s t, Decidable (P k s t)]
    (hcall : ∀ i s, call s (start i s).1 (start i s).2)
    (hmove : ∀ k s t, P k s t → move s t (next k s t).1 (next k s t).2) (x : σ × Option τ)
    (as : List (Action ι κ)) :
    SerialRun call move ⟨x.1, x.2.toList⟩ ⟨((playSerial P start next x as).getD x).1,
      ((playSerial P start next x as).getD x).2.toList⟩ := by
  cases h : playSerial P start next x as with
  | none => exact .refl
  | some y => exact serialRun_of_play hcall hmove h

end Interleaving
