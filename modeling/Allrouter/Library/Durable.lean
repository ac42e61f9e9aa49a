import Mathlib.Data.List.Basic

/-!
# Programs that commit

A program changes a durable state by *commits*. Each of them takes effect as a
whole, or fails and changes nothing. A run is the list of the states it commits,
with a label for each, and its result (`Run`).

* What holds at the end of a run is derived by the rules of `Program.Ensures`, one
  for each way of putting programs together.
* A process may stop between any two commits. The state it leaves is that of the last
  one before (`Run.stateAfter`), and the label tells which one that was
  (`Run.labelAfter`). What it can be is what `Program.Commits` says of every commit.
-/

namespace Durable

open List

/-- A run of a program: what it has committed, in order, and its result. -/
structure Run (κ σ ε α : Type*) where
  commits : List (κ × σ)
  result : Except ε α

namespace Run

variable {κ σ ε α : Type*} (r : Run κ σ ε α) (s : σ)

/-- The state after the first `n` commits of a run from `s`. -/
def stateAfter (n : ℕ) : σ := ((r.commits.take n).getLast?.map Prod.snd).getD s

/-- The label of the last one of the first `n` commits. -/
def labelAfter (n : ℕ) : Option κ := (r.commits.take n).getLast?.map Prod.fst

/-- Stopping leaves the state that the run started from, or one that it has committed. -/
lemma after_cases (n : ℕ) : (r.labelAfter n = none ∧ r.stateAfter s n = s) ∨
    ∃ p ∈ r.commits, r.labelAfter n = some p.1 ∧ r.stateAfter s n = p.2 := by
  rw [labelAfter, stateAfter]
  cases h : (r.commits.take n).getLast? with
  | none => exact .inl ⟨rfl, rfl⟩
  | some p => exact .inr ⟨p, mem_of_mem_take (mem_of_getLast? h), rfl, rfl⟩

lemma labelAfter_isSome {n : ℕ} (hn : 1 ≤ n) (h : r.commits ≠ []) :
    (r.labelAfter n).isSome = true := by
  obtain ⟨m, rfl⟩ : ∃ m, n = m + 1 := ⟨n - 1, by omega⟩
  obtain ⟨p, l, hl⟩ := exists_cons_of_ne_nil h
  simp [labelAfter, hl]

/-- The state at the end of a run from `s`. -/
def final : σ := (r.commits.getLast?.map Prod.snd).getD s

end Run

/-- A program that commits states in `σ` with labels in `κ`. -/
def Program (κ σ ε α : Type) := σ → Run κ σ ε α

namespace Program

variable {κ σ ε α β : Type} {s : σ} {f : α → Program κ σ ε β} {x : Program κ σ ε α}
    {l : List (κ × σ)} {k : κ} {a : α}

instance : Monad (Program κ σ ε) where
  pure a := fun _ => ⟨[], .ok a⟩
  bind x f := fun s =>
    match (x s).result with
    | .error e => ⟨(x s).commits, .error e⟩
    | .ok a =>
      let r := f a ((x s).final s)
      ⟨(x s).commits ++ r.commits, r.result⟩

def get : Program κ σ ε σ := fun s => ⟨[], .ok s⟩

def fail (e : ε) : Program κ σ ε α := fun _ => ⟨[], .error e⟩

def commit (k : κ) (f : σ → Except ε (α × σ)) : Program κ σ ε α := fun s =>
  match f s with
  | .error e => ⟨[], .error e⟩
  | .ok (a, s') => ⟨[(k, s')], .ok a⟩

/-! ## The runs of a program -/

lemma pure_bind_eq (a : α) (f : α → Program κ σ ε β) : (pure a : Program κ σ ε α) >>= f = f a := rfl

lemma bind_apply_ok (h : x s = ⟨l, .ok a⟩) :
    (x >>= f) s = ⟨l ++ (f a ((l.getLast?.map Prod.snd).getD s)).commits,
      (f a ((l.getLast?.map Prod.snd).getD s)).result⟩ := by
  change (match (x s).result with | .error e => _ | .ok a => _) = _
  rw [h]
  rfl

lemma bind_apply_error {e : ε} (h : x s = ⟨l, .error e⟩) : (x >>= f) s = ⟨l, .error e⟩ := by
  change (match (x s).result with | .error e => _ | .ok a => _) = _
  rw [h]

lemma bind_congr_of_ok {f' : α → Program κ σ ε β}
    (hx : x s = ⟨l, .ok a⟩) (h : f a = f' a) : (x >>= f) s = (x >>= f') s := by
  rw [bind_apply_ok hx, bind_apply_ok hx, h]

lemma commit_apply_ok {f : σ → Except ε (α × σ)} {s' : σ} (h : f s = .ok (a, s')) :
    commit k f s = ⟨[(k, s')], .ok a⟩ := by
  rw [commit, h]

lemma commit_apply_error {f : σ → Except ε (α × σ)} {e : ε} (h : f s = .error e) :
    commit k f s = ⟨[], .error e⟩ := by
  rw [commit, h]

/-- The last commit of two runs in a row. -/
lemma getLast?_append_getD (l l' : List (κ × σ)) (s : σ) :
    ((l ++ l').getLast?.map Prod.snd).getD s =
    (l'.getLast?.map Prod.snd).getD ((l.getLast?.map Prod.snd).getD s) := by
  cases hl' : l'.getLast? <;> simp [hl']

lemma bind_assoc_eq {γ : Type} (x : Program κ σ ε α) (f : α → Program κ σ ε β)
    (g : β → Program κ σ ε γ) :
    x >>= f >>= g = x >>= fun a => f a >>= g := by
  funext s
  cases hx : x s with
  | mk l result =>
    cases result with
    | error e => rw [bind_apply_error hx, bind_apply_error (bind_apply_error hx)]
    | ok a =>
      rw [bind_apply_ok hx]
      cases hf : f a ((l.getLast?.map Prod.snd).getD s) with
      | mk l' result' =>
        have hxf : (x >>= f) s = ⟨l ++ l', result'⟩ := by rw [bind_apply_ok hx, hf]
        cases result' with
        | error e => rw [bind_apply_error hxf, bind_apply_error hf]
        | ok b => rw [bind_apply_ok hxf, bind_apply_ok hf, getLast?_append_getD, append_assoc]

lemma bind_commits_ne_nil (h : (x s).commits ≠ []) : ((x >>= f) s).commits ≠ [] := by
  cases hxs : x s with
  | mk l result =>
    rw [hxs] at h
    cases result with
    | error e => rwa [bind_apply_error hxs]
    | ok a =>
      rw [bind_apply_ok hxs]
      exact append_ne_nil_of_left_ne_nil h _

/-! ## Pre- and postconditions -/

/-- From `s`, a run that succeeds ends with `Q`, and one that fails with `E`. -/
def Ensures (x : Program κ σ ε α) (s : σ) (Q : α → σ → Prop) (E : ε → σ → Prop) : Prop :=
  match (x s).result with
  | .ok a => Q a ((x s).final s)
  | .error e => E e ((x s).final s)

variable {x : Program κ σ ε α} {f : α → Program κ σ ε β} {Q Q' : α → σ → Prop} {R : β → σ → Prop}
  {E E' : ε → σ → Prop} {g : σ → Except ε (α × σ)}

lemma ensures_pure (a : α) (h : Q a s) : (pure a : Program κ σ ε α).Ensures s Q E := h

lemma ensures_get_bind {f : σ → Program κ σ ε β} (h : (f s).Ensures s R E) :
    (get >>= f).Ensures s R E := h

lemma ensures_commit (hok : ∀ a s', g s = .ok (a, s') → Q a s')
    (herr : ∀ e, g s = .error e → E e s) : (commit k g).Ensures s Q E := by
  cases h : g s with
  | error e =>
    rw [Ensures, commit_apply_error h]
    exact herr e h
  | ok p =>
    obtain ⟨a, s'⟩ := p
    rw [Ensures, commit_apply_ok h]
    exact hok a s' h

lemma Ensures.mono (h : x.Ensures s Q E) (hQ : ∀ a s', Q a s' → Q' a s')
    (hE : ∀ e s', E e s' → E' e s') : x.Ensures s Q' E' := by
  rw [Ensures] at h ⊢
  split at h
  · exact hQ _ _ h
  · exact hE _ _ h

lemma Ensures.bind (hx : x.Ensures s Q E) (hf : ∀ a s', Q a s' → (f a).Ensures s' R E) :
    (x >>= f).Ensures s R E := by
  rw [Ensures] at hx
  cases hxs : x s with
  | mk l result =>
    rw [hxs] at hx
    cases result with
    | error e =>
      rw [Ensures, bind_apply_error hxs]
      exact hx
    | ok a =>
      have hrest := hf a _ hx
      rw [Ensures] at hrest ⊢
      rw [bind_apply_ok hxs]
      simp only [Run.final, getLast?_append_getD] at hrest ⊢
      exact hrest

/-- What every run ensures holds at its end. -/
lemma Ensures.final {P : σ → Prop} (h : x.Ensures s (fun _ => P) (fun _ => P)) :
    P ((x s).final s) := by
  rw [Ensures] at h
  split at h <;> exact h

/-! ## What a run leaves behind where it stops -/

/-- From `s`, every commit has `P`, and a run that succeeds ends with `Q`. -/
structure Commits (x : Program κ σ ε α) (s : σ) (P : κ → σ → Prop) (Q : α → σ → Prop) : Prop where
  commits : ∀ p ∈ (x s).commits, P p.1 p.2
  ensures : x.Ensures s Q fun _ _ => True

variable {P : κ → σ → Prop}

lemma commits_pure (a : α) (h : Q a s) : (pure a : Program κ σ ε α).Commits s P Q :=
  ⟨fun _ hp => (nomatch hp), ensures_pure a h⟩

lemma commits_get_bind {f : σ → Program κ σ ε β} (h : (f s).Commits s P R) :
    (get >>= f).Commits s P R :=
  ⟨h.commits, ensures_get_bind h.ensures⟩

lemma commits_commit (hok : ∀ a s', g s = .ok (a, s') → P k s' ∧ Q a s') :
    (commit k g).Commits s P Q := by
  refine ⟨fun p hp => ?_, ensures_commit (fun a s' h => (hok a s' h).2) fun _ _ => trivial⟩
  cases h : g s with
  | error e =>
    rw [commit_apply_error h] at hp
    cases hp
  | ok q =>
    obtain ⟨a, s'⟩ := q
    rw [commit_apply_ok h] at hp
    obtain rfl := mem_singleton.1 hp
    exact (hok a s' h).1

lemma Commits.mono {P' : κ → σ → Prop} (h : x.Commits s P Q) (hP : ∀ k s', P k s' → P' k s')
    (hQ : ∀ a s', Q a s' → Q' a s') : x.Commits s P' Q' :=
  ⟨fun p hp => hP _ _ (h.commits p hp), h.ensures.mono hQ fun _ _ h => h⟩

/-- The second part of a program commits from where the first one ends. -/
lemma Commits.bind (hx : x.Commits s P Q) (hf : ∀ a s', Q a s' → (f a).Commits s' P R) :
    (x >>= f).Commits s P R := by
  refine ⟨fun p hp => ?_, hx.ensures.bind fun a s' h => (hf a s' h).ensures⟩
  have hend := hx.ensures
  have hcommits := hx.commits
  rw [Ensures] at hend
  cases hxs : x s with
  | mk l result =>
    rw [hxs] at hend hcommits
    cases result with
    | error e =>
      rw [bind_apply_error hxs] at hp
      exact hcommits p hp
    | ok a =>
      rw [bind_apply_ok hxs] at hp
      rcases mem_append.1 hp with hp | hp
      · exact hcommits p hp
      · exact (hf a _ hend).commits p hp

end Program

end Durable
