import Allrouter.Library.Transaction

/-!
# Two runs

Transactions that are run twice, from states that differ in what is not to matter. The two
runs *agree* when both fail alike, or both succeed with values that are related (`Agree`): so do
transactions whose parts agree (`Agree.bind`). A machine that answers every call agrees with another
one on every sequence of calls, if it does on each of them (`play_agree`).
-/

namespace TwoRuns

universe u v

variable {ε : Type v} {α β γ δ : Type u}

/-- Both fail with the same error, or both succeed with related values. -/
inductive Agree (R : α → β → Prop) : Except ε α → Except ε β → Prop
  | ok {a : α} {b : β} (h : R a b) : Agree R (.ok a) (.ok b)
  | error (e : ε) : Agree R (.error e) (.error e)

variable {R : α → β → Prop} {S : γ → δ → Prop} {x : Except ε α} {y : Except ε β}
    {f : α → Except ε γ}

lemma Agree.of_eq {R : α → α → Prop} {x y : Except ε α} (h : x = y) (hR : ∀ a, R a a) :
    Agree R x y := by
  subst h
  cases x with
  | error e => exact .error e
  | ok a => exact .ok (hR a)

lemma Agree.cases (h : Agree R x y) : (∃ a b, x = .ok a ∧ y = .ok b ∧ R a b) ∨ ∃ e, x = .error e ∧
    y = .error e := by
  cases h with
  | ok h => exact .inl ⟨_, _, rfl, rfl, h⟩
  | error e => exact .inr ⟨e, rfl, rfl⟩

lemma Agree.eq {x y : Except ε α} (h : Agree (fun a b => b = a) x y) : y = x := by
  cases h with
  | ok h => rw [h]
  | error e => rfl

lemma Agree.imp {S : α → β → Prop} (h : Agree R x y) (hRS : ∀ a b, x = .ok a → R a b → S a b) :
    Agree S x y := by
  cases h with
  | ok h => exact .ok (hRS _ _ rfl h)
  | error e => exact .error e

lemma Agree.bind {g : β → Except ε δ} (h : Agree R x y)
    (hfg : ∀ a b, R a b → Agree S (f a) (g b)) : Agree S (x >>= f) (y >>= g) := by
  cases h with
  | ok h => exact hfg _ _ h
  | error e => exact .error e

lemma Agree.bind_eq {x y : Except ε α} {g : α → Except ε δ} (h : y = x)
    (hfg : ∀ a, Agree S (f a) (g a)) : Agree S (x >>= f) (y >>= g) := by
  subst h
  cases y with
  | ok a => exact hfg a
  | error e => exact .error e

lemma Agree.map {f : α → γ} {g : β → δ} (h : Agree R x y) (hfg : ∀ a b, R a b → S (f a) (g b)) :
    Agree S (x.map f) (y.map g) := by
  cases h with
  | ok h => exact .ok (hfg _ _ h)
  | error e => exact .error e

lemma mapM_congr {g : α → Except ε γ} {l : List α} (h : ∀ x ∈ l, f x = g x) :
    l.mapM f = l.mapM g := by
  induction l with
  | nil => rfl
  | cons x l ih =>
    obtain ⟨hx, hl⟩ := List.forall_mem_cons.1 h
    rw [List.mapM_cons, List.mapM_cons, hx, ih hl]

/-! ## Machines -/

/-- The state after a transaction, and its error if it fails. -/
def respond (s : α) : Except ε α → α × Option ε
  | .ok s' => (s', none)
  | .error e => (s, some e)

/-- Transactions that agree give the same answer. -/
lemma Agree.respond {R : α → β → Prop} {s : α} {t : β} {x : Except ε α} {y : Except ε β}
    (h : Agree R x y) (hst : R s t) : R (respond s x).1 (respond t y).1 ∧
      (TwoRuns.respond s x).2 = (TwoRuns.respond t y).2 := by
  cases h with
  | ok h => exact ⟨h, rfl⟩
  | error e => exact ⟨hst, rfl⟩

variable {ι σ τ ο : Type*}

/-- The state after the calls, and the answers to them. -/
def play (step : ι → σ → σ × ο) : List ι → σ → σ × List ο
  | [], s => (s, [])
  | i :: is, s => ((play step is (step i s).1).1, (step i s).2 :: (play step is (step i s).1).2)

lemma play_agree {step : ι → σ → σ × ο} {step' : ι → τ → τ × ο} {R : σ → τ → Prop} {is : List ι}
    (hstep : ∀ i ∈ is, ∀ s t, R s t → R (step i s).1 (step' i t).1 ∧ (step i s).2 = (step' i t).2)
    {s : σ} {t : τ} (h : R s t) : R (play step is s).1 (play step' is t).1 ∧
      (play step is s).2 = (play step' is t).2 := by
  induction is generalizing s t with
  | nil => exact ⟨h, rfl⟩
  | cons i is ih =>
    obtain ⟨hfirst, hrest⟩ := List.forall_mem_cons.1 hstep
    obtain ⟨hnext, hanswer⟩ := hfirst s t h
    obtain ⟨hlast, hanswers⟩ := ih hrest hnext
    exact ⟨hlast, by rw [play, play, hanswer, hanswers]⟩

end TwoRuns
