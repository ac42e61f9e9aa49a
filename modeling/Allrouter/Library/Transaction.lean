import Mathlib.Order.Basic
import Mathlib.Data.Int.Order.Basic

/-!
# Transactions and timed runs

A transaction maps a state to the one it commits, or fails; a failed one leaves
the state as it was (`commit`). A *timed run* is a sequence of steps at
nondecreasing times (`Timed.Run`); what every step keeps, whatever its time,
holds along every run (`Timed.Run.invariant`).
-/

universe u v

variable {ε : Type v} {p : Prop}

lemma Except.bind_eq_ok {α β : Type u} {x : Except ε α} {f : α → Except ε β} {b : β} :
    (x >>= f) = .ok b ↔ ∃ a, x = .ok a ∧ f a = .ok b := by
  cases x with
  | error e => exact iff_of_false (fun h => nomatch h) fun ⟨_, h, _⟩ => nomatch h
  | ok a => exact ⟨fun h => ⟨a, rfl, h⟩, fun ⟨_, h, h'⟩ => Except.ok.inj h ▸ h'⟩

lemma Except.map_eq_ok {ε α β : Type*} {x : Except ε α} {f : α → β} {b : β} :
    x.map f = .ok b ↔ ∃ a, x = .ok a ∧ f a = b := by
  cases x with
  | error e => exact iff_of_false (fun h => nomatch h) fun ⟨_, h, _⟩ => nomatch h
  | ok a =>
    exact ⟨fun h => ⟨a, rfl, Except.ok.inj h⟩, fun ⟨_, h, h'⟩ => h' ▸ Except.ok.inj h ▸ rfl⟩

lemma Except.guard_eq_ok {ε α : Type*} [Decidable p] {e : ε} {x : Except ε α} {a : α} :
    (if p then .error e else x) = .ok a ↔ ¬p ∧ x = .ok a := by
  split_ifs with h
  · simp [h]
  · simp [h]

/-- Fails unless the condition holds. -/
def Except.require {ε : Type v} (p : Prop) [Decidable p] (e : ε) : Except ε Unit :=
  if p then .ok () else .error e

lemma Except.require_eq_ok [Decidable p] {e : ε} {u : Unit} : Except.require p e = .ok u ↔ p := by
  rw [Except.require]
  split_ifs with h <;> simp [h]

lemma Except.require_bind_eq_ok {α : Type} [Decidable p] {e : ε} {f : Unit → Except ε α}
    {a : α} : (Except.require p e >>= f) = .ok a ↔ p ∧ f () = .ok a := by
  rw [Except.bind_eq_ok]
  exact ⟨fun ⟨_, h, h'⟩ => ⟨require_eq_ok.1 h, h'⟩, fun ⟨h, h'⟩ => ⟨(), require_eq_ok.2 h, h'⟩⟩

/-- The state after a transaction: what it commits, and the state before if it fails. -/
def commit {ε σ : Type*} (s : σ) : Except ε σ → σ
  | .ok s' => s'
  | .error _ => s

/-- What a transaction that succeeds keeps is kept in any case. -/
lemma commit_invariant {ε σ : Type*} {P : σ → Prop} {s : σ} {x : Except ε σ} (hs : P s)
    (h : ∀ s', x = .ok s' → P s') : P (commit s x) := by
  cases x with
  | ok s' => exact h s' rfl
  | error e => exact hs

namespace Timed

variable {σ : Type*} {step : ℤ → σ → σ → Prop}

/-- The states and times reached from `s` at time `t`, by steps at nondecreasing times. -/
inductive Run (step : ℤ → σ → σ → Prop) (t : ℤ) (s : σ) : ℤ → σ → Prop
  | refl : Run step t s t s
  | tail {t₁ t₂ : ℤ} {s₁ s₂ : σ} : Run step t s t₁ s₁ → t₁ ≤ t₂ → step t₂ s₁ s₂ → Run step t s t₂ s₂

lemma Run.invariant (Inv : ℤ → σ → Prop)
    (hstep : ∀ {t t' : ℤ} {s s' : σ}, Inv t s → t ≤ t' → step t' s s' → Inv t' s')
    {t t' : ℤ} {s s' : σ} (h : Run step t s t' s') (hs : Inv t s) : Inv t' s' := by
  induction h with
  | refl => exact hs
  | tail _ hle hst ih => exact hstep ih hle hst

end Timed
