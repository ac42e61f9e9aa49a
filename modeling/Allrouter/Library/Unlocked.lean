import Allrouter.Library.Interleaving

/-!
# Transactions without a lock

A transaction reads a row and later commits what follows from it, to the state as it is by
then (`Unlocked`). In between, others commit; and some updates are a single
statement, that reads and writes at once.

* `Unlocked.serial_of_current`: where every transaction commits to the row that it has
  read, the state is one which they reach one after the other;
* `Unlocked.invariant_of_current`: what each of them keeps is then kept by all of them.
-/

namespace Interleaving

open Relation

/-- Transactions in `ι` that read a row in `ρ`, and updates in `α` that are one statement. -/
structure Unlocked (σ ρ ι α : Type*) where
  read : σ → ρ
  commit : ι → ρ → σ → σ
  act : α → σ → σ

namespace Unlocked

variable {σ ρ ι α : Type*} (S : Unlocked σ ρ ι α)

/-- A transaction reads the row, or an update takes place. -/
def start : ι ⊕ α → σ → σ × Option (ι × ρ)
  | .inl i, s => (s, some (i, S.read s))
  | .inr a, s => (S.act a s, none)

def next (_ : Unit) (s : σ) (t : ι × ρ) : σ × Option (ι × ρ) := (S.commit t.1 t.2 s, none)

/-- Any number of transactions and updates, in any order. -/
abbrev Run : Pool σ (ι × ρ) → Pool σ (ι × ρ) → Prop :=
  Interleaving.Run (fun s s' o => ∃ call, S.start call s = (s', o))
    (fun s t s' o => ∃ k, S.next k s t = (s', o))

/-- The runs in which every transaction commits to the row it has read. -/
abbrev CurrentRun : Pool σ (ι × ρ) → Pool σ (ι × ρ) → Prop :=
  Interleaving.Run (fun s s' o => ∃ call, S.start call s = (s', o))
    (fun s t s' o => S.read s = t.2 ∧ ∃ k, S.next k s t = (s', o))

def after (p : Pool σ (ι × ρ)) (as : List (Action (ι ⊕ α) Unit)) : Pool σ (ι × ρ) :=
  (play S.start S.next p as).getD p

lemma run_after (p : Pool σ (ι × ρ)) (as : List (Action (ι ⊕ α) Unit)) : S.Run p (S.after p as) :=
  run_getD_play S.start S.next p as

/-- A transaction or an update that nothing interrupts. -/
inductive Serial : σ → σ → Prop
  | commit (i : ι) (s : σ) : Serial s (S.commit i (S.read s) s)
  | act (a : α) (s : σ) : Serial s (S.act a s)

variable {S} {p q : Pool σ (ι × ρ)}

lemma serial_of_current (h : S.CurrentRun p q) : ReflTransGen S.Serial p.shared q.shared := by
  induction h with
  | refl => exact .refl
  | tail _ hstep ih =>
    cases hstep with
    | call ts hcall =>
      obtain ⟨call, hcall⟩ := hcall
      cases call with
      | inl i =>
        cases hcall
        exact ih
      | inr a =>
        cases hcall
        exact ih.tail (.act a _)
    | move l r hmove =>
      obtain ⟨hread, k, ⟨⟩⟩ := hmove
      rw [← hread]
      exact ih.tail (.commit _ _)

lemma invariant_of_current (I : σ → Prop) (hcommit : ∀ i s, I s → I (S.commit i (S.read s) s))
    (hact : ∀ a s, I s → I (S.act a s)) (h : S.CurrentRun p q) (hp : I p.shared) : I q.shared := by
  have hserial : ∀ {s s'}, ReflTransGen S.Serial s s' → I s → I s' := by
    intro s s' hrun hs
    induction hrun with
    | refl => exact hs
    | tail _ hstep ih =>
      cases hstep with
      | commit i => exact hcommit i _ ih
      | act a => exact hact a _ ih
  exact hserial (serial_of_current h) hp

end Unlocked

end Interleaving
