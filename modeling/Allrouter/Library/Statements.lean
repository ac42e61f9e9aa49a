import Allrouter.Library.Interleaving

/-!
# Calls that are made of statements

A call runs one statement after the other on a shared state. What a statement finds there
decides which statements its call runs next (`Statements.exec`), and between any two of them
other calls may run theirs (`Statements.Run`).

* `Ends` describes a call that nothing interrupts: an assertion holds as long as it runs, and
  another one at its end. It is derived statement by statement.
* `SerialRun.during`: if every call ends so, calls that wait for each other keep both.
-/

namespace Interleaving

open Relation

/-- The calls in `κ`, the statements in `ι`, and what each statement does in the
    environment `ε`. -/
structure Statements (σ ε ι κ : Type*) where
  start : κ → List ι
  exec : ε → ι → σ → σ × List ι

namespace Statements

variable {σ ε ι κ : Type*} (S : Statements σ ε ι κ)

def begin (k : κ) (s : σ) : σ × Option (List ι) := (s, some (S.start k))

/-- The first statement is executed, and those that follow from it come next. -/
def next (e : ε) (s : σ) : List ι → σ × Option (List ι)
  | [] => (s, none)
  | i :: l => ((S.exec e i s).1, some ((S.exec e i s).2 ++ l))

/-- Any number of calls, in any order of their statements. -/
abbrev Run : Pool σ (List ι) → Pool σ (List ι) → Prop :=
  Interleaving.Run (fun s s' o => ∃ k, S.begin k s = (s', o)) (fun s t s' o =>
    ∃ e, S.next e s t = (s', o))

/-- The runs in which a call waits until the one before has ended. -/
abbrev SerialRun : Pool σ (List ι) → Pool σ (List ι) → Prop :=
  Interleaving.SerialRun (fun s s' o => ∃ k, S.begin k s = (s', o)) (fun s t s' o =>
    ∃ e, S.next e s t = (s', o))

/-- The pool after a schedule. -/
def after (p : Pool σ (List ι)) (as : List (Action κ ε)) : Pool σ (List ι) :=
  (play S.begin S.next p as).getD p

lemma run_after (p : Pool σ (List ι)) (as : List (Action κ ε)) : S.Run p (S.after p as) :=
  run_getD_play S.begin S.next p as

/-- Run without interruption, the statements keep `Q` and end in `P`. -/
inductive Ends (Q P : σ → Prop) : σ → List ι → Prop
  | nil {s : σ} (hQ : Q s) (hP : P s) : Ends Q P s []
  | cons {s : σ} {i : ι} {l : List ι} (hQ : Q s) (h : ∀ e,
    Ends Q P (S.exec e i s).1 ((S.exec e i s).2 ++ l)) :
      Ends Q P s (i :: l)

variable {S} {Q P : σ → Prop} {s : σ} {p q : Pool σ (List ι)}

lemma Ends.during {l : List ι} (h : S.Ends Q P s l) : Q s := by
  cases h with
  | nil hQ => exact hQ
  | cons hQ => exact hQ

lemma SerialRun.during (hstart : ∀ k s, P s → S.Ends Q P s (S.start k)) (hPQ : ∀ s, P s → Q s)
    (h : S.SerialRun p q) (hidle : p.threads = []) (hp : P p.shared) : Q q.shared := by
  have hend : ∃ o, q.threads = Option.toList o ∧ o.elim (P q.shared) (S.Ends Q P q.shared) := by
    refine Interleaving.SerialRun.invariant (fun s o => o.elim (P s) (S.Ends Q P s)) ?_ ?_ h
      ⟨none, hidle, hp⟩
    · rintro s s' o hs ⟨k, hk⟩
      cases hk
      exact hstart k s hs
    · rintro s s' t o ht ⟨e, he⟩
      cases t with
      | nil =>
        cases he
        cases ht with
        | nil _ hP => exact hP
      | cons i l =>
        cases he
        cases ht with
        | cons _ h => exact h e
  obtain ⟨o, -, ho⟩ := hend
  cases o with
  | none => exact hPQ _ ho
  | some l => exact Ends.during ho

end Statements

end Interleaving
