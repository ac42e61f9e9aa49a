import Mathlib.Tactic

/-!
# Run-time panics and slices

A program may stop with a panic, which is not one of the errors it returns (`Fault`). A slice
shows the first items of an array; it can be cut anew up to the length of the array, its
capacity, and beyond it the program panics. How a function may end is said for its errors and
its values together (`Outcome`), with a rule for loops that append to a list.
-/

namespace Runtime

open List Except

/-- What a program panics on. -/
inductive Panic
  | nilDereference
  | sliceBounds
  | index
  | nilMap
  deriving DecidableEq

/-- How a function may fail: with a panic, or with an error that it returns. -/
inductive Fault (ε : Type*)
  | panic (p : Panic)
  | failed (e : ε)
  deriving DecidableEq

/-- A nil pointer panics. -/
def deref {ε α : Type*} : Option α → Except (Fault ε) α
  | none => .error (.panic .nilDereference)
  | some a => .ok a

/-- The program does not panic. -/
def NoPanic {ε α : Type*} (x : Except (Fault ε) α) : Prop := ∀ p, x ≠ .error (.panic p)

namespace NoPanic

universe u

variable {ε : Type*} {α β : Type u} {f : α → Except (Fault ε) β} {x : Except (Fault ε) α}
    {l : List α}

lemma ok (a : α) : NoPanic (.ok a : Except (Fault ε) α) := nofun

lemma failed (e : ε) : NoPanic (.error (.failed e) : Except (Fault ε) α) := nofun

lemma bind_pure_iff {f : α → β} : NoPanic (x >>= fun a => pure (f a)) ↔ NoPanic x := by
  cases x with
  | ok a => exact iff_of_true (ok _) (ok _)
  | error e =>
    refine forall_congr' fun p => not_congr ?_
    exact ⟨fun h => congrArg error (error.inj h), fun h => congrArg error (error.inj h)⟩

end NoPanic

/-- A slice, which shows the first items of its array. -/
structure Slice (α : Type*) where
  array : List α
  len : ℕ
  len_le : len ≤ array.length

namespace Slice

variable {α ε : Type*}

/-- The slice of all items of a list, with no capacity beyond them. -/
def ofList (l : List α) : Slice α := ⟨l, l.length, le_rfl⟩

def toList (s : Slice α) : List α := s.array.take s.len

def cap (s : Slice α) : ℕ := s.array.length

/-- The first `n` items of the array. -/
def reslice (s : Slice α) (n : ℕ) : Except (Fault ε) (Slice α) :=
  if h : n ≤ s.array.length then .ok ⟨s.array, n, h⟩ else .error (.panic .sliceBounds)

end Slice

/-- A function fails with an error in `Q` or returns a value in `P`. -/
def Outcome {ε α : Type*} (Q : ε → Prop) (P : α → Prop) : Except ε α → Prop
  | .error e => Q e
  | .ok a => P a

namespace Outcome

universe u

variable {ε : Type*} {α β : Type u} {Q : ε → Prop} {x : Except ε α} {P : α → Prop} {l : List α}
  {f : β → α → Except ε β} {P' : β → Prop}

lemma imp {Q' : ε → Prop} {P' : α → Prop} (hx : Outcome Q P x) (hQ : ∀ e, Q e → Q' e)
    (hP : ∀ a, P a → P' a) : Outcome Q' P' x := by
  cases x with
  | error e => exact hQ e hx
  | ok a => exact hP a hx

lemma bind {f : α → Except ε β} (hx : Outcome Q P x)
    (hf : ∀ a, P a → Outcome Q P' (f a)) : Outcome Q P' (x >>= f) := by
  cases x with
  | error e => exact hx
  | ok a => exact hf a hx

/-- A loop keeps what each round keeps. -/
lemma foldlM {P : β → Prop} (h : ∀ a ∈ l, ∀ b, P b → Outcome Q P (f b a))
    {b : β} (hb : P b) : Outcome Q P (l.foldlM f b) := by
  induction l generalizing b with
  | nil => exact hb
  | cons a l ih =>
    exact (h a mem_cons_self b hb).bind fun b' hb' =>
      ih (fun a' ha' => h a' (mem_cons_of_mem _ ha')) hb'

/-- A loop whose rounds are related to what they do, if these relations compose. -/
lemma foldlM_flatMap {γ : Type*} {R : β → List γ → β → Prop} (hnil : ∀ b, R b [] b)
    (happend : ∀ {b b' b'' : β} {l l' : List γ}, R b l b' → R b' l' b'' → R b (l ++ l') b'')
    {g : α → List γ} (h : ∀ a ∈ l, ∀ b, Outcome Q (R b (g a)) (f b a)) (b : β) :
    Outcome Q (R b (l.flatMap g)) (l.foldlM f b) := by
  induction l generalizing b with
  | nil => exact hnil b
  | cons a l ih =>
    refine (h a mem_cons_self b).bind fun b' hb' => ?_
    exact (ih (fun a' ha' => h a' (mem_cons_of_mem _ ha')) b').imp (fun _ => id) fun _ =>
      happend hb'

lemma map {f : α → β} (hx : Outcome Q P x) (hf : ∀ a, P a → P' (f a)) : Outcome Q P' (x.map f) := by
  cases x with
  | error e => exact hx
  | ok a => exact hf a hx

lemma mapM {P : α → β → Prop} {f : α → Except ε β} (h : ∀ a ∈ l, Outcome Q (P a) (f a)) :
    Outcome Q (fun bs => ∀ b ∈ bs, ∃ a ∈ l, P a b) (l.mapM f) := by
  induction l with
  | nil => exact fun _ hb => absurd hb not_mem_nil
  | cons a l ih =>
    rw [mapM_cons]
    refine (h a mem_cons_self).bind fun b hb => ?_
    refine (ih fun a' ha' => h a' (mem_cons_of_mem _ ha')).bind fun bs hbs => ?_
    intro b' hb'
    rcases mem_cons.1 hb' with rfl | hb'
    · exact ⟨a, mem_cons_self, hb⟩
    · obtain ⟨a', ha', h'⟩ := hbs b' hb'
      exact ⟨a', mem_cons_of_mem _ ha', h'⟩

lemma of_ok {a : α} (hx : Outcome Q P x) (h : x = .ok a) : P a := by
  subst h
  exact hx

end Outcome

end Runtime
