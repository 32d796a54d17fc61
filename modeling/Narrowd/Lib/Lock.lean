import Mathlib.Tactic

set_option autoImplicit false

/-! # Locks that a panic poisons

A `Mutex` or `RwLock` protects a state `σ`. A critical section that panics leaves the lock
*poisoned*, and every later `lock().expect(..)` panics in turn. Code that may panic is
modelled by a partial function, `none` standing for the panic, and `Lock.withLock` runs such
code on the protected state.
-/

namespace Narrowd.Lib

/-- A lock around a state. -/
inductive Lock (σ : Type*)
  | healthy (s : σ)
  | poisoned

namespace Lock

variable {σ α : Type*}

/-- The protected state; a poisoned lock gives access to none. -/
def state? : Lock σ → Option σ
  | healthy s => some s
  | poisoned => none

/-- Run a critical section. The result is `none` when the caller panics: because the section
does, or because an earlier one did. -/
def withLock (l : Lock σ) (f : σ → Option (α × σ)) : Option α × Lock σ :=
  match l with
  | healthy s =>
      match f s with
      | some (a, s') => (some a, healthy s')
      | none => (none, poisoned)
  | poisoned => (none, poisoned)

@[simp] theorem state?_healthy (s : σ) : (healthy s).state? = some s := rfl

variable {l : Lock σ}

theorem state?_eq_some_iff {s : σ} : l.state? = some s ↔ l = healthy s := by
  cases l <;> simp [state?]

@[simp] theorem withLock_poisoned (f : σ → Option (α × σ)) :
    (poisoned : Lock σ).withLock f = (none, poisoned) := rfl

theorem withLock_healthy (s : σ) (f : σ → Option (α × σ)) :
    (healthy s).withLock f
      = match f s with
        | some (a, s') => (some a, healthy s')
        | none => (none, poisoned) := rfl

variable {f : σ → Option (α × σ)}

/-- A caller that did not panic ran its section on a healthy lock, and left it healthy. -/
theorem withLock_eq_some {l' : Lock σ} {a : α} (h : l.withLock f = (some a, l')) :
    ∃ s s', l = healthy s ∧ f s = some (a, s') ∧ l' = healthy s' := by
  cases l with
  | poisoned => cases h
  | healthy s =>
      rw [withLock_healthy] at h
      split at h
      · next a' s' hf => cases h; exact ⟨s, s', rfl, hf, rfl⟩
      · cases h

/-- A caller that panicked leaves the lock poisoned. -/
theorem withLock_eq_none {l' : Lock σ} (h : l.withLock f = (none, l')) : l' = poisoned := by
  cases l with
  | poisoned => cases h; rfl
  | healthy s =>
      rw [withLock_healthy] at h
      split at h
      · cases h
      · cases h; rfl

/-- A lock that is healthy afterwards has what the section left behind. -/
theorem exists_of_healthy_after {s' : σ} (h : (l.withLock f).2 = healthy s') :
    ∃ s a, l = healthy s ∧ f s = some (a, s') := by
  cases hr : l.withLock f with
  | mk r l' =>
      rw [hr] at h
      cases r with
      | none =>
          rw [withLock_eq_none hr] at h
          cases h
      | some a =>
          obtain ⟨s, s'', hs, hf, hl'⟩ := withLock_eq_some hr
          cases hl'.symm.trans h
          exact ⟨s, a, hs, hf⟩

/-- A section that gets through leaves the lock healthy. -/
theorem withLock_of_isSome {s : σ} (h : (f s).isSome) :
    ∃ a s', (healthy s).withLock f = (some a, healthy s') := by
  obtain ⟨⟨a, s'⟩, hf⟩ := Option.isSome_iff_exists.mp h
  exact ⟨a, s', by rw [withLock_healthy, hf]⟩

/-- A lock that nothing heals was healthy before if it is so after. -/
theorem exists_healthy_before {f : Lock σ → Lock σ} (hf : f poisoned = poisoned) {s' : σ}
    (h : f l = healthy s') : ∃ s, l = healthy s := by
  cases l with
  | poisoned => rw [hf] at h; cases h
  | healthy s => exact ⟨s, rfl⟩

end Lock

end Narrowd.Lib
