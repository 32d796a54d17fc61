import Mathlib.Data.List.Basic
import Mathlib.Tactic

set_option autoImplicit false

/-! # Runs of a transition system

A transition system is a predicate `init` on states and a relation `step s e s'`, read "from
`s` the event `e` leads to `s'`". A *run* is the list of its events, **newest first**, with the
state it ends in. Keeping the newest event at the head makes "the calls made before this one"
the tail of the list and "the last call that …" a `find?` or a `takeWhile` on it.

`Run.invariant` is the induction every safety argument of the development goes through: what
holds initially and is kept by each step holds at the end of every run. `Run.exists_done` is its
counterpart for progress, and `Run.simulate` compares the runs of two systems. `restrict` cuts a
system down to the steps that meet a condition on the state before the step.
-/

namespace Narrowd.Lib

section

variable {σ ε : Type*}

/-- `Run init step h s`: starting from an initial state, the events `h` (newest first) lead
to `s`. -/
inductive Run (init : σ → Prop) (step : σ → ε → σ → Prop) : List ε → σ → Prop
  | nil {s : σ} (h0 : init s) : Run init step [] s
  | cons {h : List ε} {s s' : σ} {e : ε} (hr : Run init step h s) (hs : step s e s') :
      Run init step (e :: h) s'

variable {init : σ → Prop} {step : σ → ε → σ → Prop} {s : σ} {h : List ε}

/-- **The invariant rule.** The invariant may speak about the history as well as the state. -/
theorem Run.invariant {P : List ε → σ → Prop} (h0 : ∀ s, init s → P [] s)
    (hstep : ∀ h s e s', Run init step h s → P h s → step s e s' → P (e :: h) s')
    (hr : Run init step h s) : P h s := by
  induction hr with
  | nil hs => exact h0 _ hs
  | cons hr hs ih => exact hstep _ _ _ _ hr ih hs

/-- The steps that meet the condition `C` on the event and the state before it. -/
def restrict (step : σ → ε → σ → Prop) (C : σ → ε → Prop) : σ → ε → σ → Prop :=
  fun s e s' => step s e s' ∧ C s e

/-- A run is a run of every system that allows more. -/
theorem Run.mono {init' : σ → Prop} {step' : σ → ε → σ → Prop} (hinit : ∀ s, init s → init' s)
    (hstep : ∀ s e s', step s e s' → step' s e s') (hr : Run init step h s) :
    Run init' step' h s := by
  induction hr with
  | nil h0 => exact .nil (hinit _ h0)
  | cons _ hs ih => exact .cons ih (hstep _ _ _ hs)

variable {C : σ → ε → Prop}

/-- A run of the restricted system is a run of the system. -/
theorem Run.of_restrict (hr : Run init (restrict step C) h s) : Run init step h s :=
  hr.mono (fun _ h0 => h0) fun _ _ _ hs => hs.1

/-- A run whose events meet the condition in any state is a run of the restricted system. -/
theorem Run.to_restrict (hr : Run init step h s) (hc : ∀ e ∈ h, ∀ s, C s e) :
    Run init (restrict step C) h s := by
  induction hr with
  | nil h0 => exact .nil h0
  | cons _ hs ih =>
      exact .cons (ih fun e he => hc e (List.mem_cons_of_mem _ he)) ⟨hs, hc _ List.mem_cons_self _⟩

/-- Every suffix of a run's history is itself the history of a run. -/
theorem Run.of_append {h₁ h₂ : List ε} (hr : Run init step (h₁ ++ h₂) s) :
    ∃ s', Run init step h₂ s' := by
  induction h₁ generalizing s with
  | nil => exact ⟨s, hr⟩
  | cons e h₁ ih =>
      cases hr with
      | cons hr _ => exact ih hr

/-- A run that starts where another one ends continues it. -/
theorem Run.append {h' : List ε} {s' : σ} (hr : Run init step h s) (hr' : Run (· = s) step h' s') :
    Run init step (h' ++ h) s' := by
  induction hr' with
  | nil heq => exact heq ▸ hr
  | cons _ hs ih => exact ih.cons hs

/-- A run can be cut at any point of its history. -/
theorem Run.split {h₁ h₂ : List ε} (hr : Run init step (h₁ ++ h₂) s) :
    ∃ s', Run init step h₂ s' ∧ Run (· = s') step h₁ s := by
  induction h₁ generalizing s with
  | nil => exact ⟨s, hr, .nil rfl⟩
  | cons e h₁ ih =>
      cases hr with
      | cons hr hs =>
          obtain ⟨s', hbefore, hafter⟩ := ih hr
          exact ⟨s', hbefore, hafter.cons hs⟩

/-- **The exactness rule.** A property that holds initially, and that a step keeps exactly when it
meets the condition, holds at the end of exactly the runs all of whose steps meet it. -/
theorem Run.iff_restrict {P : σ → Prop} (h0 : ∀ s, init s → P s)
    (hstep : ∀ s e s', step s e s' → (P s' ↔ P s ∧ C s e)) (hr : Run init step h s) :
    P s ↔ Run init (restrict step C) h s := by
  induction hr with
  | nil hs => exact ⟨fun _ => .nil hs, fun _ => h0 _ hs⟩
  | @cons h s s' e hr hs ih =>
      constructor
      · intro hp
        obtain ⟨hbefore, hc⟩ := (hstep s e s' hs).mp hp
        exact .cons (ih.mp hbefore) ⟨hs, hc⟩
      · intro hrestrict
        refine Run.invariant (P := fun _ s => P s) h0 ?_ hrestrict
        intro _ s e s' _ hp hs
        exact (hstep s e s' hs.1).mpr ⟨hp, hs.2⟩

/-- The runs each of whose steps meets `P`, which may speak about the events before the step. -/
inductive EachStep (init : σ → Prop) (step : σ → ε → σ → Prop) (P : List ε → σ → ε → σ → Prop) :
    List ε → σ → Prop
  | nil {s : σ} (h0 : init s) : EachStep init step P [] s
  | cons {h : List ε} {s s' : σ} {e : ε} (hr : EachStep init step P h s) (hs : step s e s')
      (hp : P h s e s') : EachStep init step P (e :: h) s'

/-- The newest step of such a run. -/
theorem EachStep.head {P : List ε → σ → ε → σ → Prop} {e : ε} {s' : σ}
    (hr : EachStep init step P (e :: h) s') : ∃ s, step s e s' ∧ P h s e s' := by
  cases hr with
  | @cons _ s _ _ _ hs hp => exact ⟨s, hs, hp⟩

/-- **Exactness step by step.** If along the histories of `H` a step has the property exactly when
it meets the condition, then every step of such a run has it if and only if every step meets the
condition. -/
theorem EachStep.iff_restrict {P : List ε → σ → ε → σ → Prop} {H : List ε → Prop}
    (htail : ∀ e h, H (e :: h) → H h)
    (hstep : ∀ h s e s', Run init step h s → H (e :: h) → step s e s' → (P h s e s' ↔ C s e))
    (hh : H h) : EachStep init step P h s ↔ Run init (restrict step C) h s := by
  constructor
  · intro hr
    induction hr with
    | nil h0 => exact .nil h0
    | cons _ hs hp ih =>
        have hbefore := ih (htail _ _ hh)
        exact .cons hbefore ⟨hs, (hstep _ _ _ _ hbefore.of_restrict hh hs).mp hp⟩
  · intro hr
    induction hr with
    | nil h0 => exact .nil h0
    | cons hr hs ih =>
        have hp := (hstep _ _ _ _ hr.of_restrict hh hs.1).mpr hs.2
        exact .cons (ih (htail _ _ hh)) hs.1 hp

/-- The runs that pass through states of `P` only. -/
def Throughout (init : σ → Prop) (step : σ → ε → σ → Prop) (P : σ → Prop) : List ε → σ → Prop :=
  Run (fun s => init s ∧ P s) fun s e s' => step s e s' ∧ P s'

/-- **Exactness for what can be lost and regained.** If `Q` is never regained, and a step from `Q`
keeps `P` exactly if it keeps `Q`, then `P` has held all along if and only if `Q` holds at the
end. -/
theorem Run.throughout_iff {P Q : σ → Prop} (h0 : ∀ s, init s → P s ∧ Q s)
    (hback : ∀ s e s', step s e s' → Q s' → Q s)
    (hstep : ∀ h s e s', Run init step h s → step s e s' → Q s → (P s' ↔ Q s'))
    (hr : Run init step h s) : Throughout init step P h s ↔ Q s := by
  constructor
  · intro hall
    refine Run.invariant (P := fun _ s => Q s) (fun s hs => (h0 s hs.1).2) ?_ hall
    intro h s e s' hr hq hs
    have hrun : Run init step h s := hr.mono (fun _ hs => hs.1) fun _ _ _ hs => hs.1
    exact (hstep h s e s' hrun hs.1 hq).mp hs.2
  · intro hq
    induction hr with
    | nil hs => exact .nil ⟨hs, (h0 _ hs).1⟩
    | @cons h s s' e hr hs ih =>
        have hbefore := hback s e s' hs hq
        exact .cons (ih hbefore) ⟨hs, (hstep h s e s' hr hs hbefore).mpr hq⟩

/-- **The progress rule.** If there is a next step from every state of `P` that is not in `Q`, and
it stays in `P` and lowers the measure, then every run can be continued into `Q`. -/
theorem Run.exists_done {P Q : σ → Prop} (measure : σ → Nat)
    (hnext : ∀ s, P s → ¬ Q s → ∃ e s', step s e s' ∧ P s' ∧ measure s' < measure s)
    (hr : Run init step h s) (hp : P s) : ∃ h' s', Run init step (h' ++ h) s' ∧ P s' ∧ Q s' := by
  induction hm : measure s using Nat.strongRecOn generalizing h s with
  | _ n ih =>
      by_cases hdone : Q s
      · exact ⟨[], s, hr, hp, hdone⟩
      · obtain ⟨e, s₁, hs, hp₁, hlt⟩ := hnext s hp hdone
        obtain ⟨h', s', hr', hend⟩ := ih (measure s₁) (hm ▸ hlt) (.cons hr hs) hp₁ rfl
        exact ⟨h' ++ [e], s', by rwa [List.append_assoc, List.singleton_append], hend⟩

/-- **The simulation rule.** A system follows another one along every history of `H` if it can
answer each of its steps with a step for the same event and stay related to it. -/
theorem Run.simulate {τ : Type*} {init₂ : τ → Prop} {step₂ : τ → ε → τ → Prop} {H : List ε → Prop}
    {R : List ε → σ → τ → Prop} (htail : ∀ e h, H (e :: h) → H h)
    (h0 : ∀ s, init s → ∃ t, init₂ t ∧ R [] s t)
    (hstep : ∀ h s t e s', H (e :: h) → R h s t → step s e s' →
      ∃ t', step₂ t e t' ∧ R (e :: h) s' t')
    (hr : Run init step h s) (hh : H h) : ∃ t, Run init₂ step₂ h t ∧ R h s t := by
  induction hr with
  | nil hs =>
      obtain ⟨t, ht, hrel⟩ := h0 _ hs
      exact ⟨t, .nil ht, hrel⟩
  | @cons h s s' e hr hs ih =>
      obtain ⟨t, hrt, hrel⟩ := ih (htail e h hh)
      obtain ⟨t', hst, hrel'⟩ := hstep h s t e s' hh hrel hs
      exact ⟨t', .cons hrt hst, hrel'⟩

end

/-! ## Time order -/

section

variable {ε τ : Type*} [Preorder τ]

/-- The events of a history (newest first) carry nondecreasing times. -/
def Ordered (time : ε → τ) (h : List ε) : Prop := h.Pairwise (fun e e' => time e' ≤ time e)

variable {time : ε → τ}

theorem Ordered.tail {e : ε} {h : List ε} (ho : Ordered time (e :: h)) :
    Ordered time h := (List.pairwise_cons.mp ho).2

/-- The newest event of an ordered history is the latest. -/
theorem Ordered.le_head {e e' : ε} {h : List ε} (ho : Ordered time (e :: h)) (he : e' ∈ h) :
    time e' ≤ time e := (List.pairwise_cons.mp ho).1 e' he

theorem Ordered.of_append {h₁ h₂ : List ε} (ho : Ordered time (h₁ ++ h₂)) :
    Ordered time h₂ := (List.pairwise_append.mp ho).2.1

end

end Narrowd.Lib
