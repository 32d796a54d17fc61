import Narrowd.Lib.Run
import Mathlib.Data.Rat.Cast.Order
import Mathlib.Tactic

set_option autoImplicit false

/-! # Budgets that refill with time

A rate limiter hands out tokens. What it can still hand out at time `t` is its *budget*
`avail s t`: at most `burst`, growing at most at the rate `rate`, and one smaller after each
token handed out. `count_window_le` is the bound every such limiter gives: between any two
times `t₁ ≤ t₂` it hands out at most `burst + rate * (t₂ - t₁)` tokens.

The limiter need not be a single counter: the hypotheses only speak about how the budget moves
along a run, so counters that are created and destroyed on the way are covered as long as the
budget survives the exchange.
-/

namespace Narrowd.Lib

section

variable {σ ε : Type*} {init : σ → Prop} {step : σ → ε → σ → Prop}

/-- The number of events of `h` that spend a token at a time in `[t₁, t₂]`. -/
def spentIn (time : ε → Int) (spends : ε → Bool) (t₁ t₂ : Int) (h : List ε) : Nat :=
  h.countP fun e => spends e && decide (t₁ ≤ time e ∧ time e ≤ t₂)

theorem spentIn_cons (time : ε → Int) (spends : ε → Bool) (t₁ t₂ : Int) (e : ε) (h : List ε) :
    spentIn time spends t₁ t₂ (e :: h)
      = spentIn time spends t₁ t₂ h
        + if (spends e && decide (t₁ ≤ time e ∧ time e ≤ t₂)) = true then 1 else 0 := by
  simp only [spentIn, List.countP_cons]

variable {h : List ε}

/-- Events no later than `t` and no later than `t'` are counted alike up to either. -/
theorem spentIn_congr_right {time : ε → Int} {spends : ε → Bool} {t₁ t t' : Int}
    (ht : ∀ e ∈ h, time e ≤ t) (ht' : ∀ e ∈ h, time e ≤ t') :
    spentIn time spends t₁ t h = spentIn time spends t₁ t' h := by
  refine List.countP_congr fun e he => ?_
  simp [ht e he, ht' e he]

theorem spentIn_eq_zero {time : ε → Int} {spends : ε → Bool} {t₁ t₂ : Int}
    (hlt : ∀ e ∈ h, time e < t₁) : spentIn time spends t₁ t₂ h = 0 := by
  refine List.countP_eq_zero.mpr fun e he => ?_
  have := hlt e he
  simp only [Bool.and_eq_true, decide_eq_true_eq, not_and]
  omega

/-- What a limiter owes its budget: it is between `0` and `burst`, it grows at most at `rate`,
and a step that spends a token takes one off it. -/
structure Budget (init : σ → Prop) (step : σ → ε → σ → Prop) (time : ε → Int)
    (spends : ε → Bool) (Inv : σ → Prop) (avail : σ → Int → ℚ) (burst rate : ℚ) : Prop where
  inv_init : ∀ s, init s → Inv s
  inv_step : ∀ s e s', Inv s → step s e s' → Inv s'
  nonneg : ∀ s t, Inv s → 0 ≤ avail s t
  le_burst : ∀ s t, Inv s → avail s t ≤ burst
  grow : ∀ s t t', Inv s → t ≤ t' → avail s t' ≤ avail s t + rate * ((t' - t : Int) : ℚ)
  spend : ∀ s e s', Inv s → step s e s' →
    avail s' (time e) + (if spends e = true then 1 else 0) ≤ avail s (time e)
  rate_nonneg : 0 ≤ rate

variable {time : ε → Int} {spends : ε → Bool} {Inv : σ → Prop} {avail : σ → Int → ℚ}
  {burst rate : ℚ}

theorem Budget.inv (B : Budget init step time spends Inv avail burst rate) {s : σ}
    (hr : Run init step h s) : Inv s :=
  hr.invariant (P := fun _ s => Inv s) B.inv_init fun _ s e s' _ hi hs => B.inv_step s e s' hi hs

/-- What has been spent since `t₁` and what is left at the time of the newest event together
are within the allowance of that stretch. This is the induction behind `count_window_le`. -/
theorem Budget.spent_add_avail_le (B : Budget init step time spends Inv avail burst rate) {s : σ}
    (hr : Run init step h s) (ho : Ordered time h) :
    ∀ t₁ t : Int, t₁ ≤ t → (∀ e ∈ h, time e ≤ t) →
      (spentIn time spends t₁ t h : ℚ) + avail s t ≤ burst + rate * ((t - t₁ : Int) : ℚ) := by
  induction hr with
  | nil h0 =>
      intro t₁ t ht _
      have hle := B.le_burst _ t (B.inv_init _ h0)
      have hnn : 0 ≤ rate * ((t - t₁ : Int) : ℚ) :=
        mul_nonneg B.rate_nonneg (by exact_mod_cast Int.sub_nonneg.mpr ht)
      simp only [spentIn, List.countP_nil, Nat.cast_zero]
      linarith
  | @cons h s s' e hr hs ih =>
      intro t₁ t ht hall
      have hi := B.inv hr
      have het : time e ≤ t := hall e (by simp)
      have hgrow := B.grow s' (time e) t (B.inv_step _ _ _ hi hs) het
      by_cases hlt : time e < t₁
      · -- the whole run lies before the window: nothing is spent in it
        have hz : spentIn time spends t₁ t (e :: h) = 0 := by
          refine spentIn_eq_zero fun e' he' => ?_
          rcases List.mem_cons.mp he' with rfl | he'
          · exact hlt
          · exact lt_of_le_of_lt (ho.le_head he') hlt
        have hle := B.le_burst s' t (B.inv_step _ _ _ hi hs)
        have hnn : 0 ≤ rate * ((t - t₁ : Int) : ℚ) :=
          mul_nonneg B.rate_nonneg (by exact_mod_cast Int.sub_nonneg.mpr ht)
        rw [hz, Nat.cast_zero]
        linarith
      · have hge : t₁ ≤ time e := not_lt.mp hlt
        have hprev := ih ho.tail t₁ (time e) hge fun e' he' => ho.le_head he'
        have hspend := B.spend s e s' hi hs
        have hcount : spentIn time spends t₁ t (e :: h)
            = spentIn time spends t₁ (time e) h + if spends e = true then 1 else 0 := by
          have hcongr : spentIn time spends t₁ t h = spentIn time spends t₁ (time e) h :=
            spentIn_congr_right (fun e' he' => hall e' (List.mem_cons_of_mem _ he'))
              (fun e' he' => ho.le_head he')
          rw [spentIn_cons, hcongr]
          simp [hge, het]
        have hsplit : rate * ((t - t₁ : Int) : ℚ)
            = rate * ((time e - t₁ : Int) : ℚ) + rate * ((t - time e : Int) : ℚ) := by
          push_cast; ring
        rw [hcount, hsplit]
        push_cast at hprev hspend hgrow ⊢
        linarith

/-- **The rate bound.** In any run with nondecreasing times, at most `burst + rate * (t₂ - t₁)`
tokens are spent at times in `[t₁, t₂]`. -/
theorem Budget.count_window_le (B : Budget init step time spends Inv avail burst rate) {s : σ}
    (hr : Run init step h s) (ho : Ordered time h) {t₁ t₂ : Int} (ht : t₁ ≤ t₂) :
    (spentIn time spends t₁ t₂ h : ℚ) ≤ burst + rate * ((t₂ - t₁ : Int) : ℚ) := by
  induction hr with
  | nil h0 =>
      have h := B.spent_add_avail_le (.nil h0) ho t₁ t₂ ht (by simp)
      have := B.nonneg _ t₂ (B.inv_init _ h0)
      linarith
  | @cons h s s' e hr hs ih =>
      by_cases het : time e ≤ t₂
      · have hall : ∀ e' ∈ e :: h, time e' ≤ t₂ := by
          intro e' he'
          rcases List.mem_cons.mp he' with rfl | he'
          · exact het
          · exact le_trans (ho.le_head he') het
        have hle := B.spent_add_avail_le (.cons hr hs) ho t₁ t₂ ht hall
        have := B.nonneg s' t₂ (B.inv (.cons hr hs))
        linarith
      · -- the newest event is after the window
        have hcount : spentIn time spends t₁ t₂ (e :: h) = spentIn time spends t₁ t₂ h := by
          rw [spentIn_cons]
          simp [het]
        rw [hcount]
        exact ih ho.tail

end

end Narrowd.Lib
