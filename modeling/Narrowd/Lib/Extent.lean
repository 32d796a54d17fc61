import Mathlib.Data.List.Basic
import Mathlib.Tactic

set_option autoImplicit false

/-! # Writing into a sequence

`overwrite fill l pos data` is `l` with `data` written into it from the position `pos` on: what
stood there is replaced, the sequence grows if the data goes past its end, and a gap between the old
end and `pos` is filled. Writing nothing changes nothing, wherever it is written, and data that is
written in two pieces is written as one (`overwrite_overwrite`).
-/

namespace Narrowd.Lib

variable {α : Type*}

def overwrite (fill : α) (l : List α) (pos : Nat) (data : List α) : List α :=
  match data with
  | [] => l
  | _ :: _ =>
      l.take pos ++ List.replicate (pos - l.length) fill ++ data ++ l.drop (pos + data.length)

variable {fill : α} {l data : List α} {pos : Nat}

@[simp]
theorem overwrite_nil (fill : α) (l : List α) (pos : Nat) : overwrite fill l pos [] = l := rfl

theorem overwrite_of_ne_nil (hne : data ≠ []) :
    overwrite fill l pos data =
      l.take pos ++ List.replicate (pos - l.length) fill ++ data ++ l.drop (pos + data.length) := by
  cases data with
  | nil => exact absurd rfl hne
  | cons a data => rfl

theorem length_take_append_replicate (fill : α) (l : List α) (pos : Nat) :
    (l.take pos ++ List.replicate (pos - l.length) fill).length = pos := by
  simp only [List.length_append, List.length_take, List.length_replicate]
  omega

theorem length_overwrite (hne : data ≠ []) :
    (overwrite fill l pos data).length = max l.length (pos + data.length) := by
  rw [overwrite_of_ne_nil hne, List.append_assoc, List.length_append, length_take_append_replicate,
    List.length_append, List.length_drop]
  omega

/-- **Data that is written in two pieces**, one after the other, is written as one. -/
theorem overwrite_overwrite (fill : α) (l : List α) (pos : Nat) (data data' : List α) :
    overwrite fill (overwrite fill l pos data) (pos + data.length) data' =
      overwrite fill l pos (data ++ data') := by
  cases data with
  | nil => rfl
  | cons a data =>
      cases data' with
      | nil => rw [overwrite_nil, List.append_nil]
      | cons b data' =>
          set first := a :: data with hfirst
          set second := b :: data' with hsecond
          have hne : first ≠ [] := List.cons_ne_nil a data
          have hne' : second ≠ [] := List.cons_ne_nil b data'
          have hhead : (l.take pos ++ List.replicate (pos - l.length) fill ++ first).length =
              pos + first.length := by
            rw [List.length_append, length_take_append_replicate]
          have hlong : pos + first.length - (overwrite fill l pos first).length = 0 := by
            rw [length_overwrite hne]
            omega
          rw [overwrite_of_ne_nil hne', hlong, List.replicate_zero, List.append_nil,
            overwrite_of_ne_nil hne,
            overwrite_of_ne_nil (List.append_ne_nil_of_left_ne_nil hne second),
            List.take_left' hhead, ← hhead, ← List.drop_drop, List.drop_left, hhead, List.drop_drop]
          simp only [List.append_assoc, List.length_append, Nat.add_assoc]

end Narrowd.Lib
