import Mathlib.Data.List.DropRight
import Mathlib.Tactic

set_option autoImplicit false

/-! # Moves in a tree

A place in a tree is the list of the names that lead to it from the top. A move goes up to the
parent, where the top is its own parent, or down to a child.

Whatever the place they start from, some moves climb a number of levels above it and then descend
along some names: `walk_eq_net` computes the two from the moves alone.
-/

namespace Narrowd.Lib

variable {α : Type*}

inductive Move (α : Type*)
  | up
  | down (name : α)
  deriving DecidableEq, Repr

def Move.apply (place : List α) : Move α → List α
  | .up => place.dropLast
  | .down name => place ++ [name]

/-- The place that moves lead to. -/
def walk (place : List α) (moves : List (Move α)) : List α := moves.foldl Move.apply place

@[simp]
theorem walk_nil (place : List α) : walk place [] = place := rfl

theorem walk_append (place : List α) (moves moves' : List (Move α)) :
    walk place (moves ++ moves') = walk (walk place moves) moves' :=
  List.foldl_append

theorem walk_downs (place names : List α) : walk place (names.map Move.down) = place ++ names := by
  induction names generalizing place with
  | nil => simp
  | cons name names ih =>
      change walk (place ++ [name]) (names.map Move.down) = _
      rw [ih, List.append_assoc, List.singleton_append]

/-- What moves amount to: the levels that they climb, and the names that they end with below. -/
structure Net (α : Type*) where
  climbs : Nat
  names : List α
  deriving DecidableEq, Repr

def Net.add (n : Net α) : Move α → Net α
  | .up =>
      match n.names with
      | [] => { n with climbs := n.climbs + 1 }
      | _ :: _ => { n with names := n.names.dropLast }
  | .down name => { n with names := n.names ++ [name] }

def net (moves : List (Move α)) : Net α := moves.foldl Net.add ⟨0, []⟩

theorem Net.apply_add (place : List α) (n : Net α) (move : Move α) :
    move.apply (place.rdrop n.climbs ++ n.names) =
      place.rdrop (n.add move).climbs ++ (n.add move).names := by
  cases move with
  | down name => exact List.append_assoc _ _ _
  | up =>
      unfold Net.add Move.apply
      cases hnames : n.names with
      | nil =>
          -- the move climbs one level more
          have hone : (place.rdrop n.climbs).dropLast = (place.rdrop n.climbs).rdrop 1 := by
            simp [List.rdrop, List.dropLast_eq_take]
          simp [hone, List.rdrop_add]
      | cons name names =>
          rw [List.dropLast_append_of_ne_nil (List.cons_ne_nil name names)]

/-- **Moves climb and descend.** -/
theorem walk_eq_net (place : List α) (moves : List (Move α)) :
    walk place moves = place.rdrop (net moves).climbs ++ (net moves).names := by
  induction moves using List.reverseRecOn with
  | nil => simp [net]
  | append_singleton moves move ih =>
      have hnet : net (moves ++ [move]) = (net moves).add move := by simp [net]
      rw [walk_append, ih, hnet]
      exact Net.apply_add place (net moves) move

end Narrowd.Lib
