import Purse.Hash.Blake3

/-!
# Draws

Numbers that settle a random order. They are drawn by round and position, so that the draws of one
round say nothing about those of another.
-/

namespace Purse

/-- Numbers that settle an order: each picks, modulo their count, one of the items that are left. -/
abbrev Draws := List Nat

/-- The number at a position of a round, as a seed fixes it. -/
def drawnFrom (seed : Bytes) (round position : Nat) : Nat :=
  (Blake3.hash (Bytes.ofNat 8 round ++ Bytes.ofNat 8 position ++ seed)).toNat

/-- The first `count` draws of a round. -/
def drawsOf (draw : (round position : Nat) → Nat) (count round : Nat) : Draws :=
  (List.range count).map (draw round)

/-- The order that the draws settle. Items that no draw picks keep their order. -/
def shuffle {α : Type} : Draws → List α → List α
  | [], items => items
  | _ :: _, [] => []
  | draw :: draws, item :: rest =>
      let items := item :: rest
      let index := draw % items.length
      items[index]?.toList ++ shuffle draws (items.eraseIdx index)

end Purse
