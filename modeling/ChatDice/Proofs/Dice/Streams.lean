import ChatDice.Proofs.Dice.Draws
import Mathlib.Data.Nat.Count

/-! # Sources as streams

    A source that never ends, asked again and again for a die with the same number of
    sides, gives a stream of faces.  A pool asks for one number of sides only, so all
    that a roll sees of its source is this stream, and all that it leaves is the source
    after so many dice.

    - `face`, `after`: the stream, and what is left of the source.
    - `countP_faces`: what is counted in a list of faces is counted in the stream.
    - `drawOnto_faces`, `drawAll_faces`: what is drawn is the start of the stream.
    - `face_tape`, `after_tape`: every sequence of faces is the stream of a tape, which
      counts the dice.
-/

namespace ChatDice

namespace UnendingSource

variable {σ : Type} [DieSource σ] [UnendingSource σ]

/-- The next face, and the source after it. -/
def draw (s : σ) (sides : UInt16) : UInt16 × σ :=
  (DieSource.next s sides).get (Option.isSome_iff_ne_none.2 (next_ne_none s sides))

/-- The source after `n` dice. -/
def after (s : σ) (sides : UInt16) : Nat → σ
  | 0     => s
  | n + 1 => (draw (after s sides n) sides).2

/-- The face of the die number `i`; the first die has number zero. -/
def face (s : σ) (sides : UInt16) (i : Nat) : UInt16 := (draw (after s sides i) sides).1

/-- The faces of the first `n` dice, in order. -/
def faces (s : σ) (sides : UInt16) (n : Nat) : List UInt16 := (List.range n).map (face s sides)

theorem next_after (s : σ) (sides : UInt16) (n : Nat) :
    DieSource.next (after s sides n) sides = some (face s sides n, after s sides (n + 1)) :=
  (Option.some_get _).symm

@[simp] theorem length_faces (s : σ) (sides : UInt16) (n : Nat) :
    (faces s sides n).length = n := by
  rw [faces, List.length_map, List.length_range]

theorem faces_succ (s : σ) (sides : UInt16) (n : Nat) :
    faces s sides (n + 1) = faces s sides n ++ [face s sides n] := by
  rw [faces, List.range_succ, List.map_append]
  rfl

/-- Faces are counted in the list of them as in the stream. -/
theorem countP_faces (q : UInt16 → Prop) [DecidablePred q] (s : σ) (sides : UInt16) (n : Nat) :
    (faces s sides n).countP (fun v => q v) = Nat.count (fun i => q (face s sides i)) n := by
  induction n with
  | zero => rfl
  | succ n ih =>
    rw [faces_succ, List.countP_append, ih, Nat.count_succ, List.countP_singleton]
    simp only [decide_eq_true_eq]

/-! ## Tapes -/

@[simp] theorem after_tape (t : Tape) (sides : UInt16) (n : Nat) :
    after t sides n = { t with drawn := t.drawn + n } := by
  induction n with
  | zero => rfl
  | succ n ih =>
    show (draw (after t sides n) sides).2 = _
    rw [ih]
    rfl

@[simp] theorem face_tape (t : Tape) (sides : UInt16) (i : Nat) :
    face t sides i = t.value (t.drawn + i) := by
  rw [face, after_tape]
  rfl

end UnendingSource

/-! ## Pools -/

namespace Pool

open UnendingSource

variable {σ : Type} [DieSource σ] [UnendingSource σ]

/-- Drawing goes on in the stream where it stopped.  The newest face stands first in
what was drawn. -/
theorem drawOnto_faces (die : Die) (s : σ) (k n : Nat) :
    drawOnto die n (faces s die.sides k).reverse (after s die.sides k) =
      (.ok (faces s die.sides (k + n)).reverse, after s die.sides (k + n)) := by
  -- One die fewer is left to draw when one more face was drawn, so `k` is any number.
  induction n generalizing k with
  | zero => rw [drawOnto, Nat.add_zero]
  | succ n ih =>
    have hnewest : face s die.sides k :: (faces s die.sides k).reverse =
        (faces s die.sides (k + 1)).reverse := by
      rw [faces_succ, List.reverse_concat]
    rw [drawOnto, next_after]
    dsimp only
    rw [hnewest, ih (k + 1), Nat.add_assoc, Nat.add_comm 1 n]

/-- A pool draws as many faces as it has dice. -/
theorem drawAll_faces (p : Pool) (s : σ) :
    p.drawAll s = (.ok (faces s p.die.sides p.count.toNat).reverse,
      after s p.die.sides p.count.toNat) := by
  have hdrawn := drawOnto_faces p.die s 0 p.count.toNat
  rwa [Nat.zero_add] at hdrawn

theorem normal_faces (p : Pool) (modifier : Int16) (s : σ) :
    p.normal modifier s = (.ok (.ofFaces (faces s p.die.sides p.count.toNat) modifier),
      after s p.die.sides p.count.toNat) := by
  rw [normal, drawAll_faces]
  dsimp only
  rw [List.reverse_reverse]

/-- The usual die. -/
def sixSided : Die := ⟨6, by decide⟩

end Pool

end ChatDice
