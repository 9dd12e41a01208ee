import ChatDice.Proofs.Dice.Streams
import ChatDice.Proofs.Dice.Totals

/-! # Imploding rolls in closed form

    An imploding roll looks at the dice of the pool only.  As many dice as are at or below
    the threshold among them are added at the end, and the added ones are not looked at,
    whatever they show.

    - `implosions`: how many dice are added.
    - `imploding_faces`: what is drawn, as the start of the stream.
    - `imploding_closed_form`: what an imploding roll comes to, for every stream.
-/

namespace ChatDice.Pool

open UnendingSource

variable {σ : Type} [DieSource σ] [UnendingSource σ]

/-- How many of the dice of the pool are at or below the threshold. -/
def implosions (p : Pool) (threshold : UInt16) (s : σ) : Nat :=
  Nat.count (fun i => face s p.die.sides i ≤ threshold) p.count.toNat

variable (p : Pool) (threshold : UInt16) (s : σ)

theorem implosions_le : p.implosions threshold s ≤ p.count.toNat :=
  Nat.count_le _

/-- The implosions among the faces that were drawn are those of the stream. -/
theorem imploded_faces :
    imploded threshold (faces s p.die.sides p.count.toNat) = p.implosions threshold s :=
  countP_faces (· ≤ threshold) s p.die.sides p.count.toNat

/-- Streams that begin alike have the same implosions, also those of other sources. -/
theorem implosions_congr {τ : Type} [DieSource τ] [UnendingSource τ] {s' : τ}
    (h : ∀ i < p.count.toNat, face s' p.die.sides i = face s p.die.sides i) :
    p.implosions threshold s' = p.implosions threshold s := by
  have hfaces : faces s' p.die.sides p.count.toNat = faces s p.die.sides p.count.toNat :=
    List.map_congr_left fun i hi => h i (List.mem_range.1 hi)
  rw [← imploded_faces, hfaces, imploded_faces]

/-- An imploding roll draws its dice once and goes on for as many as have imploded. -/
theorem imploding_faces (t : Option UInt16) (modifier : Int16) :
    p.imploding t modifier s =
      (.ok (.ofFaces
          (faces s p.die.sides (p.count.toNat + p.implosions (t.getD 1) s)) modifier),
        after s p.die.sides (p.count.toNat + p.implosions (t.getD 1) s)) := by
  -- The dice are drawn in reverse, which does not matter to how many implode.
  have himploded : imploded (t.getD 1) (faces s p.die.sides p.count.toNat).reverse =
      p.implosions (t.getD 1) s := by
    rw [imploded, List.countP_reverse]
    exact p.imploded_faces _ s
  rw [imploding, drawAll_faces]
  dsimp only
  rw [himploded, drawOnto_faces]
  dsimp only
  rw [List.reverse_reverse]

/-! ## The closed form -/

/-- **Imploding rolls extend once, from the original dice only.**  With `k` of the first
`n` faces of the stream at or below the threshold, which is 1 unless given, the outcome has
just the first `n + k` faces, in order, just these are drawn, and the total is their exact
sum and the modifier.  Nothing but the first `n` faces tells how many dice there are, so
every stream that begins with them has an outcome of the same length.  The roll is never
refused, and the limit for explosions does not matter. -/
theorem imploding_closed_form (p : Pool) (threshold : Option UInt16) (modifier : Int16) (s : σ) :
    let t := threshold.getD 1
    let n := p.count.toNat
    let k := Nat.count (fun i => face s p.die.sides i ≤ t) n
    ∃ o, p.imploding threshold modifier s = (.ok o, after s p.die.sides (n + k)) ∧
      o.dice = (faces s p.die.sides (n + k)).map .counted ∧
      o.modifier = modifier ∧
      o.total.toInt = exactSum (faces s p.die.sides (n + k)) + modifier.toInt ∧
      (∀ limit, (p.withLimit limit).imploding threshold modifier s =
        p.imploding threshold modifier s) ∧
      ∀ (τ : Type) [DieSource τ] [UnendingSource τ] (s' : τ),
        (∀ i < n, face s' p.die.sides i = face s p.die.sides i) →
          ∃ o', p.imploding threshold modifier s' = (.ok o', after s' p.die.sides (n + k)) ∧
            o'.dice.length = o.dice.length := by
  intro t n k
  have hcount := p.count.toNat_lt
  have hk : k ≤ n := p.implosions_le t s
  have hlength : (faces s p.die.sides (n + k)).length < 2 ^ 47 := by
    rw [length_faces]
    omega
  refine ⟨_, p.imploding_faces s threshold modifier, rfl, rfl,
    Outcome.toInt_total_ofFaces (Outcome.fits_of_length_lt hlength modifier), fun _ => rfl, ?_⟩
  -- The other stream has the same first faces, and so as many implosions.
  intro τ _ _ s' hsame
  have hk' : p.implosions t s' = k := p.implosions_congr t s hsame
  have hother := p.imploding_faces s' threshold modifier
  rw [hk'] at hother
  refine ⟨_, hother, ?_⟩
  show ((faces s' p.die.sides (n + k)).map DieResult.counted).length =
    ((faces s p.die.sides (n + k)).map DieResult.counted).length
  rw [List.length_map, List.length_map, length_faces, length_faces]

/-- A tape that begins with a one and a two, and goes on with ones. -/
def onesTape : Tape := ⟨fun i => [3, 1, 2].getD i 1, 0⟩

/-- A tape that begins in the same way, and goes on with sixes. -/
def onesThenSixesTape : Tape := ⟨fun i => [3, 1, 2].getD i 6, 0⟩

/-- Three dice of six sides. -/
def threeDice (limit : Nat) : Pool := ⟨3, sixSided, limit⟩

/-- A one and a two implode; the ones that they add do not, and a limit of zero does not
matter.  With sixes in their place there are as many dice. -/
theorem imploding_closed_form_added_ones :
    (∃ o, (threeDice 0).imploding (some 2) (-1) onesTape = (.ok o, { onesTape with drawn := 5 }) ∧
      o.dice = [.counted 3, .counted 1, .counted 2, .counted 1, .counted 1] ∧
      o.total.toInt = 7) ∧
    (∀ i < 3, face onesThenSixesTape 6 i = face onesTape 6 i) ∧
    ∃ o, (threeDice 0).imploding (some 2) (-1) onesThenSixesTape =
        (.ok o, { onesThenSixesTape with drawn := 5 }) ∧ o.dice.length = 5 := by
  have hsame : ∀ i < 3, face onesThenSixesTape 6 i = face onesTape 6 i := by decide
  obtain ⟨o, hok, hdice, -, htotal, -, hother⟩ :=
    imploding_closed_form (threeDice 0) (some 2) (-1) onesTape
  obtain ⟨o', hok', hlength⟩ := hother Tape onesThenSixesTape hsame
  rw [after_tape] at hok hok'
  refine ⟨⟨o, hok, hdice.trans (by decide), htotal.trans (by decide)⟩, hsame, o', hok', ?_⟩
  rw [hlength, hdice]
  decide

end ChatDice.Pool
