import ChatDice.Bot.Table
import ChatDice.Proofs.Command.Layout
import ChatDice.Proofs.Dice.Extremes

/-! # Rolls of displayed requests

    The display form of a request is all that its roll depends on.  Requests with the same
    display form differ at most in a threshold that their kind does not use, and no pool
    looks at such a threshold: they have the same outcome or are refused for the same
    reason, and they take the same values from their source.

    - `roll_shown`: a threshold that is not displayed does not matter to a pool.
    - `roll_eq_of_text_eq`: requests with the same display form.
-/

namespace ChatDice

open Request

/-- The dice of a request do not depend on its threshold. -/
@[simp] theorem Pool.ofRequest_shown (q : Request) : Pool.ofRequest q.shown = Pool.ofRequest q := rfl

/-- A threshold that is not displayed does not matter to a roll. -/
@[simp] theorem Pool.roll_shown {σ : Type} [DieSource σ] (p : Pool) (q : Request) (s : σ) :
    p.roll q.shown s = p.roll q s := by
  rw [Pool.roll, Pool.roll, kind_shown, modifier_shown]
  cases hkind : q.kind with
  | exploding | imploding =>
    have hshown : q.shown = q := by
      rw [shown_eq_self_iff, hkind]
      exact fun _ => rfl
    rw [hshown]
  | normal | dropHigh | dropLow | keepHigh | keepLow => rfl

@[simp] theorem Table.draw_shown {σ S : Type} [DieSource σ] [Store S] (t : Table σ S)
    (q : Request) : t.draw q.shown = t.draw q := by
  simp only [Table.draw, Pool.ofRequest_shown, Pool.roll_shown]

/-- **The display form tells all that matters to a roll.**  Two requests with the same
display form have the same kind, dice count, sides and modifier, and the same threshold if
the kind uses one.  They ask for the same dice, or are refused alike; every pool, whatever
its limit, makes the same of both with every source of die values, and so does every
table: the same outcome or the same error, and the same source afterwards, so that equally
many values were drawn. -/
theorem roll_eq_of_text_eq {q q' : Request} (h : q.text = q'.text) :
    (q.kind = q'.kind ∧ q.count = q'.count ∧ q.sides = q'.sides ∧ q.modifier = q'.modifier ∧
      (q.kind.usesThreshold = true → q.threshold = q'.threshold)) ∧
    Pool.ofRequest q = Pool.ofRequest q' ∧
    (∀ (σ : Type) [DieSource σ] (p : Pool) (s : σ), p.roll q s = p.roll q' s) ∧
    ∀ (σ S : Type) [DieSource σ] [Store S] (t : Table σ S), t.draw q = t.draw q' := by
  have hshown : q.shown = q'.shown := written_eq_iff.1 (String.ofList_injective h)
  refine ⟨shown_eq_iff.1 hshown, ?_, ?_, ?_⟩
  · rw [← Pool.ofRequest_shown, hshown, Pool.ofRequest_shown]
  · intro σ _ p s
    rw [← Pool.roll_shown, hshown, Pool.roll_shown]
  · intro σ S _ _ t
    rw [← Table.draw_shown, hshown, Table.draw_shown]

/-- Four dice of which the highest is kept, whatever the threshold. -/
def highestOfFour (threshold : Option UInt16) : Request := ⟨.keepHigh, 4, 6, 2, threshold⟩

/-- A log may hold a keep roll with a threshold; it is displayed, and rolled, without. -/
theorem roll_eq_of_text_eq_unused_threshold :
    (highestOfFour (some 5)).text = (highestOfFour none).text ∧
      highestOfFour (some 5) ≠ highestOfFour none ∧
      Pool.fourDice.roll (highestOfFour (some 5)) Pool.fivesTape =
        Pool.fourDice.roll (highestOfFour none) Pool.fivesTape ∧
      (Pool.fourDice.roll (highestOfFour none) Pool.fivesTape).2.drawn = 4 := by
  have htext : (highestOfFour (some 5)).text = (highestOfFour none).text := by decide
  obtain ⟨-, -, hroll, -⟩ := roll_eq_of_text_eq htext
  exact ⟨htext, by decide, hroll Tape Pool.fourDice Pool.fivesTape, by decide⟩

end ChatDice
