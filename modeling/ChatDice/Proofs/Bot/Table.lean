import ChatDice.Bot.Table
import ChatDice.Proofs.Log.Retention

/-! # One roll at the table

    What a roll at the table can do, and what it does to entries that are held in
    the log.

    - `roll_inv`: everything that a roll can do, and the table after it.
    - `roll_cases`: the dice give a fault, or the roll is not recorded, or it is.
    - `recorded_of_roll`, `not_recorded_of_roll`: the same by the answer.
    - `held_of_roll`, `held_roll_error`, `held_roll_ok`: entries that are held after a roll.
    - `replay_of_lookup?`, `replay_of_not_found`: a reroll, by what is found.
-/

namespace ChatDice

/-! ## Failures -/

/-- A failure of a roll itself; only a lookup fails otherwise. -/
def RollFailure.IsOfRoll : RollFailure → Prop
  | .notFound _ => False
  | _           => True

/-- A fault of a roll itself. -/
def Fault.IsOfRoll : Fault → Prop
  | .failed f => f.IsOfRoll
  | .halted _ => True

namespace Table

variable {σ S : Type} [DieSource σ]

/-- Drawing dice gives a dice error, or stops for want of values. -/
theorem fault_of_draw {t : Table σ S} {q : Request} {f : Fault} {source : σ}
    (h : t.draw q = (.error f, source)) :
    (∃ e, f = .failed (.dice e)) ∨ f = .halted .sourceExhausted := by
  unfold draw at h
  split at h
  · next e _ =>
    -- The number of sides is refused before the source is asked.
    obtain ⟨hf, -⟩ := Prod.mk.inj h
    exact .inl ⟨e, (Except.error.inj hf).symm⟩
  · split at h
    · cases h
    · next fault _ _ =>
      obtain ⟨hf, -⟩ := Prod.mk.inj h
      obtain rfl := Except.error.inj hf
      match fault with
      | .refused e  => exact .inl ⟨e, rfl⟩
      | .exhausted  => exact .inr rfl

theorem isOfRoll_draw {t : Table σ S} {q : Request} {f : Fault} {source : σ}
    (h : t.draw q = (.error f, source)) : f.IsOfRoll := by
  rcases fault_of_draw h with ⟨e, rfl⟩ | rfl
  · trivial
  · trivial

/-! ## All that a roll can do -/

variable [Store S]

/-- A roll draws, finds a reference and saves, in this order, and stops at the first
of them that fails.  Only if nothing fails do entries and store change. -/
theorem roll_inv (t : Table σ S) (now : Instant) (q : Request) :
    (∃ f source, t.draw q = (.error f, source) ∧
      t.roll now q = ⟨.error f, { t with source := source }, []⟩) ∨
    (∃ o source, t.draw q = (.ok o, source) ∧ t.log.nextReference now = none ∧
      t.roll now q = ⟨.error (.halted .referencesExhausted), { t with source := source }, []⟩) ∨
    (∃ o source r k e, t.draw q = (.ok o, source) ∧ t.log.nextReference now = some (r, k) ∧
      Store.save t.store (t.log.slide ⟨r, now, q, o⟩) = .error e ∧
      t.roll now q = ⟨.error (.failed (.storage e)),
        { t with source := source, log := { t.log with sequence := k } }, []⟩) ∨
    (∃ o source r k s, t.draw q = (.ok o, source) ∧ t.log.nextReference now = some (r, k) ∧
      Store.save t.store (t.log.slide ⟨r, now, q, o⟩) = .ok s ∧
      t.roll now q = ⟨.ok (o, r),
        { t with
          source := source
          log    := { t.log with entries := t.log.slide ⟨r, now, q, o⟩, sequence := k }
          store  := s },
        [.recorded r q, .rolled q o.total r]⟩) := by
  match hdraw : t.draw q with
  | (.error f, source) => exact .inl ⟨f, source, rfl, by rw [roll, hdraw]⟩
  | (.ok o, source) =>
    -- Once the dice are drawn, what is left is what recording them can do.
    right
    rcases t.log.record_cases t.store now ⟨q, o⟩ with
      ⟨hnone, hrecord⟩ | ⟨r, k, e, hnext, hsave, hrecord⟩ | ⟨r, k, s, hnext, hsave, hrecord⟩
    · refine .inl ⟨o, source, rfl, hnone, ?_⟩
      rw [roll, hdraw]
      dsimp only
      rw [hrecord]
      rfl
    · refine .inr (.inl ⟨o, source, r, k, e, rfl, hnext, hsave, ?_⟩)
      rw [roll, hdraw]
      dsimp only
      rw [hrecord]
      rfl
    · refine .inr (.inr ⟨o, source, r, k, s, rfl, hnext, hsave, ?_⟩)
      rw [roll, hdraw]
      dsimp only
      rw [hrecord]
      rfl

/-- A roll gives a fault of its dice and leaves the log alone, or records what came
out: either the recording fails and so does the roll, or both give a reference. -/
theorem roll_cases (t : Table σ S) (now : Instant) (q : Request) :
    (∃ f, f.IsOfRoll ∧ (t.roll now q).answer = .error f ∧ (t.roll now q).table.log = t.log) ∨
    (∃ o e, (t.log.record t.store now ⟨q, o⟩).answer = .error e ∧
      (t.roll now q).answer = .error (.ofRecord e) ∧
      (t.roll now q).table.log = (t.log.record t.store now ⟨q, o⟩).log) ∨
    (∃ o r, (t.log.record t.store now ⟨q, o⟩).answer = .ok r ∧
      (t.roll now q).answer = .ok (o, r) ∧
      (t.roll now q).table.log = (t.log.record t.store now ⟨q, o⟩).log) := by
  unfold roll
  split
  · next f _ hdraw => exact .inl ⟨f, isOfRoll_draw hdraw, rfl, rfl⟩
  · next o _ _ =>
    -- The log after the roll is that after the recording, whatever its answer.
    cases hrecord : (t.log.record t.store now ⟨q, o⟩).answer with
    | error e => exact .inr (.inl ⟨o, e, hrecord, by simp [hrecord], by simp [hrecord]⟩)
    | ok r => exact .inr (.inr ⟨o, r, hrecord, by simp [hrecord], by simp [hrecord]⟩)

variable {t : Table σ S} {now : Instant} {q : Request} {r : Reference} {newer : Nat}

/-- A roll that succeeds was recorded. -/
theorem recorded_of_roll {o : Outcome} (h : (t.roll now q).answer = .ok (o, r)) :
    (t.log.record t.store now ⟨q, o⟩).answer = .ok r ∧
      (t.roll now q).table.log = (t.log.record t.store now ⟨q, o⟩).log := by
  rcases t.roll_cases now q with ⟨_, -, hanswer, -⟩ | ⟨_, _, -, hanswer, -⟩ |
    ⟨o', r', hrecord, hanswer, hlog⟩
  · rw [hanswer] at h
    cases h
  · rw [hanswer] at h
    cases h
  · rw [hanswer] at h
    obtain ⟨rfl, rfl⟩ := Prod.mk.inj (Except.ok.inj h)
    exact ⟨hrecord, hlog⟩

/-- A roll that fails does so by itself, and leaves the log alone or to a recording
that failed. -/
theorem not_recorded_of_roll {f : Fault} (h : (t.roll now q).answer = .error f) :
    f.IsOfRoll ∧ ((t.roll now q).table.log = t.log ∨
      ∃ o e, (t.log.record t.store now ⟨q, o⟩).answer = .error e ∧
        (t.roll now q).table.log = (t.log.record t.store now ⟨q, o⟩).log) := by
  rcases t.roll_cases now q with ⟨g, hg, hanswer, hlog⟩ | ⟨o, e, hrecord, hanswer, hlog⟩ |
    ⟨_, _, -, hanswer, -⟩
  · rw [hanswer] at h
    obtain rfl := Except.error.inj h
    exact ⟨hg, .inl hlog⟩
  · rw [hanswer] at h
    obtain rfl := Except.error.inj h
    exact ⟨by cases e <;> trivial, .inr ⟨o, e, hrecord, hlog⟩⟩
  · rw [hanswer] at h
    cases h

/-! ## What stays in the log -/

@[simp] theorem capacity_roll (t : Table σ S) (now : Instant) (q : Request) :
    (t.roll now q).table.log.capacity = t.log.capacity := by
  rcases t.roll_cases now q with ⟨_, -, -, hlog⟩ | ⟨_, _, -, -, hlog⟩ | ⟨_, _, -, -, hlog⟩
  · rw [hlog]
  · rw [hlog, RollLog.capacity_record]
  · rw [hlog, RollLog.capacity_record]

/-- A roll that succeeds is held under its reference, with none newer. -/
theorem held_of_roll {o : Outcome} (h : (t.roll now q).answer = .ok (o, r)) :
    (t.roll now q).table.log.Held r q 0 := by
  obtain ⟨hrecord, hlog⟩ := recorded_of_roll h
  rw [hlog]
  exact RollLog.held_of_recorded hrecord

/-- The reference of a roll that succeeds is 32 hexadecimal digits. -/
theorem isHex_of_roll {o : Outcome} (h : (t.roll now q).answer = .ok (o, r)) : r.IsHex :=
  RollLog.isHex_of_recorded (recorded_of_roll h).1

/-- It is that of no entry before the roll. -/
theorem fresh_of_roll {o : Outcome} (h : (t.roll now q).answer = .ok (o, r)) :
    ∀ e ∈ t.log.entries, e.reference ≠ r := by
  obtain ⟨_, href⟩ := RollLog.nextReference_of_recorded (recorded_of_roll h).1
  exact RollLog.nextReference_fresh href

/-- A roll that fails keeps every entry as it is held. -/
theorem held_roll_error {q' : Request} {f : Fault} (hheld : t.log.Held r q newer)
    (h : (t.roll now q').answer = .error f) : (t.roll now q').table.log.Held r q newer := by
  obtain ⟨-, hlog | ⟨o, e, hrecord, hlog⟩⟩ := not_recorded_of_roll h
  · rwa [hlog]
  · rw [hlog]
    exact RollLog.held_record_error hheld hrecord

/-- A roll that succeeds adds a newer entry, which is no harm while there is room. -/
theorem held_roll_ok {q' : Request} {o : Outcome} {r' : Reference}
    (hheld : t.log.Held r q newer) (hroom : newer + 1 < t.log.capacity)
    (h : (t.roll now q').answer = .ok (o, r')) :
    (t.roll now q').table.log.Held r q (newer + 1) := by
  rw [(recorded_of_roll h).2]
  exact RollLog.held_record hheld hroom

/-! ## Rerolls -/

/-- A reroll is the roll of the request that was found. -/
theorem replay_of_lookup? (now : Instant) (h : t.log.lookup? r = some q) :
    t.replay now r = ⟨(t.roll now q).answer.map (q, ·), (t.roll now q).table,
      .rerolling r q :: (t.roll now q).notices⟩ := by
  rw [replay, h]

theorem reroll_of_lookup? (now : Instant) (h : t.log.lookup? r = some q) :
    t.reroll now r = ⟨(t.roll now q).answer, (t.roll now q).table,
      .rerolling r q :: (t.roll now q).notices⟩ := by
  rw [reroll, replay_of_lookup? now h]
  dsimp only
  cases (t.roll now q).answer <;> rfl

/-- Without one the table is left alone. -/
theorem replay_of_not_found (now : Instant) (h : t.log.lookup? r = none) :
    t.replay now r = ⟨.error (.failed (.notFound r)), t, []⟩ := by
  rw [replay, h]

theorem reroll_of_not_found (now : Instant) (h : t.log.lookup? r = none) :
    t.reroll now r = ⟨.error (.failed (.notFound r)), t, []⟩ := by
  rw [reroll, replay_of_not_found now h]
  rfl

end Table

end ChatDice
