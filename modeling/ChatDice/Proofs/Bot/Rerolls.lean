import ChatDice.Proofs.Bot.Verdict
import Mathlib.Control.Monad.Basic

/-! # Rerolls

    Rolling a reference again is rolling its request: the lookup is done before
    anything is drawn or recorded, so it does not matter that the new entry may evict
    the old one.  The new reference is that of the newest entry and can be rolled again
    in turn, so a chain of rerolls goes on for as long as its steps succeed.

    - `lookup?_of_roll`: a new reference is found.
    - `Chain`: rolls of rolls.
    - `lookup?_of_chain`: each of them is a roll of the first request.
    - `reroll_eq_roll`: all of this together.
-/

namespace ChatDice.Table

variable {σ S : Type} [DieSource σ] [Store S]
variable {t : Table σ S} {r : Reference} {q : Request}

/-! ## New references -/

/-- A request that was rolled is found under its new reference, however few entries
the log keeps. -/
theorem lookup?_of_roll {now : Instant} {o : Outcome} (h : (t.roll now q).answer = .ok (o, r)) :
    (t.roll now q).table.log.lookup? r = some q :=
  RollLog.lookup?_of_held (held_of_roll h)

/-! ## Chains -/

/-- A chain of rolls from a table: a request is rolled, and then the newest roll again
and again, by the reference that it got.  What happens between two steps is left open
as long as the entries of the log stay: dice may be rolled elsewhere, rolls may fail,
the store may change. -/
inductive Chain (t₀ : Table σ S) (q : Request) : Reference → Table σ S → Prop
  | roll {now : Instant} {o : Outcome} {r : Reference}
      (success : (t₀.roll now q).answer = .ok (o, r)) : Chain t₀ q r (t₀.roll now q).table
  | reroll {r : Reference} {t t' : Table σ S} (chain : Chain t₀ q r t)
      (same : t'.log.entries = t.log.entries) {now : Instant} {o : Outcome} {r' : Reference}
      (success : (t'.reroll now r).answer = .ok (o, r')) : Chain t₀ q r' (t'.reroll now r).table

/-- Every step of a chain rolls the request that it started with. -/
theorem lookup?_of_chain {t₀ : Table σ S} (chain : Chain t₀ q r t) :
    t.log.lookup? r = some q := by
  -- The reference that a step rolls again was found when it was new, and still is.
  induction chain with
  | roll success => exact lookup?_of_roll success
  | @reroll r t t' _ same now o r' success ih =>
    have hfound : t'.log.lookup? r = some q := by
      rwa [RollLog.lookup?, RollLog.get?, same]
    rw [reroll_of_lookup? now hfound] at success ⊢
    exact lookup?_of_roll success

/-- **A reroll is the original roll with fresh dice.**  Rolling a reference again gives
what rolling its request gives, result or fault, and leaves the same table.  A new
reference differs from the one that was rolled again and from all others in the log,
and the same request is found under it.  A reference that is not found changes nothing.
So in a chain of rolls, however long, every reference is that of the first request
when it is new. -/
theorem reroll_eq_roll (t : Table σ S) (now : Instant) (r : Reference) :
    (∀ q, t.log.lookup? r = some q →
      (t.replay now r).answer = (t.roll now q).answer.map (q, ·) ∧
      (t.replay now r).table = (t.roll now q).table ∧
      (t.reroll now r).answer = (t.roll now q).answer ∧
      (t.reroll now r).table = (t.roll now q).table ∧
      ∀ o r', (t.reroll now r).answer = .ok (o, r') →
        r' ≠ r ∧ (∀ e ∈ t.log.entries, e.reference ≠ r') ∧
          (t.reroll now r).table.log.lookup? r' = some q) ∧
    (t.log.lookup? r = none →
      t.replay now r = ⟨.error (.failed (.notFound r)), t, []⟩ ∧
      t.reroll now r = ⟨.error (.failed (.notFound r)), t, []⟩) ∧
    ∀ q r' t', Chain t q r' t' → t'.log.lookup? r' = some q := by
  refine ⟨fun q hfound => ?_, fun hnone => ?_, fun q r' t' => lookup?_of_chain⟩
  · rw [replay_of_lookup? now hfound, reroll_of_lookup? now hfound]
    refine ⟨rfl, rfl, rfl, rfl, fun o r' hok => ?_⟩
    -- The old reference is that of an entry, the new one of none.
    have hfresh := fresh_of_roll hok
    obtain ⟨e, he, hreference, -⟩ := RollLog.exists_mem_of_lookup? hfound
    refine ⟨?_, hfresh, lookup?_of_roll hok⟩
    rw [← hreference]
    exact (hfresh e he).symm
  · exact ⟨replay_of_not_found now hnone, reroll_of_not_found now hnone⟩

/-- A table whose log keeps one entry only. -/
def lastRollTable : Table Tape Shelf :=
  ⟨⟨fun i => UInt16.ofNat (i + 1), 0⟩, .ofEntries [] 1, .ofEntries [] false, 10⟩

/-- A reroll evicts the entry of the roll that it repeats, whose reference is not found
any more.  The new one stands for the same request, with other dice. -/
theorem reroll_eq_roll_lastRollTable :
    ∃ r r' t t', (lastRollTable.roll ⟨5, 0⟩ (.plain 2 6)).answer = .ok (.ofFaces [1, 2] 0, r) ∧
      (lastRollTable.roll ⟨5, 0⟩ (.plain 2 6)).table = t ∧
      (t.reroll ⟨5, 0⟩ r).answer = .ok (.ofFaces [3, 4] 0, r') ∧ (t.reroll ⟨5, 0⟩ r).table = t' ∧
      t'.log.entries.length = 1 ∧ r' ≠ r ∧ t'.log.lookup? r' = some (.plain 2 6) ∧
      t'.reroll ⟨5, 0⟩ r = ⟨.error (.failed (.notFound r)), t', []⟩ := by
  let r : Reference := ⟨"2699ce625ee99ea385797e81cb9357e5"⟩
  let r' : Reference := ⟨"441b64c63db73ada4d7b995cf4438e24"⟩
  let t := (lastRollTable.roll ⟨5, 0⟩ (.plain 2 6)).table
  let t' := (t.reroll ⟨5, 0⟩ r).table
  have hfirst : (lastRollTable.roll ⟨5, 0⟩ (.plain 2 6)).answer = .ok (.ofFaces [1, 2] 0, r) := by
    decide +kernel
  have hsecond : (t.reroll ⟨5, 0⟩ r).answer = .ok (.ofFaces [3, 4] 0, r') := by decide +kernel
  have chain : Chain lastRollTable (.plain 2 6) r t := .roll hfirst
  have chain' : Chain lastRollTable (.plain 2 6) r' t' := chain.reroll rfl hsecond
  obtain ⟨-, -, hchain⟩ := reroll_eq_roll lastRollTable ⟨5, 0⟩ r
  have hnew := ((reroll_eq_roll t ⟨5, 0⟩ r).1 _ (hchain _ _ _ chain)).2.2.2.2 _ _ hsecond
  refine ⟨r, r', t, t', hfirst, rfl, hsecond, rfl, by decide +kernel, hnew.1,
    hchain _ _ _ chain', ?_⟩
  exact ((reroll_eq_roll t' ⟨5, 0⟩ r).2.1 (by decide +kernel)).2

end ChatDice.Table
