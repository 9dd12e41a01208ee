import ChatDice.Dice.Pool
import ChatDice.Log.RollLog

/-! # The dice table

    A table has a source of die values, a log and the store of the log.  Rolling
    at it draws the dice of a request and records what came out; rerolling does
    the same for the request found under a reference.

    A failure leaves log entries and store as they were.  Two things stop the
    table for good, and are kept apart from failures: a source without values,
    and a log that holds every reference there is.
-/

namespace ChatDice

/-! ## Failures -/

/-- Why a roll failed. -/
inductive RollFailure
  /-- The roll cannot be made as requested. -/
  | dice (e : DiceError)
  /-- Nothing was logged under the reference. -/
  | notFound (r : Reference)
  /-- The log could not be saved. -/
  | storage (e : SaveError)
  deriving DecidableEq

/-- The text of a failure. -/
def RollFailure.message : RollFailure → String
  | dice e     => e.message
  | notFound r => "no roll found for reference " ++ r.token
  | storage e  => e.message

/-- Why a table cannot go on. -/
inductive Halt
  | sourceExhausted
  | referencesExhausted
  deriving DecidableEq

/-- Why there is no result. -/
inductive Fault
  | failed (f : RollFailure)
  | halted (h : Halt)
  deriving DecidableEq

/-- The fault that comes from a fault of a pool. -/
def Fault.ofPool : PoolFault → Fault
  | .refused e => failed (.dice e)
  | .exhausted => halted .sourceExhausted

/-- The fault that comes from an error of recording. -/
def Fault.ofRecord : RollLog.RecordError → Fault
  | .notSaved e  => failed (.storage e)
  | .noReference => halted .referencesExhausted

/-! ## Tables -/

/-- A place to roll dice at. -/
structure Table (σ S : Type) where
  source    : σ
  log       : RollLog
  store     : S
  rollLimit : Nat

/-- What an operation of a table gives: a result or a fault, the table after it,
and notices. -/
structure Played (σ S α : Type) where
  answer  : Except Fault α
  table   : Table σ S
  notices : List Notice

namespace Table

variable {σ S : Type} [DieSource σ] [Store S]

/-- Draws the dice of a request. -/
def draw (t : Table σ S) (q : Request) : Except Fault Outcome × σ :=
  match Pool.ofRequest q with
  | .error e => (.error (.failed (.dice e)), t.source)
  | .ok p    =>
    match (p.withLimit t.rollLimit).roll q t.source with
    | (.ok o, s)    => (.ok o, s)
    | (.error f, s) => (.error (.ofPool f), s)

/-- Rolls the dice of a request and records the roll.  The result is the outcome
and the new reference. -/
def roll (t : Table σ S) (now : Instant) (q : Request) : Played σ S (Outcome × Reference) :=
  match t.draw q with
  | (.error f, source) => ⟨.error f, { t with source := source }, []⟩
  | (.ok o, source)    =>
    let r := t.log.record t.store now ⟨q, o⟩
    let t := { t with source := source, log := r.log, store := r.store }
    match r.answer with
    | .ok reference => ⟨.ok (o, reference), t, r.notices ++ [.rolled q o.total reference]⟩
    | .error e      => ⟨.error (.ofRecord e), t, r.notices⟩

/-- Rolls the request that was logged under a reference again.  The result is the
request, the outcome and the new reference. -/
def replay (t : Table σ S) (now : Instant) (r : Reference) :
    Played σ S (Request × Outcome × Reference) :=
  match t.log.lookup? r with
  | none   => ⟨.error (.failed (.notFound r)), t, []⟩
  | some q =>
    let p := t.roll now q
    ⟨p.answer.map fun a => (q, a), p.table, .rerolling r q :: p.notices⟩

/-- As `replay`, without the request. -/
def reroll (t : Table σ S) (now : Instant) (r : Reference) : Played σ S (Outcome × Reference) :=
  let p := t.replay now r
  ⟨p.answer.map (·.2), p.table, p.notices⟩

/-- Saves the log again. -/
def flush (t : Table σ S) : Except SaveError (Table σ S) :=
  (t.log.flush t.store).map fun s => { t with store := s }

end Table

end ChatDice
