/-
  Computations that report events and may fail.

  1. **Journals** — a journaled computation is what it reported, in order, together with how it
     ended.  A failure ends it: what was reported before stays, and nothing is reported after.
     `outcome_bind` says that the reports never change an outcome.
  2. **Effects** — `JournaledT` adds the effects of a monad.  A failure ends these too, but it takes
     none back: what was done before stays done.
-/
import FilterPlan.Event

namespace FilterPlan

/-- The events of a computation and how it ended. -/
structure Journaled (ε α : Type) where
  events : List Event
  outcome : Except ε α

namespace Journaled

variable {ε ε' α β : Type}

/-- One computation after another, unless the first one fails. -/
def andThen (x : Journaled ε α) (f : α → Journaled ε β) : Journaled ε β :=
  match x.outcome with
  | .ok a =>
    let y := f a
    ⟨x.events ++ y.events, y.outcome⟩
  | .error e => ⟨x.events, .error e⟩

instance : Monad (Journaled ε) where
  pure a := ⟨[], .ok a⟩
  bind := andThen

/-- Reports an event. -/
def report (e : Event) : Journaled ε Unit := ⟨[e], .ok ()⟩

/-- Fails. -/
def fail (e : ε) : Journaled ε α := ⟨[], .error e⟩

/-- An outcome that nothing is reported about. -/
def ofExcept (x : Except ε α) : Journaled ε α := ⟨[], x⟩

/-- The same events and outcome, a failure told in other terms. -/
def mapError (f : ε → ε') (x : Journaled ε α) : Journaled ε' α :=
  ⟨x.events, x.outcome.mapError f⟩

/-! ## Outcomes -/

@[simp] theorem outcome_bind (x : Journaled ε α) (f : α → Journaled ε β) :
    (x >>= f).outcome = x.outcome.bind fun a => (f a).outcome := by
  show (andThen x f).outcome = _
  unfold andThen
  cases x.outcome <;> rfl

@[simp] theorem outcome_report (e : Event) : (report e : Journaled ε Unit).outcome = .ok () := rfl

theorem outcome_mapError (f : ε → ε') (x : Journaled ε α) :
    (x.mapError f).outcome = x.outcome.mapError f := rfl

/-! ## Events -/

theorem events_bind_ok {x : Journaled ε α} {a : α} (h : x.outcome = .ok a)
    (f : α → Journaled ε β) : (x >>= f).events = x.events ++ (f a).events := by
  show (andThen x f).events = _
  unfold andThen
  rw [h]

theorem events_bind_error {x : Journaled ε α} {e : ε} (h : x.outcome = .error e)
    (f : α → Journaled ε β) : (x >>= f).events = x.events := by
  show (andThen x f).events = _
  unfold andThen
  rw [h]

end Journaled

/-! ## Effects -/

/-- A journaled computation with effects of a monad. -/
def JournaledT (ε : Type) (m : Type → Type) (α : Type) : Type := m (Journaled ε α)

namespace JournaledT

variable {m : Type → Type} [Monad m] {ε α β : Type}

/-- The effects, with the events and the outcome that they come to. -/
def run (x : JournaledT ε m α) : m (Journaled ε α) := x

/-- A computation without effects. -/
def ofJournaled (x : Journaled ε α) : JournaledT ε m α := (pure x : m (Journaled ε α))

/-- An effect, of which nothing is reported. -/
def lift (action : m α) : JournaledT ε m α := (do return ⟨[], .ok (← action)⟩ : m (Journaled ε α))

/-- Reports an event. -/
def report (e : Event) : JournaledT ε m Unit := ofJournaled (Journaled.report e)

/-- One computation after another, unless the first one fails. -/
def andThen (x : JournaledT ε m α) (f : α → JournaledT ε m β) : JournaledT ε m β := (do
  let first ← x.run
  match first.outcome with
  | .ok a =>
    let second ← (f a).run
    return ⟨first.events ++ second.events, second.outcome⟩
  | .error e => return ⟨first.events, .error e⟩ : m (Journaled ε β))

instance : Monad (JournaledT ε m) where
  pure a := ofJournaled (pure a)
  bind := andThen

theorem run_ofJournaled (x : Journaled ε α) :
    (ofJournaled x : JournaledT ε m α).run = pure x := rfl

theorem run_lift (action : m α) :
    (lift action : JournaledT ε m α).run = (do return ⟨[], .ok (← action)⟩) := rfl

theorem run_bind (x : JournaledT ε m α) (f : α → JournaledT ε m β) : (x >>= f).run = (do
    let first ← x.run
    match first.outcome with
    | .ok a =>
      let second ← (f a).run
      return ⟨first.events ++ second.events, second.outcome⟩
    | .error e => return ⟨first.events, .error e⟩) := rfl

end JournaledT

end FilterPlan
