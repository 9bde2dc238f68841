import ComponentSpec.Element.Basic
import ComponentSpec.Number.Numeral

/-!
# Checks

A check looks at an element with a parameter and gives an outcome: whether the element passes, a
message, and details.  It may end in a fault instead, and it may read the clock.  A check sees
nothing else, so two checks can depend on each other only through the clock.

Main statements: a computation in two steps has a result only if both steps have one
(`run_bind_eq_ok`), and the second step begins with the clock that the first has left
(`run_bind_of_ok`).
-/

namespace ComponentSpec

/-- The result of a check. -/
structure Outcome where
  passed : Bool
  message : String
  details : Option (Fields Datum) := none
  deriving Repr

/-- A clock whose readings, in seconds, are given in advance and come round again after the last. -/
structure Clock where
  readings : List Binary64 := []
  taken : Nat := 0
  deriving Repr

/-- The next reading, which is zero when none are given, and the clock after it. -/
def Clock.next (clock : Clock) : Binary64 × Clock :=
  ((clock.readings[clock.taken % clock.readings.length]?).getD (.zero false),
    { clock with taken := clock.taken + 1 })

/-- A computation that can read the clock and can end in a fault. -/
abbrev Checking := ExceptT Fault (StateM Clock)

/-- Reads the clock. -/
def readClock : Checking Binary64 :=
  fun clock =>
    let (reading, clock) := clock.next
    (.ok reading, clock)

/-- A computation that does not read the clock. -/
def timeless {α : Type} (x : Except Fault α) : Checking α :=
  ExceptT.mk (pure x)

theorem Checking.run_bind_eq_ok {α β : Type} {x : Checking α} {f : α → Checking β}
    {clock after : Clock} {b : β} (h : (x >>= f).run.run clock = (.ok b, after)) :
    ∃ a between, x.run.run clock = (.ok a, between) ∧ (f a).run.run between = (.ok b, after) := by
  rw [ExceptT.run_bind, StateT.run_bind] at h
  generalize x.run.run clock = result at h
  obtain ⟨result, between⟩ := result
  cases result with
  | error => cases h
  | ok a => exact ⟨a, between, rfl, h⟩

theorem Checking.run_bind_of_ok {α β : Type} {x : Checking α} (f : α → Checking β)
    {clock between : Clock} {a : α} (h : x.run.run clock = (.ok a, between)) :
    (x >>= f).run.run clock = (f a).run.run between := by
  rw [ExceptT.run_bind, StateT.run_bind, h]
  rfl

/-- A check of an element with a parameter. -/
abbrev Check := Element → Datum → Checking Outcome

/-- A builder of checks from a number. -/
abbrev Factory := Binary64 → Except Fault Check

namespace Check

/-- A check that does not read the clock. -/
def ofExcept (f : Element → Datum → Except Fault Outcome) : Check :=
  fun e rule => timeless (f e rule)

/-- A check that cannot fail and does not read the clock. -/
def ofFunction (f : Element → Datum → Outcome) : Check :=
  fun e rule => timeless (.ok (f e rule))

end Check
end ComponentSpec
