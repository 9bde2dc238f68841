/-!
# Faults of a check

A check that cannot be carried out ends in a fault.  The engine reports it as a warning and goes on
with the next item.
-/

namespace ComponentSpec

/-- Why a check, or the building of one, ended without an outcome. -/
inductive Fault
  /-- An integer numeral has more digits than are read. -/
  | numeralTooLong (digits : Nat)
  /-- An integer beyond the range of binary numbers was to be shown. -/
  | integerTooLarge
  /-- A quotient of integers lies beyond the range of binary numbers. -/
  | quotientTooLarge
  /-- The check itself gave up with a message. -/
  | failed (message : String)
  deriving DecidableEq, Repr

namespace Fault

/-- The most digits that an integer numeral may have. -/
def digitLimit : Nat := 4300

/-- The wording of a fault. -/
def message : Fault → String
  | numeralTooLong digits =>
      s!"Exceeds the limit ({digitLimit} digits) for integer string conversion: value has " ++
        s!"{digits} digits; use sys.set_int_max_str_digits() to increase the limit"
  | integerTooLarge => "int too large to convert to float"
  | quotientTooLarge => "integer division result too large for a float"
  | failed message => message

end Fault
end ComponentSpec
