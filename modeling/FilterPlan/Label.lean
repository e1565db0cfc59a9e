/-
  How a client refers to an operator or a direction: by its code or by its name.
-/

namespace FilterPlan

/-- A reference that is not yet looked up.  A code is any number, so that one which is out of
    range can still be reported. -/
inductive Label
  | code (n : Nat)
  | name (s : String)
deriving DecidableEq

end FilterPlan
