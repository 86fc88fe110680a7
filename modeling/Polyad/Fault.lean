/-!
The ways an operation on a tuple can be refused while it runs. Each is
reported before anything is computed, so no refusal leaves a partial result.
-/

namespace Polyad

/-- Why an operation was refused. -/
inductive Fault
  /-- A function that the operation needs is missing. -/
  | missing (operation argument : String)
  /-- The result would have `limit` slots or more. -/
  | unsupported (operation : String) (arity limit : Nat)
  deriving DecidableEq, Repr

namespace Fault

/-- The name of the kind of refusal. -/
def kind : Fault → String
  | missing _ _ => "InvalidArgument"
  | unsupported _ _ _ => "Unsupported"

/-- The sentence shown to a user. -/
def message : Fault → String
  | missing operation argument =>
    "missing required argument `" ++ argument ++ "` to `" ++ operation ++ "`"
  | unsupported operation arity limit =>
    "cannot " ++ operation ++ " onto a tuple of arity " ++ toString arity ++
      ": only arities below " ++ toString limit ++ " are supported"

end Fault

end Polyad
