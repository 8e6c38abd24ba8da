/-! # Failed trials

    Why a trial yields no figure.  A failed trial is data that is published with
    its configuration; it never ends a run. -/

namespace BenchSweep

/-- Why a trial yields no figure. -/
inductive Failure where
  | launch (reason : String)
  | wait (reason : String)
  | timeout (limitMs : UInt64)
  | nonZeroExit (status : String)
  | unparseable (marker : String)
deriving DecidableEq, Repr

namespace Failure

/-- The name of a failure's kind in records. -/
def kind : Failure → String
  | .launch _      => "launch"
  | .wait _        => "wait"
  | .timeout _     => "timeout"
  | .nonZeroExit _ => "non_zero_exit"
  | .unparseable _ => "unparseable"

/-- A short phrase for a failure's kind. -/
def phrase : Failure → String
  | .launch _      => "launch error"
  | .wait _        => "wait error"
  | .timeout _     => "timeout"
  | .nonZeroExit _ => "nonzero exit"
  | .unparseable _ => "unparseable output"

/-- The wording of a failure. -/
def message (f : Failure) : String :=
  f.phrase ++ ": " ++
    match f with
    | .launch reason      => reason
    | .wait reason        => reason
    | .timeout limitMs    => "exceeded " ++ toString limitMs.toNat ++ "ms"
    | .nonZeroExit status => status
    | .unparseable marker => "no '" ++ marker ++ "' figure found"

end Failure

end BenchSweep
