/-!
# Layouts

Some intersection algorithms rely on data stored beside the postings.  A
layout says which data a list carries.
-/

namespace Postings

/-- What a list carries besides its postings. -/
inductive Layout where
  | plain
  | sentinel
  | skipPointers (count : Nat)
  deriving DecidableEq

namespace Layout

instance : Inhabited Layout where
  default := .plain

def render : Layout → String
  | .plain => "Plain"
  | .sentinel => "Sentinel"
  | .skipPointers count => s!"SkipPointers({count})"

end Layout

end Postings
