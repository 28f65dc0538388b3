/-!
# Rows of characters

A class of characters is given by its rows: the first and the last code point of each run of characters
in it.
-/

namespace WorkflowExpr.Text

/-- Whether the character is in one of the rows. -/
def isIn (rows : List (Nat × Nat)) (c : Char) : Bool :=
  rows.any fun (first, last) => first ≤ c.toNat && c.toNat ≤ last

end WorkflowExpr.Text
