/-!
# Parts of texts

Whether a text occurs in another one.
-/

namespace WorkflowExpr.Text

/-- Whether the first text occurs somewhere in the second one. -/
def occursIn (part : List Char) : List Char → Bool
  | [] => part.isEmpty
  | c :: rest => part.isPrefixOf (c :: rest) || occursIn part rest

end WorkflowExpr.Text
