/-!
# Job status

How the steps before the current one went. The status functions answer from it.
-/

namespace WorkflowExpr

/-- How the steps so far went. -/
structure JobStatus where
  succeeded : Bool := true
  failed : Bool := false
  cancelled : Bool := false
deriving DecidableEq

/-- How a job is said to have gone. -/
inductive Conclusion where
  | success
  | failure
  | cancelled
deriving DecidableEq

namespace Conclusion

/-- The name of a conclusion. -/
def name : Conclusion → String
  | success => "success"
  | failure => "failure"
  | cancelled => "cancelled"

/-- The conclusion with the given name. -/
def ofName? : String → Option Conclusion
  | "success" => some success
  | "failure" => some failure
  | "cancelled" => some cancelled
  | _ => none

/-- The status of a job with a conclusion. -/
def status : Conclusion → JobStatus
  | success => {}
  | failure => { succeeded := false, failed := true }
  | cancelled => { succeeded := false, cancelled := true }

end Conclusion

namespace JobStatus

/-- The status with the given name. -/
def ofName? (name : String) : Option JobStatus :=
  (Conclusion.ofName? name).map Conclusion.status

/-- The wording of the refusal of a name that `ofName?` does not know. -/
def unknownMessage (name : String) : String :=
  "Unknown job status '" ++ name ++ "'"

end JobStatus

end WorkflowExpr
