import ScreenPattern.Ascending
import ScreenPattern.Json.Record

/-!
Reports of schema checks. A check collects every defect as an issue with the path of the field; a
report holds the issues in ascending order of path, failure class and message, each once.
-/

namespace ScreenPattern

structure Issue where
  failureClass : String
  path : String
  message : String
  deriving Repr, DecidableEq

namespace Issue

/-- Order by path, then failure class, then message. -/
def le (a b : Issue) : Bool :=
  a.path < b.path ||
    (a.path == b.path &&
      (a.failureClass < b.failureClass ||
        (a.failureClass == b.failureClass && a.message ≤ b.message)))

def text (issue : Issue) : String :=
  issue.path ++ ": " ++ issue.message ++ " (" ++ issue.failureClass ++ ")"

def ofJson? (j : Json) : Option Issue := do
  let fields ← j.record? ["failureClass", "path", "message"]
  let failureClass ← fields.required "failureClass" Json.asStr?
  let path ← fields.required "path" Json.asStr?
  let message ← fields.required "message" Json.asStr?
  return { failureClass, path, message }

def toJson (issue : Issue) : Json :=
  .obj [("failureClass", .str issue.failureClass), ("message", .str issue.message),
    ("path", .str issue.path)]

def summary (issues : List Issue) : String :=
  "; ".intercalate (issues.map text)

end Issue

structure Report where
  result : String
  failureClasses : List String
  issues : List Issue
  deriving Repr, DecidableEq

namespace Report

def ofIssues (found : List Issue) : Report :=
  let issues := ascending Issue.le found
  { result := if issues.isEmpty then "accepted" else "rejected"
    failureClasses := ascending (fun a b => a ≤ b) (issues.map (·.failureClass))
    issues }

def accepted : Report := ofIssues []

def isAccepted (report : Report) : Bool :=
  report.issues.isEmpty

def paths (report : Report) : List String :=
  report.issues.map (·.path)

def summary (report : Report) : String :=
  Issue.summary report.issues

def ofJson? (j : Json) : Option Report := do
  let fields ← j.record? ["result", "failureClasses", "issues"]
  let result ← fields.required "result" Json.asStr?
  let failureClasses ← fields.required "failureClasses" Json.strings?
  let issues ← fields.required "issues" (Json.list? Issue.ofJson?)
  return { result, failureClasses, issues }

def toJson (report : Report) : Json :=
  .obj [("failureClasses", .ofStrings report.failureClasses),
    ("issues", .arr (report.issues.map Issue.toJson)), ("result", .str report.result)]

end Report

namespace Path

/-- A field below another one. There is nothing above the fields of the root. -/
def join (parent child : String) : String :=
  if parent.isEmpty then child else parent ++ "." ++ child

def index (parent : String) (i : Nat) : String :=
  join parent (toString i)

end Path

end ScreenPattern
