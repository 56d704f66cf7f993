import ScreenPattern.Contract.Codec
import ScreenPattern.Contract.Shape

namespace ScreenPattern.Contract

/-- The issue of a literal whose shape is sound but which has no typed form. -/
def unreadable : Issue :=
  Failure.fieldInvalid.at "" "contract literal does not deserialize: <serde>"

/-- The contract of a literal, or its issues in the order in which they were found. -/
def load (literal : Json) : Except (List Issue) Contract :=
  match Shape.issues literal with
  | [] =>
      match ofJson? literal with
      | none => .error [unreadable]
      | some contract =>
          match contract.invariantIssues with
          | [] => .ok contract
          | found => .error found
  | found => .error found

def literalReport (literal : Json) : Report :=
  match load literal with
  | .ok _ => .accepted
  | .error found => .ofIssues found

end ScreenPattern.Contract
