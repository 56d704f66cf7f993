import ScreenPattern.Conformance

/-!
Why a document could not be assembled. Faults of the component list end assembly at once; the other
two carry everything that the checks found.
-/

namespace ScreenPattern

inductive AssemblyError
  | componentsRequired
  | unsupportedComponent (kind : ComponentKind) (key : ContractKey)
  | missingRequiredSlot (slot : String) (key : ContractKey)
  | schemaInvalid (issues : List Issue)
  | contractViolation (violations : List Violation)
  deriving Repr, DecidableEq

def AssemblyError.message : AssemblyError → String
  | componentsRequired =>
      "components required: supply an explicit component list or generated text"
  | unsupportedComponent kind key =>
      "component type " ++ toString kind ++ " is not allowed by " ++ toString key.family
        ++ " variant " ++ toString key.variant
  | missingRequiredSlot slot key =>
      "required slot " ++ Text.quote slot ++ " of " ++ toString key.family ++ " variant "
        ++ toString key.variant ++ " has no component"
  | schemaInvalid issues => "document schema invalid: " ++ Issue.summary issues
  | contractViolation violations =>
      "document violates its contract: " ++ Violation.summary violations

end ScreenPattern
