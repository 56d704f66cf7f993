import ScreenPattern.Component.FormField
import ScreenPattern.Fields
import ScreenPattern.Vocabulary.Basic

/-!
Screen components. Each kind has typed properties of its own; properties of other names are kept
beside them as they came.
-/

namespace ScreenPattern

inductive TextAlign
  | left
  | center
  | right
  deriving Repr, DecidableEq

instance : Tokens TextAlign where
  all := [.left, .center, .right]
  token
    | .left => "left"
    | .center => "center"
    | .right => "right"

inductive ButtonStyle
  | primary
  | secondary
  | ghost
  | link
  deriving Repr, DecidableEq

instance : Tokens ButtonStyle where
  all := [.primary, .secondary, .ghost, .link]
  token
    | .primary => "primary"
    | .secondary => "secondary"
    | .ghost => "ghost"
    | .link => "link"

inductive ButtonSize
  | small
  | medium
  | large
  deriving Repr, DecidableEq

instance : Tokens ButtonSize where
  all := [.small, .medium, .large]
  token
    | .small => "small"
    | .medium => "medium"
    | .large => "large"

structure TextProps where
  align : Option TextAlign := none
  extra : Fields Json := []
  deriving Repr, DecidableEq

structure ButtonProps where
  style : Option ButtonStyle := none
  size : Option ButtonSize := none
  extra : Fields Json := []
  deriving Repr, DecidableEq

structure FormProps where
  fields : List FormField := []
  submitLabel : Option String := none
  extra : Fields Json := []
  deriving Repr, DecidableEq

structure ImageProps where
  alt : Option String := none
  extra : Fields Json := []
  deriving Repr, DecidableEq

inductive Component
  | title (content : String) (props : TextProps)
  | subtitle (content : String) (props : TextProps)
  | button (content : String) (props : ButtonProps)
  | form (content : String) (props : FormProps)
  | text (content : String) (props : TextProps)
  | image (content : String) (props : ImageProps)
  deriving Repr, DecidableEq

namespace Component

def kind : Component → ComponentKind
  | title .. => .title
  | subtitle .. => .subtitle
  | button .. => .button
  | form .. => .form
  | text .. => .text
  | image .. => .image

def content : Component → String
  | title content _ | subtitle content _ | button content _ | form content _ | text content _
  | image content _ => content

def plain (kind : ComponentKind) (content : String) : Component :=
  match kind with
  | .title => title content {}
  | .subtitle => subtitle content {}
  | .button => button content {}
  | .form => form content {}
  | .text => text content {}
  | .image => image content {}

def formOf (content : String) (fields : List FormField) : Component :=
  form content { fields }

def imageAt (url : String) (alt : Option String) : Component :=
  image url { alt }

/-- A component of the same kind made from the content and the part of the properties that the kind
is about: the fields of a form and the alternative text of an image. -/
def remade : Component → Component
  | form content props => formOf content props.fields
  | image content props => imageAt content props.alt
  | c => plain c.kind c.content

@[simp] theorem kind_plain (kind : ComponentKind) (content : String) :
    (plain kind content).kind = kind := by
  cases kind <;> rfl

@[simp] theorem content_plain (kind : ComponentKind) (content : String) :
    (plain kind content).content = content := by
  cases kind <;> rfl

end Component

end ScreenPattern
