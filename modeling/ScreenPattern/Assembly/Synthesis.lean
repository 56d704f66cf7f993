import ScreenPattern.Contract.Basic
import ScreenPattern.Provider.Image
import ScreenPattern.Provider.Text

namespace ScreenPattern.Synthesis

structure Material where
  text : GeneratedText
  heroImage : GeneratedImage
  supportingImages : List GeneratedImage

/-- The labels of a form that are not blank, trimmed. -/
def formLabels (text : GeneratedText) : List String :=
  text.formLabels.filterMap Text.filled?

/-- The component of a kind. An image component shows the first supporting image, or else the hero
image. -/
def component (material : Material) : ComponentKind → Component
  | .title => .title (Text.trim material.text.title) {}
  | .subtitle => .subtitle (Text.trim material.text.subtitle) {}
  | .text => .text (Text.trim material.text.body) {}
  | .button =>
      .button (Text.trim (material.text.buttonLabels.head?.getD "")) { style := some .primary }
  | .form =>
      let labels := formLabels material.text
      .formOf (", ".intercalate labels) (labels.map FormField.ofLabel)
  | .image =>
      let source := material.supportingImages.head?.getD material.heroImage
      .imageAt source.url source.prompt

/-- A place for a component: the kind that fills it, and whether it must be filled. -/
structure Place where
  kind : Option ComponentKind
  required : Bool

/-- The slots of a contract, the required ones first. -/
def slotPlaces (slots : Slots) : List Place :=
  slots.all.map fun slot => ⟨Slot.kind? slot, slots.isRequired slot⟩

def freePlaces : List Place :=
  [.title, .subtitle, .text, .button, .form].map fun kind => ⟨some kind, false⟩

/-- One component for each place, but none of a kind in `made`, and none with blank content in a
place that need not be filled. -/
def components (material : Material) (made : List ComponentKind) : List Place → List Component
  | [] => []
  | ⟨none, _⟩ :: rest => components material made rest
  | ⟨some kind, required⟩ :: rest =>
      let c := component material kind
      if made.contains kind || (!required && Text.isBlank c.content) then
        components material made rest
      else c :: components material (kind :: made) rest

end ScreenPattern.Synthesis
