import ScreenPattern.Vocabulary.Tokens

namespace ScreenPattern

inductive Family
  | onboardingHeroTop
  | actionFormMinimal
  | heroCenterText
  | ctaSplitScreen
  | galleryMasonry
  | profileCard
  | featureList
  | splashFullscreen
  | checkoutSummary
  | detailMediaTop
  | settingsStack
  | confirmCentered
  deriving Repr, DecidableEq

instance : Vocabulary Family where
  label := "pattern family"
  all := [.onboardingHeroTop, .actionFormMinimal, .heroCenterText, .ctaSplitScreen,
    .galleryMasonry, .profileCard, .featureList, .splashFullscreen, .checkoutSummary,
    .detailMediaTop, .settingsStack, .confirmCentered]
  token
    | .onboardingHeroTop => "ONB_HERO_TOP"
    | .actionFormMinimal => "ACT_FORM_MINIMAL"
    | .heroCenterText => "HERO_CENTER_TEXT"
    | .ctaSplitScreen => "CTA_SPLIT_SCREEN"
    | .galleryMasonry => "GALLERY_MASONRY"
    | .profileCard => "PROFILE_CARD"
    | .featureList => "FEATURE_LIST"
    | .splashFullscreen => "SPLASH_FULLSCREEN"
    | .checkoutSummary => "CHECKOUT_SUMMARY"
    | .detailMediaTop => "DETAIL_MEDIA_TOP"
    | .settingsStack => "SETTINGS_STACK"
    | .confirmCentered => "CONFIRM_CENTERED"

instance : ToString Family := ⟨Tokens.token⟩

inductive Vibe
  | modern
  | playful
  | minimal
  | elegant
  | bold
  | calm
  | energetic
  | professional
  | retro
  | futuristic
  | warm
  | dark
  deriving Repr, DecidableEq

instance : Vocabulary Vibe where
  label := "vibe"
  all := [.modern, .playful, .minimal, .elegant, .bold, .calm, .energetic, .professional, .retro,
    .futuristic, .warm, .dark]
  token
    | .modern => "modern"
    | .playful => "playful"
    | .minimal => "minimal"
    | .elegant => "elegant"
    | .bold => "bold"
    | .calm => "calm"
    | .energetic => "energetic"
    | .professional => "professional"
    | .retro => "retro"
    | .futuristic => "futuristic"
    | .warm => "warm"
    | .dark => "dark"

/-- Documents are modern unless something says otherwise. -/
def Vibe.default : Vibe := .modern

inductive ComponentKind
  | title
  | subtitle
  | button
  | form
  | text
  | image
  deriving Repr, DecidableEq

instance : Vocabulary ComponentKind where
  label := "component type"
  all := [.title, .subtitle, .button, .form, .text, .image]
  token
    | .title => "title"
    | .subtitle => "subtitle"
    | .button => "button"
    | .form => "form"
    | .text => "text"
    | .image => "image"

instance : ToString ComponentKind := ⟨Tokens.token⟩

end ScreenPattern
