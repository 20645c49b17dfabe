/-!
# Variants

Buttons, notices and headings are styled by a named variant. Any name is kept, so that a document
is saved as it was loaded; a name without a style of its own has the style of the first variant.
-/

namespace Bulletin

/-! ## Buttons -/

inductive ButtonTone where
  | primary
  | secondary
  | accent
  | outline
deriving DecidableEq, Repr

inductive ButtonVariant where
  | primary
  | secondary
  | accent
  | outline
  | other (name : String)
deriving DecidableEq, Repr, Inhabited

namespace ButtonVariant

def name : ButtonVariant → String
  | .primary => "primary"
  | .secondary => "secondary"
  | .accent => "accent"
  | .outline => "outline"
  | .other name => name

def ofName (name : String) : ButtonVariant :=
  if name = "primary" then .primary
  else if name = "secondary" then .secondary
  else if name = "accent" then .accent
  else if name = "outline" then .outline
  else .other name

def tone : ButtonVariant → ButtonTone
  | .primary => .primary
  | .secondary => .secondary
  | .accent => .accent
  | .outline => .outline
  | .other _ => .primary

@[simp] theorem name_ofName (name : String) : (ofName name).name = name := by
  unfold ofName
  split <;> (try split) <;> (try split) <;> (try split) <;> simp_all [ButtonVariant.name]

end ButtonVariant

/-! ## Notices -/

inductive NoticeTone where
  | info
  | warning
  | success
  | danger
deriving DecidableEq, Repr

inductive NoticeVariant where
  | info
  | warning
  | success
  | danger
  | other (name : String)
deriving DecidableEq, Repr, Inhabited

namespace NoticeVariant

def name : NoticeVariant → String
  | .info => "info"
  | .warning => "warning"
  | .success => "success"
  | .danger => "danger"
  | .other name => name

def ofName (name : String) : NoticeVariant :=
  if name = "info" then .info
  else if name = "warning" then .warning
  else if name = "success" then .success
  else if name = "danger" then .danger
  else .other name

def tone : NoticeVariant → NoticeTone
  | .info => .info
  | .warning => .warning
  | .success => .success
  | .danger => .danger
  | .other _ => .info

@[simp] theorem name_ofName (name : String) : (ofName name).name = name := by
  unfold ofName
  split <;> (try split) <;> (try split) <;> (try split) <;> simp_all [NoticeVariant.name]

end NoticeVariant

/-! ## Headings -/

inductive HeadingTag where
  | h3
  | h4
deriving DecidableEq, Repr

inductive HeadingLevel where
  | h3
  | h4
  | other (name : String)
deriving DecidableEq, Repr, Inhabited

namespace HeadingLevel

def name : HeadingLevel → String
  | .h3 => "h3"
  | .h4 => "h4"
  | .other name => name

def ofName (name : String) : HeadingLevel :=
  if name = "h3" then .h3
  else if name = "h4" then .h4
  else .other name

def tag : HeadingLevel → HeadingTag
  | .h3 => .h3
  | .h4 => .h4
  | .other _ => .h3

@[simp] theorem name_ofName (name : String) : (ofName name).name = name := by
  unfold ofName
  split <;> (try split) <;> simp_all [HeadingLevel.name]

end HeadingLevel

end Bulletin
