import Bulletin.Document.Basic
/-!
# Proper variants

A variant is proper when it is the one that its name stands for: no known name is kept as that of
another variant. A document is proper when all variants in it are.
-/

namespace Bulletin

def ButtonVariant.IsProper : ButtonVariant → Prop
  | .other name => name ∉ ["primary", "secondary", "accent", "outline"]
  | _ => True

def NoticeVariant.IsProper : NoticeVariant → Prop
  | .other name => name ∉ ["info", "warning", "success", "danger"]
  | _ => True

def HeadingLevel.IsProper : HeadingLevel → Prop
  | .other name => name ∉ ["h3", "h4"]
  | _ => True

/-! ## Names -/

theorem ButtonVariant.isProper_ofName (name : String) : (ofName name).IsProper := by
  simp only [ofName]
  repeat' split
  all_goals simp_all [IsProper]

theorem ButtonVariant.ofName_name {variant : ButtonVariant} (proper : variant.IsProper) :
    ofName variant.name = variant := by
  cases variant with
  | other name =>
      simp only [IsProper, List.mem_cons, not_or] at proper
      simp [ButtonVariant.name, ofName, proper]
  | _ => simp [ButtonVariant.name, ofName]

theorem NoticeVariant.isProper_ofName (name : String) : (ofName name).IsProper := by
  simp only [ofName]
  repeat' split
  all_goals simp_all [IsProper]

theorem NoticeVariant.ofName_name {variant : NoticeVariant} (proper : variant.IsProper) :
    ofName variant.name = variant := by
  cases variant with
  | other name =>
      simp only [IsProper, List.mem_cons, not_or] at proper
      simp [NoticeVariant.name, ofName, proper]
  | _ => simp [NoticeVariant.name, ofName]

theorem HeadingLevel.isProper_ofName (name : String) : (ofName name).IsProper := by
  simp only [ofName]
  repeat' split
  all_goals simp_all [IsProper]

theorem HeadingLevel.ofName_name {level : HeadingLevel} (proper : level.IsProper) :
    ofName level.name = level := by
  cases level with
  | other name =>
      simp only [IsProper, List.mem_cons, not_or] at proper
      simp [HeadingLevel.name, ofName, proper]
  | _ => simp [HeadingLevel.name, ofName]

/-! ## Documents -/

def LinkButton.IsProper (button : LinkButton) : Prop :=
  button.variant.IsProper

def WidgetBody.IsProper : WidgetBody → Prop
  | .heading body => body.level.IsProper
  | .button body => body.variant.IsProper
  | .buttonGroup body => ∀ button ∈ body.buttons, button.IsProper
  | .notice body => body.variant.IsProper
  | .meeting body => ∀ button ∈ body.buttons, button.IsProper
  | _ => True

def Widget.IsProper (widget : Widget) : Prop :=
  widget.body.IsProper

def Section.IsProper (part : Section) : Prop :=
  ∀ widget ∈ part.widgets, widget.IsProper

def Document.IsProper (document : Document) : Prop :=
  ∀ part ∈ document.sections, part.IsProper

end Bulletin
