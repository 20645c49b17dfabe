import Bulletin.Proofs.Check.Unplaced
import Bulletin.Proofs.Document.Session
import Bulletin.Proofs.Page.Silence
import Bulletin.Proofs.Preset.Accepted
/-!
# Revisions

A document is refused for widgets of no known kind alone, and no revision makes one: new widgets are
of a kind, copies are of the kind of what they are copied from, and so are widgets made from
presets. So a document that passes its check passes it however it is revised, under any theme. And
where something is only removed or moved, no rule is broken more often than before.
-/

namespace Bulletin

def Document.modifyAt (document : Document) (index : Nat) (change : Section → Section) : Document :=
  { document with sections := document.sections.modify index change }

/-! ## Revisions -/

/-- What is done to a document. Each time ids are drawn from a supply, whichever it is. -/
inductive Revision where
  | inDocument (edit : DocumentEdit) (ids : IdSupply)
  | inSection (index : Nat) (edit : SectionEdit) (ids : IdSupply)
  /-- Adds a widget made from a built-in preset, if there is one with the id, to a section. -/
  | push (index : Nat) (presetId : String) (presetIds ids : IdSupply)
  | applyTheme (registry : Registry) (themeId : String)

namespace Revision

def apply (document : Document) : Revision → Document
  | .inDocument edit ids => ((edit.run document).run ids).1.1
  | .inSection index edit ids => document.modifyAt index fun part => ((edit.run part).run ids).1.1
  | .push index presetId presetIds ids =>
      match (((Registry.builtin.run presetIds).1.instantiate presetId).run ids).1 with
      | .ok widget => document.modifyAt index fun part => part.push widget
      | .error _ => document
  | .applyTheme registry themeId => (registry.applyTheme themeId document).toOption.getD document

end Revision

def SectionEdit.AddsNothing : SectionEdit → Prop
  | .remove _ | .move _ _ => True
  | .add _ | .duplicate _ => False

def DocumentEdit.AddsNothing : DocumentEdit → Prop
  | .removeSection _ | .moveSection _ _ => True
  | .within _ edit => edit.AddsNothing
  | .addSection => False

def Revision.AddsNothing : Revision → Prop
  | .inDocument edit _ => edit.AddsNothing
  | .inSection _ edit _ => edit.AddsNothing
  | .push .. | .applyTheme .. => False

/-! ## Sections -/

section

variable {relation : Section → Section → Prop} (refl : ∀ part, relation part part)

include refl

theorem Document.forall₂_modifyAt {change : Section → Section}
    (changes : ∀ part, relation part (change part)) (document : Document) (index : Nat) :
    List.Forall₂ relation document.sections (document.modifyAt index change).sections := by
  rw [modifyAt]
  induction document.sections generalizing index with
  | nil => cases index <;> exact .nil
  | cons part sections induction =>
      cases index with
      | zero => exact .cons (changes part) (List.forall₂_same.mpr fun part _ => refl part)
      | succ index => exact .cons (refl part) (induction index)

theorem DocumentEdit.forall₂_within {edit : SectionEdit} {ids : IdSupply}
    (changes : ∀ part, relation part ((edit.run part).run ids).1.1) (document : Document)
    (sectionId : String) :
    List.Forall₂ relation document.sections
      ((run document (.within sectionId edit)).run ids).1.1.sections := by
  have others (sections : List Section) : List.Forall₂ relation sections sections :=
    List.forall₂_same.mpr fun part _ => refl part
  cases found : document.section? sectionId with
  | none =>
      rw [run_within_of_missing found]
      exact others document.sections
  | some part =>
      rcases Elements.addresses_iff_find?.mpr found with ⟨before, after, addresses⟩
      rw [run_within_of_addresses addresses, addresses.split]
      exact List.rel_append (others before) (.cons (changes part) (others after))

end

/-! ## Unknown widgets -/

namespace WidgetBody

theorem unlabelled_eq_unknown {body : WidgetBody} :
    body.unlabelled = .unknown ↔ body = .unknown := by
  cases body <;> simp [unlabelled]

theorem rekey_eq_unknown {body : WidgetBody} {supply : IdSupply} :
    (body.rekey.run supply).1 = .unknown ↔ body = .unknown := by
  rw [← unlabelled_eq_unknown, unlabelled_rekey, unlabelled_eq_unknown]

theorem new_ne_unknown (kind : WidgetKind) : new kind ≠ .unknown := by
  intro same
  have isKind := kind?_new kind
  rw [same] at isKind
  cases isKind

end WidgetBody

theorem Registry.known_of_instantiate {presetId : String} {presetIds ids : IdSupply}
    {widget : Widget}
    (made : (((builtin.run presetIds).1.instantiate presetId).run ids).1 = .ok widget) :
    widget.body ≠ .unknown := by
  have stems : ∀ preset ∈ widgetPresetStems, preset.body ≠ .unknown := by
    simp [widgetPresetStems]
  have known := @forall_mem_rekeyPresets (· ≠ .unknown)
    (fun _ _ => WidgetBody.rekey_eq_unknown.not.mpr) _ stems presetIds
  rw [instantiate] at made
  cases found : (builtin.run presetIds).1.widget? presetId with
  | none =>
      rw [found] at made
      cases made
  | some preset =>
      rw [found] at made
      cases made
      exact WidgetBody.rekey_eq_unknown.not.mpr (known preset (List.mem_of_find?_eq_some found))

def Section.HasUnknown (part : Section) : Prop :=
  ∃ widget ∈ part.widgets, widget.body = .unknown

namespace Section

variable {part other : Section}

theorem HasUnknown.mono (unknown : part.HasUnknown) (among : part.widgets ⊆ other.widgets) :
    other.HasUnknown := by
  rcases unknown with ⟨widget, member, unknown⟩
  exact ⟨widget, among member, unknown⟩

theorem HasUnknown.of_push {widget : Widget} (unknown : (part.push widget).HasUnknown)
    (known : widget.body ≠ .unknown) : part.HasUnknown := by
  rcases unknown with ⟨other, member, unknown⟩
  rcases List.mem_append.mp member with isThere | isNew
  · exact ⟨other, isThere, unknown⟩
  · rw [List.mem_singleton.mp isNew] at unknown
    exact absurd unknown known

end Section

theorem SectionEdit.hasUnknown_of_run (edit : SectionEdit) (ids : IdSupply) (part : Section)
    (unknown : ((edit.run part).run ids).1.1.HasUnknown) : part.HasUnknown := by
  cases edit with
  | add kind => exact unknown.of_push (WidgetBody.new_ne_unknown kind)
  | remove id => exact unknown.mono List.filter_sublist.subset
  | move id direction => exact unknown.mono (Elements.perm_move _ direction part.widgets).subset
  | duplicate id =>
      cases found : part.widget? id with
      | none =>
          rw [run_duplicate_of_missing found] at unknown
          exact unknown
      | some original =>
          rcases Elements.addresses_iff_find?.mpr found with ⟨before, after, addresses⟩
          rw [run_duplicate_of_addresses addresses] at unknown
          by_cases known : original.body = .unknown
          · exact ⟨original, addresses.mem, known⟩
          · -- The copy might as well stand at the end.
            have atEnd : (before ++ original :: (original.copy.run ids).1 :: after) ⊆
                (part.push (original.copy.run ids).1).widgets := by
              rw [Section.push, addresses.split]
              intro widget member
              simp only [List.mem_append, List.mem_cons, List.not_mem_nil] at member ⊢
              tauto
            exact (unknown.mono atEnd).of_push (WidgetBody.rekey_eq_unknown.not.mpr known)

theorem exists_hasUnknown_of_forall₂ {sections changed : List Section}
    (related : List.Forall₂ (fun part now => now.HasUnknown → part.HasUnknown) sections changed)
    (unknown : ∃ part ∈ changed, part.HasUnknown) : ∃ part ∈ sections, part.HasUnknown := by
  induction related with
  | nil => exact unknown
  | cons kept _ induction =>
      rw [List.exists_mem_cons_iff] at unknown ⊢
      exact unknown.imp kept induction

theorem DocumentEdit.hasUnknown_of_run (edit : DocumentEdit) (ids : IdSupply) (document : Document)
    (unknown : ((edit.run document).run ids).1.1.HasUnknown) : document.HasUnknown := by
  cases edit with
  | addSection =>
      rcases unknown with ⟨part, member, widget, inPart, unknown⟩
      rcases List.mem_append.mp member with isThere | isNew
      · exact ⟨part, isThere, widget, inPart, unknown⟩
      · rw [List.mem_singleton.mp isNew] at inPart
        cases inPart
  | removeSection id =>
      rcases unknown with ⟨part, member, unknown⟩
      exact ⟨part, List.mem_of_mem_filter member, unknown⟩
  | moveSection id direction =>
      rcases unknown with ⟨part, member, unknown⟩
      exact ⟨part, (Elements.perm_move _ direction document.sections).subset member, unknown⟩
  | within sectionId edit =>
      exact exists_hasUnknown_of_forall₂
        (forall₂_within (fun _ => id) (edit.hasUnknown_of_run ids) document sectionId) unknown

theorem Revision.hasUnknown_of_apply (revision : Revision) (document : Document)
    (unknown : (revision.apply document).HasUnknown) : document.HasUnknown := by
  cases revision with
  | inDocument edit ids => exact edit.hasUnknown_of_run ids document unknown
  | inSection index edit ids =>
      exact exists_hasUnknown_of_forall₂
        (document.forall₂_modifyAt (fun _ => id) (edit.hasUnknown_of_run ids) index) unknown
  | push index presetId presetIds ids =>
      rw [apply] at unknown
      split at unknown
      next widget made =>
        have known := Registry.known_of_instantiate made
        exact exists_hasUnknown_of_forall₂
          (document.forall₂_modifyAt (fun _ => id) (fun _ pushed => pushed.of_push known) index)
          unknown
      next => exact unknown
  | applyTheme registry themeId =>
      have sections : (apply document (.applyTheme registry themeId)).sections =
          document.sections := by
        rw [apply, Registry.applyTheme]
        cases registry.theme? themeId <;> rfl
      rwa [Document.HasUnknown, sections] at unknown

/-! ## Removals and moves -/

theorem SectionEdit.AddsNothing.lessens {edit : SectionEdit} (addsNothing : edit.AddsNothing)
    (ids : IdSupply) (part : Section) : ((edit.run part).run ids).1.1.Lessens part := by
  cases edit with
  | add kind => exact addsNothing.elim
  | remove id => exact ⟨rfl, List.filter_sublist.subperm⟩
  | move id direction => exact ⟨rfl, (Elements.perm_move _ direction part.widgets).subperm⟩
  | duplicate id => exact addsNothing.elim

theorem DocumentEdit.theme_run (edit : DocumentEdit) (ids : IdSupply) (document : Document) :
    ((edit.run document).run ids).1.1.theme = document.theme := by
  cases edit with
  | within sectionId edit =>
      rw [run]
      cases document.section? sectionId <;> rfl
  | _ => rfl

theorem DocumentEdit.AddsNothing.lessens {edit : DocumentEdit} (addsNothing : edit.AddsNothing)
    (ids : IdSupply) (document : Document) :
    ((edit.run document).run ids).1.1.Lessens document := by
  cases edit with
  | addSection => exact addsNothing.elim
  | removeSection id => exact .of_subperm rfl List.filter_sublist.subperm
  | moveSection id direction =>
      exact .of_subperm rfl (Elements.perm_move _ direction document.sections).subperm
  | within sectionId edit =>
      have inSections := @forall₂_within (fun part now => now.Lessens part) .refl edit ids
        (SectionEdit.AddsNothing.lessens addsNothing ids) document sectionId
      exact .of_forall₂ (theme_run _ ids document) inSections.flip

theorem Revision.AddsNothing.lessens {revision : Revision} (addsNothing : revision.AddsNothing)
    (document : Document) : (revision.apply document).Lessens document := by
  cases revision with
  | inDocument edit ids => exact DocumentEdit.AddsNothing.lessens addsNothing ids document
  | inSection index edit ids =>
      have inSections := @Document.forall₂_modifyAt (fun part now => now.Lessens part) .refl _
        (SectionEdit.AddsNothing.lessens addsNothing ids) document index
      exact .of_forall₂ rfl inSections.flip
  | push => exact addsNothing.elim
  | applyTheme => exact addsNothing.elim

/-! ## Runs -/

namespace Document

theorem valid_iff_not_hasUnknown {document : Document} :
    document.check.valid = true ↔ ¬ document.HasUnknown := by
  rw [valid_check, Bool.not_eq_true', ← Bool.not_eq_true, hasErrors_iff_hasUnknown]

theorem hasUnknown_of_revisions (revisions : List Revision) (start : Document)
    (unknown : (revisions.foldl Revision.apply start).HasUnknown) : start.HasUnknown := by
  induction revisions generalizing start with
  | nil => exact unknown
  | cons revision revisions induction =>
      exact revision.hasUnknown_of_apply start (induction _ unknown)

/-- A document that passes its check passes it after any number of revisions, and is compiled to its
page. A removal or a move leaves no rule with more violations than before, whatever the document
is. -/
theorem valid_of_revisions :
    (∀ start : Document, start.check.valid = true → ∀ revisions : List Revision,
      (revisions.foldl Revision.apply start).check.valid = true ∧
        (revisions.foldl Revision.apply start).compile.map Compiled.html =
          .ok (revisions.foldl Revision.apply start).html) ∧
      ∀ (document : Document) (revision : Revision), revision.AddsNothing → ∀ rule,
        (revision.apply document).check.ruleCount rule ≤ document.check.ruleCount rule := by
  constructor
  · intro start valid revisions
    have known := mt (hasUnknown_of_revisions revisions start) (valid_iff_not_hasUnknown.mp valid)
    refine ⟨valid_iff_not_hasUnknown.mpr known, ?_⟩
    rw [map_html_compile, if_neg known]
  · intro document revision addsNothing
    exact Report.ruleCount_le (addsNothing.lessens document).unplaced_check

def flyer : Document :=
  { Document.starter with
    sections :=
      [⟨"s", "Flyer",
        [⟨"b", .button ⟨"Go", "", .primary⟩⟩, ⟨"v", .image ⟨"v.png", none, some "60%"⟩⟩], none,
        none⟩] }

def grayThemes : Registry where
  themes := [themePreset "gray" "Gray" "" "gray" "gray" "" "-" "#12345" "0"]
  widgets := []

open IdSupply (tallies)

def flyerRevisions : List Revision :=
  [.inDocument .addSection tallies, .push 1 "cta-buttons" tallies tallies,
    .inSection 1 (.add .meeting) tallies, .inDocument (.within "s" (.duplicate "b")) tallies,
    .inDocument (.moveSection "s" .down) tallies, .inSection 1 (.remove "b") tallies,
    .applyTheme grayThemes "gray"]

theorem valid_of_revisions_flyer :
    flyer.check.valid = true ∧
      (flyerRevisions.foldl Revision.apply flyer).widgetCount = 4 ∧
      (flyerRevisions.foldl Revision.apply flyer).check.ruleCount "color_format" = 5 ∧
      (flyerRevisions.foldl Revision.apply flyer).check.valid = true ∧
      (flyerRevisions.foldl Revision.apply flyer).compile.map Compiled.html =
        .ok (flyerRevisions.foldl Revision.apply flyer).html ∧
      (Revision.inSection 0 (.remove "b") tallies).AddsNothing ∧
      ∀ rule, ((Revision.inSection 0 (.remove "b") tallies).apply flyer).check.ruleCount rule ≤
        flyer.check.ruleCount rule := by
  rcases valid_of_revisions with ⟨valid, fewer⟩
  have starts : flyer.check.valid = true := by decide +kernel
  rcases valid flyer starts flyerRevisions with ⟨ends, compiles⟩
  exact ⟨starts, by decide +kernel, by decide +kernel, ends, compiles, trivial,
    fewer flyer (.inSection 0 (.remove "b") tallies) trivial⟩

end Document

end Bulletin
