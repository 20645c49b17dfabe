import Bulletin.Proofs.Document.Identities
import Mathlib.Data.List.Flatten
/-!
# Editing sessions

A session is any sequence of edits of a document. Whatever is done in it, and in whatever order,
the ids of the document stay distinct, and every copy has ids of its own: each edit takes the ids
of the document as they are, some of them left out, and adds ids that were drawn for it.
-/

namespace Bulletin

/-- A widget that was made as a copy, and the ids of what it was copied from. -/
structure CopiedWidget where
  sourceIds : List String
  widget : Widget

/-! ## Edits -/

inductive SectionEdit where
  | add (kind : WidgetKind)
  | remove (id : String)
  | move (id : String) (direction : Direction)
  | duplicate (id : String)

def SectionEdit.run (part : Section) : SectionEdit → Fresh (Section × Option CopiedWidget)
  | .add kind => do
      return (part.push (← Widget.new kind), none)
  | .remove id => return ((part.removeWidget id).2, none)
  | .move id direction => return ((part.moveWidget id direction).2, none)
  | .duplicate id => do
      match part.widget? id, ← part.duplicateWidget id with
      | some original, (some copy, changed) => return (changed, some ⟨original.ids, copy⟩)
      | _, (_, changed) => return (changed, none)

inductive DocumentEdit where
  | addSection
  | removeSection (id : String)
  | moveSection (id : String) (direction : Direction)
  | within (sectionId : String) (edit : SectionEdit)

def DocumentEdit.run (document : Document) :
    DocumentEdit → Fresh (Document × Option CopiedWidget)
  | .addSection => do
      return ((← document.addSection).2, none)
  | .removeSection id => return ((document.removeSection id).2, none)
  | .moveSection id direction => return ((document.moveSection id direction).2, none)
  | .within sectionId edit => do
      match document.section? sectionId with
      | some part =>
          let (changed, copied) ← edit.run part
          return (document.modifySection sectionId fun _ => changed, copied)
      | none => return (document, none)

/-- A document, and the widgets that were made from presets and are not in it yet. -/
structure Draft where
  document : Document
  held : List Widget

def Draft.ids (draft : Draft) : List String :=
  draft.document.ids ++ draft.held.flatMap Widget.ids

inductive Edit where
  | ofDocument (edit : DocumentEdit)
  | instantiate (registry : Registry) (presetId : String)
  /-- Adds a widget that is held to the section that an id addresses. -/
  | push (sectionId : String) (index : Nat)

namespace Edit

def run (draft : Draft) : Edit → Fresh (Draft × Option CopiedWidget)
  | .ofDocument edit => do
      let (document, copied) ← edit.run draft.document
      return ({ draft with document }, copied)
  | .instantiate registry presetId => do
      match registry.widget? presetId, ← registry.instantiate presetId with
      | some preset, .ok widget =>
          return ({ draft with held := draft.held ++ [widget] }, some ⟨preset.ids, widget⟩)
      | _, _ => return (draft, none)
  | .push sectionId index =>
      match draft.document.section? sectionId, draft.held[index]? with
      | some _, some widget =>
          return (⟨draft.document.modifySection sectionId fun part => part.push widget,
            draft.held.eraseIdx index⟩, none)
      | _, _ => return (draft, none)

def presetIds : Edit → List String
  | .instantiate registry _ => registry.widgetIds
  | _ => []

end Edit

/-- What a session can come to: the draft, the supply of new ids, and the copies made so far. No
id is ever drawn twice, and none is drawn that the document or a preset has when it is used. Ids
may be drawn for other ends in between. -/
inductive Session (start : Document) : Draft → IdSupply → List CopiedWidget → Prop where
  | opened {supply : IdSupply} (unique : Function.Injective supply.idAt)
      (unused : supply.Avoids start.ids) : Session start ⟨start, []⟩ supply []
  | edited {draft next : Draft} {supply rest : IdSupply} {copies : List CopiedWidget}
      {copied : Option CopiedWidget} (session : Session start draft supply copies)
      (edit : Edit) (unused : supply.Avoids edit.presetIds)
      (done : (edit.run draft).run supply = ((next, copied), rest)) :
      Session start next rest (copies ++ copied.toList)
  | drawnElsewhere {draft : Draft} {supply : IdSupply} {copies : List CopiedWidget}
      (session : Session start draft supply copies) (count : Nat) :
      Session start draft (supply.skip count) copies

/-! ## Renewal -/

theorem nodup_of_subperm {ids others : List String} (subperm : ids.Subperm others)
    (distinct : others.Nodup) : ids.Nodup := by
  rcases subperm with ⟨sublist, perm, isSublist⟩
  exact perm.nodup (distinct.sublist isSublist)

theorem perm_append_last (before added after : List String) :
    (before ++ added ++ after).Perm (before ++ after ++ added) := by
  rw [List.append_assoc, List.append_assoc]
  exact List.perm_append_comm.append_left before

/-- The ids after an edit are among those before it and those drawn for it, none more often than
there; what a copy was made from is in the document or in a preset. -/
structure Renewal (supply : IdSupply) (count : Nat) (used before after : List String)
    (copied : Option CopiedWidget) : Prop where
  ids : after.Subperm (before ++ supply.upcoming count)
  copyIds : ∀ made ∈ copied, made.widget.ids ⊆ supply.upcoming count
  sourceIds : ∀ made ∈ copied, made.sourceIds ⊆ before ++ used

namespace Renewal

variable {supply : IdSupply} {count : Nat} {used before after : List String}
  {copied : Option CopiedWidget}

theorem of_subperm (subperm : after.Subperm before) : Renewal supply 0 used before after none where
  ids := subperm.trans (List.sublist_append_left before _).subperm
  copyIds _ member := by cases member
  sourceIds _ member := by cases member

theorem of_perm {added : List String} (drawn : added.Perm (supply.upcoming count))
    (perm : after.Perm (before ++ added)) : Renewal supply count used before after none where
  ids := (perm.trans (drawn.append_left before)).subperm
  copyIds _ member := by cases member
  sourceIds _ member := by cases member

theorem of_copy {widget : Widget} {source : List String}
    (drawn : widget.ids.Perm (supply.upcoming count)) (perm : after.Perm (before ++ widget.ids))
    (known : source ⊆ before ++ used) :
    Renewal supply count used before after (some ⟨source, widget⟩) where
  ids := (perm.trans (drawn.append_left before)).subperm
  copyIds made member := by
    cases member
    exact drawn.subset
  sourceIds made member := by
    cases member
    exact known

theorem within (renewal : Renewal supply count used before after copied)
    (left right : List String) :
    Renewal supply count used (left ++ before ++ right) (left ++ after ++ right) copied where
  ids := by
    have inner := renewal.ids.append (List.Perm.refl right).subperm
    have last := inner.trans (perm_append_last before (supply.upcoming count) right).subperm
    simpa only [List.append_assoc] using (List.subperm_append_left left).mpr last
  copyIds := renewal.copyIds
  sourceIds made member := by
    intro id isSource
    have known := renewal.sourceIds made member isSource
    simp only [List.mem_append] at known ⊢
    tauto

variable (renewal : Renewal supply count used before after copied)
  (unique : Function.Injective supply.idAt)

include renewal unique

theorem nodup (distinct : before.Nodup) (unused : supply.Avoids before) : after.Nodup := by
  have all : (before ++ supply.upcoming count).Nodup :=
    distinct.append (IdSupply.nodup_upcoming unique count) (unused.disjoint count)
  exact nodup_of_subperm renewal.ids all

theorem avoids (unused : supply.Avoids before) : (supply.skip count).Avoids after := by
  intro index later isAfter
  rcases List.mem_append.mp (renewal.ids.subset isAfter) with isBefore | isDrawn
  · exact unused.skip count index later isBefore
  · exact IdSupply.avoids_upcoming unique count index later isDrawn

theorem avoids_copy {made : CopiedWidget} (member : made ∈ copied) :
    (supply.skip count).Avoids made.widget.ids := by
  intro index later isCopied
  exact IdSupply.avoids_upcoming unique count index later (renewal.copyIds made member isCopied)

omit unique in
theorem disjoint_copy {made : CopiedWidget} (member : made ∈ copied) {others : List String}
    (unused : supply.Avoids others) : made.widget.ids.Disjoint others := by
  intro id isCopied isOther
  exact unused.disjoint count isOther (renewal.copyIds made member isCopied)

omit unique in
theorem disjoint_source {made : CopiedWidget} (member : made ∈ copied)
    (unused : supply.Avoids before) (presetUnused : supply.Avoids used) :
    made.widget.ids.Disjoint made.sourceIds := by
  intro id isCopied isSource
  rcases List.mem_append.mp (renewal.sourceIds made member isSource) with isBefore | isUsed
  · exact renewal.disjoint_copy member unused isCopied isBefore
  · exact renewal.disjoint_copy member presetUnused isCopied isUsed

end Renewal

/-! ## Steps -/

namespace Section

theorem perm_ids_insert {part : Section} {before after : List Widget}
    (split : part.widgets = before ++ after) (widget : Widget) :
    { part with widgets := before ++ widget :: after }.ids.Perm (part.ids ++ widget.ids) := by
  rw [ids, ids, split, List.flatMap_append, List.flatMap_append, List.flatMap_cons,
    List.cons_append, List.append_assoc]
  apply List.Perm.cons
  apply List.Perm.append_left
  exact List.perm_append_comm

theorem perm_ids_push (part : Section) (widget : Widget) :
    (part.push widget).ids.Perm (part.ids ++ widget.ids) :=
  perm_ids_insert (List.append_nil part.widgets).symm widget

theorem subperm_ids_removeWidget (part : Section) (id : String) :
    (part.removeWidget id).2.ids.Subperm part.ids := by
  have kept : (part.removeWidget id).2.widgets.Sublist part.widgets := List.filter_sublist
  exact ((kept.flatMap Widget.ids).cons_cons part.id).subperm

theorem subperm_ids_moveWidget (part : Section) (id : String) (direction : Direction) :
    (part.moveWidget id direction).2.ids.Subperm part.ids := by
  have perm := Elements.perm_move (fun widget => widget.id = id) direction part.widgets
  exact ((perm.flatMap_right Widget.ids).cons part.id).subperm

end Section

namespace SectionEdit

theorem run_duplicate_of_missing {part : Section} {id : String}
    (missing : part.widget? id = none) (supply : IdSupply) :
    (run part (.duplicate id)).run supply = ((part, none), supply) := by
  simp only [run, missing]
  rw [StateT.run_bind, Section.duplicateWidget_of_missing missing supply]
  rfl

theorem run_duplicate_of_addresses {part : Section} {id : String} {before after : List Widget}
    {original : Widget}
    (addresses :
      Elements.Addresses (fun other => other.id = id) part.widgets before original after)
    (supply : IdSupply) :
    (run part (.duplicate id)).run supply =
      (({ part with widgets := before ++ original :: (original.copy.run supply).1 :: after },
        some ⟨original.ids, (original.copy.run supply).1⟩), (original.copy.run supply).2) := by
  have found : part.widget? id = some original := addresses.find?
  simp only [run, found]
  rw [StateT.run_bind, Section.duplicateWidget_of_addresses addresses supply]
  rfl

theorem renewal_duplicate (part : Section) (id : String) (supply : IdSupply) :
    ∃ count, ((run part (.duplicate id)).run supply).2 = supply.skip count ∧
      Renewal supply count [] part.ids ((run part (.duplicate id)).run supply).1.1.ids
        ((run part (.duplicate id)).run supply).1.2 := by
  cases found : part.widget? id with
  | none =>
      rw [run_duplicate_of_missing found]
      exact ⟨0, rfl, .of_subperm (.refl _)⟩
  | some original =>
      rcases Elements.addresses_iff_find?.mpr found with ⟨before, after, addresses⟩
      rcases Widget.draws_ofBody original.body supply with ⟨drawn, rest⟩
      rw [run_duplicate_of_addresses addresses]
      refine ⟨_, rest, .of_copy drawn ?_ ?_⟩
      · -- The copy stands right behind the original.
        have split : part.widgets = (before ++ [original]) ++ after := by
          rw [List.append_assoc]
          exact addresses.split
        have perm := Section.perm_ids_insert split (original.copy.run supply).1
        rw [List.append_assoc] at perm
        exact perm
      · intro id isSource
        apply List.mem_append_left
        apply List.mem_cons_of_mem
        exact List.mem_flatMap.mpr ⟨original, addresses.mem, isSource⟩

theorem renewal (edit : SectionEdit) (part : Section) (supply : IdSupply) :
    ∃ count, ((edit.run part).run supply).2 = supply.skip count ∧
      Renewal supply count [] part.ids ((edit.run part).run supply).1.1.ids
        ((edit.run part).run supply).1.2 := by
  cases edit with
  | add kind =>
      rcases Widget.draws_new kind supply with ⟨drawn, rest⟩
      exact ⟨1, rest, .of_perm drawn (part.perm_ids_push _)⟩
  | remove id => exact ⟨0, rfl, .of_subperm (part.subperm_ids_removeWidget id)⟩
  | move id direction => exact ⟨0, rfl, .of_subperm (part.subperm_ids_moveWidget id direction)⟩
  | duplicate id => exact renewal_duplicate part id supply

end SectionEdit

theorem Document.ids_of_split {document : Document} {before after : List Section} {part : Section}
    (split : document.sections = before ++ part :: after) :
    document.ids = before.flatMap Section.ids ++ part.ids ++ after.flatMap Section.ids := by
  rw [ids, split, List.flatMap_append, List.flatMap_cons, List.append_assoc]

namespace DocumentEdit

theorem run_within_of_missing {document : Document} {sectionId : String}
    (missing : document.section? sectionId = none) (edit : SectionEdit) (supply : IdSupply) :
    (run document (.within sectionId edit)).run supply = ((document, none), supply) := by
  rw [run, missing]
  rfl

theorem run_within_of_addresses {document : Document} {sectionId : String}
    {before after : List Section} {part : Section}
    (addresses :
      Elements.Addresses (fun other => other.id = sectionId) document.sections before part after)
    (edit : SectionEdit) (supply : IdSupply) :
    (run document (.within sectionId edit)).run supply =
      (({ document with sections := before ++ ((edit.run part).run supply).1.1 :: after },
        ((edit.run part).run supply).1.2), ((edit.run part).run supply).2) := by
  have found : document.section? sectionId = some part := addresses.find?
  rw [← Document.modifySection_of_addresses addresses fun _ => ((edit.run part).run supply).1.1,
    run, found]
  rfl

theorem renewal_within (document : Document) (sectionId : String) (edit : SectionEdit)
    (supply : IdSupply) :
    ∃ count, ((run document (.within sectionId edit)).run supply).2 = supply.skip count ∧
      Renewal supply count [] document.ids
        ((run document (.within sectionId edit)).run supply).1.1.ids
        ((run document (.within sectionId edit)).run supply).1.2 := by
  cases found : document.section? sectionId with
  | none =>
      rw [run_within_of_missing found]
      exact ⟨0, rfl, .of_subperm (.refl _)⟩
  | some part =>
      rcases Elements.addresses_iff_find?.mpr found with ⟨before, after, addresses⟩
      rcases edit.renewal part supply with ⟨count, rest, inPart⟩
      rw [run_within_of_addresses addresses, Document.ids_of_split addresses.split,
        Document.ids_of_split rfl]
      exact ⟨count, rest, inPart.within _ _⟩

theorem renewal (edit : DocumentEdit) (document : Document) (supply : IdSupply) :
    ∃ count, ((edit.run document).run supply).2 = supply.skip count ∧
      Renewal supply count [] document.ids ((edit.run document).run supply).1.1.ids
        ((edit.run document).run supply).1.2 := by
  cases edit with
  | addSection =>
      rcases Section.draws_new supply with ⟨drawn, rest⟩
      refine ⟨1, rest, .of_perm drawn ?_⟩
      apply List.Perm.of_eq
      have all : ((run document .addSection).run supply).1.1.sections =
          document.sections ++ [(Section.new.run supply).1] := rfl
      rw [Document.ids, all, List.flatMap_append, List.flatMap_singleton]
      rfl
  | removeSection id =>
      have kept : (document.removeSection id).2.sections.Sublist document.sections :=
        List.filter_sublist
      exact ⟨0, rfl, .of_subperm (kept.flatMap Section.ids).subperm⟩
  | moveSection id direction =>
      have perm := Elements.perm_move (fun part => part.id = id) direction document.sections
      exact ⟨0, rfl, .of_subperm (perm.flatMap_right Section.ids).subperm⟩
  | within sectionId edit => exact renewal_within document sectionId edit supply

end DocumentEdit

namespace Edit

theorem renewal_instantiate (draft : Draft) (registry : Registry) (presetId : String)
    (supply : IdSupply) :
    ∃ count, ((run draft (.instantiate registry presetId)).run supply).2 = supply.skip count ∧
      Renewal supply count registry.widgetIds draft.ids
        ((run draft (.instantiate registry presetId)).run supply).1.1.ids
        ((run draft (.instantiate registry presetId)).run supply).1.2 := by
  cases found : registry.widget? presetId with
  | none =>
      have result : (run draft (.instantiate registry presetId)).run supply =
          ((draft, none), supply) := by
        simp only [run, found]
        rw [StateT.run_bind, Registry.instantiate, found]
        rfl
      rw [result]
      exact ⟨0, rfl, .of_subperm (.refl _)⟩
  | some preset =>
      rcases Widget.draws_ofBody preset.body supply with ⟨drawn, rest⟩
      have result : (run draft (.instantiate registry presetId)).run supply =
          (({ draft with held := draft.held ++ [(preset.instantiate.run supply).1] },
            some ⟨preset.ids, (preset.instantiate.run supply).1⟩),
            (preset.instantiate.run supply).2) := by
        simp only [run, found]
        rw [StateT.run_bind, Registry.instantiate, found]
        rfl
      rw [result]
      refine ⟨_, rest, .of_copy drawn ?_ ?_⟩
      · apply List.Perm.of_eq
        rw [Draft.ids, Draft.ids, List.flatMap_append, List.flatMap_singleton, List.append_assoc]
      · intro id isSource
        apply List.mem_append_right
        exact List.mem_flatMap.mpr ⟨preset, List.mem_of_find?_eq_some found, isSource⟩

theorem perm_ids_push {draft : Draft} {sectionId : String} {part : Section} {index : Nat}
    {widget : Widget} (found : draft.document.section? sectionId = some part)
    (held : draft.held[index]? = some widget) :
    (Draft.mk (draft.document.modifySection sectionId fun part => part.push widget)
      (draft.held.eraseIdx index)).ids.Perm draft.ids := by
  rcases Elements.addresses_iff_find?.mpr found with ⟨before, after, addresses⟩
  rcases List.getElem?_eq_some_iff.mp held with ⟨inBounds, rfl⟩
  have remaining := (List.getElem_cons_eraseIdx_perm inBounds).flatMap_right Widget.ids
  rw [Document.modifySection_of_addresses addresses, Draft.ids, Draft.ids,
    Document.ids_of_split addresses.split, Document.ids_of_split rfl]
  rw [List.flatMap_cons] at remaining
  have pushed := (part.perm_ids_push draft.held[index]).append_left (before.flatMap Section.ids)
  rw [← List.append_assoc] at pushed
  have inDocument := (pushed.append_right (after.flatMap Section.ids)).trans
    (perm_append_last _ _ _)
  have inDraft := inDocument.append_right ((draft.held.eraseIdx index).flatMap Widget.ids)
  rw [List.append_assoc _ draft.held[index].ids] at inDraft
  exact inDraft.trans (remaining.append_left _)

theorem renewal_push (draft : Draft) (sectionId : String) (index : Nat) (supply : IdSupply) :
    ((run draft (.push sectionId index)).run supply).2 = supply.skip 0 ∧
      Renewal supply 0 [] draft.ids ((run draft (.push sectionId index)).run supply).1.1.ids
        ((run draft (.push sectionId index)).run supply).1.2 := by
  rw [run]
  split
  next part widget found held => exact ⟨rfl, .of_subperm (perm_ids_push found held).subperm⟩
  next => exact ⟨rfl, .of_subperm (.refl _)⟩

theorem renewal (edit : Edit) (draft : Draft) (supply : IdSupply) :
    ∃ count, ((edit.run draft).run supply).2 = supply.skip count ∧
      Renewal supply count edit.presetIds draft.ids ((edit.run draft).run supply).1.1.ids
        ((edit.run draft).run supply).1.2 := by
  cases edit with
  | ofDocument edit =>
      rcases edit.renewal draft.document supply with ⟨count, rest, inDocument⟩
      exact ⟨count, rest, inDocument.within [] _⟩
  | instantiate registry presetId => exact renewal_instantiate draft registry presetId supply
  | push sectionId index => exact ⟨0, renewal_push draft sectionId index supply⟩

end Edit

/-! ## Runs -/

/-- The ids of a draft are distinct, and so are those of the copies that were made, from each
other and from what they were made from; all of them are used up. -/
structure Distinct (draft : Draft) (supply : IdSupply) (copies : List CopiedWidget) :
    Prop where
  unique : Function.Injective supply.idAt
  ids : draft.ids.Nodup
  unused : supply.Avoids draft.ids
  copiesUnused : ∀ made ∈ copies, supply.Avoids made.widget.ids
  sources : ∀ made ∈ copies, made.widget.ids.Disjoint made.sourceIds
  copies : copies.Pairwise fun earlier later => later.widget.ids.Disjoint earlier.widget.ids

theorem Distinct.edited {draft : Draft} {supply : IdSupply} {copies : List CopiedWidget}
    (distinct : Distinct draft supply copies) (edit : Edit)
    (unused : supply.Avoids edit.presetIds) :
    Distinct ((edit.run draft).run supply).1.1 ((edit.run draft).run supply).2
      (copies ++ ((edit.run draft).run supply).1.2.toList) := by
  rcases edit.renewal draft supply with ⟨count, rest, renewal⟩
  rw [rest]
  exact
    { unique := distinct.unique
      ids := renewal.nodup distinct.unique distinct.ids distinct.unused
      unused := renewal.avoids distinct.unique distinct.unused
      copiesUnused := by
        intro made member
        rcases List.mem_append.mp member with earlier | isNew
        · exact (distinct.copiesUnused made earlier).skip count
        · exact renewal.avoids_copy distinct.unique (Option.mem_toList.mp isNew)
      sources := by
        intro made member
        rcases List.mem_append.mp member with earlier | isNew
        · exact distinct.sources made earlier
        · exact renewal.disjoint_source (Option.mem_toList.mp isNew) distinct.unused unused
      copies := by
        rw [List.pairwise_append]
        refine ⟨distinct.copies, ?_, ?_⟩
        · cases ((edit.run draft).run supply).1.2 <;> simp
        · -- The supply avoids the earlier copies even where they are no longer in the draft.
          intro earlier isEarlier made isNew
          exact renewal.disjoint_copy (Option.mem_toList.mp isNew)
            (distinct.copiesUnused earlier isEarlier) }

namespace Session

variable {start : Document} {draft : Draft} {supply : IdSupply} {copies : List CopiedWidget}

theorem distinct (session : Session start draft supply copies) (distinct : start.ids.Nodup) :
    Distinct draft supply copies := by
  induction session with
  | opened unique unused =>
      exact ⟨unique, by simpa [Draft.ids] using distinct, by simpa [Draft.ids] using unused,
        fun _ member => (List.not_mem_nil member).elim,
        fun _ member => (List.not_mem_nil member).elim, .nil⟩
  | edited _ edit unused done induction =>
      have edited := induction.edited edit unused
      rw [done] at edited
      exact edited
  | drawnElsewhere _ count induction =>
      exact
        { induction with
          unique := induction.unique
          unused := induction.unused.skip count
          copiesUnused := fun made member => (induction.copiesUnused made member).skip count }

/-- Sessions keep the ids of a document distinct, and give every copy ids that neither what it was
made from has nor any earlier copy. -/
theorem ids_distinct (distinct : start.ids.Nodup)
    (session : Session start draft supply copies) :
    draft.document.ids.Nodup ∧
      (∀ made ∈ copies, made.widget.ids.Disjoint made.sourceIds) ∧
      copies.Pairwise fun earlier later => later.widget.ids.Disjoint earlier.widget.ids := by
  have invariant := session.distinct distinct
  exact ⟨invariant.ids.of_append_left, invariant.sources, invariant.copies⟩

/-! ## A session -/

open IdSupply (tallies injective_tallies tallies_avoids)

def agenda : Document :=
  { Document.starter with
    sections :=
      [⟨"s", "Agenda", [⟨"w", .list ⟨[⟨"e", "Opening"⟩], none⟩⟩], none, none⟩] }

def linkPresets : Registry where
  themes := []
  widgets := [⟨"p", "Link", "", .buttonGroup ⟨[⟨"b", "Join", "", .primary⟩]⟩⟩]

theorem ids_distinct_agenda :
    agenda.ids.Nodup ∧ ∃ draft supply copies, Session agenda draft supply copies ∧
      draft.document.widgetCount = 3 ∧ copies.length = 2 ∧ draft.document.ids.Nodup ∧
      (∀ made ∈ copies, made.widget.ids.Disjoint made.sourceIds) ∧
      copies.Pairwise fun earlier later => later.widget.ids.Disjoint earlier.widget.ids := by
  have distinct : agenda.ids.Nodup := by decide
  have opened : Session agenda ⟨agenda, []⟩ tallies [] :=
    .opened injective_tallies (tallies_avoids (by decide) 0)
  have duplicated : Session agenda _ (tallies.skip 2) _ :=
    opened.edited (.ofDocument (.within "s" (.duplicate "w"))) (tallies_avoids (by decide) 0) rfl
  have instantiated : Session agenda _ (tallies.skip 4) _ :=
    duplicated.edited (.instantiate linkPresets "p") (tallies_avoids (by decide) 2) rfl
  have pushed : Session agenda _ (tallies.skip 4) _ :=
    instantiated.edited (.push "s" 0) (tallies_avoids (by decide) 4) rfl
  exact ⟨distinct, _, _, _, pushed, rfl, rfl, pushed.ids_distinct distinct⟩

end Session

end Bulletin
