import Bulletin.Proofs.Document.Addressing
import Mathlib.Data.List.Forall2
import Mathlib.Data.List.Perm.Subperm
/-!
# Edits that take nothing away

Only removals lose anything. Whatever else is done to a document, in whatever order, its sections
are all still there, each of them once and with all of its widgets, however often an id occurs.
One edit adds one section or one widget at most, and reaches one section at most.
-/

namespace Bulletin

open Elements (Addresses shift)

/-! ## Edits -/

inductive SectionGrowth where
  | add (kind : WidgetKind)
  | push (widget : Widget)
  | move (id : String) (direction : Direction)
  | duplicate (id : String)

inductive Growth where
  | addSection
  | moveSection (id : String) (direction : Direction)
  /-- Edits the section that an id addresses, if there is one. -/
  | within (sectionId : String) (growth : SectionGrowth)

def SectionGrowth.run (part : Section) : SectionGrowth → Fresh (Bool × Section)
  | .add kind => do
      return (true, part.push (← Widget.new kind))
  | .push widget => return (true, part.push widget)
  | .move id direction => return part.moveWidget id direction
  | .duplicate id => do
      let (copy, changed) ← part.duplicateWidget id
      return (copy.isSome, changed)

namespace Growth

def run (document : Document) : Growth → Fresh (Bool × Document)
  | .addSection => do
      return (true, (← document.addSection).2)
  | .moveSection id direction => return document.moveSection id direction
  | .within sectionId growth => do
      match document.section? sectionId with
      | some part =>
          let (told, changed) ← growth.run part
          return (told, document.modifySection sectionId fun _ => changed)
      | none => return (false, document)

def runAll (document : Document) : List Growth → Fresh Document
  | [] => pure document
  | growth :: rest => do
      let (_, next) ← growth.run document
      runAll next rest

def addsSection : Growth → Bool
  | .addSection => true
  | _ => false

def sectionId? : Growth → Option String
  | .addSection => none
  | .moveSection id _ => some id
  | .within id _ => some id

end Growth

/-! ## What is kept -/

structure Section.Grows (part now : Section) : Prop where
  id : now.id = part.id
  title : now.title = part.title
  borderColor : now.borderColor = part.borderColor
  collapsed : now.collapsed = part.collapsed
  widgets : part.widgets.Subperm now.widgets

namespace Section.Grows

theorem refl (part : Section) : part.Grows part :=
  ⟨rfl, rfl, rfl, rfl, .refl _⟩

theorem of_widgets (part : Section) {widgets : List Widget}
    (kept : part.widgets.Subperm widgets) : part.Grows { part with widgets } :=
  ⟨rfl, rfl, rfl, rfl, kept⟩

theorem trans {first second third : Section} (early : first.Grows second)
    (late : second.Grows third) : first.Grows third where
  id := late.id.trans early.id
  title := late.title.trans early.title
  borderColor := late.borderColor.trans early.borderColor
  collapsed := late.collapsed.trans early.collapsed
  widgets := early.widgets.trans late.widgets

theorem forall₂_refl (sections : List Section) :
    List.Forall₂ Section.Grows sections sections :=
  List.forall₂_same.mpr fun part _ => .refl part

theorem forall₂_trans {first second third : List Section}
    (early : List.Forall₂ Section.Grows first second)
    (late : List.Forall₂ Section.Grows second third) :
    List.Forall₂ Section.Grows first third := by
  induction early generalizing third with
  | nil => exact late
  | cons grows _ induction =>
      cases late with
      | cons later rest => exact .cons (grows.trans later) (induction rest)

end Section.Grows

def Section.IsNew (part : Section) : Prop :=
  ∃ supply, part = (Section.new.run supply).1

/-- Sections are still there: together with some that were added, they are the present ones, each of
them once, as they have grown and in some order. -/
def Section.AllGrow (sections : List Section) (count : Nat) (now : List Section) : Prop :=
  ∃ added grown, added.length = count ∧ (∀ part ∈ added, Section.IsNew part) ∧
    List.Forall₂ Section.Grows (sections ++ added) grown ∧ grown.Perm now

namespace Section.AllGrow

variable {sections grown now : List Section}

theorem of_forall₂ (grows : List.Forall₂ Section.Grows sections grown) (perm : grown.Perm now) :
    AllGrow sections 0 now := by
  rw [← List.append_nil sections] at grows
  exact ⟨[], grown, rfl, nofun, grows, perm⟩

theorem refl (sections : List Section) : AllGrow sections 0 sections :=
  .of_forall₂ (Section.Grows.forall₂_refl sections) (.refl sections)

theorem trans {first second third : List Section} {early late : Nat}
    (before : AllGrow first early second) (after : AllGrow second late third) :
    AllGrow first (early + late) third := by
  rcases before with ⟨earlyAdded, earlyGrown, earlyCount, earlyNew, earlyGrows, earlyPerm⟩
  rcases after with ⟨lateAdded, lateGrown, lateCount, lateNew, lateGrows, latePerm⟩
  -- What is added late is followed from the start, where it does not grow yet.
  have all : List.Forall₂ Section.Grows (first ++ earlyAdded ++ lateAdded)
      (earlyGrown ++ lateAdded) :=
    List.rel_append earlyGrows (Section.Grows.forall₂_refl lateAdded)
  rw [List.append_assoc] at all
  rcases List.perm_comp_forall₂ (earlyPerm.append_right lateAdded) lateGrows with
    ⟨grown, later, perm⟩
  refine ⟨earlyAdded ++ lateAdded, grown, ?_, ?_, Section.Grows.forall₂_trans all later,
    perm.trans latePerm⟩
  · rw [List.length_append, earlyCount, lateCount]
  · intro part member
    exact (List.mem_append.mp member).elim (earlyNew part) (lateNew part)

end Section.AllGrow

structure Document.Grows (document : Document) (count : Nat) (now : Document) : Prop where
  header : now.header = document.header
  footer : now.footer = document.footer
  theme : now.theme = document.theme
  sections : Section.AllGrow document.sections count now.sections

/-- What becomes of the sections of a document: no edit reaches another than the first that has
the id in question. -/
inductive Growth.Reaches (sections : List Section) : Growth → List Section → Prop where
  | added {part : Section} (isNew : part.IsNew) :
      Reaches sections .addSection (sections ++ [part])
  | moved {id : String} {direction : Direction} {before after : List Section} {part : Section}
      (addresses : Addresses (fun other => other.id = id) sections before part after) :
      Reaches sections (.moveSection id direction) (shift before part after direction).2
  | changed {id : String} {growth : SectionGrowth} {before after : List Section}
      {part now : Section}
      (addresses : Addresses (fun other => other.id = id) sections before part after)
      (grows : part.Grows now) :
      Reaches sections (.within id growth) (before ++ now :: after)
  | missed {growth : Growth} {id : String} (sought : growth.sectionId? = some id)
      (missing : ∀ part ∈ sections, part.id ≠ id) : Reaches sections growth sections

structure SectionGrowth.Step (part : Section) (told : Bool) (now : Section) : Prop where
  grows : part.Grows now
  oneMore : now.widgets.length ≤ part.widgets.length + 1
  untold : told = false → now = part

structure Growth.Step (document : Document) (growth : Growth) (told : Bool) (now : Document) :
    Prop where
  header : now.header = document.header
  footer : now.footer = document.footer
  theme : now.theme = document.theme
  reaches : growth.Reaches document.sections now.sections
  oneMore : now.sections.length + now.widgetCount ≤
    document.sections.length + document.widgetCount + 1
  untold : told = false → now = document

/-! ## Steps -/

theorem SectionGrowth.step (growth : SectionGrowth) (part : Section) (supply : IdSupply) :
    Step part ((growth.run part).run supply).1.1 ((growth.run part).run supply).1.2 := by
  have pushed (widget : Widget) : Step part true (part.push widget) :=
    { grows := .of_widgets part (List.sublist_append_left _ _).subperm
      oneMore := by simp [Section.push]
      untold := nofun }
  cases growth with
  | add kind => exact pushed ((Widget.new kind).run supply).1
  | push widget => exact pushed widget
  | move id direction =>
      have perm := Elements.perm_move (fun widget => widget.id = id) direction part.widgets
      exact
        { grows := .of_widgets part perm.symm.subperm
          oneMore := Nat.le_succ_of_le (Nat.le_of_eq perm.length_eq)
          untold := fun untold =>
            congrArg (fun widgets => { part with widgets }) (Elements.move_of_untold untold) }
  | duplicate id =>
      cases found : part.widget? id with
      | none =>
          have result : (run part (.duplicate id)).run supply = ((false, part), supply) := by
            rw [run, StateT.run_bind, Section.duplicateWidget_of_missing found supply]
            rfl
          rw [result]
          exact ⟨.refl part, Nat.le_succ _, fun _ => rfl⟩
      | some widget =>
          rcases Elements.addresses_iff_find?.mpr found with ⟨before, after, addresses⟩
          have result : ((run part (.duplicate id)).run supply).1 =
              (true, { part with
                widgets := before ++ widget :: (widget.copy.run supply).1 :: after }) := by
            rw [run, StateT.run_bind, Section.duplicateWidget_of_addresses addresses supply]
            rfl
          rw [result]
          have kept : part.widgets.Sublist
              (before ++ widget :: (widget.copy.run supply).1 :: after) := by
            rw [addresses.split]
            exact ((List.sublist_cons_self _ after).cons_cons widget).append_left before
          exact
            { grows := .of_widgets part kept.subperm
              oneMore := by simp [addresses.split]; omega
              untold := nofun }

namespace Document

theorem widgetCount_of_split {document : Document} {before after : List Section} {part : Section}
    (split : document.sections = before ++ part :: after) :
    document.widgetCount =
      (before.flatMap Section.widgets).length + part.widgets.length +
        (after.flatMap Section.widgets).length := by
  rw [widgetCount, split, List.flatMap_append, List.flatMap_cons, List.length_append,
    List.length_append, Nat.add_assoc]

end Document

namespace Growth

theorem step_moveSection (id : String) (direction : Direction) (document : Document) :
    Step document (.moveSection id direction) (document.moveSection id direction).1
      (document.moveSection id direction).2 where
  header := rfl
  footer := rfl
  theme := rfl
  reaches := by
    cases found : document.section? id with
    | none =>
        have missing : ∀ part ∈ document.sections, decide (part.id = id) = false := by
          simpa using List.find?_eq_none.mp found
        have same : (document.moveSection id direction).2.sections = document.sections :=
          congrArg Prod.snd (Elements.move_of_missing missing direction)
        rw [same]
        exact .missed rfl (by simpa using missing)
    | some part =>
        rcases Elements.addresses_iff_find?.mpr found with ⟨before, after, addresses⟩
        rw [Document.moveSection_of_addresses addresses]
        exact .moved addresses
  oneMore := by
    have perm := Elements.perm_move (fun part => part.id = id) direction document.sections
    have sections : (document.moveSection id direction).2.sections.length =
        document.sections.length := perm.length_eq
    have widgets : (document.moveSection id direction).2.widgetCount = document.widgetCount :=
      (perm.flatMap_right Section.widgets).length_eq
    rw [sections, widgets]
    exact Nat.le_succ _
  untold untold :=
    congrArg (fun sections => { document with sections }) (Elements.move_of_untold untold)

theorem step_within (sectionId : String) (growth : SectionGrowth) (document : Document)
    (supply : IdSupply) :
    Step document (.within sectionId growth)
      ((run document (.within sectionId growth)).run supply).1.1
      ((run document (.within sectionId growth)).run supply).1.2 := by
  cases found : document.section? sectionId with
  | none =>
      have result : (run document (.within sectionId growth)).run supply =
          ((false, document), supply) := by
        rw [run, found]
        rfl
      rw [result]
      have missing : ∀ part ∈ document.sections, part.id ≠ sectionId := by
        simpa using List.find?_eq_none.mp found
      exact ⟨rfl, rfl, rfl, .missed rfl missing, Nat.le_succ _, fun _ => rfl⟩
  | some part =>
      rcases Elements.addresses_iff_find?.mpr found with ⟨before, after, addresses⟩
      have inPart := growth.step part supply
      have result : ((run document (.within sectionId growth)).run supply).1 =
          (((growth.run part).run supply).1.1,
            document.modifySection sectionId fun _ => ((growth.run part).run supply).1.2) := by
        rw [run, found]
        rfl
      rw [result, Document.modifySection_of_addresses addresses]
      exact
        { header := rfl
          footer := rfl
          theme := rfl
          reaches := .changed addresses inPart.grows
          oneMore := by
            have more := inPart.oneMore
            rw [Document.widgetCount_of_split addresses.split, Document.widgetCount_of_split rfl,
              addresses.split]
            simp only [List.length_append, List.length_cons]
            omega
          untold := fun untold => by
            rw [inPart.untold untold, ← addresses.split] }

theorem step (growth : Growth) (document : Document) (supply : IdSupply) :
    Step document growth ((growth.run document).run supply).1.1
      ((growth.run document).run supply).1.2 := by
  cases growth with
  | addSection =>
      exact
        { header := rfl
          footer := rfl
          theme := rfl
          reaches := .added ⟨supply, rfl⟩
          oneMore := by
            have sections : ((run document .addSection).run supply).1.2.sections =
                document.sections ++ [(Section.new.run supply).1] := rfl
            have noWidgets : (Section.new.run supply).1.widgets = [] := rfl
            rw [Document.widgetCount, sections, List.flatMap_append, List.flatMap_singleton,
              noWidgets, List.append_nil, List.length_append, List.length_singleton,
              Document.widgetCount]
            omega
          untold := nofun }
  | moveSection id direction => exact step_moveSection id direction document
  | within sectionId growth => exact step_within sectionId growth document supply

/-! ## Runs -/

theorem Reaches.allGrow {growth : Growth} {sections now : List Section}
    (reaches : growth.Reaches sections now) :
    Section.AllGrow sections (if growth.addsSection then 1 else 0) now := by
  cases reaches with
  | @added part isNew =>
      exact ⟨[part], _, rfl, by simpa using isNew, Section.Grows.forall₂_refl _, .refl _⟩
  | @moved id direction before after part addresses =>
      have perm := Elements.perm_move (fun part => part.id = id) direction sections
      rw [addresses.move] at perm
      exact .of_forall₂ (Section.Grows.forall₂_refl sections) perm.symm
  | @changed id growth before after part now addresses grows =>
      have inPlace : List.Forall₂ Section.Grows (before ++ part :: after)
          (before ++ now :: after) :=
        List.rel_append (Section.Grows.forall₂_refl before)
          (.cons grows (Section.Grows.forall₂_refl after))
      rw [← addresses.split] at inPlace
      exact .of_forall₂ inPlace (.refl _)
  | missed sought missing =>
      cases growth with
      | addSection => cases sought
      | moveSection id direction => exact .refl sections
      | within id growth => exact .refl sections

theorem Step.grows {document now : Document} {growth : Growth} {told : Bool}
    (step : Step document growth told now) :
    document.Grows (if growth.addsSection then 1 else 0) now :=
  ⟨step.header, step.footer, step.theme, step.reaches.allGrow⟩

end Growth

namespace Document.Grows

theorem refl (document : Document) : document.Grows 0 document :=
  ⟨rfl, rfl, rfl, .refl document.sections⟩

theorem trans {first second third : Document} {early late : Nat} (before : first.Grows early second)
    (after : second.Grows late third) : first.Grows (early + late) third where
  header := after.header.trans before.header
  footer := after.footer.trans before.footer
  theme := after.theme.trans before.theme
  sections := before.sections.trans after.sections

end Document.Grows

namespace Growth

theorem grows_runAll (growths : List Growth) (document : Document) (supply : IdSupply) :
    document.Grows (growths.countP addsSection) ((runAll document growths).run supply).1 := by
  induction growths generalizing document supply with
  | nil => exact .refl document
  | cons growth rest induction =>
      have result : (runAll document (growth :: rest)).run supply =
          (runAll ((growth.run document).run supply).1.2 rest).run
            ((growth.run document).run supply).2 := rfl
      rw [List.countP_cons, Nat.add_comm, result]
      exact (growth.step document supply).grows.trans (induction _ _)

/-- No edit but a removal loses or alters anything, however ids are repeated. One such edit adds one
section or one widget at most, reaches no section but the one that it addresses, and does nothing
where it is told as not done. After any number of them, every section is still there, once and with
all of its widgets. -/
theorem content_kept :
    (∀ (document : Document) (growth : Growth) (supply : IdSupply),
      Step document growth ((growth.run document).run supply).1.1
        ((growth.run document).run supply).1.2) ∧
    ∀ (document : Document) (growths : List Growth) (supply : IdSupply),
      document.Grows (growths.countP addsSection) ((runAll document growths).run supply).1 :=
  ⟨fun document growth supply => growth.step document supply,
    fun document growths supply => grows_runAll growths document supply⟩

end Growth

end Bulletin
