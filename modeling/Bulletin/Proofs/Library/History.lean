import Bulletin.Proofs.Document.Identities
import Bulletin.Proofs.Library.Reachable
import Bulletin.Proofs.Library.Removal
import Bulletin.Proofs.Text.Blank
/-!
# Histories of libraries

A library is a map from ids to entries that keeps the order in which they were stored. Its history
is the sequence of what was stored and deleted, and tells everything that can be seen of it: an
entry is there from when it was stored until its id is deleted. An edit that is refused leaves no
trace in the history.
-/

namespace Bulletin

/-! ## Texts of libraries -/

theorem Outcome.mapM_eq_ok {f : α → Except ε β} {items : List α} {results : List β} :
    items.mapM f = .ok results ↔
      List.Forall₂ (fun item result => f item = .ok result) items results := by
  induction items generalizing results with
  | nil => simp [pure_eq_ok, eq_comm]
  | cons item items induction =>
      rw [List.mapM_cons, bind_eq_ok, List.forall₂_cons_left_iff]
      apply exists_congr
      intro result
      rw [bind_eq_ok]
      constructor
      · rintro ⟨first, others, rest, equal⟩
        cases equal
        exact ⟨others, first, induction.mp rest, rfl⟩
      · rintro ⟨others, first, rest, rfl⟩
        exact ⟨first, others, induction.mpr rest, rfl⟩

namespace Library

/-- The text is JSON, its value is an array, and every item of it is an entry. -/
def TextHolds (now : Timestamp) (text : String) (entries : List SavedDocument) : Prop :=
  ∃ value items, Json.parse text = .ok value ∧ value.canonical = .array items ∧
    List.Forall₂
      (fun item saved => (SavedDocument.shape now).format.ofJson .fewer item = .ok saved)
      items.toList entries

theorem entriesOf_eq_ok {now : Timestamp} {text : String} {entries : List SavedDocument} :
    entriesOf now text = .ok entries ↔ TextHolds now text entries := by
  rw [entriesOf, TextHolds]
  cases Json.parse text with
  | error error => simp
  | ok value =>
      cases shown : value.canonical with
      | array items =>
          have held := @Outcome.mapM_eq_ok _ _ _
            ((SavedDocument.shape now).format.ofJson .fewer) items.toList entries
          simp only [Except.ok.injEq, shown, exists_and_left, exists_eq_left', Json.array.injEq,
            ← held, Json.Format.list]
          cases items.toList.mapM ((SavedDocument.shape now).format.ofJson .fewer) <;> simp
      | _ => simp [shown]

end Library

/-! ## Edits -/

inductive LibraryEdit where
  | save (name description : String) (document : Document)
  | importText (text : String)
  | delete (id : String)

inductive LibraryEvent where
  | stored (saved : SavedDocument)
  | deleted (id : String)
deriving DecidableEq

namespace LibraryEdit

/-- Why an edit was refused, if it was, and the library after it. -/
def run (library : Library) (now : Timestamp) : LibraryEdit → Fresh (Option Failure × Library)
  | .save name description document => do
      match ← library.save now name description document with
      | .ok (_, next) => return (none, next)
      | .error failure => return (some failure, library)
  | .importText text => do
      match ← library.importText now text with
      | .ok (_, next) => return (none, next)
      | .error failure => return (some failure, library)
  | .delete id => return (none, (library.delete id).2)

def stored (now : Timestamp) (supply : IdSupply) : LibraryEdit → List SavedDocument
  | .save name description document =>
      if Text.trim name = "" then []
      else [⟨supply.idAt supply.drawn, Text.trim name, Text.trim description, document, now⟩]
  | .importText text =>
      match Library.entriesOf now text with
      | .ok entries =>
          List.zipWith (fun id saved => { saved with id }) (supply.upcoming entries.length) entries
      | .error _ => []
  | .delete _ => []

def events (now : Timestamp) (supply : IdSupply) : LibraryEdit → List LibraryEvent
  | .save name description document =>
      ((save name description document).stored now supply).map .stored
  | .importText text => ((importText text).stored now supply).map .stored
  | .delete id => [.deleted id]

end LibraryEdit

def Library.ids (library : Library) : List String :=
  library.entries.map SavedDocument.id

/-- The libraries that come about from an empty one by any edits, at any times, and their
histories. No id is drawn that is in use. -/
inductive LibraryHistory : Library → List LibraryEvent → Prop where
  | opened : LibraryHistory .empty []
  | edited {library : Library} {events : List LibraryEvent}
      (history : LibraryHistory library events) (edit : LibraryEdit) (now : Timestamp)
      (supply : IdSupply) (distinct : ((edit.stored now supply).map SavedDocument.id).Nodup)
      (unused : ∀ id ∈ library.ids, id ∉ (edit.stored now supply).map SavedDocument.id) :
      LibraryHistory ((edit.run library now).run supply).1.2 (events ++ edit.events now supply)

/-! ## Steps -/

theorem run_rekeyAll_eq (setId : String → α → α) (items : List α) (supply : IdSupply) :
    (rekeyAll setId items).run supply =
      (List.zipWith setId (supply.upcoming items.length) items, supply.skip items.length) := by
  induction items generalizing supply with
  | nil => rfl
  | cons item items induction =>
      rw [List.length_cons, IdSupply.upcoming_succ, List.zipWith_cons_cons, Nat.add_comm,
        ← IdSupply.skip_skip]
      rw [rekeyAll, StateT.run_bind]
      change ((rekeyAll setId items >>= fun rest => pure (setId _ item :: rest)).run
        (supply.skip 1)) = _
      rw [StateT.run_bind, induction]
      rfl

namespace LibraryEdit

variable {library : Library} {now : Timestamp} {supply : IdSupply}

theorem run_save {name : String} (named : Text.trim name ≠ "") (description : String)
    (document : Document) :
    ((save name description document).run library now).run supply =
      ((none, ⟨library.entries ++ (save name description document).stored now supply⟩),
        supply.skip 1) := by
  have notBlank : ¬Text.isAllBlank name = true := mt Text.trim_eq_empty.mpr named
  rw [stored, if_neg named, run, StateT.run_bind, Library.save, if_neg notBlank]
  rfl

theorem run_save_blank {name : String} (blank : Text.trim name = "") (description : String)
    (document : Document) :
    ((save name description document).run library now).run supply =
      ((some .blankName, library), supply) := by
  rw [run, StateT.run_bind, Library.save, if_pos (Text.trim_eq_empty.mp blank)]
  rfl

theorem run_importText {text : String} {entries : List SavedDocument}
    (holds : Library.TextHolds now text entries) :
    ((importText text).run library now).run supply =
      ((none, ⟨library.entries ++ (importText text).stored now supply⟩),
        supply.skip entries.length) := by
  have found := Library.entriesOf_eq_ok.mpr holds
  have rekeyed := run_rekeyAll_eq (fun id (saved : SavedDocument) => { saved with id }) entries
    supply
  simp only [stored, found]
  rw [run, StateT.run_bind, Library.importText, found]
  dsimp only
  rw [StateT.run_bind, rekeyed]
  rfl

theorem run_importText_refused {text : String}
    (holdsNone : ∀ entries, ¬Library.TextHolds now text entries) :
    ∃ failure, ((importText text).run library now).run supply =
      ((some failure, library), supply) := by
  cases found : Library.entriesOf now text with
  | ok entries => exact absurd (Library.entriesOf_eq_ok.mp found) (holdsNone entries)
  | error failure =>
      refine ⟨failure, ?_⟩
      rw [run, StateT.run_bind, Library.importText, found]
      rfl

end LibraryEdit

/-! ## What stays -/

/-- The entries that were stored and whose ids were not deleted afterwards, in the order in which
they were stored. -/
def survivors : List LibraryEvent → List SavedDocument
  | [] => []
  | .stored saved :: later =>
      if .deleted saved.id ∈ later then survivors later else saved :: survivors later
  | .deleted _ :: later => survivors later

def IsKept (events : List LibraryEvent) (saved : SavedDocument) : Prop :=
  ∃ before after, events = before ++ .stored saved :: after ∧ .deleted saved.id ∉ after

theorem survivors_stored (added : List SavedDocument) :
    survivors (added.map .stored) = added := by
  induction added with
  | nil => rfl
  | cons saved added induction =>
      have undeleted : LibraryEvent.deleted saved.id ∉ added.map .stored := by simp
      rw [List.map_cons, survivors, if_neg undeleted, induction]

theorem survivors_append_stored (events : List LibraryEvent) (added : List SavedDocument) :
    survivors (events ++ added.map .stored) = survivors events ++ added := by
  induction events with
  | nil => exact survivors_stored added
  | cons event events induction =>
      cases event with
      | deleted id => exact induction
      | stored saved =>
          have deleted : LibraryEvent.deleted saved.id ∈ events ++ added.map .stored ↔
              LibraryEvent.deleted saved.id ∈ events := by simp
          simp only [List.cons_append, survivors, deleted, induction]
          split <;> rfl

theorem survivors_append_deleted (events : List LibraryEvent) (id : String) :
    survivors (events ++ [.deleted id]) = (survivors events).filter fun saved => saved.id ≠ id := by
  induction events with
  | nil => rfl
  | cons event events induction =>
      cases event with
      | deleted id => exact induction
      | stored saved =>
          have deleted : LibraryEvent.deleted saved.id ∈ events ++ [.deleted id] ↔
              LibraryEvent.deleted saved.id ∈ events ∨ saved.id = id := by simp
          simp only [List.cons_append, survivors, deleted, induction]
          by_cases before : LibraryEvent.deleted saved.id ∈ events
          · rw [if_pos (.inl before), if_pos before]
          · by_cases now : saved.id = id
            · rw [if_pos (.inr now), if_neg before, List.filter_cons_of_neg (by simp [now])]
            · rw [if_neg (by simp [before, now]), if_neg before,
                List.filter_cons_of_pos (by simp [now])]

theorem mem_survivors {events : List LibraryEvent} {saved : SavedDocument} :
    saved ∈ survivors events ↔ IsKept events saved := by
  induction events with
  | nil => simp [survivors, IsKept]
  | cons event events induction =>
      have kept : IsKept (event :: events) saved ↔
          (event = .stored saved ∧ .deleted saved.id ∉ events) ∨ IsKept events saved := by
        constructor
        · rintro ⟨before, after, split, undeleted⟩
          cases before with
          | nil =>
              cases split
              exact .inl ⟨rfl, undeleted⟩
          | cons first before =>
              cases split
              exact .inr ⟨before, after, rfl, undeleted⟩
        · rintro (⟨rfl, undeleted⟩ | ⟨before, after, rfl, undeleted⟩)
          · exact ⟨[], events, rfl, undeleted⟩
          · exact ⟨event :: before, after, rfl, undeleted⟩
      rw [kept, ← induction]
      cases event with
      | deleted id => simp [survivors]
      | stored other =>
          rw [survivors]
          split <;> grind

/-! ## Runs -/

theorem LibraryEdit.entries_run (edit : LibraryEdit) (library : Library) (now : Timestamp)
    (supply : IdSupply) {events : List LibraryEvent}
    (entries : library.entries = survivors events) :
    ((edit.run library now).run supply).1.2.entries =
      survivors (events ++ edit.events now supply) := by
  cases edit with
  | delete id =>
      rw [LibraryEdit.events, survivors_append_deleted, ← entries]
      rfl
  | save name description document =>
      rw [LibraryEdit.events, survivors_append_stored, ← entries]
      by_cases blank : Text.trim name = ""
      · rw [run_save_blank blank, stored, if_pos blank, List.append_nil]
      · rw [run_save blank]
  | importText text =>
      rw [LibraryEdit.events, survivors_append_stored, ← entries]
      cases found : Library.entriesOf now text with
      | ok added => rw [run_importText (Library.entriesOf_eq_ok.mp found)]
      | error failure =>
          have holdsNone (added : List SavedDocument) : ¬Library.TextHolds now text added := by
            rw [← Library.entriesOf_eq_ok, found]
            nofun
          have refusal : ∃ failure, ((importText text).run library now).run supply =
              ((some failure, library), supply) := run_importText_refused holdsNone
          rcases refusal with ⟨failure, refused⟩
          rw [refused, stored, found, List.append_nil]

/-- What can be seen of a library with a history: it is an ordered map of the entries that are
kept, and deletion takes away one of them. -/
structure Library.IsMapOf (library : Library) (events : List LibraryEvent) : Prop where
  entries : library.entries = survivors events
  distinct : library.ids.Nodup
  get {id : String} {saved : SavedDocument} :
    library.get? id = some saved ↔ saved.id = id ∧ IsKept events saved
  load {id : String} {document : Document} :
    library.load id = .ok document ↔
      ∃ saved, saved.id = id ∧ IsKept events saved ∧ saved.document = document
  missing {id : String} (missing : ∀ saved, saved.id = id → ¬IsKept events saved) :
    library.get? id = none ∧ library.load id = .error (.presetNotFound id) ∧
      library.delete id = (false, library)
  deletion {before after : List SavedDocument} {saved : SavedDocument}
    (split : library.entries = before ++ saved :: after) :
    library.delete saved.id = (true, ⟨before ++ after⟩)

namespace Library

variable {library : Library} {events : List LibraryEvent}

theorem get?_eq_some (distinct : library.ids.Nodup) {id : String} {saved : SavedDocument} :
    library.get? id = some saved ↔ saved.id = id ∧ saved ∈ library.entries := by
  constructor
  · intro found
    exact ⟨by simpa using List.find?_some found, List.mem_of_find?_eq_some found⟩
  · rintro ⟨rfl, member⟩
    cases found : library.get? saved.id with
    | none => simpa using List.find?_eq_none.mp found saved member
    | some other =>
        have sameId : other.id = saved.id := by simpa using List.find?_some found
        rw [List.inj_on_of_nodup_map distinct (List.mem_of_find?_eq_some found) member sameId]

theorem delete_of_split (distinct : library.ids.Nodup) {before after : List SavedDocument}
    {saved : SavedDocument} (split : library.entries = before ++ saved :: after) :
    library.delete saved.id = (true, ⟨before ++ after⟩) := by
  rw [ids, split, List.map_append, List.map_cons, List.nodup_middle, List.nodup_cons,
    ← List.map_append] at distinct
  have others (other : SavedDocument) (member : other ∈ before ++ after) :
      other.id ≠ saved.id := fun same => distinct.1 (same ▸ List.mem_map_of_mem member)
  have addresses : Elements.Addresses (fun other => decide (other.id = saved.id))
      library.entries before saved after :=
    ⟨split, by simp, fun other member => by simp [others other (List.mem_append_left _ member)]⟩
  have kept : after.filter (fun other => !decide (other.id = saved.id)) = after :=
    List.filter_eq_self.mpr fun other member => by
      simp [others other (List.mem_append_right _ member)]
  rw [delete_eq_removeAll, addresses.removeAll, kept]

theorem isMapOf_survivors (entries : library.entries = survivors events)
    (distinct : library.ids.Nodup) : library.IsMapOf events := by
  have found {id : String} {saved : SavedDocument} :
      library.get? id = some saved ↔ saved.id = id ∧ IsKept events saved := by
    rw [get?_eq_some distinct, entries, mem_survivors]
  refine ⟨entries, distinct, found, ?_, ?_, delete_of_split distinct⟩
  · intro id document
    simp only [← and_assoc, ← found]
    rw [Library.load]
    cases library.get? id <;> simp
  · intro id missing
    have none : library.get? id = none := by
      rw [Option.eq_none_iff_forall_ne_some]
      intro saved isFound
      exact missing saved (found.mp isFound).1 (found.mp isFound).2
    have untold : (library.delete id).1 = false := by
      rw [Bool.eq_false_iff, Ne, (library.removal_delete id).told]
      rintro ⟨saved, member, same⟩
      exact missing saved same (mem_survivors.mp (entries ▸ member))
    refine ⟨none, ?_, Prod.ext untold ((library.removal_delete id).unchanged untold)⟩
    rw [Library.load, none]

end Library

namespace LibraryHistory

variable {library : Library} {events : List LibraryEvent}

theorem entries_eq (history : LibraryHistory library events) :
    library.entries = survivors events := by
  induction history with
  | opened => rfl
  | edited _ edit now supply _ _ induction => exact edit.entries_run _ now supply induction

theorem nodup_ids (history : LibraryHistory library events) : library.ids.Nodup := by
  induction history with
  | opened => exact List.nodup_nil
  | @edited library events history edit now supply distinct unused induction =>
      have entries := edit.entries_run library now supply history.entries_eq
      rw [Library.ids, entries]
      cases edit with
      | delete id =>
          rw [LibraryEdit.events, survivors_append_deleted, ← history.entries_eq]
          exact induction.sublist (List.filter_sublist.map _)
      | _ =>
          rw [LibraryEdit.events, survivors_append_stored, ← history.entries_eq, List.map_append]
          exact induction.append distinct fun id => unused id

/-- A library is the ordered map that its history tells, whatever was saved, taken in and deleted
before. An edit that is refused leaves it as it is: a save under a blank name, and a text that is
no JSON, no array, or has an item that is no entry. Every other save and text is taken in whole,
behind the entries that are there. -/
theorem isMapOf (history : LibraryHistory library events) :
    library.IsMapOf events ∧ ∀ now supply,
      (∀ name description document, Text.trim name = "" →
        ((LibraryEdit.save name description document).run library now).run supply =
          ((some .blankName, library), supply)) ∧
      (∀ name description document, Text.trim name ≠ "" →
        ((LibraryEdit.save name description document).run library now).run supply =
          ((none, ⟨library.entries ++ [⟨supply.idAt supply.drawn, Text.trim name,
            Text.trim description, document, now⟩]⟩), supply.skip 1)) ∧
      (∀ text, (∀ entries, ¬Library.TextHolds now text entries) →
        ∃ failure, ((LibraryEdit.importText text).run library now).run supply =
          ((some failure, library), supply)) ∧
      ∀ text entries, Library.TextHolds now text entries →
        ((LibraryEdit.importText text).run library now).run supply =
          ((none, ⟨library.entries ++
            List.zipWith (fun id saved => { saved with id }) (supply.upcoming entries.length)
              entries⟩), supply.skip entries.length) := by
  refine ⟨Library.isMapOf_survivors history.entries_eq history.nodup_ids, ?_⟩
  intro now supply
  refine ⟨?_, ?_, ?_, ?_⟩
  · intro name description document blank
    exact LibraryEdit.run_save_blank blank description document
  · intro name description document named
    rw [LibraryEdit.run_save named, LibraryEdit.stored, if_neg named]
  · intro text holdsNone
    exact LibraryEdit.run_importText_refused holdsNone
  · intro text entries holds
    rw [LibraryEdit.run_importText holds, LibraryEdit.stored, Library.entriesOf_eq_ok.mpr holds]

def twinsText : String :=
  "[\x7b\"id\":\"i\",\"name\":\"A\",\"config\":\x7b\x7d\x7d," ++
    "\x7b\"id\":\"i\",\"name\":\"B\",\"config\":\x7b\x7d\x7d]"

theorem isMapOf_twins :
    ∃ library events, LibraryHistory library events ∧
      library.entries.map (fun saved => (saved.id, saved.name)) = [("ii", "A"), ("iii", "B")] ∧
      events.length = 4 ∧ library.IsMapOf events := by
  let supply : IdSupply := ⟨fun index => String.ofList (List.replicate (index + 1) 'i'), 0⟩
  have saved := opened.edited (.save " Draft " "" .starter) (.midnight .epoch) supply
    (by decide +kernel) (by decide +kernel)
  have imported := saved.edited (.importText twinsText) (.midnight .epoch) (supply.skip 1)
    (by decide +kernel) (by decide +kernel)
  have deleted := imported.edited (.delete "i") (.midnight .epoch) (supply.skip 3)
    (by decide +kernel) (by decide +kernel)
  exact ⟨_, _, deleted, by decide +kernel, by decide +kernel, deleted.isMapOf.1⟩

end LibraryHistory

end Bulletin
