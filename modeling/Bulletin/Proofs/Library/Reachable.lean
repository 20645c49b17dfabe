import Bulletin.Proofs.Library.RoundTrip
import Bulletin.Proofs.Storage.Files
/-!
# Libraries in use

The libraries that come about in use, and what becomes of them in a file. Every one is restored
but for the entries whose year does not have four digits: such a time is written with a sign, is
not recognized when the file is loaded, and is replaced with the time of loading.
-/

namespace Bulletin

theorem mem_rekeyAll {setId : String → α → α} {items : List α} {supply : IdSupply} {result : α}
    (member : result ∈ ((rekeyAll setId items).run supply).1) :
    ∃ item ∈ items, ∃ id, result = setId id item := by
  induction items generalizing supply with
  | nil => cases member
  | cons item items induction =>
      rcases List.mem_cons.mp member with rfl | later
      · exact ⟨item, List.mem_cons_self, _, rfl⟩
      · rcases induction later with ⟨other, isItem, id, equal⟩
        exact ⟨other, List.mem_cons_of_mem item isItem, id, equal⟩

namespace Library

/-! ## Steps -/

section Steps

variable {library next : Library} {now : Timestamp}

theorem isProper_empty : empty.IsProper := by
  intro saved member
  cases member

theorem isProper_of_loadLibrary {path : RawText} {machine after : Machine}
    (clock : machine.now.IsValid)
    (loaded : (Files.loadLibrary path).runOn machine = (.ok library, after)) :
    library.IsProper := by
  rw [Files.runOn_loadLibrary] at loaded
  split at loaded
  · rcases Files.parse_of_runOn_readJson loaded with ⟨text, -, parsed⟩
    exact (yields_isProper clock).parse parsed
  · cases loaded
    exact isProper_empty

theorem isProper_append {entries others : List SavedDocument}
    (first : ∀ saved ∈ entries, saved.IsProper) (second : ∀ saved ∈ others, saved.IsProper) :
    IsProper ⟨entries ++ others⟩ :=
  List.forall_mem_append.mpr ⟨first, second⟩

theorem isProper_of_save {name description : String} {document : Document}
    {supply rest : IdSupply} {saved : SavedDocument} (proper : library.IsProper)
    (clock : now.IsValid) (properDocument : document.IsProper)
    (done : (library.save now name description document).run supply =
      (.ok (saved, next), rest)) : next.IsProper := by
  rw [save] at done
  split at done
  · cases done
  · cases done
    exact isProper_append proper (List.forall_mem_singleton.mpr ⟨properDocument, clock⟩)

theorem isProper_of_entriesOf {text : String} {entries : List SavedDocument}
    (clock : now.IsValid) (found : entriesOf now text = .ok entries) :
    ∀ saved ∈ entries, saved.IsProper := by
  rw [entriesOf] at found
  split at found
  · cases found
  · split at found
    · split at found
      · rename_i read
        cases found
        exact (SavedDocument.yields_isProper clock).list.ofJson _ _ _ read
      · cases found
    · cases found

theorem isProper_of_importText {text : String} {supply rest : IdSupply} {count : Nat}
    (proper : library.IsProper) (clock : now.IsValid)
    (done : (library.importText now text).run supply = (.ok (count, next), rest)) :
    next.IsProper := by
  rw [importText] at done
  split at done
  · cases done
  · rename_i entries found
    cases done
    refine isProper_append proper ?_
    intro result member
    rcases mem_rekeyAll member with ⟨saved, isEntry, id, rfl⟩
    have properEntry := isProper_of_entriesOf clock found saved isEntry
    exact ⟨properEntry.document, properEntry.createdAt⟩

theorem isProper_delete (proper : library.IsProper) (id : String) :
    (library.delete id).2.IsProper := by
  intro saved member
  exact proper saved (List.mem_filter.mp member).1

end Steps

/-! ## Runs -/

/-- The libraries that come about by loading files, saving documents, taking in texts and deleting
entries, whatever is in the files and the texts, whichever ids are drawn, and whenever it is
done. -/
inductive Reachable : Library → Prop where
  | empty : Reachable .empty
  | loaded {library : Library} {path : RawText} {machine after : Machine}
      (clock : machine.now.IsValid)
      (done : (Files.loadLibrary path).runOn machine = (.ok library, after)) : Reachable library
  | saved {library next : Library} {now : Timestamp} {name description : String}
      {document : Document} {supply rest : IdSupply} {saved : SavedDocument}
      (reachable : Reachable library) (clock : now.IsValid) (proper : document.IsProper)
      (done : (library.save now name description document).run supply =
        (.ok (saved, next), rest)) : Reachable next
  | imported {library next : Library} {now : Timestamp} {text : String} {supply rest : IdSupply}
      {count : Nat} (reachable : Reachable library) (clock : now.IsValid)
      (done : (library.importText now text).run supply = (.ok (count, next), rest)) :
      Reachable next
  | deleted {library : Library} (reachable : Reachable library) (id : String) :
      Reachable (library.delete id).2

theorem Reachable.isProper {library : Library} (reachable : library.Reachable) :
    library.IsProper := by
  induction reachable with
  | empty => exact isProper_empty
  | loaded clock done => exact isProper_of_loadLibrary clock done
  | saved _ clock proper done induction => exact isProper_of_save induction clock proper done
  | imported _ clock done induction => exact isProper_of_importText induction clock done
  | deleted _ id induction => exact isProper_delete induction id

/-! ## Files -/

/-- A library that is saved is loaded again, at any later time, with every entry as it was, but for
those of a signed year, which are taken to be of the time of loading. So nothing is lost exactly
where there are no such entries, other than of the very moment of loading. -/
theorem loadLibrary_of_saveLibrary {library : Library} (reachable : library.Reachable)
    {path : RawText} {machine saved later : Machine}
    (wrote : (Files.saveLibrary path library).runOn machine = (.ok (), saved))
    (untouched : later.disk = saved.disk) :
    (Files.loadLibrary path).runOn later = (.ok (library.reread later.now), later) ∧
      (library.reread later.now = library ↔
        ∀ entry ∈ library.entries,
          entry.createdAt.HasPlainYear ∨ entry.createdAt = later.now) := by
  have written := (Task.writeText_of_runOn wrote).1
  rw [← untouched] at written
  have present := Disk.pathExists_of_writeText written
  have there := Disk.readText_of_writeText written
  have parsed := parse_pretty reachable.isProper later.now
  refine ⟨?_, reread_eq_self⟩
  rw [Files.runOn_loadLibrary, present, if_pos rfl]
  exact Files.runOn_readJson there parsed

/-- A library file with a signed year in one entry and a leap second in another. -/
def lateText : String :=
  "[\x7b\"id\":\"a\",\"name\":\"n\",\"config\":\x7b\x7d,\"createdAt\":\"1/1/+10000\"\x7d," ++
    "[\"b\",\"m\",\"\",[],\"2016-12-31T23:59:60.5Z\"]]"

def lateMachine : Machine :=
  ⟨⟨[(["late.json"], .file (.text lateText))]⟩, .ofSeed "", .midnight .epoch⟩

theorem loadLibrary_of_saveLibrary_late :
    ∃ library saved,
      (Files.loadLibrary "late.json").runOn lateMachine = (.ok library, lateMachine) ∧
        library.Reachable ∧
        (Files.saveLibrary "kept.json" library).runOn lateMachine = (.ok (), saved) ∧
        (Files.loadLibrary "kept.json").runOn saved = (.ok (library.reread saved.now), saved) ∧
        library.reread saved.now ≠ library := by
  let library : Library :=
    ⟨[⟨"a", "n", "", Document.shape.blank, .midnight (.first 10000 1 (by decide) (by decide))⟩,
      ⟨"b", "m", "", Document.shape.blank,
        ⟨.last 2016 12 (by decide) (by decide), 23, 59, 60, 500000000⟩⟩]⟩
  have parsed : (format lateMachine.now).parse lateText = .ok library := by decide +kernel
  have present : lateMachine.disk.pathExists "late.json" = true := rfl
  have loads : (Files.loadLibrary "late.json").runOn lateMachine = (.ok library, lateMachine) := by
    rw [Files.runOn_loadLibrary, present, if_pos rfl]
    exact Files.runOn_readJson rfl parsed
  have clock : lateMachine.now.IsValid := Timestamp.isValid_midnight .epoch
  have reachable : library.Reachable := .loaded clock loads
  have saves :
      (Files.saveLibrary "kept.json" library).runOn lateMachine =
        (.ok (), ⟨⟨[(["late.json"], .file (.text lateText)),
          (["kept.json"], .file (.text library.toJson.pretty))]⟩,
          .ofSeed "", .midnight .epoch⟩) := rfl
  rcases loadLibrary_of_saveLibrary reachable saves rfl with ⟨restores, unchanged⟩
  refine ⟨library, _, loads, reachable, saves, restores, ?_⟩
  rw [ne_eq, unchanged]
  decide +kernel

end Library

end Bulletin
