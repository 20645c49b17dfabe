import Bulletin.Proofs.Outcome
import Bulletin.Storage.Disk
/-!
# Files on a disk

Writing a file changes the entry at its own location only, which was neither a directory nor a link.
So the way to every file stays open, and the file that was written is found where it was written.
-/

namespace Bulletin.Disk

/-! ## Entries -/

theorem lookup_putEntry (location : Location) (entry : Entry) (other : Location)
    (entries : List (Location × Entry)) :
    (putEntry location entry entries).lookup other =
      if other = location then some entry else entries.lookup other := by
  by_cases same : other = location
  · subst same
    rw [if_pos rfl]
    induction entries with
    | nil => rw [putEntry, List.lookup_cons, beq_self_eq_true]
    | cons head tail induction =>
        rw [putEntry]
        split
        · rw [List.lookup_cons, beq_self_eq_true]
        · rename_i notHead
          rw [List.lookup_cons, beq_eq_false_iff_ne.mpr (Ne.symm notHead), induction]
  · have different : (other == location) = false := beq_eq_false_iff_ne.mpr same
    rw [if_neg same]
    induction entries with
    | nil => rw [putEntry, List.lookup_cons, different]
    | cons head tail induction =>
        rw [putEntry]
        split
        · rename_i isHead
          rw [List.lookup_cons, List.lookup_cons, isHead, different]
        · rw [List.lookup_cons, List.lookup_cons, induction]

theorem lookup_put (disk : Disk) {location : Location} (nonempty : location ≠ [])
    (entry : Entry) (other : Location) :
    Disk.entry? (disk.put location entry) other =
      if other = location then some entry else disk.entry? other := by
  cases other with
  | nil => exact (if_neg (Ne.symm nonempty)).symm
  | cons name rest => exact lookup_putEntry location entry (name :: rest) disk.entries

/-! ## Ways -/

/-- The directory or the link at a location, through which a path can lead. -/
def way? (disk : Disk) (location : Location) : Option Entry :=
  match disk.entry? location with
  | some (.file _) => none
  | found => found

theorem ne_nil_of_way? {disk : Disk} {location : Location}
    (noWay : disk.way? location = none) : location ≠ [] := by
  rintro rfl
  cases noWay

theorem Target.ofEnd_eq_ok {location : Location} {rest : List RawText} {fault : FileFault}
    {target : Target} :
    Target.ofEnd location rest fault = .ok target ↔
      (∀ part ∈ rest, part = "") ∧ ⟨location, rest ≠ []⟩ = target := by
  rw [ofEnd]
  split
  · rename_i blank
    rw [Except.ok.injEq]
    exact (and_iff_right blank).symm
  · rename_i more
    exact iff_of_false nofun fun ends => more ends.1

theorem walkParts_cons_eq_ok {disk : Disk}
    {follow : Location → List RawText → Except FileFault Target} {location : Location}
    {part : RawText} {rest : List RawText} {target : Target} :
    disk.walkParts follow location (part :: rest) = .ok target ↔
      if part = "" ∨ part = "." then disk.walkParts follow location rest = .ok target
      else if part = ".." then disk.walkParts follow location.dropLast rest = .ok target
      else
        match disk.way? (location ++ [part]) with
        | some (.link path) =>
            follow (if Path.isAbsolute path then [] else location) (Path.parts path ++ rest) =
              .ok target
        | some _ => disk.walkParts follow (location ++ [part]) rest = .ok target
        | none => (∀ other ∈ rest, other = "") ∧ ⟨location ++ [part], rest ≠ []⟩ = target := by
  rw [walkParts]
  split
  · exact Iff.rfl
  · split
    · exact Iff.rfl
    · rw [way?]
      cases disk.entry? (location ++ [part]) with
      | none => exact Target.ofEnd_eq_ok
      | some entry =>
          cases entry with
          | directory => exact Iff.rfl
          | file content => exact Target.ofEnd_eq_ok
          | link path => exact Iff.rfl

section Ways

variable {disk other : Disk} (same : ∀ location, other.way? location = disk.way? location)

include same

theorem walkParts_congr {follow next : Location → List RawText → Except FileFault Target}
    (follows : ∀ start parts target,
      next start parts = .ok target ↔ follow start parts = .ok target)
    (start : Location) (parts : List RawText) (target : Target) :
    other.walkParts next start parts = .ok target ↔
      disk.walkParts follow start parts = .ok target := by
  induction parts generalizing start with
  | nil => exact Iff.rfl
  | cons part rest induction =>
      rw [walkParts_cons_eq_ok, walkParts_cons_eq_ok, same, induction, induction, induction]
      simp only [follows]

theorem walk_congr (links : Nat) (start : Location) (parts : List RawText) (target : Target) :
    other.walk links start parts = .ok target ↔ disk.walk links start parts = .ok target := by
  induction links generalizing start parts target with
  | zero => exact walkParts_congr same (fun _ _ _ => Iff.rfl) start parts target
  | succ links induction => exact walkParts_congr same induction start parts target

theorem resolve_congr {path : RawText} {target : Target} :
    other.resolve path = .ok target ↔ disk.resolve path = .ok target := by
  rw [resolve, resolve]
  split
  · exact Iff.rfl
  · split
    · exact Iff.rfl
    · exact walk_congr same maxLinks [] (Path.parts path) target

end Ways

theorem way?_of_walkParts {disk : Disk}
    {follow : Location → List RawText → Except FileFault Target}
    (follows : ∀ start parts target, follow start parts = .ok target →
      target.asDirectory = false → disk.way? target.location = none)
    {start : Location} {parts : List RawText} {target : Target}
    (walked : disk.walkParts follow start parts = .ok target)
    (asFile : target.asDirectory = false) : disk.way? target.location = none := by
  induction parts generalizing start with
  | nil =>
      cases walked
      cases asFile
  | cons part rest induction =>
      rw [walkParts_cons_eq_ok] at walked
      split at walked
      · exact induction walked
      · split at walked
        · exact induction walked
        · split at walked
          · exact follows _ _ _ walked asFile
          · exact induction walked
          · rename_i noWay
            rcases walked with ⟨-, rfl⟩
            exact noWay

theorem way?_of_walk {disk : Disk} {links : Nat} {start : Location} {parts : List RawText}
    {target : Target} (walked : disk.walk links start parts = .ok target)
    (asFile : target.asDirectory = false) : disk.way? target.location = none := by
  induction links generalizing start parts target with
  | zero =>
      apply way?_of_walkParts ?_ walked asFile
      intro start parts target followed
      cases followed
  | succ links induction =>
      exact way?_of_walkParts (fun _ _ _ found isFile => induction found isFile) walked asFile

theorem way?_of_resolve {disk : Disk} {path : RawText} {target : Target}
    (resolved : disk.resolve path = .ok target) (asFile : target.asDirectory = false) :
    disk.way? target.location = none := by
  rw [resolve] at resolved
  split at resolved
  · cases resolved
  · split at resolved
    · cases resolved
    · exact way?_of_walk resolved asFile

/-! ## Places -/

/-- The location that a path leads to, if the way is open. -/
def place? (disk : Disk) (path : RawText) : Option Location :=
  (disk.resolve path).toOption.map Target.location

section Put

variable {disk : Disk} {location : Location} (noWay : disk.way? location = none)
  (content : FileContent)

include noWay

/-- A file that replaces no directory and no link adds none, and takes none away. -/
theorem way?_put (other : Location) :
    Disk.way? (disk.put location (.file content)) other = disk.way? other := by
  by_cases here : other = location
  · rw [here, noWay, way?, lookup_put disk (ne_nil_of_way? noWay), if_pos rfl]
  · rw [way?, lookup_put disk (ne_nil_of_way? noWay), if_neg here]
    rfl

theorem resolve_put {path : RawText} {target : Target} :
    (disk.put location (.file content)).resolve path = .ok target ↔
      disk.resolve path = .ok target :=
  resolve_congr (way?_put noWay content)

end Put

/-! ## Files -/

theorem writeText_eq_ok {disk written : Disk} {path : RawText} {text : String} :
    disk.writeText path text = .ok written ↔
      ∃ target, disk.resolve path = .ok target ∧ disk.way? target.location = none ∧
        target.asDirectory = false ∧ disk.put target.location (.file (.text text)) = written := by
  rw [writeText, Outcome.bind_eq_ok]
  apply exists_congr
  intro target
  apply and_congr_right
  intro resolved
  cases asFile : target.asDirectory with
  | true => simp
  | false => simp [way?_of_resolve resolved asFile]

theorem find_of_writeText {disk written : Disk} {path : RawText} {text : String}
    (wrote : disk.writeText path text = .ok written) :
    ∃ location, written.find path = .ok (location, .file (.text text)) := by
  rcases writeText_eq_ok.mp wrote with ⟨target, resolved, noWay, asFile, rfl⟩
  refine ⟨target.location, ?_⟩
  rw [find, (resolve_put noWay (.text text)).mpr resolved, Outcome.ok_bind,
    lookup_put disk (ne_nil_of_way? noWay), if_pos rfl]
  simp [asFile]

theorem isDirectory_of_writeText {disk written : Disk} {path : RawText} {text : String}
    (wrote : disk.writeText path text = .ok written) : disk.isDirectory path = false := by
  rcases writeText_eq_ok.mp wrote with ⟨target, resolved, noWay, asFile, -⟩
  rw [way?] at noWay
  rw [isDirectory, find, resolved, Outcome.ok_bind]
  cases found : disk.entry? target.location with
  | none => rfl
  | some entry =>
      cases entry with
      | directory => simp [found] at noWay
      | file content => simp [asFile]
      | link path => simp [found] at noWay

theorem put_of_writeText {disk written : Disk} {path : RawText} {text : String}
    (wrote : disk.writeText path text = .ok written) :
    ∃ location, disk.place? path = some location ∧
      ∀ other, written.entry? other =
        if other = location then some (.file (.text text)) else disk.entry? other := by
  rcases writeText_eq_ok.mp wrote with ⟨target, resolved, noWay, -, rfl⟩
  refine ⟨target.location, ?_, lookup_put disk (ne_nil_of_way? noWay) _⟩
  rw [place?, resolved]
  rfl

theorem place?_of_changed {disk written : Disk} {path : RawText} {text : String}
    (wrote : disk.writeText path text = .ok written) {location : Location}
    (changed : written.entry? location ≠ disk.entry? location) :
    disk.place? path = some location ∧ written.entry? location = some (.file (.text text)) := by
  rcases put_of_writeText wrote with ⟨place, leads, entries⟩
  by_cases same : location = place
  · subst same
    exact ⟨leads, by rw [entries, if_pos rfl]⟩
  · rw [entries, if_neg same] at changed
    exact absurd rfl changed

theorem pathExists_iff {disk : Disk} {path : RawText} :
    disk.pathExists path = true ↔ ∃ found, disk.find path = .ok found := by
  rw [pathExists]
  cases disk.find path <;> simp

theorem isDirectory_iff {disk : Disk} {path : RawText} :
    disk.isDirectory path = true ↔ ∃ location, disk.find path = .ok (location, .directory) := by
  rw [isDirectory]
  rcases disk.find path with fault | ⟨location, _ | content⟩ <;> simp

theorem directoryNames_eq_ok {disk : Disk} {path : RawText} {names : List RawText} :
    disk.directoryNames path = .ok names ↔
      ∃ location, disk.find path = .ok (location, .directory) ∧
        disk.childNames location = names := by
  rw [directoryNames]
  rcases disk.find path with fault | ⟨location, _ | content⟩ <;> simp

theorem pathExists_of_readText {disk : Disk} {path : RawText} {text : String}
    (there : disk.readText path = .ok text) : disk.pathExists path = true := by
  rw [readText, Outcome.bind_eq_ok] at there
  rcases there with ⟨found, isFound, -⟩
  exact pathExists_iff.mpr ⟨found, isFound⟩

/-- Two paths do not lead to one place. -/
def Apart (disk : Disk) (path other : RawText) : Prop :=
  ∀ location, disk.place? path = some location → disk.place? other ≠ some location

section Apart

variable {disk written : Disk} {path other : RawText} {text : String}
  (wrote : disk.writeText other text = .ok written) (apart : disk.Apart path other)

include wrote apart

theorem find_of_apart {found : Location × Found} :
    written.find path = .ok found ↔ disk.find path = .ok found := by
  rcases writeText_eq_ok.mp wrote with ⟨target, resolved, noWay, -, rfl⟩
  rw [find, find, Outcome.bind_eq_ok, Outcome.bind_eq_ok]
  apply exists_congr
  intro pathTarget
  rw [resolve_put noWay]
  apply and_congr_right
  intro pathResolved
  have elsewhere : pathTarget.location ≠ target.location := by
    intro same
    apply apart pathTarget.location
    · rw [place?, pathResolved]
      rfl
    · rw [place?, resolved, same]
      rfl
  rw [lookup_put disk (ne_nil_of_way? noWay), if_neg elsewhere]

theorem readText_of_apart {content : String} :
    written.readText path = .ok content ↔ disk.readText path = .ok content := by
  rw [readText, readText, Outcome.bind_eq_ok, Outcome.bind_eq_ok]
  apply exists_congr
  intro found
  rw [find_of_apart wrote apart]

theorem pathExists_of_apart : written.pathExists path = disk.pathExists path := by
  have same : written.pathExists path = true ↔ disk.pathExists path = true := by
    rw [pathExists_iff, pathExists_iff]
    exact exists_congr fun found => find_of_apart wrote apart
  exact Bool.eq_iff_iff.mpr same

end Apart

theorem place?_of_writeText {disk written : Disk} {path : RawText} {text : String}
    (wrote : disk.writeText path text = .ok written) (other : RawText) :
    written.place? other = disk.place? other := by
  rcases writeText_eq_ok.mp wrote with ⟨target, -, noWay, -, rfl⟩
  have same : ((disk.put target.location (.file (.text text))).resolve other).toOption =
      (disk.resolve other).toOption := by
    apply Option.ext
    intro found
    rw [Outcome.toOption_eq_some, Outcome.toOption_eq_some]
    exact resolve_put noWay (.text text)
  rw [place?, same, place?]

theorem exists_writeText {disk written : Disk} {path : RawText} {text : String}
    (wrote : disk.writeText path text = .ok written) (other : String) :
    ∃ others, disk.writeText path other = .ok others := by
  rcases writeText_eq_ok.mp wrote with ⟨target, resolved, noWay, asFile, -⟩
  exact ⟨_, writeText_eq_ok.mpr ⟨target, resolved, noWay, asFile, rfl⟩⟩

theorem exists_writeText_of_writeText {disk written : Disk} {path : RawText} {text : String}
    (wrote : disk.writeText path text = .ok written) (other : String) :
    ∃ others, written.writeText path other = .ok others := by
  rcases writeText_eq_ok.mp wrote with ⟨target, resolved, noWay, asFile, rfl⟩
  exact ⟨_, writeText_eq_ok.mpr ⟨target, (resolve_put noWay _).mpr resolved,
    (way?_put noWay _ _).trans noWay, asFile, rfl⟩⟩

theorem readText_of_writeText {disk written : Disk} {path : RawText} {text : String}
    (wrote : disk.writeText path text = .ok written) : written.readText path = .ok text := by
  rcases find_of_writeText wrote with ⟨location, found⟩
  rw [readText, found]
  rfl

theorem pathExists_of_writeText {disk written : Disk} {path : RawText} {text : String}
    (wrote : disk.writeText path text = .ok written) : written.pathExists path = true := by
  rcases find_of_writeText wrote with ⟨location, found⟩
  rw [pathExists, found]

end Bulletin.Disk
