import Mathlib.Data.List.TakeWhile
import Bulletin.Proofs.Text.Bytes
import Bulletin.Proofs.Outcome
import Bulletin.Page.VideoLink
import Bulletin.Page.Widget
import Bulletin.Proofs.Text.Escape
/-!
# The first id of a link

The search for a video id cuts its link at byte offsets and goes on behind each mark with nothing
behind it. It cuts between characters only, and it finds the leftmost id there is.
-/

namespace Bulletin

namespace VideoLink

open Text (byteCount)

variable {chars id : List Char}

/-- A mark starts `chars` and `id` is what stands right behind it, up to an ampersand, a blank or
the end. -/
def Marked (chars id : List Char) : Prop :=
  id ≠ [] ∧ (∀ c ∈ id, c ≠ '&' ∧ Text.isBlank c = false) ∧
    ∃ mark, (mark = "youtube.com/watch?v=".toList ∨ mark = "youtu.be/".toList) ∧
      ∃ tail, chars = mark ++ id ++ tail ∧ ∀ c ∈ tail.head?, c = '&' ∨ Text.isBlank c = true

def IsFirst (chars id : List Char) : Prop :=
  ∃ place, Marked (chars.drop place) id ∧
    ∀ earlier < place, ∀ other, ¬ Marked (chars.drop earlier) other

theorem isIdChar_iff {c : Char} : isIdChar c = true ↔ c ≠ '&' ∧ Text.isBlank c = false := by
  simp [isIdChar]

theorem not_isIdChar_iff {c : Char} :
    isIdChar c = false ↔ c = '&' ∨ Text.isBlank c = true := by
  simp [isIdChar, or_iff_not_imp_left]

theorem mem_marks {mark : List Char} :
    mark ∈ marks ↔ mark = "youtube.com/watch?v=".toList ∨ mark = "youtu.be/".toList := by
  rw [marks, List.mem_pair]

theorem marked_iff :
    Marked chars id ↔ id ≠ [] ∧ ∃ mark ∈ marks, ∃ behind, chars = mark ++ behind ∧
      behind.takeWhile isIdChar = id := by
  constructor
  · rintro ⟨notEmpty, areIdChars, mark, isMark, tail, rfl, stops⟩
    refine ⟨notEmpty, mark, mem_marks.mpr isMark, id ++ tail, List.append_assoc .., ?_⟩
    have ends : tail.takeWhile isIdChar = [] := by
      cases tail with
      | nil => rfl
      | cons c tail =>
          have stop := not_isIdChar_iff.mpr (stops c rfl)
          exact List.takeWhile_cons_of_neg (Bool.not_eq_true _ ▸ stop)
    rw [List.takeWhile_append_of_pos fun c member => isIdChar_iff.mpr (areIdChars c member), ends,
      List.append_nil]
  · rintro ⟨notEmpty, mark, isMark, behind, rfl, rfl⟩
    refine ⟨notEmpty, fun c member => isIdChar_iff.mp (List.mem_takeWhile_imp member), mark,
      mem_marks.mp isMark, behind.dropWhile isIdChar, ?_, fun c first => ?_⟩
    · rw [List.append_assoc, List.takeWhile_append_dropWhile]
    · have stop := List.head?_dropWhile_not isIdChar behind
      rw [Option.mem_def.mp first] at stop
      exact not_isIdChar_iff.mp stop

theorem mark_eq_cons {mark : List Char} (isMark : mark ∈ marks) : ∃ rest, mark = 'y' :: rest := by
  rcases mem_marks.mp isMark with rfl | rfl <;> exact ⟨_, rfl⟩

theorem mark_unique {mark other : List Char} (isMark : mark ∈ marks) (isOther : other ∈ marks)
    (first : mark <+: chars) (second : other <+: chars) : mark = other := by
  have apart : ∀ mark ∈ marks, ∀ other ∈ marks, mark <+: other → mark = other := by
    decide +kernel
  rcases List.prefix_or_prefix_of_prefix first second with inner | inner
  · exact apart mark isMark other isOther inner
  · exact (apart other isOther mark isMark inner).symm

theorem mark_prefix_of_marked (marked : Marked chars id) : ∃ mark ∈ marks, mark <+: chars := by
  obtain ⟨-, mark, isMark, behind, rfl, -⟩ := marked_iff.mp marked
  exact ⟨mark, isMark, List.prefix_append mark behind⟩

theorem not_marked_nil : ¬ Marked [] id := by
  intro marked
  obtain ⟨mark, isMark, stands⟩ := mark_prefix_of_marked marked
  obtain ⟨rest, rfl⟩ := mark_eq_cons isMark
  simp at stands

theorem eq_takeWhile_of_marked {mark behind : List Char} (isMark : mark ∈ marks)
    (marked : Marked (mark ++ behind) id) : id = behind.takeWhile isIdChar := by
  obtain ⟨-, other, isOther, rest, split, rfl⟩ := marked_iff.mp marked
  have same : mark = other :=
    mark_unique isMark isOther (List.prefix_append mark behind) ⟨rest, split.symm⟩
  subst same
  rw [List.append_cancel_left split]

theorem IsFirst.unique {other : List Char} (first : IsFirst chars id)
    (second : IsFirst chars other) : id = other := by
  obtain ⟨place, marked, none⟩ := first
  obtain ⟨otherPlace, otherMarked, otherNone⟩ := second
  obtain before | rfl | behind := Nat.lt_trichotomy place otherPlace
  · exact absurd marked (otherNone place before id)
  · obtain ⟨-, mark, isMark, rest, split, rfl⟩ := marked_iff.mp marked
    rw [split] at otherMarked
    exact (eq_takeWhile_of_marked isMark otherMarked).symm
  · exact absurd otherMarked (none otherPlace behind other)

/-! ## The nearest mark -/

theorem length_le_of_byteCount_le {before other : List Char} (first : before <+: chars)
    (second : other <+: chars) (fewer : byteCount before ≤ byteCount other) :
    before.length ≤ other.length := by
  by_contra longer
  obtain ⟨gap, rfl⟩ := List.prefix_of_prefix_length_le second first (by omega)
  rw [Text.byteCount_append] at fewer
  have gapEmpty : gap = [] := Text.byteCount_eq_zero.mp (by omega)
  rw [gapEmpty, List.append_nil] at longer
  exact longer (Nat.le_refl _)

theorem findByte?_of_nearest? {offset : Nat} {mark : List Char}
    (found : nearest? chars = some (offset, mark)) :
    mark ∈ marks ∧ Text.findByte? mark chars = some offset := by
  obtain ⟨stood, isMark, value⟩ := List.mem_filterMap.mp (List.minOn?_mem found)
  obtain ⟨standing, foundStood, same⟩ := Option.map_eq_some_iff.mp value
  cases same
  exact ⟨isMark, foundStood⟩

theorem le_of_nearest? {offset other : Nat} {mark otherMark : List Char}
    (found : nearest? chars = some (offset, mark)) (isMark : otherMark ∈ marks)
    (foundOther : Text.findByte? otherMark chars = some other) : offset ≤ other := by
  have candidate : (other, otherMark) ∈ marks.filterMap fun mark =>
      (Text.findByte? mark chars).map fun offset => (offset, mark) :=
    List.mem_filterMap.mpr ⟨otherMark, isMark, by rw [foundOther]; rfl⟩
  have least := List.apply_get_minOn?_le_of_mem (f := Prod.fst) candidate
  rw [nearest?] at found
  simpa only [found, Option.get_some] using least

theorem nearest?_eq_some {offset : Nat} {mark : List Char}
    (found : nearest? chars = some (offset, mark)) :
    mark ∈ marks ∧ ∃ before behind, chars = before ++ (mark ++ behind) ∧
      byteCount before = offset ∧
      ∀ earlier < before.length, ∀ other ∈ marks, ¬ other <+: chars.drop earlier := by
  obtain ⟨isMark, foundMark⟩ := findByte?_of_nearest? found
  obtain ⟨before, behind, split, count, -⟩ := Text.findByte?_eq_some foundMark
  refine ⟨isMark, before, behind, split, count, fun earlier bound other isOther => ?_⟩
  cases foundOther : Text.findByte? other chars with
  | none => exact Text.findByte?_eq_none foundOther earlier
  | some otherOffset =>
      obtain ⟨otherBefore, otherBehind, otherSplit, otherCount, noneBefore⟩ :=
        Text.findByte?_eq_some foundOther
      have nearer : byteCount before ≤ byteCount otherBefore := by
        rw [count, otherCount]
        exact le_of_nearest? found isOther foundOther
      have notLater : before.length ≤ otherBefore.length :=
        length_le_of_byteCount_le ⟨_, split.symm⟩ ⟨_, otherSplit.symm⟩ nearer
      exact noneBefore earlier (Nat.lt_of_lt_of_le bound notLater)

theorem nearest?_eq_none (missing : nearest? chars = none) (place : Nat) :
    ∀ mark ∈ marks, ¬ mark <+: chars.drop place := by
  intro mark isMark
  have empty : (marks.filterMap fun mark =>
      (Text.findByte? mark chars).map fun offset => (offset, mark)) = [] := by
    by_contra some
    have := List.isSome_minOn?_iff (f := Prod.fst).mpr some
    rw [nearest?] at missing
    simp [missing] at this
  have notFound : Text.findByte? mark chars = none := by
    simpa using List.filterMap_eq_nil_iff.mp empty mark isMark
  exact Text.findByte?_eq_none notFound place

/-! ## The loop -/

theorem cut_of_split {start : Nat} {before rest : List Char} (split : chars = before ++ rest)
    (count : byteCount before = start) : cut chars start = .ok rest := by
  rw [cut, Text.fromByte?_eq_some.mpr ⟨before, split, count⟩]

theorem exists_cut_eq_ok {text : String} {start : Nat} :
    (∃ rest, cut text.toList start = .ok rest) ↔ String.Pos.Raw.IsValid text ⟨start⟩ := by
  rw [← Text.isSome_fromByte?, cut]
  cases Text.fromByte? text.toList start <;> simp

/-- A pass of the search over what stands behind `before` either ends it, with the first id there or
with none where there is none, or passes over characters that no id stands at. -/
theorem search_pass {before rest : List Char} (split : chars = before ++ rest) :
    (search chars (byteCount before) = .ok none ∧ ∀ place id, ¬ Marked (rest.drop place) id) ∨
      (∃ id, search chars (byteCount before) = .ok (some id) ∧ IsFirst rest id) ∨
      ∃ skipped tail, rest = skipped ++ tail ∧ skipped ≠ [] ∧
        search chars (byteCount before) = search chars (byteCount (before ++ skipped)) ∧
        ∀ earlier < skipped.length, ∀ id, ¬ Marked (rest.drop earlier) id := by
  have count : byteCount chars = byteCount before + byteCount rest := by
    rw [split, Text.byteCount_append]
  rw [search, cut_of_split split rfl, Outcome.ok_bind]
  by_cases more : byteCount before < byteCount chars
  case neg =>
    left
    have atEnd : rest = [] := Text.byteCount_eq_zero.mp (by omega)
    refine ⟨if_neg more, fun place id marked => ?_⟩
    rw [atEnd, List.drop_nil] at marked
    exact not_marked_nil marked
  case pos =>
    rw [if_pos more]
    cases nearest : nearest? rest with
    | none =>
        left
        refine ⟨rfl, fun place id marked => ?_⟩
        obtain ⟨mark, isMark, stands⟩ := mark_prefix_of_marked marked
        exact nearest?_eq_none nearest place mark isMark stands
    | some found =>
        right
        obtain ⟨offset, mark⟩ := found
        obtain ⟨isMark, gap, behind, restSplit, gapCount, noneBefore⟩ := nearest?_eq_some nearest
        have notMarked : ∀ earlier < gap.length, ∀ id, ¬ Marked (rest.drop earlier) id := by
          intro earlier bound id marked
          obtain ⟨other, isOther, stands⟩ := mark_prefix_of_marked marked
          exact noneBefore earlier bound other isOther stands
        have atMark : rest.drop gap.length = mark ++ behind := by
          rw [restSplit, List.drop_left]
        have behindMark : cut chars (byteCount before + offset + byteCount mark) = .ok behind := by
          have text : chars = (before ++ gap ++ mark) ++ behind := by
            simp only [split, restSplit, List.append_assoc]
          refine cut_of_split text ?_
          simp only [Text.byteCount_append, gapCount]
        simp only [behindMark, Outcome.ok_bind]
        by_cases empty : behind.takeWhile isIdChar = []
        case neg =>
          left
          rw [if_neg empty]
          refine ⟨_, rfl, gap.length, ?_, notMarked⟩
          rw [atMark]
          exact marked_iff.mpr ⟨empty, mark, isMark, behind, rfl, rfl⟩
        case pos =>
          right
          rw [if_pos empty]
          obtain ⟨markRest, rfl⟩ := mark_eq_cons isMark
          refine ⟨gap ++ ['y'], markRest ++ behind, by simp [restSplit], by simp, ?_, ?_⟩
          · have place : byteCount before + offset + 1 = byteCount (before ++ (gap ++ ['y'])) := by
              simp only [Text.byteCount_append, gapCount]
              rfl
            rw [place]
          · intro earlier bound id marked
            rw [List.length_append, List.length_singleton, Nat.lt_succ_iff_lt_or_eq] at bound
            rcases bound with inGap | rfl
            · exact notMarked earlier inGap id marked
            · rw [atMark] at marked
              exact marked.1 ((eq_takeWhile_of_marked isMark marked).trans empty)

theorem not_marked_of_passed {skipped tail : List Char} {bound : Nat}
    (passed : ∀ earlier < skipped.length, ∀ id, ¬ Marked ((skipped ++ tail).drop earlier) id)
    (none : ∀ place < bound, ∀ id, ¬ Marked (tail.drop place) id) :
    ∀ place < skipped.length + bound, ∀ id, ¬ Marked ((skipped ++ tail).drop place) id := by
  intro place inBound id
  rcases Nat.lt_or_ge place skipped.length with inside | outside
  · exact passed place inside id
  · obtain ⟨further, rfl⟩ := Nat.exists_eq_add_of_le outside
    rw [List.drop_length_add_append]
    exact none further (Nat.lt_of_add_lt_add_left inBound) id

/-- The search over what stands behind `before` finds the first id there, or tells that there is
none. Each pass leaves less to search. -/
theorem search_of_split {before rest : List Char} (split : chars = before ++ rest) :
    (search chars (byteCount before) = .ok none ∧ ∀ place id, ¬ Marked (rest.drop place) id) ∨
      ∃ id, search chars (byteCount before) = .ok (some id) ∧ IsFirst rest id := by
  rcases search_pass split with none | first | ⟨skipped, tail, rfl, notEmpty, pass, passed⟩
  · exact .inl none
  · exact .inr first
  · have tailSplit : chars = (before ++ skipped) ++ tail := by
      rw [split, List.append_assoc]
    have shorter : tail.length < (skipped ++ tail).length := by
      have := List.length_pos_iff.mpr notEmpty
      rw [List.length_append]
      omega
    rw [pass]
    rcases search_of_split tailSplit with ⟨noneFound, none⟩ | ⟨id, found, place, marked, none⟩
    · refine .inl ⟨noneFound, fun place => ?_⟩
      have noneUpTo : ∀ further < place + 1, ∀ id, ¬ Marked (tail.drop further) id :=
        fun further _ => none further
      exact not_marked_of_passed passed noneUpTo place (by omega)
    · refine .inr ⟨id, found, skipped.length + place, ?_, not_marked_of_passed passed none⟩
      rwa [List.drop_length_add_append]
termination_by rest.length

variable {url : String}

theorem search_url (url : String) :
    (search url.toList 0 = .ok none ∧ id? url = none ∧
        ∀ place id, ¬ Marked (url.toList.drop place) id) ∨
      ∃ id, search url.toList 0 = .ok (some id) ∧ id? url = some (String.ofList id) ∧
        IsFirst url.toList id := by
  have whole : url.toList = [] ++ url.toList := (List.nil_append _).symm
  have run := search_of_split whole
  rw [Text.byteCount_nil] at run
  rcases run with ⟨noneFound, none⟩ | ⟨id, found, first⟩
  · exact .inl ⟨noneFound, by rw [id?, noneFound]; rfl, none⟩
  · exact .inr ⟨id, found, by rw [id?, found]; rfl, first⟩

theorem id?_eq_some {id : String} : id? url = some id ↔ IsFirst url.toList id.toList := by
  rcases search_url url with ⟨-, noId, none⟩ | ⟨firstId, -, someId, first⟩
  · rw [noId]
    simp only [reduceCtorEq, false_iff]
    rintro ⟨place, marked, -⟩
    exact none place _ marked
  · rw [someId, Option.some_inj]
    constructor
    · rintro rfl
      rwa [String.toList_ofList]
    · intro other
      rw [first.unique other, String.ofList_toList]

theorem id?_eq_none : id? url = none ↔ ∀ place id, ¬ Marked (url.toList.drop place) id := by
  rcases search_url url with ⟨-, noId, none⟩ | ⟨firstId, -, someId, place, marked, -⟩
  · exact iff_of_true noId none
  · rw [someId]
    simp only [reduceCtorEq, false_iff]
    exact fun none => none place firstId marked

end VideoLink

/-! ## The page of a video -/

theorem Text.append_ne_append {first second : String}
    (notInner : ¬ first.toList <+: second.toList) (notOuter : ¬ second.toList <+: first.toList)
    (left right : String) : first ++ left ≠ second ++ right := by
  intro same
  have chars := congrArg String.toList same
  rw [String.toList_append, String.toList_append] at chars
  rcases List.prefix_or_prefix_of_prefix ⟨_, chars⟩ (List.prefix_append _ _) with inner | outer
  · exact notInner inner
  · exact notOuter outer

theorem Page.html_around (opening : String) (caption : Page) (before content behind : String) :
    Page.html (.markup opening :: caption ++ [.markup before, .text content, .markup behind]) =
      opening ++ (caption.html ++ (before ++ (Text.escape content ++ behind))) := by
  simp only [Page.html, List.map_append, List.map_cons, List.map_nil, List.cons_append,
    String.join_cons, String.join_append, String.join_nil, String.append_empty, Piece.html]

namespace Video

variable {video : Video}

def titled (video : Video) (target : String) : String :=
  "<div style=\"margin: 20px 0;\">\n        " ++ ((captionPage video.caption?).html ++ target)

def embedding (id : String) : String :=
  ("\n        <div style=\"position: relative; padding-bottom: 56.25%; height: 0; " ++
    "overflow: hidden; border-radius: 8px;\">\n          <iframe style=\"position: " ++
    "absolute; top: 0; left: 0; width: 100%; height: 100%; border: none;\" " ++
    "src=\"https://www.youtube.com/embed/") ++
    (Text.escape id ++ "\" allowfullscreen></iframe>\n        </div>\n      </div>")

def linking (url : String) : String :=
  "\n        <a href=\"" ++
    (Text.escape url ++
      "\" target=\"_blank\" style=\"color: #1976d2;\">Watch Video</a>\n      </div>")

theorem html_of_some {id : String} (found : VideoLink.id? video.url = some id) :
    video.page.html = video.titled (embedding id) := by
  unfold page
  rw [found]
  exact Page.html_around ..

theorem html_of_none (missing : VideoLink.id? video.url = none) :
    video.page.html = video.titled (linking video.url) := by
  unfold page
  rw [missing]
  exact Page.html_around ..

theorem titled_injective (video : Video) : Function.Injective video.titled := by
  intro first second same
  have behindOpening := (String.append_right_inj _).mp same
  exact (String.append_right_inj _).mp behindOpening

theorem embedding_injective : Function.Injective embedding := by
  intro first second same
  have behindSource := (String.append_right_inj _).mp same
  exact Text.escape_injective ((String.append_left_inj _).mp behindSource)

theorem embedding_ne_linking (id url : String) : embedding id ≠ linking url := by
  unfold embedding linking
  rw [String.append_assoc, String.append_assoc, String.append_assoc]
  exact Text.append_ne_append (by decide +kernel) (by decide +kernel) _ _

theorem html_eq_embedding {id : String} :
    video.page.html = video.titled (embedding id) ↔ VideoLink.id? video.url = some id := by
  constructor
  · intro html
    cases found : VideoLink.id? video.url with
    | none =>
        have same := video.titled_injective ((html_of_none found).symm.trans html)
        exact absurd same.symm (embedding_ne_linking id video.url)
    | some other =>
        have same := video.titled_injective ((html_of_some found).symm.trans html)
        exact congrArg some (embedding_injective same)
  · exact html_of_some

theorem html_eq_linking :
    video.page.html = video.titled (linking video.url) ↔ VideoLink.id? video.url = none := by
  constructor
  · intro html
    cases found : VideoLink.id? video.url with
    | none => rfl
    | some id =>
        have same := video.titled_injective ((html_of_some found).symm.trans html)
        exact absurd same (embedding_ne_linking id video.url)
  · exact html_of_none

/-- The id of a link is what stands behind the first mark that has an id behind it, and there is
none where no mark has. The search for it ends without a cut off a character boundary. A page embeds
the video with that id, and where there is none it links to the video. -/
theorem embeds_first_id (url : String) :
    (∃ found, VideoLink.search url.toList 0 = .ok found) ∧
      (∀ start, (∃ rest, VideoLink.cut url.toList start = .ok rest) ↔
        String.Pos.Raw.IsValid url ⟨start⟩) ∧
      (∀ id, VideoLink.id? url = some id ↔ VideoLink.IsFirst url.toList id.toList) ∧
      (VideoLink.id? url = none ↔
        ∀ place id, ¬ VideoLink.Marked (url.toList.drop place) id) ∧
      ∀ title,
        (∀ id, (Video.page ⟨url, title⟩).html = titled ⟨url, title⟩ (embedding id) ↔
          VideoLink.IsFirst url.toList id.toList) ∧
        ((Video.page ⟨url, title⟩).html = titled ⟨url, title⟩ (linking url) ↔
          ∀ place id, ¬ VideoLink.Marked (url.toList.drop place) id) := by
  have noFault : ∃ found, VideoLink.search url.toList 0 = .ok found := by
    rcases VideoLink.search_url url with ⟨noneFound, -⟩ | ⟨id, found, -⟩
    · exact ⟨none, noneFound⟩
    · exact ⟨some id, found⟩
  refine ⟨noFault, fun start => VideoLink.exists_cut_eq_ok, fun id => VideoLink.id?_eq_some,
    VideoLink.id?_eq_none, fun title => ⟨?_, ?_⟩⟩
  · intro id
    exact html_eq_embedding.trans VideoLink.id?_eq_some
  · exact html_eq_linking.trans VideoLink.id?_eq_none

end Video
end Bulletin
