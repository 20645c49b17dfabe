import Bulletin.Document.Format
import Bulletin.Proofs.Document.Proper
import Bulletin.Proofs.Json.Accepting
import Bulletin.Proofs.Json.Yielding
/-!
# Accepted documents

Every document that is read, from a text or from a value, is proper: a known name is always read
as the variant that it stands for. A text from which one is read is a text in JSON.
-/

namespace Bulletin

open Json (Format RecordShape)
open Json.Format (readsValues_flag readsValues_text yields_map)
open Json.Field (keeps_defaulted)
open Json.RecordShape (readsValues_format yields_record)

/-! ## Variants and nested items -/

theorem ButtonVariant.yields_isProper : format.Yields IsProper :=
  yields_map isProper_ofName

theorem NoticeVariant.yields_isProper : format.Yields IsProper :=
  yields_map isProper_ofName

theorem HeadingLevel.yields_isProper : format.Yields IsProper :=
  yields_map isProper_ofName

theorem LinkButton.yields_isProper : shape.format.Yields IsProper := by
  apply yields_record trivial
  simp only [shape, List.forall_mem_cons]
  refine ⟨?_, ?_, ?_, ?_, by simp⟩
  · exact keeps_defaulted fun _ _ proper => proper
  · exact keeps_defaulted fun _ _ proper => proper
  · exact keeps_defaulted fun _ _ proper => proper
  · exact ButtonVariant.yields_isProper.keeps_defaulted fun _ proper _ _ => proper

/-! ## Bodies -/

theorem Heading.yields_isProper :
    shape.format.Yields fun body => body.level.IsProper := by
  apply yields_record trivial
  simp only [shape, List.forall_mem_cons]
  refine ⟨?_, ?_, by simp⟩
  · exact keeps_defaulted fun _ _ proper => proper
  · exact HeadingLevel.yields_isProper.keeps_defaulted fun _ proper _ _ => proper

theorem SingleButton.yields_isProper :
    shape.format.Yields fun body => body.variant.IsProper := by
  apply yields_record trivial
  simp only [shape, List.forall_mem_cons]
  refine ⟨?_, ?_, ?_, by simp⟩
  · exact keeps_defaulted fun _ _ proper => proper
  · exact keeps_defaulted fun _ _ proper => proper
  · exact ButtonVariant.yields_isProper.keeps_defaulted fun _ proper _ _ => proper

theorem ButtonGroup.yields_isProper :
    shape.format.Yields fun body => ∀ button ∈ body.buttons, button.IsProper := by
  apply yields_record (by simp [shape])
  simp only [shape, List.forall_mem_cons]
  refine ⟨?_, by simp⟩
  exact LinkButton.yields_isProper.list.keeps_defaulted fun _ proper _ _ => proper

theorem Notice.yields_isProper :
    shape.format.Yields fun body => body.variant.IsProper := by
  apply yields_record trivial
  simp only [shape, List.forall_mem_cons]
  refine ⟨?_, ?_, by simp⟩
  · exact keeps_defaulted fun _ _ proper => proper
  · exact NoticeVariant.yields_isProper.keeps_defaulted fun _ proper _ _ => proper

theorem Meeting.yields_isProper :
    shape.format.Yields fun body => ∀ button ∈ body.buttons, button.IsProper := by
  apply yields_record (by simp [shape])
  simp only [shape, List.forall_mem_cons]
  refine ⟨?_, ?_, ?_, by simp⟩
  · exact keeps_defaulted fun _ _ proper => proper
  · exact keeps_defaulted fun _ _ proper => proper
  · exact LinkButton.yields_isProper.list.keeps_defaulted fun _ proper _ _ => proper

/-! ## Widgets -/

namespace WidgetBody

theorem eq_of_ofEmptyPayload {empty body : WidgetBody} {payload : Json}
    (found : ofEmptyPayload empty payload = .ok body) : body = empty := by
  unfold ofEmptyPayload at found
  split at found
  · cases found
  · cases found
    rfl

theorem isProper_of_ofPayload {payload : Json} {kind? : Option WidgetKind} {body : WidgetBody}
    (found : ofPayload payload kind? = .ok body) : body.IsProper := by
  cases kind? with
  | none =>
      rw [eq_of_ofEmptyPayload found]
      trivial
  | some kind =>
      cases kind
      case divider =>
        rw [eq_of_ofEmptyPayload found]
        trivial
      all_goals rcases Outcome.map_eq_ok.mp found with ⟨fields, foundFields, rfl⟩
      case heading => exact Heading.yields_isProper.ofJson .counted payload fields foundFields
      case button =>
        exact SingleButton.yields_isProper.ofJson .counted payload fields foundFields
      case buttonGroup =>
        exact ButtonGroup.yields_isProper.ofJson .counted payload fields foundFields
      case notice => exact Notice.yields_isProper.ofJson .counted payload fields foundFields
      case meeting => exact Meeting.yields_isProper.ofJson .counted payload fields foundFields
      all_goals trivial

theorem isProper_of_ofMembers {members : List (String × Json)} {body : WidgetBody}
    (found : ofMembers members = .ok body) : body.IsProper := by
  rcases Outcome.bind_eq_ok.mp found with ⟨tagged, -, found⟩
  rw [Tagged.body] at found
  split at found
  · exact isProper_of_ofPayload found
  · cases found

theorem yields_isProper : format.Yields IsProper where
  ofJson surplus value body found := by
    cases value with
    | object members => exact isProper_of_ofMembers found
    | array items =>
        cases items with
        | nil => cases found
        | cons tag fields =>
            rcases Outcome.bind_eq_ok.mp found with ⟨kind?, -, found⟩
            exact isProper_of_ofPayload found
    | _ => cases found
  read allowance cursor body after read := by
    simp only [format, WidgetBody.read] at read
    -- However the tag and the fields were read, the body is made of them.
    split at read
    all_goals
      rcases Outcome.bind_eq_ok.mp read with ⟨⟨⟨kind?, payload⟩, behind⟩, -, read⟩
      dsimp only at read
      split at read
      · rename_i found
        cases read
        exact isProper_of_ofPayload found
      · cases read

end WidgetBody

theorem Widget.isProper_of_gathered {gathered : Gathered} {widget : Widget}
    (found : gathered.widget = .ok widget) : widget.IsProper := by
  rcases Outcome.map_eq_ok.mp found with ⟨body, foundBody, rfl⟩
  exact WidgetBody.isProper_of_ofMembers foundBody

theorem Widget.yields_isProper : format.Yields IsProper where
  ofJson surplus value widget found := by
    cases value with
    | object members =>
        rcases Outcome.bind_eq_ok.mp found with ⟨gathered, -, foundWidget⟩
        exact isProper_of_gathered foundWidget
    | _ => cases found
  read allowance cursor widget after read := by
    simp only [format, Widget.read] at read
    split at read
    · rw [Json.inObject] at read
      split at read
      · cases read
      · rcases Json.settle_eq_ok.mp read with ⟨behind, contents, -⟩
        rcases Outcome.bind_eq_ok.mp contents with ⟨⟨gathered, reached⟩, -, contents⟩
        dsimp only at contents
        split at contents
        · rename_i found
          cases contents
          exact isProper_of_gathered found
        · cases contents
    · cases read

/-! ## Documents -/

theorem Section.yields_isProper : shape.format.Yields IsProper := by
  apply yields_record (by simp [shape, IsProper])
  simp only [shape, List.forall_mem_cons]
  refine ⟨?_, ?_, ?_, ?_, ?_, by simp⟩
  · exact keeps_defaulted fun _ _ proper => proper
  · exact keeps_defaulted fun _ _ proper => proper
  · exact Widget.yields_isProper.list.keeps_defaulted fun _ proper _ _ => proper
  · exact keeps_defaulted fun _ _ proper => proper
  · exact keeps_defaulted fun _ _ proper => proper

namespace Document

theorem yields_isProper : format.Yields IsProper := by
  apply yields_record (by simp [shape, IsProper])
  simp only [shape, List.forall_mem_cons]
  refine ⟨?_, ?_, ?_, ?_, by simp⟩
  · exact keeps_defaulted fun _ _ proper => proper
  · exact keeps_defaulted fun _ _ proper => proper
  · exact keeps_defaulted fun _ _ proper => proper
  · exact Section.yields_isProper.list.keeps_defaulted fun _ proper _ _ => proper

end Document

/-! ## Texts -/

namespace Widget

theorem hasMemberValue_of_readMember {allowance : Json.Allowance} {gathered next : Gathered}
    {key : String} {cursor after : Json.Cursor}
    (read : readMember allowance gathered key cursor = .ok (next, after)) :
    Json.HasMemberValue cursor.rest after.rest := by
  rw [readMember] at read
  split at read
  · split at read
    · cases read
    · rcases Outcome.bind_eq_ok.mp read with ⟨atValue, isColon, read⟩
      rcases Outcome.bind_eq_ok.mp read with ⟨⟨id, behind⟩, readId, equal⟩
      cases equal
      exact Json.hasMemberValue_of_colon isColon (readsValues_text _ _ _ _ readId)
  · rcases Outcome.bind_eq_ok.mp read with ⟨atValue, isColon, read⟩
    rcases Outcome.bind_eq_ok.mp read with ⟨⟨value, behind⟩, readValue, equal⟩
    cases equal
    exact Json.hasMemberValue_of_colon isColon (Json.hasValue_of_readValue readValue)

theorem readsValues : format.ReadsValues := by
  intro allowance cursor widget after read
  apply Json.hasValue_of_skipSpaces
  simp only [format, Widget.read] at read
  split at read
  · rename_i rest startsWith
    refine Json.Format.hasValue_of_inObject startsWith ?_ read
    intro inner cursor behind after contents closed
    rcases Outcome.bind_eq_ok.mp contents with ⟨⟨gathered, reached⟩, folded, contents⟩
    have same : reached = behind := by
      dsimp only at contents
      split at contents
      · cases contents
        rfl
      · cases contents
    subst same
    refine Json.hasMembers_of_foldMembers ?_ folded closed
    exact fun _ _ _ _ _ read => hasMemberValue_of_readMember read
  · cases read

end Widget

theorem Section.readsValues : shape.format.ReadsValues :=
  readsValues_format (by
    simp [shape, readsValues_text.defaulted, Widget.readsValues.list.defaulted,
      readsValues_text.optional.defaulted, readsValues_flag.optional.defaulted])

theorem Document.readsValues : format.ReadsValues := by
  have header : Header.shape.format.ReadsValues := readsValues_format (by
    simp [Header.shape, readsValues_text.defaulted, readsValues_flag.defaulted])
  have footer : Footer.shape.format.ReadsValues := readsValues_format (by
    simp [Footer.shape, readsValues_text.defaulted, readsValues_flag.defaulted])
  have theme : Theme.shape.format.ReadsValues := readsValues_format (by
    simp [Theme.shape, readsValues_text.defaulted])
  exact readsValues_format (by
    simp [shape, header.defaulted, footer.defaulted, theme.defaulted,
      Section.readsValues.list.defaulted])

end Bulletin
