import Bulletin.Proofs.Document.Identities
import Bulletin.Proofs.Page.Resolution
/-!
# Duplicates

A duplicate stands right behind the widget that an id addresses. It holds what that widget holds and
looks as it does, and is told apart by its ids alone: all of them are new, in the widget and in
everything nested in it.
-/

namespace Bulletin

/-- The widget with all of its ids taken out, those of nested items too. -/
def Widget.unlabelled (widget : Widget) : Widget :=
  ⟨"", widget.body.unlabelled⟩

/-- The copy differs from the original in its ids only. They are distinct, and none is in use. -/
structure Widget.IsDuplicate (original copy : Widget) (used : List String) : Prop where
  content : copy.unlabelled = original.unlabelled
  distinct : copy.ids.Nodup
  unused : copy.ids.Disjoint used
  html : ∀ theme, (copy.page theme).html = (original.page theme).html

theorem Widget.page_copy (theme : Theme) (widget : Widget) (supply : IdSupply) :
    (widget.copy.run supply).1.page theme = widget.page theme := by
  have retouched := widget.body.retouched_rekey supply
  exact WidgetBody.page_of_wording theme retouched.layout retouched.wording

theorem Widget.isDuplicate_copy {supply : IdSupply} {used : List String}
    (unique : Function.Injective supply.idAt) (unused : supply.Avoids used) (widget : Widget) :
    widget.IsDuplicate (widget.copy.run supply).1 used := by
  rcases draws_ofBody widget.body supply with ⟨drawn, -⟩
  exact
    { content := congrArg (Widget.mk "") (widget.body.unlabelled_rekey supply)
      distinct := drawn.nodup_iff.mpr (IdSupply.nodup_upcoming unique _)
      unused := fun _ isCopied isUsed => unused.disjoint _ isUsed (drawn.subset isCopied)
      html := fun theme => congrArg Page.html (widget.page_copy theme supply) }

namespace Section

open Elements (Addresses)
open IdSupply (tallies injective_tallies tallies_avoids)

/-- Where no widget has the id, nothing is duplicated and nothing changes. Where one has it, the
first such widget gets a duplicate right behind it, which is told, and all else stays as it is. -/
theorem duplicateWidget_inserts {supply : IdSupply} (part : Section) (id : String)
    (unique : Function.Injective supply.idAt) (unused : supply.Avoids part.ids) :
    ((∀ widget ∈ part.widgets, widget.id ≠ id) →
      ((part.duplicateWidget id).run supply).1 = (none, part)) ∧
    ((∃ widget ∈ part.widgets, widget.id = id) →
      ∃ before widget after copy,
        Addresses (fun other => other.id = id) part.widgets before widget after ∧
        ((part.duplicateWidget id).run supply).1 =
          (some copy, { part with widgets := before ++ widget :: copy :: after }) ∧
        widget.IsDuplicate copy part.ids) := by
  constructor
  · intro missing
    have absent : part.widget? id = none := by simpa [widget?] using missing
    rw [duplicateWidget_of_missing absent]
  · rintro ⟨found, member, rfl⟩
    have sought : ∃ widget ∈ part.widgets, decide (widget.id = found.id) = true :=
      ⟨found, member, decide_eq_true rfl⟩
    rcases Elements.exists_addresses sought with ⟨before, widget, after, addresses⟩
    refine ⟨before, widget, after, (widget.copy.run supply).1, addresses, ?_,
      widget.isDuplicate_copy unique unused⟩
    rw [duplicateWidget_of_addresses addresses]

def rota : Section :=
  ⟨"s", "Rota",
    [⟨"d", .divider⟩, ⟨"w", .list ⟨[⟨"e", "Open"⟩, ⟨"e", "Close"⟩], none⟩⟩, ⟨"w", .unknown⟩],
    none, none⟩

example : ((rota.duplicateWidget "w").run tallies).1.2.widgets.map Widget.ids =
    [["d"], ["w", "e", "e"], ["iii", "i", "ii"], ["w"]] := by decide

theorem duplicateWidget_inserts_rota :
    ((rota.duplicateWidget "x").run tallies).1 = (none, rota) ∧
      ∃ before widget after copy,
        Addresses (fun other => other.id = "w") rota.widgets before widget after ∧
        ((rota.duplicateWidget "w").run tallies).1 =
          (some copy, { rota with widgets := before ++ widget :: copy :: after }) ∧
        widget.IsDuplicate copy rota.ids := by
  have unused : tallies.Avoids rota.ids := tallies_avoids (by decide) 0
  exact ⟨(rota.duplicateWidget_inserts "x" injective_tallies unused).1 (by decide),
    (rota.duplicateWidget_inserts "w" injective_tallies unused).2 (by decide)⟩

end Section

end Bulletin
