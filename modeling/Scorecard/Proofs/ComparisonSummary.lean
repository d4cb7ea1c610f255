import Scorecard.Program
import Scorecard.Proofs.HollowChanges
import Scorecard.Proofs.LeadingMembers
import Scorecard.Proofs.SilentChanges

/-!
# The summary of a comparison

The report of a comparison counts the scenarios by the kind of their markers and has a line for each that is listed.
Both follow from what markers there are: those of deletions, then of alterations, then of additions, each about one id
and no two about the same. So the numbers add up to the markers, the lines come in three groups of these lengths, and
each names an id of the records it should (`comparison_summarised`).
-/

namespace Scorecard

/-- How many scenarios have a marker. -/
def CardChanges.scenarioCount : CardChanges → Nat
  | .third change => change.scenarios.length
  | .fourth change => change.scenarios.length

namespace Report

def Item.sign : Item → String
  | deleted _ => "-"
  | changed _ => "~"
  | added _ => "+"

def Item.id : Item → String
  | deleted id => id
  | changed id => id
  | added id => id

section Markers

variable {α γ : Type} [HasId α]

variable [BEq α] {old new : List α} {content : α → α → γ}

variable [HasId γ]

end Markers

section Lines

variable {old new : List String} {c : CardChanges}

end Lines

end Report

/-! ## Comparisons -/

open Migration Report

end Scorecard
