import Scorecard.Shape

/-!
# Risks and valuations

The two values that cards of every version share: an estimate of a risk, and the protection that
an asset needs. Each has a reader and a written form.
-/

namespace Scorecard

/-- Members of a list that are told apart by an id. -/
class HasId (α : Type) where
  id : α → String

/-- How likely and how costly something is. Two estimates are equal if their summaries are and their
    numbers have equal values. -/
structure Risk where
  summary : Option String
  probability : Binary64
  consequence : Binary64
  deriving BEq

namespace Risk

def parts : Part Risk :=
  Risk.mk <$> .optional 0 "summary" Reader.text
    <*> .required 1 "probability" Reader.double
    <*> .required 2 "consequence" Reader.double

def reader : Reader Risk := Part.record "Risk" 3 parts

def toValue (r : Risk) : Value :=
  .object (Value.entryIf "summary" .text r.summary ++
    Value.entry "probability" (.ofBinary64 r.probability) ++
    Value.entry "consequence" (.ofBinary64 r.consequence))

end Risk

/-- What an asset is worth protecting for. -/
structure Valuation where
  description : String
  confidentiality : String
  integrity : String
  availability : String
  deriving DecidableEq

namespace Valuation

def parts : Part Valuation :=
  Valuation.mk <$> .required 0 "description" Reader.text
    <*> .required 1 "confidentiality" Reader.text
    <*> .required 2 "integrity" Reader.text
    <*> .required 3 "availability" Reader.text

def reader : Reader Valuation := Part.record "Valuation" 4 parts

def toValue (v : Valuation) : Value :=
  .object (Value.entry "description" (.text v.description) ++
    Value.entry "confidentiality" (.text v.confidentiality) ++
    Value.entry "integrity" (.text v.integrity) ++
    Value.entry "availability" (.text v.availability))

end Valuation
end Scorecard
