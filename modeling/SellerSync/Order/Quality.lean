import SellerSync.Order.Incoming
/-! Audit verdicts and cost totals of order lines. -/
namespace SellerSync

inductive QualityReason where
  | missingAddress
  | missingLabel
  deriving DecidableEq, Repr, Inhabited

inductive QualityStatus where
  | valid
  | excluded
  deriving DecidableEq, Repr, Inhabited

namespace QualityReason

def name : QualityReason → String
  | missingAddress => "missing_address"
  | missingLabel => "missing_label"

end QualityReason

namespace QualityStatus

def name : QualityStatus → String
  | valid => "valid"
  | excluded => "excluded"

end QualityStatus

namespace Quality

def reasons (shipTo : Address) (labelPresent : Bool) : List QualityReason :=
  (if shipTo.isDeliverable then [] else [.missingAddress]) ++
    (if labelPresent then [] else [.missingLabel])

/-- The verdict and its reasons. -/
def assess (shipTo : Address) (labelPresent : Bool) : QualityStatus × List QualityReason :=
  let rs := reasons shipTo labelPresent
  (if rs.isEmpty then .valid else .excluded, rs)

theorem assess_valid_iff (a : Address) (l : Bool) :
    (assess a l).1 = .valid ↔ a.isDeliverable = true ∧ l = true := by
  cases h : a.isDeliverable <;> cases l <;> simp [assess, reasons, h]

end Quality

/-- Costs attributed to one line; each may be unknown. -/
structure LineCosts where
  fulfillment : Option Decimal := none
  label : Option Decimal := none
  prep : Option Decimal := none
  thirdParty : Option Decimal := none
  deriving DecidableEq, Repr, Inhabited

namespace LineCosts

def components (c : LineCosts) : List (Option Decimal) :=
  [c.fulfillment, c.label, c.prep, c.thirdParty]

/-- Sum of the known components, none when all are unknown; a sum past the decimal range is an
overflow. -/
def total (c : LineCosts) : Except SyncError (Option Decimal) :=
  let known := c.components.reduceOption
  if known.isEmpty then .ok none
  else
    match Decimal.sum? known with
    | some s => .ok (some s)
    | none => .error .additionOverflow

end LineCosts

end SellerSync
