import Einsof.Kernel.Types

namespace Argus

/-- Immutable governed background. A level flows freely iff it is at or below the allow ceiling, and
    is inspectable iff at or below the inspect ceiling; an absent ceiling denies. -/
structure BackgroundTheory where
  allowCeiling : VecMap EgressKind ConfLevel
  inspectCeiling : VecMap EgressKind ConfLevel
  mode : Mode
  rootAgent : AgentId
  deriving DecidableEq

namespace BackgroundTheory

def flowAllows (bg : BackgroundTheory) (level : ConfLevel) (egress : EgressKind) : Bool :=
  match bg.allowCeiling.getCloned egress with
  | some c => level.le c
  | none => false

def flowInspects (bg : BackgroundTheory) (level : ConfLevel) (egress : EgressKind) : Bool :=
  match bg.inspectCeiling.getCloned egress with
  | some c => level.le c
  | none => false

theorem flowAllows_iff {bg : BackgroundTheory} {level : ConfLevel} {egress : EgressKind} :
    bg.flowAllows level egress = true ↔ ∃ c, bg.allowCeiling.get egress = some c ∧ level ≤ c := by
  unfold flowAllows
  cases found : bg.allowCeiling.get egress <;> simp [found]

theorem flowInspects_iff {bg : BackgroundTheory} {level : ConfLevel} {egress : EgressKind} :
    bg.flowInspects level egress = true ↔ ∃ c, bg.inspectCeiling.get egress = some c ∧ level ≤ c := by
  unfold flowInspects
  cases found : bg.inspectCeiling.get egress <;> simp [found]

/-- The builder's start: no ceilings, enforce mode, the operator root. -/
def builder : BackgroundTheory := ⟨VecMap.new, VecMap.new, .enforce, AgentId.root⟩

def setEgressCeilings (bg : BackgroundTheory) (egress : EgressKind)
    (allow inspect : Option ConfLevel) : BackgroundTheory :=
  { bg with
    allowCeiling := match allow with
      | some c => bg.allowCeiling.insert egress c
      | none => bg.allowCeiling.remove egress
    inspectCeiling := match inspect with
      | some c => bg.inspectCeiling.insert egress c
      | none => bg.inspectCeiling.remove egress }

def setMode (bg : BackgroundTheory) (mode : Mode) : BackgroundTheory := { bg with mode := mode }

def setRootAgent (bg : BackgroundTheory) (root : AgentId) : BackgroundTheory :=
  { bg with rootAgent := root }

@[simp] theorem allowCeiling_setEgressCeilings (bg : BackgroundTheory) (egress other : EgressKind)
    (allow inspect : Option ConfLevel) :
    (bg.setEgressCeilings egress allow inspect).allowCeiling.get other =
      if other = egress then allow else bg.allowCeiling.get other := by
  cases allow <;> simp [setEgressCeilings]

@[simp] theorem inspectCeiling_setEgressCeilings (bg : BackgroundTheory) (egress other : EgressKind)
    (allow inspect : Option ConfLevel) :
    (bg.setEgressCeilings egress allow inspect).inspectCeiling.get other =
      if other = egress then inspect else bg.inspectCeiling.get other := by
  cases inspect <;> simp [setEgressCeilings]

end BackgroundTheory

end Argus
