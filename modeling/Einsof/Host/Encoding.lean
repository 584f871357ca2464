import Einsof.Host.Terms
import Einsof.Host.Normal

namespace ExArgus

open Argus Erlang Fallible

namespace Terms

/-- The atoms of an enumeration, in its order. -/
structure Names {α : Type} (all : List α) (name : α → String) (allowed : List String) : Prop where
  listed : allowed = all.map name
  mem : ∀ a, a ∈ all
  distinct : allowed.Nodup

section Names

variable {α : Type} {all : List α} {name : α → String} {allowed : List String}

theorem Names.injective (names : Names all name allowed) : Function.Injective name := by
  intro a b same
  have distinct := names.distinct
  rw [names.listed] at distinct
  exact List.inj_on_of_nodup_map distinct (names.mem a) (names.mem b) same

theorem idxOf_map [DecidableEq α] (injective : Function.Injective name) (xs : List α) (a : α) :
    (xs.map name).idxOf (name a) = xs.idxOf a := by
  induction xs with
  | nil => rfl
  | cons x xs ih =>
    rw [List.map_cons, List.idxOf_cons, List.idxOf_cons, ih]
    by_cases same : x = a
    · rw [same, beq_self_eq_true, beq_self_eq_true]
    · rw [beq_eq_false_iff_ne.mpr same, beq_eq_false_iff_ne.mpr fun equal => same (injective equal)]

theorem Names.order [DecidableEq α] (names : Names all name allowed) (a : α) :
    allowed.idxOf (name a) = all.idxOf a := by
  rw [names.listed, idxOf_map names.injective]

end Names

def confName : ConfLevel → String
  | .«public» => "public"
  | .«internal» => "internal"
  | .sensitive => "sensitive"
  | .restricted => "restricted"

def integName : IntegLevel → String
  | .untrusted => "untrusted"
  | .standard => "standard"
  | .trusted => "trusted"
  | .attested => "attested"

def egressName : EgressKind → String
  | .networkExternal => "network_external"
  | .networkInternal => "network_internal"
  | .filesystemWrite => "filesystem_write"
  | .ipc => "ipc"

def capName : CapKind → String
  | .filesystemRead => "filesystem_read"
  | .filesystemWrite => "filesystem_write"
  | .filesystemDelete => "filesystem_delete"
  | .networkEgress => "network_egress"
  | .networkIngress => "network_ingress"
  | .executionShell => "execution_shell"
  | .executionCode => "execution_code"
  | .credentials => "credentials"
  | .systemInfo => "system_info"
  | .systemModify => "system_modify"
  | .clipboard => "clipboard"
  | .browserNavigate => "browser_navigate"
  | .databaseRead => "database_read"
  | .databaseWrite => "database_write"
  | .ipc => "ipc"

def outcomeName : Outcome → String
  | .success => "success"
  | .failure => "failure"
  | .ambiguous => "ambiguous"

def dispositionName : Disposition → String
  | .permitted => "permitted"
  | .blocked => "blocked"
  | .monitorBypassed => "monitor_bypassed"

def verdictName : Verdict → String
  | .allow => "allow"
  | .inspectionRequired => "inspection_required"
  | .deny => "deny"

def branchName : CrossBranch → String
  | .endorsed => "endorsed"
  | .unendorsed => "unendorsed"
  | .fail => "fail"

def fallbackName : Fallback → String
  | .fail => "fail"
  | .releaseUnendorsed => "release_unendorsed"

def modeName : Mode → String
  | .enforce => "enforce"
  | .monitor => "monitor"

def boolName : Bool → String
  | true => "true"
  | false => "false"

theorem confNames : Names [.«public», .«internal», .sensitive, .restricted] confName confLevels :=
  ⟨rfl, fun a => by cases a <;> decide, by decide⟩

theorem integNames : Names [.untrusted, .standard, .trusted, .attested] integName integLevels :=
  ⟨rfl, fun a => by cases a <;> decide, by decide⟩

theorem egressNames : Names EgressKind.all egressName egressKinds :=
  ⟨rfl, EgressKind.mem_all, by decide⟩

theorem capNames : Names CapKind.all capName capabilities :=
  ⟨rfl, CapKind.mem_all, by decide⟩

theorem outcomeNames : Names [.success, .failure, .ambiguous] outcomeName outcomes :=
  ⟨rfl, fun a => by cases a <;> decide, by decide⟩

theorem dispositionNames : Names [.permitted, .blocked, .monitorBypassed] dispositionName dispositions :=
  ⟨rfl, fun a => by cases a <;> decide, by decide⟩

theorem verdictNames :
    Names [.allow, .inspectionRequired, .deny] verdictName ["allow", "inspection_required", "deny"] :=
  ⟨rfl, fun a => by cases a <;> decide, by decide⟩

theorem branchNames : Names [.endorsed, .unendorsed, .fail] branchName ["endorsed", "unendorsed", "fail"] :=
  ⟨rfl, fun a => by cases a <;> decide, by decide⟩

theorem fallbackNames : Names [.fail, .releaseUnendorsed] fallbackName ["fail", "release_unendorsed"] :=
  ⟨rfl, fun a => by cases a <;> decide, by decide⟩

theorem modeNames : Names [.enforce, .monitor] modeName ["enforce", "monitor"] :=
  ⟨rfl, fun a => by cases a <;> decide, by decide⟩

/-! The terms of typed values. -/

def text (s : String) : Term := .binary s.toByteArray

def optionTerm {α : Type} (term : α → Term) : Option α → Term
  | none => .atom "nil"
  | some a => term a

def setTerm {α : Type} (name : α → String) (xs : List α) : Term := .ofList (xs.map fun a => .atom (name a))

def boolTerm (b : Bool) : Term := .atom (boolName b)

def policyTerm (p : ActionPolicySnapshotN) : Term :=
  .struct "Elixir.ExArgus.Kernel.Types.ActionPolicySnapshot"
    [("tool", text p.tool), ("required_caps", setTerm capName p.requiredCaps),
      ("conf_clearance", .atom (confName p.confClearance)), ("integ_floor", .atom (integName p.integFloor)),
      ("integ_inspect", .atom (integName p.integInspect)), ("output_conf", .atom (confName p.outputConf)),
      ("output_integ", .atom (integName p.outputInteg)),
      ("declared_egress", setTerm egressName p.declaredEgress), ("policy_digest", text p.policyDigest)]

def inspectionTerm (x : InspectionAttestationN) : Term :=
  .struct "Elixir.ExArgus.Kernel.Types.InspectionAttestation"
    [("id", text x.id), ("inv", text x.inv), ("challenge", text x.challenge), ("args_hash", text x.argsHash),
      ("policy_digest", text x.policyDigest), ("positive", boolTerm x.positive)]

def resolutionTerm (x : ResolutionAttestationN) : Term :=
  .struct "Elixir.ExArgus.Kernel.Types.ResolutionAttestation"
    [("id", text x.id), ("inv", text x.inv), ("outcome", .atom (outcomeName x.outcome))]

def evidenceTerm (x : ConformanceAttestationN) : Term :=
  .struct "Elixir.ExArgus.Kernel.Types.ConformanceAttestation"
    [("id", text x.id), ("output", text x.output), ("src", text x.src), ("rcv", text x.rcv),
      ("descriptor", text x.descriptor), ("assignment", text x.assignment),
      ("positive", boolTerm x.positive)]

def crossTerm (q : CrossInputN) : Term :=
  .struct "Elixir.ExArgus.Kernel.Types.CrossInput"
    [("src", text q.src), ("rcv", text q.rcv), ("crossing", text q.crossing),
      ("output_hash", text q.outputHash), ("descriptor", text q.descriptor),
      ("fallback", .atom (fallbackName q.fallback)), ("t_integ", .atom (integName q.tInteg)),
      ("t_conf", optionTerm (fun l => .atom (confName l)) q.tConf), ("assignment", text q.assignment),
      ("evidence", optionTerm evidenceTerm q.evidence),
      ("released_conf", .atom (confName q.releasedConf)),
      ("released_integ", .atom (integName q.releasedInteg))]

end Terms

def commandName : CommandN → CommandName
  | .registerTool _ => .registerTool
  | .unregisterTool _ => .unregisterTool
  | .delegate _ _ => .delegate
  | .grantCapability _ _ _ => .grantCapability
  | .grantCrossing _ _ _ _ => .grantCrossing
  | .revoke _ _ => .revoke
  | .cascadeRevoke _ _ => .cascadeRevoke
  | .ingest _ _ _ _ => .ingest
  | .beginInvocation _ _ _ _ _ _ _ => .beginInvocation
  | .authorizeInspected _ _ => .authorizeInspected
  | .settleInvocation _ _ _ => .settleInvocation
  | .crossOutput _ => .crossOutput

namespace Terms

def commandGiven : CommandN → List (String × Term)
  | .registerTool tool => [("tool", text tool)]
  | .unregisterTool tool => [("tool", text tool)]
  | .delegate grantor grantee => [("grantor", text grantor), ("grantee", text grantee)]
  | .grantCapability parent child cap =>
    [("parent", text parent), ("child", text child), ("cap", .atom (capName cap))]
  | .grantCrossing grantor agent assignment n =>
    [("grantor", text grantor), ("agent", text agent), ("assignment", text assignment),
      ("n", .integer n.toNat)]
  | .revoke parent target => [("parent", text parent), ("target", text target)]
  | .cascadeRevoke child parent => [("child", text child), ("parent", text parent)]
  | .ingest agent src pconf pinteg =>
    [("agent", text agent), ("src", optionTerm text src), ("pconf", .atom (confName pconf)),
      ("pinteg", .atom (integName pinteg))]
  | .beginInvocation agent inv challenge policy egress argsHash authorized =>
    [("agent", text agent), ("inv", text inv), ("challenge", text challenge), ("policy", policyTerm policy),
      ("egress", setTerm egressName egress), ("args_hash", text argsHash),
      ("authorized", boolTerm authorized)]
  | .authorizeInspected inv attestation => [("inv", text inv), ("attestation", inspectionTerm attestation)]
  | .settleInvocation inv outcome resolution =>
    [("inv", text inv), ("outcome", .atom (outcomeName outcome)),
      ("resolution", optionTerm resolutionTerm resolution)]
  | .crossOutput input => [("input", crossTerm input)]

def commandTerm (c : CommandN) : Term := .struct (commandModule (commandName c)) (commandGiven c)

def actionName : ActionN → CommandName
  | .registerTool _ => .registerTool
  | .unregisterTool _ => .unregisterTool
  | .delegate _ _ => .delegate
  | .grantCapability _ _ _ => .grantCapability
  | .grantCrossing _ _ _ _ => .grantCrossing
  | .revoke _ _ => .revoke
  | .cascadeRevoke _ _ => .cascadeRevoke
  | .ingest _ _ _ _ _ => .ingest
  | .beginInvocation _ _ _ _ _ => .beginInvocation
  | .authorizeInspected _ _ _ => .authorizeInspected
  | .settleInvocation _ _ _ _ _ _ _ => .settleInvocation
  | .crossOutput _ _ _ _ _ => .crossOutput

def actionGiven : ActionN → List (String × Term)
  | .registerTool tool => [("tool", text tool)]
  | .unregisterTool tool => [("tool", text tool)]
  | .delegate grantor grantee => [("grantor", text grantor), ("grantee", text grantee)]
  | .grantCapability parent child cap =>
    [("parent", text parent), ("child", text child), ("cap", .atom (capName cap))]
  | .grantCrossing grantor agent assignment n =>
    [("grantor", text grantor), ("agent", text agent), ("assignment", text assignment),
      ("n", .integer n.toNat)]
  | .revoke parent target => [("parent", text parent), ("target", text target)]
  | .cascadeRevoke child parent => [("child", text child), ("parent", text parent)]
  | .ingest agent src pconf pinteg disposition =>
    [("agent", text agent), ("src", optionTerm text src), ("pconf", .atom (confName pconf)),
      ("pinteg", .atom (integName pinteg)), ("disposition", .atom (dispositionName disposition))]
  | .beginInvocation agent inv tool verdict authorized =>
    [("agent", text agent), ("inv", text inv), ("tool", text tool), ("verdict", .atom (verdictName verdict)),
      ("authorized", boolTerm authorized)]
  | .authorizeInspected inv attestation admitted =>
    [("inv", text inv), ("attestation", text attestation), ("admitted", boolTerm admitted)]
  | .settleInvocation inv agent disposition outcome clvl ilvl resolution =>
    [("inv", text inv), ("agent", text agent), ("disposition", .atom (dispositionName disposition)),
      ("outcome", .atom (outcomeName outcome)), ("clvl", .atom (confName clvl)),
      ("ilvl", .atom (integName ilvl)), ("resolution", optionTerm text resolution)]
  | .crossOutput src rcv crossing branch disposition =>
    [("src", text src), ("rcv", text rcv), ("crossing", text crossing), ("branch", .atom (branchName branch)),
      ("disposition", .atom (dispositionName disposition))]

def actionTerm (act : ActionN) : Term := .struct (actionModule (actionName act)) (actionGiven act)

def ceilingTerm (value : EgressKind → Option (Option ConfLevel)) : Term :=
  .object ((EgressKind.all.filter fun e => (value e).isSome).map egressName) fun name =>
    ((EgressKind.all.find? fun e => egressName e = name).bind value).elim (.atom "nil")
      (optionTerm fun l => .atom (confName l))

def backgroundTerm (bg : BackgroundN) : Term :=
  .struct "Elixir.ExArgus.Kernel.Background"
    [("mode", .atom (modeName bg.mode)), ("allow_ceiling", ceilingTerm bg.allowCeiling),
      ("inspect_ceiling", ceilingTerm bg.inspectCeiling)]

end Terms

/-- The name of a field as the source spells it. -/
def Field.name : Field → String
  | .allowCeiling => "allow_ceiling"
  | .inspectCeiling => "inspect_ceiling"
  | .sequence => "sequence"
  | .command => "command"
  | .action => "action"
  | .tool => "tool"
  | .grantor => "grantor"
  | .grantee => "grantee"
  | .parent => "parent"
  | .child => "child"
  | .agent => "agent"
  | .assignment => "assignment"
  | .target => "target"
  | .src => "src"
  | .inv => "inv"
  | .challenge => "challenge"
  | .policy => "policy"
  | .requiredCaps => "required_caps"
  | .declaredEgress => "declared_egress"
  | .policyDigest => "policy_digest"
  | .egress => "egress"
  | .argsHash => "args_hash"
  | .attestation => "attestation"
  | .id => "id"
  | .resolution => "resolution"
  | .input => "input"
  | .rcv => "rcv"
  | .crossing => "crossing"
  | .outputHash => "output_hash"
  | .descriptor => "descriptor"
  | .evidence => "evidence"
  | .output => "output"
  | .outcome => "outcome"

def places (path : List Field) : List Place := path.map fun field => .field field.name

/-- The error of a typed check as the untyped one reports it. -/
def Error.refusal (e : Error) : Refusal := ⟨e.errorClass, e.reason, places e.path, e.index⟩

end ExArgus
