import Einsof.Kernel.Refinement
import Einsof.Tzimtzum.Soundness

namespace Argus

open Kav

/-- The protocol at the kernel's sorts. -/
noncomputable def protocol : TransitionSystem SpecState :=
  Tzimtzum.system AgentId ToolId InvocationId CapKind EgressKind ChallengeId AttestationId CrossingId
    AssignmentDigest PolicyDigest ContentHash

/-- The registered action that a command is an instance of. -/
noncomputable def registered : KernelCommand → String × Tzimtzum.Action SpecState
  | .registerTool _ => ("register_tool", close1 Tzimtzum.registerTool)
  | .unregisterTool _ => ("unregister_tool", close1 Tzimtzum.unregisterTool)
  | .delegate _ _ => ("delegate", close2 Tzimtzum.delegate)
  | .grantCapability _ _ _ => ("grant_capability", close3 Tzimtzum.grantCapability)
  | .grantCrossing _ _ _ _ => ("grant_crossing", close4 Tzimtzum.grantCrossing)
  | .revoke _ _ => ("revoke", close2 Tzimtzum.revoke)
  | .cascadeRevoke _ _ => ("cascade_revoke", close2 Tzimtzum.cascadeRevoke)
  | .ingest _ _ _ _ => ("ingest", close5 Tzimtzum.ingest)
  | .settleInvocation _ _ _ => ("settle_invocation", close7 Tzimtzum.settleInvocation)
  | .beginInvocation _ _ _ _ _ _ _ => ("begin_invocation", close8 Tzimtzum.beginInvocation)
  | .authorizeInspected _ _ => ("authorize_inspected", close4 Tzimtzum.authorizeInspected)
  | .crossOutput _ => ("cross_output", close3 Tzimtzum.crossOutput)

theorem registered_mem (c : KernelCommand) : registered c ∈ protocol.actions := by
  cases c <;> simp [registered, protocol, Tzimtzum.system]

theorem registered_step {c : KernelCommand} {p : Choice c} {t t' : SpecState}
    (enabled : (specified c p).guard t) (moves : (specified c p).next t t') :
    (registered c).2.guard t ∧ (registered c).2.next t t' := by
  cases c with
  | registerTool tool => exact ⟨⟨tool, enabled⟩, tool, enabled, moves⟩
  | unregisterTool tool => exact ⟨⟨tool, enabled⟩, tool, enabled, moves⟩
  | delegate grantor grantee => exact ⟨⟨grantor, grantee, enabled⟩, grantor, grantee, enabled, moves⟩
  | grantCapability parent child cap =>
    exact ⟨⟨parent, child, cap, enabled⟩, parent, child, cap, enabled, moves⟩
  | grantCrossing grantor agent assignment n =>
    exact ⟨⟨grantor, agent, assignment, _, enabled⟩, grantor, agent, assignment, _, enabled, moves⟩
  | revoke parent target => exact ⟨⟨parent, target, enabled⟩, parent, target, enabled, moves⟩
  | cascadeRevoke child parent => exact ⟨⟨child, parent, enabled⟩, child, parent, enabled, moves⟩
  | ingest a src l li => exact ⟨⟨a, src, _, _, p, enabled⟩, a, src, _, _, p, enabled, moves⟩
  | settleInvocation inv outcome att =>
    exact ⟨⟨inv, _, _, _, _, _, _, enabled⟩, inv, _, _, _, _, _, _, enabled, moves⟩
  | beginInvocation a inv chal snap egr ah authorized =>
    exact ⟨⟨a, inv, chal, _, _, ah, _, p, enabled⟩, a, inv, chal, _, _, ah, _, p, enabled, moves⟩
  | authorizeInspected inv att => exact ⟨⟨inv, _, _, _, enabled⟩, inv, _, _, _, enabled, moves⟩
  | crossOutput q => exact ⟨⟨_, _, _, enabled⟩, _, _, _, enabled, moves⟩

/-- Every run of the kernel is a run of the protocol, so the whole bundle holds of what it reaches. -/
theorem kernel_sound {bg : BackgroundTheory} (rooted : bg.rootAgent = AgentId.root) {s : KernelState}
    (reach : (kernel bg).Reachable s) : Reachable protocol (abs bg s) ∧ Tzimtzum.AllInv (abs bg s) := by
  have reached : Reachable protocol (abs bg s) := by
    rcases reach with ⟨history, run⟩
    induction run with
    | start => exact .init (abs_initial rooted)
    | @step _ s s' c r run accepted ih =>
      have agree := reachable_agrees run.reachable c
      obtain ⟨p, enabled⟩ := agree.accepts.mp ⟨s', r, accepted⟩
      obtain ⟨guarded, moves⟩ := registered_step enabled (agree.commits s' r p accepted enabled).2
      exact .step (registered_mem c) ih guarded moves
  exact ⟨reached, (reached.sound Tzimtzum.Sound (fun _ => Tzimtzum.Sound.initial) fun _ member =>
    Tzimtzum.system_keeps member).allInv⟩

theorem kernel_sound_sample : Reachable protocol (abs sampleBackground sampleState) ∧
    Tzimtzum.AllInv (abs sampleBackground sampleState) :=
  kernel_sound rfl ((kernel sampleBackground).drive_reachable sampleCommands)

end Argus
