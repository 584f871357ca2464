import Einsof.Native.Wire
import Mathlib.Data.List.Destutter
import Mathlib.Data.List.Sort

namespace Argus

namespace Transcript

def u32 (value : UInt32) : List UInt8 :=
  [(value >>> 24).toUInt8, (value >>> 16).toUInt8, (value >>> 8).toUInt8, value.toUInt8]

def u64 (value : UInt64) : List UInt8 :=
  [(value >>> 56).toUInt8, (value >>> 48).toUInt8, (value >>> 40).toUInt8, (value >>> 32).toUInt8,
    (value >>> 24).toUInt8, (value >>> 16).toUInt8, (value >>> 8).toUInt8, value.toUInt8]

/-- A string is written after its length, which is cut to 32 bits. -/
def string (value : String) : List UInt8 :=
  u32 (UInt32.ofNat value.utf8ByteSize) ++ value.toByteArray.data.toList

end Transcript

class Canonical (α : Type) where
  writeCanonical : α → List UInt8

class CanonicalTag (α : Type) where
  canonicalTag : α → UInt8

export Canonical (writeCanonical)
export CanonicalTag (canonicalTag)

instance {α : Type} [CanonicalTag α] : Canonical α := ⟨fun value => [canonicalTag value]⟩

instance : CanonicalTag ConfLevel where
  canonicalTag
    | .«public» => 0
    | .«internal» => 1
    | .sensitive => 2
    | .restricted => 3

instance : CanonicalTag IntegLevel where
  canonicalTag
    | .untrusted => 0
    | .standard => 1
    | .trusted => 2
    | .attested => 3

instance : CanonicalTag EgressKind where
  canonicalTag
    | .networkExternal => 0
    | .networkInternal => 1
    | .filesystemWrite => 2
    | .ipc => 3

instance : CanonicalTag CapKind where
  canonicalTag
    | .filesystemRead => 0
    | .filesystemWrite => 1
    | .filesystemDelete => 2
    | .networkEgress => 3
    | .networkIngress => 4
    | .executionShell => 5
    | .executionCode => 6
    | .credentials => 7
    | .systemInfo => 8
    | .systemModify => 9
    | .clipboard => 10
    | .browserNavigate => 11
    | .databaseRead => 12
    | .databaseWrite => 13
    | .ipc => 14

instance : CanonicalTag Verdict where
  canonicalTag
    | .allow => 0
    | .inspectionRequired => 1
    | .deny => 2

instance : CanonicalTag Disposition where
  canonicalTag
    | .permitted => 0
    | .blocked => 1
    | .monitorBypassed => 2

instance : CanonicalTag Mode where
  canonicalTag
    | .enforce => 0
    | .monitor => 1

instance : CanonicalTag Outcome where
  canonicalTag
    | .success => 0
    | .failure => 1
    | .ambiguous => 2

instance : CanonicalTag Fallback where
  canonicalTag
    | .fail => 0
    | .releaseUnendorsed => 1

instance : CanonicalTag CrossBranch where
  canonicalTag
    | .endorsed => 0
    | .unendorsed => 1
    | .fail => 2

instance : Canonical String := ⟨Transcript.string⟩

instance : Canonical Bool := ⟨fun value => [if value then 1 else 0]⟩

instance : Canonical UInt32 := ⟨Transcript.u32⟩

instance {α : Type} [Canonical α] : Canonical (Option α) where
  writeCanonical
    | some value => 1 :: writeCanonical value
    | none => [0]

namespace Transcript

def list {α : Type} [Canonical α] (values : List α) : List UInt8 :=
  u32 (UInt32.ofNat values.length) ++ values.flatMap writeCanonical

/-- A set-valued list is written sorted by tag and without repetitions. -/
def canonicalSet {α : Type} [CanonicalTag α] (values : List α) : List UInt8 :=
  list ((values.insertionSort fun a b => canonicalTag a ≤ canonicalTag b).destutter
    fun a b => canonicalTag a ≠ canonicalTag b)

end Transcript

instance : Canonical InspectionAttestationN where
  writeCanonical x := writeCanonical x.id ++ writeCanonical x.inv ++ writeCanonical x.challenge ++
    writeCanonical x.argsHash ++ writeCanonical x.policyDigest ++ writeCanonical x.positive

instance : Canonical ResolutionAttestationN where
  writeCanonical x := writeCanonical x.id ++ writeCanonical x.inv ++ writeCanonical x.outcome

instance : Canonical ConformanceAttestationN where
  writeCanonical x := writeCanonical x.id ++ writeCanonical x.output ++ writeCanonical x.src ++
    writeCanonical x.rcv ++ writeCanonical x.descriptor ++ writeCanonical x.assignment ++
    writeCanonical x.positive

instance : Canonical CrossInputN where
  writeCanonical q := writeCanonical q.src ++ writeCanonical q.rcv ++ writeCanonical q.crossing ++
    writeCanonical q.outputHash ++ writeCanonical q.descriptor ++ writeCanonical q.fallback ++
    writeCanonical q.tInteg ++ writeCanonical q.tConf ++ writeCanonical q.assignment ++
    writeCanonical q.evidence ++ writeCanonical q.releasedConf ++ writeCanonical q.releasedInteg

instance : Canonical ActionPolicySnapshotN where
  writeCanonical policy := writeCanonical policy.tool ++ Transcript.canonicalSet policy.requiredCaps ++
    writeCanonical policy.confClearance ++ writeCanonical policy.integFloor ++
    writeCanonical policy.integInspect ++ writeCanonical policy.outputConf ++
    writeCanonical policy.outputInteg ++ Transcript.canonicalSet policy.declaredEgress ++
    writeCanonical policy.policyDigest

instance : Canonical CommandN where
  writeCanonical
    | .registerTool tool => 0 :: writeCanonical tool
    | .unregisterTool tool => 1 :: writeCanonical tool
    | .delegate grantor grantee => 2 :: (writeCanonical grantor ++ writeCanonical grantee)
    | .grantCapability parent child cap =>
      3 :: (writeCanonical parent ++ writeCanonical child ++ writeCanonical cap)
    | .grantCrossing grantor agent assignment n =>
      4 :: (writeCanonical grantor ++ writeCanonical agent ++ writeCanonical assignment ++ writeCanonical n)
    | .revoke parent target => 5 :: (writeCanonical parent ++ writeCanonical target)
    | .cascadeRevoke child parent => 6 :: (writeCanonical child ++ writeCanonical parent)
    | .ingest agent src pconf pinteg =>
      7 :: (writeCanonical agent ++ writeCanonical src ++ writeCanonical pconf ++ writeCanonical pinteg)
    | .beginInvocation agent inv challenge policy egress argsHash authorized =>
      8 :: (writeCanonical agent ++ writeCanonical inv ++ writeCanonical challenge ++
        writeCanonical policy ++ Transcript.canonicalSet egress ++ writeCanonical argsHash ++
        writeCanonical authorized)
    | .authorizeInspected inv attestation => 9 :: (writeCanonical inv ++ writeCanonical attestation)
    | .settleInvocation inv outcome resolution =>
      10 :: (writeCanonical inv ++ writeCanonical outcome ++ writeCanonical resolution)
    | .crossOutput input => 11 :: writeCanonical input

instance : Canonical ActionN where
  writeCanonical
    | .registerTool tool => 0 :: writeCanonical tool
    | .unregisterTool tool => 1 :: writeCanonical tool
    | .delegate grantor grantee => 2 :: (writeCanonical grantor ++ writeCanonical grantee)
    | .grantCapability parent child cap =>
      3 :: (writeCanonical parent ++ writeCanonical child ++ writeCanonical cap)
    | .grantCrossing grantor agent assignment n =>
      4 :: (writeCanonical grantor ++ writeCanonical agent ++ writeCanonical assignment ++ writeCanonical n)
    | .revoke parent target => 5 :: (writeCanonical parent ++ writeCanonical target)
    | .cascadeRevoke child parent => 6 :: (writeCanonical child ++ writeCanonical parent)
    | .ingest agent src pconf pinteg disposition =>
      7 :: (writeCanonical agent ++ writeCanonical src ++ writeCanonical pconf ++ writeCanonical pinteg ++
        writeCanonical disposition)
    | .beginInvocation agent inv tool verdict authorized =>
      8 :: (writeCanonical agent ++ writeCanonical inv ++ writeCanonical tool ++ writeCanonical verdict ++
        writeCanonical authorized)
    | .authorizeInspected inv attestation admitted =>
      9 :: (writeCanonical inv ++ writeCanonical attestation ++ writeCanonical admitted)
    | .settleInvocation inv agent disposition outcome clvl ilvl resolution =>
      10 :: (writeCanonical inv ++ writeCanonical agent ++ writeCanonical disposition ++
        writeCanonical outcome ++ writeCanonical clvl ++ writeCanonical ilvl ++ writeCanonical resolution)
    | .crossOutput src rcv crossing branch disposition =>
      11 :: (writeCanonical src ++ writeCanonical rcv ++ writeCanonical crossing ++ writeCanonical branch ++
        writeCanonical disposition)

instance : Canonical BackgroundN where
  writeCanonical bg := writeCanonical bg.mode ++
    EgressKind.all.flatMap (fun e => writeCanonical (bg.allowCeiling e).join) ++
    EgressKind.all.flatMap (fun e => writeCanonical (bg.inspectCeiling e).join)

/-- The bytes of `EXARGUS` NUL `GENESIS` NUL. -/
def genesisDomain : List UInt8 := [69, 88, 65, 82, 71, 85, 83, 0, 71, 69, 78, 69, 83, 73, 83, 0]

/-- The bytes of `EXARGUS` NUL `ENVELOPE` NUL. -/
def envelopeDomain : List UInt8 := [69, 88, 65, 82, 71, 85, 83, 0, 69, 78, 86, 69, 76, 79, 80, 69, 0]

def version : UInt32 := 5

def genesisTranscript (background : BackgroundN) : List UInt8 :=
  genesisDomain ++ Transcript.u32 version ++ Transcript.string "root" ++ writeCanonical background

def linkTranscript (previous : DigestN) (sequence : UInt64) (command : CommandN) (action : ActionN) :
    List UInt8 :=
  envelopeDomain ++ Transcript.u32 version ++ previous.bytes.toList ++ Transcript.u64 sequence ++
    writeCanonical command ++ writeCanonical action

variable (sha256 : List UInt8 → DigestN)

def genesis (background : BackgroundN) : DigestN := sha256 (genesisTranscript background)

def link (previous : DigestN) (sequence : UInt64) (command : CommandN) (action : ActionN) : DigestN :=
  sha256 (linkTranscript previous sequence command action)

end Argus
