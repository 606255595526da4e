import LawFirmDigitalTwin.Corpus.Figures

/-!
# The corpus audit

`audit_persona_channel_corpus` of `corpus_auditor.py`. The rows are looked at as a whole, one by
one, by channel and by the versions of each logical artifact. The report lists the findings in the
order in which they come up.
-/

namespace LawFirmDigitalTwin

open Groups

/-- The arithmetic of floats the audit uses: the quotient of two sizes, `round(x, 6)` and the text
of a float. -/
structure FloatArithmetic where
  quotient : Nat → Nat → PyFloat
  round6 : PyFloat → PyFloat
  repr : PyFloat → String

namespace Audit

def revision : String := "corpus-sameness-continuity-g2-v1"

end Audit

/-- `corpus_auditor.py` `CorpusAuditPolicy`. -/
structure CorpusAuditPolicy where
  policyId : String := "corpus-audit-policy-g2-v1"
  minimumGroupSize : Int := 5
  minimumVariantsPerGroup : Int := 2
  concentrationWarningThreshold : PyFloat := .finite (85 / 100)
  exactDuplicateLimit : Int := 1
  syntheticOnly : Bool := true

/-- `CorpusAuditPolicy.policy_hash`. -/
def CorpusAuditPolicy.policyHash (A : FloatArithmetic) (p : CorpusAuditPolicy) : String :=
  digest (.dict
    [("policy_id", .str p.policyId), ("minimum_group_size", .int p.minimumGroupSize),
     ("minimum_variants_per_group", .int p.minimumVariantsPerGroup),
     ("concentration_warning_threshold", .float (A.repr p.concentrationWarningThreshold)),
     ("exact_duplicate_limit", .int p.exactDuplicateLimit), ("synthetic_only", .bool p.syntheticOnly)])

/-- `corpus_auditor.py` `CorpusAuditArtifact`. -/
structure CorpusAuditArtifact where
  artifactCommitment : String
  matterCommitment : String
  projectionHash : String
  bundleHash : String
  logicalArtifactCommitment : String
  versionId : String
  claimedContentHash : String
  revision : Int
  parentVersionId : Option String
  parentContentHash : Option String
  channelKind : String
  familyId : String
  authorCommitment : String
  roleId : String
  voiceSignature : String
  variantId : String
  planHash : String
  candidateHash : String
  bodyHash : String
  structureFingerprint : String
  assertionTraceHash : String
  renderedMediaType : String
  syntheticOnly : Bool
  deriving DecidableEq

def CorpusAuditArtifact.toJson (r : CorpusAuditArtifact) : Json :=
  .dict
    [("artifact_commitment", .str r.artifactCommitment), ("matter_commitment", .str r.matterCommitment),
     ("projection_hash", .str r.projectionHash), ("bundle_hash", .str r.bundleHash),
     ("logical_artifact_commitment", .str r.logicalArtifactCommitment),
     ("version_id", .str r.versionId), ("claimed_content_hash", .str r.claimedContentHash),
     ("revision", .int r.revision),
     ("parent_version_id", (r.parentVersionId.map Json.str).getD .null),
     ("parent_content_hash", (r.parentContentHash.map Json.str).getD .null),
     ("channel_kind", .str r.channelKind), ("family_id", .str r.familyId),
     ("author_commitment", .str r.authorCommitment), ("role_id", .str r.roleId),
     ("voice_signature", .str r.voiceSignature), ("variant_id", .str r.variantId),
     ("plan_hash", .str r.planHash), ("candidate_hash", .str r.candidateHash),
     ("body_hash", .str r.bodyHash), ("structure_fingerprint", .str r.structureFingerprint),
     ("assertion_trace_hash", .str r.assertionTraceHash),
     ("rendered_media_type", .str r.renderedMediaType), ("synthetic_only", .bool r.syntheticOnly)]

/-- `corpus_auditor.py` `CorpusAuditFinding`. -/
structure CorpusAuditFinding where
  code : String
  severity : Severity
  subjectCommitment : String
  message : String
  deriving DecidableEq

def CorpusAuditFinding.toJson (f : CorpusAuditFinding) : Json :=
  .dict
    [("code", .str f.code), ("severity", .str f.severity.value),
     ("subject_commitment", .str f.subjectCommitment), ("message", .str f.message)]

/-- `corpus_auditor.py` `ChannelAuditMetrics`. -/
structure ChannelAuditMetrics where
  channelKind : String
  artifactCount : Nat
  uniqueBodyCount : Nat
  uniqueStructureCount : Nat
  uniqueVariantCount : Nat
  uniqueVoiceSignatureCount : Nat
  largestExactDuplicateGroup : Nat
  largestStructureShare : PyFloat
  deriving DecidableEq

def ChannelAuditMetrics.toJson (A : FloatArithmetic) (m : ChannelAuditMetrics) : Json :=
  .dict
    [("channel_kind", .str m.channelKind), ("artifact_count", .int m.artifactCount),
     ("unique_body_count", .int m.uniqueBodyCount),
     ("unique_structure_count", .int m.uniqueStructureCount),
     ("unique_variant_count", .int m.uniqueVariantCount),
     ("unique_voice_signature_count", .int m.uniqueVoiceSignatureCount),
     ("largest_exact_duplicate_group", .int m.largestExactDuplicateGroup),
     ("largest_structure_share", .float (A.repr m.largestStructureShare))]

/-- `corpus_auditor.py` `CorpusAuditReport`. -/
structure CorpusAuditReport where
  reportId : String
  passed : Bool
  policyHash : String
  artifactCount : Nat
  uniqueBodyCount : Nat
  uniqueCandidateCount : Nat
  channelMetrics : List ChannelAuditMetrics
  findings : List CorpusAuditFinding
  inputCommitment : String
  auditorRevision : String := Audit.revision
  syntheticOnly : Bool := true
  bodiesIncluded : Bool := false
  deriving DecidableEq

namespace Audit

/-- `add`, under a condition. -/
def addIf (condition : Bool) (code : String) (severity : Severity) (subject : Json)
    (message : String) : List CorpusAuditFinding :=
  if condition then [⟨code, severity, digest subject, message⟩] else []

/-- What tells the versions of all logical artifacts apart. -/
def identityKey (r : CorpusAuditArtifact) : List String :=
  [r.matterCommitment, r.logicalArtifactCommitment, r.versionId]

/-- The findings about a single row. -/
def rowFindings (r : CorpusAuditArtifact) : List CorpusAuditFinding :=
  addIf (!r.syntheticOnly) "synthetic_boundary_missing" .error (.str r.artifactCommitment)
      "corpus item is not marked synthetic" ++
    addIf (r.renderedMediaType ≠ "text/plain") "rendered_media_type_mismatch" .error
      (.str r.artifactCommitment) "G2 corpus item is not text/plain"

/-! ## One channel -/

/-- The tallies of the group of a channel, each in the order of its values. -/
structure ChannelTallies where
  size : Nat
  bodies : List (String × Nat)
  structures : List (String × Nat)
  variants : List (String × Nat)
  voices : List (String × Nat)
  largestDuplicate : Nat
  largestStructure : Nat

def channelTallies (group : List CorpusAuditArtifact) : ChannelTallies where
  size := group.length
  bodies := sortedTally (group.map (·.bodyHash))
  structures := sortedTally (group.map (·.structureFingerprint))
  variants := sortedTally (group.map (·.variantId))
  voices := sortedTally (group.map (·.voiceSignature))
  largestDuplicate := largest (group.map (·.bodyHash))
  largestStructure := largest (group.map (·.structureFingerprint))

/-- `(channel_kind, tuple(sorted(counter.items())))`. -/
def tallySubject (channel : String) (items : List (String × Nat)) : Json :=
  .list [.str channel, .list (items.map fun item => .list [.str item.1, .int item.2])]

/-- The metrics of one turn of the loop over the channels. -/
def channelMetrics (A : FloatArithmetic) (channel : String) (t : ChannelTallies) :
    ChannelAuditMetrics where
  channelKind := channel
  artifactCount := t.size
  uniqueBodyCount := t.bodies.length
  uniqueStructureCount := t.structures.length
  uniqueVariantCount := t.variants.length
  uniqueVoiceSignatureCount := t.voices.length
  largestExactDuplicateGroup := t.largestDuplicate
  largestStructureShare := A.round6 (A.quotient t.largestStructure t.size)

/-- The findings of one turn of the loop over the channels. -/
def channelFindings (A : FloatArithmetic) (policy : CorpusAuditPolicy) (channel : String)
    (t : ChannelTallies) : List CorpusAuditFinding :=
  addIf (policy.exactDuplicateLimit < t.largestDuplicate) "exact_body_clone" .error
      (tallySubject channel t.bodies) "a channel contains an impermissible exact-body clone group" ++
    addIf (policy.minimumGroupSize ≤ t.size ∧ t.variants.length < policy.minimumVariantsPerGroup)
      "variant_collapse" .error (tallySubject channel t.variants)
      "a sufficiently large channel group lacks deterministic variation" ++
    addIf (policy.minimumGroupSize ≤ t.size ∧
        policy.concentrationWarningThreshold.le (A.quotient t.largestStructure t.size))
      "structure_concentration" .warning (tallySubject channel t.structures)
      "channel geometry is highly concentrated; deepen templates before G3" ++
    addIf (policy.minimumGroupSize ≤ t.size ∧ t.voices.length = 1) "voice_signature_concentration"
      .warning (tallySubject channel t.voices)
      "the current G2 population has one voice signature in this channel"

/-! ## One logical artifact -/

/-- The key of a logical artifact. -/
def logicalKey (r : CorpusAuditArtifact) : String × String :=
  (r.matterCommitment, r.logicalArtifactCommitment)

/-- The child does not name the version before it. -/
def misnames (parent child : CorpusAuditArtifact) : Bool :=
  child.parentVersionId ≠ some parent.versionId

/-- The child does not bind the content of the version before it. -/
def misbinds (parent child : CorpusAuditArtifact) : Bool :=
  child.parentContentHash ≠ some parent.claimedContentHash

/-- The findings about a version after the one before it. -/
def childFindings (parent child : CorpusAuditArtifact) : List CorpusAuditFinding :=
  addIf (misnames parent child) "lineage_parent_version_mismatch" .error
      (.str child.artifactCommitment) "child does not name the preceding version" ++
    addIf (misbinds parent child) "lineage_parent_content_hash_mismatch" .error
      (.str child.artifactCommitment) "child does not bind the preceding content commitment"

/-- The findings of the loop over `zip(ordered, ordered[1:])`. -/
def walkFindings : List CorpusAuditArtifact → List CorpusAuditFinding
  | parent :: child :: rest => childFindings parent child ++ walkFindings (child :: rest)
  | _ => []

/-- `sorted(versions, key=lambda item: item.revision)`. -/
def ordered (versions : List CorpusAuditArtifact) : List CorpusAuditArtifact :=
  versions.insertionSort fun a b => a.revision ≤ b.revision

/-- The findings of one turn of the loop over the logical artifacts. -/
def lineageFindings (key : String × String) (versions : List CorpusAuditArtifact) :
    List CorpusAuditFinding :=
  addIf ((ordered versions).map (·.revision) ≠
        (List.range (ordered versions).length).map fun i => ((i : Nat) : Int) + 1)
      "lineage_revision_gap" .error (.strs [key.1, key.2])
      "artifact revision sequence is not contiguous from one" ++
    walkFindings (ordered versions)

/-! ## The corpus -/

/-- The channels of the rows in the order of `sorted(grouped.items())`. -/
def channels (rows : List CorpusAuditArtifact) : List String :=
  (keys (·.channelKind) rows).insertionSort (· ≤ ·)

/-- The tallies of the group of a channel. -/
def talliesOf (rows : List CorpusAuditArtifact) (channel : String) : ChannelTallies :=
  channelTallies (members (·.channelKind) rows channel)

/-- The findings, in the order in which they are added. -/
def findings (A : FloatArithmetic) (policy : CorpusAuditPolicy) (rows : List CorpusAuditArtifact) :
    List CorpusAuditFinding :=
  addIf (rows.length ≠ (distinct (rows.map (·.artifactCommitment))).length) "duplicate_audit_input"
      .error (.strs (rows.map (·.artifactCommitment)))
      "the same audit artifact was supplied more than once" ++
    addIf (rows.length ≠ (distinct (rows.map identityKey)).length) "duplicate_lineage_identity" .error
      (.list (rows.map fun r => .strs (identityKey r)))
      "logical artifact version identity is duplicated" ++
    rows.flatMap rowFindings ++
    (channels rows).flatMap (fun channel =>
      channelFindings A policy channel (talliesOf rows channel)) ++
    (keys logicalKey rows).flatMap fun key => lineageFindings key (members logicalKey rows key)

/-- The commitment to the rows, sorted by their own commitments. -/
def inputCommitment (rows : List CorpusAuditArtifact) : String :=
  digest (.list ((rows.insertionSort fun a b => a.artifactCommitment ≤ b.artifactCommitment).map
    (·.toJson)))

/-- The report before it has its id. -/
def draft (A : FloatArithmetic) (policy : CorpusAuditPolicy) (rows : List CorpusAuditArtifact) :
    CorpusAuditReport where
  reportId := ""
  passed := !(findings A policy rows).any (·.severity = .error)
  policyHash := policy.policyHash A
  artifactCount := rows.length
  uniqueBodyCount := (distinct (rows.map (·.bodyHash))).length
  uniqueCandidateCount := (distinct (rows.map (·.candidateHash))).length
  channelMetrics := (channels rows).map fun channel =>
    channelMetrics A channel (talliesOf rows channel)
  findings := findings A policy rows
  inputCommitment := inputCommitment rows

/-- The id of a report. -/
def reportId (A : FloatArithmetic) (r : CorpusAuditReport) : String :=
  "CORPUS-AUDIT-" ++ firstChars 18 (digest (.dict
    [("passed", .bool r.passed), ("policy_hash", .str r.policyHash),
     ("artifact_count", .int r.artifactCount), ("unique_body_count", .int r.uniqueBodyCount),
     ("unique_candidate_count", .int r.uniqueCandidateCount),
     ("channel_metrics", .list (r.channelMetrics.map (·.toJson A))),
     ("findings", .list (r.findings.map (·.toJson))), ("input_commitment", .str r.inputCommitment),
     ("auditor_revision", .str r.auditorRevision), ("synthetic_only", .bool r.syntheticOnly),
     ("bodies_included", .bool r.bodiesIncluded)]))

end Audit

/-- The report with its id. -/
def CorpusAuditReport.withId (A : FloatArithmetic) (r : CorpusAuditReport) : CorpusAuditReport :=
  { r with reportId := Audit.reportId A r }

/-- `corpus_auditor.py` `audit_persona_channel_corpus`. -/
def auditPersonaChannelCorpus (A : FloatArithmetic) (policy : CorpusAuditPolicy)
    (rows : List CorpusAuditArtifact) : CorpusAuditReport :=
  (Audit.draft A policy rows).withId A

end LawFirmDigitalTwin
