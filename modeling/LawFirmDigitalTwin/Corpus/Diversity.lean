import LawFirmDigitalTwin.Corpus.Figures

/-!
# Corpus diversity

`_evaluate_corpus_diversity_artifacts` of `corpus_diversity_evaluator.py` and the public summary of
its report. The rows are grouped by channel, by author and by organization; each group is measured,
and what a measure says against the policy becomes a finding.
-/

namespace LawFirmDigitalTwin

open Groups

namespace Diversity

def revision : String := "corpus-diversity-evaluator-g2-v1"

end Diversity

/-- `corpus_diversity_evaluator.py` `CorpusDiversityPolicy`. -/
structure CorpusDiversityPolicy where
  policyId : String := "corpus-diversity-policy-g2-v1"
  minimumChannelSize : Int := 10
  minimumEffectiveFamilies : Int := 3
  maximumFamilyShare : PyFloat := .finite (7 / 10)
  minimumPresentationRatio : PyFloat := .finite (2 / 10)
  nearTemplateThreshold : PyFloat := .finite (92 / 100)
  nearTemplateWarningThreshold : PyFloat := .finite (6 / 10)
  trivialVariantWarningThreshold : PyFloat := .finite (6 / 10)
  crossAuthorCollapseThreshold : PyFloat := .finite (15 / 100)
  crossAuthorCaricatureThreshold : PyFloat := .finite (8 / 10)
  publicMinimumCell : Int := 5

/-- `CorpusDiversityPolicy.policy_hash`, given the text of a float. -/
def CorpusDiversityPolicy.policyHash (repr : PyFloat → String) (p : CorpusDiversityPolicy) : String :=
  digest (.dict
    [("policy_id", .str p.policyId), ("minimum_channel_size", .int p.minimumChannelSize),
     ("minimum_effective_families", .int p.minimumEffectiveFamilies),
     ("maximum_family_share", .float (repr p.maximumFamilyShare)),
     ("minimum_presentation_ratio", .float (repr p.minimumPresentationRatio)),
     ("near_template_threshold", .float (repr p.nearTemplateThreshold)),
     ("near_template_warning_threshold", .float (repr p.nearTemplateWarningThreshold)),
     ("trivial_variant_warning_threshold", .float (repr p.trivialVariantWarningThreshold)),
     ("cross_author_collapse_threshold", .float (repr p.crossAuthorCollapseThreshold)),
     ("cross_author_caricature_threshold", .float (repr p.crossAuthorCaricatureThreshold)),
     ("public_minimum_cell", .int p.publicMinimumCell)])

/-- `corpus_diversity_evaluator.py` `CorpusDiversityArtifact`. -/
structure CorpusDiversityArtifact where
  artifactCommitment : String
  matterCommitment : String
  authorCommitment : String
  organizationCommitment : String
  cultureCommitment : String
  channelKind : String
  familyId : String
  roleId : String
  effectiveVoiceSignature : String
  effectiveGeometrySignature : String
  channelContractHash : String
  sectionSequence : List String
  segmentGeometry : List (String × String)
  assertionPositions : List Int
  styleOperationIds : List String
  realizedOperationIds : List String
  normalizedNonassertiveBlockIds : List String
  audienceMode : String
  channelCompatibility : String
  presentationFingerprint : String
  semanticSkeletonTokens : List String
  variantId : String
  factualTraceHash : String
  bodyHash : String
  qualifiedBundleHash : String
  sourceCompilationHash : String
  syntheticOnly : Bool
  deriving DecidableEq

def CorpusDiversityArtifact.toJson (r : CorpusDiversityArtifact) : Json :=
  .dict
    [("artifact_commitment", .str r.artifactCommitment), ("matter_commitment", .str r.matterCommitment),
     ("author_commitment", .str r.authorCommitment),
     ("organization_commitment", .str r.organizationCommitment),
     ("culture_commitment", .str r.cultureCommitment), ("channel_kind", .str r.channelKind),
     ("family_id", .str r.familyId), ("role_id", .str r.roleId),
     ("effective_voice_signature", .str r.effectiveVoiceSignature),
     ("effective_geometry_signature", .str r.effectiveGeometrySignature),
     ("channel_contract_hash", .str r.channelContractHash),
     ("section_sequence", .strs r.sectionSequence),
     ("segment_geometry", .list (r.segmentGeometry.map fun s => .strs [s.1, s.2])),
     ("assertion_positions", .list (r.assertionPositions.map .int)),
     ("style_operation_ids", .strs r.styleOperationIds),
     ("realized_operation_ids", .strs r.realizedOperationIds),
     ("normalized_nonassertive_block_ids", .strs r.normalizedNonassertiveBlockIds),
     ("audience_mode", .str r.audienceMode), ("channel_compatibility", .str r.channelCompatibility),
     ("presentation_fingerprint", .str r.presentationFingerprint),
     ("semantic_skeleton_tokens", .strs r.semanticSkeletonTokens), ("variant_id", .str r.variantId),
     ("factual_trace_hash", .str r.factualTraceHash), ("body_hash", .str r.bodyHash),
     ("qualified_bundle_hash", .str r.qualifiedBundleHash),
     ("source_compilation_hash", .str r.sourceCompilationHash),
     ("synthetic_only", .bool r.syntheticOnly)]

/-- `corpus_diversity_evaluator.py` `DiversityFinding`. -/
structure DiversityFinding where
  code : String
  severity : Severity
  subjectCommitment : String
  message : String
  deriving DecidableEq

def DiversityFinding.toJson (f : DiversityFinding) : Json :=
  .dict
    [("code", .str f.code), ("severity", .str f.severity.value),
     ("subject_commitment", .str f.subjectCommitment), ("message", .str f.message)]

/-- `corpus_diversity_evaluator.py` `ChannelDiversityMetrics`. -/
structure ChannelDiversityMetrics where
  channelKind : String
  artifactCount : Nat
  eligible : Bool
  effectiveVoiceFamilyCount : Nat
  effectiveGeometryFamilyCount : Nat
  effectiveCombinedFamilyCount : Nat
  presentationFamilyCount : Nat
  largestEffectiveFamilyShare : ℚ
  meaningfulPresentationRatio : ℚ
  trivialVariantRatio : ℚ
  nearTemplatePairRate : ℚ
  crossAuthorMedianDistance : Option ℚ
  crossAuthorStatus : String
  deriving DecidableEq

def ChannelDiversityMetrics.toJson (repr : PyFloat → String) (m : ChannelDiversityMetrics) : Json :=
  .dict
    [("channel_kind", .str m.channelKind), ("artifact_count", .int m.artifactCount),
     ("eligible", .bool m.eligible),
     ("effective_voice_family_count", .int m.effectiveVoiceFamilyCount),
     ("effective_geometry_family_count", .int m.effectiveGeometryFamilyCount),
     ("effective_combined_family_count", .int m.effectiveCombinedFamilyCount),
     ("presentation_family_count", .int m.presentationFamilyCount),
     ("largest_effective_family_share", .float (repr (.finite m.largestEffectiveFamilyShare))),
     ("meaningful_presentation_ratio", .float (repr (.finite m.meaningfulPresentationRatio))),
     ("trivial_variant_ratio", .float (repr (.finite m.trivialVariantRatio))),
     ("near_template_pair_rate", .float (repr (.finite m.nearTemplatePairRate))),
     ("cross_author_median_distance",
       match m.crossAuthorMedianDistance with
       | none => .null
       | some d => .float (repr (.finite d))),
     ("cross_author_status", .str m.crossAuthorStatus)]

/-- `corpus_diversity_evaluator.py` `CorpusDiversityReport`. -/
structure CorpusDiversityReport where
  reportId : String
  passed : Bool
  policyHash : String
  artifactCount : Nat
  qualifiedBindingRate : ℚ
  factualTraceCoverage : ℚ
  crossChannelSchemaSeparation : ℚ
  eligibleChannelCount : Nat
  insufficientChannelCount : Nat
  withinAuthorEligibleCount : Nat
  withinAuthorInconsistencyCount : Nat
  organizationEligibleCount : Nat
  organizationInconsistencyCount : Nat
  channelMetrics : List ChannelDiversityMetrics
  findings : List DiversityFinding
  inputCommitment : String
  evaluatorRevision : String := Diversity.revision
  syntheticOnly : Bool := true
  humanRealismValidated : Bool := false
  nativeFidelityValidated : Bool := false
  bodiesIncluded : Bool := false
  deriving DecidableEq

namespace Diversity

/-- `add`, under a condition. -/
def addIf (condition : Bool) (code : String) (severity : Severity) (subject : Json)
    (message : String) : List DiversityFinding :=
  if condition then [⟨code, severity, digest subject, message⟩] else []

/-! ## One channel -/

/-- `_pair_rates`. -/
def pairRates (rows : List CorpusDiversityArtifact) (nearThreshold : PyFloat) : ℚ × ℚ :=
  let changedPairs := (pairs rows).countP fun p => p.1.bodyHash ≠ p.2.bodyHash
  let variantOnly := (pairs rows).countP fun p =>
    p.1.bodyHash ≠ p.2.bodyHash ∧ p.1.presentationFingerprint = p.2.presentationFingerprint ∧
      p.1.variantId ≠ p.2.variantId
  let crossMatterPairs := (pairs rows).countP fun p => p.1.matterCommitment ≠ p.2.matterCommitment
  let nearPairs := (pairs rows).countP fun p =>
    p.1.matterCommitment ≠ p.2.matterCommitment ∧
      nearThreshold.le (.finite (jaccard p.1.semanticSkeletonTokens p.2.semanticSkeletonTokens))
  (ratio variantOnly changedPairs, ratio nearPairs crossMatterPairs)

/-- The distances of the pairs of rows by different authors. -/
def authorDistances (rows : List CorpusDiversityArtifact) : List ℚ :=
  (pairs rows).filterMap fun p =>
    if p.1.authorCommitment = p.2.authorCommitment then none
    else some (1 - jaccard p.1.realizedOperationIds p.2.realizedOperationIds)

/-- `_cross_author_distance`. -/
def crossAuthorDistance (rows : List CorpusDiversityArtifact) : Option ℚ × String :=
  let distances := authorDistances rows
  if distances = [] then (none, "coverage_insufficient") else (some (median distances), "eligible")

/-- What the loop works out about the group of a channel before it judges it. -/
structure ChannelShape where
  size : Nat
  eligible : Bool
  voiceCount : Nat
  geometryCount : Nat
  combinedCounts : List ((String ×ₗ String) × Nat)
  presentationCount : Nat
  largestShare : ℚ
  presentationRatio : ℚ
  trivialRatio : ℚ
  nearRate : ℚ
  crossAuthorDistance : Option ℚ
  crossAuthorStatus : String

/-- The effective family of a row. -/
def combinedFamily (r : CorpusDiversityArtifact) : String ×ₗ String :=
  toLex (r.effectiveVoiceSignature, r.effectiveGeometrySignature)

def channelShape (policy : CorpusDiversityPolicy) (group : List CorpusDiversityArtifact) :
    ChannelShape :=
  let presentationCount := (distinct (group.map (·.presentationFingerprint))).length
  let rates := pairRates group policy.nearTemplateThreshold
  let crossAuthor := Diversity.crossAuthorDistance group
  { size := group.length
    eligible := decide (policy.minimumChannelSize ≤ (group.length : Int))
    voiceCount := (distinct (group.map (·.effectiveVoiceSignature))).length
    geometryCount := (distinct (group.map (·.effectiveGeometrySignature))).length
    combinedCounts := sortedTally (group.map combinedFamily)
    presentationCount
    largestShare := ratio (largest (group.map combinedFamily)) group.length
    presentationRatio := ratio presentationCount group.length
    trivialRatio := rates.1
    nearRate := rates.2
    crossAuthorDistance := crossAuthor.1
    crossAuthorStatus := crossAuthor.2 }

/-- The item of `combined_counts.items()`. -/
def familyItem (item : (String ×ₗ String) × Nat) : Json :=
  .list [.strs [(ofLex item.1).1, (ofLex item.1).2], .int item.2]

/-- The findings of one turn of the loop over the channels. -/
def channelFindings (repr : PyFloat → String) (policy : CorpusDiversityPolicy) (channel : String)
    (shape : ChannelShape) : List DiversityFinding :=
  let withRatio := fun q : ℚ => Json.list [.str channel, .float (repr (.finite q))]
  addIf (!shape.eligible) "coverage_insufficient" .info (.str channel)
      "channel group is below the diversity-policy sample floor" ++
    (if shape.eligible then
      addIf (shape.combinedCounts.length < policy.minimumEffectiveFamilies)
          "effective_family_collapse" .error
          (.list [.str channel, .list (shape.combinedCounts.map familyItem)])
          "channel lacks the required effective presentation families" ++
        addIf (policy.maximumFamilyShare.lt (.finite shape.largestShare))
          "effective_family_concentration" .error (withRatio shape.largestShare)
          "one effective presentation family exceeds the G2 ceiling" ++
        addIf ((PyFloat.finite shape.presentationRatio).lt policy.minimumPresentationRatio)
          "meaningful_presentation_collapse" .error (withRatio shape.presentationRatio)
          "meaningful presentation diversity is below the G2 floor" ++
        addIf (policy.trivialVariantWarningThreshold.lt (.finite shape.trivialRatio))
          "trivial_variant_dominance" .warning (withRatio shape.trivialRatio)
          "body changes are dominated by variant-only differences" ++
        addIf (policy.nearTemplateWarningThreshold.lt (.finite shape.nearRate))
          "near_template_concentration" .warning (withRatio shape.nearRate)
          "cross-matter presentation skeletons remain highly similar"
    else []) ++
    match shape.crossAuthorDistance with
    | none => []
    | some distance =>
      if (PyFloat.finite distance).lt policy.crossAuthorCollapseThreshold then
        addIf true "cross_author_collapse" .warning (withRatio distance)
          "declared presentation controls do not separate authors"
      else
        addIf (policy.crossAuthorCaricatureThreshold.lt (.finite distance))
          "cross_author_caricature" .warning (withRatio distance)
          "author controls may be unrealistically over-separated"

/-- The metrics of one turn of the loop over the channels. -/
def channelMetrics (channel : String) (shape : ChannelShape) : ChannelDiversityMetrics where
  channelKind := channel
  artifactCount := shape.size
  eligible := shape.eligible
  effectiveVoiceFamilyCount := shape.voiceCount
  effectiveGeometryFamilyCount := shape.geometryCount
  effectiveCombinedFamilyCount := shape.combinedCounts.length
  presentationFamilyCount := shape.presentationCount
  largestEffectiveFamilyShare := roundTo 6 shape.largestShare
  meaningfulPresentationRatio := roundTo 6 shape.presentationRatio
  trivialVariantRatio := roundTo 6 shape.trivialRatio
  nearTemplatePairRate := roundTo 6 shape.nearRate
  crossAuthorMedianDistance := shape.crossAuthorDistance.map (roundTo 6)
  crossAuthorStatus := shape.crossAuthorStatus

/-! ## The corpus -/

/-- The channels of the rows in the order of `sorted(grouped.items())`. -/
def channels (rows : List CorpusDiversityArtifact) : List String :=
  (keys (·.channelKind) rows).insertionSort (· ≤ ·)

/-- The shape of the group of a channel. -/
def shapeOf (policy : CorpusDiversityPolicy) (rows : List CorpusDiversityArtifact)
    (channel : String) : ChannelShape :=
  channelShape policy (members (·.channelKind) rows channel)

/-- `author_groups`. -/
def authorGroups (rows : List CorpusDiversityArtifact) : List (List CorpusDiversityArtifact) :=
  (groups (·.authorCommitment) rows).filter fun g => 2 ≤ g.length

/-- `organization_groups`. -/
def organizationGroups (rows : List CorpusDiversityArtifact) : List (List CorpusDiversityArtifact) :=
  (groups (·.organizationCommitment) rows).filter fun g => 2 ≤ g.length

/-- `author_inconsistencies`. -/
def authorInconsistencies (rows : List CorpusDiversityArtifact) :
    List (List CorpusDiversityArtifact) :=
  (authorGroups rows).filter fun g => (distinct (g.map (·.effectiveVoiceSignature))).length ≠ 1

/-- `organization_inconsistencies`. -/
def organizationInconsistencies (rows : List CorpusDiversityArtifact) :
    List (List CorpusDiversityArtifact) :=
  (organizationGroups rows).filter fun g => (distinct (g.map (·.cultureCommitment))).length ≠ 1

/-- `sections_by_channel[channel]`, in the order the sequences were added. -/
def sectionsOf (rows : List CorpusDiversityArtifact) (channel : String) : List (List String) :=
  distinct ((members (·.channelKind) rows channel).map (·.sectionSequence))

/-- `representative_sections`: of each channel the section sequence that its set yields first. -/
def representativeSections (order : SetOrder (List String)) (rows : List CorpusDiversityArtifact) :
    List (List String) :=
  distinct ((keys (·.channelKind) rows).filterMap fun channel => order.first (sectionsOf rows channel))

/-- `separation`. -/
def separation (order : SetOrder (List String)) (rows : List CorpusDiversityArtifact) : ℚ :=
  ratio (representativeSections order rows).length (keys (·.channelKind) rows).length

/-- `factual_coverage`. -/
def factualCoverage (rows : List CorpusDiversityArtifact) : ℚ :=
  ratio (rows.countP (·.factualTraceHash ≠ "")) rows.length

/-- The commitments of the rows, in their order. -/
def commitments (rows : List CorpusDiversityArtifact) : Json := .strs (rows.map (·.artifactCommitment))

/-- The findings, in the order in which they are added. -/
def findings (repr : PyFloat → String) (order : SetOrder (List String))
    (policy : CorpusDiversityPolicy) (rows : List CorpusDiversityArtifact)
    (qualifiedBindingVerified : Bool) : List DiversityFinding :=
  addIf (rows ≠ [] ∧ qualifiedBindingVerified = false) "qualified_binding_unverified" .error
      (.strs (rows.map (·.qualifiedBundleHash)))
      "raw diversity artifacts cannot self-attest qualified provenance" ++
    addIf (rows.length ≠ (distinct (rows.map (·.artifactCommitment))).length)
      "duplicate_diversity_input" .error (commitments rows)
      "the same diversity artifact was supplied more than once" ++
    addIf (rows.any fun r => !r.syntheticOnly) "synthetic_boundary_missing" .error (commitments rows)
      "all diversity inputs must remain synthetic" ++
    (channels rows).flatMap (fun channel =>
      channelFindings repr policy channel (shapeOf policy rows channel)) ++
    addIf ((channels rows).countP (fun channel => (shapeOf policy rows channel).eligible) = 0)
      "corpus_coverage_insufficient" .error (.strs (channels rows))
      "no channel group meets the diversity-policy sample floor" ++
    (authorInconsistencies rows).flatMap (fun g =>
      addIf true "within_author_continuity_failure" .error (commitments g)
        "one synthetic author has inconsistent realized voice families") ++
    (organizationInconsistencies rows).flatMap (fun g =>
      addIf true "organization_culture_coherence_failure" .error (commitments g)
        "one synthetic organization has inconsistent culture commitments") ++
    addIf (channels rows ≠ [] ∧ separation order rows ≠ 1) "cross_channel_schema_collapse" .error
      (.strs (channels rows)) "active channels do not have distinct required section schemas" ++
    addIf (rows ≠ [] ∧ factualCoverage rows ≠ 1) "factual_trace_coverage_incomplete" .error
      (commitments rows) "every diversity artifact must retain a factual trace commitment"

/-- The commitment to the rows, sorted by their own commitments. -/
def inputCommitment (rows : List CorpusDiversityArtifact) : String :=
  digest (.list ((rows.insertionSort fun a b => a.artifactCommitment ≤ b.artifactCommitment).map
    (·.toJson)))

/-- The payload that the id of a report commits to. -/
def payload (repr : PyFloat → String) (r : CorpusDiversityReport) : Json :=
  .dict
    [("passed", .bool r.passed), ("policy_hash", .str r.policyHash),
     ("artifact_count", .int r.artifactCount),
     ("qualified_binding_rate", .float (repr (.finite r.qualifiedBindingRate))),
     ("factual_trace_coverage", .float (repr (.finite r.factualTraceCoverage))),
     ("cross_channel_schema_separation", .float (repr (.finite r.crossChannelSchemaSeparation))),
     ("eligible_channel_count", .int r.eligibleChannelCount),
     ("insufficient_channel_count", .int r.insufficientChannelCount),
     ("within_author_eligible_count", .int r.withinAuthorEligibleCount),
     ("within_author_inconsistency_count", .int r.withinAuthorInconsistencyCount),
     ("organization_eligible_count", .int r.organizationEligibleCount),
     ("organization_inconsistency_count", .int r.organizationInconsistencyCount),
     ("channel_metrics", .list (r.channelMetrics.map (·.toJson repr))),
     ("findings", .list (r.findings.map (·.toJson))), ("input_commitment", .str r.inputCommitment),
     ("evaluator_revision", .str r.evaluatorRevision), ("synthetic_only", .bool r.syntheticOnly),
     ("human_realism_validated", .bool r.humanRealismValidated),
     ("native_fidelity_validated", .bool r.nativeFidelityValidated),
     ("bodies_included", .bool r.bodiesIncluded)]

/-- The report before it has its id. -/
def draft (repr : PyFloat → String) (order : SetOrder (List String)) (policy : CorpusDiversityPolicy)
    (rows : List CorpusDiversityArtifact) (qualifiedBindingVerified : Bool) :
    CorpusDiversityReport where
  reportId := ""
  passed := qualifiedBindingVerified &&
    !(findings repr order policy rows qualifiedBindingVerified).any (·.severity = .error)
  policyHash := policy.policyHash repr
  artifactCount := rows.length
  qualifiedBindingRate := if rows ≠ [] ∧ qualifiedBindingVerified = true then 1 else 0
  factualTraceCoverage := factualCoverage rows
  crossChannelSchemaSeparation := separation order rows
  eligibleChannelCount := (channels rows).countP fun channel => (shapeOf policy rows channel).eligible
  insufficientChannelCount :=
    (channels rows).countP fun channel => !(shapeOf policy rows channel).eligible
  withinAuthorEligibleCount := (authorGroups rows).length
  withinAuthorInconsistencyCount := (authorInconsistencies rows).length
  organizationEligibleCount := (organizationGroups rows).length
  organizationInconsistencyCount := (organizationInconsistencies rows).length
  channelMetrics := (channels rows).map fun channel =>
    channelMetrics channel (shapeOf policy rows channel)
  findings := findings repr order policy rows qualifiedBindingVerified
  inputCommitment := inputCommitment rows

end Diversity

open Diversity

/-- The id of a report. -/
def Diversity.reportId (repr : PyFloat → String) (r : CorpusDiversityReport) : String :=
  "CORPUS-DIVERSITY-" ++ firstChars 18 (digest (payload repr r))

/-- The report with its id. -/
def CorpusDiversityReport.withId (repr : PyFloat → String) (r : CorpusDiversityReport) :
    CorpusDiversityReport :=
  { r with reportId := Diversity.reportId repr r }

/-- `corpus_diversity_evaluator.py` `_evaluate_corpus_diversity_artifacts`, given the text of a
float and the order in which sets are met. -/
def evaluateCorpusDiversityArtifacts (repr : PyFloat → String) (order : SetOrder (List String))
    (policy : CorpusDiversityPolicy) (rows : List CorpusDiversityArtifact)
    (qualifiedBindingVerified : Bool) : CorpusDiversityReport :=
  (draft repr order policy rows qualifiedBindingVerified).withId repr

/-! ## The public summary -/

/-- What `CorpusDiversityReport.public_summary` returns. -/
@[ext] structure PublicSummary where
  reportId : String
  passed : Bool
  policyHash : String
  artifactCount : Nat
  qualifiedBindingRate : ℚ
  factualTraceCoverage : ℚ
  crossChannelSchemaSeparation : ℚ
  eligibleChannelCount : Nat
  insufficientChannelCount : Nat
  withinAuthorEligibleCount : Nat
  withinAuthorInconsistencyCount : Nat
  organizationEligibleCount : Nat
  organizationInconsistencyCount : Nat
  suppressedSmallCellCount : Nat
  channelMetrics : List ChannelDiversityMetrics
  findingCounts : List (String × Nat)
  findingCodes : List String
  inputCommitment : String
  evaluatorRevision : String
  syntheticOnly : Bool := true
  humanRealismValidated : Bool := false
  nativeFidelityValidated : Bool := false
  bodiesIncluded : Bool := false
  scopeStatement : String :=
    "Deterministic synthetic G2 presentation-diversity evaluation; " ++
      "not human-realism, cultural-validity, legal, native-file, " ++
      "production-fidelity, or outcome evidence."
  deriving DecidableEq

/-- `CorpusDiversityReport.public_summary`. -/
def CorpusDiversityReport.publicSummary (r : CorpusDiversityReport) : PublicSummary where
  reportId := r.reportId
  passed := r.passed
  policyHash := r.policyHash
  artifactCount := r.artifactCount
  qualifiedBindingRate := roundTo 2 r.qualifiedBindingRate
  factualTraceCoverage := roundTo 2 r.factualTraceCoverage
  crossChannelSchemaSeparation := roundTo 2 r.crossChannelSchemaSeparation
  eligibleChannelCount := r.eligibleChannelCount
  insufficientChannelCount := r.insufficientChannelCount
  withinAuthorEligibleCount := r.withinAuthorEligibleCount
  withinAuthorInconsistencyCount := r.withinAuthorInconsistencyCount
  organizationEligibleCount := r.organizationEligibleCount
  organizationInconsistencyCount := r.organizationInconsistencyCount
  suppressedSmallCellCount := r.channelMetrics.countP fun m => m.artifactCount < 5
  channelMetrics := r.channelMetrics.filter fun m => 5 ≤ m.artifactCount
  findingCounts := sortedTally (r.findings.map (·.severity.value))
  findingCodes := (distinct (r.findings.map (·.code))).insertionSort (· ≤ ·)
  inputCommitment := r.inputCommitment
  evaluatorRevision := r.evaluatorRevision

end LawFirmDigitalTwin
