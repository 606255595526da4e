import LawFirmDigitalTwin.Oracle.Disclosure

/-!
# The independent checker of scan reports

`oracle_isolation_validator.py`. The checker recomputes the hits, and the registry it checks by
itself; which surfaces are created and which were observed it takes from the report. So a report
that claims a clean scan is accepted also where nothing was observed.
-/

namespace LawFirmDigitalTwin

open Raising

/-- The errors of `validate_operating_surface_registry` about one surface. -/
def surfaceErrors (s : OperatingSurfaceSpec) : List String :=
  (if ¬ s.scansContent ∨ ¬ s.scansNames ∨ ¬ s.scansMetadata ∨ ¬ s.requiredBeforeQualification ∨
      s.externalEffects ∨ s.sealedAccess then
    ["OIR-004:" ++ s.surfaceId ++ ":surface_contract_invalid"] else [])
  ++ if s.state = "canonical_h10_approved" then
    ["OIR-005:" ++ s.surfaceId ++ ":human_gate_self_activation"] else []

/-- `validate_operating_surface_registry`. -/
def validateOperatingSurfaceRegistry (r : OperatingSurfaceRegistry) : List String :=
  let expected := (requiredOperatingSurfaces.map (·.1)).toFinset
  let ids := r.surfaces.map (·.surfaceId)
  (if ids.toFinset ≠ expected ∨ ids.length ≠ ids.toFinset.card then
    ["OIR-001:surface_coverage_invalid"] else [])
  ++ (if r.canonicalStorageGate ≠ "H-10" then ["OIR-002:canonical_storage_gate_invalid"] else [])
  ++ (if r.sealedKeyIncluded ∨ r.canaryValueIncluded ∨ r.externalEffects then
    ["OIR-003:registry_information_boundary_invalid"] else [])
  ++ r.surfaces.flatMap surfaceErrors

/-- The UTF-16 code units of a character. -/
def utf16Units (c : Char) : List Nat :=
  if c.toNat < 0x10000 then [c.toNat]
  else [0xd800 + (c.toNat - 0x10000) / 0x400, 0xdc00 + (c.toNat - 0x10000) % 0x400]

/-- `_checker_variants`. The lower case is that of an ASCII text. -/
def checkerVariants (z : Compressors) (canary : String) : List (String × List Nat) :=
  let raw := utf8 canary
  [("raw_utf8", raw),
    ("raw_lower_utf8", utf8 (String.ofList (canary.toList.map Char.toLower))),
    ("hex_lower", asciiCodes (hexOf raw)),
    ("hex_upper", asciiCodes ((hexOf raw).map Char.toUpper)),
    ("base64_standard", asciiCodes (base64Encode '+' '/' raw)),
    ("base64_urlsafe", asciiCodes (base64Encode '-' '_' raw)),
    ("json_escaped", asciiCodes (canary.toList.flatMap Json.escapeChar)),
    ("percent_utf8", asciiCodes (percentEncode raw)),
    ("utf16_le", (canary.toList.flatMap utf16Units).flatMap fun u => [u % 256, u / 256]),
    ("utf16_be", (canary.toList.flatMap utf16Units).flatMap fun u => [u / 256, u % 256]),
    ("gzip_mtime0", z.gzip raw),
    ("zlib", z.zlib raw)]

/-- `_checker_channels`. -/
def checkerChannels (o : SurfaceObservation) : Except PyError (List (String × List Nat)) := do
  let name ← o.relativeName.encode
  return [("name", name),
    ("content", bytesOf o.content),
    ("metadata", utf8 (canonicalJson (o.metadataDict.toJson .str)))]

/-- `variant.decode("ascii", errors="ignore")`. -/
def asciiText (data : List Nat) : List Char :=
  (data.filter (· < 128)).map Char.ofNat

/-- The hits that the checker expects in one observation. -/
def checkerHits (z : Compressors) (canary : String) (o : SurfaceObservation) :
    Except PyError (List CanaryHit) := do
  let channels ← checkerChannels o
  let commitment ← o.observationCommitment
  return channels.flatMap fun (channel, haystack) =>
    (checkerVariants z canary).filterMap fun (variantId, needle) =>
      if needle ≠ [] ∧ needle <:+: haystack then
        some ⟨o.surfaceId, commitment, channel, variantId⟩
      else none

/-- `expected_hits`. -/
def expectedHits (z : Compressors) (r : OperatingSurfaceRegistry)
    (observations : List SurfaceObservation) (canary : String) :
    Except PyError (Finset CanaryHit) := do
  let hits ← (observations.filter fun o => o.surfaceId ∈ r.known).mapM (checkerHits z canary)
  return hits.flatten.toFinset

/-- An encoding of the canary stands in the canonical JSON of the report. -/
def CanaryScanReport.ShowsVariant (report : CanaryScanReport) (z : Compressors) (canary : String) :
    Prop :=
  ∃ v ∈ checkerVariants z canary, asciiText v.2 ≠ [] ∧
    asciiText v.2 <:+: (canonicalJson report.toJson).toList

instance (report : CanaryScanReport) (z : Compressors) (canary : String) :
    Decidable (report.ShowsVariant z canary) :=
  inferInstanceAs (Decidable (∃ v ∈ checkerVariants z canary, _))

/-- `independently_validate_canary_report`. -/
def independentlyValidateCanaryReport (z : Compressors) (r : OperatingSurfaceRegistry)
    (observations : List SurfaceObservation) (report : CanaryScanReport) (sealedCanary : String) :
    Except PyError (List String) := do
  let expected ← expectedHits z r observations sealedCanary
  return validateOperatingSurfaceRegistry r
  ++ (if report.scannerRevision ≠ canaryScannerRevision then
    ["OIC-001:scanner_revision_invalid"] else [])
  ++ (if report.registryHash ≠ r.registryHash then ["OIC-002:registry_binding_invalid"] else [])
  ++ (if expected ≠ report.hits.toFinset then
    ["OIC-003:hit_set_mismatch"] else [])
  ++ (if report.hits ≠ [] ∧ report.state ≠ .leakDetected then
    ["OIC-004:leak_state_invalid"] else [])
  ++ (if report.state = .cleanNoncanonical ∧ (¬ report.allRegisteredSurfacesScanned ∨
      report.uncreatedSurfaceIds ≠ [] ∨ report.missingObservationSurfaceIds ≠ [] ∨
        report.unknownObservationSurfaceIds ≠ []) then
    ["OIC-005:false_clean_claim"] else [])
  ++ (if report.mutationAdequacyValidated ∨ report.workerBoundaryValidated ∨
      report.canonicalQualification ∨ report.canaryValueIncluded ∨ report.externalEffects then
    ["OIC-006:qualification_or_authority_overclaim"] else [])
  ++ if report.ShowsVariant z sealedCanary then ["OIC-007:canary_value_leaked_in_report"] else []

/-! ## What a clean report is about -/

section
variable (z : Compressors) (canary : String) (r : OperatingSurfaceRegistry)
  (observations : List SurfaceObservation)

/-- Every surface is created and observed, and every observation is of a registered one. -/
structure SurfacesCovered : Prop where
  created : ∀ surface ∈ r.surfaces, surface.state ≠ "not_created"
  observed : ∀ surface ∈ r.surfaces, ∃ o ∈ observations, o.surfaceId = surface.surfaceId
  registered : ∀ o ∈ observations, o.surfaceId ∈ r.known

/-- What a clean report says: the canary was looked for everywhere, and is nowhere. -/
structure Contained : Prop extends SurfacesCovered r observations where
  absent : ∀ o ∈ observations, ∃ channels, checkerChannels o = .ok channels ∧
    ∀ channel ∈ channels, ∀ v ∈ checkerVariants z canary, ¬ v.2 <:+: channel.2

/-- The checker accepts a clean report only if what it says is so. -/
def CheckerSound : Prop :=
  ∀ report, independentlyValidateCanaryReport z r observations report canary = .ok [] →
    report.state = .cleanNoncanonical → Contained z canary r observations

/-- An encoding of the canary is in a registered surface. -/
def ShowsRegistered : Prop :=
  ∃ o ∈ observations, o.surfaceId ∈ r.known ∧ ∃ channels, checkerChannels o = .ok channels ∧
    ∃ channel ∈ channels, ∃ v ∈ checkerVariants z canary, v.2 <:+: channel.2

end

/-- A report of a clean scan that lists no surface but the observed ones. -/
def cleanReport (r : OperatingSurfaceRegistry) (reportId commitment : String)
    (observedIds : List String) : CanaryScanReport where
  reportId
  scannerRevision := canaryScannerRevision
  registryHash := r.registryHash
  protectedCanaryCommitment := commitment
  state := .cleanNoncanonical
  observedSurfaceIds := observedIds
  uncreatedSurfaceIds := []
  missingObservationSurfaceIds := []
  unknownObservationSurfaceIds := []
  hits := []
  allRegisteredSurfacesScanned := true
  mutationAdequacyValidated := false
  workerBoundaryValidated := false
  canonicalQualification := false
  canaryValueIncluded := false
  externalEffects := false

/-- What the checker asks of a clean report. -/
structure AcceptsClean (z : Compressors) (canary : String) (r : OperatingSurfaceRegistry)
    (observations : List SurfaceObservation) (report : CanaryScanReport) : Prop where
  registry : validateOperatingSurfaceRegistry r = []
  hits : expectedHits z r observations canary = .ok ∅
  form : report = cleanReport r report.reportId report.protectedCanaryCommitment
    report.observedSurfaceIds
  hidden : ¬ report.ShowsVariant z canary

section
variable {z : Compressors} {canary : String} {r : OperatingSurfaceRegistry}
  {observations : List SurfaceObservation} {report : CanaryScanReport}

/-- The checker accepts a clean report where its checks pass. -/
theorem checker_accepts_clean_iff (hclean : report.state = .cleanNoncanonical) :
    independentlyValidateCanaryReport z r observations report canary = .ok [] ↔
      AcceptsClean z canary r observations report := by
  have hne : report.state ≠ .leakDetected := by
    rw [hclean]
    decide
  unfold independentlyValidateCanaryReport
  simp only [except_bind_eq_ok, pure_eq_ok, Except.ok.injEq, List.append_eq_nil_iff,
    ite_eq_right_iff, List.cons_ne_nil, imp_false, not_not, not_and, not_or, hclean, true_imp_iff]
  constructor
  · rintro ⟨expected, hexpected,
      ⟨⟨⟨⟨⟨⟨hregistry, hrevision⟩, hhash⟩, hhits⟩, hnone⟩, hlists⟩, hflags⟩, hhidden⟩
    have hnone : report.hits = [] := by
      by_contra hsome
      cases hnone hsome
    rw [hnone] at hhits
    refine ⟨hregistry, hexpected.trans (congrArg Except.ok hhits), ?_, hhidden⟩
    obtain ⟨hscanned, huncreated, hmissing, hunknown⟩ := hlists
    obtain ⟨hmutation, hworker, hcanonical, hincluded, heffects⟩ := hflags
    rw [Bool.not_eq_true] at hmutation hworker hcanonical hincluded heffects
    cases report
    simp only [cleanReport] at *
    subst_vars
    rfl
  · rintro ⟨hregistry, hhits, hform, hhidden⟩
    rw [hform]
    refine ⟨∅, hhits, ⟨⟨⟨⟨⟨⟨hregistry, rfl⟩, rfl⟩, rfl⟩, fun h => absurd rfl h⟩, ?_⟩, ?_⟩,
      hform ▸ hhidden⟩
    · simp [cleanReport]
    · simp [cleanReport]

/-- The checker expects what the scan would find with the checker's encodings. -/
theorem expectedHits_eq : expectedHits z r observations canary =
    (sortedHits r observations (checkerVariants z canary)).map List.toFinset := by
  have hpass : checkerHits z canary = observationHits (checkerVariants z canary) := rfl
  unfold expectedHits sortedHits
  rw [hpass]
  cases (observations.filter fun o => o.surfaceId ∈ r.known).mapM
      (observationHits (checkerVariants z canary)) with
  | error e => rfl
  | ok parts =>
    refine congrArg Except.ok (Finset.ext fun hit => ?_)
    rw [List.mem_toFinset, List.mem_toFinset, (List.perm_insertionSort _ _).mem_iff, List.mem_dedup]

/-- The checker expects no hit where it can read all names, and finds no encoding. -/
theorem expectedHits_eq_empty :
    expectedHits z r observations canary = .ok ∅ ↔ NamesEncodable r observations ∧
      ∀ o ∈ observations, o.surfaceId ∈ r.known → ∀ channels, checkerChannels o = .ok channels →
        ∀ channel ∈ channels, ∀ v ∈ checkerVariants z canary, v.2 ≠ [] → ¬ v.2 <:+: channel.2 := by
  have hchannels : checkerChannels = channelBytes := rfl
  rw [expectedHits_eq, hchannels]
  constructor
  · intro h
    cases hhits : sortedHits r observations (checkerVariants z canary) with
    | error e =>
      rw [hhits] at h
      cases h
    | ok hits =>
      rw [hhits] at h
      have hnil : hits = [] := (List.toFinset_eq_empty_iff hits).1 (Except.ok.inj h)
      refine ⟨returns_sortedHits.1 ⟨hits, hhits⟩, fun o ho hknown channels hread channel hmem v hv
        hne hoccurs => ?_⟩
      exact (sortedHits_ne_nil hhits).2 ⟨o, ho, hknown, channels, hread, channel, hmem, v, hv, hne,
        hoccurs⟩ hnil
  · rintro ⟨hnames, habsent⟩
    obtain ⟨hits, hhits⟩ := (@returns_sortedHits r observations (checkerVariants z canary)).2 hnames
    have hnil : hits = [] := by
      by_contra hne
      obtain ⟨o, ho, hknown, channels, hread, channel, hmem, v, hv, hnonempty, hoccurs⟩ :=
        (sortedHits_ne_nil hhits).1 hne
      exact habsent o ho hknown channels hread channel hmem v hv hnonempty hoccurs
    rw [hhits, hnil]
    rfl

/-- Pairs of units are not nothing. -/
theorem flatMap_pair_ne_nil {units : List Nat} {f g : Nat → Nat} (h : units ≠ []) :
    (units.flatMap fun u => [f u, g u]) ≠ [] := by
  cases units with
  | nil => exact absurd rfl h
  | cons u units => simp

/-- No encoding of a canary is empty. -/
theorem IsCanary.checkerVariants_ne_nil (hc : IsCanary canary)
    (hz : ∀ data, z.gzip data ≠ [] ∧ z.zlib data ≠ []) :
    ∀ v ∈ checkerVariants z canary, v.2 ≠ [] := by
  obtain ⟨rest, hrest⟩ := hc.first
  obtain ⟨b, raw, hraw⟩ := List.exists_cons_of_ne_nil hc.utf8_ne_nil
  have hlower : utf8 (String.ofList (canary.toList.map Char.toLower)) ≠ [] := by
    rw [utf8_ofList, hrest, List.map_cons, List.flatMap_cons,
      show String.utf8EncodeChar 'L'.toLower = [108] by decide]
    simp
  have hbase64 (plus slash : Char) : base64Encode plus slash (utf8 canary) ≠ [] := by
    rw [hraw]
    match raw with
    | [] | [_] | _ :: _ :: _ => simp [base64Encode]
  have hescaped : canary.toList.flatMap Json.escapeChar ≠ [] := by
    rw [hrest, List.flatMap_cons, show Json.escapeChar 'L' = ['L'] by decide]
    simp
  have hpercent : percentEncode (utf8 canary) ≠ [] := by
    rw [hraw, percentEncode, List.flatMap_cons]
    split <;> simp
  have hunits : canary.toList.flatMap utf16Units ≠ [] := by
    rw [hrest, List.flatMap_cons, show utf16Units 'L' = [76] by decide]
    simp
  have hhex : hexOf (utf8 canary) ≠ [] := by
    rw [hraw, hexOf, List.flatMap_cons]
    simp
  intro v hv
  simp only [checkerVariants, List.mem_cons, List.not_mem_nil, or_false] at hv
  rcases hv with rfl | rfl | rfl | rfl | rfl | rfl | rfl | rfl | rfl | rfl | rfl | rfl
  · exact hc.utf8_ne_nil
  · exact hlower
  · simpa [asciiCodes] using hhex
  · simpa [asciiCodes] using hhex
  · simpa [asciiCodes] using hbase64 '+' '/'
  · simpa [asciiCodes] using hbase64 '-' '_'
  · simpa only [asciiCodes, ne_eq, List.map_eq_nil_iff] using hescaped
  · simpa only [asciiCodes, ne_eq, List.map_eq_nil_iff] using hpercent
  · exact flatMap_pair_ne_nil hunits
  · exact flatMap_pair_ne_nil hunits
  · exact (hz _).1
  · exact (hz _).2

/-- The checker expects no hit where it can read all names, and no encoding that it looks for is
in a registered surface. -/
theorem IsCanary.expectedHits_eq_empty_iff (hc : IsCanary canary)
    (hz : ∀ data, z.gzip data ≠ [] ∧ z.zlib data ≠ []) :
    expectedHits z r observations canary = .ok ∅ ↔
      NamesEncodable r observations ∧ ¬ ShowsRegistered z canary r observations := by
  rw [expectedHits_eq_empty]
  refine and_congr_right fun _ => ?_
  constructor
  · rintro h ⟨o, ho, hknown, channels, hread, channel, hchannel, v, hv, hfound⟩
    exact h o ho hknown channels hread channel hchannel v hv (hc.checkerVariants_ne_nil hz v hv)
      hfound
  · intro h o ho hknown channels hread channel hchannel v hv _ hfound
    exact h ⟨o, ho, hknown, channels, hread, channel, hchannel, v, hv, hfound⟩

/-- **When the checker can be trusted.** A clean report that it accepts says what is so, for every
report, exactly when all is covered anyway, or no clean report is accepted at all. -/
theorem IsCanary.checkerSound_iff (hc : IsCanary canary)
    (hz : ∀ data, z.gzip data ≠ [] ∧ z.zlib data ≠ []) :
    CheckerSound z canary r observations ↔
      SurfacesCovered r observations ∨ validateOperatingSurfaceRegistry r ≠ [] ∨
        ¬ NamesEncodable r observations ∨ ShowsRegistered z canary r observations ∨
        ∀ reportId commitment observedIds,
          (cleanReport r reportId commitment observedIds).ShowsVariant z canary := by
  constructor
  · intro hsound
    by_contra hnone
    simp only [not_or, not_forall, not_not] at hnone
    obtain ⟨huncovered, hregistry, hnames, hshows, reportId, commitment, observedIds, hhidden⟩ :=
      hnone
    have haccepts : AcceptsClean z canary r observations
        (cleanReport r reportId commitment observedIds) :=
      ⟨hregistry, (hc.expectedHits_eq_empty_iff hz).2 ⟨hnames, hshows⟩, rfl, hhidden⟩
    exact huncovered (hsound _ ((checker_accepts_clean_iff rfl).2 haccepts) rfl).toSurfacesCovered
  · intro h report hreport hclean
    have haccepts := (checker_accepts_clean_iff hclean).1 hreport
    obtain ⟨hnames, hshows⟩ := (hc.expectedHits_eq_empty_iff hz).1 haccepts.hits
    rcases h with hcovered | hregistry | hunreadable | hfound | hreports
    · refine ⟨hcovered, fun o ho => ?_⟩
      have hknown := hcovered.registered o ho
      obtain ⟨channels, hread⟩ := returns_channelBytes.2 (hnames o ho hknown)
      exact ⟨channels, hread, fun channel hchannel v hv hfound =>
        hshows ⟨o, ho, hknown, channels, hread, channel, hchannel, v, hv, hfound⟩⟩
    · exact absurd haccepts.registry hregistry
    · exact absurd hnames hunreadable
    · exact absurd hfound hshows
    · exact absurd (haccepts.form ▸ hreports _ _ _) haccepts.hidden

end

/-- **When a clean report is true.** With a minted canary, every clean report that the checker
accepts says what is so exactly when all surfaces are covered, or the registry is not valid, or a
name cannot be encoded, or an encoding of the canary is in a registered surface, or stands in every
clean report. -/
theorem checker_sound_iff (z : Compressors) (hz : ∀ data, z.gzip data ≠ [] ∧ z.zlib data ≠ [])
    {sealedKey : List UInt8} {runNonce canary : String}
    (hmint : mintSealedCanary sealedKey runNonce = .ok canary) (r : OperatingSurfaceRegistry)
    (observations : List SurfaceObservation) :
    CheckerSound z canary r observations ↔
      SurfacesCovered r observations ∨ validateOperatingSurfaceRegistry r ≠ [] ∨
        ¬ NamesEncodable r observations ∨ ShowsRegistered z canary r observations ∨
        ∀ reportId commitment observedIds,
          (cleanReport r reportId commitment observedIds).ShowsVariant z canary :=
  (isCanary_of_mint hmint).checkerSound_iff hz

/-- The compressors of the fixture leave something. -/
theorem fixtureCompressors_ne_nil (data : List Nat) :
    fixtureCompressors.gzip data ≠ [] ∧ fixtureCompressors.zlib data ≠ [] :=
  ⟨List.cons_ne_nil _ _, List.cons_ne_nil _ _⟩

/-- The registry of surfaces that are not created, without observations. -/
theorem checker_sound_iff_notCreated :
    CheckerSound fixtureCompressors fixtureCanary (buildOperatingSurfaceRegistry "not_created") [] ↔
      SurfacesCovered (buildOperatingSurfaceRegistry "not_created") [] ∨
        validateOperatingSurfaceRegistry (buildOperatingSurfaceRegistry "not_created") ≠ [] ∨
        ¬ NamesEncodable (buildOperatingSurfaceRegistry "not_created") [] ∨
        ShowsRegistered fixtureCompressors fixtureCanary
          (buildOperatingSurfaceRegistry "not_created") [] ∨
        ∀ reportId commitment observedIds,
          (cleanReport (buildOperatingSurfaceRegistry "not_created") reportId commitment
            observedIds).ShowsVariant fixtureCompressors fixtureCanary :=
  checker_sound_iff fixtureCompressors fixtureCompressors_ne_nil fixtureCanary_minted _ _

/-- The hash of this registry. -/
theorem registryHash_notCreated :
    (buildOperatingSurfaceRegistry "not_created").registryHash =
      "dc83bd3377a8328982fd5fb88970e4950d6d78194c43827730b75dfced772cf4" := by
  unfold OperatingSurfaceRegistry.registryHash
  exact Json.digest_eq_of_spells (by repeat' constructor) (by decide +kernel)

/-- A search of the spelled report for the encodings. -/
theorem not_showsVariant_of_spells {z : Compressors} {canary : String} {report : CanaryScanReport}
    {t : Json.Spelling} (h : Json.Spells report.toJson t)
    (hnot : ∀ v ∈ checkerVariants z canary, asciiText v.2 ≠ [] →
      Occurs.found (asciiCodes (asciiText v.2)) (asciiCodes t.text) = false) :
    ¬ report.ShowsVariant z canary := by
  rintro ⟨v, hv, hne, hfound⟩
  rw [Json.canonicalJson_eq_of_spells h, String.toList_ofList] at hfound
  have htrue := Occurs.found_of_infix (hfound.map Char.toNat)
  exact Bool.false_ne_true ((hnot v hv hne).symm.trans htrue)

/-- A clean report about the registry that has no created surface. -/
def reportOfNotCreated : CanaryScanReport :=
  cleanReport (buildOperatingSurfaceRegistry "not_created") "CANARY-SCAN-000000000000000000" "" []

/-- **A false clean report that the checker accepts.** No surface is created and none observed. -/
theorem checker_accepts_notCreated :
    mintSealedCanary fixtureKey "oracle-isolation-fixture" = .ok fixtureCanary ∧
      independentlyValidateCanaryReport fixtureCompressors
        (buildOperatingSurfaceRegistry "not_created") [] reportOfNotCreated fixtureCanary =
          .ok [] ∧
      reportOfNotCreated.state = .cleanNoncanonical ∧
      ¬ Contained fixtureCompressors fixtureCanary
        (buildOperatingSurfaceRegistry "not_created") [] := by
  refine ⟨fixtureCanary_minted, (checker_accepts_clean_iff rfl).2 ⟨?_, rfl, rfl, ?_⟩, rfl, ?_⟩
  · decide +kernel
  · apply not_showsVariant_of_spells
    · unfold reportOfNotCreated cleanReport CanaryScanReport.toJson
      simp only [registryHash_notCreated, canaryScannerRevision, ScanState.text]
      repeat' constructor
    · simp only [checkerVariants, utf8_eq_flatMap, String.toList_ofList]
      decide +kernel
  · intro hcontained
    exact hcontained.created _ (.head _) rfl

end LawFirmDigitalTwin
