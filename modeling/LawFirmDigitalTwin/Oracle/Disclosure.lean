import LawFirmDigitalTwin.Oracle.Completeness
import LawFirmDigitalTwin.Spelling

/-!
# What a scan report tells of the canary

A canary is a word of plain characters without separators, so it occurs in a canonical JSON text
exactly where one of the keys and strings of the value holds it (`IsCanary.infix_canonicalJson`).
A scan report hashes names, contents and metadata, and repeats the surface ids of the observations
as they are, also of those that are not registered. There is a report where the names that are
scanned can be encoded.
-/

namespace LawFirmDigitalTwin

open Raising

mutual

/-- A key or a string of the value holds the canary. -/
def Json.Holds (canary : String) : Json → Prop
  | .null | .bool _ | .int _ => False
  | .float repr => HoldsCanary canary repr
  | .str s => HoldsCanary canary s
  | .list items => Json.HoldsItem canary items
  | .dict entries => Json.HoldsEntry canary entries

def Json.HoldsItem (canary : String) : List Json → Prop
  | [] => False
  | v :: rest => v.Holds canary ∨ Json.HoldsItem canary rest

def Json.HoldsEntry (canary : String) : List (String × Json) → Prop
  | [] => False
  | (key, v) :: rest => (HoldsCanary canary key ∨ v.Holds canary) ∨ Json.HoldsEntry canary rest

end

section
variable {canary : String}

/-- Some items hold the canary where one of them does. -/
theorem Json.holdsItem_iff {items : List Json} :
    Json.HoldsItem canary items ↔ ∃ v ∈ items, v.Holds canary := by
  induction items with
  | nil => simp [Json.HoldsItem]
  | cons v items ih => simp [Json.HoldsItem, ih]

/-- Some entries hold the canary where a name or a value does. -/
theorem Json.holdsEntry_iff {entries : List (String × Json)} :
    Json.HoldsEntry canary entries ↔
      ∃ e ∈ entries, HoldsCanary canary e.1 ∨ e.2.Holds canary := by
  induction entries with
  | nil => simp [Json.HoldsEntry]
  | cons e entries ih => simp only [Json.HoldsEntry, ih, List.mem_cons, exists_eq_or_imp]

/-- A list of texts holds the canary where one of them does. -/
theorem Json.holds_strs {items : List String} :
    (Json.strs items).Holds canary ↔ ∃ s ∈ items, HoldsCanary canary s := by
  rw [Json.strs, Json.Holds, Json.holdsItem_iff]
  simp [Json.Holds]

mutual

/-- The order of the entries does not matter. -/
theorem Json.holds_canonicalize (v : Json) : v.canonicalize.Holds canary ↔ v.Holds canary := by
  cases v with
  | null | bool | int | float | str => rfl
  | list items =>
    rw [Json.canonicalize, Json.Holds, Json.Holds, Json.holdsItem_canonicalize items]
  | dict entries =>
    rw [Json.canonicalize, Json.Holds, Json.Holds, ← Json.holdsEntry_canonicalize entries,
      Json.holdsEntry_iff, Json.holdsEntry_iff]
    simp only [(List.perm_insertionSort _ _).mem_iff]

/-- Canonicalizing items keeps whether they hold the canary. -/
theorem Json.holdsItem_canonicalize (items : List Json) :
    Json.HoldsItem canary (Json.canonicalizeItems items) ↔ Json.HoldsItem canary items := by
  cases items with
  | nil => rfl
  | cons v items =>
    rw [Json.canonicalizeItems, Json.HoldsItem, Json.HoldsItem, Json.holds_canonicalize v,
      Json.holdsItem_canonicalize items]

/-- Canonicalizing entries keeps whether they hold the canary. -/
theorem Json.holdsEntry_canonicalize (entries : List (String × Json)) :
    Json.HoldsEntry canary (Json.canonicalizeEntries entries) ↔ Json.HoldsEntry canary entries := by
  cases entries with
  | nil => rfl
  | cons e entries =>
    rw [Json.canonicalizeEntries, Json.HoldsEntry, Json.HoldsEntry, Json.holds_canonicalize e.2,
      Json.holdsEntry_canonicalize entries]

end

/-! ## The canary in a JSON text -/

section
variable (hc : IsCanary canary)
include hc

/-- A text without the first letter of a canary does not hold it. -/
theorem IsCanary.not_infix {text : List Char} (h : 'L' ∉ text) : ¬ canary.toList <:+: text := by
  intro hholds
  obtain ⟨rest, hrest⟩ := hc.first
  exact h (hholds.subset (hrest ▸ .head _))

/-- No bracket is a letter of a canary. -/
theorem IsCanary.bracket {x : Char} (hx : x = '[' ∨ x = ']') : x ∉ canary.toList := by
  intro hmem
  have hnot : '[' ∉ canaryAlphabet ∧ ']' ∉ canaryAlphabet := by decide
  rcases hx with rfl | rfl
  · exact hnot.1 (hc.alphabet _ hmem)
  · exact hnot.2 (hc.alphabet _ hmem)

/-- A text in brackets holds the canary exactly where the text does. -/
theorem IsCanary.infix_enclosed {left right : Char} (text : List Char)
    (hleft : left ∉ canary.toList) (hright : right ∉ canary.toList) :
    canary.toList <:+: left :: text ++ [right] ↔ canary.toList <:+: text := by
  have hopen : canary.toList <:+: left :: text ++ [right] ↔
      canary.toList <:+: [] ++ left :: (text ++ [right]) := Iff.rfl
  rw [hopen, Occurs.infix_append_cons_iff hleft, Occurs.infix_append_cons_iff hright]
  simp only [hc.not_infix_nil, false_or, or_false]

/-- The canary stands in a literal where it stands in the text. -/
theorem IsCanary.infix_quoted_iff (text : String) :
    canary.toList <:+: Json.quoted text ↔ HoldsCanary canary text := by
  have hquote : Char.ofNat 34 ∉ canary.toList := hc.separator (by simp)
  have hescape : canary.toList.flatMap Json.escapeChar <:+: text.toList.flatMap Json.escapeChar ↔
      canary.toList <:+: text.toList := hc.plain_escape.infix_iff
  rw [hc.plain_escape.flatMap, List.map_id] at hescape
  rw [Json.quoted, hc.infix_enclosed _ hquote hquote, hescape, HoldsCanary]

/-- The canary does not stand in a number. -/
theorem IsCanary.not_infix_int (i : Int) : ¬ canary.toList <:+: (toString i).toList := by
  refine hc.not_infix fun hmem => ?_
  have hnat (n : Nat) : 'L' ∉ n.repr.toList := by
    intro hmem
    rw [Nat.repr, String.toList_ofList] at hmem
    exact absurd (Nat.isDigit_of_mem_toDigits (by decide) (by decide) hmem) (by decide)
  cases i with
  | ofNat n => exact hnat n hmem
  | negSucc n =>
    have hneg : (toString (Int.negSucc n)).toList = '-' :: (n + 1).repr.toList := by
      rw [show toString (Int.negSucc n) = "-" ++ (n + 1).repr from rfl, String.toList_append]
      rfl
    rw [hneg, List.mem_cons] at hmem
    exact hmem.elim (by decide) (hnat _)

mutual

/-- **The canary occurs in a JSON text exactly where a key or a string of the value holds it.** -/
theorem IsCanary.infix_dumps (v : Json) : canary.toList <:+: v.dumps ↔ v.Holds canary := by
  cases v with
  | null => exact iff_of_false (hc.not_infix (by decide)) id
  | bool b =>
    refine iff_of_false (hc.not_infix ?_) id
    cases b <;> decide
  | int i => exact iff_of_false (hc.not_infix_int i) id
  | float repr => rfl
  | str s => exact hc.infix_quoted_iff s
  | list items =>
    rw [Json.dumps, hc.infix_enclosed _ (hc.bracket (.inl rfl)) (hc.bracket (.inr rfl)), Json.Holds]
    exact IsCanary.infix_dumpsItems items
  | dict entries =>
    rw [Json.dumps, hc.infix_enclosed _ (hc.separator (by simp)) (hc.separator (by simp)),
      Json.Holds]
    exact IsCanary.infix_dumpsEntry entries

/-- The canary stands in the text of items where they hold it. -/
theorem IsCanary.infix_dumpsItems (items : List Json) :
    canary.toList <:+: Json.dumpsItems items ↔ Json.HoldsItem canary items := by
  match items with
  | [] => exact iff_of_false hc.not_infix_nil id
  | [v] =>
    rw [Json.dumpsItems, Json.HoldsItem, IsCanary.infix_dumps v]
    exact (or_iff_left id).symm
  | v :: w :: rest =>
    rw [Json.dumpsItems, Occurs.infix_append_cons_iff (hc.separator (by simp)), Json.HoldsItem,
      IsCanary.infix_dumps v, IsCanary.infix_dumpsItems (w :: rest)]
    simp

/-- The canary stands in the text of entries where they hold it. -/
theorem IsCanary.infix_dumpsEntry (entries : List (String × Json)) :
    canary.toList <:+: Json.dumpsEntries entries ↔ Json.HoldsEntry canary entries := by
  match entries with
  | [] => exact iff_of_false hc.not_infix_nil id
  | [(key, v)] =>
    rw [Json.dumpsEntries, Occurs.infix_append_cons_iff (hc.separator (by simp)), Json.HoldsEntry,
      hc.infix_quoted_iff, IsCanary.infix_dumps v]
    exact (or_iff_left id).symm
  | (key, v) :: e :: rest =>
    rw [Json.dumpsEntries, Occurs.infix_append_cons_iff (hc.separator (by simp)),
      Occurs.infix_append_cons_iff (hc.separator (by simp)), Json.HoldsEntry, hc.infix_quoted_iff,
      IsCanary.infix_dumps v, IsCanary.infix_dumpsEntry (e :: rest)]
    simp

end

/-- The canary stands in the text of a value where the value holds it. -/
theorem IsCanary.infix_canonicalJson (v : Json) :
    HoldsCanary canary (canonicalJson v) ↔ v.Holds canary := by
  rw [HoldsCanary, canonicalJson, String.toList_ofList, hc.infix_dumps, Json.holds_canonicalize]

end

end

/-! ## The report -/

/-- `CanaryScanReport`, as `canonicalize` sees it. -/
def CanaryScanReport.toJson (report : CanaryScanReport) : Json :=
  .dict [
    ("report_id", .str report.reportId),
    ("scanner_revision", .str report.scannerRevision),
    ("registry_hash", .str report.registryHash),
    ("protected_canary_commitment", .str report.protectedCanaryCommitment),
    ("state", .str report.state.text),
    ("observed_surface_ids", .strs report.observedSurfaceIds),
    ("uncreated_surface_ids", .strs report.uncreatedSurfaceIds),
    ("missing_observation_surface_ids", .strs report.missingObservationSurfaceIds),
    ("unknown_observation_surface_ids", .strs report.unknownObservationSurfaceIds),
    ("hits", .list (report.hits.map CanaryHit.toJson)),
    ("all_registered_surfaces_scanned", .bool report.allRegisteredSurfacesScanned),
    ("mutation_adequacy_validated", .bool report.mutationAdequacyValidated),
    ("worker_boundary_validated", .bool report.workerBoundaryValidated),
    ("canonical_qualification", .bool report.canonicalQualification),
    ("canary_value_included", .bool report.canaryValueIncluded),
    ("external_effects", .bool report.externalEffects)]

/-- The report has the canary in its canonical JSON. -/
def CanaryScanReport.Discloses (report : CanaryScanReport) (canary : String) : Prop :=
  HoldsCanary canary (canonicalJson report.toJson)

/-- There is no `L` in a hash. -/
theorem not_L_of_mem_hexdigest {message : List Nat} : 'L' ∉ Sha256.hexdigest message := by
  intro hmem
  obtain ⟨n, hn, h⟩ := Sha256.mem_hexdigest hmem
  exact hexDigit_ne_L n hn h.symm

/-- There is no `L` in a digest. -/
theorem not_L_digest (v : Json) : 'L' ∉ (digest v).toList := by
  intro hmem
  obtain ⟨n, hn, h⟩ := hex_of_mem_digest hmem
  exact hexDigit_ne_L n hn h.symm

/-- There is no `L` in the id of a variant. -/
theorem not_L_variantId {z : Compressors} {canary : String} {variants : List (String × List Nat)}
    (hvariants : canaryVariants z canary = .ok variants) {v : String × List Nat}
    (hv : v ∈ variants) : 'L' ∉ v.1.toList := by
  unfold canaryVariants at hvariants
  cases hdecoded : asciiDecode (utf8 canary) with
  | error e =>
    simp only [hdecoded] at hvariants
    cases hvariants
  | ok decoded =>
    simp only [hdecoded] at hvariants
    rw [← Except.ok.inj hvariants] at hv
    have hmem := List.mem_map_of_mem (f := (·.1)) hv
    simp only [List.map_cons, List.map_nil, List.mem_cons, List.not_mem_nil, or_false] at hmem
    rcases hmem with h | h | h | h | h | h | h | h | h | h | h | h <;> simp [h]

/-- There is no `L` in a report id. -/
theorem not_L_reportId (v : Json) : 'L' ∉ ("CANARY-SCAN-" ++ firstChars 18 (digest v)).toList := by
  rw [String.toList_append, List.mem_append, firstChars]
  rintro (h | h)
  · exact absurd h (by simp)
  · rw [String.toList_ofList] at h
    exact not_L_digest v (List.mem_of_mem_take h)

/-- There is no `L` in a keyed hash. -/
theorem not_L_hmacHexdigest {key message : List Nat} :
    'L' ∉ Sha256.hmacHexdigest key message := by
  unfold Sha256.hmacHexdigest
  exact not_L_of_mem_hexdigest

section
variable {z : Compressors} {canary : String} {variants : List (String × List Nat)}
  {r : OperatingSurfaceRegistry} {observations : List SurfaceObservation}

/-- There is a report where the names that are scanned can be encoded. -/
theorem returns_scan (hvariants : canaryVariants z canary = .ok variants) :
    Returns (scanCanaryContainment z r observations canary) ↔ NamesEncodable r observations := by
  unfold scanCanaryContainment
  rw [hvariants]
  simp only [ok_bind]
  rw [returns_bind_of_forall fun _ => returns_pure _, returns_sortedHits]

/-- What the lists and the hashes of a scan report are. -/
theorem scan_lists {report : CanaryScanReport}
    (hvariants : canaryVariants z canary = .ok variants)
    (h : scanCanaryContainment z r observations canary = .ok report) :
    report.canaryValueIncluded = false ∧
      (∃ v, report.reportId = "CANARY-SCAN-" ++ firstChars 18 (digest v)) ∧
      report.scannerRevision = canaryScannerRevision ∧ report.registryHash = r.registryHash ∧
      report.protectedCanaryCommitment = String.ofList (Sha256.hmacHexdigest
        (utf8 "lfdt-protected-evaluation-commitment-v1") (utf8 canary)) ∧
      (∀ s, s ∈ report.observedSurfaceIds ↔ ∃ o ∈ observations, o.surfaceId = s) ∧
      (∀ s ∈ report.uncreatedSurfaceIds, ∃ surface ∈ r.surfaces, surface.surfaceId = s) ∧
      (∀ s ∈ report.missingObservationSurfaceIds, ∃ surface ∈ r.surfaces, surface.surfaceId = s) ∧
      (∀ s ∈ report.unknownObservationSurfaceIds, ∃ o ∈ observations, o.surfaceId = s) ∧
      sortedHits r observations variants = .ok report.hits := by
  unfold scanCanaryContainment at h
  rw [hvariants] at h
  simp only [ok_bind] at h
  obtain ⟨hits, hhits, h⟩ := except_bind_eq_ok.1 h
  obtain rfl := Except.ok.inj h
  refine ⟨rfl, ⟨_, rfl⟩, rfl, rfl, rfl, fun s => ?_, fun s hs => ?_, fun s hs => ?_,
    fun s hs => ?_, hhits⟩
  · rw [mem_sorted, List.mem_toFinset, List.mem_map]
  · rw [(List.perm_insertionSort _ _).mem_iff] at hs
    obtain ⟨surface, hsurface, h⟩ := List.mem_map.1 hs
    exact ⟨surface, List.mem_of_mem_filter hsurface, h⟩
  · rw [mem_sorted, Finset.mem_sdiff, List.mem_toFinset] at hs
    obtain ⟨surface, hsurface, h⟩ := List.mem_map.1 hs.1
    exact ⟨surface, List.mem_of_mem_filter hsurface, h⟩
  · rw [mem_sorted, Finset.mem_sdiff, List.mem_toFinset] at hs
    exact List.mem_map.1 hs.1

end

section
variable {canary : String} (hc : IsCanary canary)
include hc

/-- With keys that have no `L`, a dictionary holds the canary in a value only. -/
theorem IsCanary.holds_dict {entries : List (String × Json)} (keys : List String)
    (hkeys : entries.map (·.1) = keys) (hnot : ∀ key ∈ keys, 'L' ∉ key.toList) :
    (Json.dict entries).Holds canary ↔ ∃ v ∈ entries.map (·.2), v.Holds canary := by
  rw [Json.Holds, Json.holdsEntry_iff]
  simp only [List.mem_map, exists_exists_and_eq_and]
  refine exists_congr fun e => and_congr_right fun he => or_iff_right ?_
  exact hc.not_infix (hnot e.1 (hkeys ▸ List.mem_map_of_mem he))

/-- A hit holds the canary only in the id of its surface. -/
theorem IsCanary.holds_hit (h : CanaryHit) (hchannel : 'L' ∉ h.channel.toList)
    (hvariant : 'L' ∉ h.variantId.toList) (hcommitment : 'L' ∉ h.observationCommitment.toList) :
    h.toJson.Holds canary ↔ HoldsCanary canary h.surfaceId := by
  rw [CanaryHit.toJson, hc.holds_dict ["surface_id", "observation_commitment", "channel",
    "variant_id"] rfl (by simp)]
  have h1 : ¬ HoldsCanary canary h.channel := hc.not_infix hchannel
  have h2 : ¬ HoldsCanary canary h.variantId := hc.not_infix hvariant
  have h3 : ¬ HoldsCanary canary h.observationCommitment := hc.not_infix hcommitment
  simp [Json.Holds, h1, h2, h3]

/-- A hit has nothing of the canary but what its surface id has. -/
theorem IsCanary.holds_sortedHit {z : Compressors} {variants : List (String × List Nat)}
    (hvariants : canaryVariants z canary = .ok variants) {r : OperatingSurfaceRegistry}
    {observations : List SurfaceObservation} {hits : List CanaryHit}
    (hhits : sortedHits r observations variants = .ok hits) {hit : CanaryHit}
    (hhit : hit ∈ hits) (hholds : hit.toJson.Holds canary) :
    ∃ o ∈ observations, HoldsCanary canary o.surfaceId := by
  rw [mem_sortedHits hhits] at hhit
  obtain ⟨o, ho, -, found, hfound, hhit⟩ := hhit
  obtain ⟨channels, commitment, hchannels, hcommitment, rfl⟩ := observationHits_eq_ok.1 hfound
  obtain ⟨channel, hchannel, hhit⟩ := List.mem_flatMap.1 hhit
  obtain ⟨v, hv, hsome⟩ := List.mem_filterMap.1 hhit
  have hchannelL : 'L' ∉ channel.1.toList := by
    obtain ⟨name, -, hmade⟩ := except_bind_eq_ok.1 hchannels
    obtain rfl := Except.ok.inj hmade
    have hmem := List.mem_map_of_mem (f := (·.1)) hchannel
    simp only [List.map_cons, List.map_nil, List.mem_cons, List.not_mem_nil, or_false] at hmem
    rcases hmem with h | h | h <;> rw [h] <;> simp
  have hcommitmentL : 'L' ∉ commitment.toList := by
    obtain ⟨name, -, hmade⟩ := except_bind_eq_ok.1 hcommitment
    obtain rfl := Except.ok.inj hmade
    exact not_L_digest _
  have hvariantL : 'L' ∉ v.1.toList := not_L_variantId hvariants hv
  split at hsome
  · obtain rfl := Option.some.inj hsome
    rw [hc.holds_hit _ hchannelL hvariantL hcommitmentL] at hholds
    exact ⟨o, ho, hholds⟩
  · cases hsome

/-- A report without an `L` in its hashes holds the canary in a surface id or in a hit. -/
theorem IsCanary.holds_report (report : CanaryScanReport) (hid : 'L' ∉ report.reportId.toList)
    (hrevision : 'L' ∉ report.scannerRevision.toList)
    (hregistry : 'L' ∉ report.registryHash.toList)
    (hcommitment : 'L' ∉ report.protectedCanaryCommitment.toList) :
    report.toJson.Holds canary ↔
      (∃ s ∈ report.observedSurfaceIds, HoldsCanary canary s) ∨
      (∃ s ∈ report.uncreatedSurfaceIds, HoldsCanary canary s) ∨
      (∃ s ∈ report.missingObservationSurfaceIds, HoldsCanary canary s) ∨
      (∃ s ∈ report.unknownObservationSurfaceIds, HoldsCanary canary s) ∨
      ∃ hit ∈ report.hits, hit.toJson.Holds canary := by
  have hstate : ¬ HoldsCanary canary report.state.text := by
    refine hc.not_infix ?_
    cases report.state <;> simp [ScanState.text]
  have hid : ¬ HoldsCanary canary report.reportId := hc.not_infix hid
  have hrevision : ¬ HoldsCanary canary report.scannerRevision := hc.not_infix hrevision
  have hregistry : ¬ HoldsCanary canary report.registryHash := hc.not_infix hregistry
  have hcommitment : ¬ HoldsCanary canary report.protectedCanaryCommitment :=
    hc.not_infix hcommitment
  rw [CanaryScanReport.toJson, hc.holds_dict _ rfl (by simp)]
  simp only [List.map_cons, List.map_nil, List.mem_cons, List.not_mem_nil, or_false,
    exists_eq_or_imp, exists_eq_left, Json.holds_strs, Json.Holds, Json.holdsItem_iff, hid,
    hrevision, hregistry, hcommitment, hstate, false_or, List.mem_map, exists_exists_and_eq_and]

/-- A registry without the canary has it in no surface id. -/
theorem IsCanary.not_surfaceId {r : OperatingSurfaceRegistry}
    (hr : ¬ HoldsCanary canary (canonicalJson r.toJson)) {surface : OperatingSurfaceSpec}
    (hsurface : surface ∈ r.surfaces) : ¬ HoldsCanary canary surface.surfaceId := by
  intro hholds
  rw [hc.infix_canonicalJson, OperatingSurfaceRegistry.toJson, Json.Holds, Json.holdsEntry_iff] at hr
  refine hr ⟨("surfaces", _), .tail _ (.tail _ (.head _)), .inr ?_⟩
  rw [Json.Holds, Json.holdsItem_iff]
  refine ⟨_, List.mem_map_of_mem hsurface, ?_⟩
  rw [OperatingSurfaceSpec.toJson, Json.Holds, Json.holdsEntry_iff]
  exact ⟨_, .head _, .inr hholds⟩

/-- **What a report discloses.** For a registry without the canary, the canonical JSON of the report
has the canary exactly when the surface id of an observation has it. -/
theorem IsCanary.discloses_iff {z : Compressors} {r : OperatingSurfaceRegistry}
    (hr : ¬ HoldsCanary canary (canonicalJson r.toJson)) {observations : List SurfaceObservation}
    {report : CanaryScanReport}
    (hreport : scanCanaryContainment z r observations canary = .ok report) :
    report.canaryValueIncluded = false ∧
      (report.Discloses canary ↔ ∃ o ∈ observations, HoldsCanary canary o.surfaceId) := by
  obtain ⟨variants, hvariants, -⟩ := hc.variants z
  obtain ⟨hincluded, ⟨v, hid⟩, hrevision, hregistry, hcommitment, hobserved, huncreated, hmissing,
    hunknown, hhits⟩ := scan_lists hvariants hreport
  refine ⟨hincluded, ?_⟩
  have hid : 'L' ∉ report.reportId.toList := hid ▸ not_L_reportId v
  have hrevision : 'L' ∉ report.scannerRevision.toList := by
    rw [hrevision]
    simp [canaryScannerRevision]
  have hregistry : 'L' ∉ report.registryHash.toList := hregistry ▸ not_L_digest _
  have hcommitment : 'L' ∉ report.protectedCanaryCommitment.toList := by
    rw [hcommitment, String.toList_ofList]
    exact not_L_hmacHexdigest
  rw [CanaryScanReport.Discloses, hc.infix_canonicalJson,
    hc.holds_report report hid hrevision hregistry hcommitment]
  constructor
  · rintro (⟨s, hs, hholds⟩ | ⟨s, hs, hholds⟩ | ⟨s, hs, hholds⟩ | ⟨s, hs, hholds⟩ |
      ⟨hit, hhit, hholds⟩)
    · obtain ⟨o, ho, rfl⟩ := (hobserved s).1 hs
      exact ⟨o, ho, hholds⟩
    · obtain ⟨surface, hsurface, rfl⟩ := huncreated s hs
      exact absurd hholds (hc.not_surfaceId hr hsurface)
    · obtain ⟨surface, hsurface, rfl⟩ := hmissing s hs
      exact absurd hholds (hc.not_surfaceId hr hsurface)
    · obtain ⟨o, ho, rfl⟩ := hunknown s hs
      exact ⟨o, ho, hholds⟩
    · exact hc.holds_sortedHit hvariants hhits hhit hholds
  · rintro ⟨o, ho, hholds⟩
    exact .inl ⟨o.surfaceId, (hobserved _).2 ⟨o, ho, rfl⟩, hholds⟩

end

/-- **The report and the canary.** A scan with a minted canary makes a report exactly where the
names that are scanned can be encoded; over a registry that does not have the canary, the report is
without it exactly when no observation has it in its surface id. -/
theorem scan_discloses_iff (z : Compressors) {sealedKey : List UInt8} {runNonce canary : String}
    (hmint : mintSealedCanary sealedKey runNonce = .ok canary) {r : OperatingSurfaceRegistry}
    (hr : ¬ HoldsCanary canary (canonicalJson r.toJson)) (observations : List SurfaceObservation) :
    ((∃ report, scanCanaryContainment z r observations canary = .ok report) ↔
      NamesEncodable r observations) ∧
    ∀ report, scanCanaryContainment z r observations canary = .ok report →
      report.canaryValueIncluded = false ∧
        (¬ report.Discloses canary ↔ ∀ o ∈ observations, ¬ HoldsCanary canary o.surfaceId) := by
  have hc := isCanary_of_mint hmint
  obtain ⟨variants, hvariants, -⟩ := hc.variants z
  refine ⟨returns_scan hvariants, fun report hreport => ?_⟩
  obtain ⟨hincluded, hiff⟩ := hc.discloses_iff hr hreport
  refine ⟨hincluded, ?_⟩
  rw [hiff]
  simp

/-- The registry of the program has no canary. -/
theorem buildRegistry_not_holds :
    ¬ HoldsCanary fixtureCanary
      (canonicalJson (buildOperatingSurfaceRegistry "implemented_noncanonical").toJson) := by
  have hc := isCanary_of_mint fixtureCanary_minted
  have hno (text : String) (h : 'L' ∉ text.toList) : ¬ HoldsCanary fixtureCanary text :=
    hc.not_infix h
  rw [hc.infix_canonicalJson]
  simp [OperatingSurfaceRegistry.toJson, OperatingSurfaceSpec.toJson, buildOperatingSurfaceRegistry,
    requiredOperatingSurfaces, oracleIsolationRevision, Json.Holds, Json.HoldsEntry, Json.HoldsItem,
    hno]

/-- An observation of a surface that is named after the canary. -/
def namedAfterCanary : SurfaceObservation where
  surfaceId := fixtureCanary
  relativeName := .ofText "r"
  content := []

/-- The name of the observation can be encoded. -/
theorem namesEncodable_namedAfterCanary :
    NamesEncodable (buildOperatingSurfaceRegistry "implemented_noncanonical") [namedAfterCanary] :=
  fun _ ho _ => List.mem_singleton.1 ho ▸ PyString.encodable_iff.2 ⟨"r", rfl⟩

/-- A surface that is named after the canary. -/
theorem scan_discloses_iff_namedAfterCanary :
    ((∃ report, scanCanaryContainment fixtureCompressors
        (buildOperatingSurfaceRegistry "implemented_noncanonical") [namedAfterCanary]
          fixtureCanary = .ok report) ↔ NamesEncodable
        (buildOperatingSurfaceRegistry "implemented_noncanonical") [namedAfterCanary]) ∧
    ∀ report, scanCanaryContainment fixtureCompressors
        (buildOperatingSurfaceRegistry "implemented_noncanonical") [namedAfterCanary]
          fixtureCanary = .ok report →
      report.canaryValueIncluded = false ∧
        (¬ report.Discloses fixtureCanary ↔
          ∀ o ∈ [namedAfterCanary], ¬ HoldsCanary fixtureCanary o.surfaceId) :=
  scan_discloses_iff fixtureCompressors fixtureCanary_minted buildRegistry_not_holds _

/-- **A report that discloses the canary.** It lists the surface that is not registered. -/
theorem report_discloses_namedAfterCanary :
    mintSealedCanary fixtureKey "oracle-isolation-fixture" = .ok fixtureCanary ∧
      ¬ HoldsCanary fixtureCanary
        (canonicalJson (buildOperatingSurfaceRegistry "implemented_noncanonical").toJson) ∧
      ∃ report, scanCanaryContainment fixtureCompressors
          (buildOperatingSurfaceRegistry "implemented_noncanonical") [namedAfterCanary]
            fixtureCanary = .ok report ∧ report.Discloses fixtureCanary := by
  have hc := isCanary_of_mint fixtureCanary_minted
  obtain ⟨variants, hvariants, -⟩ := hc.variants fixtureCompressors
  obtain ⟨report, hreport⟩ := (returns_scan hvariants).2 namesEncodable_namedAfterCanary
  obtain ⟨-, hiff⟩ := hc.discloses_iff buildRegistry_not_holds hreport
  exact ⟨fixtureCanary_minted, buildRegistry_not_holds, report, hreport,
    hiff.2 ⟨_, .head _, List.infix_rfl⟩⟩

end LawFirmDigitalTwin
