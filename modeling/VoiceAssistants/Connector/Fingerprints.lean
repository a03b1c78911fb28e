import VoiceAssistants.Connector.SupervisorWiring
import VoiceAssistants.JavaScript.TextOrder

/-!
# Which changes the fingerprint shows

`reconcile()` restarts a tenant when `computeFingerprint` of its configuration has changed, and `createTenantRuntime` of
`run-supervisor.mjs` builds its runtime from the configuration.  The fingerprint reads neither the transfer destinations
nor the profile version; it joins its fields with `|` and the sorted DIDs with `,`, which the fields may hold themselves;
and DIDs that are no array have no fingerprint.

* `reconfiguration_detected_iff` — when a change of what the runtime is built from changes the fingerprint.
-/

namespace VoiceAssistants

open Db (JsonbColumn)
open Broker (TenantDescriptor)

namespace Connector

/-! ## What the runtime is built from -/

/-- A tenant's configuration with every field that is read.  The broker sends no `profileVersion`. -/
structure RuntimeConfig extends TenantDescriptor where
  profileVersion : Option Int

/-- `tenantConfig.profileVersion || 1` -/
def RuntimeConfig.boundVersion (config : RuntimeConfig) : Int :=
  (config.profileVersion.filter (· ≠ 0)).getD 1

/-- The same DIDs, in any order. -/
def SameDids : JsonbColumn → JsonbColumn → Prop
  | .list dids, .list others => dids.Perm others
  | dids, others => dids = others

/-- The runtime is built from the same values. -/
structure SameRuntime (a b : RuntimeConfig) : Prop where
  routePointDn : a.routePointDn = b.routePointDn
  dids : SameDids a.dids b.dids
  transferDestinations : a.transferDestinations = b.transferDestinations
  failureAction : a.failureAction = b.failureAction
  failureDestination : a.failureDestination = b.failureDestination
  profileVersion : a.boundVersion = b.boundVersion
  credentialUpdatedAt : a.credentialUpdatedAt = b.credentialUpdatedAt

/-- The two configurations differ in the order of the DIDs at most. -/
def SameButOrder (a b : RuntimeConfig) : Prop :=
  ∃ dids others : List String, dids.Perm others ∧ a.dids = .list dids ∧
    b = { a with dids := .list others }

/-- A change of what the runtime is built from changes the fingerprint. -/
def Detected (a b : RuntimeConfig) : Prop :=
  ¬ SameRuntime a b → ∃ first second, listedFingerprint a.toTenantDescriptor = .ok first ∧
    listedFingerprint b.toTenantDescriptor = .ok second ∧ first ≠ second

/-! ## What the fingerprint shows -/

/-- The texts that are joined. -/
def fingerprintTexts (config : TenantDescriptor) (dids : List String) : List String :=
  [config.companyId, config.routePointDn, config.pbxHostname, config.appId.getD "", ",".intercalate (jsSort dids),
    config.failureAction.getD "", config.failureDestination.getD "", config.credentialUpdatedAt.getD ""]

/-- These texts, cut at every `|` that they hold. -/
def fieldPieces (config : TenantDescriptor) (dids : List String) : List (List Char) :=
  (fingerprintTexts config dids).flatMap (cut '|')

theorem getD_truthy (value : Option String) : (truthy value).getD "" = value.getD "" := by
  cases value with
  | none => rfl
  | some text =>
      by_cases hempty : text = ""
      · subst hempty
        decide
      · rw [truthy, Option.filter_some_pos (by simpa using hempty)]

/-- The fingerprint is the texts, joined. -/
theorem computeFingerprint_eq (config : TenantDescriptor) (dids : List String) :
    computeFingerprint (tenantConfig config dids) =
      (String.singleton '|').intercalate (fingerprintTexts config dids) := by
  have hhost : ((truthy (some config.pbxHostname)).or none).getD "" = config.pbxHostname := by
    rw [Option.or_none, getD_truthy]
    rfl
  have htexts : (fingerprintTexts config dids) =
      [some config.companyId, some config.routePointDn, (truthy (some config.pbxHostname)).or none, config.appId,
        some (",".intercalate (jsSort dids)), config.failureAction, config.failureDestination,
        truthy config.credentialUpdatedAt].map fun part => part.getD "" := by
    simp only [fingerprintTexts, List.map_cons, List.map_nil, hhost, getD_truthy, Option.getD_some]
  rw [htexts]
  rfl

/-- Two fingerprints are the same exactly if the texts are cut into the same pieces. -/
theorem fingerprints_eq_iff {a b : TenantDescriptor} {didsA didsB : List String} :
    computeFingerprint (tenantConfig a didsA) = computeFingerprint (tenantConfig b didsB) ↔
      fieldPieces a didsA = fieldPieces b didsB := by
  rw [computeFingerprint_eq, computeFingerprint_eq]
  exact join_eq_iff (List.cons_ne_nil _ _) (List.cons_ne_nil _ _)

theorem listedFingerprint_of_array {config : TenantDescriptor} {dids : List String}
    (h : didsArray config.dids = .ok dids) :
    listedFingerprint config = .ok (computeFingerprint (tenantConfig config dids)) := by
  rw [listedFingerprint, h]
  rfl

theorem array_of_listedFingerprint {config : TenantDescriptor} {fingerprint : String}
    (h : listedFingerprint config = .ok fingerprint) :
    ∃ dids, didsArray config.dids = .ok dids ∧ fingerprint = computeFingerprint (tenantConfig config dids) := by
  unfold listedFingerprint at h
  cases harray : didsArray config.dids with
  | error error =>
      rw [harray] at h
      cases h
  | ok dids =>
      rw [harray] at h
      exact ⟨dids, rfl, (Except.ok.inj h).symm⟩

/-! ## Fields without the separators -/

/-- No field holds a separator, and no DID is empty. -/
structure Clean (config : TenantDescriptor) (dids : List String) : Prop where
  companyId : '|' ∉ config.companyId.toList
  routePointDn : '|' ∉ config.routePointDn.toList
  pbxHostname : '|' ∉ config.pbxHostname.toList
  appId : '|' ∉ (config.appId.getD "").toList
  failureAction : '|' ∉ (config.failureAction.getD "").toList
  failureDestination : '|' ∉ (config.failureDestination.getD "").toList
  credentialUpdatedAt : '|' ∉ (config.credentialUpdatedAt.getD "").toList
  dids : ∀ did ∈ dids, did ≠ "" ∧ ',' ∉ did.toList ∧ '|' ∉ did.toList

/-- The fields that the fingerprint reads are the same; a field that is missing counts as the empty text. -/
structure SameFingerprinted (a b : TenantDescriptor) (didsA didsB : List String) : Prop where
  companyId : a.companyId = b.companyId
  routePointDn : a.routePointDn = b.routePointDn
  pbxHostname : a.pbxHostname = b.pbxHostname
  appId : a.appId.getD "" = b.appId.getD ""
  dids : didsA.Perm didsB
  failureAction : a.failureAction.getD "" = b.failureAction.getD ""
  failureDestination : a.failureDestination.getD "" = b.failureDestination.getD ""
  credentialUpdatedAt : a.credentialUpdatedAt.getD "" = b.credentialUpdatedAt.getD ""

theorem mem_intercalate {separator c : Char} {parts : List (List Char)} (h : c ∈ [separator].intercalate parts) :
    c = separator ∨ ∃ part ∈ parts, c ∈ part := by
  induction parts with
  | nil => cases h
  | cons part parts ih =>
      cases parts with
      | nil => exact .inr ⟨part, List.mem_singleton_self part, by simpa using h⟩
      | cons next parts =>
          rw [List.intercalate_cons_cons, List.mem_append, List.mem_append, List.mem_singleton] at h
          rcases h with (hpart | hseparator) | hrest
          · exact .inr ⟨part, List.mem_cons_self, hpart⟩
          · exact .inl hseparator
          · cases ih hrest with
            | inl heq => exact .inl heq
            | inr hmem =>
                obtain ⟨other, hother, hc⟩ := hmem
                exact .inr ⟨other, List.mem_cons_of_mem part hother, hc⟩

/-- The joined DIDs hold no bar. -/
theorem dids_clean {dids : List String} (h : ∀ did ∈ dids, '|' ∉ did.toList) :
    '|' ∉ ((String.singleton ',').intercalate (jsSort dids)).toList := by
  rw [toList_join]
  intro hmem
  cases mem_intercalate hmem with
  | inl heq => cases heq
  | inr hpart =>
      obtain ⟨part, hpart, hbar⟩ := hpart
      obtain ⟨did, hdid, rfl⟩ := List.mem_map.mp hpart
      exact h did ((jsSort_perm dids).subset hdid) hbar

/-- A list of texts that are not empty is not joined to the empty text. -/
theorem join_ne_empty {dids : List String} (hne : dids ≠ []) (h : ∀ did ∈ dids, did ≠ "") :
    (String.singleton ',').intercalate (jsSort dids) ≠ "" := by
  intro hempty
  have hlist : [','].intercalate ((jsSort dids).map String.toList) = [] := by
    rw [← toList_join, hempty]
    rfl
  cases hsorted : jsSort dids with
  | nil => exact hne (List.perm_nil.mp (hsorted ▸ (jsSort_perm dids).symm))
  | cons did rest =>
      have hdid : did ∈ dids := (jsSort_perm dids).subset (hsorted ▸ List.mem_cons_self)
      have hchars : did.toList = [] := by
        rw [hsorted] at hlist
        cases rest with
        | nil => simpa using hlist
        | cons next rest =>
            rw [List.map_cons, List.map_cons, List.intercalate_cons_cons] at hlist
            exact (List.append_eq_nil_iff.mp (List.append_eq_nil_iff.mp hlist).1).1
      exact h did hdid (String.toList_eq_nil_iff.mp hchars)

/-- DIDs without commas are found again, up to their order. -/
theorem joined_dids_eq_iff {didsA didsB : List String} (ha : ∀ did ∈ didsA, did ≠ "" ∧ ',' ∉ did.toList)
    (hb : ∀ did ∈ didsB, did ≠ "" ∧ ',' ∉ did.toList) :
    (String.singleton ',').intercalate (jsSort didsA) = (String.singleton ',').intercalate (jsSort didsB) ↔
      didsA.Perm didsB := by
  constructor
  · intro h
    by_cases hemptyA : didsA = []
    · by_cases hemptyB : didsB = []
      · rw [hemptyA, hemptyB]
      · -- only no DIDs at all are joined to the empty text
        subst hemptyA
        exact absurd h.symm (join_ne_empty hemptyB fun did hdid => (hb did hdid).1)
    by_cases hemptyB : didsB = []
    · subst hemptyB
      exact absurd h (join_ne_empty hemptyA fun did hdid => (ha did hdid).1)
    have hsorted : ∀ dids : List String, dids ≠ [] → jsSort dids ≠ [] := fun dids hne hnil =>
      hne (List.perm_nil.mp (hnil ▸ (jsSort_perm dids).symm))
    have hclean : ∀ dids : List String, (∀ did ∈ dids, did ≠ "" ∧ ',' ∉ did.toList) →
        ∀ did ∈ jsSort dids, ',' ∉ did.toList := fun dids hdids did hdid =>
      (hdids did ((jsSort_perm dids).subset hdid)).2
    exact jsSort_eq_iff.mp ((join_inj_of_clean (hsorted didsA hemptyA) (hsorted didsB hemptyB) (hclean didsA ha)
      (hclean didsB hb)).mp h)
  · intro h
    rw [jsSort_eq_iff.mpr h]

/-- The texts of clean fields show every field. -/
theorem fingerprintTexts_eq_iff {a b : TenantDescriptor} {didsA didsB : List String} (ha : Clean a didsA)
    (hb : Clean b didsB) :
    fingerprintTexts a didsA = fingerprintTexts b didsB ↔ SameFingerprinted a b didsA didsB := by
  have hdids : ",".intercalate (jsSort didsA) = ",".intercalate (jsSort didsB) ↔ didsA.Perm didsB :=
    joined_dids_eq_iff (fun did hdid => ⟨(ha.dids did hdid).1, (ha.dids did hdid).2.1⟩)
      (fun did hdid => ⟨(hb.dids did hdid).1, (hb.dids did hdid).2.1⟩)
  simp only [fingerprintTexts, List.cons.injEq, and_true, hdids]
  constructor
  · rintro ⟨hcompany, hroute, hhost, happ, hperm, haction, hdestination, hcredential⟩
    exact ⟨hcompany, hroute, hhost, happ, hperm, haction, hdestination, hcredential⟩
  · intro h
    exact ⟨h.companyId, h.routePointDn, h.pbxHostname, h.appId, h.dids, h.failureAction, h.failureDestination,
      h.credentialUpdatedAt⟩

theorem bar_not_mem_texts {config : TenantDescriptor} {dids : List String} (h : Clean config dids) :
    ∀ text ∈ fingerprintTexts config dids, '|' ∉ text.toList := by
  intro text htext
  simp only [fingerprintTexts, List.mem_cons, List.not_mem_nil, or_false] at htext
  rcases htext with rfl | rfl | rfl | rfl | rfl | rfl | rfl | rfl
  · exact h.companyId
  · exact h.routePointDn
  · exact h.pbxHostname
  · exact h.appId
  · exact dids_clean fun did hdid => (h.dids did hdid).2.2
  · exact h.failureAction
  · exact h.failureDestination
  · exact h.credentialUpdatedAt

/-- Clean fields: the pieces show every field. -/
theorem fieldPieces_eq_iff {a b : TenantDescriptor} {didsA didsB : List String} (ha : Clean a didsA)
    (hb : Clean b didsB) : fieldPieces a didsA = fieldPieces b didsB ↔ SameFingerprinted a b didsA didsB := by
  rw [← fingerprintTexts_eq_iff ha hb, ← fingerprints_eq_iff, computeFingerprint_eq, computeFingerprint_eq]
  exact join_inj_of_clean (List.cons_ne_nil _ _) (List.cons_ne_nil _ _) (bar_not_mem_texts ha) (bar_not_mem_texts hb)

/-! ## The result -/

/-- A change of what the runtime is built from is detected exactly if there is none, or both configurations list their
DIDs as an array and the texts of the fingerprint are cut into different pieces.  Without separators in the fields, the
pieces differ exactly if a field that the fingerprint reads does.  The order of the DIDs never matters. -/
theorem reconfiguration_detected_iff (a b : RuntimeConfig) :
    (Detected a b ↔ SameRuntime a b ∨ ∃ didsA didsB, didsArray a.dids = .ok didsA ∧ didsArray b.dids = .ok didsB ∧
      fieldPieces a.toTenantDescriptor didsA ≠ fieldPieces b.toTenantDescriptor didsB) ∧
    (∀ didsA didsB, didsArray a.dids = .ok didsA → didsArray b.dids = .ok didsB →
      Clean a.toTenantDescriptor didsA → Clean b.toTenantDescriptor didsB →
        (Detected a b ↔
          SameRuntime a b ∨ ¬ SameFingerprinted a.toTenantDescriptor b.toTenantDescriptor didsA didsB)) ∧
    (SameButOrder a b → ∃ fingerprint, listedFingerprint a.toTenantDescriptor = .ok fingerprint ∧
      listedFingerprint b.toTenantDescriptor = .ok fingerprint) := by
  have hiff : Detected a b ↔ SameRuntime a b ∨ ∃ didsA didsB, didsArray a.dids = .ok didsA ∧
      didsArray b.dids = .ok didsB ∧
      fieldPieces a.toTenantDescriptor didsA ≠ fieldPieces b.toTenantDescriptor didsB := by
    constructor
    · intro hdetected
      by_cases hsame : SameRuntime a b
      · exact .inl hsame
      · obtain ⟨first, second, hfirst, hsecond, hne⟩ := hdetected hsame
        obtain ⟨didsA, harrayA, rfl⟩ := array_of_listedFingerprint hfirst
        obtain ⟨didsB, harrayB, rfl⟩ := array_of_listedFingerprint hsecond
        exact .inr ⟨didsA, didsB, harrayA, harrayB, fun heq => hne (fingerprints_eq_iff.mpr heq)⟩
    · intro h hdiffer
      cases h with
      | inl hsame => exact absurd hsame hdiffer
      | inr hpieces =>
          obtain ⟨didsA, didsB, harrayA, harrayB, hne⟩ := hpieces
          exact ⟨_, _, listedFingerprint_of_array harrayA, listedFingerprint_of_array harrayB,
            fun heq => hne (fingerprints_eq_iff.mp heq)⟩
  constructor
  · exact hiff
  constructor
  · intro didsA didsB harrayA harrayB hcleanA hcleanB
    rw [hiff, ← fieldPieces_eq_iff hcleanA hcleanB]
    constructor
    · rintro (hsame | ⟨didsA', didsB', harrayA', harrayB', hne⟩)
      · exact .inl hsame
      · rw [harrayA] at harrayA'
        rw [harrayB] at harrayB'
        cases harrayA'
        cases harrayB'
        exact .inr hne
    · rintro (hsame | hne)
      · exact .inl hsame
      · exact .inr ⟨didsA, didsB, harrayA, harrayB, hne⟩
  · rintro ⟨dids, others, hperm, hdids, rfl⟩
    have harray : didsArray a.dids = .ok dids := by rw [hdids]; rfl
    use computeFingerprint (tenantConfig a.toTenantDescriptor dids)
    constructor
    · exact listedFingerprint_of_array harray
    · have hothers : computeFingerprint (tenantConfig a.toTenantDescriptor dids) =
          computeFingerprint (tenantConfig { a.toTenantDescriptor with dids := .list others } others) := by
        -- the sorted DIDs are the same
        rw [computeFingerprint_eq, computeFingerprint_eq]
        simp only [fingerprintTexts, jsSort_eq_iff.mpr hperm]
      rw [hothers]
      exact listedFingerprint_of_array rfl

/-- A tenant that transfers calls to one extension. -/
def sampleRuntimeConfig (destination : String) : RuntimeConfig :=
  { companyId := "00000000-0000-0000-0000-000000000001", connectionName := "3CX", pbxHostname := "pbx.example.com",
    appId := some "900", routePointDn := "900", dids := .list ["+23052500000", "+23052500001"],
    transferDestinations := .list [destination], failureAction := some "end_call", failureDestination := none,
    credentialUpdatedAt := some "2026-07-01T00:00:00+00:00", profileVersion := none }

/-- Another failure action is detected, and the order of the DIDs is not. -/
theorem reconfiguration_detected_sample :
    Detected (sampleRuntimeConfig "100") { sampleRuntimeConfig "100" with failureAction := some "transfer" } ∧
      ∃ fingerprint, listedFingerprint (sampleRuntimeConfig "100").toTenantDescriptor = .ok fingerprint ∧
        listedFingerprint { (sampleRuntimeConfig "100").toTenantDescriptor with
          dids := .list ["+23052500001", "+23052500000"] } = .ok fingerprint := by
  have hdids : ∀ did ∈ ["+23052500000", "+23052500001"], did ≠ "" ∧ ',' ∉ did.toList ∧ '|' ∉ did.toList := by
    intro did hdid
    simp only [List.mem_cons, List.not_mem_nil, or_false] at hdid
    rcases hdid with rfl | rfl
    all_goals decide +kernel
  have hclean : ∀ action ∈ ["end_call", "transfer"], Clean
      { (sampleRuntimeConfig "100").toTenantDescriptor with failureAction := some action }
      ["+23052500000", "+23052500001"] := by
    intro action haction
    constructor
    case dids => exact hdids
    case failureAction =>
      simp only [List.mem_cons, List.not_mem_nil, or_false] at haction
      rcases haction with rfl | rfl
      all_goals decide +kernel
    all_goals exact not_mem_toList rfl (by decide)
  obtain ⟨-, hiff, -⟩ := reconfiguration_detected_iff (sampleRuntimeConfig "100")
    { sampleRuntimeConfig "100" with failureAction := some "transfer" }
  constructor
  · have hdiffer := hiff _ _ rfl rfl (hclean "end_call" List.mem_cons_self)
      (hclean "transfer" (List.mem_cons_of_mem _ List.mem_cons_self))
    exact hdiffer.mpr (.inr fun hsame => absurd hsame.failureAction (by decide))
  · exact (reconfiguration_detected_iff (sampleRuntimeConfig "100") { sampleRuntimeConfig "100" with
      dids := .list ["+23052500001", "+23052500000"] }).2.2
      ⟨_, _, List.Perm.swap "+23052500001" "+23052500000" [], rfl, rfl⟩

/-- Other transfer destinations, the same fingerprint. -/
theorem reconfiguration_missed :
    ¬ ∀ a b : RuntimeConfig, a.companyId = b.companyId → Detected a b := by
  intro hall
  have hdiffer : ¬ SameRuntime (sampleRuntimeConfig "100") (sampleRuntimeConfig "200") := by
    intro hsame
    exact absurd hsame.transferDestinations (by decide)
  obtain ⟨first, second, hfirst, hsecond, hne⟩ := hall (sampleRuntimeConfig "100") (sampleRuntimeConfig "200") rfl hdiffer
  have hsame : listedFingerprint (sampleRuntimeConfig "100").toTenantDescriptor =
      listedFingerprint (sampleRuntimeConfig "200").toTenantDescriptor := rfl
  rw [hsame, hsecond] at hfirst
  exact hne (Except.ok.inj hfirst).symm

end Connector
end VoiceAssistants
