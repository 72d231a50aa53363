/-
Pinguin.Startup.CrossTheorems — conflicts between configuration files.

The loops of `validateCrossConfigs` go through one list of claims, a domain
and the tenant that has it (`claimsOf`). A claim is in conflict exactly if
the first claim of its domain is another tenant's (`conflictIn`), so which
errors there are depends on which file comes first; whether there are any
does not.
-/
import Pinguin.Startup.DoctorTheorems

namespace Pinguin.Doctor

open Pinguin.Go Pinguin.Tenancy Pinguin.Startup

/-! ## Claims -/

/-- A domain as a file has it, with its tenant. -/
structure DomainClaim where
  domain : GoString
  location : TenantLocation
deriving DecidableEq

def DomainClaim.key (claim : DomainClaim) : GoString := toLower (trimSpace claim.domain)

/-- The claims of one file's inline tenants; blank entries claim nothing. -/
def fileClaims (file : GoString × FileConfig) : List DomainClaim :=
  (allTenants file.2.tenants).flatMap fun tenant =>
    (tenant.domains.map fun domain => ⟨domain, file.1, trimSpace tenant.id⟩).filter (·.key ≠ [])

def claimsOf (configsByPath : List (GoString × FileConfig)) : List DomainClaim :=
  configsByPath.flatMap fileClaims

def checkClaim (quote : GoString → GoString) (state : CrossState) (claim : DomainClaim) :
    CrossState :=
  checkDomain quote claim.location state claim.domain

theorem foldl_checkTenant (quote : GoString → GoString) (location : TenantLocation)
    (domains : List GoString) (state : CrossState) :
    ((domains.map fun domain => DomainClaim.mk domain location).filter (·.key ≠ [])).foldl
        (checkClaim quote) state =
      domains.foldl (checkDomain quote location) state := by
  rw [List.foldl_filter, List.foldl_map]
  refine List.foldl_ext _ _ _ fun state domain _ => ?_
  by_cases hblank : toLower (trimSpace domain) = []
  · simp [DomainClaim.key, checkDomain, hblank]
  · simp [DomainClaim.key, checkClaim, hblank]

/-- The three loops are one over the claims. -/
theorem foldl_checkConfig (quote : GoString → GoString)
    (configsByPath : List (GoString × FileConfig)) (state : CrossState) :
    configsByPath.foldl (checkConfig quote) state =
      (claimsOf configsByPath).foldl (checkClaim quote) state := by
  rw [claimsOf, List.foldl_flatMap]
  refine List.foldl_ext _ _ _ fun state file _ => ?_
  rw [fileClaims, List.foldl_flatMap, checkConfig]
  refine List.foldl_ext _ _ _ fun state tenant _ => ?_
  exact (foldl_checkTenant quote ⟨file.1, trimSpace tenant.id⟩ tenant.domains state).symm

/-- The error of a claim: the first claim of its domain is another tenant's. -/
def conflictIn (quote : GoString → GoString) (claims : List DomainClaim) (claim : DomainClaim) :
    Option GoString :=
  match claims.find? (·.key = claim.key) with
  | some first =>
    if first.location ≠ claim.location then
      some (conflictText quote claim.domain claim.location first.location)
    else none
  | none => none

theorem conflictIn_eq_some {quote : GoString → GoString} {claims : List DomainClaim}
    {claim : DomainClaim} {text : GoString} :
    conflictIn quote claims claim = some text ↔
      ∃ first, claims.find? (·.key = claim.key) = some first ∧ first.location ≠ claim.location ∧
        text = conflictText quote claim.domain claim.location first.location := by
  rw [conflictIn]
  cases claims.find? (·.key = claim.key) with
  | none => simp
  | some first =>
    by_cases hlocation : first.location = claim.location
    · simp [hlocation]
    · simp only [ne_eq, hlocation, not_false_eq_true, if_true, Option.some.injEq,
        exists_eq_left', true_and]
      exact eq_comm

theorem conflictIn_append {quote : GoString → GoString} {claims : List DomainClaim}
    {claim : DomainClaim} (h : claim ∈ claims) (later : List DomainClaim) :
    conflictIn quote (claims ++ later) claim = conflictIn quote claims claim := by
  have hfound : (claims.find? (·.key = claim.key)).isSome = true :=
    List.find?_isSome.mpr ⟨claim, h, by simp⟩
  obtain ⟨first, hfirst⟩ := Option.isSome_iff_exists.mp hfound
  rw [conflictIn, conflictIn, List.find?_append, hfirst]
  rfl

theorem filterMap_conflictIn_concat (quote : GoString → GoString) (claims : List DomainClaim)
    (claim : DomainClaim) :
    (claims ++ [claim]).filterMap (conflictIn quote (claims ++ [claim])) =
      claims.filterMap (conflictIn quote claims) ++
        (conflictIn quote (claims ++ [claim]) claim).toList := by
  have hearlier : claims.filterMap (conflictIn quote (claims ++ [claim])) =
      claims.filterMap (conflictIn quote claims) :=
    List.filterMap_congr fun earlier hmem => conflictIn_append hmem [claim]
  rw [List.filterMap_append, hearlier]
  cases hconflict : conflictIn quote (claims ++ [claim]) claim with
  | none => simp [hconflict]
  | some text => simp [hconflict]

/-- The map and the errors agree with the claims gone through. -/
structure Recorded (quote : GoString → GoString) (claims : List DomainClaim) (state : CrossState) :
    Prop where
  first : ∀ key, state.domainsByTenant.find? (·.1 = key) =
    (claims.find? (·.key = key)).map fun claim => (key, claim.location)
  errors : state.errors = claims.filterMap (conflictIn quote claims)

theorem checkClaim_new {quote : GoString → GoString} {state : CrossState} {claim : DomainClaim}
    (hkey : claim.key ≠ []) (h : state.domainsByTenant.find? (·.1 = claim.key) = none) :
    checkClaim quote state claim =
      { state with domainsByTenant := state.domainsByTenant ++ [(claim.key, claim.location)] } := by
  rw [checkClaim, checkDomain]
  simp only [← DomainClaim.key.eq_1, if_neg hkey, h]

theorem checkClaim_known {quote : GoString → GoString} {state : CrossState} {claim : DomainClaim}
    {key : GoString} {existing : TenantLocation} (hkey : claim.key ≠ [])
    (h : state.domainsByTenant.find? (·.1 = claim.key) = some (key, existing)) :
    checkClaim quote state claim =
      if existing ≠ claim.location then
        { state with
          errors := state.errors ++ [conflictText quote claim.domain claim.location existing] }
      else state := by
  have hdiffers : (existing.configPath ≠ claim.location.configPath ∨
      existing.tenantID ≠ claim.location.tenantID) ↔ existing ≠ claim.location := by
    rw [ne_eq, ne_eq, ← not_and_or, ← TenantLocation.mk.injEq]
  rw [checkClaim, checkDomain]
  simp only [← DomainClaim.key.eq_1, if_neg hkey, h, hdiffers]

theorem Recorded.concat {quote : GoString → GoString} {claims : List DomainClaim}
    {state : CrossState} (h : Recorded quote claims state) {claim : DomainClaim}
    (hkey : claim.key ≠ []) : Recorded quote (claims ++ [claim]) (checkClaim quote state claim) := by
  have hfirst := h.first claim.key
  cases hfound : claims.find? (·.key = claim.key) with
  | none =>
    rw [hfound] at hfirst
    rw [checkClaim_new hkey hfirst]
    refine ⟨fun key => ?_, ?_⟩
    · rw [List.find?_append, List.find?_append, h.first key]
      cases claims.find? (·.key = key) with
      | some first => rfl
      | none =>
        by_cases heq : claim.key = key
        · simp [heq]
        · simp [heq]
    · -- a domain that is new is in no conflict
      rw [filterMap_conflictIn_concat, h.errors, conflictIn, List.find?_append, hfound]
      simp
  | some first =>
    rw [hfound] at hfirst
    have hconflict : conflictIn quote (claims ++ [claim]) claim =
        if first.location ≠ claim.location then
          some (conflictText quote claim.domain claim.location first.location)
        else none := by
      rw [conflictIn, List.find?_append, hfound]
      rfl
    have hmap : ∀ key, state.domainsByTenant.find? (·.1 = key) =
        ((claims ++ [claim]).find? (·.key = key)).map fun first => (key, first.location) := by
      intro key
      rw [h.first key, List.find?_append]
      by_cases heq : claim.key = key
      · rw [← heq, hfound]
        rfl
      · simp [heq]
    rw [checkClaim_known hkey hfirst]
    split
    · rename_i hother
      refine ⟨hmap, ?_⟩
      rw [filterMap_conflictIn_concat, h.errors, hconflict, if_pos hother]
      rfl
    · rename_i hsame
      refine ⟨hmap, ?_⟩
      rw [filterMap_conflictIn_concat, h.errors, hconflict, if_neg hsame, Option.toList_none,
        List.append_nil]

theorem foldl_checkClaim (quote : GoString → GoString) (claims : List DomainClaim)
    (hkeys : ∀ claim ∈ claims, claim.key ≠ []) :
    Recorded quote claims (claims.foldl (checkClaim quote) ⟨[], []⟩) := by
  induction claims using List.reverseRecOn with
  | nil => exact ⟨fun _ => rfl, rfl⟩
  | append_singleton claims claim ih =>
    rw [List.forall_mem_append, List.forall_mem_singleton] at hkeys
    rw [List.foldl_concat]
    exact (ih hkeys.1).concat hkeys.2

theorem key_ne_nil_of_mem {configsByPath : List (GoString × FileConfig)} {claim : DomainClaim}
    (h : claim ∈ claimsOf configsByPath) : claim.key ≠ [] := by
  obtain ⟨file, _, hfile⟩ := List.mem_flatMap.mp h
  obtain ⟨tenant, _, htenant⟩ := List.mem_flatMap.mp hfile
  exact of_decide_eq_true (List.mem_filter.mp htenant).2

/-- The errors are those of the claims, sorted. -/
theorem validateCrossConfigs_eq (quote : GoString → GoString)
    (configsByPath : List (GoString × FileConfig)) :
    validateCrossConfigs quote configsByPath =
      ((claimsOf configsByPath).filterMap (conflictIn quote (claimsOf configsByPath))).insertionSort
        (· ≤ ·) := by
  have hrecorded := foldl_checkClaim quote (claimsOf configsByPath) fun _ => key_ne_nil_of_mem
  rw [validateCrossConfigs, foldl_checkConfig, hrecorded.errors]

/-- There is an error exactly if two tenants claim one domain. -/
theorem validateCrossConfigs_ne_nil (quote : GoString → GoString)
    (configsByPath : List (GoString × FileConfig)) :
    validateCrossConfigs quote configsByPath ≠ [] ↔
      ∃ a ∈ claimsOf configsByPath, ∃ b ∈ claimsOf configsByPath,
        a.key = b.key ∧ a.location ≠ b.location := by
  have hsort : validateCrossConfigs quote configsByPath ≠ [] ↔
      ∃ text claim, claim ∈ claimsOf configsByPath ∧
        conflictIn quote (claimsOf configsByPath) claim = some text := by
    rw [validateCrossConfigs_eq, ne_eq, List.eq_nil_iff_forall_not_mem]
    simp only [List.mem_insertionSort, List.mem_filterMap, not_forall, not_not]
  rw [hsort]
  constructor
  · rintro ⟨text, claim, hmem, hconflict⟩
    obtain ⟨first, hfirst, hother, _⟩ := conflictIn_eq_some.mp hconflict
    have hkey := List.find?_some hfirst
    exact ⟨first, List.mem_of_find?_eq_some hfirst, claim, hmem, of_decide_eq_true hkey, hother⟩
  · rintro ⟨a, ha, b, hb, hkey, hother⟩
    have hfound : ((claimsOf configsByPath).find? (·.key = a.key)).isSome = true :=
      List.find?_isSome.mpr ⟨a, ha, by simp⟩
    obtain ⟨first, hfirst⟩ := Option.isSome_iff_exists.mp hfound
    -- the first claim cannot agree with both
    by_cases hsame : first.location = a.location
    · exact ⟨_, b, hb, conflictIn_eq_some.mpr ⟨first, hkey ▸ hfirst, hsame ▸ hother, rfl⟩⟩
    · exact ⟨_, a, ha, conflictIn_eq_some.mpr ⟨first, hfirst, hsame, rfl⟩⟩

/-! ## Another order -/

theorem configPath_of_mem {file : GoString × FileConfig} {claim : DomainClaim}
    (h : claim ∈ fileClaims file) : claim.location.configPath = file.1 := by
  obtain ⟨tenant, _, htenant⟩ := List.mem_flatMap.mp h
  obtain ⟨domain, _, rfl⟩ := List.mem_map.mp (List.mem_filter.mp htenant).1
  rfl

/-- A search through lists of which one at most has a hit. -/
theorem find?_flatMap_only {α β : Type} {f : α → List β} {p : β → Bool} {l : List α} {a : α}
    (ha : a ∈ l) (h : ∀ x ∈ l, x ≠ a → (f x).find? p = none) :
    (l.flatMap f).find? p = (f a).find? p := by
  rw [List.find?_flatMap]
  cases hfound : (f a).find? p with
  | none =>
    refine List.findSome?_eq_none_iff.mpr fun x hx => ?_
    by_cases hxa : x = a
    · rw [hxa, hfound]
    · exact h x hx hxa
  | some b =>
    induction l with
    | nil => cases ha
    | cons x l ih =>
      rw [List.forall_mem_cons] at h
      by_cases hxa : x = a
      · rw [hxa, List.findSome?_cons, hfound]
      · rw [List.findSome?_cons, h.1 hxa]
        exact ih ((List.mem_cons.mp ha).resolve_left (Ne.symm hxa)) h.2

/-- Files that share no domain leave the order no choice. -/
theorem validateCrossConfigs_perm {quote : GoString → GoString}
    {files order : List (GoString × FileConfig)} (hperm : order.Perm files)
    (hpaths : (files.map (·.1)).Nodup)
    (hshared : ∀ a ∈ claimsOf files, ∀ b ∈ claimsOf files, a.key = b.key →
      a.location.configPath = b.location.configPath) :
    validateCrossConfigs quote order = validateCrossConfigs quote files := by
  have hfirst : ∀ claim ∈ claimsOf files,
      (claimsOf order).find? (·.key = claim.key) = (claimsOf files).find? (·.key = claim.key) := by
    intro claim hmem
    obtain ⟨file, hfile, hclaim⟩ := List.mem_flatMap.mp hmem
    have honly : ∀ other ∈ files, other ≠ file →
        (fileClaims other).find? (·.key = claim.key) = none := by
      intro other hother hne
      refine List.find?_eq_none.mpr fun claim' hclaim' hkey => hne ?_
      have hpath := hshared claim' (List.mem_flatMap.mpr ⟨other, hother, hclaim'⟩) claim hmem
        (of_decide_eq_true hkey)
      rw [configPath_of_mem hclaim', configPath_of_mem hclaim] at hpath
      exact List.inj_on_of_nodup_map hpaths hother hfile hpath
    rw [claimsOf, claimsOf, find?_flatMap_only hfile honly,
      find?_flatMap_only (hperm.mem_iff.mpr hfile) fun other hother =>
        honly other (hperm.mem_iff.mp hother)]
  have hclaims : (claimsOf order).Perm (claimsOf files) := hperm.flatMap_right fileClaims
  have herrors : ((claimsOf order).filterMap (conflictIn quote (claimsOf order))).Perm
      ((claimsOf files).filterMap (conflictIn quote (claimsOf files))) := by
    have hsame : (claimsOf files).filterMap (conflictIn quote (claimsOf order)) =
        (claimsOf files).filterMap (conflictIn quote (claimsOf files)) :=
      List.filterMap_congr fun claim hmem => by rw [conflictIn, conflictIn, hfirst claim hmem]
    exact hsame ▸ hclaims.filterMap _
  rw [validateCrossConfigs_eq, validateCrossConfigs_eq]
  refine List.Perm.eq_of_pairwise' (List.pairwise_insertionSort _ _)
    (List.pairwise_insertionSort _ _) ?_
  exact ((List.perm_insertionSort _ _).trans herrors).trans (List.perm_insertionSort _ _).symm

/-! ## The property -/

/-- The tenants of a file, inline or through `tenants.configPath`, as the
doctor validates them. -/
def fileTenants (host : Host) (config : FileConfig) : BootstrapConfig :=
  (tenantsForValidation host config.tenants ⟨[], true, [], [], []⟩).1

/-- The tenant claims the domain, given trimmed and in lower case. -/
def Claims (host : Host) (files : List (GoString × FileConfig)) (location : TenantLocation)
    (domain : GoString) : Prop :=
  ∃ config, (location.configPath, config) ∈ files ∧ ∃ tenant ∈ fileTenants host config,
    trimSpace tenant.id = location.tenantID ∧ ∃ entry ∈ tenant.domains,
      toLower (trimSpace entry) = domain ∧ domain ≠ []

/-- Two tenants claim one domain. -/
def Conflict (host : Host) (files : List (GoString × FileConfig)) : Prop :=
  ∃ a b domain, a ≠ b ∧ Claims host files a domain ∧ Claims host files b domain

/-- Each domain is claimed in one file at most. -/
def NoSharedDomain (host : Host) (files : List (GoString × FileConfig)) : Prop :=
  ∀ a b domain, Claims host files a domain → Claims host files b domain →
    a.configPath = b.configPath

/-- The tenants of every file stand in the file. -/
def Inline (files : List (GoString × FileConfig)) : Prop :=
  ∀ file ∈ files, file.2.tenants.tenants ≠ []

theorem fileTenants_of_inline {config : FileConfig} (h : config.tenants.tenants ≠ [])
    (host : Host) : fileTenants host config = allTenants config.tenants := by
  rw [fileTenants, tenantsForValidation, if_pos h]
  rfl

theorem claims_iff {files : List (GoString × FileConfig)} (hinline : Inline files) {host : Host}
    {location : TenantLocation} {domain : GoString} :
    Claims host files location domain ↔
      ∃ claim ∈ claimsOf files, claim.location = location ∧ claim.key = domain := by
  constructor
  · rintro ⟨config, hfile, tenant, htenant, hid, entry, hentry, hdomain, hne⟩
    rw [fileTenants_of_inline (hinline _ hfile)] at htenant
    refine ⟨⟨entry, location⟩, List.mem_flatMap.mpr ⟨_, hfile, List.mem_flatMap.mpr
      ⟨tenant, htenant, List.mem_filter.mpr ⟨List.mem_map.mpr ⟨entry, hentry, ?_⟩, ?_⟩⟩⟩, rfl,
      hdomain⟩
    · rw [hid]
    · rw [← hdomain] at hne
      exact decide_eq_true hne
  · rintro ⟨claim, hclaim, rfl, rfl⟩
    have hne := key_ne_nil_of_mem hclaim
    obtain ⟨⟨path, config⟩, hfile, hmem⟩ := List.mem_flatMap.mp hclaim
    obtain ⟨tenant, htenant, hmem⟩ := List.mem_flatMap.mp hmem
    obtain ⟨entry, hentry, rfl⟩ := List.mem_map.mp (List.mem_filter.mp hmem).1
    refine ⟨config, hfile, tenant, ?_, rfl, entry, hentry, rfl, hne⟩
    rwa [fileTenants_of_inline (hinline _ hfile)]

theorem conflict_iff {files : List (GoString × FileConfig)} (hinline : Inline files)
    (host : Host) (quote : GoString → GoString) :
    validateCrossConfigs quote files ≠ [] ↔ Conflict host files := by
  rw [validateCrossConfigs_ne_nil]
  constructor
  · rintro ⟨a, ha, b, hb, hkey, hother⟩
    exact ⟨a.location, b.location, b.key, hother, (claims_iff hinline).mpr ⟨a, ha, rfl, hkey⟩,
      (claims_iff hinline).mpr ⟨b, hb, rfl, rfl⟩⟩
  · rintro ⟨_, _, domain, hother, hclaimsA, hclaimsB⟩
    obtain ⟨a, ha, rfl, hkeyA⟩ := (claims_iff hinline).mp hclaimsA
    obtain ⟨b, hb, rfl, hkeyB⟩ := (claims_iff hinline).mp hclaimsB
    exact ⟨a, ha, b, hb, hkeyA.trans hkeyB.symm, hother⟩

theorem claims_perm {files order : List (GoString × FileConfig)} (hperm : order.Perm files)
    {host : Host} {location : TenantLocation} {domain : GoString} :
    Claims host order location domain ↔ Claims host files location domain := by
  simp only [Claims, hperm.mem_iff]

theorem conflict_perm {files order : List (GoString × FileConfig)} (hperm : order.Perm files)
    {host : Host} : Conflict host order ↔ Conflict host files := by
  simp only [Conflict, claims_perm hperm]

/-- The files that `Run` hands over have paths of their own. -/
theorem allConfigsByPath_nodup (host : Host) (expandEnv : Bool) (configPaths : List GoString) :
    ((allConfigsByPath host expandEnv configPaths).map (·.1)).Nodup := by
  rw [allConfigsByPath]
  have hfold : ∀ configs : List (GoString × FileConfig), (configs.map (·.1)).Nodup →
      ((configPaths.foldl (recordConfig host expandEnv) configs).map (·.1)).Nodup := by
    induction configPaths with
    | nil => exact fun _ h => h
    | cons configPath configPaths ih =>
      intro configs h
      rw [List.foldl_cons]
      refine ih _ ?_
      rw [recordConfig]
      split
      · rename_i config _
        have hkept : ((configs.filter (·.1 ≠ configPath)).map (·.1)).Nodup :=
          h.sublist (List.filter_sublist.map _)
        rw [List.map_append, List.nodup_append]
        refine ⟨hkept, by simp, fun path hpath other hother heq => ?_⟩
        obtain ⟨file, hfile, rfl⟩ := List.mem_map.mp hpath
        have hne := of_decide_eq_true (List.mem_filter.mp hfile).2
        exact hne (heq.trans (List.mem_singleton.mp hother))
      · exact h
  exact hfold [] List.nodup_nil

/-- A file with the given tenants. -/
def tenantsFile (tenants : TenantConfig) : FileConfig :=
  { sampleConfig hexKey true [] with tenants := tenants }

def claimant (id domain : GoString) : BootstrapTenant :=
  { emptyTenant with id := id, displayName := id, domains := [domain] }

/-- Two tenants of the first file claim one domain, the second file has
another. -/
def apartFiles : List (GoString × FileConfig) :=
  [(lit "a.yml", tenantsFile ⟨[], [claimant (lit "a") (lit "x.io"), claimant (lit "b") (lit "X.io")]⟩),
    (lit "b.yml", tenantsFile ⟨[], [claimant (lit "a") (lit "y.io")]⟩)]

def noHost : Host :=
  ⟨fun _ => .error [], fun _ => none, fun _ => .error [], fun _ => .error []⟩

/-- Two files with the same inline tenant. -/
def sharedFile : FileConfig := tenantsFile ⟨[], [claimant (lit "t") (lit "x.io")]⟩

/-- The same tenant, in a file of its own. -/
def outsideFile : FileConfig := tenantsFile ⟨lit "tenants.yml", []⟩

def outsideHost : Host :=
  ⟨fun _ => .ok [], fun _ => none, fun _ => .error [],
    fun _ => .ok (.mapping [lit "tenants"] [.mapping (sampleTenant true [])])⟩

/-- A file that passes by itself. -/
def Valid (host : Host) (configPath : GoString) (config : FileConfig) : Prop :=
  (diagnoseFile host config ⟨configPath, true, [], [], []⟩).valid = true

end Pinguin.Doctor
