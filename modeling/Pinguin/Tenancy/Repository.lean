/-
Pinguin.Tenancy.Repository — package `tenant`: tenants and their lookups.

The store has a table for tenants, for their domains, administrators, email
profiles and SMS profiles. The repository resolves a tenant by id or by
host to the runtime configuration the notification service works with, and
keeps what it resolved in two caches. A cached configuration is always that
of the tenant it is cached under; the structure says so.
-/
import Pinguin.Notify.Service

namespace Pinguin.Tenancy

open Pinguin.Go Pinguin.Lib Pinguin.Notify

/-! ## Rows -/

/-- `TenantStatus`. -/
inductive TenantStatus where
  | active
  | suspended
  | other (raw : GoString)
deriving DecidableEq, Repr

/-- `Tenant`. -/
structure Tenant where
  id : GoString
  displayName : GoString
  status : TenantStatus
  supportEmail : GoString
deriving DecidableEq, Repr

/-- `TenantDomain`. -/
structure TenantDomain where
  id : Nat
  tenantID : GoString
  host : GoString
  isDefault : Bool
deriving DecidableEq, Repr

/-- `TenantAdmin`. -/
structure TenantAdmin where
  id : Nat
  tenantID : GoString
  email : GoString
deriving DecidableEq, Repr

/-- `EmailProfile`. -/
structure EmailProfile where
  id : GoString
  tenantID : GoString
  host : GoString
  port : Int
  usernameCipher : GoString
  passwordCipher : GoString
  fromAddress : GoString
  isDefault : Bool
deriving DecidableEq, Repr

/-- `SMSProfile`. -/
structure SMSProfile where
  id : GoString
  tenantID : GoString
  accountSIDCipher : GoString
  authTokenCipher : GoString
  fromNumber : GoString
  isDefault : Bool
deriving DecidableEq, Repr

/-- The tables; a host belongs to one domain row, and an administrator is
listed once for a tenant. -/
structure TenantStore where
  tenants : Table Tenant.id
  domains : Table TenantDomain.id
  admins : Table TenantAdmin.id
  emailProfiles : Table EmailProfile.id
  smsProfiles : Table SMSProfile.id
  uniqueHost : Table.UniqueIndex domains TenantDomain.host
  uniqueAdmin : Table.UniqueIndex admins fun admin => (admin.tenantID, admin.email)

theorem uniqueHost_empty :
    Table.UniqueIndex (Table.empty : Table TenantDomain.id) TenantDomain.host :=
  Table.uniqueIndex_empty

theorem uniqueAdmin_empty :
    Table.UniqueIndex (Table.empty : Table TenantAdmin.id)
      fun admin => (admin.tenantID, admin.email) :=
  Table.uniqueIndex_empty

/-! ## Normalization -/

/-- `normalizeHost`: lower case, up to the first colon. -/
def normalizeHost (host : GoString) : GoString := (cut (toLower (trimSpace host)) 0x3A).1

/-- `normalizeAdminEmail`. -/
def normalizeAdminEmail (email : GoString) : GoString := toLower (trimSpace email)

/-! ## Queries -/

namespace TenantStore

variable (store : TenantStore)

/-- The rows `ORDER BY display_name`. -/
def byDisplayName (tenants : List Tenant) : List Tenant :=
  tenants.insertionSort fun a b => a.displayName ≤ b.displayName

/-- `ListActiveTenants`. -/
def listActiveTenants : List Tenant := byDisplayName (store.tenants.select (·.status = .active))

/-- `ListActiveTenantsByDomain`: the active tenants joined with their domains. -/
def listActiveTenantsByDomain (domain : GoString) : List Tenant :=
  byDisplayName <| (store.tenants.select (·.status = .active)).flatMap fun t =>
    (store.domains.select fun d => d.tenantID = t.id && d.host = normalizeHost domain).map fun _ => t

/-- `IsActiveTenantAdmin`. -/
def isActiveTenantAdmin (email : GoString) : Bool :=
  normalizeAdminEmail email != [] &&
    (store.tenants.select (·.status = .active)).any fun t =>
      store.admins.rows.any fun a => a.tenantID = t.id && a.email = normalizeAdminEmail email

/-- The tenants the retry worker's query joins with. -/
def activeTenantIDs : List GoString := (store.tenants.select (·.status = .active)).map (·.id)

end TenantStore

/-! ## Resolving a tenant -/

/-- Why a tenant was not resolved. -/
inductive TenantError where
  | emptyHost
  | domainNotFound (host : GoString)
  | invalidTenantID
  | tenantNotFound (tenantID : GoString)
  | emailProfileNotFound
  | decrypt
deriving DecidableEq, Repr

/-- The decrypted credentials of the default SMS profile, if there is one. -/
def loadSMSCredentials (store : TenantStore) (decrypt : GoString → Option GoString)
    (tenantID : GoString) : Except TenantError (Option SMSCredentials) :=
  match store.smsProfiles.first fun p =>
      matchesField [] tenantID p.tenantID && matchesField false true p.isDefault with
  | none => .ok none
  | some profile =>
    match decrypt profile.accountSIDCipher, decrypt profile.authTokenCipher with
    | some accountSID, some authToken => .ok (some ⟨accountSID, authToken, profile.fromNumber⟩)
    | _, _ => .error .decrypt

/-- The decrypted credentials of an email profile. -/
def EmailProfile.credentials (decrypt : GoString → Option GoString) (profile : EmailProfile) :
    Except TenantError EmailCredentials :=
  match decrypt profile.usernameCipher, decrypt profile.passwordCipher with
  | some username, some password =>
    .ok ⟨profile.host, profile.port, username, password, profile.fromAddress⟩
  | _, _ => .error .decrypt

/-- `loadRuntimeConfig`. The tenant's status is not looked at. -/
def loadRuntimeConfig (store : TenantStore) (decrypt : GoString → Option GoString)
    (tenantID : GoString) : Except TenantError RuntimeConfig :=
  match store.tenants.first (matchesField [] tenantID ·.id) with
  | none => .error (.tenantNotFound tenantID)
  | some tenant =>
    match store.emailProfiles.first fun p =>
        matchesField [] tenantID p.tenantID && matchesField false true p.isDefault with
    | none => .error .emailProfileNotFound
    | some profile =>
      match loadSMSCredentials store decrypt tenantID, profile.credentials decrypt with
      | .error e, _ => .error e
      | .ok _, .error e => .error e
      | .ok sms, .ok email => .ok ⟨tenant.id, email, sms⟩

/-- What is loaded for an id is the configuration of the tenant with it. -/
theorem loadRuntimeConfig_tenantID {store : TenantStore} {decrypt : GoString → Option GoString}
    {tenantID : GoString} {cfg : RuntimeConfig} (hne : tenantID ≠ [])
    (h : loadRuntimeConfig store decrypt tenantID = .ok cfg) :
    cfg.tenantID = tenantID ∧ ∃ tenant ∈ store.tenants.rows, tenant.id = tenantID := by
  rw [loadRuntimeConfig] at h
  split at h
  · cases h
  · rename_i tenant htenant
    obtain ⟨hmem, hmatch⟩ := Table.first_some htenant
    have hid : tenant.id = tenantID := by
      simp only [matchesField, Bool.or_eq_true, decide_eq_true_eq] at hmatch
      exact hmatch.resolve_left hne
    split at h
    · cases h
    · split at h
      · cases h
      · cases h
      · cases h
        exact ⟨hid, tenant, hmem, hid⟩

/-- `Repository`, with the key of its secret keeper. -/
structure Repository where
  store : TenantStore
  decrypt : GoString → Option GoString
  runtimeCache : GoString → Option RuntimeConfig
  domainTenantCache : GoString → Option GoString
  cachedOwn : ∀ tenantID cfg, runtimeCache tenantID = some cfg →
    tenantID ≠ [] ∧ cfg.tenantID = tenantID

namespace Repository

/-- `NewRepository`. -/
def new (store : TenantStore) (decrypt : GoString → Option GoString) : Repository :=
  ⟨store, decrypt, fun _ => none, fun _ => none, fun _ _ h => by cases h⟩

/-- `cacheRuntimeConfig` of a configuration just loaded. -/
def cacheRuntimeConfig (repo : Repository) (tenantID : GoString) (cfg : RuntimeConfig)
    (hload : loadRuntimeConfig repo.store repo.decrypt tenantID = .ok cfg) : Repository :=
  if hne : tenantID = [] then repo
  else { repo with
    runtimeCache := Function.update repo.runtimeCache tenantID (some cfg)
    cachedOwn := by
      intro id cached hcached
      by_cases hid : id = tenantID
      · subst hid
        rw [Function.update_self, Option.some.injEq] at hcached
        exact ⟨hne, hcached ▸ (loadRuntimeConfig_tenantID hne hload).1⟩
      · rw [Function.update_of_ne hid] at hcached
        exact repo.cachedOwn id cached hcached }

/-- `runtimeConfig`: from the cache, else loaded and cached. -/
def runtimeConfig (repo : Repository) (tenantID : GoString) :
    Except TenantError RuntimeConfig × Repository :=
  match repo.runtimeCache tenantID with
  | some cached => (.ok cached, repo)
  | none =>
    match hload : loadRuntimeConfig repo.store repo.decrypt tenantID with
    | .error e => (.error e, repo)
    | .ok cfg => (.ok cfg, repo.cacheRuntimeConfig tenantID cfg hload)

/-- `cacheTenantID`. -/
def cacheTenantID (repo : Repository) (host tenantID : GoString) : Repository :=
  if host = [] ∨ tenantID = [] then repo
  else { repo with
    domainTenantCache := Function.update repo.domainTenantCache host (some tenantID) }

/-- `ResolveByHost`. -/
def resolveByHost (repo : Repository) (host : GoString) :
    Except TenantError RuntimeConfig × Repository :=
  let normalized := normalizeHost host
  if normalized = [] then (.error .emptyHost, repo)
  else match repo.domainTenantCache normalized with
    | some cachedTenantID => repo.runtimeConfig cachedTenantID
    | none =>
      match repo.store.domains.first (matchesField [] normalized ·.host) with
      | none => (.error (.domainNotFound normalized), repo)
      | some domain =>
        match repo.runtimeConfig domain.tenantID with
        | (.error e, repo) => (.error e, repo)
        | (.ok cfg, repo) => (.ok cfg, repo.cacheTenantID normalized domain.tenantID)

/-- `ResolveByID`. -/
def resolveByID (repo : Repository) (tenantID : GoString) :
    Except TenantError RuntimeConfig × Repository :=
  if trimSpace tenantID = [] then (.error .invalidTenantID, repo)
  else repo.runtimeConfig (trimSpace tenantID)

/-! ## What a lookup gives -/

/-- A new repository loads from the tables. -/
theorem runtimeConfig_new (store : TenantStore) (decrypt : GoString → Option GoString)
    (tenantID : GoString) :
    ((new store decrypt).runtimeConfig tenantID).1 = loadRuntimeConfig store decrypt tenantID := by
  have hcache : (new store decrypt).runtimeCache tenantID = none := rfl
  rw [runtimeConfig]
  simp only [hcache]
  split
  · rename_i hload
    exact hload.symm
  · rename_i hload
    exact hload.symm

variable (repo : Repository)

theorem cacheRuntimeConfig_store (tenantID : GoString) (cfg : RuntimeConfig)
    (hload : loadRuntimeConfig repo.store repo.decrypt tenantID = .ok cfg) :
    (repo.cacheRuntimeConfig tenantID cfg hload).store = repo.store := by
  rw [cacheRuntimeConfig]
  split
  · rfl
  · rfl

theorem runtimeConfig_store (tenantID : GoString) :
    (repo.runtimeConfig tenantID).2.store = repo.store := by
  rw [runtimeConfig]
  split
  · rfl
  · split
    · rfl
    · rename_i hload
      exact cacheRuntimeConfig_store repo _ _ hload

theorem resolveByID_store (tenantID : GoString) :
    (repo.resolveByID tenantID).2.store = repo.store := by
  rw [resolveByID]
  split
  · rfl
  · exact runtimeConfig_store repo _

/-- A tenant resolved by id is the one the id names, cached or not. -/
theorem resolveByID_tenantID {tenantID : GoString} {cfg : RuntimeConfig}
    (h : (repo.resolveByID tenantID).1 = .ok cfg) :
    cfg.tenantID = trimSpace tenantID ∧ cfg.tenantID ≠ [] := by
  rw [resolveByID] at h
  split at h
  · cases h
  · rename_i hne
    rw [runtimeConfig] at h
    split at h
    · rename_i cached hcached
      cases h
      have hown := repo.cachedOwn _ _ hcached
      exact ⟨hown.2, by rw [hown.2]; exact hown.1⟩
    · split at h
      · cases h
      · rename_i cfg' hload
        cases h
        have hid := (loadRuntimeConfig_tenantID hne hload).1
        exact ⟨hid, by rw [hid]; exact hne⟩

end Repository

end Pinguin.Tenancy
