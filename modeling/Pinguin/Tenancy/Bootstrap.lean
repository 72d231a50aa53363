/-
Pinguin.Tenancy.Bootstrap — package `tenant`: the tables are built from the
configuration.

`bootstrap` checks the configured tenants, then in one transaction empties
the domain, administrator and profile tables, removes the tenants that are
no longer configured and writes every entry. What the run draws at random,
UUIDs and cipher nonces, and where the database continues its row numbers
are arguments, so that two runs may draw differently.
-/
import Pinguin.Go.Strconv
import Pinguin.Tenancy.Repository

namespace Pinguin.Tenancy

open Pinguin.Go Pinguin.Lib Pinguin.Notify

/-! ## The configuration -/

/-- `BootstrapEmailProfile`. -/
structure BootstrapEmailProfile where
  host : GoString
  port : Int
  username : GoString
  password : GoString
  fromAddress : GoString
deriving DecidableEq, Repr

/-- `BootstrapSMSProfile`. -/
structure BootstrapSMSProfile where
  accountSID : GoString
  authToken : GoString
  fromNumber : GoString
deriving DecidableEq, Repr

/-- `BootstrapTenant`. -/
structure BootstrapTenant where
  id : GoString
  displayName : GoString
  supportEmail : GoString
  enabled : Option Bool
  status : GoString
  domains : List GoString
  admins : List GoString
  emailProfile : BootstrapEmailProfile
  smsProfile : Option BootstrapSMSProfile
deriving DecidableEq, Repr

/-- The tenants of a `BootstrapConfig`. -/
abbrev BootstrapConfig := List BootstrapTenant

/-- `enabled`, which defaults to true. -/
def BootstrapTenant.isEnabled (spec : BootstrapTenant) : Bool := spec.enabled != some false

/-! ## Secrets and random draws -/

/-- `SecretKeeper`: what it sealed under any nonce, it opens. -/
structure SecretKeeper where
  encrypt : (nonce plaintext : GoString) → GoString
  decrypt : GoString → Option GoString
  opens : ∀ nonce plaintext, decrypt (encrypt nonce plaintext) = some plaintext

/-- What the work on one entry draws: UUIDs, for the tenant only if its id is
blank, and the nonces of its secrets. -/
structure EntryDraws where
  tenantID : GoString
  emailProfileID : GoString
  smsProfileID : GoString
  usernameNonce : GoString
  passwordNonce : GoString
  accountNonce : GoString
  tokenNonce : GoString

/-- The draws of a run, by the position of the entry, and the row numbers
the database gave out last. -/
structure Draws where
  entry : Nat → EntryDraws
  lastDomainID : Nat
  lastAdminID : Nat

/-! ## Errors -/

/-- Why `Bootstrap` failed. -/
inductive BootstrapError where
  | noTenants
  | noEnabledTenants
  | duplicateDomain (host : GoString) (existingIndex tenantIndex : Nat)
  | missingDomain (tenantIndex : Nat)
  | statusUnsupported
  | domainLost (host : GoString)
  | domainConflict (host tenantID : GoString)
  | adminExists
  | emailProfileExists
  | smsProfileExists
deriving DecidableEq, Repr

/-- The text of the error; a refused insert ends in the database's own. -/
def BootstrapError.text (refused : GoString) : BootstrapError → GoString
  | noTenants => lit "tenant bootstrap: no tenants configured"
  | noEnabledTenants => lit "tenant bootstrap: no enabled tenants configured"
  | duplicateDomain host existingIndex tenantIndex =>
    lit "tenant bootstrap: tenant.bootstrap.domain.duplicate: duplicate domain " ++ host ++
      lit " between tenants[" ++ formatInt existingIndex ++ lit "] and tenants[" ++
      formatInt tenantIndex ++ lit "]"
  | missingDomain tenantIndex =>
    lit "tenant bootstrap: tenant.bootstrap.domain.missing: tenants[" ++ formatInt tenantIndex ++
      lit "] has no domains"
  | statusUnsupported => lit ("tenant bootstrap: tenants[].status is no longer supported; " ++
      "use tenants[].enabled (true|false)")
  | domainLost host => lit "tenant bootstrap: domain " ++ host ++ lit ": record not found"
  | domainConflict host tenantID =>
    lit "tenant bootstrap: tenant.bootstrap.domain.conflict: domain " ++ host ++
      lit " already assigned to tenant " ++ tenantID
  | adminExists =>
    lit "tenant bootstrap: tenant.bootstrap.admin.create_failed: create tenant admin: " ++ refused
  | emailProfileExists => lit "tenant bootstrap: email profile: " ++ refused
  | smsProfileExists => lit "tenant bootstrap: sms profile: " ++ refused

/-! ## Normalization and checks -/

/-- `normalizeDomainHost`. -/
def normalizeDomainHost (host : GoString) : GoString := toLower (trimSpace host)

/-- `normalizeDomainHosts`. -/
def normalizeDomainHosts (domains : List GoString) : List GoString :=
  (domains.map normalizeDomainHost).filter (· ≠ [])

def normalizeAdminEmailsFrom (seenEmails : List GoString) : List GoString → List GoString
  | [] => []
  | email :: emails =>
    let normalizedEmail := normalizeAdminEmail email
    if normalizedEmail = [] then normalizeAdminEmailsFrom seenEmails emails
    else if normalizedEmail ∈ seenEmails then normalizeAdminEmailsFrom seenEmails emails
    else normalizedEmail :: normalizeAdminEmailsFrom (normalizedEmail :: seenEmails) emails

/-- `normalizeAdminEmails`. -/
def normalizeAdminEmails (emails : List GoString) : List GoString :=
  normalizeAdminEmailsFrom [] emails

/-- One entry of `prepareBootstrapTenants`, with what it draws. -/
def prepareBootstrapTenant (draws : Draws) (entry : BootstrapTenant × Nat) :
    BootstrapTenant × EntryDraws :=
  let own := draws.entry entry.2
  ({ entry.1 with
      id := if trimSpace entry.1.id = [] then own.tenantID else trimSpace entry.1.id }, own)

/-- `prepareBootstrapTenants`. -/
def prepareBootstrapTenants (draws : Draws) (cfg : BootstrapConfig) :
    List (BootstrapTenant × EntryDraws) :=
  cfg.zipIdx.map (prepareBootstrapTenant draws)

/-- The hosts of one entry in `validateBootstrapDomains`: the hosts seen so
far and how many of the entry's own are not blank. -/
def validateTenantDomains (tenantIndex : Nat) :
    List GoString → List (GoString × Nat) → Nat →
      Except BootstrapError (List (GoString × Nat) × Nat)
  | [], normalizedHosts, domainCount => .ok (normalizedHosts, domainCount)
  | host :: hosts, normalizedHosts, domainCount =>
    let normalizedHost := normalizeDomainHost host
    if normalizedHost = [] then validateTenantDomains tenantIndex hosts normalizedHosts domainCount
    else match normalizedHosts.lookup normalizedHost with
      | some existingIndex => .error (.duplicateDomain normalizedHost existingIndex tenantIndex)
      | none => validateTenantDomains tenantIndex hosts
          ((normalizedHost, tenantIndex) :: normalizedHosts) (domainCount + 1)

def validateBootstrapDomainsFrom :
    Nat → List BootstrapTenant → List (GoString × Nat) → Except BootstrapError Unit
  | _, [], _ => .ok ()
  | tenantIndex, spec :: specs, normalizedHosts =>
    match validateTenantDomains tenantIndex spec.domains normalizedHosts 0 with
    | .error e => .error e
    | .ok (normalizedHosts, domainCount) =>
      if domainCount = 0 then .error (.missingDomain tenantIndex)
      else validateBootstrapDomainsFrom (tenantIndex + 1) specs normalizedHosts

/-- `validateBootstrapDomains`. -/
def validateBootstrapDomains (specs : List BootstrapTenant) : Except BootstrapError Unit :=
  validateBootstrapDomainsFrom 0 specs []

/-! ## Statements -/

/-- The four resets. -/
def TenantStore.reset (store : TenantStore) : TenantStore where
  tenants := store.tenants
  domains := Table.empty
  admins := Table.empty
  emailProfiles := Table.empty
  smsProfiles := Table.empty
  uniqueHost := uniqueHost_empty
  uniqueAdmin := uniqueAdmin_empty

/-- `removeStaleTenants`. -/
def TenantStore.removeStaleTenants (store : TenantStore) (configuredTenantIDs : List GoString) :
    TenantStore :=
  { store with tenants := store.tenants.restrict (·.id ∈ configuredTenantIDs) }

/-- The number the database gives the next row. -/
def nextRowID (last : Nat) (ids : List Nat) : Nat := ids.foldl max last + 1

/-- Insert of a domain; when its host is there, nothing happens. -/
def TenantStore.createDomain (store : TenantStore) (draws : Draws) (tenantID host : GoString)
    (isDefault : Bool) : TenantStore :=
  let row : TenantDomain :=
    ⟨nextRowID draws.lastDomainID (store.domains.rows.map (·.id)), tenantID, host, isDefault⟩
  if hfree : store.domains.Free TenantDomain.host row then
    { store with domains := store.domains.put row, uniqueHost := store.uniqueHost.put hfree }
  else store

/-- The loop over the domains of an entry in `upsertTenant`: each is read back
and must be this tenant's. -/
def TenantStore.upsertDomains (draws : Draws) (tenantID : GoString) :
    Nat → List GoString → TenantStore → Except BootstrapError TenantStore
  | _, [], store => .ok store
  | domainIndex, host :: hosts, store =>
    let isDefault := domainIndex == 0
    let store := store.createDomain draws tenantID host isDefault
    match store.domains.first (matchesField [] host ·.host) with
    | none => .error (.domainLost host)
    | some existingDomain =>
      if existingDomain.tenantID ≠ tenantID ∨ existingDomain.isDefault ≠ isDefault then
        .error (.domainConflict host existingDomain.tenantID)
      else upsertDomains draws tenantID (domainIndex + 1) hosts store

/-- `upsertTenantAdmins`, of the normalized emails. -/
def TenantStore.upsertTenantAdmins (draws : Draws) (tenantID : GoString) :
    List GoString → TenantStore → Except BootstrapError TenantStore
  | [], store => .ok store
  | email :: emails, store =>
    let row : TenantAdmin :=
      ⟨nextRowID draws.lastAdminID (store.admins.rows.map (·.id)), tenantID, email⟩
    if hfree : store.admins.Free (fun admin => (admin.tenantID, admin.email)) row then
      upsertTenantAdmins draws tenantID emails
        { store with admins := store.admins.put row, uniqueAdmin := store.uniqueAdmin.put hfree }
    else .error .adminExists

def TenantStore.createEmailProfile (store : TenantStore) (row : EmailProfile) :
    Except BootstrapError TenantStore :=
  if store.emailProfiles.rows.any (·.id = row.id) then .error .emailProfileExists
  else .ok { store with emailProfiles := store.emailProfiles.put row }

def TenantStore.createSMSProfile (store : TenantStore) (row : SMSProfile) :
    Except BootstrapError TenantStore :=
  if store.smsProfiles.rows.any (·.id = row.id) then .error .smsProfileExists
  else .ok { store with smsProfiles := store.smsProfiles.put row }

/-! ## One entry -/

/-- The tenant row of an entry. -/
def BootstrapTenant.tenantRow (spec : BootstrapTenant) : Tenant :=
  ⟨spec.id, spec.displayName, if spec.isEnabled then .active else .suspended, spec.supportEmail⟩

/-- The email profile of an entry. -/
def BootstrapTenant.emailRow (keeper : SecretKeeper) (own : EntryDraws) (spec : BootstrapTenant) :
    EmailProfile where
  id := own.emailProfileID
  tenantID := spec.id
  host := spec.emailProfile.host
  port := spec.emailProfile.port
  usernameCipher := keeper.encrypt own.usernameNonce spec.emailProfile.username
  passwordCipher := keeper.encrypt own.passwordNonce spec.emailProfile.password
  fromAddress := spec.emailProfile.fromAddress
  isDefault := true

/-- The SMS profile of an entry that has one. -/
def BootstrapSMSProfile.row (keeper : SecretKeeper) (own : EntryDraws) (tenantID : GoString)
    (profile : BootstrapSMSProfile) : SMSProfile where
  id := own.smsProfileID
  tenantID := tenantID
  accountSIDCipher := keeper.encrypt own.accountNonce profile.accountSID
  authTokenCipher := keeper.encrypt own.tokenNonce profile.authToken
  fromNumber := profile.fromNumber
  isDefault := true

/-- The profiles of an entry, the last part of `upsertTenant`. -/
def TenantStore.createProfiles (keeper : SecretKeeper) (own : EntryDraws) (spec : BootstrapTenant)
    (store : TenantStore) : Except BootstrapError TenantStore :=
  match store.createEmailProfile (spec.emailRow keeper own) with
  | .error e => .error e
  | .ok store =>
    match spec.smsProfile with
    | none => .ok store
    | some profile => store.createSMSProfile (profile.row keeper own spec.id)

/-- `upsertTenant`. -/
def upsertTenant (keeper : SecretKeeper) (draws : Draws) (own : EntryDraws)
    (spec : BootstrapTenant) (store : TenantStore) : Except BootstrapError TenantStore :=
  if trimSpace spec.status ≠ [] then .error .statusUnsupported
  else
    let store := { store with tenants := store.tenants.put spec.tenantRow }
    match store.upsertDomains draws spec.id 0 (normalizeDomainHosts spec.domains) with
    | .error e => .error e
    | .ok store =>
      match store.upsertTenantAdmins draws spec.id (normalizeAdminEmails spec.admins) with
      | .error e => .error e
      | .ok store => store.createProfiles keeper own spec

/-- The loop over the entries. -/
def upsertTenants (keeper : SecretKeeper) (draws : Draws) :
    List (BootstrapTenant × EntryDraws) → TenantStore → Except BootstrapError TenantStore
  | [], store => .ok store
  | (spec, own) :: entries, store =>
    match upsertTenant keeper draws own spec store with
    | .error e => .error e
    | .ok store => upsertTenants keeper draws entries store

/-! ## `Bootstrap` -/

/-- The database: the tables of the tenants and the notifications. -/
structure Database where
  tenancy : TenantStore
  notifications : NotificationTable

/-- The checks before the transaction. -/
def checkBootstrap (specs : List BootstrapTenant) : Except BootstrapError Unit :=
  if specs = [] then .error .noTenants
  else if specs.all (!·.isEnabled) then .error .noEnabledTenants
  else validateBootstrapDomains specs

/-- The body of the transaction. -/
def bootstrapTransaction (keeper : SecretKeeper) (draws : Draws)
    (entries : List (BootstrapTenant × EntryDraws)) (store : TenantStore) :
    Except BootstrapError TenantStore :=
  upsertTenants keeper draws entries
    (store.reset.removeStaleTenants (entries.map (·.1.id)))

/-- `Bootstrap`: a transaction that fails is rolled back. -/
def bootstrap (keeper : SecretKeeper) (draws : Draws) (cfg : BootstrapConfig) (db : Database) :
    Except BootstrapError Unit × Database :=
  let entries := prepareBootstrapTenants draws cfg
  match checkBootstrap (entries.map (·.1)) with
  | .error e => (.error e, db)
  | .ok () =>
    match bootstrapTransaction keeper draws entries db.tenancy with
    | .error e => (.error e, db)
    | .ok store => (.ok (), { db with tenancy := store })

end Pinguin.Tenancy
