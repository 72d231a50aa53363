/-
Pinguin.Tenancy.Caches — repositories that share one database.

A repository keeps two caches: which tenant a host belongs to, and what was
loaded for a tenant. The SMS credentials of a loaded configuration are held
by pointer, so the heap they point into is part of the model: a repository
hands out clones, and a caller may write through the pointers it was given.
`World` has the database, the heap and every registered repository;
`Bootstrap` empties their caches when it succeeds.
-/
import Pinguin.Lib.Runs
import Pinguin.Tenancy.Bootstrap

namespace Pinguin.Tenancy

open Pinguin.Go Pinguin.Lib Pinguin.Notify

/-! ## Runtime configurations -/

/-- `RuntimeConfig` with the whole tenant row; `σ` is how the SMS credentials
are held. -/
structure TenantRuntime (σ : Type) where
  tenant : Tenant
  email : EmailCredentials
  sms : σ
deriving DecidableEq, Repr

/-- A configuration with its SMS credentials as they are. -/
abbrev RuntimeValue := TenantRuntime (Option SMSCredentials)

/-- A configuration with its SMS credentials by pointer; `none` is nil. -/
abbrev RuntimeRef := TenantRuntime (Option Nat)

/-- What the notification service reads of a configuration. -/
def TenantRuntime.config (runtime : RuntimeValue) : RuntimeConfig :=
  ⟨runtime.tenant.id, runtime.email, runtime.sms⟩

/-- What `loadRuntimeConfig` reads from the tables. -/
def loadRuntime (store : TenantStore) (decrypt : GoString → Option GoString)
    (tenantID : GoString) : Except TenantError RuntimeValue :=
  match store.tenants.first (matchesField [] tenantID ·.id) with
  | none => .error (.tenantNotFound tenantID)
  | some tenant =>
    match store.emailProfiles.first fun p =>
        matchesField [] tenantID p.tenantID && matchesField false true p.isDefault with
    | none => .error .emailProfileNotFound
    | some profile =>
      match loadSMSCredentials store decrypt tenantID, profile.credentials decrypt with
      | .error e, _ => .error e
      | .ok _, .error e => .error e
      | .ok sms, .ok email => .ok ⟨tenant, email, sms⟩

/-- `loadRuntimeConfig` keeps the id of the tenant row. -/
theorem loadRuntimeConfig_eq (store : TenantStore) (decrypt : GoString → Option GoString)
    (tenantID : GoString) :
    loadRuntimeConfig store decrypt tenantID =
      (loadRuntime store decrypt tenantID).map TenantRuntime.config := by
  unfold loadRuntimeConfig loadRuntime
  cases store.tenants.first (matchesField [] tenantID ·.id) with
  | none => rfl
  | some tenant =>
    cases store.emailProfiles.first fun p =>
        matchesField [] tenantID p.tenantID && matchesField false true p.isDefault with
    | none => rfl
    | some profile =>
      simp only
      cases loadSMSCredentials store decrypt tenantID with
      | error e => rfl
      | ok sms =>
        cases profile.credentials decrypt with
        | error e => rfl
        | ok email => rfl

/-! ## The heap -/

/-- The SMS credentials allocated so far; a pointer is a position. -/
abbrev Heap := List SMSCredentials

/-- `&value`, or nil. -/
def Heap.allocate (heap : Heap) : Option SMSCredentials → Option Nat × Heap
  | none => (none, heap)
  | some value => (some heap.length, heap ++ [value])

/-- `*pointer`. -/
def Heap.read (heap : Heap) (pointer : Option Nat) : Option SMSCredentials :=
  pointer.bind (heap[·]?)

/-- The configuration as its holder sees it. -/
def RuntimeRef.read (heap : Heap) (ref : RuntimeRef) : RuntimeValue :=
  { tenant := ref.tenant, email := ref.email, sms := heap.read ref.sms }

/-- `cloneRuntimeConfig`. -/
def cloneRuntimeConfig (heap : Heap) (ref : RuntimeRef) : RuntimeRef × Heap :=
  ({ ref with sms := (heap.allocate (heap.read ref.sms)).1 },
    (heap.allocate (heap.read ref.sms)).2)

/-- `loadRuntimeConfig`: the SMS credentials get a cell of their own. -/
def loadRuntimeRef (store : TenantStore) (decrypt : GoString → Option GoString)
    (tenantID : GoString) (heap : Heap) : Except TenantError (RuntimeRef × Heap) :=
  match loadRuntime store decrypt tenantID with
  | .error e => .error e
  | .ok value =>
    .ok ({ value with sms := (heap.allocate value.sms).1 }, (heap.allocate value.sms).2)

/-! ## One repository -/

/-- `Repository`: the key of its keeper and its caches. -/
structure CachedRepository where
  decrypt : GoString → Option GoString
  runtimeCache : GoString → Option RuntimeRef
  domainTenantCache : GoString → Option GoString

/-- What a lookup leaves: its answer, the repository and the heap. -/
abbrev Lookup := Except TenantError RuntimeRef × CachedRepository × Heap

namespace CachedRepository

/-- `NewRepository`. -/
def new (decrypt : GoString → Option GoString) : CachedRepository :=
  ⟨decrypt, fun _ => none, fun _ => none⟩

/-- `clearCaches`. -/
def clearCaches (repo : CachedRepository) : CachedRepository := new repo.decrypt

/-- `cacheRuntimeConfig`. -/
def cacheRuntimeConfig (repo : CachedRepository) (tenantID : GoString) (ref : RuntimeRef) :
    CachedRepository :=
  if tenantID = [] then repo
  else { repo with runtimeCache := Function.update repo.runtimeCache tenantID (some ref) }

/-- `cacheTenantID`. -/
def cacheTenantID (repo : CachedRepository) (host tenantID : GoString) : CachedRepository :=
  if host = [] ∨ tenantID = [] then repo
  else { repo with
    domainTenantCache := Function.update repo.domainTenantCache host (some tenantID) }

/-- `runtimeConfig`: a clone of the cached configuration, else it is loaded,
cached, and a clone is returned. -/
def runtimeConfig (repo : CachedRepository) (store : TenantStore) (heap : Heap)
    (tenantID : GoString) : Lookup :=
  match repo.runtimeCache tenantID with
  | some cached =>
    let (clone, heap) := cloneRuntimeConfig heap cached
    (.ok clone, repo, heap)
  | none =>
    match loadRuntimeRef store repo.decrypt tenantID heap with
    | .error e => (.error e, repo, heap)
    | .ok (loaded, heap) =>
      let (clone, heap) := cloneRuntimeConfig heap loaded
      (.ok clone, repo.cacheRuntimeConfig tenantID loaded, heap)

/-- `ResolveByHost`. -/
def resolveByHost (repo : CachedRepository) (store : TenantStore) (heap : Heap)
    (host : GoString) : Lookup :=
  let normalized := normalizeHost host
  if normalized = [] then (.error .emptyHost, repo, heap)
  else match repo.domainTenantCache normalized with
    | some cachedTenantID => repo.runtimeConfig store heap cachedTenantID
    | none =>
      match store.domains.first (matchesField [] normalized ·.host) with
      | none => (.error (.domainNotFound normalized), repo, heap)
      | some domain =>
        match repo.runtimeConfig store heap domain.tenantID with
        | (.error e, repo, heap) => (.error e, repo, heap)
        | (.ok ref, repo, heap) => (.ok ref, repo.cacheTenantID normalized domain.tenantID, heap)

/-- `ResolveByID`. -/
def resolveByID (repo : CachedRepository) (store : TenantStore) (heap : Heap)
    (tenantID : GoString) : Lookup :=
  if trimSpace tenantID = [] then (.error .invalidTenantID, repo, heap)
  else repo.runtimeConfig store heap (trimSpace tenantID)

end CachedRepository

/-- The two lookups. -/
inductive Query where
  | byHost (host : GoString)
  | byID (tenantID : GoString)
deriving DecidableEq, Repr

/-- A lookup in one repository. -/
def CachedRepository.resolve (repo : CachedRepository) (store : TenantStore) (heap : Heap) :
    Query → Lookup
  | .byHost host => repo.resolveByHost store heap host
  | .byID tenantID => repo.resolveByID store heap tenantID

/-- The answer of a lookup as the caller sees it. -/
def Lookup.answer (lookup : Lookup) : Except TenantError RuntimeValue :=
  lookup.1.map (RuntimeRef.read lookup.2.2)

/-! ## The world -/

/-- The database, the heap, the registered repositories and the pointers that
callers hold. -/
structure World where
  db : Database
  heap : Heap
  repos : List CachedRepository
  handed : List Nat

/-- What can happen. Calls do not overlap. -/
inductive WorldAction where
  | newRepository (decrypt : GoString → Option GoString)
  | bootstrap (keeper : SecretKeeper) (draws : Draws) (cfg : BootstrapConfig)
  | resolve (repo : Nat) (query : Query)
  | modify (pointer : Nat) (value : SMSCredentials)

namespace World

/-- Only a database: nothing is allocated and no repository exists. -/
def new (db : Database) : World := ⟨db, [], [], []⟩

/-- `Bootstrap`, with `invalidateRegisteredRepositories` when it succeeds. -/
def bootstrap (w : World) (keeper : SecretKeeper) (draws : Draws) (cfg : BootstrapConfig) :
    Except BootstrapError Unit × World :=
  match Tenancy.bootstrap keeper draws cfg w.db with
  | (.error e, db) => (.error e, { w with db })
  | (.ok (), db) => (.ok (), { w with db, repos := w.repos.map (·.clearCaches) })

/-- The pointers a caller gets with an answer. -/
def handedBy (result : Except TenantError RuntimeRef) : List Nat :=
  match result with
  | .error _ => []
  | .ok ref => ref.sms.toList

/-- A lookup in the repository at a position, if there is one. -/
def resolve (w : World) (position : Nat) (query : Query) : Option (Lookup × World) :=
  match w.repos[position]? with
  | none => none
  | some repo =>
    let lookup := repo.resolve w.db.tenancy w.heap query
    some (lookup, { w with
      heap := lookup.2.2
      repos := w.repos.set position lookup.2.1
      handed := w.handed ++ handedBy lookup.1 })

/-- One step. A caller writes only through a pointer it was given. -/
def step (w : World) : WorldAction → Option World
  | .newRepository decrypt => some { w with repos := w.repos ++ [.new decrypt] }
  | .bootstrap keeper draws cfg => some (w.bootstrap keeper draws cfg).2
  | .resolve position query => (w.resolve position query).map (·.2)
  | .modify pointer value =>
    if pointer ∈ w.handed then some { w with heap := w.heap.set pointer value } else none

end World

end Pinguin.Tenancy
