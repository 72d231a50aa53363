/-
Pinguin.Tenancy.CacheTheorems — the tenant caches are transparent.

`lookup` is what the tables alone answer to a query. A repository is
`Coherent` with the tables when whatever it has cached is what the tables
answer, and when no caller holds a pointer into its cache. Every step of the
world keeps all repositories coherent, so in every world reached every
repository answers like the tables, and like a new repository.
-/
import Pinguin.Tenancy.Caches

namespace Pinguin.Tenancy

open Pinguin.Go Pinguin.Lib Pinguin.Notify

/-! ## What the tables answer -/

/-- The answer to a query without caches. -/
def lookup (store : TenantStore) (decrypt : GoString → Option GoString) :
    Query → Except TenantError RuntimeValue
  | .byHost host =>
    if normalizeHost host = [] then .error .emptyHost
    else match store.domains.first (matchesField [] (normalizeHost host) ·.host) with
      | none => .error (.domainNotFound (normalizeHost host))
      | some domain => loadRuntime store decrypt domain.tenantID
  | .byID tenantID =>
    if trimSpace tenantID = [] then .error .invalidTenantID
    else loadRuntime store decrypt (trimSpace tenantID)

/-- The lookups of the notification service are these, for what they read. -/
theorem repository_resolveByID (store : TenantStore) (decrypt : GoString → Option GoString)
    (tenantID : GoString) : ((Repository.new store decrypt).resolveByID tenantID).1 =
      (lookup store decrypt (.byID tenantID)).map TenantRuntime.config := by
  simp only [Repository.resolveByID, lookup]
  split
  · rfl
  · rw [← loadRuntimeConfig_eq]
    exact Repository.runtimeConfig_new store decrypt _

theorem repository_resolveByHost (store : TenantStore) (decrypt : GoString → Option GoString)
    (host : GoString) : ((Repository.new store decrypt).resolveByHost host).1 =
      (lookup store decrypt (.byHost host)).map TenantRuntime.config := by
  have hcache : (Repository.new store decrypt).domainTenantCache (normalizeHost host) = none := rfl
  have hstore : (Repository.new store decrypt).store = store := rfl
  simp only [Repository.resolveByHost, lookup, hcache, hstore]
  split
  · rfl
  · cases store.domains.first (matchesField [] (normalizeHost host) ·.host) with
    | none => rfl
    | some domain =>
      have hnew := Repository.runtimeConfig_new store decrypt domain.tenantID
      rw [loadRuntimeConfig_eq] at hnew
      simp only
      generalize (Repository.new store decrypt).runtimeConfig domain.tenantID = result at hnew
      obtain ⟨result, repo⟩ := result
      obtain rfl : result = _ := hnew
      cases loadRuntime store decrypt domain.tenantID with
      | error e => rfl
      | ok value => rfl

/-! ## The heap -/

theorem Heap.allocate_heap (heap : Heap) (value : Option SMSCredentials) :
    (heap.allocate value).2 = heap ++ value.toList := by
  cases value with
  | none => exact (List.append_nil heap).symm
  | some value => rfl

theorem Heap.read_allocate (heap : Heap) (value : Option SMSCredentials) :
    Heap.read (heap.allocate value).2 (heap.allocate value).1 = value := by
  cases value with
  | none => rfl
  | some value => simp [Heap.allocate, Heap.read]

/-- A new pointer points behind the old heap, into the new one. -/
theorem Heap.allocate_pointer {heap : Heap} {value : Option SMSCredentials} {pointer : Nat}
    (h : (heap.allocate value).1 = some pointer) :
    pointer = heap.length ∧ pointer < (heap.allocate value).2.length := by
  cases value with
  | none => cases h
  | some value =>
    cases h
    exact ⟨rfl, by simp [Heap.allocate]⟩

/-- Old cells are read as before. -/
theorem Heap.read_append {heap : Heap} (more : Heap) {pointer : Option Nat}
    (h : ∀ p, pointer = some p → p < heap.length) :
    Heap.read (heap ++ more) pointer = heap.read pointer := by
  cases pointer with
  | none => rfl
  | some p => exact List.getElem?_append_left (h p rfl)

theorem Heap.read_set {heap : Heap} {written : Nat} (value : SMSCredentials) {pointer : Option Nat}
    (h : pointer ≠ some written) : Heap.read (heap.set written value) pointer = heap.read pointer := by
  cases pointer with
  | none => rfl
  | some p =>
    have hne : written ≠ p := fun heq => h (congrArg some heq.symm)
    exact List.getElem?_set_ne hne

/-! ## What is cached -/

/-- An entry of a map after a write is an old one or the one written. -/
theorem some_of_update {κ ν : Type} [DecidableEq κ] {map : κ → Option ν} {key k : κ} {value v : ν}
    (h : Function.update map key (some value) k = some v) :
    map k = some v ∨ k = key ∧ v = value := by
  by_cases hkey : k = key
  · subst hkey
    rw [Function.update_self] at h
    exact .inr ⟨rfl, (Option.some.inj h).symm⟩
  · rw [Function.update_of_ne hkey] at h
    exact .inl h

namespace CachedRepository

variable {repo : CachedRepository} {tenantID host : GoString} {ref : RuntimeRef}

theorem cacheRuntimeConfig_decrypt : (repo.cacheRuntimeConfig tenantID ref).decrypt = repo.decrypt := by
  rw [cacheRuntimeConfig]
  split
  · rfl
  · rfl

theorem cacheRuntimeConfig_domains :
    (repo.cacheRuntimeConfig tenantID ref).domainTenantCache = repo.domainTenantCache := by
  rw [cacheRuntimeConfig]
  split
  · rfl
  · rfl

theorem cached_of_cacheRuntimeConfig {id : GoString} {cached : RuntimeRef}
    (h : (repo.cacheRuntimeConfig tenantID ref).runtimeCache id = some cached) :
    repo.runtimeCache id = some cached ∨ id = tenantID ∧ cached = ref := by
  rw [cacheRuntimeConfig] at h
  split at h
  · exact .inl h
  · exact some_of_update h

theorem cacheTenantID_decrypt : (repo.cacheTenantID host tenantID).decrypt = repo.decrypt := by
  rw [cacheTenantID]
  split
  · rfl
  · rfl

theorem cacheTenantID_runtime :
    (repo.cacheTenantID host tenantID).runtimeCache = repo.runtimeCache := by
  rw [cacheTenantID]
  split
  · rfl
  · rfl

theorem cached_of_cacheTenantID {name id : GoString}
    (h : (repo.cacheTenantID host tenantID).domainTenantCache name = some id) :
    repo.domainTenantCache name = some id ∨ name = host ∧ id = tenantID := by
  rw [cacheTenantID] at h
  split at h
  · exact .inl h
  · exact some_of_update h

end CachedRepository

/-! ## Coherent repositories -/

/-- What the repository has cached is what the tables answer, in cells of
its own. -/
structure Coherent (store : TenantStore) (heap : Heap) (handed : List Nat)
    (repo : CachedRepository) : Prop where
  runtime : ∀ tenantID ref, repo.runtimeCache tenantID = some ref →
    loadRuntime store repo.decrypt tenantID = .ok (RuntimeRef.read heap ref)
  own : ∀ tenantID ref pointer, repo.runtimeCache tenantID = some ref → ref.sms = some pointer →
    pointer < heap.length ∧ pointer ∉ handed
  domain : ∀ host tenantID, repo.domainTenantCache host = some tenantID →
    ∃ row, store.domains.first (matchesField [] host ·.host) = some row ∧ row.tenantID = tenantID

theorem coherent_new (store : TenantStore) (heap : Heap) (handed : List Nat)
    (decrypt : GoString → Option GoString) : Coherent store heap handed (.new decrypt) := by
  constructor
  case runtime => exact fun _ _ h => absurd h (by simp [CachedRepository.new])
  case own => exact fun _ _ _ h => absurd h (by simp [CachedRepository.new])
  case domain => exact fun _ _ h => absurd h (by simp [CachedRepository.new])

section

variable {store : TenantStore} {heap : Heap} {handed : List Nat} {repo : CachedRepository}

/-- More cells, and pointers to those handed out, change nothing. -/
theorem Coherent.extend (h : Coherent store heap handed repo) (more : Heap) {handed' : List Nat}
    (hhanded : ∀ p ∈ handed', p ∈ handed ∨ heap.length ≤ p) :
    Coherent store (heap ++ more) handed' repo := by
  constructor
  case runtime =>
    intro tenantID ref href
    have hread := Heap.read_append more fun p hp => (h.own tenantID ref p href hp).1
    rw [h.runtime tenantID ref href, RuntimeRef.read, RuntimeRef.read, hread]
  case own =>
    intro tenantID ref p href hp
    obtain ⟨hlt, hnot⟩ := h.own tenantID ref p href hp
    refine ⟨by rw [List.length_append]; omega, fun hmem => ?_⟩
    rcases hhanded p hmem with hold | hnew
    · exact hnot hold
    · omega
  case domain => exact h.domain

/-- A caller writes through a pointer it was given. -/
theorem Coherent.modify (h : Coherent store heap handed repo) {pointer : Nat}
    (hpointer : pointer ∈ handed) (value : SMSCredentials) :
    Coherent store (heap.set pointer value) handed repo := by
  constructor
  case runtime =>
    intro tenantID ref href
    have hne : ref.sms ≠ some pointer := fun hp => (h.own tenantID ref pointer href hp).2 hpointer
    have hread : Heap.read (heap.set pointer value) ref.sms = heap.read ref.sms :=
      Heap.read_set value hne
    rw [h.runtime tenantID ref href, RuntimeRef.read, RuntimeRef.read, hread]
  case own =>
    intro tenantID ref p href hp
    rw [List.length_set]
    exact h.own tenantID ref p href hp
  case domain => exact h.domain

/-- Caching what was just loaded, in a cell no caller has. -/
theorem Coherent.cacheRuntimeConfig (h : Coherent store heap handed repo) {tenantID : GoString}
    {ref : RuntimeRef} (hload : loadRuntime store repo.decrypt tenantID =
      .ok (RuntimeRef.read heap ref))
    (hown : ∀ pointer, ref.sms = some pointer → pointer < heap.length ∧ pointer ∉ handed) :
    Coherent store heap handed (repo.cacheRuntimeConfig tenantID ref) := by
  constructor
  case runtime =>
    intro id cached hcached
    rw [CachedRepository.cacheRuntimeConfig_decrypt]
    rcases CachedRepository.cached_of_cacheRuntimeConfig hcached with hold | ⟨rfl, rfl⟩
    · exact h.runtime id cached hold
    · exact hload
  case own =>
    intro id cached pointer hcached hpointer
    rcases CachedRepository.cached_of_cacheRuntimeConfig hcached with hold | ⟨rfl, rfl⟩
    · exact h.own id cached pointer hold hpointer
    · exact hown pointer hpointer
  case domain =>
    rw [CachedRepository.cacheRuntimeConfig_domains]
    exact h.domain

theorem Coherent.cacheTenantID (h : Coherent store heap handed repo) {host : GoString}
    {row : TenantDomain} (hrow : store.domains.first (matchesField [] host ·.host) = some row) :
    Coherent store heap handed (repo.cacheTenantID host row.tenantID) := by
  constructor
  case runtime =>
    rw [CachedRepository.cacheTenantID_runtime, CachedRepository.cacheTenantID_decrypt]
    exact h.runtime
  case own =>
    rw [CachedRepository.cacheTenantID_runtime]
    exact h.own
  case domain =>
    intro name tenantID hcached
    rcases CachedRepository.cached_of_cacheTenantID hcached with hold | ⟨rfl, rfl⟩
    · exact h.domain name tenantID hold
    · exact ⟨row, hrow, rfl⟩

end

/-! ## One lookup -/

/-- A lookup that answers as expected and leaves a coherent repository: it
only adds cells, and the pointer it hands out is one of those. -/
structure Answers (store : TenantStore) (heap : Heap) (handed : List Nat)
    (expected : Except TenantError RuntimeValue) (result : Lookup) : Prop where
  answer : result.answer = expected
  extends_heap : heap <+: result.2.2
  fresh : ∀ p ∈ World.handedBy result.1, heap.length ≤ p ∧ p < result.2.2.length
  coherent : Coherent store result.2.2 (handed ++ World.handedBy result.1) result.2.1

section

variable {store : TenantStore} {heap : Heap} {handed : List Nat} {repo : CachedRepository}

/-- A lookup that fails changes nothing. -/
theorem answers_error (h : Coherent store heap handed repo) (e : TenantError) :
    Answers store heap handed (.error e) (.error e, repo, heap) := by
  constructor
  case answer => rfl
  case extends_heap => exact List.prefix_refl heap
  case fresh => exact fun _ hp => absurd hp List.not_mem_nil
  case coherent => simpa [World.handedBy] using h

/-- A clone is read as what was cloned, and is new. -/
theorem answers_clone (h : Coherent store heap handed repo) (ref : RuntimeRef) :
    Answers store heap handed (.ok (RuntimeRef.read heap ref))
      (.ok (cloneRuntimeConfig heap ref).1, repo, (cloneRuntimeConfig heap ref).2) := by
  have hheap : (cloneRuntimeConfig heap ref).2 = heap ++ (heap.read ref.sms).toList :=
    Heap.allocate_heap heap _
  constructor
  case answer =>
    exact congrArg (fun sms => Except.ok (TenantRuntime.mk ref.tenant ref.email sms))
      (Heap.read_allocate heap (heap.read ref.sms))
  case extends_heap => exact ⟨_, hheap.symm⟩
  case fresh =>
    intro p hp
    obtain ⟨heq, hlt⟩ := Heap.allocate_pointer (Option.mem_toList.mp hp)
    exact ⟨heq.ge, hlt⟩
  case coherent =>
    simp only [hheap]
    refine h.extend _ fun p hp => ?_
    rcases List.mem_append.mp hp with hold | hnew
    · exact .inl hold
    · exact .inr (Heap.allocate_pointer (Option.mem_toList.mp hnew)).1.ge

/-- **`runtimeConfig`** answers what the tables hold. -/
theorem runtimeConfig_answers (h : Coherent store heap handed repo)
    (hbound : ∀ p ∈ handed, p < heap.length) (tenantID : GoString) :
    Answers store heap handed (loadRuntime store repo.decrypt tenantID)
      (repo.runtimeConfig store heap tenantID) := by
  rw [CachedRepository.runtimeConfig]
  cases hcached : repo.runtimeCache tenantID with
  | some cached =>
    rw [h.runtime tenantID cached hcached]
    exact answers_clone h cached
  | none =>
    simp only [loadRuntimeRef]
    cases hload : loadRuntime store repo.decrypt tenantID with
    | error e => exact answers_error h e
    | ok value =>
      simp only
      -- the cell of the loaded configuration, then the clone's
      set loaded : RuntimeRef := { value with sms := (heap.allocate value.sms).1 } with hloaded
      set grown := (heap.allocate value.sms).2 with hgrown
      have hread : RuntimeRef.read grown loaded = value :=
        congrArg (TenantRuntime.mk value.tenant value.email) (Heap.read_allocate heap value.sms)
      have hheap : grown = heap ++ value.sms.toList := Heap.allocate_heap heap _
      have hgrows : heap <+: grown := ⟨_, hheap.symm⟩
      have hlength : heap.length ≤ grown.length := by
        rw [hheap, List.length_append]
        omega
      have hgrown_coherent : Coherent store grown handed repo :=
        hheap ▸ h.extend _ fun p hp => .inl hp
      have hcoherent : Coherent store grown handed (repo.cacheRuntimeConfig tenantID loaded) := by
        refine hgrown_coherent.cacheRuntimeConfig (by rw [hload, hread]) fun pointer hpointer => ?_
        obtain ⟨heq, hlt⟩ := Heap.allocate_pointer hpointer
        refine ⟨hlt, fun hmem => ?_⟩
        have := hbound pointer hmem
        omega
      have hclone := answers_clone hcoherent loaded
      rw [hread] at hclone
      constructor
      case answer => exact hclone.answer
      case extends_heap => exact hgrows.trans hclone.extends_heap
      case fresh => exact fun p hp => ⟨hlength.trans (hclone.fresh p hp).1, (hclone.fresh p hp).2⟩
      case coherent => exact hclone.coherent

/-- **A lookup** in a coherent repository answers what the tables answer. -/
theorem resolve_answers (h : Coherent store heap handed repo)
    (hbound : ∀ p ∈ handed, p < heap.length) (query : Query) :
    Answers store heap handed (lookup store repo.decrypt query) (repo.resolve store heap query) := by
  cases query with
  | byID tenantID =>
    simp only [CachedRepository.resolve, CachedRepository.resolveByID, lookup]
    split
    · exact answers_error h _
    · exact runtimeConfig_answers h hbound _
  | byHost host =>
    simp only [CachedRepository.resolve, CachedRepository.resolveByHost, lookup]
    split
    · exact answers_error h _
    · cases hcached : repo.domainTenantCache (normalizeHost host) with
      | some tenantID =>
        obtain ⟨row, hrow, rfl⟩ := h.domain _ _ hcached
        simp only [hrow]
        exact runtimeConfig_answers h hbound _
      | none =>
        cases hrow : store.domains.first (matchesField [] (normalizeHost host) ·.host) with
        | none => exact answers_error h _
        | some row =>
          have hanswers := runtimeConfig_answers h hbound row.tenantID
          simp only
          generalize repo.runtimeConfig store heap row.tenantID = result at hanswers ⊢
          obtain ⟨result, repo', heap'⟩ := result
          cases result with
          | error e => exact hanswers
          | ok ref =>
            have hcoherent : Coherent store heap' (handed ++ World.handedBy (.ok ref)) repo' :=
              hanswers.coherent
            constructor
            case answer => exact hanswers.answer
            case extends_heap => exact hanswers.extends_heap
            case fresh => exact hanswers.fresh
            case coherent => exact hcoherent.cacheTenantID hrow

end

/-! ## Runs -/

/-- All repositories are coherent, and callers hold pointers into the heap. -/
structure World.Coherent (w : World) : Prop where
  repos : ∀ repo ∈ w.repos, Tenancy.Coherent w.db.tenancy w.heap w.handed repo
  handed : ∀ p ∈ w.handed, p < w.heap.length

theorem World.coherent_new (db : Database) : (World.new db).Coherent :=
  ⟨fun _ h => absurd h List.not_mem_nil, fun _ h => absurd h List.not_mem_nil⟩

/-- A `Bootstrap` that fails leaves the database alone. -/
theorem bootstrap_failed {keeper : SecretKeeper} {draws : Draws} {cfg : BootstrapConfig}
    {db : Database} (h : (bootstrap keeper draws cfg db).1 ≠ .ok ()) :
    (bootstrap keeper draws cfg db).2 = db := by
  revert h
  simp only [bootstrap]
  cases checkBootstrap ((prepareBootstrapTenants draws cfg).map (·.1)) with
  | error e => exact fun _ => rfl
  | ok u =>
    cases bootstrapTransaction keeper draws (prepareBootstrapTenants draws cfg) db.tenancy with
    | error e => exact fun _ => rfl
    | ok store => exact fun h => absurd rfl h

/-- After a `Bootstrap` that succeeds every repository is like new. -/
theorem World.bootstrap_repos {w : World} {keeper : SecretKeeper} {draws : Draws}
    {cfg : BootstrapConfig} (h : (Tenancy.bootstrap keeper draws cfg w.db).1 = .ok ()) :
    (w.bootstrap keeper draws cfg).2 = { w with
      db := (Tenancy.bootstrap keeper draws cfg w.db).2
      repos := w.repos.map (·.clearCaches) } := by
  rw [World.bootstrap]
  generalize Tenancy.bootstrap keeper draws cfg w.db = result at h
  obtain ⟨result, db⟩ := result
  obtain rfl : result = .ok () := h
  rfl

theorem World.Coherent.bootstrap {w : World} (h : w.Coherent) (keeper : SecretKeeper)
    (draws : Draws) (cfg : BootstrapConfig) : (w.bootstrap keeper draws cfg).2.Coherent := by
  by_cases hok : (Tenancy.bootstrap keeper draws cfg w.db).1 = .ok ()
  · rw [World.bootstrap_repos hok]
    refine ⟨fun repo hrepo => ?_, h.handed⟩
    obtain ⟨old, -, rfl⟩ := List.mem_map.mp hrepo
    exact Tenancy.coherent_new _ _ _ _
  · have hdb := bootstrap_failed hok
    rw [World.bootstrap]
    generalize Tenancy.bootstrap keeper draws cfg w.db = result at hok hdb
    obtain ⟨result, db⟩ := result
    obtain rfl : db = w.db := hdb
    cases result with
    | error e => exact h
    | ok u => exact absurd rfl hok

theorem World.Coherent.resolve {w w' : World} (h : w.Coherent) {position : Nat} {query : Query}
    {result : Lookup} (hresolve : w.resolve position query = some (result, w')) : w'.Coherent := by
  rw [World.resolve] at hresolve
  cases hrepo : w.repos[position]? with
  | none => rw [hrepo] at hresolve; cases hresolve
  | some repo =>
    rw [hrepo] at hresolve
    cases hresolve
    have hmem := List.mem_of_getElem? hrepo
    have hanswers := resolve_answers (h.repos repo hmem) h.handed query
    obtain ⟨more, hmore⟩ := hanswers.extends_heap
    constructor
    case repos =>
      intro other hother
      rcases List.mem_or_eq_of_mem_set hother with hold | rfl
      · simp only [← hmore]
        refine (h.repos other hold).extend more fun p hp => ?_
        rcases List.mem_append.mp hp with hp | hp
        · exact .inl hp
        · exact .inr (hanswers.fresh p hp).1
      · exact hanswers.coherent
    case handed =>
      intro p hp
      rcases List.mem_append.mp hp with hp | hp
      · simp only [← hmore, List.length_append]
        have := h.handed p hp
        omega
      · exact (hanswers.fresh p hp).2

/-- Every step keeps the repositories coherent. -/
theorem World.Coherent.step {w w' : World} (h : w.Coherent) {action : WorldAction}
    (hstep : w.step action = some w') : w'.Coherent := by
  cases action with
  | newRepository decrypt =>
    cases hstep
    refine ⟨fun repo hrepo => ?_, h.handed⟩
    rcases List.mem_append.mp hrepo with hold | hnew
    · exact h.repos repo hold
    · rw [List.mem_singleton.mp hnew]
      exact Tenancy.coherent_new _ _ _ _
  | bootstrap keeper draws cfg =>
    cases hstep
    exact h.bootstrap keeper draws cfg
  | resolve position query =>
    obtain ⟨⟨result, next⟩, hresolve, rfl⟩ := Option.map_eq_some_iff.mp hstep
    exact h.resolve hresolve
  | modify pointer value =>
    rw [World.step] at hstep
    split at hstep
    · rename_i hpointer
      cases hstep
      refine ⟨fun repo hrepo => (h.repos repo hrepo).modify hpointer value, fun p hp => ?_⟩
      rw [List.length_set]
      exact h.handed p hp
    · cases hstep

theorem World.Coherent.exec {w w' : World} (h : w.Coherent) {actions : List WorldAction}
    (hrun : exec World.step w actions = some w') : w'.Coherent :=
  exec_invariant (fun _ _ _ hw hstep => hw.step hstep) actions w w' h hrun

/-- In a coherent world every lookup answers what the tables answer. -/
theorem World.Coherent.answer {w w' : World} (h : w.Coherent) {position : Nat} {query : Query}
    {repo : CachedRepository} {result : Lookup} (hrepo : w.repos[position]? = some repo)
    (hresolve : w.resolve position query = some (result, w')) :
    result.answer = lookup w.db.tenancy repo.decrypt query := by
  simp only [World.resolve, hrepo] at hresolve
  cases hresolve
  exact (resolve_answers (h.repos repo (List.mem_of_getElem? hrepo)) h.handed query).answer

/-- **The caches are transparent.** In every world that a run reaches, every
lookup in every repository answers what a new repository with the same key
would answer there. -/
theorem caches_transparent (db : Database) (actions : List WorldAction) (w : World)
    (hrun : exec World.step (World.new db) actions = some w) (position : Nat)
    (repo : CachedRepository) (hrepo : w.repos[position]? = some repo) (query : Query) :
    ∃ result w', w.resolve position query = some (result, w') ∧
      result.answer = Lookup.answer
        ((CachedRepository.new repo.decrypt).resolve w.db.tenancy w.heap query) := by
  have hcoherent : w.Coherent := (World.coherent_new db).exec hrun
  have hfresh := resolve_answers (coherent_new w.db.tenancy w.heap w.handed repo.decrypt)
    hcoherent.handed query
  obtain ⟨⟨result, w'⟩, hresolve⟩ : ∃ found, w.resolve position query = some found := by
    simp only [World.resolve, hrepo]
    exact ⟨_, rfl⟩
  refine ⟨result, w', hresolve, ?_⟩
  rw [hcoherent.answer hrepo hresolve, hfresh.answer]
  rfl

/-! ## A run -/

theorem plain_opens (_nonce plaintext : GoString) : some plaintext = some plaintext := rfl

/-- A keeper that hides nothing. -/
def plainKeeper : SecretKeeper := ⟨fun _ plaintext => plaintext, some, plain_opens⟩

/-- Row numbers from one, and ids that count the entry. -/
def countingDraws : Draws where
  entry i :=
    ⟨List.replicate (i + 1) 0x74, List.replicate (i + 1) 0x65, List.replicate (i + 1) 0x73,
      [], [], [], []⟩
  lastDomainID := 0
  lastAdminID := 0

/-- An entry with one domain and an SMS profile. -/
def sampleTenant (id domain : GoString) : BootstrapTenant :=
  ⟨id, lit "T", [], none, [], [domain], [],
    ⟨lit "smtp", 25, lit "user", lit "secret", lit "a@t.io"⟩,
    some ⟨lit "AC", lit "token", lit "+1"⟩⟩

def emptyDatabase : Database where
  tenancy := ⟨Table.empty, Table.empty, Table.empty, Table.empty, Table.empty,
    uniqueHost_empty, uniqueAdmin_empty⟩
  notifications := Table.empty

/-- A caller overwrites the credentials it was given. -/
def writeRun : List WorldAction :=
  [.newRepository some, .bootstrap plainKeeper countingDraws [sampleTenant (lit "t") (lit "t.io")],
    .resolve 0 (.byHost (lit "t.io")), .modify 1 ⟨[], [], []⟩]

/-- The next answer does not see it. -/
theorem caches_transparent_after_write :
    ∃ w, exec World.step (World.new emptyDatabase) writeRun = some w ∧
    ∃ repo, w.repos[0]? = some repo ∧ ∃ result w', w.resolve 0 (.byHost (lit "t.io")) =
      some (result, w') ∧ result.answer = Lookup.answer
        ((CachedRepository.new repo.decrypt).resolve w.db.tenancy w.heap (.byHost (lit "t.io"))) :=
  ⟨_, rfl, _, rfl, caches_transparent emptyDatabase writeRun _ rfl 0 _ rfl (.byHost (lit "t.io"))⟩

end Pinguin.Tenancy
