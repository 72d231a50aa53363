/-
Pinguin.Api.DomainTheorems — which tenants an email domain opens.

A session without administrator access is let in by the domain of its email
address. What the code compares with the tenants' hosts is the text behind
the first `@`, up to a colon; the domain of an address is the text behind
its last `@`. For each address the access is sound, over all stores and
requests, exactly when the two agree or nothing is compared.
-/
import Pinguin.Api.Http

namespace Pinguin.Api

open Pinguin.Go Pinguin.Lib Pinguin.Notify Pinguin.Tenancy

/-- The domain of an email address: what follows the last `@`, trimmed, in
lower case. -/
def emailDomain (email : GoString) : GoString :=
  toLower (trimSpace (email.rtakeWhile (· != 0x40)))

/-- The tenant is active and has a domain with the host. -/
def ActiveWithHost (store : TenantStore) (tenantID host : GoString) : Prop :=
  ∃ tenant ∈ store.tenants.rows, tenant.id = tenantID ∧ tenant.status = .active ∧
    ∃ domain ∈ store.domains.rows, domain.tenantID = tenantID ∧ domain.host = host

/-- What the code compares is the domain, or nothing. -/
def ComparesDomain (email : GoString) : Prop :=
  ∀ compared ∈ sessionEmailDomain ⟨[], email⟩, normalizeHost compared = emailDomain email

instance decidableComparesDomain (email : GoString) : Decidable (ComparesDomain email) := by
  unfold ComparesDomain
  infer_instance

/-! ## What is granted -/

theorem mem_listActiveTenantsByDomain {store : TenantStore} {domain : GoString} {tenant : Tenant} :
    tenant ∈ store.listActiveTenantsByDomain domain ↔
      tenant ∈ store.tenants.rows ∧ tenant.status = .active ∧
        ∃ d ∈ store.domains.rows, d.tenantID = tenant.id ∧ d.host = normalizeHost domain := by
  simp only [TenantStore.listActiveTenantsByDomain, TenantStore.byDisplayName,
    List.mem_insertionSort, List.mem_flatMap, List.mem_map, Table.select, List.mem_filter,
    Bool.and_eq_true, decide_eq_true_eq]
  constructor
  · rintro ⟨t, ⟨ht, hactive⟩, d, ⟨hd, hid, hhost⟩, rfl⟩
    exact ⟨ht, hactive, d, hd, hid, hhost⟩
  · rintro ⟨ht, hactive, d, hd, hid, hhost⟩
    exact ⟨tenant, ⟨ht, hactive⟩, d, ⟨hd, hid, hhost⟩, rfl⟩

theorem sessionEmailDomain_roles (session : Session) :
    sessionEmailDomain session = sessionEmailDomain ⟨[], session.userEmail⟩ := rfl

/-- Without administrator access, a grant comes from an active tenant with
the compared host. -/
theorem granted_by_domain {repo : Repository} {session : Session} {rawTenantID : GoString}
    {runtime : RuntimeConfig} (hadmin : sessionHasAdminAccess repo.store session = false)
    (h : (resolveNotificationContext repo session rawTenantID).1 = .ok runtime) :
    ∃ compared ∈ sessionEmailDomain session,
      ActiveWithHost repo.store (trimSpace rawTenantID) (normalizeHost compared) := by
  simp only [resolveNotificationContext] at h
  split at h
  · cases h
  · cases hauth : authorizeNotificationTenant repo.store session (trimSpace rawTenantID) with
    | error e => rw [hauth] at h; cases h
    | ok _ =>
      rw [authorizeNotificationTenant, hadmin, if_neg Bool.false_ne_true] at hauth
      split at hauth
      · cases hauth
      · rename_i compared hcompared
        split at hauth
        · rename_i hany
          obtain ⟨tenant, htenant, hid⟩ := List.any_eq_true.mp hany
          obtain ⟨hmem, hactive, d, hd, hdid, hhost⟩ := mem_listActiveTenantsByDomain.mp htenant
          have hid' : tenant.id = trimSpace rawTenantID := by simpa using hid
          exact ⟨compared, hcompared, tenant, hmem, hid', hactive, d, hd, hdid.trans hid', hhost⟩
        · cases hauth

/-! ## A store with one tenant -/

/-- One active tenant with one host. -/
def oneTenantStore (host : GoString) : TenantStore where
  tenants := Table.empty.put ⟨lit "t", lit "T", .active, []⟩
  domains := Table.empty.put ⟨1, lit "t", host, true⟩
  admins := Table.empty
  emailProfiles := Table.empty.put ⟨lit "p", lit "t", lit "smtp", 25, [], [], lit "a@t", true⟩
  smsProfiles := Table.empty
  uniqueHost := Table.uniqueIndex_empty.put fun _ h => absurd h List.not_mem_nil
  uniqueAdmin := Table.uniqueIndex_empty

def oneTenantRepository (host : GoString) : Repository := .new (oneTenantStore host) some

/-- Whoever is compared with that host gets the tenant. -/
theorem oneTenant_granted {email compared : GoString}
    (h : compared ∈ sessionEmailDomain ⟨[], email⟩) :
    (resolveNotificationContext (oneTenantRepository (normalizeHost compared)) ⟨[], email⟩
      (lit "t")).1 = .ok ⟨lit "t", ⟨lit "smtp", 25, [], [], lit "a@t"⟩, none⟩ := by
  set host := normalizeHost compared with hhost
  have hadmin : sessionHasAdminAccess (oneTenantStore host) ⟨[], email⟩ = false := by
    have hnone : (oneTenantStore host).admins.rows = [] := rfl
    simp [sessionHasAdminAccess, sessionHasAdminRole, TenantStore.isActiveTenantAdmin, hnone]
  have hlisted : ⟨lit "t", lit "T", .active, []⟩ ∈ (oneTenantStore host).listActiveTenantsByDomain
      compared :=
    mem_listActiveTenantsByDomain.mpr ⟨List.mem_singleton.mpr rfl, rfl, ⟨1, lit "t", host, true⟩,
      List.mem_singleton.mpr rfl, rfl, hhost⟩
  have hauth : authorizeNotificationTenant (oneTenantStore host) ⟨[], email⟩ (lit "t") = .ok () := by
    have hany : ((oneTenantStore host).listActiveTenantsByDomain compared).any
        (·.id = lit "t") = true := List.any_eq_true.mpr ⟨_, hlisted, by simp⟩
    rw [authorizeNotificationTenant, hadmin, if_neg Bool.false_ne_true, Option.mem_def.mp h]
    simp only [hany, if_true]
  have htrim : trimSpace (lit "t") = lit "t" := by decide
  have hstore : (oneTenantRepository host).store = oneTenantStore host := rfl
  have hresolve : ((oneTenantRepository host).resolveByID (lit "t")).1 =
      .ok ⟨lit "t", ⟨lit "smtp", 25, [], [], lit "a@t"⟩, none⟩ := rfl
  simp only [resolveNotificationContext, htrim, hstore, hauth]
  rw [if_neg (by decide)]
  generalize (oneTenantRepository host).resolveByID (lit "t") = resolved at hresolve
  obtain ⟨result, repo⟩ := resolved
  obtain rfl : result = _ := hresolve
  rfl

/-! ## Soundness -/

/-- **Domain-based access**, for one email address: over all repositories,
sessions with that address and requested tenants, access is sound exactly
when the compared host is the domain of the address. -/
theorem domain_access_sound_iff (email : GoString) :
    (∀ (repo : Repository) (session : Session) (rawTenantID : GoString) (runtime : RuntimeConfig),
      session.userEmail = email → sessionHasAdminRole session = false →
      repo.store.isActiveTenantAdmin session.userEmail = false →
      (resolveNotificationContext repo session rawTenantID).1 = .ok runtime →
      ActiveWithHost repo.store (trimSpace rawTenantID) (emailDomain email)) ↔
    ComparesDomain email := by
  constructor
  · intro hsound compared hcompared
    have hgranted := oneTenant_granted hcompared
    have hadmin : (oneTenantRepository (normalizeHost compared)).store.isActiveTenantAdmin email =
        false := by
      have hnone : (oneTenantRepository (normalizeHost compared)).store.admins.rows = [] := rfl
      simp [TenantStore.isActiveTenantAdmin, hnone]
    obtain ⟨-, -, -, -, domain, hdomain, -, hhost⟩ :=
      hsound _ ⟨[], email⟩ (lit "t") _ rfl rfl hadmin hgranted
    rw [← hhost, List.mem_singleton.mp hdomain]
  · intro hcompares repo session rawTenantID runtime hemail hrole hnone hgranted
    have hadmin : sessionHasAdminAccess repo.store session = false := by
      rw [sessionHasAdminAccess, hrole, hnone]
      rfl
    obtain ⟨compared, hcompared, hactive⟩ := granted_by_domain hadmin hgranted
    rw [sessionEmailDomain_roles, hemail] at hcompared
    rwa [hcompares compared hcompared] at hactive

/-- A stranger's address that opens the tenant of `victim.com`. -/
theorem foreign_domain_granted :
    (resolveNotificationContext (oneTenantRepository (lit "victim.com"))
      ⟨[], lit "x@victim.com:@evil.com"⟩ (lit "t")).1 =
        .ok ⟨lit "t", ⟨lit "smtp", 25, [], [], lit "a@t"⟩, none⟩ ∧
    emailDomain (lit "x@victim.com:@evil.com") = lit "evil.com" ∧
    ¬ActiveWithHost (oneTenantStore (lit "victim.com")) (lit "t")
      (emailDomain (lit "x@victim.com:@evil.com")) := by
  refine ⟨by decide, by decide, ?_⟩
  rintro ⟨-, -, -, -, domain, hdomain, -, hhost⟩
  rw [List.mem_singleton.mp hdomain] at hhost
  exact absurd hhost (by decide)

/-- An ordinary address is compared by its domain. -/
example : ComparesDomain (lit " Ann@Victim.com ") := by decide

end Pinguin.Api
