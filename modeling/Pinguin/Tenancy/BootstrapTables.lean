/-
Pinguin.Tenancy.BootstrapTables — what a run of `Bootstrap` writes.

`Rows` lists what an entry of the configuration adds to each table; `Grown`
says that a store has grown by such rows. Every statement of the
transaction grows the store by the rows it is there for, so the whole loop
grows it by the rows of all entries. The loop fails only on a status field
or on an administrator that one tenant would have twice, whatever was in
the tables before.
-/
import Pinguin.Go.RuneTheorems
import Pinguin.Tenancy.Bootstrap

namespace Pinguin.Tenancy

open Pinguin.Go Pinguin.Lib Pinguin.Notify

/-! ## Normalized lists -/

theorem mem_normalizeDomainHosts {domains : List GoString} {host : GoString} :
    host ∈ normalizeDomainHosts domains ↔
      host ≠ [] ∧ ∃ domain ∈ domains, normalizeDomainHost domain = host := by
  simp [normalizeDomainHosts, and_comm]

/-- A domain is blank exactly if its normal form is empty. -/
theorem normalizeDomainHost_eq_nil {domain : GoString} :
    normalizeDomainHost domain = [] ↔ trimSpace domain = [] := by
  constructor
  · intro h
    by_contra hne
    exact toLower_ne_nil hne h
  · intro h
    rw [normalizeDomainHost, h]
    rfl

/-! ## The domain check -/

theorem lookup_isSome_iff {seen : List (GoString × Nat)} {host : GoString} :
    (∃ index, seen.lookup host = some index) ↔ host ∈ seen.map (·.1) := by
  induction seen with
  | nil => simp
  | cons entry seen ih =>
    obtain ⟨name, index⟩ := entry
    rw [List.lookup_cons, List.map_cons, List.mem_cons]
    by_cases hname : host = name
    · simp [hname]
    · simp [beq_false_of_ne hname, ih, hname]

/-- The hosts of one entry pass when none is there twice or was seen before. -/
theorem validateTenantDomains_spec (tenantIndex : Nat) (domains : List GoString)
    (seen : List (GoString × Nat)) (count : Nat) (hseen : (seen.map (·.1)).Nodup) :
    ((seen.map (·.1) ++ normalizeDomainHosts domains).Nodup →
      ∃ seen', validateTenantDomains tenantIndex domains seen count =
          .ok (seen', count + (normalizeDomainHosts domains).length) ∧
        (seen'.map (·.1)).Perm (seen.map (·.1) ++ normalizeDomainHosts domains)) ∧
    (¬(seen.map (·.1) ++ normalizeDomainHosts domains).Nodup →
      ∃ e, validateTenantDomains tenantIndex domains seen count = .error e) := by
  induction domains generalizing seen count with
  | nil =>
    have hnil : normalizeDomainHosts [] = [] := rfl
    rw [hnil, List.append_nil]
    exact ⟨fun _ => ⟨seen, rfl, List.Perm.refl _⟩, fun h => absurd hseen h⟩
  | cons domain domains ih =>
    by_cases hblank : normalizeDomainHost domain = []
    · have hhosts : normalizeDomainHosts (domain :: domains) = normalizeDomainHosts domains := by
        simp [normalizeDomainHosts, hblank]
      simp only [validateTenantDomains, hblank, if_true, hhosts]
      exact ih seen count hseen
    · have hhosts : normalizeDomainHosts (domain :: domains) =
          normalizeDomainHost domain :: normalizeDomainHosts domains := by
        simp [normalizeDomainHosts, hblank]
      simp only [validateTenantDomains, hblank, if_false, hhosts]
      have hmiddle : (seen.map (·.1) ++ normalizeDomainHost domain :: normalizeDomainHosts domains).Perm
          (normalizeDomainHost domain :: seen.map (·.1) ++ normalizeDomainHosts domains) :=
        List.perm_middle
      cases hlookup : seen.lookup (normalizeDomainHost domain) with
      | some index =>
        have hmem := lookup_isSome_iff.mp ⟨index, hlookup⟩
        refine ⟨fun h => ?_, fun _ => ⟨_, rfl⟩⟩
        have hcons := hmiddle.nodup_iff.mp h
        exact absurd (List.mem_append_left _ hmem) (List.nodup_cons.mp hcons).1
      | none =>
        have hnot : normalizeDomainHost domain ∉ seen.map (·.1) := by
          intro hmem
          obtain ⟨index, hsome⟩ := lookup_isSome_iff.mpr hmem
          rw [hlookup] at hsome
          cases hsome
        obtain ⟨hok, herror⟩ := ih ((normalizeDomainHost domain, tenantIndex) :: seen) (count + 1)
          (List.nodup_cons.mpr ⟨hnot, hseen⟩)
        rw [hmiddle.nodup_iff]
        refine ⟨fun h => ?_, herror⟩
        obtain ⟨seen', hseen', hperm⟩ := hok h
        refine ⟨seen', ?_, hperm.trans hmiddle.symm⟩
        rw [hseen', List.length_cons, Nat.add_right_comm, Nat.add_assoc]

theorem validateBootstrapDomainsFrom_iff (tenantIndex : Nat) (specs : List BootstrapTenant)
    (seen : List (GoString × Nat)) (hseen : (seen.map (·.1)).Nodup) :
    validateBootstrapDomainsFrom tenantIndex specs seen = .ok () ↔
      (seen.map (·.1) ++ specs.flatMap (normalizeDomainHosts ·.domains)).Nodup ∧
        ∀ spec ∈ specs, normalizeDomainHosts spec.domains ≠ [] := by
  induction specs generalizing tenantIndex seen with
  | nil =>
    rw [List.flatMap_nil, List.append_nil]
    exact iff_of_true rfl ⟨hseen, fun _ h => absurd h List.not_mem_nil⟩
  | cons spec specs ih =>
    obtain ⟨hok, herror⟩ := validateTenantDomains_spec tenantIndex spec.domains seen 0 hseen
    rw [List.flatMap_cons, ← List.append_assoc]
    by_cases hnodup : (seen.map (·.1) ++ normalizeDomainHosts spec.domains).Nodup
    · obtain ⟨seen', hvalid, hperm⟩ := hok hnodup
      have hrest := ih (tenantIndex + 1) seen' (hperm.nodup_iff.mpr hnodup)
      rw [(hperm.append_right _).nodup_iff] at hrest
      simp only [validateBootstrapDomainsFrom, hvalid, Nat.zero_add, List.length_eq_zero_iff,
        List.forall_mem_cons]
      split
      · rename_i hempty
        exact iff_of_false (by simp) fun h => h.2.1 hempty
      · rename_i hsome
        rw [hrest]
        exact and_congr_right fun _ => ⟨fun h => ⟨hsome, h⟩, fun h => h.2⟩
    · obtain ⟨e, he⟩ := herror hnodup
      simp only [validateBootstrapDomainsFrom, he]
      exact iff_of_false (by simp) fun h => hnodup h.1.of_append_left

/-- **`validateBootstrapDomains`** passes when no host is there twice and every
entry has one. -/
theorem validateBootstrapDomains_iff (specs : List BootstrapTenant) :
    validateBootstrapDomains specs = .ok () ↔
      (specs.flatMap (normalizeDomainHosts ·.domains)).Nodup ∧
        ∀ spec ∈ specs, normalizeDomainHosts spec.domains ≠ [] :=
  validateBootstrapDomainsFrom_iff 0 specs [] List.nodup_nil

/-! ## Rows added to the tables -/

/-- A domain row without its number. -/
def TenantDomain.content (row : TenantDomain) : GoString × GoString × Bool :=
  (row.tenantID, row.host, row.isDefault)

/-- An administrator row without its number. -/
def TenantAdmin.content (row : TenantAdmin) : GoString × GoString := (row.tenantID, row.email)

/-- Rows for the five tables. -/
structure Rows where
  tenants : List Tenant := []
  domains : List (GoString × GoString × Bool) := []
  admins : List (GoString × GoString) := []
  emailProfiles : List EmailProfile := []
  smsProfiles : List SMSProfile := []

/-- The rows of both, in order. -/
def Rows.append (rows more : Rows) : Rows where
  tenants := rows.tenants ++ more.tenants
  domains := rows.domains ++ more.domains
  admins := rows.admins ++ more.admins
  emailProfiles := rows.emailProfiles ++ more.emailProfiles
  smsProfiles := rows.smsProfiles ++ more.smsProfiles

/-- The store has got these rows: tenants are written over, the numbered
tables get them at the end, profiles wherever their ids put them. -/
structure Grown (store store' : TenantStore) (rows : Rows) : Prop where
  tenants : store'.tenants = rows.tenants.foldl Table.put store.tenants
  domains : store'.domains.rows.map (·.content) = store.domains.rows.map (·.content) ++ rows.domains
  admins : store'.admins.rows.map (·.content) = store.admins.rows.map (·.content) ++ rows.admins
  emailProfiles :
    store'.emailProfiles.rows.Perm (store.emailProfiles.rows ++ rows.emailProfiles)
  smsProfiles : store'.smsProfiles.rows.Perm (store.smsProfiles.rows ++ rows.smsProfiles)

theorem Grown.of_tenants (store : TenantStore) (rows : List Tenant) :
    Grown store { store with tenants := rows.foldl Table.put store.tenants } { tenants := rows } := by
  constructor
  case tenants => rfl
  case domains => exact (List.append_nil _).symm
  case admins => exact (List.append_nil _).symm
  case emailProfiles => exact List.Perm.of_eq (List.append_nil _).symm
  case smsProfiles => exact List.Perm.of_eq (List.append_nil _).symm

theorem Grown.refl (store : TenantStore) : Grown store store {} := Grown.of_tenants store []

theorem Grown.trans {store store' store'' : TenantStore} {rows more : Rows}
    (h : Grown store store' rows) (h' : Grown store' store'' more) :
    Grown store store'' (rows.append more) := by
  constructor
  case tenants => rw [h'.tenants, h.tenants, Rows.append, List.foldl_append]
  case domains => rw [h'.domains, h.domains, Rows.append, List.append_assoc]
  case admins => rw [h'.admins, h.admins, Rows.append, List.append_assoc]
  case emailProfiles =>
    rw [Rows.append, ← List.append_assoc]
    exact h'.emailProfiles.trans (h.emailProfiles.append_right _)
  case smsProfiles =>
    rw [Rows.append, ← List.append_assoc]
    exact h'.smsProfiles.trans (h.smsProfiles.append_right _)

/-- The rows of one entry. -/
def entryRows (keeper : SecretKeeper) (entry : BootstrapTenant × EntryDraws) : Rows where
  tenants := [entry.1.tenantRow]
  domains := (normalizeDomainHosts entry.1.domains).zipIdx.map fun h => (entry.1.id, h.1, h.2 == 0)
  admins := (normalizeAdminEmails entry.1.admins).map fun email => (entry.1.id, email)
  emailProfiles := [entry.1.emailRow keeper entry.2]
  smsProfiles := entry.1.smsProfile.toList.map (·.row keeper entry.2 entry.1.id)

/-- The rows of all entries. -/
def configRows (keeper : SecretKeeper) : List (BootstrapTenant × EntryDraws) → Rows
  | [] => {}
  | entry :: entries => (entryRows keeper entry).append (configRows keeper entries)

/-! ## The statements -/

section

variable (store : TenantStore) (draws : Draws) (tenantID : GoString)

/-- A host that is new gets its row. -/
theorem createDomain_grown {host : GoString} (isDefault : Bool)
    (hnew : ∀ row ∈ store.domains.rows, row.host ≠ host) :
    Grown store (store.createDomain draws tenantID host isDefault)
      { domains := [(tenantID, host, isDefault)] } := by
  set row : TenantDomain :=
    ⟨nextRowID draws.lastDomainID (store.domains.rows.map (·.id)), tenantID, host, isDefault⟩
    with hrow
  have hlast : ∀ other ∈ store.domains.rows, other.id < row.id :=
    fun other hother => Table.lt_foldl_max hother
  have hfree : store.domains.Free TenantDomain.host row := fun other hother _ => hnew other hother
  simp only [TenantStore.createDomain, ← hrow, dif_pos hfree]
  constructor
  case tenants => rfl
  case domains =>
    simp only [Table.put_of_last hlast, List.map_append]
    rfl
  case admins => exact (List.append_nil _).symm
  case emailProfiles => exact List.Perm.of_eq (List.append_nil _).symm
  case smsProfiles => exact List.Perm.of_eq (List.append_nil _).symm

/-- The row of a host is read back as it was written. -/
theorem first_host {host : GoString} {isDefault : Bool} (hne : host ≠ [])
    (h : (tenantID, host, isDefault) ∈ store.domains.rows.map (·.content)) :
    ∃ row, store.domains.first (matchesField [] host ·.host) = some row ∧
      row.tenantID = tenantID ∧ row.isDefault = isDefault := by
  obtain ⟨row, hrow, hcontent⟩ := List.mem_map.mp h
  cases hcontent
  refine ⟨row, Table.first_unique hrow ?_ ?_, rfl, rfl⟩
  · simp [matchesField]
  · intro other hother hmatch
    simp only [matchesField, Bool.or_eq_true, decide_eq_true_eq] at hmatch
    exact Table.eq_of_key hother hrow
      (store.uniqueHost other hother row hrow (hmatch.resolve_left hne))

/-- New hosts are written, the first of an entry as its default. -/
theorem upsertDomains_grown (hosts : List GoString) (domainIndex : Nat)
    (hnodup : (store.domains.rows.map (·.host) ++ hosts).Nodup) (hne : ∀ host ∈ hosts, host ≠ []) :
    ∃ store', store.upsertDomains draws tenantID domainIndex hosts = .ok store' ∧
      Grown store store'
        { domains := (hosts.zipIdx domainIndex).map fun h => (tenantID, h.1, h.2 == 0) } := by
  induction hosts generalizing store domainIndex with
  | nil => exact ⟨store, rfl, Grown.refl store⟩
  | cons host hosts ih =>
    have hnew : ∀ row ∈ store.domains.rows, row.host ≠ host := by
      intro row hrow heq
      exact (List.disjoint_of_nodup_append hnodup) (List.mem_map_of_mem hrow) (heq ▸ List.mem_cons_self)
    have hgrown := createDomain_grown store draws tenantID (domainIndex == 0) hnew
    set next := store.createDomain draws tenantID host (domainIndex == 0) with hnext
    obtain ⟨row, hfirst, hrow, hdefault⟩ := first_host next tenantID
      (hne host List.mem_cons_self) (by
        rw [hgrown.domains]
        exact List.mem_append_right _ List.mem_cons_self)
    have hhosts : next.domains.rows.map (·.host) = store.domains.rows.map (·.host) ++ [host] := by
      have := congrArg (List.map (·.2.1)) hgrown.domains
      rw [List.map_append, List.map_map, List.map_map] at this
      exact this
    obtain ⟨store', hok, hrest⟩ := ih next (domainIndex + 1)
      (by rwa [hhosts, List.append_assoc]) fun h hh => hne h (List.mem_cons_of_mem _ hh)
    refine ⟨store', ?_, hgrown.trans hrest⟩
    simp only [TenantStore.upsertDomains, ← hnext, hfirst, hrow, hdefault, ne_eq, not_true_eq_false,
      or_self, if_false]
    exact hok

/-- Administrators are written unless the tenant would have one twice. -/
theorem upsertTenantAdmins_spec (emails : List GoString) :
    ((store.admins.rows.map (·.content) ++ emails.map fun email => (tenantID, email)).Nodup →
      ∃ store', store.upsertTenantAdmins draws tenantID emails = .ok store' ∧
        Grown store store' { admins := emails.map fun email => (tenantID, email) }) ∧
    (¬(store.admins.rows.map (·.content) ++ emails.map fun email => (tenantID, email)).Nodup →
      ∃ e, store.upsertTenantAdmins draws tenantID emails = .error e) := by
  induction emails generalizing store with
  | nil =>
    rw [List.map_nil, List.append_nil]
    exact ⟨fun _ => ⟨store, rfl, Grown.refl store⟩, fun h => absurd store.uniqueAdmin.nodup h⟩
  | cons email emails ih =>
    set row : TenantAdmin :=
      ⟨nextRowID draws.lastAdminID (store.admins.rows.map (·.id)), tenantID, email⟩ with hrow
    have hlast : ∀ other ∈ store.admins.rows, other.id < row.id :=
      fun other hother => Table.lt_foldl_max hother
    by_cases hfree : store.admins.Free (fun admin => (admin.tenantID, admin.email)) row
    · set next : TenantStore := { store with
        admins := store.admins.put row, uniqueAdmin := store.uniqueAdmin.put hfree } with hnext
      have hgrown : Grown store next { admins := [(tenantID, email)] } := by
        constructor
        case tenants => rfl
        case domains => exact (List.append_nil _).symm
        case admins =>
          simp only [hnext, Table.put_of_last hlast, List.map_append]
          rfl
        case emailProfiles => exact List.Perm.of_eq (List.append_nil _).symm
        case smsProfiles => exact List.Perm.of_eq (List.append_nil _).symm
      have hrest := ih next
      rw [hgrown.admins, List.append_assoc] at hrest
      simp only [TenantStore.upsertTenantAdmins, ← hrow, dif_pos hfree]
      refine ⟨fun h => ?_, hrest.2⟩
      obtain ⟨store', hok, hgrown'⟩ := hrest.1 h
      exact ⟨store', hok, hgrown.trans hgrown'⟩
    · simp only [TenantStore.upsertTenantAdmins, ← hrow, dif_neg hfree]
      refine ⟨fun h => absurd ?_ hfree, fun _ => ⟨_, rfl⟩⟩
      intro other hother _ hsame
      exact (List.disjoint_of_nodup_append h) (List.mem_map_of_mem hother)
        (List.mem_cons.mpr (.inl hsame))

end

theorem createEmailProfile_grown {store : TenantStore} (row : EmailProfile)
    (hnew : row.id ∉ store.emailProfiles.rows.map (·.id)) :
    ∃ store', store.createEmailProfile row = .ok store' ∧
      Grown store store' { emailProfiles := [row] } := by
  obtain ⟨hne, hperm⟩ := Table.put_new hnew
  have hany : store.emailProfiles.rows.any (·.id = row.id) = false := by simpa using hne
  refine ⟨_, by simp only [TenantStore.createEmailProfile, hany]; rfl, ?_⟩
  constructor
  case tenants => rfl
  case domains => exact (List.append_nil _).symm
  case admins => exact (List.append_nil _).symm
  case emailProfiles => exact hperm
  case smsProfiles => exact List.Perm.of_eq (List.append_nil _).symm

theorem createSMSProfile_grown {store : TenantStore} (row : SMSProfile)
    (hnew : row.id ∉ store.smsProfiles.rows.map (·.id)) :
    ∃ store', store.createSMSProfile row = .ok store' ∧
      Grown store store' { smsProfiles := [row] } := by
  obtain ⟨hne, hperm⟩ := Table.put_new hnew
  have hany : store.smsProfiles.rows.any (·.id = row.id) = false := by simpa using hne
  refine ⟨_, by simp only [TenantStore.createSMSProfile, hany]; rfl, ?_⟩
  constructor
  case tenants => rfl
  case domains => exact (List.append_nil _).symm
  case admins => exact (List.append_nil _).symm
  case emailProfiles => exact List.Perm.of_eq (List.append_nil _).symm
  case smsProfiles => exact hperm

/-- The profiles of an entry, when their ids are new. -/
theorem createProfiles_grown {store : TenantStore} (keeper : SecretKeeper) (own : EntryDraws)
    (spec : BootstrapTenant) (hemail : own.emailProfileID ∉ store.emailProfiles.rows.map (·.id))
    (hsms : spec.smsProfile.isSome → own.smsProfileID ∉ store.smsProfiles.rows.map (·.id)) :
    ∃ store', store.createProfiles keeper own spec = .ok store' ∧ Grown store store'
      { emailProfiles := [spec.emailRow keeper own]
        smsProfiles := spec.smsProfile.toList.map (·.row keeper own spec.id) } := by
  obtain ⟨withEmail, hok, hgrown⟩ := createEmailProfile_grown (spec.emailRow keeper own) hemail
  simp only [TenantStore.createProfiles, hok]
  cases hprofile : spec.smsProfile with
  | none => exact ⟨withEmail, rfl, hgrown⟩
  | some profile =>
    have hnew : (profile.row keeper own spec.id).id ∉ withEmail.smsProfiles.rows.map (·.id) := by
      intro hmem
      have hmem := (hgrown.smsProfiles.map (·.id)).subset hmem
      rw [List.append_nil] at hmem
      exact hsms (by rw [hprofile]; rfl) hmem
    obtain ⟨store', hokSMS, hgrownSMS⟩ := createSMSProfile_grown _ hnew
    exact ⟨store', hokSMS, hgrown.trans hgrownSMS⟩

/-! ## The loop -/

/-- There is room for the rows: no host and no profile id is taken. -/
structure Room (store : TenantStore) (rows : Rows) : Prop where
  hosts : (store.domains.rows.map (·.host) ++ rows.domains.map (·.2.1)).Nodup
  emailProfiles :
    (store.emailProfiles.rows.map (·.id) ++ rows.emailProfiles.map (·.id)).Nodup
  smsProfiles : (store.smsProfiles.rows.map (·.id) ++ rows.smsProfiles.map (·.id)).Nodup

theorem Room.left {store : TenantStore} {rows more : Rows} (h : Room store (rows.append more)) :
    Room store rows := by
  constructor
  case hosts =>
    have := h.hosts
    rw [Rows.append, List.map_append, ← List.append_assoc] at this
    exact this.of_append_left
  case emailProfiles =>
    have := h.emailProfiles
    rw [Rows.append, List.map_append, ← List.append_assoc] at this
    exact this.of_append_left
  case smsProfiles =>
    have := h.smsProfiles
    rw [Rows.append, List.map_append, ← List.append_assoc] at this
    exact this.of_append_left

theorem Room.after {store store' : TenantStore} {rows more : Rows}
    (h : Room store (rows.append more)) (hgrown : Grown store store' rows) : Room store' more := by
  constructor
  case hosts =>
    have hhosts := congrArg (List.map (·.2.1)) hgrown.domains
    rw [List.map_append, List.map_map, List.map_map] at hhosts
    have := h.hosts
    rw [Rows.append, List.map_append, ← List.append_assoc] at this
    exact hhosts ▸ this
  case emailProfiles =>
    have := h.emailProfiles
    rw [Rows.append, List.map_append, ← List.append_assoc, ← List.map_append] at this
    exact ((hgrown.emailProfiles.map _).append_right _).nodup_iff.mpr this
  case smsProfiles =>
    have := h.smsProfiles
    rw [Rows.append, List.map_append, ← List.append_assoc, ← List.map_append] at this
    exact ((hgrown.smsProfiles.map _).append_right _).nodup_iff.mpr this

section

variable (keeper : SecretKeeper) (draws : Draws)

/-- The hosts an entry adds are its normalized domains. -/
theorem entryRows_hosts (entry : BootstrapTenant × EntryDraws) :
    (entryRows keeper entry).domains.map (·.2.1) = normalizeDomainHosts entry.1.domains := by
  rw [entryRows, List.map_map]
  exact List.zipIdx_map_fst 0 _

/-- **`upsertTenant`** writes the rows of the entry, unless it has a status
field or would give a tenant an administrator twice. -/
theorem upsertTenant_spec {store : TenantStore} (entry : BootstrapTenant × EntryDraws)
    (hroom : Room store (entryRows keeper entry)) :
    (trimSpace entry.1.status = [] ∧
        (store.admins.rows.map (·.content) ++ (entryRows keeper entry).admins).Nodup →
      ∃ store', upsertTenant keeper draws entry.2 entry.1 store = .ok store' ∧
        Grown store store' (entryRows keeper entry)) ∧
    (¬(trimSpace entry.1.status = [] ∧
        (store.admins.rows.map (·.content) ++ (entryRows keeper entry).admins).Nodup) →
      ∃ e, upsertTenant keeper draws entry.2 entry.1 store = .error e) := by
  obtain ⟨spec, own⟩ := entry
  by_cases hstatus : trimSpace spec.status = []
  swap
  · refine ⟨fun h => absurd h.1 hstatus, fun _ => ⟨.statusUnsupported, ?_⟩⟩
    simp only [upsertTenant, ne_eq, hstatus, not_false_eq_true, if_true]
  -- the tenant row, then the domains, which never fail
  set withTenant : TenantStore := { store with tenants := store.tenants.put spec.tenantRow }
    with hwithTenant
  have htenant := Grown.of_tenants store [spec.tenantRow]
  obtain ⟨withDomains, hdomains, hgrownDomains⟩ := upsertDomains_grown withTenant draws
    spec.id (normalizeDomainHosts spec.domains) 0 (entryRows_hosts keeper (spec, own) ▸ hroom.hosts)
    fun host h => (mem_normalizeDomainHosts.mp h).1
  have hgrown := htenant.trans hgrownDomains
  obtain ⟨hadmins, hnoAdmins⟩ := upsertTenantAdmins_spec withDomains draws spec.id
    (normalizeAdminEmails spec.admins)
  have hsame : withDomains.admins.rows.map (·.content) = store.admins.rows.map (·.content) :=
    hgrown.admins.trans (List.append_nil _)
  rw [hsame] at hadmins hnoAdmins
  simp only [upsertTenant, ne_eq, hstatus, not_true_eq_false, if_false, ← hwithTenant, hdomains]
  constructor
  · rintro ⟨-, hnodup⟩
    obtain ⟨withAdmins, hokAdmins, hgrownAdmins⟩ := hadmins hnodup
    have hgrown := hgrown.trans hgrownAdmins
    have hemail : own.emailProfileID ∉ withAdmins.emailProfiles.rows.map (·.id) := by
      intro hmem
      have hmem := (hgrown.emailProfiles.map (·.id)).subset hmem
      simp only [Rows.append, List.append_nil] at hmem
      exact (List.disjoint_of_nodup_append hroom.emailProfiles) hmem List.mem_cons_self
    have hsms : spec.smsProfile.isSome →
        own.smsProfileID ∉ withAdmins.smsProfiles.rows.map (·.id) := by
      intro hsome hmem
      obtain ⟨profile, hprofile⟩ := Option.isSome_iff_exists.mp hsome
      have hmem := (hgrown.smsProfiles.map (·.id)).subset hmem
      simp only [Rows.append, List.append_nil] at hmem
      refine (List.disjoint_of_nodup_append hroom.smsProfiles) hmem ?_
      simp [entryRows, hprofile, BootstrapSMSProfile.row]
    obtain ⟨store', hok, hgrownProfiles⟩ := createProfiles_grown keeper own spec hemail hsms
    refine ⟨store', by simp only [hokAdmins, hok], ?_⟩
    simpa [Rows.append, entryRows] using hgrown.trans hgrownProfiles
  · intro hnot
    obtain ⟨e, he⟩ := hnoAdmins fun hnodup => hnot ⟨trivial, hnodup⟩
    exact ⟨e, by simp only [he]⟩

/-- **The loop** writes the rows of all entries or fails, and whether it
fails is a matter of the entries. -/
theorem upsertTenants_spec (entries : List (BootstrapTenant × EntryDraws)) {store : TenantStore}
    (hroom : Room store (configRows keeper entries)) :
    ((∀ entry ∈ entries, trimSpace entry.1.status = []) ∧
        (store.admins.rows.map (·.content) ++ (configRows keeper entries).admins).Nodup →
      ∃ store', upsertTenants keeper draws entries store = .ok store' ∧
        Grown store store' (configRows keeper entries)) ∧
    (¬((∀ entry ∈ entries, trimSpace entry.1.status = []) ∧
        (store.admins.rows.map (·.content) ++ (configRows keeper entries).admins).Nodup) →
      ∃ e, upsertTenants keeper draws entries store = .error e) := by
  induction entries generalizing store with
  | nil =>
    refine ⟨fun _ => ⟨store, rfl, Grown.refl store⟩, fun h => absurd ⟨?_, ?_⟩ h⟩
    · exact fun _ h => absurd h List.not_mem_nil
    · exact (List.append_nil _).symm ▸ store.uniqueAdmin.nodup
  | cons entry entries ih =>
    obtain ⟨hok, herror⟩ := upsertTenant_spec keeper draws entry hroom.left
    have hsplit : store.admins.rows.map (·.content) ++ (configRows keeper (entry :: entries)).admins =
        store.admins.rows.map (·.content) ++ (entryRows keeper entry).admins ++
          (configRows keeper entries).admins := (List.append_assoc _ _ _).symm
    rw [hsplit]
    by_cases hentry : trimSpace entry.1.status = [] ∧
        (store.admins.rows.map (·.content) ++ (entryRows keeper entry).admins).Nodup
    · obtain ⟨next, hnext, hgrown⟩ := hok hentry
      obtain ⟨hrest, hrestError⟩ := ih (hroom.after hgrown)
      rw [hgrown.admins] at hrest hrestError
      simp only [upsertTenants, hnext, List.forall_mem_cons]
      constructor
      · rintro ⟨⟨-, hstatus⟩, hnodup⟩
        obtain ⟨store', hstore', hgrown'⟩ := hrest ⟨hstatus, hnodup⟩
        exact ⟨store', hstore', hgrown.trans hgrown'⟩
      · exact fun hnot => hrestError fun h => hnot ⟨⟨hentry.1, h.1⟩, h.2⟩
    · obtain ⟨e, he⟩ := herror hentry
      simp only [upsertTenants, he, List.forall_mem_cons]
      refine ⟨fun h => absurd ⟨h.1.1, h.2.of_append_left⟩ hentry, fun _ => ⟨e, rfl⟩⟩

end

/-! ## The rows of a configuration -/

section

variable (keeper : SecretKeeper) (entries : List (BootstrapTenant × EntryDraws))

theorem configRows_tenants : (configRows keeper entries).tenants = entries.map (·.1.tenantRow) := by
  induction entries with
  | nil => rfl
  | cons entry entries ih => exact congrArg (entry.1.tenantRow :: ·) ih

theorem configRows_domains : (configRows keeper entries).domains =
    entries.flatMap fun entry => (normalizeDomainHosts entry.1.domains).zipIdx.map
      fun h => (entry.1.id, h.1, h.2 == 0) := by
  induction entries with
  | nil => rfl
  | cons entry entries ih =>
    rw [List.flatMap_cons, ← ih]
    rfl

theorem configRows_admins : (configRows keeper entries).admins =
    entries.flatMap fun entry => (normalizeAdminEmails entry.1.admins).map
      fun email => (entry.1.id, email) := by
  induction entries with
  | nil => rfl
  | cons entry entries ih =>
    rw [List.flatMap_cons, ← ih]
    rfl

theorem configRows_emailProfiles : (configRows keeper entries).emailProfiles =
    entries.map fun entry => entry.1.emailRow keeper entry.2 := by
  induction entries with
  | nil => rfl
  | cons entry entries ih => exact congrArg (entry.1.emailRow keeper entry.2 :: ·) ih

theorem configRows_smsProfiles : (configRows keeper entries).smsProfiles =
    entries.flatMap fun entry => entry.1.smsProfile.toList.map (·.row keeper entry.2 entry.1.id) := by
  induction entries with
  | nil => rfl
  | cons entry entries ih =>
    rw [List.flatMap_cons, ← ih]
    rfl

theorem configRows_hosts : (configRows keeper entries).domains.map (·.2.1) =
    entries.flatMap (normalizeDomainHosts ·.1.domains) := by
  rw [configRows_domains, List.map_flatMap]
  exact congrArg (entries.flatMap ·) (funext fun entry => entryRows_hosts keeper entry)

end

/-! ## The whole run -/

/-- The tenant an entry stands for: the one with its id, or one that gets a
new id. -/
inductive Owner where
  | configured (id : GoString)
  | generated (position : Nat)
deriving DecidableEq, Repr

/-- The tenant of an entry at its position. -/
def entryOwner (entry : BootstrapTenant × Nat) : Owner :=
  if trimSpace entry.1.id = [] then .generated entry.2 else .configured (trimSpace entry.1.id)

/-- What UUIDs are: no two are the same, and none is a configured id. -/
structure Draws.Fresh (draws : Draws) (cfg : BootstrapConfig) : Prop where
  tenantIDs : ∀ i < cfg.length, ∀ j < cfg.length,
    (draws.entry i).tenantID = (draws.entry j).tenantID → i = j
  unconfigured : ∀ i < cfg.length, ∀ spec ∈ cfg, (draws.entry i).tenantID ≠ trimSpace spec.id
  emailProfileIDs : ∀ i < cfg.length, ∀ j < cfg.length,
    (draws.entry i).emailProfileID = (draws.entry j).emailProfileID → i = j
  smsProfileIDs : ∀ i < cfg.length, ∀ j < cfg.length,
    (draws.entry i).smsProfileID = (draws.entry j).smsProfileID → i = j

/-- A configuration that `Bootstrap` accepts, said without any table. -/
structure Accepted (cfg : BootstrapConfig) : Prop where
  nonempty : cfg ≠ []
  enabled : ∃ spec ∈ cfg, spec.isEnabled = true
  hosts : (cfg.flatMap (normalizeDomainHosts ·.domains)).Nodup
  domains : ∀ spec ∈ cfg, normalizeDomainHosts spec.domains ≠ []
  status : ∀ spec ∈ cfg, trimSpace spec.status = []
  admins : (cfg.zipIdx.flatMap fun entry => (normalizeAdminEmails entry.1.admins).map
    fun email => (entryOwner entry, email)).Nodup

section

variable {cfg : BootstrapConfig} {draws : Draws}

theorem lt_of_mem_zipIdx {entry : BootstrapTenant × Nat} (h : entry ∈ cfg.zipIdx) :
    entry.2 < cfg.length := by
  have := List.snd_lt_of_mem_zipIdx h
  omega

/-- Entries at one position are one entry. -/
theorem eq_of_mem_zipIdx {entry other : BootstrapTenant × Nat} (h : entry ∈ cfg.zipIdx)
    (h' : other ∈ cfg.zipIdx) (heq : entry.2 = other.2) : entry = other := by
  obtain ⟨spec, i⟩ := entry
  obtain ⟨spec', i'⟩ := other
  obtain rfl : i = i' := heq
  rw [List.mem_zipIdx_iff_getElem?] at h h'
  rw [h, Option.some.injEq] at h'
  exact congrArg (·, i) h'

/-- With fresh ids two entries get the same tenant id exactly if they stand
for the same tenant. -/
theorem prepared_id_iff (hfresh : draws.Fresh cfg) {entry other : BootstrapTenant × Nat}
    (h : entry ∈ cfg.zipIdx) (h' : other ∈ cfg.zipIdx) :
    (prepareBootstrapTenant draws entry).1.id = (prepareBootstrapTenant draws other).1.id ↔
      entryOwner entry = entryOwner other := by
  have hlt := lt_of_mem_zipIdx h
  have hlt' := lt_of_mem_zipIdx h'
  have hmem := List.fst_mem_of_mem_zipIdx h
  have hmem' := List.fst_mem_of_mem_zipIdx h'
  simp only [prepareBootstrapTenant, entryOwner]
  by_cases hblank : trimSpace entry.1.id = []
  · by_cases hblank' : trimSpace other.1.id = []
    · simp only [hblank, hblank', if_true, Owner.generated.injEq]
      exact ⟨hfresh.tenantIDs _ hlt _ hlt', fun heq => heq ▸ rfl⟩
    · simp only [hblank, hblank', if_true, if_false, reduceCtorEq, iff_false]
      exact hfresh.unconfigured _ hlt _ hmem'
  · by_cases hblank' : trimSpace other.1.id = []
    · simp only [hblank, hblank', if_true, if_false, reduceCtorEq, iff_false]
      exact fun heq => hfresh.unconfigured _ hlt' _ hmem heq.symm
    · simp only [hblank, hblank', if_false, Owner.configured.injEq]

/-- A prepared id is never blank. -/
theorem prepared_id_ne_nil (hfresh : draws.Fresh cfg) {entry : BootstrapTenant × Nat}
    (h : entry ∈ cfg.zipIdx) : (prepareBootstrapTenant draws entry).1.id ≠ [] := by
  simp only [prepareBootstrapTenant]
  split
  · rename_i hblank
    exact hblank ▸ hfresh.unconfigured _ (lt_of_mem_zipIdx h) _ (List.fst_mem_of_mem_zipIdx h)
  · assumption

/-- Renaming the first components apart keeps what is there twice. -/
theorem nodup_flatMap_iff {α β γ δ : Type} (l : List α) (f : α → β) (g : α → γ) (rest : α → List δ)
    (h : ∀ a ∈ l, ∀ b ∈ l, f a = f b ↔ g a = g b) :
    (l.flatMap fun a => (rest a).map fun d => (f a, d)).Nodup ↔
      (l.flatMap fun a => (rest a).map fun d => (g a, d)).Nodup := by
  simp only [List.nodup_flatMap]
  refine and_congr (forall₂_congr fun a _ => ?_) ?_
  · rw [List.nodup_map_iff fun x y hxy => (Prod.mk.inj hxy).2,
      List.nodup_map_iff fun x y hxy => (Prod.mk.inj hxy).2]
  · refine ⟨fun hp => hp.imp_of_mem ?_, fun hp => hp.imp_of_mem ?_⟩
    · intro a b ha hb hdisjoint
      change List.Disjoint _ _ at hdisjoint
      show List.Disjoint _ _
      rw [List.disjoint_left] at hdisjoint ⊢
      simp only [List.mem_map, Prod.forall, Prod.mk.injEq] at hdisjoint ⊢
      grind
    · intro a b ha hb hdisjoint
      change List.Disjoint _ _ at hdisjoint
      show List.Disjoint _ _
      rw [List.disjoint_left] at hdisjoint ⊢
      simp only [List.mem_map, Prod.forall, Prod.mk.injEq] at hdisjoint ⊢
      grind

theorem prepared_map (draws : Draws) (cfg : BootstrapConfig) {β : Type} (f : BootstrapTenant → β)
    (hf : ∀ spec : BootstrapTenant, ∀ id, f { spec with id } = f spec) :
    (prepareBootstrapTenants draws cfg).map (f ·.1) = cfg.map f := by
  rw [prepareBootstrapTenants, List.map_map]
  have hcomp : (fun entry : BootstrapTenant × EntryDraws => f entry.1) ∘ prepareBootstrapTenant draws =
      f ∘ Prod.fst := funext fun entry => hf entry.1 _
  rw [hcomp, ← List.map_map, List.zipIdx_map_fst]

theorem prepared_flatMap {β : Type} (f : BootstrapTenant → List β)
    (hf : ∀ spec : BootstrapTenant, ∀ id, f { spec with id } = f spec) :
    (prepareBootstrapTenants draws cfg).flatMap (f ·.1) = cfg.flatMap f := by
  rw [List.flatMap_def, List.flatMap_def]
  exact congrArg List.flatten (prepared_map draws cfg f hf)

/-- Preparing an entry changes nothing but its id. -/
theorem prepared_forall (draws : Draws) (cfg : BootstrapConfig) {β : Type} (f : BootstrapTenant → β)
    (hf : ∀ spec : BootstrapTenant, ∀ id, f { spec with id } = f spec) (P : β → Prop) :
    (∀ entry ∈ prepareBootstrapTenants draws cfg, P (f entry.1)) ↔ ∀ spec ∈ cfg, P (f spec) := by
  have hmap := prepared_map draws cfg f hf
  constructor
  · intro h spec hspec
    have hmem : f spec ∈ (prepareBootstrapTenants draws cfg).map (f ·.1) :=
      hmap ▸ List.mem_map_of_mem hspec
    obtain ⟨entry, hentry, heq⟩ := List.mem_map.mp hmem
    exact heq ▸ h entry hentry
  · intro h entry hentry
    have hmem : f entry.1 ∈ cfg.map f := hmap ▸ List.mem_map_of_mem hentry
    obtain ⟨spec, hspec, heq⟩ := List.mem_map.mp hmem
    exact heq ▸ h spec hspec

/-- The draws of an entry that are told apart by its position are told apart. -/
theorem nodup_map_draws {β : Type} (f : EntryDraws → β)
    (h : ∀ i < cfg.length, ∀ j < cfg.length, f (draws.entry i) = f (draws.entry j) → i = j) :
    (cfg.zipIdx.map fun entry => f (draws.entry entry.2)).Nodup := by
  have hnodup : cfg.zipIdx.Nodup := by
    refine List.Nodup.of_map (·.2) ?_
    rw [List.zipIdx_map_snd]
    exact List.nodup_range'
  refine List.Nodup.map_on (fun entry hentry other hother heq => ?_) hnodup
  exact eq_of_mem_zipIdx hentry hother
    (h _ (lt_of_mem_zipIdx hentry) _ (lt_of_mem_zipIdx hother) heq)

end

/-- The tables the loop starts from. -/
def TenantStore.cleared (store : TenantStore) (entries : List (BootstrapTenant × EntryDraws)) :
    TenantStore := store.reset.removeStaleTenants (entries.map (·.1.id))

section

variable (keeper : SecretKeeper) {draws : Draws} {cfg : BootstrapConfig}

/-- The emptied tables have room for the rows of the configuration. -/
theorem room_cleared (hfresh : draws.Fresh cfg)
    (hhosts : (cfg.flatMap (normalizeDomainHosts ·.domains)).Nodup) (store : TenantStore) :
    Room (store.cleared (prepareBootstrapTenants draws cfg))
      (configRows keeper (prepareBootstrapTenants draws cfg)) := by
  constructor
  case hosts =>
    rw [configRows_hosts, prepared_flatMap (normalizeDomainHosts ·.domains) fun _ _ => rfl]
    exact hhosts
  case emailProfiles =>
    rw [configRows_emailProfiles, List.map_map, prepareBootstrapTenants, List.map_map]
    exact nodup_map_draws (·.emailProfileID) hfresh.emailProfileIDs
  case smsProfiles =>
    rw [configRows_smsProfiles, List.map_flatMap, prepareBootstrapTenants, List.flatMap_map]
    -- at most one for each entry
    have hsub : (cfg.zipIdx.flatMap fun entry => ((prepareBootstrapTenant draws entry).1.smsProfile.toList.map
          (·.row keeper (prepareBootstrapTenant draws entry).2
            (prepareBootstrapTenant draws entry).1.id)).map (·.id)).Sublist
        (cfg.zipIdx.map fun entry => (draws.entry entry.2).smsProfileID) := by
      rw [List.map_eq_flatMap]
      induction cfg.zipIdx with
      | nil => exact List.Sublist.refl _
      | cons entry rest ih =>
        rw [List.flatMap_cons, List.flatMap_cons]
        refine List.Sublist.append ?_ ih
        cases hsms : (prepareBootstrapTenant draws entry).1.smsProfile with
        | none => exact List.nil_sublist _
        | some profile => exact List.Sublist.refl _
    exact hsub.nodup (nodup_map_draws (·.smsProfileID) hfresh.smsProfileIDs)

/-- The checks before the transaction. -/
theorem checkBootstrap_iff :
    checkBootstrap ((prepareBootstrapTenants draws cfg).map (·.1)) = .ok () ↔
      cfg ≠ [] ∧ (∃ spec ∈ cfg, spec.isEnabled = true) ∧
        (cfg.flatMap (normalizeDomainHosts ·.domains)).Nodup ∧
        ∀ spec ∈ cfg, normalizeDomainHosts spec.domains ≠ [] := by
  have hempty : (prepareBootstrapTenants draws cfg).map (·.1) = [] ↔ cfg = [] := by
    simp [prepareBootstrapTenants]
  have henabled : ((prepareBootstrapTenants draws cfg).map (·.1)).all (!·.isEnabled) = true ↔
      ¬∃ spec ∈ cfg, spec.isEnabled = true := by
    rw [List.all_map, List.all_eq_true]
    refine (prepared_forall draws cfg BootstrapTenant.isEnabled (fun _ _ => rfl)
      fun enabled => (!enabled) = true).trans ?_
    simp
  have hhosts : ((prepareBootstrapTenants draws cfg).map (·.1)).flatMap
      (normalizeDomainHosts ·.domains) = cfg.flatMap (normalizeDomainHosts ·.domains) := by
    rw [List.flatMap_map]
    exact prepared_flatMap (normalizeDomainHosts ·.domains) fun _ _ => rfl
  have hdomains : (∀ spec ∈ (prepareBootstrapTenants draws cfg).map (·.1),
      normalizeDomainHosts spec.domains ≠ []) ↔ ∀ spec ∈ cfg, normalizeDomainHosts spec.domains ≠ [] := by
    rw [List.forall_mem_map]
    exact prepared_forall draws cfg (normalizeDomainHosts ·.domains) (fun _ _ => rfl) (· ≠ [])
  rw [checkBootstrap]
  simp only [hempty, henabled]
  by_cases hnil : cfg = []
  · simp [hnil]
  · rw [if_neg hnil]
    by_cases hon : ∃ spec ∈ cfg, spec.isEnabled = true
    · rw [if_neg (not_not_intro hon), validateBootstrapDomains_iff, hhosts, hdomains]
      exact ⟨fun h => ⟨hnil, hon, h⟩, fun h => h.2.2⟩
    · rw [if_pos hon]
      exact iff_of_false (by simp) fun h => hon h.2.1

/-- Two administrators of one tenant with the same email, by tenant or by id. -/
theorem configRows_admins_nodup (hfresh : draws.Fresh cfg) :
    (configRows keeper (prepareBootstrapTenants draws cfg)).admins.Nodup ↔
      (cfg.zipIdx.flatMap fun entry => (normalizeAdminEmails entry.1.admins).map
        fun email => (entryOwner entry, email)).Nodup := by
  rw [configRows_admins, prepareBootstrapTenants, List.flatMap_map]
  exact nodup_flatMap_iff cfg.zipIdx (fun entry => (prepareBootstrapTenant draws entry).1.id)
    entryOwner (fun entry => normalizeAdminEmails entry.1.admins)
    fun entry hentry other hother => prepared_id_iff hfresh hentry hother

/-- **`Bootstrap`** fails and changes nothing, or writes the rows of the
configuration; which of the two does not depend on the database. -/
theorem bootstrap_spec (hfresh : draws.Fresh cfg) (db : Database) :
    (Accepted cfg → ∃ store, bootstrap keeper draws cfg db = (.ok (), { db with tenancy := store }) ∧
      Grown (db.tenancy.cleared (prepareBootstrapTenants draws cfg)) store
        (configRows keeper (prepareBootstrapTenants draws cfg))) ∧
    (¬Accepted cfg → ∃ e, bootstrap keeper draws cfg db = (.error e, db)) := by
  have hstatus : (∀ entry ∈ prepareBootstrapTenants draws cfg, trimSpace entry.1.status = []) ↔
      ∀ spec ∈ cfg, trimSpace spec.status = [] :=
    prepared_forall draws cfg (trimSpace ·.status) (fun _ _ => rfl) (· = [])
  cases hcheck : checkBootstrap ((prepareBootstrapTenants draws cfg).map (·.1)) with
  | error e =>
    refine ⟨fun h => ?_, fun _ => ⟨e, by simp only [bootstrap, hcheck]⟩⟩
    have hok : checkBootstrap ((prepareBootstrapTenants draws cfg).map (·.1)) = .ok () :=
      checkBootstrap_iff.mpr ⟨h.nonempty, h.enabled, h.hosts, h.domains⟩
    rw [hcheck] at hok
    cases hok
  | ok u =>
    obtain ⟨hnonempty, henabled, hhosts, hdomains⟩ := checkBootstrap_iff.mp hcheck
    obtain ⟨hok, herror⟩ := upsertTenants_spec keeper draws (prepareBootstrapTenants draws cfg)
      (room_cleared keeper hfresh hhosts db.tenancy)
    have hadmins : ((db.tenancy.cleared (prepareBootstrapTenants draws cfg)).admins.rows.map
        (·.content) ++ (configRows keeper (prepareBootstrapTenants draws cfg)).admins).Nodup ↔ _ :=
      configRows_admins_nodup keeper hfresh
    rw [hstatus, hadmins] at hok herror
    constructor
    · intro h
      obtain ⟨store, hstore, hgrown⟩ := hok ⟨h.status, h.admins⟩
      refine ⟨store, ?_, hgrown⟩
      rw [TenantStore.cleared] at hstore
      simp only [bootstrap, hcheck, bootstrapTransaction, hstore]
    · intro hnot
      obtain ⟨e, he⟩ := herror fun h =>
        hnot ⟨hnonempty, henabled, hhosts, hdomains, h.1, h.2⟩
      rw [TenantStore.cleared] at he
      exact ⟨e, by simp only [bootstrap, hcheck, bootstrapTransaction, he]⟩

end

end Pinguin.Tenancy
