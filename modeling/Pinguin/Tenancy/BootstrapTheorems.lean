/-
Pinguin.Tenancy.BootstrapTheorems — the configuration is the source of
truth.

After a `Bootstrap` that succeeds, the tables hold the rows of the
configuration and nothing else, whatever they held before: `contents` says
what the tables hold up to generated ids and nonces, and it is a function of
the configuration. From the same description follow how many default rows a
tenant has and which tenant a host leads to.
-/
import Mathlib.Data.Multiset.MapFold
import Pinguin.Tenancy.BootstrapTables
import Pinguin.Tenancy.CacheTheorems

namespace Pinguin.Tenancy

open Pinguin.Go Pinguin.Lib Pinguin.Notify

/-! ## The tables after a run -/

/-- The tables hold the rows of the entries, and nothing else. -/
structure Built (keeper : SecretKeeper) (entries : List (BootstrapTenant × EntryDraws))
    (store : TenantStore) : Prop where
  tenants :
    store.tenants.rows.Perm (Table.lastByKey Tenant.id (entries.map (·.1.tenantRow)))
  domains : store.domains.rows.map (·.content) = (configRows keeper entries).domains
  admins : store.admins.rows.map (·.content) = (configRows keeper entries).admins
  emailProfiles :
    store.emailProfiles.rows.Perm (entries.map fun entry => entry.1.emailRow keeper entry.2)
  smsProfiles : store.smsProfiles.rows.Perm (configRows keeper entries).smsProfiles

theorem Grown.built {keeper : SecretKeeper} {entries : List (BootstrapTenant × EntryDraws)}
    {store store' : TenantStore}
    (h : Grown (store.cleared entries) store' (configRows keeper entries)) :
    Built keeper entries store' := by
  constructor
  case tenants =>
    rw [h.tenants, configRows_tenants]
    apply Table.foldl_put_perm
    intro tenant htenant
    have hid : tenant.id ∈ entries.map (·.1.id) := by
      simpa using (List.mem_filter.mp htenant).2
    obtain ⟨entry, hentry, heq⟩ := List.mem_map.mp hid
    exact ⟨entry.1.tenantRow, List.mem_map_of_mem hentry, heq⟩
  case domains => exact h.domains
  case admins => exact h.admins
  case emailProfiles => exact configRows_emailProfiles keeper entries ▸ h.emailProfiles
  case smsProfiles => exact h.smsProfiles

section

variable {keeper : SecretKeeper} {draws : Draws} {cfg : BootstrapConfig}

/-- Success and what it leaves. -/
theorem bootstrap_built (hfresh : draws.Fresh cfg) {db : Database}
    (hok : (bootstrap keeper draws cfg db).1 = .ok ()) :
    Accepted cfg ∧ Built keeper (prepareBootstrapTenants draws cfg)
      (bootstrap keeper draws cfg db).2.tenancy := by
  obtain ⟨haccepted, hrejected⟩ := bootstrap_spec keeper hfresh db
  by_cases h : Accepted cfg
  · obtain ⟨store, hstore, hgrown⟩ := haccepted h
    rw [hstore]
    exact ⟨h, hgrown.built⟩
  · obtain ⟨e, he⟩ := hrejected h
    rw [he] at hok
    cases hok

theorem bootstrap_ok_iff (hfresh : draws.Fresh cfg) (db : Database) :
    (bootstrap keeper draws cfg db).1 = .ok () ↔ Accepted cfg := by
  refine ⟨fun hok => (bootstrap_built hfresh hok).1, fun h => ?_⟩
  obtain ⟨store, hstore, -⟩ := (bootstrap_spec keeper hfresh db).1 h
  rw [hstore]

theorem bootstrap_notifications (db : Database) :
    (bootstrap keeper draws cfg db).2.notifications = db.notifications := by
  simp only [bootstrap]
  split
  · rfl
  · split
    · rfl
    · rfl

end

/-! ## Contents -/

/-- What the tables hold, for each row the tenant it belongs to: no generated
ids, and secrets in clear. -/
structure Contents where
  tenants : Multiset (Owner × GoString × TenantStatus × GoString)
  domains : Multiset (Owner × GoString × Bool)
  admins : Multiset (Owner × GoString)
  emailProfiles :
    Multiset (Owner × GoString × Int × Option GoString × Option GoString × GoString × Bool)
  smsProfiles : Multiset (Owner × Option GoString × Option GoString × GoString × Bool)

/-- The tenant an id in the tables stands for. -/
def ownerOf (draws : Draws) (cfg : BootstrapConfig) (id : GoString) : Owner :=
  match cfg.zipIdx.find? fun entry =>
      trimSpace entry.1.id = [] && (draws.entry entry.2).tenantID = id with
  | some entry => .generated entry.2
  | none => .configured id

/-- The contents of the tables after a run with these draws. -/
def contents (keeper : SecretKeeper) (draws : Draws) (cfg : BootstrapConfig)
    (store : TenantStore) : Contents where
  tenants := store.tenants.rows.map fun row =>
    (ownerOf draws cfg row.id, row.displayName, row.status, row.supportEmail)
  domains := store.domains.rows.map fun row =>
    (ownerOf draws cfg row.tenantID, row.host, row.isDefault)
  admins := store.admins.rows.map fun row => (ownerOf draws cfg row.tenantID, row.email)
  emailProfiles := store.emailProfiles.rows.map fun row =>
    (ownerOf draws cfg row.tenantID, row.host, row.port, keeper.decrypt row.usernameCipher,
      keeper.decrypt row.passwordCipher, row.fromAddress, row.isDefault)
  smsProfiles := store.smsProfiles.rows.map fun row =>
    (ownerOf draws cfg row.tenantID, keeper.decrypt row.accountSIDCipher,
      keeper.decrypt row.authTokenCipher, row.fromNumber, row.isDefault)

/-- What a configuration says the tables hold. Of entries with one id the
last gives the tenant row. -/
def configuredContents (cfg : BootstrapConfig) : Contents where
  tenants := (Table.lastByKey entryOwner cfg.zipIdx).map fun entry =>
    (entryOwner entry, entry.1.displayName,
      if entry.1.isEnabled then TenantStatus.active else TenantStatus.suspended,
      entry.1.supportEmail)
  domains := cfg.zipIdx.flatMap fun entry => (normalizeDomainHosts entry.1.domains).zipIdx.map
    fun host => (entryOwner entry, host.1, host.2 == 0)
  admins := cfg.zipIdx.flatMap fun entry => (normalizeAdminEmails entry.1.admins).map
    fun email => (entryOwner entry, email)
  emailProfiles := cfg.zipIdx.map fun entry =>
    (entryOwner entry, entry.1.emailProfile.host, entry.1.emailProfile.port,
      some entry.1.emailProfile.username, some entry.1.emailProfile.password,
      entry.1.emailProfile.fromAddress, true)
  smsProfiles := cfg.zipIdx.flatMap fun entry => entry.1.smsProfile.toList.map fun profile =>
    (entryOwner entry, some profile.accountSID, some profile.authToken, profile.fromNumber, true)

section

variable {keeper : SecretKeeper} {draws : Draws} {cfg : BootstrapConfig}

/-- The id an entry gets stands for the tenant of the entry. -/
theorem ownerOf_prepared (hfresh : draws.Fresh cfg) {entry : BootstrapTenant × Nat}
    (h : entry ∈ cfg.zipIdx) :
    ownerOf draws cfg (prepareBootstrapTenant draws entry).1.id = entryOwner entry := by
  rw [ownerOf]
  split
  · rename_i other hfind
    have hother := List.mem_of_find?_eq_some hfind
    have hmatch := List.find?_some hfind
    simp only [Bool.and_eq_true, decide_eq_true_eq] at hmatch
    have hid : (prepareBootstrapTenant draws other).1.id = (prepareBootstrapTenant draws entry).1.id := by
      rw [← hmatch.2]
      exact if_pos hmatch.1
    rw [← (prepared_id_iff hfresh hother h).mp hid, entryOwner, if_pos hmatch.1]
  · rename_i hfind
    by_cases hblank : trimSpace entry.1.id = []
    · have := List.find?_eq_none.mp hfind entry h
      simp [prepareBootstrapTenant, hblank] at this
    · simp only [prepareBootstrapTenant, entryOwner, hblank, if_false]

variable {store : TenantStore}

/-- Of entries that stand for one tenant the last gives its row. -/
theorem Built.tenant_contents (hfresh : draws.Fresh cfg)
    (h : Built keeper (prepareBootstrapTenants draws cfg) store) :
    (store.tenants.rows.map fun row =>
      (ownerOf draws cfg row.id, row.displayName, row.status, row.supportEmail)).Perm
    ((Table.lastByKey entryOwner cfg.zipIdx).map fun entry =>
      (entryOwner entry, entry.1.displayName,
        if entry.1.isEnabled then TenantStatus.active else TenantStatus.suspended,
        entry.1.supportEmail)) := by
  have hlast : Table.lastByKey Tenant.id (cfg.zipIdx.map fun entry =>
      (prepareBootstrapTenant draws entry).1.tenantRow) =
      (Table.lastByKey entryOwner cfg.zipIdx).map fun entry =>
        (prepareBootstrapTenant draws entry).1.tenantRow :=
    Table.lastByKey_map _ _ fun entry hentry other hother => prepared_id_iff hfresh hentry hother
  have hperm := h.tenants
  rw [prepareBootstrapTenants, List.map_map] at hperm
  refine ((hperm.trans (List.Perm.of_eq hlast)).map _).trans (List.Perm.of_eq ?_)
  rw [List.map_map]
  refine List.map_congr_left fun entry hentry => ?_
  exact congrArg (·, _) (ownerOf_prepared hfresh (Table.mem_lastByKey hentry))

/-- Rows that carry the id of their entry, read with the owner in its place. -/
theorem map_ownerOf_prepared {α : Type} (hfresh : draws.Fresh cfg)
    (values : BootstrapTenant × Nat → List α) :
    (cfg.zipIdx.flatMap fun entry =>
        (values entry).map ((prepareBootstrapTenant draws entry).1.id, ·)).map
      (fun c => (ownerOf draws cfg c.1, c.2)) =
    cfg.zipIdx.flatMap fun entry => (values entry).map (entryOwner entry, ·) := by
  rw [List.map_flatMap]
  refine List.flatMap_congr fun entry hentry => ?_
  rw [List.map_map]
  exact List.map_congr_left fun value _ => congrArg (·, _) (ownerOf_prepared hfresh hentry)

theorem Built.domain_contents (hfresh : draws.Fresh cfg)
    (h : Built keeper (prepareBootstrapTenants draws cfg) store) :
    (store.domains.rows.map fun row => (ownerOf draws cfg row.tenantID, row.host, row.isDefault)) =
      cfg.zipIdx.flatMap fun entry => (normalizeDomainHosts entry.1.domains).zipIdx.map
        fun host => (entryOwner entry, host.1, host.2 == 0) := by
  have heq := congrArg (List.map fun c : GoString × GoString × Bool =>
    (ownerOf draws cfg c.1, c.2)) h.domains
  rw [List.map_map, configRows_domains, prepareBootstrapTenants, List.flatMap_map] at heq
  have howners := map_ownerOf_prepared hfresh fun entry =>
    (normalizeDomainHosts entry.1.domains).zipIdx.map fun host => (host.1, host.2 == 0)
  simp only [List.map_map] at howners
  exact heq.trans howners

theorem Built.admin_contents (hfresh : draws.Fresh cfg)
    (h : Built keeper (prepareBootstrapTenants draws cfg) store) :
    (store.admins.rows.map fun row => (ownerOf draws cfg row.tenantID, row.email)) =
      cfg.zipIdx.flatMap fun entry => (normalizeAdminEmails entry.1.admins).map
        fun email => (entryOwner entry, email) := by
  have heq := congrArg (List.map fun c : GoString × GoString => (ownerOf draws cfg c.1, c.2)) h.admins
  rw [List.map_map, configRows_admins, prepareBootstrapTenants, List.flatMap_map] at heq
  exact heq.trans (map_ownerOf_prepared hfresh fun entry => normalizeAdminEmails entry.1.admins)

theorem Built.email_contents (hfresh : draws.Fresh cfg)
    (h : Built keeper (prepareBootstrapTenants draws cfg) store) :
    (store.emailProfiles.rows.map fun row =>
      (ownerOf draws cfg row.tenantID, row.host, row.port, keeper.decrypt row.usernameCipher,
        keeper.decrypt row.passwordCipher, row.fromAddress, row.isDefault)).Perm
    (cfg.zipIdx.map fun entry =>
      (entryOwner entry, entry.1.emailProfile.host, entry.1.emailProfile.port,
        some entry.1.emailProfile.username, some entry.1.emailProfile.password,
        entry.1.emailProfile.fromAddress, true)) := by
  refine (h.emailProfiles.map _).trans (List.Perm.of_eq ?_)
  rw [prepareBootstrapTenants, List.map_map, List.map_map]
  refine List.map_congr_left fun entry hentry => ?_
  simp only [Function.comp, BootstrapTenant.emailRow, keeper.opens, ownerOf_prepared hfresh hentry]
  rfl

theorem Built.sms_contents (hfresh : draws.Fresh cfg)
    (h : Built keeper (prepareBootstrapTenants draws cfg) store) :
    (store.smsProfiles.rows.map fun row =>
      (ownerOf draws cfg row.tenantID, keeper.decrypt row.accountSIDCipher,
        keeper.decrypt row.authTokenCipher, row.fromNumber, row.isDefault)).Perm
    (cfg.zipIdx.flatMap fun entry => entry.1.smsProfile.toList.map fun profile =>
      (entryOwner entry, some profile.accountSID, some profile.authToken, profile.fromNumber,
        true)) := by
  refine (h.smsProfiles.map _).trans (List.Perm.of_eq ?_)
  rw [configRows_smsProfiles, prepareBootstrapTenants, List.flatMap_map, List.map_flatMap]
  refine List.flatMap_congr fun entry hentry => ?_
  rw [List.map_map]
  refine List.map_congr_left fun profile _ => ?_
  simp only [Function.comp, BootstrapSMSProfile.row, keeper.opens, ownerOf_prepared hfresh hentry]

/-- **The contents are the configuration's.** -/
theorem Built.contents_eq (hfresh : draws.Fresh cfg)
    (h : Built keeper (prepareBootstrapTenants draws cfg) store) :
    contents keeper draws cfg store = configuredContents cfg := by
  rw [contents, configuredContents, Contents.mk.injEq]
  exact ⟨Multiset.coe_eq_coe.mpr (h.tenant_contents hfresh),
    congrArg Multiset.ofList (h.domain_contents hfresh),
    congrArg Multiset.ofList (h.admin_contents hfresh),
    Multiset.coe_eq_coe.mpr (h.email_contents hfresh),
    Multiset.coe_eq_coe.mpr (h.sms_contents hfresh)⟩

end

/-! ## Source of truth -/

/-- The tables hold what is configured, each domain once, and no other row. -/
structure HoldsExactly (keeper : SecretKeeper) (draws : Draws) (cfg : BootstrapConfig)
    (store : TenantStore) : Prop where
  tenantIDs : ∀ id, id ∈ store.tenants.rows.map (·.id) ↔
    id ∈ (prepareBootstrapTenants draws cfg).map (·.1.id)
  domains : ∀ spec ∈ cfg, ∀ domain ∈ spec.domains, trimSpace domain ≠ [] →
    (store.domains.rows.map (·.host)).count (normalizeDomainHost domain) = 1
  noOtherDomain : ∀ row ∈ store.domains.rows, ∃ entry ∈ prepareBootstrapTenants draws cfg,
    row.tenantID = entry.1.id ∧ row.host ∈ normalizeDomainHosts entry.1.domains
  noOtherAdmin : ∀ row ∈ store.admins.rows, ∃ entry ∈ prepareBootstrapTenants draws cfg,
    row.tenantID = entry.1.id ∧ row.email ∈ normalizeAdminEmails entry.1.admins
  noOtherEmailProfile : ∀ row ∈ store.emailProfiles.rows,
    ∃ entry ∈ prepareBootstrapTenants draws cfg, row = entry.1.emailRow keeper entry.2
  noOtherSMSProfile : ∀ row ∈ store.smsProfiles.rows,
    ∃ entry ∈ prepareBootstrapTenants draws cfg, ∃ profile ∈ entry.1.smsProfile,
      row = profile.row keeper entry.2 entry.1.id

section

variable {keeper : SecretKeeper} {draws : Draws} {cfg : BootstrapConfig} {store : TenantStore}

/-- A domain row comes from an entry. -/
theorem Built.domain_entry {entries : List (BootstrapTenant × EntryDraws)}
    (h : Built keeper entries store) {row : TenantDomain} (hrow : row ∈ store.domains.rows) :
    ∃ entry ∈ entries, row.tenantID = entry.1.id ∧
      row.host ∈ normalizeDomainHosts entry.1.domains := by
  have hmem : row.content ∈ (configRows keeper entries).domains := h.domains ▸ List.mem_map_of_mem hrow
  rw [configRows_domains] at hmem
  obtain ⟨entry, hentry, hmem⟩ := List.mem_flatMap.mp hmem
  obtain ⟨host, hhost, hcontent⟩ := List.mem_map.mp hmem
  simp only [TenantDomain.content, Prod.mk.injEq] at hcontent
  exact ⟨entry, hentry, hcontent.1.symm, hcontent.2.1 ▸ List.fst_mem_of_mem_zipIdx hhost⟩

theorem Built.hosts {entries : List (BootstrapTenant × EntryDraws)} (h : Built keeper entries store) :
    store.domains.rows.map (·.host) = entries.flatMap (normalizeDomainHosts ·.1.domains) := by
  have heq := congrArg (List.map (·.2.1)) h.domains
  rw [List.map_map, configRows_hosts] at heq
  exact heq

theorem Built.holdsExactly (haccepted : Accepted cfg)
    (h : Built keeper (prepareBootstrapTenants draws cfg) store) :
    HoldsExactly keeper draws cfg store := by
  constructor
  case tenantIDs =>
    intro id
    rw [(h.tenants.map (·.id)).mem_iff]
    constructor
    · intro hid
      obtain ⟨row, hrow, rfl⟩ := List.mem_map.mp hid
      obtain ⟨entry, hentry, rfl⟩ := List.mem_map.mp (Table.mem_lastByKey hrow)
      exact List.mem_map_of_mem hentry
    · intro hid
      obtain ⟨entry, hentry, rfl⟩ := List.mem_map.mp hid
      have hrow : entry.1.tenantRow ∈ (prepareBootstrapTenants draws cfg).map (·.1.tenantRow) :=
        List.mem_map_of_mem hentry
      obtain ⟨last, hlast, hkey⟩ : ∃ last ∈ Table.lastByKey Tenant.id _, last.id = _ :=
        Table.exists_lastByKey hrow
      exact List.mem_map.mpr ⟨last, hlast, hkey⟩
  case domains =>
    intro spec hspec domain hdomain hnonblank
    rw [h.hosts, prepared_flatMap (normalizeDomainHosts ·.domains) fun _ _ => rfl]
    refine List.count_eq_one_of_mem haccepted.hosts (List.mem_flatMap.mpr ⟨spec, hspec, ?_⟩)
    exact mem_normalizeDomainHosts.mpr
      ⟨mt normalizeDomainHost_eq_nil.mp hnonblank, domain, hdomain, rfl⟩
  case noOtherDomain => exact fun row hrow => h.domain_entry hrow
  case noOtherAdmin =>
    intro row hrow
    have hmem : row.content ∈ (configRows keeper (prepareBootstrapTenants draws cfg)).admins :=
      h.admins ▸ List.mem_map_of_mem hrow
    rw [configRows_admins] at hmem
    obtain ⟨entry, hentry, hmem⟩ := List.mem_flatMap.mp hmem
    obtain ⟨email, hemail, hcontent⟩ := List.mem_map.mp hmem
    simp only [TenantAdmin.content, Prod.mk.injEq] at hcontent
    exact ⟨entry, hentry, hcontent.1.symm, hcontent.2 ▸ hemail⟩
  case noOtherEmailProfile =>
    intro row hrow
    obtain ⟨entry, hentry, rfl⟩ := List.mem_map.mp (h.emailProfiles.mem_iff.mp hrow)
    exact ⟨entry, hentry, rfl⟩
  case noOtherSMSProfile =>
    intro row hrow
    have hmem := h.smsProfiles.mem_iff.mp hrow
    rw [configRows_smsProfiles] at hmem
    obtain ⟨entry, hentry, hmem⟩ := List.mem_flatMap.mp hmem
    obtain ⟨profile, hprofile, rfl⟩ := List.mem_map.mp hmem
    exact ⟨entry, hentry, profile, Option.mem_toList.mp hprofile, rfl⟩

end

/-- **The configuration is the source of truth**, for two runs on two
databases. -/
theorem bootstrap_source_of_truth (keeper : SecretKeeper) (cfg : BootstrapConfig)
    (draws draws' : Draws) (hfresh : draws.Fresh cfg) (hfresh' : draws'.Fresh cfg)
    (db db' : Database) :
    ((bootstrap keeper draws cfg db).1 = .ok () ↔ (bootstrap keeper draws' cfg db').1 = .ok ()) ∧
    ((bootstrap keeper draws cfg db).1 = .ok () →
      contents keeper draws cfg (bootstrap keeper draws cfg db).2.tenancy =
        contents keeper draws' cfg (bootstrap keeper draws' cfg db').2.tenancy ∧
      HoldsExactly keeper draws cfg (bootstrap keeper draws cfg db).2.tenancy) ∧
    ((bootstrap keeper draws cfg db).1 ≠ .ok () → (bootstrap keeper draws cfg db).2 = db) ∧
    (bootstrap keeper draws cfg db).2.notifications = db.notifications := by
  have hiff : (bootstrap keeper draws cfg db).1 = .ok () ↔
      (bootstrap keeper draws' cfg db').1 = .ok () :=
    (bootstrap_ok_iff hfresh db).trans (bootstrap_ok_iff hfresh' db').symm
  refine ⟨hiff, fun hok => ?_, bootstrap_failed, bootstrap_notifications db⟩
  obtain ⟨haccepted, hbuilt⟩ := bootstrap_built hfresh hok
  obtain ⟨-, hbuilt'⟩ := bootstrap_built hfresh' (hiff.mp hok)
  exact ⟨(hbuilt.contents_eq hfresh).trans (hbuilt'.contents_eq hfresh').symm,
    hbuilt.holdsExactly haccepted⟩

/-- One tenant with an id and one that gets a new id. -/
def sampleConfig : BootstrapConfig :=
  [sampleTenant (lit "acme") (lit "acme.io"), sampleTenant [] (lit "blank.io")]

/-- Other ids, and numbers that go on from ten. -/
def laterDraws : Draws where
  entry i := { countingDraws.entry i with
    tenantID := List.replicate (i + 1) 0x75
    emailProfileID := List.replicate (i + 1) 0x66 }
  lastDomainID := 10
  lastAdminID := 10

theorem countingDraws_fresh : countingDraws.Fresh sampleConfig :=
  ⟨by decide, by decide, by decide, by decide⟩

theorem laterDraws_fresh : laterDraws.Fresh sampleConfig :=
  ⟨by decide, by decide, by decide, by decide⟩

/-- A second run, on what the first one left. -/
theorem bootstrap_source_of_truth_again :
    (bootstrap plainKeeper countingDraws sampleConfig emptyDatabase).1 = .ok () ∧
    contents plainKeeper countingDraws sampleConfig
      (bootstrap plainKeeper countingDraws sampleConfig emptyDatabase).2.tenancy =
    contents plainKeeper laterDraws sampleConfig
      (bootstrap plainKeeper laterDraws sampleConfig
        (bootstrap plainKeeper countingDraws sampleConfig emptyDatabase).2).2.tenancy := by
  have hok : (bootstrap plainKeeper countingDraws sampleConfig emptyDatabase).1 = .ok () := rfl
  exact ⟨hok, ((bootstrap_source_of_truth plainKeeper sampleConfig countingDraws laterDraws
    countingDraws_fresh laterDraws_fresh emptyDatabase _).2.1 hok).1⟩

end Pinguin.Tenancy
