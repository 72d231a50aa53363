/-
Pinguin.Tenancy.IdentityTheorems — which tenant a lookup finds after
`Bootstrap`.

A tenant has as many default domains and default email profiles as the
configuration has entries for it, so one of each exactly if no two entries
share an id; then a lookup by id gives the credentials of the entry. A
lookup by host finds a tenant only under the names it wrote: a configured
domain with a port is written with its port and looked up without it.
-/
import Pinguin.Tenancy.BootstrapTheorems

namespace Pinguin.Tenancy

open Pinguin.Go Pinguin.Lib Pinguin.Notify

/-! ## What an entry says of its tenant -/

/-- The email credentials of an entry. -/
def BootstrapTenant.emailCredentials (spec : BootstrapTenant) : EmailCredentials :=
  ⟨spec.emailProfile.host, spec.emailProfile.port, spec.emailProfile.username,
    spec.emailProfile.password, spec.emailProfile.fromAddress⟩

/-- The SMS credentials of an SMS profile. -/
def BootstrapSMSProfile.credentials (profile : BootstrapSMSProfile) : SMSCredentials :=
  ⟨profile.accountSID, profile.authToken, profile.fromNumber⟩

/-- The SMS credentials of an entry, if it has them. -/
def BootstrapTenant.smsCredentials (spec : BootstrapTenant) : Option SMSCredentials :=
  spec.smsProfile.map (·.credentials)

/-- The runtime configuration an entry describes. -/
def BootstrapTenant.runtime (spec : BootstrapTenant) : RuntimeValue :=
  ⟨spec.tenantRow, spec.emailCredentials, spec.smsCredentials⟩

/-! ## Loading a tenant -/

section

variable {keeper : SecretKeeper} {entries : List (BootstrapTenant × EntryDraws)}
  {store : TenantStore}

/-- The tenant row with an id is that of an entry with it. -/
theorem Built.first_tenant (h : Built keeper entries store)
    {entry : BootstrapTenant × EntryDraws} (hentry : entry ∈ entries) (hne : entry.1.id ≠ []) :
    ∃ other ∈ entries, other.1.id = entry.1.id ∧
      store.tenants.first (matchesField [] entry.1.id ·.id) = some other.1.tenantRow := by
  have hrow : entry.1.tenantRow ∈ entries.map (·.1.tenantRow) := List.mem_map_of_mem hentry
  obtain ⟨last, hlast, hkey⟩ : ∃ last ∈ Table.lastByKey Tenant.id (entries.map (·.1.tenantRow)),
      last.id = entry.1.id := Table.exists_lastByKey hrow
  cases hfirst : store.tenants.first (matchesField [] entry.1.id ·.id) with
  | none =>
    have := Table.first_none.mp hfirst last (h.tenants.mem_iff.mpr hlast)
    simp [matchesField, hkey] at this
  | some row =>
    obtain ⟨hmem, hmatch⟩ := Table.first_some hfirst
    obtain ⟨other, hother, rfl⟩ := List.mem_map.mp (Table.mem_lastByKey (h.tenants.mem_iff.mp hmem))
    simp only [matchesField, Bool.or_eq_true, decide_eq_true_eq] at hmatch
    exact ⟨other, hother, hmatch.resolve_left hne, rfl⟩

/-- The default email profile of a tenant is that of an entry with its id. -/
theorem Built.first_email (h : Built keeper entries store)
    {entry : BootstrapTenant × EntryDraws} (hentry : entry ∈ entries) (hne : entry.1.id ≠ []) :
    ∃ other ∈ entries, other.1.id = entry.1.id ∧ (store.emailProfiles.first fun p =>
      matchesField [] entry.1.id p.tenantID && matchesField false true p.isDefault) =
        some (other.1.emailRow keeper other.2) := by
  have hrow : entry.1.emailRow keeper entry.2 ∈ store.emailProfiles.rows :=
    h.emailProfiles.mem_iff.mpr (List.mem_map_of_mem hentry)
  cases hfirst : store.emailProfiles.first fun p =>
      matchesField [] entry.1.id p.tenantID && matchesField false true p.isDefault with
  | none =>
    have := Table.first_none.mp hfirst _ hrow
    simp [matchesField, BootstrapTenant.emailRow] at this
  | some row =>
    obtain ⟨hmem, hmatch⟩ := Table.first_some hfirst
    obtain ⟨other, hother, rfl⟩ := List.mem_map.mp (h.emailProfiles.mem_iff.mp hmem)
    simp only [matchesField, Bool.and_eq_true, Bool.or_eq_true, decide_eq_true_eq] at hmatch
    exact ⟨other, hother, hmatch.1.resolve_left hne, rfl⟩

theorem emailRow_credentials (keeper : SecretKeeper) (own : EntryDraws) (spec : BootstrapTenant) :
    (spec.emailRow keeper own).credentials keeper.decrypt = .ok spec.emailCredentials := by
  simp only [EmailProfile.credentials, BootstrapTenant.emailRow, keeper.opens]
  rfl

/-- The SMS credentials of a tenant are those of an entry with its id that
has some. -/
theorem Built.loadSMSCredentials (h : Built keeper entries store) {tenantID : GoString}
    (hne : tenantID ≠ []) :
    (∀ entry ∈ entries, entry.1.id = tenantID → entry.1.smsProfile = none) ∧
      loadSMSCredentials store keeper.decrypt tenantID = .ok none ∨
    ∃ other ∈ entries, other.1.id = tenantID ∧ other.1.smsProfile.isSome = true ∧
      loadSMSCredentials store keeper.decrypt tenantID = .ok other.1.smsCredentials := by
  have hmem_iff : ∀ row, row ∈ store.smsProfiles.rows ↔ ∃ entry ∈ entries,
      ∃ profile ∈ entry.1.smsProfile, profile.row keeper entry.2 entry.1.id = row := by
    intro row
    rw [h.smsProfiles.mem_iff, configRows_smsProfiles]
    simp only [List.mem_flatMap, List.mem_map, Option.mem_toList, Option.mem_def]
  cases hfirst : store.smsProfiles.first fun p =>
      matchesField [] tenantID p.tenantID && matchesField false true p.isDefault with
  | none =>
    refine .inl ⟨fun entry hentry hid => ?_, by simp only [Tenancy.loadSMSCredentials, hfirst]⟩
    by_contra hsome
    obtain ⟨profile, hprofile⟩ := Option.ne_none_iff_exists'.mp hsome
    have := Table.first_none.mp hfirst _ ((hmem_iff _).mpr ⟨entry, hentry, profile, hprofile, rfl⟩)
    simp [matchesField, BootstrapSMSProfile.row, hid] at this
  | some row =>
    obtain ⟨hmem, hmatch⟩ := Table.first_some hfirst
    obtain ⟨other, hother, profile, hprofile, rfl⟩ := (hmem_iff row).mp hmem
    simp only [matchesField, Bool.and_eq_true, Bool.or_eq_true, decide_eq_true_eq] at hmatch
    have hcredentials : other.1.smsCredentials = some profile.credentials := by
      rw [BootstrapTenant.smsCredentials, Option.mem_def.mp hprofile]
      rfl
    refine .inr ⟨other, hother, hmatch.1.resolve_left hne, ?_, ?_⟩
    · rw [Option.mem_def.mp hprofile]
      rfl
    · simp only [Tenancy.loadSMSCredentials, hfirst, BootstrapSMSProfile.row, keeper.opens,
        hcredentials]
      rfl

/-- **Loading a configured tenant** succeeds; when only one entry has its id,
it gives what the entry says. -/
theorem Built.loadRuntime (h : Built keeper entries store)
    {entry : BootstrapTenant × EntryDraws} (hentry : entry ∈ entries) (hne : entry.1.id ≠ []) :
    ∃ runtime, loadRuntime store keeper.decrypt entry.1.id = .ok runtime ∧
      runtime.tenant.id = entry.1.id ∧
      ((∀ other ∈ entries, other.1.id = entry.1.id → other = entry) →
        runtime = entry.1.runtime) := by
  obtain ⟨named, hnamed, hnamedID, htenant⟩ := h.first_tenant hentry hne
  obtain ⟨mailed, hmailed, hmailedID, hemail⟩ := h.first_email hentry hne
  have hcredentials := emailRow_credentials keeper mailed.2 mailed.1
  rcases h.loadSMSCredentials hne with ⟨hnone, hsms⟩ | ⟨texted, htexted, htextedID, hsome, hsms⟩
  · refine ⟨⟨named.1.tenantRow, mailed.1.emailCredentials, none⟩, ?_, hnamedID, fun hunique => ?_⟩
    · simp only [Tenancy.loadRuntime, htenant, hemail, hsms, hcredentials]
    · rw [hunique named hnamed hnamedID, hunique mailed hmailed hmailedID, BootstrapTenant.runtime,
        BootstrapTenant.smsCredentials, hnone entry hentry rfl]
      rfl
  · refine ⟨⟨named.1.tenantRow, mailed.1.emailCredentials, texted.1.smsCredentials⟩, ?_, hnamedID,
      fun hunique => ?_⟩
    · simp only [Tenancy.loadRuntime, htenant, hemail, hsms, hcredentials]
    · rw [hunique named hnamed hnamedID, hunique mailed hmailed hmailedID,
        hunique texted htexted htextedID]
      rfl

end

/-! ## Lookups after a run -/

/-- After a `Bootstrap` that succeeds every repository answers from the new
tables. -/
theorem World.bootstrap_answer {w : World} {keeper : SecretKeeper} {draws : Draws}
    {cfg : BootstrapConfig} (hok : (w.bootstrap keeper draws cfg).1 = .ok ()) {position : Nat}
    {repo : CachedRepository} (hrepo : w.repos[position]? = some repo) (query : Query) :
    (Tenancy.bootstrap keeper draws cfg w.db).1 = .ok () ∧
    ∃ result w', (w.bootstrap keeper draws cfg).2.resolve position query = some (result, w') ∧
      result.answer = lookup (Tenancy.bootstrap keeper draws cfg w.db).2.tenancy repo.decrypt query := by
  have hbootstrap : (Tenancy.bootstrap keeper draws cfg w.db).1 = .ok () := by
    rw [World.bootstrap] at hok
    generalize Tenancy.bootstrap keeper draws cfg w.db = result at hok
    obtain ⟨result, db⟩ := result
    cases result with
    | error e => cases hok
    | ok u => rfl
  refine ⟨hbootstrap, ?_⟩
  rw [World.bootstrap_repos hbootstrap]
  have hcleared : (w.repos.map (·.clearCaches))[position]? = some (.new repo.decrypt) := by
    rw [List.getElem?_map, hrepo]
    rfl
  simp only [World.resolve, hcleared]
  refine ⟨_, _, rfl, ?_⟩
  exact (resolve_answers (Tenancy.coherent_new _ w.heap [] repo.decrypt)
    (fun _ h => absurd h List.not_mem_nil) query).answer

/-! ## One identity for a tenant -/

/-- No two entries have the same non-blank id. -/
def DistinctIDs (cfg : BootstrapConfig) : Prop :=
  cfg.Pairwise fun spec other => trimSpace spec.id ≠ [] → trimSpace spec.id ≠ trimSpace other.id

instance decidableDistinctIDs (cfg : BootstrapConfig) : Decidable (DistinctIDs cfg) :=
  inferInstanceAs (Decidable (cfg.Pairwise _))

/-- Every tenant has one default domain, one default email profile and at
most one default SMS profile. -/
def OneDefault (store : TenantStore) : Prop :=
  ∀ tenant ∈ store.tenants.rows,
    (store.domains.select fun row => row.tenantID = tenant.id && row.isDefault).length = 1 ∧
    (store.emailProfiles.select fun row => row.tenantID = tenant.id && row.isDefault).length = 1 ∧
    (store.smsProfiles.select fun row => row.tenantID = tenant.id && row.isDefault).length ≤ 1

theorem entryOwner_nodup_iff (cfg : BootstrapConfig) :
    (cfg.zipIdx.map entryOwner).Nodup ↔ DistinctIDs cfg := by
  have hpositions : cfg.zipIdx.Pairwise fun entry other => entry.2 ≠ other.2 := by
    refine List.pairwise_map.mp ?_
    rw [List.zipIdx_map_snd]
    exact List.nodup_range'
  have hiff : ∀ entry other : BootstrapTenant × Nat, entry.2 ≠ other.2 →
      (entryOwner entry ≠ entryOwner other ↔
        (trimSpace entry.1.id ≠ [] → trimSpace entry.1.id ≠ trimSpace other.1.id)) := by
    intro entry other hne
    rw [entryOwner, entryOwner]
    grind
  have hdistinct : DistinctIDs cfg ↔ cfg.zipIdx.Pairwise fun entry other =>
      trimSpace entry.1.id ≠ [] → trimSpace entry.1.id ≠ trimSpace other.1.id := by
    rw [DistinctIDs]
    conv_lhs => rw [← List.zipIdx_map_fst 0 cfg]
    exact List.pairwise_map
  rw [hdistinct, List.Nodup, List.pairwise_map]
  constructor
  · exact fun h => (h.and hpositions).imp fun hboth => (hiff _ _ hboth.2).mp hboth.1
  · exact fun h => (h.and hpositions).imp fun hboth => (hiff _ _ hboth.2).mpr hboth.1

section

variable {keeper : SecretKeeper} {draws : Draws} {cfg : BootstrapConfig} {store : TenantStore}

theorem prepared_ids_nodup_iff (hfresh : draws.Fresh cfg) :
    ((prepareBootstrapTenants draws cfg).map (·.1.id)).Nodup ↔ DistinctIDs cfg := by
  rw [← entryOwner_nodup_iff, prepareBootstrapTenants, List.map_map, List.Nodup, List.Nodup,
    List.pairwise_map, List.pairwise_map]
  constructor
  · exact fun h => h.imp_of_mem fun hentry hother hne =>
      mt (prepared_id_iff hfresh hentry hother).mpr hne
  · exact fun h => h.imp_of_mem fun hentry hother hne =>
      mt (prepared_id_iff hfresh hentry hother).mp hne

/-- An entry writes one default domain. -/
theorem countP_entry_domains {hosts : List GoString} (hne : hosts ≠ []) (id tenantID : GoString) :
    (hosts.zipIdx.map fun h => (id, h.1, h.2 == 0)).countP
      (fun row => row.1 = tenantID && row.2.2) = if id = tenantID then 1 else 0 := by
  obtain ⟨host, hosts, rfl⟩ := List.exists_cons_of_ne_nil hne
  have hrest : ((hosts.zipIdx 1).map fun h => (id, h.1, h.2 == 0)).countP
      (fun row => row.1 = tenantID && row.2.2) = 0 := by
    refine List.countP_eq_zero.mpr fun row hrow => ?_
    obtain ⟨h, hh, rfl⟩ := List.mem_map.mp hrow
    have := List.le_snd_of_mem_zipIdx hh
    simp
    omega
  rw [List.zipIdx_cons, List.map_cons, List.countP_cons, hrest]
  simp

/-- As many default domains as entries. -/
theorem Built.default_domains {entries : List (BootstrapTenant × EntryDraws)}
    (h : Built keeper entries store) (hne : ∀ entry ∈ entries, normalizeDomainHosts entry.1.domains ≠ [])
    (tenantID : GoString) :
    (store.domains.select fun row => row.tenantID = tenantID && row.isDefault).length =
      entries.countP (·.1.id = tenantID) := by
  have hrows : (store.domains.select fun row => row.tenantID = tenantID && row.isDefault).length =
      (store.domains.rows.map (·.content)).countP (fun row => row.1 = tenantID && row.2.2) := by
    rw [List.countP_map, Table.select, List.countP_eq_length_filter]
    rfl
  rw [hrows, h.domains, configRows_domains]
  clear h hrows
  induction entries with
  | nil => rfl
  | cons entry entries ih =>
    rw [List.forall_mem_cons] at hne
    rw [List.flatMap_cons, List.countP_append, countP_entry_domains hne.1, ih hne.2, List.countP_cons,
      Nat.add_comm]
    simp

/-- As many default email profiles as entries. -/
theorem Built.default_emails {entries : List (BootstrapTenant × EntryDraws)}
    (h : Built keeper entries store) (tenantID : GoString) :
    (store.emailProfiles.select fun row => row.tenantID = tenantID && row.isDefault).length =
      entries.countP (·.1.id = tenantID) := by
  rw [Table.select, ← List.countP_eq_length_filter, h.emailProfiles.countP_eq, List.countP_map]
  refine List.countP_congr fun entry _ => ?_
  simp [BootstrapTenant.emailRow]

/-- At most as many default SMS profiles as entries. -/
theorem Built.default_sms {entries : List (BootstrapTenant × EntryDraws)}
    (h : Built keeper entries store) (tenantID : GoString) :
    (store.smsProfiles.select fun row => row.tenantID = tenantID && row.isDefault).length ≤
      entries.countP (·.1.id = tenantID) := by
  rw [Table.select, ← List.countP_eq_length_filter, h.smsProfiles.countP_eq, configRows_smsProfiles]
  clear h
  induction entries with
  | nil => exact Nat.le_refl 0
  | cons entry entries ih =>
    rw [List.flatMap_cons, List.countP_append, List.countP_cons, Nat.add_comm]
    refine Nat.add_le_add ih ?_
    cases entry.1.smsProfile with
    | none => exact Nat.zero_le _
    | some profile => simp [BootstrapSMSProfile.row]

/-- One default of each kind exactly if no two entries share an id. -/
theorem Built.oneDefault_iff (hfresh : draws.Fresh cfg) (haccepted : Accepted cfg)
    (h : Built keeper (prepareBootstrapTenants draws cfg) store) :
    OneDefault store ↔ DistinctIDs cfg := by
  have hne : ∀ entry ∈ prepareBootstrapTenants draws cfg,
      normalizeDomainHosts entry.1.domains ≠ [] :=
    (prepared_forall draws cfg (normalizeDomainHosts ·.domains) (fun _ _ => rfl) (· ≠ [])).mpr
      haccepted.domains
  have hcount : ∀ tenantID, (prepareBootstrapTenants draws cfg).countP (·.1.id = tenantID) =
      ((prepareBootstrapTenants draws cfg).map (·.1.id)).count tenantID := by
    intro tenantID
    rw [List.count, List.countP_map]
    exact List.countP_congr fun entry _ => by simp
  have hids := (h.holdsExactly haccepted).tenantIDs
  rw [← prepared_ids_nodup_iff hfresh]
  constructor
  · intro hone
    rw [List.nodup_iff_count_le_one]
    intro id
    by_cases hmem : id ∈ (prepareBootstrapTenants draws cfg).map (·.1.id)
    · obtain ⟨tenant, htenant, rfl⟩ := List.mem_map.mp ((hids id).mpr hmem)
      rw [← hcount, ← h.default_emails]
      exact (hone tenant htenant).2.1.le
    · rw [List.count_eq_zero_of_not_mem hmem]
      exact Nat.zero_le 1
  · intro hnodup tenant htenant
    have hone : (prepareBootstrapTenants draws cfg).countP (·.1.id = tenant.id) = 1 := by
      rw [hcount]
      exact List.count_eq_one_of_mem hnodup ((hids tenant.id).mp (List.mem_map_of_mem htenant))
    exact ⟨(h.default_domains hne tenant.id).trans hone, (h.default_emails tenant.id).trans hone,
      (h.default_sms tenant.id).trans hone.le⟩

/-- The entry with an id, when no other has it. -/
theorem prepared_unique (hfresh : draws.Fresh cfg) (hdistinct : DistinctIDs cfg)
    {entry other : BootstrapTenant × EntryDraws} (h : entry ∈ prepareBootstrapTenants draws cfg)
    (h' : other ∈ prepareBootstrapTenants draws cfg) (heq : other.1.id = entry.1.id) :
    other = entry :=
  List.inj_on_of_nodup_map ((prepared_ids_nodup_iff hfresh).mpr hdistinct) h' h heq

/-- A lookup by id gives the credentials of the entry. -/
theorem Built.lookup_byID (hfresh : draws.Fresh cfg) (hdistinct : DistinctIDs cfg)
    (h : Built keeper (prepareBootstrapTenants draws cfg) store) {spec : BootstrapTenant}
    (hspec : spec ∈ cfg) (hid : trimSpace spec.id ≠ []) :
    ∃ tenant, lookup store keeper.decrypt (.byID spec.id) =
      .ok ⟨tenant, spec.emailCredentials, spec.smsCredentials⟩ := by
  obtain ⟨i, hi, rfl⟩ := List.getElem_of_mem hspec
  have hzip : (cfg[i], i) ∈ cfg.zipIdx := List.mk_mem_zipIdx_iff_getElem?.mpr (List.getElem?_eq_getElem hi)
  have hentry : prepareBootstrapTenant draws (cfg[i], i) ∈ prepareBootstrapTenants draws cfg :=
    List.mem_map_of_mem hzip
  have hprepared : (prepareBootstrapTenant draws (cfg[i], i)).1.id = trimSpace cfg[i].id :=
    if_neg hid
  obtain ⟨runtime, hload, -, hown⟩ := h.loadRuntime hentry (by rw [hprepared]; exact hid)
  refine ⟨(prepareBootstrapTenant draws (cfg[i], i)).1.tenantRow, ?_⟩
  rw [lookup, if_neg hid, ← hprepared, hload,
    hown fun other hother heq => prepared_unique hfresh hdistinct hentry hother heq]
  rfl

end

/-- **One identity for a tenant**: after a `Bootstrap` that succeeds, every
tenant has one default of each kind and a lookup by id gives the credentials
of the entry with it, exactly if no two entries share an id. -/
theorem one_identity_iff (keeper : SecretKeeper) (draws : Draws) (cfg : BootstrapConfig)
    (hfresh : draws.Fresh cfg) (w : World) (hok : (w.bootstrap keeper draws cfg).1 = .ok ())
    (position : Nat) (repo : CachedRepository) (hrepo : w.repos[position]? = some repo)
    (hkey : repo.decrypt = keeper.decrypt) :
    (OneDefault (w.bootstrap keeper draws cfg).2.db.tenancy ∧
      ∀ spec ∈ cfg, trimSpace spec.id ≠ [] → ∃ result w' tenant,
        (w.bootstrap keeper draws cfg).2.resolve position (.byID spec.id) = some (result, w') ∧
        result.answer = .ok ⟨tenant, spec.emailCredentials, spec.smsCredentials⟩) ↔
    DistinctIDs cfg := by
  have hbootstrap := (World.bootstrap_answer hok hrepo (.byID [])).1
  obtain ⟨haccepted, hbuilt⟩ := bootstrap_built hfresh hbootstrap
  have hdb : (w.bootstrap keeper draws cfg).2.db = (bootstrap keeper draws cfg w.db).2 := by
    rw [World.bootstrap_repos hbootstrap]
  rw [hdb, hbuilt.oneDefault_iff hfresh haccepted]
  refine ⟨And.left, fun hdistinct => ⟨hdistinct, fun spec hspec hid => ?_⟩⟩
  obtain ⟨-, result, w', hresolve, hanswer⟩ := World.bootstrap_answer hok hrepo (.byID spec.id)
  obtain ⟨tenant, hlookup⟩ := hbuilt.lookup_byID hfresh hdistinct hspec hid
  exact ⟨result, w', tenant, hresolve, by rw [hanswer, hkey, hlookup]⟩

/-- Two entries for one tenant, the second with other credentials. -/
def repeatedConfig : BootstrapConfig :=
  [sampleTenant (lit "acme") (lit "a.io"), { sampleTenant (lit " acme ") (lit "b.io") with
    emailProfile := ⟨lit "smtp", 25, lit "other", lit "secret", lit "b@t.io"⟩ }]

/-- Both are accepted: the tenant has two default domains and two default
email profiles, and the credentials of the second entry are not found. -/
theorem repeated_id_accepted :
    (bootstrap plainKeeper countingDraws repeatedConfig emptyDatabase).1 = .ok () ∧
    ¬OneDefault (bootstrap plainKeeper countingDraws repeatedConfig emptyDatabase).2.tenancy ∧
    (lookup (bootstrap plainKeeper countingDraws repeatedConfig emptyDatabase).2.tenancy some
      (.byID (lit " acme "))).map (·.email.username) = .ok (lit "user") := by
  refine ⟨rfl, fun hone => ?_, rfl⟩
  have hrow : ⟨lit "acme", lit "T", .active, []⟩ ∈
      (bootstrap plainKeeper countingDraws repeatedConfig emptyDatabase).2.tenancy.tenants.rows :=
    List.mem_cons_self
  exact absurd (hone _ hrow).1 (by decide)

/-- The world after one `Bootstrap`, with a repository. -/
def sampleWorld : World := { World.new emptyDatabase with repos := [.new some] }

theorem one_identity_sample :
    OneDefault (sampleWorld.bootstrap plainKeeper countingDraws sampleConfig).2.db.tenancy :=
  ((one_identity_iff plainKeeper countingDraws sampleConfig countingDraws_fresh sampleWorld rfl 0
    (.new some) rfl rfl).mpr (by decide)).1

/-! ## Hosts -/

/-- The host name in a configured domain: what stands before a port. -/
def hostName (domain : GoString) : GoString := (cut (trimSpace domain) 0x3A).1

/-- The requests a configured domain promises to answer: itself, and its host
name with any port or none. -/
def Promised (domain request : GoString) : Prop :=
  request = domain ∨ request = hostName domain ∨ ∃ port, request = hostName domain ++ 0x3A :: port

/-- A host is a domain of an entry that stands for the same tenant. -/
def NamesTenant (cfg : BootstrapConfig) (entry : BootstrapTenant × Nat) (host : GoString) : Prop :=
  ∃ other ∈ cfg.zipIdx, entryOwner other = entryOwner entry ∧
    host ∈ normalizeDomainHosts other.1.domains

/-- The runtime configuration of the tenant of an entry; what the entry says,
when no other entry stands for the tenant. -/
def RuntimeOf (draws : Draws) (cfg : BootstrapConfig) (entry : BootstrapTenant × Nat)
    (runtime : RuntimeValue) : Prop :=
  runtime.tenant.id = (prepareBootstrapTenant draws entry).1.id ∧
    ((∀ other ∈ cfg.zipIdx, entryOwner other = entryOwner entry → other = entry) →
      runtime = (prepareBootstrapTenant draws entry).1.runtime)

theorem colon_not_mem_toLower {s : GoString} (h : 0x3A ∉ s) : 0x3A ∉ toLower s :=
  fun hmem => h (mem_of_mem_toLower (by decide) hmem)

/-- Lower case and the cut at a port. -/
theorem cut_toLower (s : GoString) : (cut (toLower s) 0x3A).1 = toLower (cut s 0x3A).1 := by
  by_cases h : 0x3A ∈ s
  · obtain ⟨front, back, rfl, hfront⟩ := List.eq_append_cons_of_mem h
    have hlower : lowerByte 0x3A = 0x3A := by decide
    rw [toLower_append_ascii front (by decide), hlower, cut_append_sep hfront,
      cut_append_sep (colon_not_mem_toLower hfront)]
  · rw [cut_of_not_mem h, cut_of_not_mem (colon_not_mem_toLower h)]

theorem normalizeHost_eq (host : GoString) : normalizeHost host = toLower (hostName host) :=
  cut_toLower (trimSpace host)

/-- A host name does not start with white space. -/
theorem head_runes_hostName {domain : GoString} {r : Nat × GoString}
    (h : (runes (hostName domain)).head? = some r) : isSpace r.1 = false := by
  rw [hostName] at h
  by_cases hcolon : 0x3A ∈ trimSpace domain
  · obtain ⟨front, back, heq, hfront⟩ := List.eq_append_cons_of_mem hcolon
    rw [heq, cut_append_sep hfront] at h
    refine head_runes_trimSpace (s := domain) ?_
    rw [heq, runes_append_ascii front (by decide)]
    rw [List.head?_append_of_ne_nil _ (by intro hnil; rw [hnil] at h; cases h)]
    exact h
  · rw [cut_of_not_mem hcolon] at h
    exact head_runes_trimSpace h

/-- Any port leads to the same host as the configured domain. -/
theorem normalizeHost_port (domain port : GoString) :
    normalizeHost (hostName domain ++ 0x3A :: port) = normalizeHost domain := by
  obtain ⟨rest, hrest⟩ := trimSpace_append_ascii (c := 0x3A) (by decide) (by decide) port
    fun r (hr : (runes (hostName domain)).head? = some r) => head_runes_hostName hr
  have hname : 0x3A ∉ hostName domain := not_mem_cut _ _
  rw [normalizeHost_eq, normalizeHost_eq, hostName, hrest, cut_append_sep hname]

section

variable {keeper : SecretKeeper} {draws : Draws} {cfg : BootstrapConfig} {store : TenantStore}

/-- A lookup by host finds a tenant exactly under the names of its entries. -/
theorem Built.lookup_byHost_iff (hfresh : draws.Fresh cfg)
    (h : Built keeper (prepareBootstrapTenants draws cfg) store) {entry : BootstrapTenant × Nat}
    (hentry : entry ∈ cfg.zipIdx) (request : GoString) :
    (∃ runtime, lookup store keeper.decrypt (.byHost request) = .ok runtime ∧
      RuntimeOf draws cfg entry runtime) ↔ NamesTenant cfg entry (normalizeHost request) := by
  constructor
  · rintro ⟨runtime, hlookup, hid, -⟩
    rw [lookup] at hlookup
    split at hlookup
    · cases hlookup
    · rename_i hne
      split at hlookup
      · cases hlookup
      · rename_i row hfirst
        obtain ⟨hrow, hmatch⟩ := Table.first_some hfirst
        simp only [matchesField, Bool.or_eq_true, decide_eq_true_eq] at hmatch
        obtain ⟨prepared, hprepared, hrowID, hhost⟩ := h.domain_entry hrow
        obtain ⟨other, hother, rfl⟩ := List.mem_map.mp hprepared
        obtain ⟨loaded, hload, hloadedID, -⟩ :=
          h.loadRuntime hprepared (prepared_id_ne_nil hfresh hother)
        rw [hrowID, hload] at hlookup
        cases hlookup
        refine ⟨other, hother, (prepared_id_iff hfresh hother hentry).mp (hloadedID.symm.trans hid), ?_⟩
        exact hmatch.resolve_left hne ▸ hhost
  · rintro ⟨other, hother, howner, hhost⟩
    obtain ⟨hne, -⟩ := mem_normalizeDomainHosts.mp hhost
    have hprepared : prepareBootstrapTenant draws other ∈ prepareBootstrapTenants draws cfg :=
      List.mem_map_of_mem hother
    obtain ⟨index, hindex, hget⟩ := List.getElem_of_mem hhost
    have hcontent : ((prepareBootstrapTenant draws other).1.id, normalizeHost request, index == 0) ∈
        store.domains.rows.map (·.content) := by
      rw [h.domains, configRows_domains]
      refine List.mem_flatMap.mpr ⟨_, hprepared, List.mem_map.mpr ⟨(_, index), ?_, rfl⟩⟩
      exact List.mk_mem_zipIdx_iff_getElem?.mpr
        ((List.getElem?_eq_getElem hindex).trans (congrArg some hget))
    obtain ⟨row, hfirst, hrowID, -⟩ := first_host store _ hne hcontent
    obtain ⟨runtime, hload, hid, hown⟩ := h.loadRuntime hprepared (prepared_id_ne_nil hfresh hother)
    refine ⟨runtime, by simp only [lookup, if_neg hne, hfirst, hrowID, hload], ?_, fun hunique => ?_⟩
    · exact hid.trans ((prepared_id_iff hfresh hother hentry).mpr howner)
    · obtain rfl := hunique other hother howner
      refine hown fun prepared hmem heq => ?_
      obtain ⟨third, hthird, rfl⟩ := List.mem_map.mp hmem
      rw [hunique third hthird ((prepared_id_iff hfresh hthird hother).mp heq)]

end

/-- A domain without a port is one of its own names. -/
theorem namesTenant_of_no_port {cfg : BootstrapConfig} {entry : BootstrapTenant × Nat}
    (hentry : entry ∈ cfg.zipIdx) {domain : GoString} (hdomain : domain ∈ entry.1.domains)
    (hnonblank : trimSpace domain ≠ []) (hport : 0x3A ∉ trimSpace domain) :
    NamesTenant cfg entry (normalizeHost domain) ∧
      NamesTenant cfg entry (normalizeHost (hostName domain)) := by
  have hname : hostName domain = trimSpace domain := by rw [hostName, cut_of_not_mem hport]
  have hown : NamesTenant cfg entry (normalizeDomainHost domain) :=
    ⟨entry, hentry, rfl, mem_normalizeDomainHosts.mpr
      ⟨mt normalizeDomainHost_eq_nil.mp hnonblank, domain, hdomain, rfl⟩⟩
  have hbare : hostName (trimSpace domain) = trimSpace domain := by
    rw [hostName, trimSpace_idem, cut_of_not_mem hport]
  have hdirect : normalizeHost domain = normalizeDomainHost domain := by
    rw [normalizeHost_eq, hname, normalizeDomainHost]
  have halone : normalizeHost (hostName domain) = normalizeDomainHost domain := by
    rw [hname, normalizeHost_eq, hbare, normalizeDomainHost]
  rw [hdirect, halone]
  exact ⟨hown, hown⟩

/-- One tenant whose domain is written with a port. -/
def portConfig : BootstrapConfig := [sampleTenant (lit "acme") (lit "localhost:8080")]

end Pinguin.Tenancy
