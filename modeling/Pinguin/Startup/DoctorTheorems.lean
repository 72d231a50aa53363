/-
Pinguin.Startup.DoctorTheorems — what a clean report says about the start.

A file that the doctor reports valid is loaded without an error. The secret
keeper and `Bootstrap` ask for more. What they ask for and the doctor does
not is `Startable`: a master key of 64 hexadecimal digits, a tenant that is
enabled, and no domain there twice.
-/
import Pinguin.Startup.CheckTheorems
import Pinguin.Tenancy.BootstrapTables
import Pinguin.Tenancy.Secrets

namespace Pinguin.Doctor

open Pinguin.Go Pinguin.Tenancy Pinguin.Startup

/-! ## The start of the server -/

theorem unmarshalTenant_status {node : TenantNode} {tenant : BootstrapTenant}
    (h : unmarshalTenant node = .ok tenant) : tenant.status = [] := by
  cases node with
  | null =>
    rw [← Except.ok.inj h]
    rfl
  | other => cases h
  | mapping node =>
    simp only [unmarshalTenant] at h
    split at h
    · cases h
    · rename_i hkey
      split at h
      · cases h
      · have hfields : tenant.status = node.fields.status := by
          simp only [decodeTenantFields] at h
          split at h
          · cases h
          · split at h
            · cases h
            · rw [← Except.ok.inj h]
        rw [hfields]
        by_contra hstatus
        refine hkey (List.any_eq_true.mpr ⟨lit "status", node.statusKeyed hstatus, ?_⟩)
        decide

theorem mem_of_mapM_ok {α β ε : Type} {f : α → Except ε β} {l : List α} {r : List β}
    (h : l.mapM f = .ok r) {b : β} (hb : b ∈ r) : ∃ a ∈ l, f a = .ok b := by
  induction l generalizing r with
  | nil =>
    rw [← Except.ok.inj (List.mapM_nil.symm.trans h)] at hb
    cases hb
  | cons a l ih =>
    rw [List.mapM_cons] at h
    cases hfirst : f a with
    | error e =>
      rw [hfirst] at h
      cases h
    | ok first =>
      cases hrest : l.mapM f with
      | error e =>
        rw [hfirst, hrest] at h
        cases h
      | ok rest =>
        rw [hfirst, hrest] at h
        rw [← Except.ok.inj h] at hb
        rcases List.mem_cons.mp hb with rfl | hb
        · exact ⟨a, List.mem_cons_self, hfirst⟩
        · obtain ⟨a', ha', hvalue⟩ := ih hrest hb
          exact ⟨a', List.mem_cons_of_mem _ ha', hvalue⟩

theorem decodeTenants_status {items : List TenantNode} {tenants : BootstrapConfig}
    (h : decodeTenants items = .ok tenants) : ∀ tenant ∈ tenants, tenant.status = [] := by
  rw [decodeTenants] at h
  split at h
  · cases h
  · rename_i hmap
    intro tenant htenant
    rw [← Except.ok.inj h] at htenant
    obtain ⟨node, _, hnode⟩ := mem_of_mapM_ok hmap htenant
    exact unmarshalTenant_status hnode

theorem unmarshalTenants_status {node : Option TenantsNode} {config : TenantConfig}
    (h : unmarshalTenants node = .ok config) : ∀ tenant ∈ config.tenants, tenant.status = [] := by
  have hmap : ∀ {items : List TenantNode} {path : GoString},
      (decodeTenants items).map (TenantConfig.mk path) = .ok config →
        ∀ tenant ∈ config.tenants, tenant.status = [] := by
    intro items path hok
    cases hdecode : decodeTenants items with
    | error e =>
      rw [hdecode] at hok
      cases hok
    | ok tenants =>
      rw [hdecode] at hok
      rw [← Except.ok.inj hok]
      exact decodeTenants_status hdecode
  rcases node with _ | (items | ⟨keys, path, items⟩ | _)
  · rw [← Except.ok.inj h]
    simp
  · exact hmap h
  · simp only [unmarshalTenants] at h
    split at h
    · cases h
    · exact hmap h
  · cases h

/-- The configuration a file holds in an environment. -/
def FileHolds (host : Host) (configPath : GoString) (config : FileConfig) : Prop :=
  ∃ rawContents contents, host.readFile configPath = .ok rawContents ∧
    expandConfigEnvironment host rawContents = .ok contents ∧ decodeFile host contents = .ok config

theorem FileHolds.status {host : Host} {configPath : GoString} {config : FileConfig}
    (h : FileHolds host configPath config) :
    ∀ tenant ∈ config.tenants.tenants, trimSpace tenant.status = [] := by
  obtain ⟨_, contents, _, _, hdecode⟩ := h
  simp only [decodeFile] at hdecode
  split at hdecode
  · cases hdecode
  · split at hdecode
    · cases hdecode
    · rename_i hunmarshal
      intro tenant htenant
      rw [← Except.ok.inj hdecode] at htenant
      rw [unmarshalTenants_status hunmarshal tenant htenant]
      rfl

theorem FileHolds.loadConfigFromPath {host : Host} {configPath : GoString} {config : FileConfig}
    (h : FileHolds host configPath config) (hinline : config.tenants.tenants ≠ [])
    (hpasses : FilePasses config) :
    loadConfigFromPath host configPath = .ok config.configuration := by
  obtain ⟨_, contents, hread, hexpand, hdecode⟩ := h
  have herrors := ((filePasses_iff_no_errors hinline).mp hpasses).1
  simp only [Startup.loadConfigFromPath, hread, hexpand, hdecode, Startup.validateConfig, herrors]
  rfl

/-- The server gets past its configuration, its secret keeper and the checks
of `Bootstrap` on the tenants of the file. -/
def Starts (host : Host) (draws : Draws) (configPath : GoString) : Prop :=
  ∃ cfg, Startup.loadConfigFromPath host configPath = .ok cfg ∧
    (∃ key, newSecretKeeper cfg.masterEncryptionKey = .ok key) ∧
    checkBootstrap ((prepareBootstrapTenants draws cfg.tenantBootstrap).map (·.1)) = .ok () ∧
    ∀ spec ∈ cfg.tenantBootstrap, trimSpace spec.status = []

/-- What a start needs of a file and the doctor does not look at. -/
structure Startable (config : FileConfig) : Prop where
  keyLength : (trimSpace config.server.masterEncryptionKey).length = 64
  keyDigits : ∀ c ∈ trimSpace config.server.masterEncryptionKey, (hexValue c).isSome = true
  enabled : ∃ tenant ∈ config.tenants.tenants, tenant.enabled ≠ some false
  distinct : (config.tenants.tenants.flatMap (normalizeDomainHosts ·.domains)).Nodup

theorem TenantPasses.domain {webEnabled : Bool} {tenant : BootstrapTenant}
    (h : TenantPasses webEnabled tenant) : normalizeDomainHosts tenant.domains ≠ [] := by
  obtain ⟨domain, hdomain, hpresent⟩ := h.domains
  have hmem : normalizeDomainHost domain ∈ normalizeDomainHosts tenant.domains :=
    mem_normalizeDomainHosts.mpr ⟨mt normalizeDomainHost_eq_nil.mp hpresent, domain, hdomain, rfl⟩
  exact List.ne_nil_of_mem hmem

theorem isEnabled_iff (tenant : BootstrapTenant) :
    tenant.isEnabled = true ↔ tenant.enabled ≠ some false := bne_iff_ne

/-- A file that passes the doctor starts the server exactly if it is
startable. -/
theorem starts_iff {host : Host} {configPath : GoString} {config : FileConfig}
    (hfile : FileHolds host configPath config) (hinline : config.tenants.tenants ≠ [])
    (hpasses : FilePasses config) (draws : Draws) :
    Starts host draws configPath ↔ Startable config := by
  have hload := hfile.loadConfigFromPath hinline hpasses
  have hdomains : ∀ spec ∈ config.tenants.tenants, normalizeDomainHosts spec.domains ≠ [] :=
    fun spec hspec => (hpasses.tenants spec hspec).domain
  constructor
  · rintro ⟨cfg, hcfg, hkey, hcheck, _⟩
    obtain rfl : config.configuration = cfg := Except.ok.inj (hload.symm.trans hcfg)
    obtain ⟨hlength, hdigits⟩ := (newSecretKeeper_ok_iff _).mp hkey
    obtain ⟨_, ⟨spec, hspec, henabled⟩, hdistinct, _⟩ := checkBootstrap_iff.mp hcheck
    exact ⟨hlength, hdigits, ⟨spec, hspec, (isEnabled_iff spec).mp henabled⟩, hdistinct⟩
  · intro h
    obtain ⟨tenant, htenant, henabled⟩ := h.enabled
    refine ⟨_, hload, (newSecretKeeper_ok_iff _).mpr ⟨h.keyLength, h.keyDigits⟩, ?_, hfile.status⟩
    exact checkBootstrap_iff.mpr
      ⟨hinline, ⟨tenant, htenant, (isEnabled_iff tenant).mpr henabled⟩, h.distinct, hdomains⟩

/-- `Run`, with the environment expanded, reports the file valid. -/
def ReportedValid (host : Host) (configPaths : List GoString) (configPath : GoString) : Prop :=
  ∃ report, run host ⟨configPaths, true⟩ = .ok report ∧
    ∃ diagnostic ∈ report.diagnostics, diagnostic.configPath = configPath ∧ diagnostic.valid = true

/-! ### A diagnostic keeps its path -/

@[simp] theorem configPath_fail (result : DiagnosticResult) (message : GoString) :
    (result.fail message).configPath = result.configPath := rfl

@[simp] theorem configPath_require (result : DiagnosticResult) (passed : Bool) (message : GoString) :
    (result.require passed message).configPath = result.configPath := by
  unfold DiagnosticResult.require
  split
  · rfl
  · rfl

@[simp] theorem configPath_server (server : ServerSection) (webEnabled : Bool)
    (result : DiagnosticResult) :
    (validateServerConfig server webEnabled result).configPath = result.configPath := by
  have hkey : ∀ (key : GoString) (result : DiagnosticResult),
      (validateMasterKey key result).configPath = result.configPath := by
    intro key result
    unfold validateMasterKey
    repeat' split
    all_goals rfl
  unfold validateServerConfig validateServerTAuthConfig
  split
  · simp [hkey]
  · simp [hkey]

@[simp] theorem configPath_relay (path service : GoString) (relay : RelaySection)
    (result : DiagnosticResult) :
    (validateRelayConfig path service relay result).configPath = result.configPath := by
  simp [validateRelayConfig]

@[simp] theorem configPath_delivery (submission : SmtpSubmissionSection)
    (result : DiagnosticResult) :
    (validateDelivery submission result).configPath = result.configPath := by
  simp only [validateDelivery]
  repeat' split
  all_goals simp

@[simp] theorem configPath_submission (submission : SmtpSubmissionSection)
    (result : DiagnosticResult) :
    (validateSMTPSubmissionConfig submission result).configPath = result.configPath := by
  unfold validateSMTPSubmissionConfig
  repeat' split
  all_goals simp

@[simp] theorem configPath_forwarding (forwarding : SmtpForwardingSection)
    (result : DiagnosticResult) :
    (validateSMTPForwardingConfig forwarding result).configPath = result.configPath := by
  unfold validateSMTPForwardingConfig
  split
  · rfl
  · simp

@[simp] theorem configPath_tenantsForValidation (host : Host) (config : TenantConfig)
    (result : DiagnosticResult) :
    (tenantsForValidation host config result).2.configPath = result.configPath := by
  simp only [tenantsForValidation]
  repeat' split
  all_goals rfl

theorem configPath_tenants (webEnabled : Bool) (tenants : List BootstrapTenant)
    (result : DiagnosticResult) :
    (tenants.foldl (diagnoseTenant webEnabled) result).configPath = result.configPath := by
  induction tenants generalizing result with
  | nil => rfl
  | cons tenant tenants ih =>
    rw [List.foldl_cons, ih, diagnoseTenant, validateTenantConfig]
    repeat' split
    all_goals simp

theorem configPath_diagnoseFile (host : Host) (config : FileConfig) (result : DiagnosticResult) :
    (diagnoseFile host config result).configPath = result.configPath := by
  simp only [diagnoseFile, DiagnosticResult.sorted, configPath_tenants,
    configPath_tenantsForValidation, configPath_forwarding, configPath_submission]
  split
  · simp [validateWebConfig]
  · simp

theorem configPath_validateConfig (host : Host) (expandEnv : Bool) (configPath : GoString) :
    (validateConfig host expandEnv configPath).configPath = configPath := by
  simp only [validateConfig]
  repeat' split
  all_goals first | rfl | exact configPath_diagnoseFile host _ _

theorem validateConfig_of_fileHolds {host : Host} {configPath : GoString} {config : FileConfig}
    (h : FileHolds host configPath config) : validateConfig host true configPath =
      diagnoseFile host config ⟨configPath, true, [], [], []⟩ :=
  DecodesTo.validateConfig h

/-- A file that is reported valid passes. -/
theorem ReportedValid.passes {host : Host} {configPaths : List GoString} {configPath : GoString}
    {config : FileConfig} (h : ReportedValid host configPaths configPath)
    (hfile : FileHolds host configPath config) (hinline : config.tenants.tenants ≠ []) :
    FilePasses config := by
  obtain ⟨report, hrun, diagnostic, hdiagnostic, hpath, hvalid⟩ := h
  simp only [run] at hrun
  split at hrun
  · cases hrun
  · rw [← Except.ok.inj hrun] at hdiagnostic
    obtain ⟨path, _, rfl⟩ := List.mem_map.mp hdiagnostic
    rw [configPath_validateConfig] at hpath
    subst hpath
    rw [validateConfig_of_fileHolds hfile] at hvalid
    exact ((diagnoseFile_valid hinline host _).mp hvalid).2

/-- **A clean report and the start of the server.** -/
theorem clean_report_starts_iff (host : Host) (configPaths : List GoString) (configPath : GoString)
    (config : FileConfig) (draws : Draws) (hfile : FileHolds host configPath config)
    (hinline : config.tenants.tenants ≠ [])
    (hvalid : ReportedValid host configPaths configPath) :
    (∃ cfg, Startup.loadConfigFromPath host configPath = .ok cfg) ∧
      (Starts host draws configPath ↔ Startable config) := by
  have hpasses := hvalid.passes hfile hinline
  exact ⟨⟨_, hfile.loadConfigFromPath hinline hpasses⟩, starts_iff hfile hinline hpasses draws⟩

/-! ## Files that are reported valid -/

def samplePath : GoString := lit "config.yml"

def sampleServer (key : GoString) : ServerSection where
  databasePath := lit "p.db"
  grpcAuthToken := lit "t"
  logLevel := lit "INFO"
  maxRetries := 1
  retryIntervalSec := 1
  masterEncryptionKey := key
  connectionTimeout := 1
  operationTimeout := 1
  tauth := ⟨[], []⟩

def sampleKeys : List GoString := [lit "id", lit "displayName", lit "enabled", lit "domains"]

theorem sampleKeys_status : ([] : GoString) ≠ [] → lit "status" ∈ sampleKeys := absurd rfl

/-- One tenant with two domains. -/
def sampleTenant (enabled : Bool) (domain : GoString) : TenantMapping where
  keys := sampleKeys
  fields := ⟨lit "a", lit "A", [], some enabled, [], [lit "a.io", domain], [], none, none⟩
  statusKeyed := sampleKeys_status

def sampleDocument (key : GoString) (enabled : Bool) (domain : GoString) : Document where
  server := sampleServer key
  web := ⟨some false, [], [], []⟩
  smtpSubmission := ⟨false, [], [], [], [], [], 0, [], [], 0, 0, false, ⟨[], 0, [], []⟩⟩
  smtpForwarding := ⟨false, [], [], 0, 0, ⟨[], 0, [], []⟩⟩
  tenants := some (.sequence [.mapping (sampleTenant enabled domain)])

/-- The text of the file, between its three variables. -/
def sampleText (key enabled domain : GoString) : GoString :=
  lit ("server:\n  databasePath: p.db\n  grpcAuthToken: t\n  logLevel: INFO\n  maxRetries: 1\n" ++
      "  retryIntervalSec: 1\n  connectionTimeoutSec: 1\n  operationTimeoutSec: 1\n" ++
      "  masterEncryptionKey: ") ++ key ++
    lit "\nweb:\n  enabled: false\ntenants:\n  - id: a\n    displayName: A\n    enabled: " ++ enabled ++
    lit "\n    domains: [a.io, " ++ domain ++ lit "]\n"

/-- The file in an environment that sets the variables; the library reads the
text that comes out. -/
def sampleHost (key : GoString) (enabled : Bool) (domain : GoString) : Host where
  readFile path := if path = samplePath then .ok (sampleText "$KEY" "$ENABLED" "$DOMAIN")
    else .error "no such file"
  lookupEnv name :=
    if name = lit "KEY" then some key
    else if name = lit "ENABLED" then some (if enabled then lit "true" else lit "false")
    else if name = lit "DOMAIN" then some domain
    else none
  parseYAML text :=
    if text = sampleText key (if enabled then lit "true" else lit "false") domain then
      .ok (sampleDocument key enabled domain)
    else .error "another text"
  parseTenantsYAML _ := .error "another text"

def sampleConfig (key : GoString) (enabled : Bool) (domain : GoString) : FileConfig where
  server := sampleServer key
  web := ⟨some false, [], [], []⟩
  smtpSubmission := ⟨false, [], [], [], [], [], 0, [], [], 0, 0, false, ⟨[], 0, [], []⟩⟩
  smtpForwarding := ⟨false, [], [], 0, 0, ⟨[], 0, [], []⟩⟩
  tenants := ⟨[], [⟨lit "a", lit "A", [], some enabled, [], [lit "a.io", domain], [],
    ⟨[], 0, [], [], []⟩, none⟩]⟩

def hexKey : GoString := lit "00112233445566778899aabbccddeeff00112233445566778899AABBCCDDEEFF"

def textKey : GoString := lit "a master key of forty-one characters, say"

theorem sampleText_names : expandNames (sampleText "$KEY" "$ENABLED" "$DOMAIN") =
    [lit "KEY", lit "ENABLED", lit "DOMAIN"] := by decide +kernel

set_option maxRecDepth 20000 in
theorem expand_sampleText (mapping : GoString → GoString) :
    expand (sampleText "$KEY" "$ENABLED" "$DOMAIN") mapping =
      sampleText (mapping "KEY") (mapping "ENABLED") (mapping "DOMAIN") := by
  -- the pieces are closed, so both sides compute up to the three values
  simp only [sampleText, List.append_assoc]
  rfl

/-- The file holds the sample configuration, whatever the variables are set to. -/
theorem sampleHost_holds (key : GoString) (enabled : Bool) (domain : GoString) :
    FileHolds (sampleHost key enabled domain) samplePath (sampleConfig key enabled domain) := by
  refine ⟨sampleText "$KEY" "$ENABLED" "$DOMAIN",
    sampleText key (if enabled then lit "true" else lit "false") domain, rfl, ?_, ?_⟩
  · simp only [expandConfigEnvironment, sampleText_names, expand_sampleText]
    rfl
  · simp only [decodeFile, sampleHost, if_pos]
    rfl

/-- The doctor asks only that the key is not blank. -/
theorem sampleConfig_passes {key : GoString} (hkey : Present key) (enabled : Bool)
    (domain : GoString) : FilePasses (sampleConfig key enabled domain) where
  server := by
    have hpath : Present (lit "p.db") := present_iff.mp (by decide)
    have htoken : Present (lit "t") := present_iff.mp (by decide)
    have hlevel : Present (lit "INFO") := present_iff.mp (by decide)
    exact ⟨hpath, htoken, hlevel, Int.one_pos, Int.one_pos, hkey, Int.one_pos, Int.one_pos,
      fun hweb => absurd hweb Bool.false_ne_true⟩
  web hweb := absurd hweb Bool.false_ne_true
  smtpSubmission henabled := absurd henabled Bool.false_ne_true
  smtpForwarding henabled := absurd henabled Bool.false_ne_true
  tenants := by
    intro tenant htenant
    rw [List.mem_singleton.mp htenant]
    have hname : Present (lit "A") := present_iff.mp (by decide)
    have hdomain : Present (lit "a.io") := present_iff.mp (by decide)
    exact ⟨hname, ⟨lit "a.io", List.mem_cons_self, hdomain⟩,
      fun hweb => absurd hweb Bool.false_ne_true⟩

theorem sampleHost_reportedValid {key : GoString} (hkey : Present key) (enabled : Bool)
    (domain : GoString) :
    ReportedValid (sampleHost key enabled domain) [samplePath] samplePath := by
  refine ⟨_, rfl, _, List.mem_cons_self, configPath_validateConfig _ true samplePath, ?_⟩
  rw [validateConfig_of_fileHolds (sampleHost_holds key enabled domain)]
  exact (diagnoseFile_valid (List.cons_ne_nil _ _) _ _).mpr
    ⟨rfl, sampleConfig_passes hkey enabled domain⟩

theorem sampleHost_refused {key : GoString} (hkey : Present key) {enabled : Bool}
    {domain : GoString} (hnot : ¬ Startable (sampleConfig key enabled domain)) :
    ReportedValid (sampleHost key enabled domain) [samplePath] samplePath ∧
      ∀ draws, ¬ Starts (sampleHost key enabled domain) draws samplePath := by
  refine ⟨sampleHost_reportedValid hkey enabled domain, fun draws hstarts => hnot ?_⟩
  exact (starts_iff (sampleHost_holds key enabled domain) (List.cons_ne_nil _ _)
    (sampleConfig_passes hkey enabled domain) draws).mp hstarts

theorem hexKey_present : Present hexKey := present_iff.mp (by decide +kernel)

theorem textKey_present : Present textKey := present_iff.mp (by decide +kernel)

theorem clean_report_starts_sample :
    ReportedValid (sampleHost hexKey true (lit "b.io")) [samplePath] samplePath ∧
      ∀ draws, Starts (sampleHost hexKey true (lit "b.io")) draws samplePath := by
  have hreported := sampleHost_reportedValid hexKey_present true (lit "b.io")
  have hstartable : Startable (sampleConfig hexKey true (lit "b.io")) :=
    ⟨by decide +kernel, List.all_eq_true.mp (by decide +kernel), by decide +kernel,
      by decide +kernel⟩
  refine ⟨hreported, fun draws => ?_⟩
  have hstarts := (clean_report_starts_iff (sampleHost hexKey true (lit "b.io")) [samplePath]
    samplePath (sampleConfig hexKey true (lit "b.io")) draws
    (sampleHost_holds hexKey true (lit "b.io")) (List.cons_ne_nil _ _) hreported).2
  exact hstarts.mpr hstartable

/-- **Files the doctor reports valid and the server refuses**: a key that is
text, the only tenant disabled, a domain there twice. -/
theorem clean_reports_refused :
    (ReportedValid (sampleHost textKey true (lit "b.io")) [samplePath] samplePath ∧
      ∀ draws, ¬ Starts (sampleHost textKey true (lit "b.io")) draws samplePath) ∧
    (ReportedValid (sampleHost hexKey false (lit "b.io")) [samplePath] samplePath ∧
      ∀ draws, ¬ Starts (sampleHost hexKey false (lit "b.io")) draws samplePath) ∧
    (ReportedValid (sampleHost hexKey true (lit "A.io")) [samplePath] samplePath ∧
      ∀ draws, ¬ Starts (sampleHost hexKey true (lit "A.io")) draws samplePath) := by
  refine ⟨?_, ?_, ?_⟩
  · refine sampleHost_refused textKey_present fun h => ?_
    exact absurd h.keyLength (by decide +kernel)
  · refine sampleHost_refused hexKey_present fun h => ?_
    exact absurd h.enabled (by decide +kernel)
  · refine sampleHost_refused hexKey_present fun h => ?_
    exact absurd h.distinct (by decide +kernel)

end Pinguin.Doctor
