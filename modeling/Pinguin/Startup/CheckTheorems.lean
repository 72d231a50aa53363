/-
Pinguin.Startup.CheckTheorems — the two validators of a file.

The doctor and the loader check the same conditions, which are stated here
once for each section (`ServerPasses`, `SubmissionPasses`, ...). The doctor
reads the values of the file as they are, the loader trimmed and in lower
case, and a delivery mode even twice. For each section a diagnostic stays
valid exactly if its conditions hold, and the loader finds no error exactly
if they hold; they differ in the admins only, which the loader never asks
for (`validators_agree`).
-/
import Mathlib.Tactic.MkIffOfInductiveProp
import Pinguin.Go.RuneTheorems
import Pinguin.Startup.Doctor

namespace Pinguin.Doctor

open Pinguin.Go Pinguin.Tenancy Pinguin.Startup

/-! ## Conditions of the sections -/

/-- Text that is not blank. -/
def Present (value : GoString) : Prop := trimSpace value ≠ []

theorem present_iff {value : GoString} : present value = true ↔ Present value := decide_eq_true_iff

@[mk_iff] structure ServerPasses (server : ServerSection) (webEnabled : Bool) : Prop where
  databasePath : Present server.databasePath
  grpcAuthToken : Present server.grpcAuthToken
  logLevel : Present server.logLevel
  maxRetries : 0 < server.maxRetries
  retryIntervalSec : 0 < server.retryIntervalSec
  masterEncryptionKey : Present server.masterEncryptionKey
  connectionTimeout : 0 < server.connectionTimeout
  operationTimeout : 0 < server.operationTimeout
  signingKey : webEnabled = true → Present server.tauth.signingKey

@[mk_iff] structure RelayPasses (relay : RelaySection) : Prop where
  host : Present relay.host
  port : 0 < relay.port
  username : Present relay.username
  password : Present relay.password

/-- A delivery mode that is known, with the relay it needs. -/
def DeliveryPasses (submission : SmtpSubmissionSection) : Prop :=
  (normalizeSMTPDeliveryMode submission.deliveryMode = lit "upstream" ∧
      RelayPasses submission.relay) ∨
    normalizeSMTPDeliveryMode submission.deliveryMode = lit "direct"

@[mk_iff] structure SubmissionPasses (submission : SmtpSubmissionSection) : Prop where
  hostname : Present submission.hostname
  listen : Present submission.listenAddr ∨ Present submission.tlsListenAddr
  maxMessageBytes : 0 < submission.maxMessageBytes
  maxRecipients : 0 < submission.maxRecipients
  delivery : DeliveryPasses submission
  publicPort : 0 ≤ submission.publicPort
  securityMode : knownSecurityMode submission.publicSecurityMode = true
  tls : submission.allowInsecureAuth = false →
    Present submission.tlsCertPath ∧ Present submission.tlsKeyPath

@[mk_iff] structure ForwardingPasses (forwarding : SmtpForwardingSection) : Prop where
  hostname : Present forwarding.hostname
  listenAddr : Present forwarding.listenAddr
  maxMessageBytes : 0 < forwarding.maxMessageBytes
  maxRecipients : 0 < forwarding.maxRecipients
  relay : RelayPasses forwarding.relay

@[mk_iff] structure TenantPasses (webEnabled : Bool) (tenant : BootstrapTenant) : Prop where
  displayName : Present tenant.displayName
  domains : ∃ domain ∈ tenant.domains, Present domain
  admins : webEnabled = true → ∃ admin ∈ tenant.admins, Present admin

/-- What the doctor asks of a file with inline tenants. -/
@[mk_iff] structure FilePasses (config : FileConfig) : Prop where
  server : ServerPasses config.server config.web.isEnabled
  web : config.web.isEnabled = true → Present config.web.listenAddr
  smtpSubmission : config.smtpSubmission.enabled = true → SubmissionPasses config.smtpSubmission
  smtpForwarding : config.smtpForwarding.enabled = true → ForwardingPasses config.smtpForwarding
  tenants : ∀ tenant ∈ config.tenants.tenants, TenantPasses config.web.isEnabled tenant

/-! ## The doctor -/

@[simp] theorem valid_fail (result : DiagnosticResult) (message : GoString) :
    (result.fail message).valid = false := rfl

@[simp] theorem valid_require (result : DiagnosticResult) (passed : Bool) (message : GoString) :
    (result.require passed message).valid = (result.valid && passed) := by
  unfold DiagnosticResult.require
  cases passed with
  | true => simp
  | false => simp

theorem validateMasterKey_valid (key : GoString) (result : DiagnosticResult) :
    (validateMasterKey key result).valid = (result.valid && present key) := by
  unfold validateMasterKey
  split
  · rename_i h
    simp [h]
  · rename_i h
    rw [Bool.not_eq_false] at h
    split
    · simp [h]
    · simp [h]

theorem validateServerConfig_valid (server : ServerSection) (webEnabled : Bool)
    (result : DiagnosticResult) : (validateServerConfig server webEnabled result).valid = true ↔
      result.valid = true ∧ ServerPasses server webEnabled := by
  rw [serverPasses_iff]
  unfold validateServerConfig validateServerTAuthConfig
  cases webEnabled with
  | false => simp [validateMasterKey_valid, present_iff, and_assoc]
  | true => simp [validateMasterKey_valid, present_iff, and_assoc]

theorem validateRelayConfig_valid (path service : GoString) (relay : RelaySection)
    (result : DiagnosticResult) : (validateRelayConfig path service relay result).valid = true ↔
      result.valid = true ∧ RelayPasses relay := by
  rw [relayPasses_iff]
  simp [validateRelayConfig, present_iff, and_assoc]

theorem validateDelivery_valid (submission : SmtpSubmissionSection) (result : DiagnosticResult) :
    (validateDelivery submission result).valid = true ↔
      result.valid = true ∧ DeliveryPasses submission := by
  have hmodes : lit "upstream" ≠ lit "direct" := by decide
  simp only [validateDelivery, DeliveryPasses]
  split
  · rename_i hmode
    rw [validateRelayConfig_valid, hmode]
    simp [hmodes]
  · rename_i hupstream
    split
    · rename_i hdirect
      simp [hdirect]
    · rename_i hdirect
      simp [hupstream, hdirect]

theorem validateSMTPSubmissionConfig_valid (submission : SmtpSubmissionSection)
    (result : DiagnosticResult) :
    (validateSMTPSubmissionConfig submission result).valid = true ↔
      result.valid = true ∧ (submission.enabled = true → SubmissionPasses submission) := by
  rw [submissionPasses_iff]
  unfold validateSMTPSubmissionConfig
  cases submission.enabled with
  | false => simp
  | true =>
    cases submission.allowInsecureAuth with
    | false => simp [validateDelivery_valid, present_iff, and_assoc]
    | true => simp [validateDelivery_valid, present_iff, and_assoc]

theorem validateSMTPForwardingConfig_valid (forwarding : SmtpForwardingSection)
    (result : DiagnosticResult) :
    (validateSMTPForwardingConfig forwarding result).valid = true ↔
      result.valid = true ∧ (forwarding.enabled = true → ForwardingPasses forwarding) := by
  rw [forwardingPasses_iff]
  unfold validateSMTPForwardingConfig
  cases forwarding.enabled with
  | false => simp
  | true => simp [validateRelayConfig_valid, present_iff, and_assoc]

theorem any_present_iff {values : List GoString} :
    values.any present = true ↔ ∃ value ∈ values, Present value := by
  rw [List.any_eq_true]
  exact exists_congr fun value => and_congr_right fun _ => present_iff

theorem validateTenantConfig_valid (webEnabled : Bool) (result : DiagnosticResult)
    (tenant : BootstrapTenant) : (validateTenantConfig webEnabled result tenant).valid = true ↔
      result.valid = true ∧ TenantPasses webEnabled tenant := by
  rw [tenantPasses_iff, ← present_iff, ← any_present_iff, ← any_present_iff]
  unfold validateTenantConfig
  cases webEnabled with
  | false => simp [and_assoc]
  | true => simp [and_assoc]

theorem diagnoseTenant_valid (webEnabled : Bool) (result : DiagnosticResult)
    (tenant : BootstrapTenant) : (diagnoseTenant webEnabled result tenant).valid = true ↔
      result.valid = true ∧ TenantPasses webEnabled tenant := by
  simp only [diagnoseTenant]
  rw [validateTenantConfig_valid]
  split
  · exact Iff.rfl
  · exact Iff.rfl

theorem diagnoseTenants_valid (webEnabled : Bool) (tenants : List BootstrapTenant)
    (result : DiagnosticResult) :
    (tenants.foldl (diagnoseTenant webEnabled) result).valid = true ↔
      result.valid = true ∧ ∀ tenant ∈ tenants, TenantPasses webEnabled tenant := by
  induction tenants generalizing result with
  | nil => simp
  | cons tenant tenants ih =>
    rw [List.foldl_cons, ih, diagnoseTenant_valid, List.forall_mem_cons, and_assoc]

/-- A file with inline tenants is reported valid if every section passes. -/
theorem diagnoseFile_valid {config : FileConfig} (hinline : config.tenants.tenants ≠ [])
    (host : Host) (result : DiagnosticResult) :
    (diagnoseFile host config result).valid = true ↔ result.valid = true ∧ FilePasses config := by
  rw [filePasses_iff]
  simp only [diagnoseFile, tenantsForValidation, if_pos hinline, DiagnosticResult.sorted]
  rw [diagnoseTenants_valid, validateSMTPForwardingConfig_valid,
    validateSMTPSubmissionConfig_valid]
  cases config.web.isEnabled with
  | false => simp [validateServerConfig_valid, and_assoc]
  | true => simp [validateServerConfig_valid, validateWebConfig, present_iff, and_assoc]

/-! ## The loader -/

theorem requireString_eq_nil {value name : GoString} :
    requireString value name = [] ↔ Present value := by
  simp [requireString, Present]

theorem requirePositive_eq_nil {value : Int} {name : GoString} :
    requirePositive value name = [] ↔ 0 < value := by
  simp [requirePositive]

theorem present_trimSpace {value : GoString} : Present (trimSpace value) ↔ Present value := by
  rw [Present, Present, trimSpace_idem]

theorem validateRelay_eq_nil {path : GoString} {relay : RelaySection} :
    validateRelay path relay.trimmed = [] ↔ RelayPasses relay := by
  rw [relayPasses_iff]
  simp [validateRelay, RelaySection.trimmed, requireString_eq_nil, requirePositive_eq_nil,
    present_trimSpace]

/-- The loader normalizes a delivery mode twice and finds the same mode. -/
theorem normalizeSMTPDeliveryMode_again (value mode : GoString) (hascii : isASCII mode = true)
    (hfixed : normalizeSMTPDeliveryMode mode = mode) :
    normalizeSMTPDeliveryMode (normalizeSMTPDeliveryMode value) = mode ↔
      normalizeSMTPDeliveryMode value = mode := by
  constructor
  · intro h
    by_cases hblank : toLower (trimSpace value) = []
    · have hupstream : normalizeSMTPDeliveryMode value = lit "upstream" := if_pos hblank
      rw [hupstream] at h ⊢
      rw [← h]
      decide
    · have hmode : normalizeSMTPDeliveryMode value = toLower (trimSpace value) := if_neg hblank
      have hagain : normalizeSMTPDeliveryMode (toLower (trimSpace value)) =
          toLower (toLower (trimSpace value)) := by
        simp only [normalizeSMTPDeliveryMode, trimSpace_toLower_trimSpace,
          if_neg (toLower_ne_nil hblank)]
      rw [hmode, hagain] at h
      rw [hmode, ← toLower_toLower_of_ascii (h ▸ hascii), h]
  · intro h
    rw [h, hfixed]

theorem delivery_eq_nil {submission : SmtpSubmissionSection} :
    (if normalizeSMTPDeliveryMode submission.configuration.deliveryMode = lit "upstream" then
      validateRelay "smtpSubmission" submission.configuration.relay
    else if normalizeSMTPDeliveryMode submission.configuration.deliveryMode = lit "direct" then []
    else [lit "smtpSubmission.deliveryMode must be upstream or direct"]) = [] ↔
      DeliveryPasses submission := by
  have hmode : submission.configuration.deliveryMode =
      normalizeSMTPDeliveryMode submission.deliveryMode := by
    rw [SmtpSubmissionSection.configuration]
  have hupstream := normalizeSMTPDeliveryMode_again submission.deliveryMode "upstream"
    (by decide) (by decide)
  have hdirect := normalizeSMTPDeliveryMode_again submission.deliveryMode "direct"
    (by decide) (by decide)
  have hmodes : lit "upstream" ≠ lit "direct" := by decide
  rw [DeliveryPasses, hmode]
  split
  · rename_i h
    rw [hupstream] at h
    rw [h]
    exact validateRelay_eq_nil.trans (by simp [hmodes])
  · rename_i h
    rw [hupstream] at h
    split
    · rename_i h'
      exact ⟨fun _ => .inr (hdirect.mp h'), fun _ => rfl⟩
    · rename_i h'
      rw [hdirect] at h'
      simp [h, h']

theorem securityMode_eq_nil {mode : GoString} :
    (if toLower (trimSpace mode) ≠ [] ∧ toLower (trimSpace mode) ≠ lit "starttls" ∧
        toLower (trimSpace mode) ≠ lit "ssl" then
      [lit "smtpSubmission.publicSecurityMode must be starttls or ssl"] else []) = [] ↔
      knownSecurityMode mode = true := by
  have hblank : toLower (trimSpace mode) = [] ↔ trimSpace mode = [] := by
    constructor
    · intro h
      by_contra hne
      exact toLower_ne_nil hne h
    · intro h
      rw [h]
      rfl
  rw [ite_eq_right_iff, knownSecurityMode]
  simp only [Bool.or_eq_true, decide_eq_true_eq, ← hblank, List.cons_ne_nil, imp_false,
    not_and_or, not_not, ne_eq, or_assoc]

theorem validateSubmission_eq_nil {submission : SmtpSubmissionSection} :
    validateSubmission submission.configuration = [] ↔ SubmissionPasses submission := by
  rw [submissionPasses_iff]
  have hlisten : (if trimSpace (trimSpace submission.listenAddr) = [] ∧
        trimSpace (trimSpace submission.tlsListenAddr) = [] then
      [lit "missing smtpSubmission.listenAddr or smtpSubmission.tlsListenAddr"] else []) = [] ↔
      Present submission.listenAddr ∨ Present submission.tlsListenAddr := by
    rw [trimSpace_idem, trimSpace_idem, ite_eq_right_iff, Present, Present]
    simp only [List.cons_ne_nil, imp_false, not_and_or, ne_eq]
  have hport : (if submission.publicPort < 0 then
      [lit "smtpSubmission.publicPort must be positive"] else []) = [] ↔
      0 ≤ submission.publicPort := by
    simp
  have htls : (if !submission.allowInsecureAuth then
      requireString (trimSpace submission.tlsCertPath) "smtpSubmission.tlsCertPath"
        ++ requireString (trimSpace submission.tlsKeyPath) "smtpSubmission.tlsKeyPath" else []) =
      [] ↔ (submission.allowInsecureAuth = false →
        Present submission.tlsCertPath ∧ Present submission.tlsKeyPath) := by
    cases submission.allowInsecureAuth with
    | true => simp
    | false => simp [requireString_eq_nil, present_trimSpace]
  simp only [validateSubmission, List.append_eq_nil_iff, and_assoc]
  exact and_congr (requireString_eq_nil.trans present_trimSpace) <| and_congr hlisten <|
    and_congr requirePositive_eq_nil <| and_congr requirePositive_eq_nil <|
    and_congr delivery_eq_nil <| and_congr hport <| and_congr securityMode_eq_nil htls

theorem validateForwarding_eq_nil {forwarding : SmtpForwardingSection} :
    validateForwarding forwarding.configuration = [] ↔ ForwardingPasses forwarding := by
  rw [forwardingPasses_iff]
  simp only [validateForwarding, SmtpForwardingSection.configuration, List.append_eq_nil_iff,
    and_assoc, requireString_eq_nil, requirePositive_eq_nil, present_trimSpace,
    validateRelay_eq_nil]

/-- The loader asks a tenant for a name and a domain only. -/
theorem validateTenantSpec_eq_nil {tenant : BootstrapTenant} {position : Nat} :
    validateTenantSpec (tenant, position) = [] ↔
      Present tenant.displayName ∧ ∃ domain ∈ tenant.domains, Present domain := by
  have hcount : countNonEmptyStrings tenant.domains = 0 ↔
      ¬ ∃ domain ∈ tenant.domains, Present domain := by
    rw [countNonEmptyStrings, ← any_present_iff, List.countP_eq_zero, List.any_eq_true]
    simp [present]
  simp only [validateTenantSpec, List.append_eq_nil_iff, requireString_eq_nil, present_trimSpace,
    ite_eq_right_iff, hcount, List.cons_ne_nil, imp_false, not_not]

theorem tenantSpecs_eq_nil {tenants : BootstrapConfig} :
    tenants.zipIdx.flatMap validateTenantSpec = [] ↔ ∀ tenant ∈ tenants,
      Present tenant.displayName ∧ ∃ domain ∈ tenant.domains, Present domain := by
  rw [List.flatMap_eq_nil_iff]
  constructor
  · intro h tenant htenant
    obtain ⟨position, hposition⟩ := List.getElem?_of_mem htenant
    exact validateTenantSpec_eq_nil.mp (h _ (List.mk_mem_zipIdx_iff_getElem?.mpr hposition))
  · intro h entry hentry
    exact validateTenantSpec_eq_nil.mpr (h entry.1 (List.fst_mem_of_mem_zipIdx hentry))

theorem webErrors_eq_nil {enabled : Bool} {listenAddr signingKey : GoString} :
    (if enabled then
      requireString (trimSpace listenAddr) "web.listenAddr"
        ++ requireString (if enabled then trimSpace signingKey else []) "server.tauth.signingKey"
    else []) = [] ↔
      (enabled = true → Present listenAddr) ∧ (enabled = true → Present signingKey) := by
  cases enabled with
  | false => simp
  | true => simp [requireString_eq_nil, present_trimSpace]

/-- What the loader asks of a file with inline tenants. -/
theorem configErrors_eq_nil {config : FileConfig} (hinline : config.tenants.tenants ≠ []) :
    configErrors config.configuration = [] ↔
      ServerPasses config.server config.web.isEnabled ∧
        (config.web.isEnabled = true → Present config.web.listenAddr) ∧
        (config.smtpSubmission.enabled = true → SubmissionPasses config.smtpSubmission) ∧
        (config.smtpForwarding.enabled = true → ForwardingPasses config.smtpForwarding) ∧
        ∀ tenant ∈ config.tenants.tenants,
          Present tenant.displayName ∧ ∃ domain ∈ tenant.domains, Present domain := by
  have hsubmission : (if config.smtpSubmission.enabled then
      validateSubmission config.smtpSubmission.configuration else []) = [] ↔
      (config.smtpSubmission.enabled = true → SubmissionPasses config.smtpSubmission) := by
    rw [ite_eq_right_iff, validateSubmission_eq_nil]
  have hforwarding : (if config.smtpForwarding.enabled then
      validateForwarding config.smtpForwarding.configuration else []) = [] ↔
      (config.smtpForwarding.enabled = true → ForwardingPasses config.smtpForwarding) := by
    rw [ite_eq_right_iff, validateForwarding_eq_nil]
  have htext : ∀ {value name : GoString},
      requireString (trimSpace value) name = [] ↔ Present value :=
    requireString_eq_nil.trans present_trimSpace
  simp only [configErrors, List.append_eq_nil_iff, and_assoc, FileConfig.configuration, htext,
    requirePositive_eq_nil]
  constructor
  · rintro ⟨hdatabase, htoken, hlevel, hretries, hinterval, hkey, -, hconnection, hoperation, hweb,
      hsub, hforward, htenants⟩
    obtain ⟨hlisten, hsigning⟩ := webErrors_eq_nil.mp hweb
    exact ⟨⟨hdatabase, htoken, hlevel, hretries, hinterval, hkey, hconnection, hoperation,
      hsigning⟩, hlisten, hsubmission.mp hsub, hforwarding.mp hforward,
      tenantSpecs_eq_nil.mp htenants⟩
  · rintro ⟨h, hlisten, hsub, hforward, htenants⟩
    exact ⟨h.databasePath, h.grpcAuthToken, h.logLevel, h.maxRetries, h.retryIntervalSec,
      h.masterEncryptionKey, if_neg hinline, h.connectionTimeout, h.operationTimeout,
      webErrors_eq_nil.mpr ⟨hlisten, h.signingKey⟩, hsubmission.mpr hsub,
      hforwarding.mpr hforward, tenantSpecs_eq_nil.mpr htenants⟩

/-- The condition that only the doctor has. -/
def AdminsPass (config : FileConfig) : Prop :=
  config.web.isEnabled = true →
    ∀ tenant ∈ config.tenants.tenants, ∃ admin ∈ tenant.admins, trimSpace admin ≠ []

/-- The loader finds no error in a file that passes, and a file whose tenants
have admins passes if the loader finds none. -/
theorem filePasses_iff_no_errors {config : FileConfig} (hinline : config.tenants.tenants ≠ []) :
    FilePasses config ↔ configErrors config.configuration = [] ∧ AdminsPass config := by
  rw [configErrors_eq_nil hinline]
  constructor
  · intro h
    exact ⟨⟨h.server, h.web, h.smtpSubmission, h.smtpForwarding, fun tenant htenant =>
        ⟨(h.tenants tenant htenant).displayName, (h.tenants tenant htenant).domains⟩⟩,
      fun henabled tenant htenant => (h.tenants tenant htenant).admins henabled⟩
  · rintro ⟨⟨hserver, hweb, hsubmission, hforwarding, htenants⟩, hadmins⟩
    exact ⟨hserver, hweb, hsubmission, hforwarding, fun tenant htenant =>
      ⟨(htenants tenant htenant).1, (htenants tenant htenant).2,
        fun henabled => hadmins henabled tenant htenant⟩⟩

theorem validateConfig_ok {cfg : Config} :
    Startup.validateConfig cfg = .ok () ↔ configErrors cfg = [] := by
  rw [Startup.validateConfig]
  split
  · rename_i h
    simp [h]
  · rename_i h
    simpa using h

/-! ## Agreement -/

/-- The configuration that the doctor decodes. -/
def DecodesTo (host : Host) (expandEnv : Bool) (configPath : GoString) (config : FileConfig) :
    Prop :=
  ∃ rawContents contents, host.readFile configPath = .ok rawContents ∧
    (if expandEnv then expandConfigEnvironment host rawContents else .ok rawContents) =
      .ok contents ∧ decodeFile host contents = .ok config

theorem DecodesTo.validateConfig {host : Host} {expandEnv : Bool} {configPath : GoString}
    {config : FileConfig} (h : DecodesTo host expandEnv configPath config) :
    validateConfig host expandEnv configPath =
      diagnoseFile host config ⟨configPath, true, [], [], []⟩ := by
  obtain ⟨rawContents, contents, hread, hexpand, hdecode⟩ := h
  simp only [Doctor.validateConfig, hread, hexpand, hdecode]

/-- **The two validators agree.** The checks of the doctor leave a file with
inline tenants valid exactly if the loader's validator accepts the
configuration made of it and, with the web interface, every tenant has an
admin that is not blank; and so does the diagnostic of a path that holds it. -/
theorem validators_agree (host : Host) (expandEnv : Bool) (configPath : GoString)
    (config : FileConfig) (hinline : config.tenants.tenants ≠ []) :
    ((diagnoseFile host config ⟨configPath, true, [], [], []⟩).valid = true ↔
        Startup.validateConfig config.configuration = .ok () ∧ AdminsPass config) ∧
      (DecodesTo host expandEnv configPath config →
        ((validateConfig host expandEnv configPath).valid = true ↔
          Startup.validateConfig config.configuration = .ok () ∧ AdminsPass config)) := by
  have hchecks : (diagnoseFile host config ⟨configPath, true, [], [], []⟩).valid = true ↔
      Startup.validateConfig config.configuration = .ok () ∧ AdminsPass config := by
    rw [diagnoseFile_valid hinline, filePasses_iff_no_errors hinline, validateConfig_ok]
    exact and_iff_right rfl
  refine ⟨hchecks, fun hdecoded => ?_⟩
  rw [hdecoded.validateConfig]
  exact hchecks

/-- A file with capitals and blanks, the web interface and direct delivery. -/
def directConfig : FileConfig where
  server := ⟨lit "p.db", lit "t", lit "INFO", 1, 1, lit "key", 1, 1, ⟨lit " key", []⟩⟩
  web := ⟨none, lit ":80 ", [], []⟩
  smtpSubmission := ⟨true, lit "mx.a.io", [], lit ":465", lit "c", lit "k", 0, lit "SSL ",
    lit " Direct", 1, 1, false, ⟨[], 0, [], []⟩⟩
  smtpForwarding := ⟨false, [], [], 0, 0, ⟨[], 0, [], []⟩⟩
  tenants := ⟨[], [{ emptyTenant with
    displayName := lit "A", domains := [lit "a.io"], admins := [[], lit "root@a.io"] }]⟩

theorem validators_agree_direct :
    directConfig.tenants.tenants ≠ [] ∧
      (diagnoseFile ⟨fun _ => .error [], fun _ => none, fun _ => .error [], fun _ => .error []⟩
        directConfig ⟨[], true, [], [], []⟩).valid = true := by
  have hinline : directConfig.tenants.tenants ≠ [] := by decide
  have hadmins : AdminsPass directConfig := by
    intro _ tenant htenant
    rw [List.mem_singleton.mp htenant]
    exact ⟨lit "root@a.io", by decide, by decide⟩
  exact ⟨hinline, (validators_agree _ true [] directConfig hinline).1.mpr ⟨rfl, hadmins⟩⟩

end Pinguin.Doctor
