/-
Pinguin.Startup.Doctor — package `doctor`: configuration files are checked
without starting the server.

`run` makes one diagnostic for each path. A check that fails adds its error
and makes the diagnostic invalid; a warning does not. The server's own start
is `loadConfigFromPath`, `newSecretKeeper` and `Bootstrap`, in that order.
-/
import Pinguin.Startup.Load

namespace Pinguin.Doctor

open Pinguin.Go Pinguin.Tenancy Pinguin.Startup

/-! ## Diagnostics -/

/-- `DiagnosticResult`. -/
structure DiagnosticResult where
  configPath : GoString
  valid : Bool
  errors : List GoString
  warnings : List GoString
  tenantIDs : List GoString
deriving DecidableEq, Repr

/-- An error is added. -/
def DiagnosticResult.fail (result : DiagnosticResult) (message : GoString) : DiagnosticResult :=
  { result with valid := false, errors := result.errors ++ [message] }

/-- A check that fails adds its error. -/
def DiagnosticResult.require (result : DiagnosticResult) (passed : Bool) (message : GoString) :
    DiagnosticResult :=
  if passed then result else result.fail message

/-- The condition of a required text: something is left when it is trimmed. -/
def present (value : GoString) : Bool := trimSpace value ≠ []

/-- `validateServerTAuthConfig`. -/
def validateServerTAuthConfig (tauth : TauthSection) (result : DiagnosticResult) :
    DiagnosticResult :=
  result.require (present tauth.signingKey)
    "server.tauth.signingKey is required when web is enabled"

/-- The check of the master key: a short one is a warning only. -/
def validateMasterKey (masterEncryptionKey : GoString) (result : DiagnosticResult) :
    DiagnosticResult :=
  if present masterEncryptionKey = false then
    result.fail "server.masterEncryptionKey is required"
  else if masterEncryptionKey.length < 32 then
    { result with warnings := result.warnings ++
        [lit "server.masterEncryptionKey should be at least 32 characters"] }
  else result

/-- `validateServerConfig`. -/
def validateServerConfig (server : ServerSection) (webEnabled : Bool) (result : DiagnosticResult) :
    DiagnosticResult :=
  let result := result.require (present server.databasePath) "server.databasePath is required"
  let result := result.require (present server.grpcAuthToken) "server.grpcAuthToken is required"
  let result := result.require (present server.logLevel) "server.logLevel is required"
  let result := result.require (0 < server.maxRetries) "server.maxRetries must be positive"
  let result := result.require (0 < server.retryIntervalSec)
    "server.retryIntervalSec must be positive"
  let result := validateMasterKey server.masterEncryptionKey result
  let result := result.require (0 < server.connectionTimeout)
    "server.connectionTimeoutSec must be positive"
  let result := result.require (0 < server.operationTimeout)
    "server.operationTimeoutSec must be positive"
  if webEnabled then validateServerTAuthConfig server.tauth result else result

/-- `validateWebConfig`. -/
def validateWebConfig (web : WebSection) (result : DiagnosticResult) : DiagnosticResult :=
  result.require (present web.listenAddr) "web.listenAddr is required when web is enabled"

/-- The checks of a relay under a section; `service` names it in the texts. -/
def validateRelayConfig (path service : GoString) (relay : RelaySection)
    (result : DiagnosticResult) : DiagnosticResult :=
  let required := lit " is required when " ++ service ++ lit " is enabled"
  let result := result.require (present relay.host) (path ++ lit ".relay.host" ++ required)
  let result := result.require (0 < relay.port) (path ++ lit ".relay.port must be positive")
  let result := result.require (present relay.username) (path ++ lit ".relay.username" ++ required)
  result.require (present relay.password) (path ++ lit ".relay.password" ++ required)

/-- The check of the delivery mode, with the relay that `upstream` needs. -/
def validateDelivery (submission : SmtpSubmissionSection) (result : DiagnosticResult) :
    DiagnosticResult :=
  let deliveryMode := normalizeSMTPDeliveryMode submission.deliveryMode
  if deliveryMode = lit "upstream" then
    validateRelayConfig "smtpSubmission" "SMTP submission" submission.relay result
  else if deliveryMode = lit "direct" then result
  else result.fail "smtpSubmission.deliveryMode must be upstream or direct"

/-- A security mode that is blank or known. -/
def knownSecurityMode (publicSecurityMode : GoString) : Bool :=
  trimSpace publicSecurityMode = [] || toLower (trimSpace publicSecurityMode) = lit "starttls" ||
    toLower (trimSpace publicSecurityMode) = lit "ssl"

/-- `validateSMTPSubmissionConfig`. -/
def validateSMTPSubmissionConfig (submission : SmtpSubmissionSection) (result : DiagnosticResult) :
    DiagnosticResult :=
  if submission.enabled = false then result
  else
    let result := result.require (present submission.hostname)
      "smtpSubmission.hostname is required when SMTP submission is enabled"
    let result := result.require (present submission.listenAddr || present submission.tlsListenAddr)
      (lit ("smtpSubmission.listenAddr or smtpSubmission.tlsListenAddr is required " ++
        "when SMTP submission is enabled"))
    let result := result.require (0 < submission.maxMessageBytes)
      "smtpSubmission.maxMessageBytes must be positive"
    let result := result.require (0 < submission.maxRecipients)
      "smtpSubmission.maxRecipients must be positive"
    let result := validateDelivery submission result
    let result := result.require (0 ≤ submission.publicPort)
      "smtpSubmission.publicPort must be positive"
    let result := result.require (knownSecurityMode submission.publicSecurityMode)
      "smtpSubmission.publicSecurityMode must be starttls or ssl"
    if submission.allowInsecureAuth then result
    else
      let result := result.require (present submission.tlsCertPath)
        "smtpSubmission.tlsCertPath is required when SMTP submission is enabled"
      result.require (present submission.tlsKeyPath)
        "smtpSubmission.tlsKeyPath is required when SMTP submission is enabled"

/-- `validateSMTPForwardingConfig`. -/
def validateSMTPForwardingConfig (forwarding : SmtpForwardingSection) (result : DiagnosticResult) :
    DiagnosticResult :=
  if forwarding.enabled = false then result
  else
    let result := result.require (present forwarding.hostname)
      "smtpForwarding.hostname is required when SMTP forwarding is enabled"
    let result := result.require (present forwarding.listenAddr)
      "smtpForwarding.listenAddr is required when SMTP forwarding is enabled"
    let result := result.require (0 < forwarding.maxMessageBytes)
      "smtpForwarding.maxMessageBytes must be positive"
    let result := result.require (0 < forwarding.maxRecipients)
      "smtpForwarding.maxRecipients must be positive"
    validateRelayConfig "smtpForwarding" "SMTP forwarding" forwarding.relay result

/-- `tenantsForValidation`: the tenants of the file, or those of the file it
names. -/
def tenantsForValidation (host : Host) (config : TenantConfig) (result : DiagnosticResult) :
    BootstrapConfig × DiagnosticResult :=
  if config.tenants ≠ [] then (config.tenants, result)
  else
    let tenantConfigPath := trimSpace config.configPath
    if tenantConfigPath = [] then
      ([], result.fail "tenants.configPath is required when no inline tenants are configured")
    else match host.readFile tenantConfigPath with
      | .error e =>
        ([], result.fail (lit "tenants.configPath read " ++ tenantConfigPath ++ lit ": " ++ e))
      | .ok rawContents =>
        match host.parseTenantsYAML rawContents >>= unmarshalBootstrapConfig with
        | .error e => ([], result.fail (lit "tenants.configPath parse_yaml: " ++ e))
        | .ok [] => ([], result.fail (lit "tenants.configPath " ++ tenantConfigPath ++
            lit " has no tenants configured"))
        | .ok tenants => (tenants, result)

/-- `validateTenantConfig`. -/
def validateTenantConfig (webEnabled : Bool) (result : DiagnosticResult)
    (tenant : BootstrapTenant) : DiagnosticResult :=
  let tenantID := trimSpace tenant.id
  let tenantLabel := lit "tenant[" ++ (if tenantID = [] then lit "(unknown)" else tenantID) ++ lit "]"
  let result := result.require (present tenant.displayName)
    (tenantLabel ++ lit ": displayName is required")
  let result := result.require (tenant.domains.any present)
    (tenantLabel ++ lit ": at least one domain is required")
  if webEnabled then
    result.require (tenant.admins.any present)
      (tenantLabel ++ lit ": at least one admin is required when web is enabled")
  else result

/-- One turn of the loop over the tenants. -/
def diagnoseTenant (webEnabled : Bool) (result : DiagnosticResult) (tenant : BootstrapTenant) :
    DiagnosticResult :=
  let tenantID := trimSpace tenant.id
  let result := if tenantID ≠ [] then
    { result with tenantIDs := result.tenantIDs ++ [tenantID] } else result
  validateTenantConfig webEnabled result tenant

/-- The sorted lists of a diagnostic. -/
def DiagnosticResult.sorted (result : DiagnosticResult) : DiagnosticResult :=
  { result with
    errors := result.errors.insertionSort (· ≤ ·)
    warnings := result.warnings.insertionSort (· ≤ ·)
    tenantIDs := result.tenantIDs.insertionSort (· ≤ ·) }

/-- The checks of a decoded file. -/
def diagnoseFile (host : Host) (config : FileConfig) (result : DiagnosticResult) :
    DiagnosticResult :=
  let webEnabled := config.web.isEnabled
  let result := validateServerConfig config.server webEnabled result
  let result := if webEnabled then validateWebConfig config.web result else result
  let result := validateSMTPSubmissionConfig config.smtpSubmission result
  let result := validateSMTPForwardingConfig config.smtpForwarding result
  let (tenants, result) := tenantsForValidation host config.tenants result
  (tenants.foldl (diagnoseTenant webEnabled) result).sorted

/-- `doctor.validateConfig`. -/
def validateConfig (host : Host) (expandEnv : Bool) (configPath : GoString) : DiagnosticResult :=
  let result : DiagnosticResult := ⟨configPath, true, [], [], []⟩
  match host.readFile configPath with
  | .error e => result.fail (lit "read_config: " ++ e)
  | .ok rawContents =>
    match (if expandEnv then expandConfigEnvironment host rawContents else .ok rawContents) with
    | .error e => result.fail (lit "expand_env: " ++ e)
    | .ok contents =>
      match decodeFile host contents with
      | .error e => result.fail (lit "parse_yaml: " ++ e)
      | .ok config => diagnoseFile host config result

/-! ## Reports -/

/-- `reportSummary`. -/
structure ReportSummary where
  totalConfigs : Nat
  validConfigs : Nat
  invalidConfigs : Nat
  totalErrors : Nat
  totalWarnings : Nat
deriving DecidableEq, Repr

/-- `buildSummary`. -/
def buildSummary (diagnostics : List DiagnosticResult) : ReportSummary where
  totalConfigs := diagnostics.length
  validConfigs := diagnostics.countP (·.valid)
  invalidConfigs := diagnostics.countP (!·.valid)
  totalErrors := (diagnostics.map (·.errors.length)).sum
  totalWarnings := (diagnostics.map (·.warnings.length)).sum

/-- `Report`, the diagnostics and their summary. -/
structure Report where
  summary : ReportSummary
  diagnostics : List DiagnosticResult
deriving DecidableEq, Repr

/-- `Options`. -/
structure Options where
  configPaths : List GoString
  expandEnv : Bool

/-- `Run`. -/
def run (host : Host) (options : Options) : Except GoString Report :=
  if options.configPaths = [] then .error "doctor.invalid: no config paths provided"
  else
    let diagnostics := options.configPaths.map (validateConfig host options.expandEnv)
    .ok ⟨buildSummary diagnostics, diagnostics⟩

/-! ## Across files -/

/-- `pinguinYAMLNode.AllTenants`. -/
def allTenants (config : TenantConfig) : BootstrapConfig := config.tenants

/-- `tenantLocation`. -/
structure TenantLocation where
  configPath : GoString
  tenantID : GoString
deriving DecidableEq, Repr

/-- The map of `validateCrossConfigs`, an entry a domain, and the errors so
far. -/
structure CrossState where
  domainsByTenant : List (GoString × TenantLocation)
  errors : List GoString
deriving DecidableEq, Repr

/-- The text of a conflict; `quote` is how `%q` writes a string. -/
def conflictText (quote : GoString → GoString) (domain : GoString)
    (location existing : TenantLocation) : GoString :=
  lit "domain " ++ quote domain ++ lit " claimed by tenant[" ++ location.tenantID ++ lit "] in " ++
    location.configPath ++ lit " conflicts with tenant[" ++ existing.tenantID ++ lit "] in " ++
    existing.configPath

/-- One domain of a tenant. -/
def checkDomain (quote : GoString → GoString) (location : TenantLocation) (state : CrossState)
    (domain : GoString) : CrossState :=
  let normalizedDomain := toLower (trimSpace domain)
  if normalizedDomain = [] then state
  else match state.domainsByTenant.find? (·.1 = normalizedDomain) with
    | some (_, existing) =>
      if existing.configPath ≠ location.configPath ∨ existing.tenantID ≠ location.tenantID then
        { state with errors := state.errors ++ [conflictText quote domain location existing] }
      else state
    | none =>
      { state with domainsByTenant := state.domainsByTenant ++ [(normalizedDomain, location)] }

def checkTenant (quote : GoString → GoString) (configPath : GoString) (state : CrossState)
    (tenant : BootstrapTenant) : CrossState :=
  tenant.domains.foldl (checkDomain quote ⟨configPath, trimSpace tenant.id⟩) state

def checkConfig (quote : GoString → GoString) (state : CrossState)
    (file : GoString × FileConfig) : CrossState :=
  (allTenants file.2.tenants).foldl (checkTenant quote file.1) state

/-- The errors of `validateCrossConfigs`, in the order in which the map of
the files is gone through. It adds no warnings. -/
def validateCrossConfigs (quote : GoString → GoString)
    (configsByPath : List (GoString × FileConfig)) : List GoString :=
  (configsByPath.foldl (checkConfig quote) ⟨[], []⟩).errors.insertionSort (· ≤ ·)

/-- The configuration that `doctor.validateConfig` returns beside its
diagnostic. -/
def decodedConfig (host : Host) (expandEnv : Bool) (configPath : GoString) : Option FileConfig :=
  match host.readFile configPath with
  | .error _ => none
  | .ok rawContents =>
    match (if expandEnv then expandConfigEnvironment host rawContents else .ok rawContents) with
    | .error _ => none
    | .ok contents => (decodeFile host contents).toOption

/-- A valid file enters the map of `Run` under its path. -/
def recordConfig (host : Host) (expandEnv : Bool) (configsByPath : List (GoString × FileConfig))
    (configPath : GoString) : List (GoString × FileConfig) :=
  match (validateConfig host expandEnv configPath).valid, decodedConfig host expandEnv configPath with
  | true, some config => configsByPath.filter (·.1 ≠ configPath) ++ [(configPath, config)]
  | _, _ => configsByPath

/-- `allConfigsByPath` of `Run`. -/
def allConfigsByPath (host : Host) (expandEnv : Bool) (configPaths : List GoString) :
    List (GoString × FileConfig) :=
  configPaths.foldl (recordConfig host expandEnv) []

/-- The errors of the cross validation in a report of `Run`, if there is one;
`order` is the order in which the map is gone through. -/
def crossErrors (host : Host) (quote : GoString → GoString) (options : Options)
    (validateCross : Bool)
    (order : List (GoString × FileConfig) → List (GoString × FileConfig)) :
    Option (List GoString) :=
  let configs := allConfigsByPath host options.expandEnv options.configPaths
  if validateCross && 1 < configs.length then some (validateCrossConfigs quote (order configs))
  else none

end Pinguin.Doctor
