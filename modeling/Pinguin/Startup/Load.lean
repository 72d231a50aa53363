/-
Pinguin.Startup.Load — package `config`: the server's configuration.

`loadConfigFromPath` trims the values of the file and checks them; the
errors are collected, so that a bad file is refused with all of them.
-/
import Pinguin.Startup.File

namespace Pinguin.Startup

open Pinguin.Go Pinguin.Tenancy

/-! ## The configuration -/

/-- `SMTPSubmissionConfig`. -/
structure SMTPSubmissionConfig where
  enabled : Bool
  hostname : GoString
  listenAddr : GoString
  tlsListenAddr : GoString
  tlsCertPath : GoString
  tlsKeyPath : GoString
  publicPort : Int
  publicSecurityMode : GoString
  deliveryMode : GoString
  maxMessageBytes : Int
  maxRecipients : Int
  allowInsecureAuth : Bool
  relay : RelaySection
deriving DecidableEq, Repr

/-- `SMTPForwardingConfig`. -/
structure SMTPForwardingConfig where
  enabled : Bool
  hostname : GoString
  listenAddr : GoString
  maxMessageBytes : Int
  maxRecipients : Int
  relay : RelaySection
deriving DecidableEq, Repr

/-- `Config`, the fields that a file sets. -/
structure Config where
  databasePath : GoString
  grpcAuthToken : GoString
  logLevel : GoString
  maxRetries : Int
  retryIntervalSec : Int
  masterEncryptionKey : GoString
  tenantConfigPath : GoString
  tenantBootstrap : BootstrapConfig
  webInterfaceEnabled : Bool
  httpListenAddr : GoString
  httpAllowedOrigins : List GoString
  httpTrustedProxies : List GoString
  smtpSubmission : SMTPSubmissionConfig
  smtpForwarding : SMTPForwardingConfig
  tauthSigningKey : GoString
  tauthCookieName : GoString
  connectionTimeoutSec : Int
  operationTimeoutSec : Int
deriving DecidableEq, Repr

/-- `normalizeStrings`. -/
def normalizeStrings (values : List GoString) : List GoString :=
  (values.map trimSpace).filter (· ≠ [])

/-- `normalizeSMTPDeliveryMode`, in both packages. -/
def normalizeSMTPDeliveryMode (value : GoString) : GoString :=
  let normalized := toLower (trimSpace value)
  if normalized = [] then lit "upstream" else normalized

/-- A relay with its texts trimmed. -/
def RelaySection.trimmed (relay : RelaySection) : RelaySection :=
  ⟨trimSpace relay.host, relay.port, trimSpace relay.username, trimSpace relay.password⟩

/-- The `SMTPSubmissionConfig` of a file. -/
def SmtpSubmissionSection.configuration (submission : SmtpSubmissionSection) :
    SMTPSubmissionConfig where
  enabled := submission.enabled
  hostname := trimSpace submission.hostname
  listenAddr := trimSpace submission.listenAddr
  tlsListenAddr := trimSpace submission.tlsListenAddr
  tlsCertPath := trimSpace submission.tlsCertPath
  tlsKeyPath := trimSpace submission.tlsKeyPath
  publicPort := submission.publicPort
  publicSecurityMode := toLower (trimSpace submission.publicSecurityMode)
  deliveryMode := normalizeSMTPDeliveryMode submission.deliveryMode
  maxMessageBytes := submission.maxMessageBytes
  maxRecipients := submission.maxRecipients
  allowInsecureAuth := submission.allowInsecureAuth
  relay := submission.relay.trimmed

/-- The `SMTPForwardingConfig` of a file. -/
def SmtpForwardingSection.configuration (forwarding : SmtpForwardingSection) :
    SMTPForwardingConfig where
  enabled := forwarding.enabled
  hostname := trimSpace forwarding.hostname
  listenAddr := trimSpace forwarding.listenAddr
  maxMessageBytes := forwarding.maxMessageBytes
  maxRecipients := forwarding.maxRecipients
  relay := forwarding.relay.trimmed

/-- The cookie name of a web interface that names none. -/
def defaultCookieName : GoString := lit "app_session"

/-- The configuration a file stands for, before it is checked. Without the web
interface its settings are cleared. -/
def FileConfig.configuration (file : FileConfig) : Config where
  databasePath := trimSpace file.server.databasePath
  grpcAuthToken := trimSpace file.server.grpcAuthToken
  logLevel := trimSpace file.server.logLevel
  maxRetries := file.server.maxRetries
  retryIntervalSec := file.server.retryIntervalSec
  masterEncryptionKey := trimSpace file.server.masterEncryptionKey
  tenantConfigPath := trimSpace file.tenants.configPath
  tenantBootstrap := file.tenants.tenants
  webInterfaceEnabled := file.web.isEnabled
  httpListenAddr := trimSpace file.web.listenAddr
  httpAllowedOrigins := if file.web.isEnabled then normalizeStrings file.web.allowedOrigins else []
  httpTrustedProxies := if file.web.isEnabled then normalizeStrings file.web.trustedProxies else []
  smtpSubmission := file.smtpSubmission.configuration
  smtpForwarding := file.smtpForwarding.configuration
  tauthSigningKey := if file.web.isEnabled then trimSpace file.server.tauth.signingKey else []
  tauthCookieName :=
    if file.web.isEnabled then
      if trimSpace file.server.tauth.cookieName = [] then defaultCookieName
      else trimSpace file.server.tauth.cookieName
    else []
  connectionTimeoutSec := file.server.connectionTimeout
  operationTimeoutSec := file.server.operationTimeout

/-! ## Checks

Each check answers the errors it appends. -/

/-- `requireString`. -/
def requireString (value name : GoString) : List GoString :=
  if trimSpace value = [] then [lit "missing " ++ name] else []

/-- `requirePositive` and `requirePositiveInt64`. -/
def requirePositive (value : Int) (name : GoString) : List GoString :=
  if value ≤ 0 then [lit "missing " ++ name] else []

/-- `countNonEmptyStrings`. -/
def countNonEmptyStrings (values : List GoString) : Nat :=
  values.countP (trimSpace · ≠ [])

/-- The checks of a relay under a section. -/
def validateRelay (path : GoString) (relay : RelaySection) : List GoString :=
  requireString relay.host (path ++ lit ".relay.host")
    ++ requirePositive relay.port (path ++ lit ".relay.port")
    ++ requireString relay.username (path ++ lit ".relay.username")
    ++ requireString relay.password (path ++ lit ".relay.password")

/-- The checks of SMTP submission that is enabled. -/
def validateSubmission (submission : SMTPSubmissionConfig) : List GoString :=
  let deliveryMode := normalizeSMTPDeliveryMode submission.deliveryMode
  requireString submission.hostname "smtpSubmission.hostname"
    ++ (if trimSpace submission.listenAddr = [] ∧ trimSpace submission.tlsListenAddr = [] then
        [lit "missing smtpSubmission.listenAddr or smtpSubmission.tlsListenAddr"] else [])
    ++ requirePositive submission.maxMessageBytes "smtpSubmission.maxMessageBytes"
    ++ requirePositive submission.maxRecipients "smtpSubmission.maxRecipients"
    ++ (if deliveryMode = lit "upstream" then validateRelay "smtpSubmission" submission.relay
      else if deliveryMode = lit "direct" then []
      else [lit "smtpSubmission.deliveryMode must be upstream or direct"])
    ++ (if submission.publicPort < 0 then [lit "smtpSubmission.publicPort must be positive"] else [])
    ++ (if submission.publicSecurityMode ≠ [] ∧ submission.publicSecurityMode ≠ lit "starttls" ∧
          submission.publicSecurityMode ≠ lit "ssl" then
        [lit "smtpSubmission.publicSecurityMode must be starttls or ssl"] else [])
    ++ (if !submission.allowInsecureAuth then
        requireString submission.tlsCertPath "smtpSubmission.tlsCertPath"
          ++ requireString submission.tlsKeyPath "smtpSubmission.tlsKeyPath" else [])

/-- The checks of SMTP forwarding that is enabled. -/
def validateForwarding (forwarding : SMTPForwardingConfig) : List GoString :=
  requireString forwarding.hostname "smtpForwarding.hostname"
    ++ requireString forwarding.listenAddr "smtpForwarding.listenAddr"
    ++ requirePositive forwarding.maxMessageBytes "smtpForwarding.maxMessageBytes"
    ++ requirePositive forwarding.maxRecipients "smtpForwarding.maxRecipients"
    ++ validateRelay "smtpForwarding" forwarding.relay

/-- The checks of one tenant at its position. -/
def validateTenantSpec (entry : BootstrapTenant × Nat) : List GoString :=
  let tenantPath := lit "tenants[" ++ formatInt entry.2 ++ lit "]"
  requireString (trimSpace entry.1.displayName) (tenantPath ++ lit ".displayName")
    ++ (if countNonEmptyStrings entry.1.domains = 0 then
        [lit "missing " ++ tenantPath ++ lit ".domains"] else [])

/-- The errors that `validateConfig` collects. -/
def configErrors (cfg : Config) : List GoString :=
  requireString cfg.databasePath "server.databasePath"
    ++ requireString cfg.grpcAuthToken "server.grpcAuthToken"
    ++ requireString cfg.logLevel "server.logLevel"
    ++ requirePositive cfg.maxRetries "server.maxRetries"
    ++ requirePositive cfg.retryIntervalSec "server.retryIntervalSec"
    ++ requireString cfg.masterEncryptionKey "server.masterEncryptionKey"
    ++ (if cfg.tenantBootstrap = [] then requireString cfg.tenantConfigPath "tenants.configPath"
      else [])
    ++ requirePositive cfg.connectionTimeoutSec "server.connectionTimeoutSec"
    ++ requirePositive cfg.operationTimeoutSec "server.operationTimeoutSec"
    ++ (if cfg.webInterfaceEnabled then
        requireString cfg.httpListenAddr "web.listenAddr"
          ++ requireString cfg.tauthSigningKey "server.tauth.signingKey" else [])
    ++ (if cfg.smtpSubmission.enabled then validateSubmission cfg.smtpSubmission else [])
    ++ (if cfg.smtpForwarding.enabled then validateForwarding cfg.smtpForwarding else [])
    ++ cfg.tenantBootstrap.zipIdx.flatMap validateTenantSpec

/-- `config.validateConfig`. -/
def validateConfig (cfg : Config) : Except GoString Unit :=
  if configErrors cfg ≠ [] then
    .error (lit "configuration errors: " ++ join (configErrors cfg) ", ")
  else .ok ()

/-- `loadConfigFromPath`. -/
def loadConfigFromPath (host : Host) (configPath : GoString) : Except GoString Config :=
  match host.readFile configPath with
  | .error e => .error (lit "configuration: read " ++ configPath ++ lit ": " ++ e)
  | .ok rawContents =>
    match expandConfigEnvironment host rawContents with
    | .error e => .error e
    | .ok expanded =>
      match decodeFile host expanded with
      | .error e => .error (lit "configuration: parse yaml: " ++ e)
      | .ok file =>
        match validateConfig file.configuration with
        | .error e => .error e
        | .ok () => .ok file.configuration

end Pinguin.Startup
