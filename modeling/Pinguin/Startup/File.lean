/-
Pinguin.Startup.File — a configuration file, as the server and the doctor
read it.

Both expand the environment variables of the text and give it to `yaml.v3`
with the same fields known: `pinguinConfig` of package `doctor` and
`fileConfig` of package `config` have the same sections. The library decodes
the sections of plain values; it hands the `tenants` node to the packages'
own `UnmarshalYAML`, which is modelled here with those of package `tenant`.
The files, the environment and the library are the `Host`.
-/
import Pinguin.Go.Expand
import Pinguin.Tenancy.Bootstrap

namespace Pinguin.Startup

open Pinguin.Go Pinguin.Tenancy

/-! ## Sections -/

/-- `tauthSection`. -/
structure TauthSection where
  signingKey : GoString
  cookieName : GoString
deriving DecidableEq, Repr

/-- `serverSection`. -/
structure ServerSection where
  databasePath : GoString
  grpcAuthToken : GoString
  logLevel : GoString
  maxRetries : Int
  retryIntervalSec : Int
  masterEncryptionKey : GoString
  connectionTimeout : Int
  operationTimeout : Int
  tauth : TauthSection
deriving DecidableEq, Repr

/-- `webSection`. -/
structure WebSection where
  enabled : Option Bool
  listenAddr : GoString
  allowedOrigins : List GoString
  trustedProxies : List GoString
deriving DecidableEq, Repr

/-- `smtpSubmissionRelaySection` and `smtpForwardingRelaySection`. -/
structure RelaySection where
  host : GoString
  port : Int
  username : GoString
  password : GoString
deriving DecidableEq, Repr

/-- `smtpSubmissionSection`. -/
structure SmtpSubmissionSection where
  enabled : Bool
  hostname : GoString
  listenAddr : GoString
  tlsListenAddr : GoString
  tlsCertPath : GoString
  tlsKeyPath : GoString
  publicPort : Int
  publicSecurityMode : GoString
  deliveryMode : GoString
  maxMessageBytes : Int
  maxRecipients : Int
  allowInsecureAuth : Bool
  relay : RelaySection
deriving DecidableEq, Repr

/-- `smtpForwardingSection`. -/
structure SmtpForwardingSection where
  enabled : Bool
  hostname : GoString
  listenAddr : GoString
  maxMessageBytes : Int
  maxRecipients : Int
  relay : RelaySection
deriving DecidableEq, Repr

/-- The value of `web.enabled`, which defaults to true. -/
def WebSection.isEnabled (web : WebSection) : Bool := web.enabled.getD true

/-! ## Nodes that the packages decode themselves -/

/-- A profile of a tenant: a mapping with its keys and what the library reads
from it, or another node. -/
inductive ProfileNode (α : Type) where
  | mapping (keys : List GoString) (fields : α)
  | other
deriving DecidableEq, Repr

/-- The fields of `rawBootstrapTenant`; a profile that is absent or null is
`none`. -/
structure TenantFields where
  id : GoString
  displayName : GoString
  supportEmail : GoString
  enabled : Option Bool
  status : GoString
  domains : List GoString
  admins : List GoString
  emailProfile : Option (ProfileNode BootstrapEmailProfile)
  smsProfile : Option (ProfileNode BootstrapSMSProfile)
deriving DecidableEq, Repr

/-- A mapping node of a tenant: its keys, and the fields the library reads. A
field without its key stays empty. -/
structure TenantMapping where
  keys : List GoString
  fields : TenantFields
  statusKeyed : fields.status ≠ [] → lit "status" ∈ keys

/-- An entry of a list of tenants. -/
inductive TenantNode where
  | null
  | mapping (node : TenantMapping)
  | other

/-- The value of `tenants`. -/
inductive TenantsNode where
  | sequence (items : List TenantNode)
  | mapping (keys : List GoString) (configPath : GoString) (items : List TenantNode)
  | other

/-- The top of a file of tenants. -/
inductive BootstrapNode where
  | null
  | mapping (keys : List GoString) (items : List TenantNode)
  | other

/-- What the library makes of a text, unless a value in it has the wrong type;
`tenants` may be absent or null. -/
structure Document where
  server : ServerSection
  web : WebSection
  smtpSubmission : SmtpSubmissionSection
  smtpForwarding : SmtpForwardingSection
  tenants : Option TenantsNode

/-- Files, environment variables and the YAML library, with the texts of
their errors. -/
structure Host where
  readFile : GoString → Except GoString GoString
  lookupEnv : GoString → Option GoString
  parseYAML : GoString → Except GoString Document
  parseTenantsYAML : GoString → Except GoString BootstrapNode

/-! ## `UnmarshalYAML` -/

/-- `firstUnknownYAMLMappingKey`, `firstUnsupportedTenantMappingKey` and
`firstUnsupportedBootstrapYAMLMappingKey`: the first key that is not allowed,
trimmed, or the empty string. -/
def firstUnsupportedMappingKey (keys allowedKeys : List GoString) : GoString :=
  match keys.find? (fun key => !allowedKeys.any (· = trimSpace key)) with
  | some key => trimSpace key
  | none => []

/-- `yamlMappingHasKey`. -/
def yamlMappingHasKey (keys : List GoString) (key : GoString) : Bool :=
  keys.any (trimSpace · = key)

/-- The two profiles' `UnmarshalYAML`: a mapping with allowed keys only;
`path` names the profile in errors. -/
def unmarshalProfile {α : Type} (path : GoString) (allowedKeys : List GoString) :
    ProfileNode α → Except GoString α
  | .other => .error (lit "tenant bootstrap: " ++ path ++ lit " must be a mapping")
  | .mapping keys fields =>
    let unsupportedKey := firstUnsupportedMappingKey keys allowedKeys
    if unsupportedKey ≠ [] then
      .error (lit "tenant bootstrap: " ++ path ++ lit "." ++ unsupportedKey ++
        lit " is not supported")
    else .ok fields

/-- `BootstrapEmailProfile.UnmarshalYAML`. -/
def unmarshalEmailProfile :
    ProfileNode BootstrapEmailProfile → Except GoString BootstrapEmailProfile :=
  unmarshalProfile "tenants[].emailProfile"
    [lit "host", lit "port", lit "username", lit "password", lit "fromAddress"]

/-- `BootstrapSMSProfile.UnmarshalYAML`. -/
def unmarshalSMSProfile : ProfileNode BootstrapSMSProfile → Except GoString BootstrapSMSProfile :=
  unmarshalProfile "tenants[].smsProfile" [lit "accountSid", lit "authToken", lit "fromNumber"]

/-- `BootstrapTenant{}`. -/
def emptyTenant : BootstrapTenant := ⟨[], [], [], none, [], [], [], ⟨[], 0, [], [], []⟩, none⟩

/-- The decoding of `rawBootstrapTenant` with the profiles of its own. -/
def decodeTenantFields (fields : TenantFields) : Except GoString BootstrapTenant :=
  match fields.emailProfile.mapM unmarshalEmailProfile with
  | .error e => .error e
  | .ok emailProfile =>
    match fields.smsProfile.mapM unmarshalSMSProfile with
    | .error e => .error e
    | .ok smsProfile =>
      .ok ⟨fields.id, fields.displayName, fields.supportEmail, fields.enabled, fields.status,
        fields.domains, fields.admins, emailProfile.getD emptyTenant.emailProfile, smsProfile⟩

def tenantKeys : List GoString :=
  [lit "id", lit "displayName", lit "supportEmail", lit "enabled", lit "domains", lit "admins",
    lit "emailProfile", lit "smsProfile"]

/-- `BootstrapTenant.UnmarshalYAML`; the library leaves a null entry empty. -/
def unmarshalTenant : TenantNode → Except GoString BootstrapTenant
  | .null => .ok emptyTenant
  | .other => .error "tenant bootstrap: tenants[] must be a mapping"
  | .mapping node =>
    if yamlMappingHasKey node.keys "status" then
      .error (lit ("tenant bootstrap: tenants[].status is no longer supported; " ++
        "use tenants[].enabled (true|false)"))
    else
      let unsupportedKey := firstUnsupportedMappingKey node.keys tenantKeys
      if unsupportedKey ≠ [] then
        .error (lit "tenant bootstrap: tenants[]." ++ unsupportedKey ++ lit " is not supported")
      else decodeTenantFields node.fields

/-- `tenantConfig`. -/
structure TenantConfig where
  configPath : GoString
  tenants : BootstrapConfig
deriving DecidableEq, Repr

/-- The decoding of a list of tenants: the first error ends it. -/
def decodeTenants (items : List TenantNode) : Except GoString BootstrapConfig :=
  match items.mapM unmarshalTenant with
  | .error e => .error (lit "configuration: parse tenants: " ++ e)
  | .ok tenants => .ok tenants

/-- `tenantConfig.UnmarshalYAML` and `pinguinYAMLNode.UnmarshalYAML`. -/
def unmarshalTenants : Option TenantsNode → Except GoString TenantConfig
  | none => .ok ⟨[], []⟩
  | some (.sequence items) => (decodeTenants items).map (⟨[], ·⟩)
  | some (.mapping keys configPath items) =>
    let unknownKey := firstUnsupportedMappingKey keys [lit "configPath", lit "tenants"]
    if unknownKey ≠ [] then
      .error (lit "configuration: tenants." ++ unknownKey ++ lit " is not supported")
    else (decodeTenants items).map (⟨trimSpace configPath, ·⟩)
  | some .other => .error "configuration: tenants must be a list"

/-- `BootstrapConfig.UnmarshalYAML`. -/
def unmarshalBootstrapConfig : BootstrapNode → Except GoString BootstrapConfig
  | .null => .ok []
  | .other => .error "tenant bootstrap: config must be a mapping"
  | .mapping keys items =>
    let unsupportedKey := firstUnsupportedMappingKey keys [lit "tenants"]
    if unsupportedKey ≠ [] then
      .error (lit "tenant bootstrap: " ++ unsupportedKey ++ lit " is not supported")
    else items.mapM unmarshalTenant

/-- `fileConfig` and `pinguinConfig`. -/
structure FileConfig where
  server : ServerSection
  web : WebSection
  smtpSubmission : SmtpSubmissionSection
  smtpForwarding : SmtpForwardingSection
  tenants : TenantConfig
deriving DecidableEq, Repr

/-- `yaml.Decoder.Decode` with known fields. -/
def decodeFile (host : Host) (contents : GoString) : Except GoString FileConfig :=
  match host.parseYAML contents with
  | .error e => .error e
  | .ok document =>
    match unmarshalTenants document.tenants with
    | .error e => .error e
    | .ok tenants =>
      .ok ⟨document.server, document.web, document.smtpSubmission, document.smtpForwarding, tenants⟩

/-! ## The environment -/

/-- `ExpandConfigEnvironment`: every variable must be set. -/
def expandConfigEnvironment (host : Host) (contents : GoString) : Except GoString GoString :=
  let missing := ((expandNames contents).filter (host.lookupEnv · = none)).dedup
  if missing ≠ [] then
    .error (lit "configuration: missing environment variables: " ++
      join (missing.insertionSort (· ≤ ·)) ", ")
  else .ok (expand contents fun key => (host.lookupEnv key).getD [])

end Pinguin.Startup
