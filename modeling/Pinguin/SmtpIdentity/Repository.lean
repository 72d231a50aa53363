/-
Pinguin.SmtpIdentity.Repository — identities and their credentials.

The calls of `smtpidentity.Repository` on identities. Each is written in the
pieces between its database statements (`createFind`, `createSave` and so
on), so that the same pieces make up a call that runs alone and a call whose
statements are mixed with those of others. Random bytes, new ids and clock
readings are arguments; `none` for the random bytes is a failing source.
-/
import Mathlib.Data.List.Sort
import Pinguin.SmtpIdentity.SenderDomain

namespace Pinguin.SmtpIdentity

open Pinguin.Go Pinguin.Lib

/-! ## Credentials -/

/-- HMAC-SHA256 and AES-GCM under the master key of the repository, with
what is assumed of them. -/
structure Crypto where
  hmac : GoString → GoString
  sealBytes : (nonce plaintext : GoString) → GoString
  openBytes : (nonce payload : GoString) → Option GoString
  /-- HMAC is injective on a sixteen-byte salt and a password. -/
  hmac_injective : ∀ salt password salt' password' : GoString, salt.length = 16 →
    salt'.length = 16 → hmac (salt ++ [0] ++ password) = hmac (salt' ++ [0] ++ password') →
      salt = salt' ∧ password = password'
  open_seal : ∀ nonce plaintext, openBytes nonce (sealBytes nonce plaintext) = some plaintext

/-- The random bytes of a new credential. -/
structure CredentialDraw where
  username : GoString
  password : GoString
  salt : GoString
  nonce : GoString
  username_length : username.length = 12
  password_length : password.length = 24
  salt_length : salt.length = 16
  nonce_length : nonce.length = 12

/-- What `newCredential` returns. -/
structure Credential where
  username : GoString
  password : GoString
  salt : GoString
  digest : GoString
  cipher : GoString
deriving DecidableEq, Repr

namespace Crypto

/-- `digest`. -/
def digest (crypto : Crypto) (salt password : GoString) : GoString :=
  crypto.hmac (salt ++ [0] ++ password)

/-- `encryptPassword`: the nonce, then what GCM seals. -/
def encryptPassword (crypto : Crypto) (nonce password : GoString) : GoString :=
  nonce ++ crypto.sealBytes nonce password

/-- `decryptPassword`. -/
def decryptPassword (crypto : Crypto) (ciphertext : GoString) : Option GoString :=
  if ciphertext.length < 12 then none
  else crypto.openBytes (ciphertext.take 12) (ciphertext.drop 12)

/-- `newCredential`. -/
def newCredential (crypto : Crypto) (draw : CredentialDraw) : Credential :=
  let password := lit "pgsmtp_" ++ base64RawURLEncode draw.password
  ⟨lit "smtp_" ++ base64RawURLEncode draw.username, password, draw.salt,
    crypto.digest draw.salt password, crypto.encryptPassword draw.nonce password⟩

end Crypto

/-! ## Public shapes -/

/-- `PublicIdentity`. -/
structure PublicIdentity where
  id : GoString
  emailAddress : GoString
  username : GoString
  forwardTo : List GoString
  status : IdentityStatus
  lastUsedAt : Option Int
  createdAt : Int
  updatedAt : Int
deriving DecidableEq, Repr

/-- `publicIdentity` of a row with its recipients, if they were loaded. -/
def publicIdentity (record : Identity) (forwardTo : List ForwardRecipient) : PublicIdentity :=
  ⟨record.id, record.emailAddress, record.username,
    (forwardTo.map (·.emailAddress)).insertionSort (· ≤ ·), record.status, record.lastUsedAt,
    record.createdAt, record.updatedAt⟩

/-! ## Forwarding recipients -/

/-- The recipients from here on, `seen` being the ones before. -/
def checkRecipients : List GoString → List Address → Except IdentityError Unit
  | _, [] => .ok ()
  | seen, recipient :: recipients =>
    if recipient.value = [] then .error .forwardRecipientsRequired
    else if seen.contains recipient.value then .error (.forwardRecipientDuplicate recipient.value)
    else checkRecipients (recipient.value :: seen) recipients

/-- `validateForwardRecipients`. -/
def validateForwardRecipients (forwardTo : List Address) : Except IdentityError Unit :=
  if forwardTo = [] then .error .forwardRecipientsRequired else checkRecipients [] forwardTo

/-- `validateForwardRecipientTarget`. -/
def validateForwardRecipientTarget (address : Address) (forwardTo : List Address) :
    Except IdentityError Unit :=
  match forwardTo.find? (·.equals address) with
  | some recipient => .error (.forwardRecipientSelf recipient.value)
  | none => .ok ()

/-- `forwardRecipientRecords`, in the order of their addresses. -/
def forwardRecipientRecords (identityID : GoString) (forwardTo : List Address) (now : Int) :
    List ForwardRecipient :=
  (forwardTo.map (fun recipient => (⟨identityID, recipient.value, now, now⟩ : ForwardRecipient)))
    |>.insertionSort (fun first second => first.emailAddress ≤ second.emailAddress)

/-! ## New ids -/

def hexDigit (v : Nat) : UInt8 := if v < 10 then (v + 0x30).toUInt8 else (v - 10 + 0x61).toUInt8

def hexEncode (s : GoString) : GoString :=
  s.flatMap (fun b => [hexDigit (b.toNat / 16), hexDigit (b.toNat % 16)])

/-- `uuid.NewString`: sixteen random bytes with the version and variant
bits set, in groups of hexadecimal digits. -/
def uuidNewString (random : GoString) : GoString :=
  let bytes := (random.modify 6 (fun b => b &&& 0x0F ||| 0x40)).modify 8
    (fun b => b &&& 0x3F ||| 0x80)
  hexEncode (bytes.take 4) ++ lit "-" ++ hexEncode ((bytes.drop 4).take 2) ++ lit "-" ++
    hexEncode ((bytes.drop 6).take 2) ++ lit "-" ++ hexEncode ((bytes.drop 8).take 2) ++ lit "-" ++
    hexEncode (bytes.drop 10)

/-! ## Lookups -/

/-- `requireIdentityForScope`. -/
def requireIdentityForScope (store : Store) (scope : AccessScope) (identityID : GoString) :
    Except IdentityError Identity :=
  match store.identities.first (fun row => matchesField [] (trimSpace identityID) row.id &&
      row.status = .active &&
      (scope.admin || row.ownerEmail = normalizeOwnerEmail scope.ownerEmail)) with
  | none => .error .identityNotFound
  | some record => .ok record

/-- `CredentialsForScope`. -/
def credentialsForScope (crypto : Crypto) (store : Store) (scope : AccessScope)
    (identityID : GoString) : Except IdentityError (PublicIdentity × GoString) :=
  match requireIdentityForScope store scope identityID with
  | .error e => .error e
  | .ok record =>
    match crypto.decryptPassword record.passwordCipher with
    | none => .error .decryptPassword
    | some password => .ok (publicIdentity record [], password)

/-- The recipients of an identity, in the order of their addresses. -/
def forwardTo (store : Store) (identityID : GoString) : List ForwardRecipient :=
  (store.recipients.filter (·.identityID = identityID)).insertionSort
    (fun first second => first.emailAddress ≤ second.emailAddress)

/-- `ListForScope`: the active identities in the order of their addresses. -/
def listForScope (store : Store) (scope : AccessScope) : List PublicIdentity :=
  ((store.identities.select (fun row => row.status = .active &&
      (scope.admin || row.ownerEmail = normalizeOwnerEmail scope.ownerEmail))).insertionSort
    (fun first second => first.emailAddress ≤ second.emailAddress)).map
    (fun row => publicIdentity row (forwardTo store row.id))

/-- The stored recipients as addresses. -/
def recipientAddresses : List ForwardRecipient → Except IdentityError (List Address)
  | [] => .ok []
  | record :: records =>
    match newAddress record.emailAddress with
    | .error e => .error (.storedAddress e)
    | .ok recipient =>
      match recipientAddresses records with
      | .error e => .error e
      | .ok recipients => .ok (recipient :: recipients)

/-- `ResolveForwarding`; `none` when the address does not forward. -/
def resolveForwarding (store : Store) (address : Address) :
    Except IdentityError (Option (List Address)) :=
  match store.identities.first (fun row =>
      matchesField [] address.value row.emailAddress && row.status = .active) with
  | none => .ok none
  | some record =>
    if forwardTo store record.id = [] then .ok none
    else match requireSenderDomainForIdentity store record.ownerEmail address.domain with
      | .error (.senderDomainNotAllowed _) => .ok none
      | .error e => .error e
      | .ok () =>
        match recipientAddresses (forwardTo store record.id) with
        | .error e => .error e
        | .ok recipients => .ok (some recipients)

/-! ## Calls -/

/-- What a call returns. -/
inductive Outcome where
  | issued (identity : PublicIdentity) (password : GoString)
  | deleted
  | authenticated (identity : AuthenticatedIdentity)
  | failed (e : IdentityError)
deriving DecidableEq, Repr

/-! ### `CreateForScope` -/

/-- The checks before the first look at the identities. -/
def createCheck (store : Store) (scope : AccessScope) (address : Address)
    (recipients : List Address) : Except IdentityError Unit :=
  match requireSenderDomainForScope store scope address.domain with
  | .error e => .error e
  | .ok () =>
    match validateForwardRecipients recipients with
    | .error e => .error e
    | .ok () => validateForwardRecipientTarget address recipients

/-- The row of the address, which must not be active. -/
def createFind (store : Store) (address : Address) : Except IdentityError (Option Identity) :=
  match store.identities.first (fun row => matchesField [] address.value row.emailAddress) with
  | none => .ok none
  | some existing =>
    if existing.status = .active then .error .identityExists else .ok (some existing)

/-- The row that a reactivation saves. -/
def reactivatedRow (scope : AccessScope) (credential : Credential) (now : Int)
    (existing : Identity) : Identity :=
  { existing with
    ownerEmail := normalizeOwnerEmail scope.ownerEmail
    username := credential.username
    passwordSalt := credential.salt
    passwordDigest := credential.digest
    passwordCipher := credential.cipher
    status := .active
    lastUsedAt := none
    updatedAt := now }

/-- The row of a new identity. -/
def newRow (scope : AccessScope) (address : Address) (credential : Credential) (random : GoString)
    (now : Int) : Identity :=
  ⟨uuidNewString random, normalizeOwnerEmail scope.ownerEmail, address.value, credential.username,
    credential.salt, credential.digest, credential.cipher, .active, none, now, now⟩

/-- The transaction: the row is written and its recipients created, after
those of the old row were deleted. -/
def createSave (store : Store) (scope : AccessScope) (address : Address)
    (recipients : List Address) (credential : Credential) (random : GoString) (now : Int)
    (existing : Option Identity) : Outcome × Store :=
  let record := match existing with
    | some existing => reactivatedRow scope credential now existing
    | none => newRow scope address credential random now
  let records := forwardRecipientRecords record.id recipients now
  match (if existing.isSome then (store.dropRecipients record.id).save record
    else store.create record) with
  | .error e => (.failed e, store)
  | .ok written =>
    match written.addRecipients records with
    | .error e => (.failed e, store)
    | .ok stored => (.issued (publicIdentity record records) credential.password, stored)

/-! ### `RotateForScope` and `DeleteForScope` -/

/-- The row that a rotation saves. -/
def rotatedRow (credential : Credential) (now : Int) (record : Identity) : Identity :=
  { record with
    username := credential.username
    passwordSalt := credential.salt
    passwordDigest := credential.digest
    passwordCipher := credential.cipher
    updatedAt := now }

def rotateSave (store : Store) (credential : Credential) (now : Int) (record : Identity) :
    Outcome × Store :=
  match store.save (rotatedRow credential now record) with
  | .error e => (.failed e, store)
  | .ok store =>
    (.issued (publicIdentity (rotatedRow credential now record) []) credential.password, store)

/-- The row that a deletion saves. -/
def deletedRow (now : Int) (record : Identity) : Identity :=
  { record with status := .deleted, updatedAt := now }

def deleteSave (store : Store) (now : Int) (record : Identity) : Outcome × Store :=
  match store.save (deletedRow now record) with
  | .error e => (.failed e, store)
  | .ok store => (.deleted, store)

/-! ### `Authenticate` -/

/-- The active identity with the user name, if the password is its own. -/
def authenticateRead (crypto : Crypto) (store : Store) (username password : GoString) :
    Except IdentityError (Identity × Address) :=
  let normalizedUsername := trimSpace username
  if normalizedUsername = [] ∨ trimSpace password = [] then .error .authenticationFailed
  else match store.identities.first (fun row =>
      row.username = normalizedUsername && row.status = .active) with
    | none => .error .authenticationFailed
    | some record =>
      if crypto.digest record.passwordSalt password ≠ record.passwordDigest then
        .error .authenticationFailed
      else match newAddress record.emailAddress with
        | .error e => .error (.storedAddress e)
        | .ok address => .ok (record, address)

/-- The domain check; a domain that is not allowed is a failed login. -/
def authenticateDomain (store : Store) (record : Identity) (address : Address) :
    Except IdentityError Unit :=
  match requireSenderDomainForIdentity store record.ownerEmail address.domain with
  | .error (.senderDomainNotAllowed _) => .error .authenticationFailed
  | .error e => .error e
  | .ok () => .ok ()

/-- A row with its last use. -/
def usedRow (now : Int) (stored : Identity) : Identity :=
  { stored with lastUsedAt := some now, updatedAt := now }

/-- The update of the row with an id, if it is active under a user name. -/
def markUsed (store : Store) (id username : GoString) (now : Int) : Except IdentityError Store :=
  match hstored : store.identities.get id with
  | none => .error .authenticationFailed
  | some stored =>
    if stored.status = .active ∧ stored.username = username then
      .ok (store.write (usedRow now stored)
        (Store.allows_of_same (Table.get_some hstored).1 rfl rfl rfl))
    else .error .authenticationFailed

/-- `markAuthenticatedIdentityUsed`. -/
def markAuthenticatedIdentityUsed (store : Store) (record : Identity) (now : Int) :
    Except IdentityError Store :=
  markUsed store record.id record.username now

/-- `Authenticate`, when nothing else touches the store. -/
def authenticate (crypto : Crypto) (store : Store) (username password : GoString) (now : Int) :
    Except IdentityError AuthenticatedIdentity × Store :=
  match authenticateRead crypto store username password with
  | .error e => (.error e, store)
  | .ok (record, address) =>
    match authenticateDomain store record address with
    | .error e => (.error e, store)
    | .ok () =>
      match markAuthenticatedIdentityUsed store record now with
      | .error e => (.error e, store)
      | .ok store => (.ok ⟨record.id, address, record.username⟩, store)

/-! ### Whole calls -/

/-- The calls on identities, with what they draw and the clock. -/
inductive Call where
  | createForScope (scope : AccessScope) (address : Address) (recipients : List Address)
      (draw : Option CredentialDraw) (random : GoString) (now : Int)
  | rotateForScope (scope : AccessScope) (identityID : GoString) (draw : Option CredentialDraw)
      (now : Int)
  | deleteForScope (scope : AccessScope) (identityID : GoString) (now : Int)
  | authenticate (username password : GoString) (now : Int)

/-- The random bytes of a call's new credential. -/
def Call.draw : Call → Option CredentialDraw
  | .createForScope _ _ _ draw _ _ => draw
  | .rotateForScope _ _ draw _ => draw
  | _ => none

/-- A call that runs alone. -/
def perform (crypto : Crypto) (store : Store) : Call → Outcome × Store
  | .createForScope scope address recipients draw random now =>
    match createCheck store scope address recipients with
    | .error e => (.failed e, store)
    | .ok () =>
      match createFind store address with
      | .error e => (.failed e, store)
      | .ok existing =>
        match draw with
        | none => (.failed .random, store)
        | some draw =>
          createSave store scope address recipients (crypto.newCredential draw) random now existing
  | .rotateForScope scope identityID draw now =>
    match requireIdentityForScope store scope identityID with
    | .error e => (.failed e, store)
    | .ok record =>
      match draw with
      | none => (.failed .random, store)
      | some draw => rotateSave store (crypto.newCredential draw) now record
  | .deleteForScope scope identityID now =>
    match requireIdentityForScope store scope identityID with
    | .error e => (.failed e, store)
    | .ok record => deleteSave store now record
  | .authenticate username password now =>
    match SmtpIdentity.authenticate crypto store username password now with
    | (.error e, store) => (.failed e, store)
    | (.ok identity, store) => (.authenticated identity, store)

/-- `UpdateForwardingForScope`, its two checks first. -/
def updateForwardingForScope (store : Store) (scope : AccessScope) (identityID : GoString)
    (recipients : List Address) (now : Int) : Except IdentityError PublicIdentity × Store :=
  match validateForwardRecipients recipients with
  | .error e => (.error e, store)
  | .ok () =>
    match requireIdentityForScope store scope identityID with
    | .error e => (.error e, store)
    | .ok record =>
      match newAddress record.emailAddress with
      | .error e => (.error (.storedAddress e), store)
      | .ok recordAddress =>
        match validateForwardRecipientTarget recordAddress recipients with
        | .error e => (.error e, store)
        | .ok () =>
          let record := { record with updatedAt := now }
          let records := forwardRecipientRecords record.id recipients now
          match (store.dropRecipients record.id).addRecipients records with
          | .error e => (.error e, store)
          | .ok written =>
            match written.save record with
            | .error e => (.error e, store)
            | .ok stored => (.ok (publicIdentity record records), stored)

end Pinguin.SmtpIdentity
