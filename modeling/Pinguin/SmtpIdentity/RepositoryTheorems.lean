/-
Pinguin.SmtpIdentity.RepositoryTheorems — what one call does.

`CallEffect` lists everything a call can do to the store, with what the call
had read and checked; `perform_effect` says that the calls do nothing else.
The rest of the module is about single pieces: credentials, new ids, and
the three steps of a login.
-/
import Pinguin.Go.AsciiTheorems
import Pinguin.SmtpIdentity.Repository

namespace Pinguin.SmtpIdentity

open Pinguin.Go Pinguin.Lib

/-! ## Tokens -/

theorem base64Char_visible (v : Nat) : Visible [base64Char 0x2D 0x5F v] := by
  have hsmall : ∀ v < 64, Visible [base64Char 0x2D 0x5F v] := by decide
  by_cases hv : v < 64
  · exact hsmall v hv
  · have hlast : base64Char 0x2D 0x5F v = 0x5F := by
      rw [base64Char, if_neg (by omega), if_neg (by omega), if_neg (by omega), if_neg (by omega)]
    rw [hlast]
    decide

theorem base64RawURLEncode_visible (s : GoString) : Visible (base64RawURLEncode s) := by
  have hcons : ∀ (v : Nat) {t : GoString}, Visible t → Visible (base64Char 0x2D 0x5F v :: t) :=
    fun v t ht => (base64Char_visible v).append ht
  have hnil : Visible [] := fun b hb => absurd hb List.not_mem_nil
  unfold base64RawURLEncode
  fun_induction encodeQuanta 0x2D 0x5F s with
  | case1 b0 b1 b2 rest ih => exact hcons _ (hcons _ (hcons _ (hcons _ ih)))
  | case2 b0 b1 => exact hcons _ (hcons _ (hcons _ hnil))
  | case3 b0 => exact hcons _ (hcons _ hnil)
  | case4 => exact hnil

theorem hexEncode_visible (s : GoString) : Visible (hexEncode s) := by
  have hdigit : ∀ v < 16, Visible [hexDigit v] := by decide
  intro b hb
  obtain ⟨a, -, ha⟩ := List.mem_flatMap.mp hb
  have hlt := a.toNat_lt
  simp only [List.mem_cons, List.not_mem_nil, or_false] at ha
  rcases ha with rfl | rfl
  · exact hdigit _ (by omega) _ (List.mem_singleton.mpr rfl)
  · exact hdigit _ (by omega) _ (List.mem_singleton.mpr rfl)

/-- A new id is not blank and has no blanks to trim. -/
theorem uuidNewString_visible (random : GoString) :
    Visible (uuidNewString random) ∧ uuidNewString random ≠ [] := by
  have hdash : Visible (lit "-") := by decide
  refine ⟨?_, ?_⟩
  · unfold uuidNewString
    exact ((((((((hexEncode_visible _).append hdash).append (hexEncode_visible _)).append
      hdash).append (hexEncode_visible _)).append hdash).append (hexEncode_visible _)).append
      hdash).append (hexEncode_visible _)
  · intro h
    have hne : lit "-" ≠ [] := by decide
    simp [uuidNewString, hne] at h

/-! ## Credentials -/

variable {crypto : Crypto} {store store' : Store}

/-- The row holds the password: as its digest, and encrypted. -/
structure HoldsPassword (crypto : Crypto) (row : Identity) (password : GoString) : Prop where
  salt : row.passwordSalt.length = 16
  digest : row.passwordDigest = crypto.digest row.passwordSalt password
  cipher : crypto.decryptPassword row.passwordCipher = some password
  nonblank : trimSpace password ≠ []

theorem decryptPassword_encryptPassword {nonce : GoString} (hnonce : nonce.length = 12)
    (password : GoString) :
    crypto.decryptPassword (crypto.encryptPassword nonce password) = some password := by
  have hlong : ¬ (nonce ++ crypto.sealBytes nonce password).length < 12 := by
    rw [List.length_append]
    omega
  rw [Crypto.decryptPassword, Crypto.encryptPassword, if_neg hlong, ← hnonce, List.take_left,
    List.drop_left]
  exact crypto.open_seal nonce password

/-- A row with a new credential holds its password. -/
theorem holdsPassword_new {draw : CredentialDraw} {row : Identity}
    (hsalt : row.passwordSalt = (crypto.newCredential draw).salt)
    (hdigest : row.passwordDigest = (crypto.newCredential draw).digest)
    (hcipher : row.passwordCipher = (crypto.newCredential draw).cipher) :
    HoldsPassword crypto row (crypto.newCredential draw).password := by
  have hvisible : Visible (crypto.newCredential draw).password :=
    Visible.append (by decide) (base64RawURLEncode_visible _)
  refine ⟨?_, ?_, ?_, ?_⟩
  · rw [hsalt]
    exact draw.salt_length
  · rw [hdigest, hsalt]
    rfl
  · rw [hcipher]
    exact decryptPassword_encryptPassword draw.nonce_length _
  · rw [hvisible.trimSpace]
    exact List.append_ne_nil_of_left_ne_nil (by decide) _

theorem newCredential_username (draw : CredentialDraw) :
    (crypto.newCredential draw).username ≠ [] :=
  List.append_ne_nil_of_left_ne_nil (by decide) _

/-- The only password that passes the digest check is the one the row holds. -/
theorem HoldsPassword.digest_iff {row : Identity} {password candidate : GoString}
    (h : HoldsPassword crypto row password) :
    crypto.digest row.passwordSalt candidate = row.passwordDigest ↔ candidate = password := by
  rw [h.digest]
  constructor
  · intro hsame
    exact (crypto.hmac_injective _ _ _ _ h.salt h.salt hsame).2
  · rintro rfl
    rfl

/-! ## Reads -/

/-- The scope may see the identity. -/
def AccessScope.allows (scope : AccessScope) (row : Identity) : Bool :=
  scope.admin || row.ownerEmail = normalizeOwnerEmail scope.ownerEmail

theorem requireIdentityForScope_ok {scope : AccessScope} {identityID : GoString}
    {record : Identity} (h : requireIdentityForScope store scope identityID = .ok record) :
    record ∈ store.identities.rows ∧ record.status = .active ∧ scope.allows record = true ∧
      matchesField [] (trimSpace identityID) record.id = true := by
  unfold requireIdentityForScope at h
  split at h
  · cases h
  · rename_i found hfirst
    cases h
    obtain ⟨hmem, hfound⟩ := Table.first_some hfirst
    simp only [Bool.and_eq_true, decide_eq_true_eq] at hfound
    exact ⟨hmem, hfound.1.2, hfound.2, hfound.1.1⟩

/-- An active identity is found by its id. -/
theorem requireIdentityForScope_id {scope : AccessScope} {row : Identity}
    (hmem : row ∈ store.identities.rows) (hactive : row.status = .active)
    (hallows : scope.allows row = true) (hid : trimSpace row.id = row.id) (hne : row.id ≠ []) :
    requireIdentityForScope store scope row.id = .ok row := by
  have hfirst : store.identities.first (fun r => matchesField [] (trimSpace row.id) r.id &&
      r.status = .active && scope.allows r) = some row := by
    refine Table.first_unique hmem ?_ ?_
    · simp [matchesField, hid, hactive, hallows]
    · intro r hr hp
      simp only [matchesField, hid, hne, Bool.and_eq_true, Bool.or_eq_true, decide_eq_true_eq,
        false_or] at hp
      exact Table.eq_of_key hr hmem hp.1.1
  unfold requireIdentityForScope
  simp only [AccessScope.allows] at hfirst
  rw [hfirst]

theorem createFind_ok {address : Address} {existing : Identity}
    (h : createFind store address = .ok (some existing)) :
    existing ∈ store.identities.rows ∧ existing.status ≠ .active := by
  unfold createFind at h
  split at h
  · cases h
  · rename_i found hfirst
    split at h
    · cases h
    · rename_i hinactive
      cases h
      exact ⟨(Table.first_some hfirst).1, hinactive⟩

/-- A domain that passes the check has a row. -/
theorem requireSenderDomainForScope_ok {scope : AccessScope} {domain : GoString}
    (h : requireSenderDomainForScope store scope domain = .ok ()) :
    ∃ row ∈ store.domains.rows, row.domain = toLower (trimSpace domain) := by
  simp only [requireSenderDomainForScope] at h
  split at h
  · cases h
  · rename_i row hfirst
    obtain ⟨hmem, hrow⟩ := Table.first_some hfirst
    simp only [Bool.and_eq_true, decide_eq_true_eq] at hrow
    exact ⟨row, hmem, hrow.1⟩

theorem createCheck_domain {scope : AccessScope} {address : Address} {recipients : List Address}
    (h : createCheck store scope address recipients = .ok ()) :
    requireSenderDomainForScope store scope address.domain = .ok () := by
  unfold createCheck at h
  split at h
  · cases h
  · assumption

/-! ## The steps of a login -/

theorem authenticateRead_ok_iff {username password : GoString} {record : Identity}
    {address : Address} :
    authenticateRead crypto store username password = .ok (record, address) ↔
      (trimSpace username ≠ [] ∧ trimSpace password ≠ []) ∧
      store.identities.first (fun row =>
        row.username = trimSpace username && row.status = .active) = some record ∧
      crypto.digest record.passwordSalt password = record.passwordDigest ∧
      newAddress record.emailAddress = .ok address := by
  simp only [authenticateRead]
  by_cases hblank : trimSpace username = [] ∨ trimSpace password = []
  · rw [if_pos hblank]
    refine iff_of_false (fun h => nomatch h) ?_
    rintro ⟨⟨huser, hpass⟩, -⟩
    exact hblank.elim huser hpass
  · rw [if_neg hblank]
    simp only [not_or] at hblank
    simp only [hblank, ne_eq, not_false_eq_true, and_self, true_and]
    cases hfirst : store.identities.first (fun row =>
        row.username = trimSpace username && row.status = .active) with
    | none => simp
    | some found =>
      simp only
      split
      · rename_i hwrong
        refine iff_of_false (fun h => nomatch h) ?_
        rintro ⟨⟨⟩, hdigest, -⟩
        exact hwrong hdigest
      · rename_i hdigest
        rw [not_not] at hdigest
        cases haddress : newAddress found.emailAddress with
        | error e =>
          refine iff_of_false (fun h => nomatch h) ?_
          rintro ⟨⟨⟩, -, hok⟩
          rw [haddress] at hok
          cases hok
        | ok found' =>
          constructor
          · rintro ⟨⟩
            exact ⟨rfl, hdigest, haddress⟩
          · rintro ⟨⟨⟩, -, hok⟩
            rw [haddress, Except.ok.injEq] at hok
            rw [hok]

/-- The domain check of a stored identity. -/
theorem requireSenderDomainForIdentity_iff {ownerEmail domain : GoString} :
    requireSenderDomainForIdentity store ownerEmail domain = .ok () ↔
      ∃ row ∈ store.domains.rows, row.domain = toLower (trimSpace domain) ∧
        (row.verifiedFor (normalizeOwnerEmail ownerEmail) = true ∨ row.shared = true) := by
  simp only [requireSenderDomainForIdentity, requireSenderDomainForScope, Bool.true_and]
  split
  · rename_i hnone
    refine iff_of_false (fun h => nomatch h) ?_
    rintro ⟨row, hmem, hdomain, hverified⟩
    have := Table.first_none.mp hnone row hmem
    simp only [hdomain, decide_true, Bool.true_and, Bool.or_eq_false_iff] at this
    rw [this.1, this.2] at hverified
    simp at hverified
  · rename_i row hfirst
    obtain ⟨hmem, hrow⟩ := Table.first_some hfirst
    simp only [Bool.and_eq_true, Bool.or_eq_true, decide_eq_true_eq] at hrow
    exact iff_of_true rfl ⟨row, hmem, hrow⟩

theorem authenticateDomain_ok_iff {record : Identity} {address : Address} :
    authenticateDomain store record address = .ok () ↔
      requireSenderDomainForIdentity store record.ownerEmail address.domain = .ok () := by
  unfold authenticateDomain
  split
  · rename_i hrefused
    rw [hrefused]
    exact iff_of_false (fun h => nomatch h) (fun h => nomatch h)
  · rename_i hfailed
    rw [hfailed]
  · rename_i hok
    rw [hok]

/-- The three steps of a login that succeeds. -/
theorem authenticate_ok_iff {username password : GoString} {now : Int}
    {identity : AuthenticatedIdentity} :
    (authenticate crypto store username password now).1 = .ok identity ↔
      ∃ record address, authenticateRead crypto store username password = .ok (record, address) ∧
        authenticateDomain store record address = .ok () ∧
        (∃ store', markAuthenticatedIdentityUsed store record now = .ok store') ∧
        identity = ⟨record.id, address, record.username⟩ := by
  unfold authenticate
  rcases hread : authenticateRead crypto store username password with e | ⟨record, address⟩
  · simp
  · simp only [Except.ok.injEq, Prod.mk.injEq]
    cases hdomain : authenticateDomain store record address with
    | error e =>
      refine iff_of_false (fun h => nomatch h) ?_
      rintro ⟨record', address', ⟨rfl, rfl⟩, hok, -⟩
      rw [hdomain] at hok
      cases hok
    | ok u =>
      cases hmark : markAuthenticatedIdentityUsed store record now with
      | error e =>
        refine iff_of_false (fun h => nomatch h) ?_
        rintro ⟨record', address', ⟨rfl, rfl⟩, -, ⟨store', hok⟩, -⟩
        rw [hmark] at hok
        cases hok
      | ok store' =>
        constructor
        · rintro ⟨⟩
          exact ⟨record, address, ⟨rfl, rfl⟩, hdomain, ⟨store', hmark⟩, rfl⟩
        · rintro ⟨record', address', ⟨rfl, rfl⟩, -, -, rfl⟩
          rfl

/-- An active identity is marked. -/
theorem markAuthenticatedIdentityUsed_active {record : Identity} (now : Int)
    (hmem : record ∈ store.identities.rows) (hactive : record.status = .active) :
    ∃ store', markAuthenticatedIdentityUsed store record now = .ok store' := by
  unfold markAuthenticatedIdentityUsed markUsed
  split
  · rename_i hnone
    rw [Table.get_of_mem hmem] at hnone
    cases hnone
  · rename_i stored hstored
    rw [Table.get_of_mem hmem, Option.some.injEq] at hstored
    subst hstored
    rw [if_pos ⟨hactive, rfl⟩]
    exact ⟨_, rfl⟩

/-! ## Effects -/

/-- One identity row was written, and the recipients are now these. -/
structure Wrote (store store' : Store) (row : Identity) (recipients : List ForwardRecipient) :
    Prop where
  identities : store'.identities = store.identities.put row
  domains : store'.domains = store.domains
  recipients : store'.recipients = recipients

theorem Wrote.tables {row : Identity} {recipients : List ForwardRecipient}
    (h : Wrote store store' row recipients) :
    store'.identities = store.identities.put row ∧ store'.domains = store.domains :=
  ⟨h.identities, h.domains⟩

theorem Wrote.mem {row : Identity} {recipients : List ForwardRecipient}
    (h : Wrote store store' row recipients) : row ∈ store'.identities.rows :=
  h.identities ▸ Table.mem_put.mpr (.inr rfl)

/-- The recipients of an identity, replaced by new ones. -/
def replacedRecipients (store : Store) (id : GoString) (recipients : List Address) (now : Int) :
    List ForwardRecipient :=
  store.recipients.filter (·.identityID != id) ++ forwardRecipientRecords id recipients now

/-- Recipients are added to a store that a row was written to. -/
theorem wrote_addRecipients {mid : Store} {row : Identity} {before records : List ForwardRecipient}
    (hwrote : Wrote store mid row before) (hadd : mid.addRecipients records = .ok store') :
    Wrote store store' row (before ++ records) := by
  obtain ⟨hidentities, hdomains⟩ := Store.addRecipients_tables hadd
  exact ⟨hidentities.trans hwrote.identities, hdomains.trans hwrote.domains,
    by rw [Store.addRecipients_recipients hadd, hwrote.recipients]⟩

theorem wrote_write {row : Identity} (h : store.Allows row) :
    Wrote store (store.write row h) row store.recipients :=
  ⟨rfl, rfl, rfl⟩

theorem wrote_save {row : Identity} (h : store.save row = .ok store') :
    Wrote store store' row store.recipients := by
  obtain ⟨hallows, rfl⟩ := Store.save_ok h
  exact wrote_write hallows

theorem markAuthenticatedIdentityUsed_ok {record : Identity} {now : Int}
    (h : markAuthenticatedIdentityUsed store record now = .ok store') :
    ∃ stored, store.identities.get record.id = some stored ∧ stored.status = .active ∧
      stored.username = record.username ∧
      store'.identities = store.identities.put (usedRow now stored) ∧
      store'.domains = store.domains := by
  unfold markAuthenticatedIdentityUsed markUsed at h
  split at h
  · cases h
  · rename_i stored hstored
    split at h
    · rename_i hmatch
      cases h
      exact ⟨stored, hstored, hmatch.1, hmatch.2, rfl, rfl⟩
    · cases h

theorem markAuthenticatedIdentityUsed_error {record : Identity} {now : Int} {e : IdentityError}
    (h : markAuthenticatedIdentityUsed store record now = .error e) :
    e = .authenticationFailed := by
  unfold markAuthenticatedIdentityUsed markUsed at h
  split at h
  · cases h
    rfl
  · split at h
    · cases h
    · cases h
      rfl

theorem authenticateDomain_error {record : Identity} {address : Address} {e : IdentityError}
    (h : authenticateDomain store record address = .error e) : e = .authenticationFailed := by
  simp only [authenticateDomain, requireSenderDomainForIdentity, requireSenderDomainForScope] at h
  split at h
  · cases h
    rfl
  · rename_i hne hother
    split at hother
    · exact absurd (Except.error.inj hother).symm (hne _)
    · cases hother
  · cases h

/-- What the transaction of a creation can do. -/
inductive CreateSaved (store : Store) (scope : AccessScope) (address : Address)
    (recipients : List Address) (credential : Credential) (random : GoString) (now : Int) :
    Option Identity → Outcome × Store → Prop where
  | failed {existing : Option Identity} (e : IdentityError) :
      CreateSaved store scope address recipients credential random now existing (.failed e, store)
  | created {store' : Store} (hfresh : store.identities.get (uuidNewString random) = none)
      (hwrote : Wrote store store' (newRow scope address credential random now)
        (store.recipients ++ forwardRecipientRecords (uuidNewString random) recipients now)) :
      CreateSaved store scope address recipients credential random now none
        (.issued (publicIdentity (newRow scope address credential random now)
          (forwardRecipientRecords (uuidNewString random) recipients now)) credential.password,
          store')
  | reactivated {existing : Identity} {store' : Store}
      (hwrote : Wrote store store' (reactivatedRow scope credential now existing)
        (replacedRecipients store existing.id recipients now)) :
      CreateSaved store scope address recipients credential random now (some existing)
        (.issued (publicIdentity (reactivatedRow scope credential now existing)
          (forwardRecipientRecords existing.id recipients now)) credential.password, store')

theorem createSave_created {scope : AccessScope} {address : Address} {recipients : List Address}
    {credential : Credential} {random : GoString} {now : Int} {existing : Option Identity}
    {result : Outcome × Store}
    (h : createSave store scope address recipients credential random now existing = result) :
    CreateSaved store scope address recipients credential random now existing result := by
  rw [← h]
  cases existing with
  | none =>
    simp only [createSave, Option.isSome_none, Bool.false_eq_true, if_false]
    cases hcreate : store.create (newRow scope address credential random now) with
    | error e => exact .failed e
    | ok written =>
      simp only
      obtain ⟨hfresh, hallows, rfl⟩ := Store.create_ok hcreate
      split
      · exact .failed _
      · rename_i stored hadd
        exact .created hfresh (wrote_addRecipients (wrote_write hallows) hadd)
  | some existing =>
    simp only [createSave, Option.isSome_some, if_true]
    split
    · exact .failed _
    · rename_i written hsave
      split
      · exact .failed _
      · rename_i stored hadd
        have hwrote := wrote_save hsave
        exact .reactivated (wrote_addRecipients
          ⟨hwrote.identities, hwrote.domains, hwrote.recipients⟩ hadd)

/-- What a call can do: fail and change nothing, or write one row. -/
inductive CallEffect (crypto : Crypto) (store : Store) : Call → Outcome → Store → Prop where
  | failed {call : Call} (e : IdentityError) : CallEffect crypto store call (.failed e) store
  | reactivated {scope address recipients draw random now existing} {identity : PublicIdentity}
      {store' : Store} (hcheck : createCheck store scope address recipients = .ok ())
      (hfind : createFind store address = .ok (some existing))
      (hidentity : identity.id = existing.id ∧
        identity.username = (crypto.newCredential draw).username)
      (htables : store'.identities = store.identities.put
          (reactivatedRow scope (crypto.newCredential draw) now existing) ∧
        store'.domains = store.domains) :
      CallEffect crypto store (.createForScope scope address recipients (some draw) random now)
        (.issued identity (crypto.newCredential draw).password) store'
  | created {scope address recipients draw random now} {identity : PublicIdentity}
      {store' : Store} (hcheck : createCheck store scope address recipients = .ok ())
      (hfind : createFind store address = .ok none)
      (hidentity : identity.id = uuidNewString random ∧
        identity.username = (crypto.newCredential draw).username)
      (htables : store'.identities = store.identities.put
          (newRow scope address (crypto.newCredential draw) random now) ∧
        store'.domains = store.domains) :
      CallEffect crypto store (.createForScope scope address recipients (some draw) random now)
        (.issued identity (crypto.newCredential draw).password) store'
  | rotated {scope identityID draw now record} {identity : PublicIdentity} {store' : Store}
      (hread : requireIdentityForScope store scope identityID = .ok record)
      (hidentity : identity.id = record.id ∧
        identity.username = (crypto.newCredential draw).username)
      (htables : store'.identities = store.identities.put
          (rotatedRow (crypto.newCredential draw) now record) ∧ store'.domains = store.domains) :
      CallEffect crypto store (.rotateForScope scope identityID (some draw) now)
        (.issued identity (crypto.newCredential draw).password) store'
  | deleted {scope identityID now record} {store' : Store}
      (hread : requireIdentityForScope store scope identityID = .ok record)
      (htables : store'.identities = store.identities.put (deletedRow now record) ∧
        store'.domains = store.domains) :
      CallEffect crypto store (.deleteForScope scope identityID now) .deleted store'
  | authenticated {username password now stored} {identity : AuthenticatedIdentity}
      {store' : Store} (hmem : stored ∈ store.identities.rows) (hactive : stored.status = .active)
      (hidentity : identity.id = stored.id)
      (htables : store'.identities = store.identities.put (usedRow now stored) ∧
        store'.domains = store.domains) :
      CallEffect crypto store (.authenticate username password now) (.authenticated identity) store'

theorem createSave_effect {scope : AccessScope} {address : Address} {recipients : List Address}
    {draw : CredentialDraw} {random : GoString} {now : Int} {existing : Option Identity}
    (hcheck : createCheck store scope address recipients = .ok ())
    (hfind : createFind store address = .ok existing) :
    let result := createSave store scope address recipients (crypto.newCredential draw) random now
      existing
    CallEffect crypto store (.createForScope scope address recipients (some draw) random now)
      result.1 result.2 := by
  simp only
  generalize hresult : createSave store scope address recipients (crypto.newCredential draw) random
    now existing = result
  cases createSave_created hresult with
  | failed e => exact .failed e
  | created hfresh hwrote =>
    exact .created hcheck hfind ⟨rfl, rfl⟩ hwrote.tables
  | reactivated hwrote =>
    exact .reactivated hcheck hfind ⟨rfl, rfl⟩ hwrote.tables

/-- The calls do nothing else. -/
theorem perform_effect (crypto : Crypto) (store : Store) (call : Call) :
    CallEffect crypto store call (perform crypto store call).1 (perform crypto store call).2 := by
  cases call with
  | createForScope scope address recipients draw random now =>
    simp only [perform]
    cases hcheck : createCheck store scope address recipients with
    | error e => exact .failed e
    | ok u =>
      cases hfind : createFind store address with
      | error e => exact .failed e
      | ok existing =>
        cases draw with
        | none => exact .failed .random
        | some draw => exact createSave_effect hcheck hfind
  | rotateForScope scope identityID draw now =>
    simp only [perform]
    cases hread : requireIdentityForScope store scope identityID with
    | error e => exact .failed e
    | ok record =>
      cases draw with
      | none => exact .failed .random
      | some draw =>
        simp only [rotateSave]
        cases hsave : store.save (rotatedRow (crypto.newCredential draw) now record) with
        | error e => exact .failed e
        | ok store' => exact .rotated hread ⟨rfl, rfl⟩ (wrote_save hsave).tables
  | deleteForScope scope identityID now =>
    simp only [perform]
    cases hread : requireIdentityForScope store scope identityID with
    | error e => exact .failed e
    | ok record =>
      simp only [deleteSave]
      cases hsave : store.save (deletedRow now record) with
      | error e => exact .failed e
      | ok store' => exact .deleted hread (wrote_save hsave).tables
  | authenticate username password now =>
    simp only [perform, SmtpIdentity.authenticate]
    cases hread : authenticateRead crypto store username password with
    | error e => exact .failed e
    | ok found =>
      obtain ⟨record, address⟩ := found
      simp only
      cases hdomain : authenticateDomain store record address with
      | error e => exact .failed e
      | ok u =>
        simp only
        cases hmark : markAuthenticatedIdentityUsed store record now with
        | error e => exact .failed e
        | ok store' =>
          obtain ⟨stored, hstored, hactive, -, htables⟩ := markAuthenticatedIdentityUsed_ok hmark
          obtain ⟨hmem, hid⟩ := Table.get_some hstored
          exact .authenticated hmem hactive hid.symm htables

/-! ## Fixed inputs -/

/-- Nothing hidden: the message is its own code, the plaintext its own
cipher. -/
def exampleCrypto : Crypto where
  hmac := id
  sealBytes := fun _ plaintext => plaintext
  openBytes := fun _ payload => some payload
  hmac_injective := by
    intro salt password salt' password' hlength hlength' h
    simp only [id_eq, List.append_assoc] at h
    obtain ⟨hsalt, htail⟩ := List.append_inj h (hlength.trans hlength'.symm)
    exact ⟨hsalt, List.append_cancel_left htail⟩
  open_seal := fun _ _ => rfl

/-- Random bytes that are all the same. -/
def exampleDraw (b : UInt8) : CredentialDraw :=
  ⟨List.replicate 12 b, List.replicate 24 b, List.replicate 16 b, List.replicate 12 b, rfl, rfl,
    rfl, rfl⟩

def exampleScope : AccessScope := ⟨lit "o@x.io", false⟩

def exampleAddress : Address := ⟨lit "a@x.io", lit "x.io"⟩

end Pinguin.SmtpIdentity
