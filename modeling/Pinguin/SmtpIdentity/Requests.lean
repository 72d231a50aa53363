/-
Pinguin.SmtpIdentity.Requests — what one request under a scope does.

The requests of the management API on sender domains and identities, each
with the scope it is made under. `RequestEffect` says once what a request
can write and return; what holds of runs is derived from it.
-/
import Pinguin.SmtpIdentity.RepositoryTheorems

namespace Pinguin.SmtpIdentity

open Pinguin.Go Pinguin.Lib

/-! ## Requests -/

/-- The requests, with what they draw and the clock. -/
inductive ScopedRequest where
  | createSenderDomain (domain : GoString) (random : Option GoString) (now : Int)
  | checkSenderDomainDNS (domainID : Nat) (env : CheckEnv)
  | create (address : Address) (recipients : List Address) (draw : Option CredentialDraw)
      (random : GoString) (now : Int)
  | updateForwarding (identityID : GoString) (recipients : List Address) (now : Int)
  | rotate (identityID : GoString) (draw : Option CredentialDraw) (now : Int)
  | delete (identityID : GoString) (now : Int)
  | credentials (identityID : GoString)
  | list

/-- An address to create is one `NewAddress` made. -/
def ScopedRequest.MadeAddress : ScopedRequest → Prop
  | .create address .. => ∃ raw, newAddress raw = .ok address
  | _ => True

/-- The requests on sender domains. -/
def ScopedRequest.OnDomains : ScopedRequest → Prop
  | .createSenderDomain .. | .checkSenderDomainDNS .. => True
  | _ => False

/-- A request and the scope it is made under. -/
structure ScopedCall where
  scope : AccessScope
  request : ScopedRequest

/-- What a request returns. -/
inductive ScopedAnswer where
  | domain (row : SenderDomain) (checks : List DNSCheck)
  | credentials (identity : PublicIdentity) (password : GoString)
  | identity (identity : PublicIdentity)
  | identities (identities : List PublicIdentity)
  | deleted
  | failed (e : IdentityError)

/-- The answer of a call on one identity. -/
def Outcome.answer : Outcome → ScopedAnswer
  | .issued identity password => .credentials identity password
  | .deleted => .deleted
  | .authenticated _ => .failed .authenticationFailed
  | .failed e => .failed e

/-- A request under a scope, when nothing else touches the store. -/
def ScopedRequest.run (crypto : Crypto) (scope : AccessScope) (store : Store) :
    ScopedRequest → ScopedAnswer × Store
  | .createSenderDomain domain random now =>
    match createSenderDomainForScope store scope domain random now with
    | (.error e, store) => (.failed e, store)
    | (.ok row, store) => (.domain row [], store)
  | .checkSenderDomainDNS domainID env =>
    match SmtpIdentity.checkSenderDomainDNS store scope domainID env with
    | (.error e, store) => (.failed e, store)
    | (.ok (row, checks), store) => (.domain row checks, store)
  | .create address recipients draw random now =>
    let (outcome, store) :=
      perform crypto store (.createForScope scope address recipients draw random now)
    (outcome.answer, store)
  | .updateForwarding identityID recipients now =>
    match updateForwardingForScope store scope identityID recipients now with
    | (.error e, store) => (.failed e, store)
    | (.ok identity, store) => (.identity identity, store)
  | .rotate identityID draw now =>
    let (outcome, store) := perform crypto store (.rotateForScope scope identityID draw now)
    (outcome.answer, store)
  | .delete identityID now =>
    let (outcome, store) := perform crypto store (.deleteForScope scope identityID now)
    (outcome.answer, store)
  | .credentials identityID =>
    match credentialsForScope crypto store scope identityID with
    | .error e => (.failed e, store)
    | .ok (identity, password) => (.credentials identity password, store)
  | .list => (.identities (listForScope store scope), store)

/-! ## Domain rows -/

/-- The rows of an owner that a scope may touch. -/
def AccessScope.reaches (scope : AccessScope) (ownerEmail : GoString) : Prop :=
  scope.admin = true ∨ ownerEmail = normalizeOwnerEmail scope.ownerEmail

/-- Requests on domains: only domain rows move, only those the scope
reaches, and never the name or the owner of one. A new row belongs to the
scope and has a DNS name. -/
structure DomainsMoved (scope : AccessScope) (store store' : Store) : Prop where
  identities : store'.identities = store.identities
  recipients : store'.recipients = store.recipients
  kept : ∀ row ∈ store.domains.rows, ∃ row' ∈ store'.domains.rows, row'.id = row.id ∧
    row'.domain = row.domain ∧ row'.ownerEmail = row.ownerEmail ∧
    (row' = row ∨ scope.reaches row.ownerEmail)
  came : ∀ row' ∈ store'.domains.rows, row' ∈ store.domains.rows ∨
    scope.reaches row'.ownerEmail ∧ (row'.ownerEmail = normalizeOwnerEmail scope.ownerEmail ∨
      ∃ row ∈ store.domains.rows, row.ownerEmail = row'.ownerEmail)
  names : ∀ row' ∈ store'.domains.rows, validDNSDomainName row'.domain = true ∨
    ∃ row ∈ store.domains.rows, row.domain = row'.domain

variable {crypto : Crypto} {scope : AccessScope} {store store' : Store}

theorem DomainsMoved.refl (scope : AccessScope) (store : Store) : DomainsMoved scope store store :=
  ⟨rfl, rfl, fun row h => ⟨row, h, rfl, rfl, rfl, .inl rfl⟩, fun _ h => .inl h,
    fun row h => .inr ⟨row, h, rfl⟩⟩

theorem DomainsMoved.trans {mid : Store} (h : DomainsMoved scope store mid)
    (h' : DomainsMoved scope mid store') : DomainsMoved scope store store' := by
  constructor
  case identities => exact h'.identities.trans h.identities
  case recipients => exact h'.recipients.trans h.recipients
  case kept =>
    intro row hrow
    obtain ⟨mid, hmid, hid, hdomain, howner, hchange⟩ := h.kept row hrow
    obtain ⟨row', hrow', hid', hdomain', howner', hchange'⟩ := h'.kept mid hmid
    refine ⟨row', hrow', hid'.trans hid, hdomain'.trans hdomain, howner'.trans howner, ?_⟩
    rcases hchange with rfl | hreaches
    · exact hchange'
    · exact .inr hreaches
  case came =>
    intro row' hrow'
    rcases h'.came row' hrow' with hmid | ⟨hreaches, howner | ⟨mid, hmid, hsame⟩⟩
    · exact h.came row' hmid
    · exact .inr ⟨hreaches, .inl howner⟩
    · refine .inr ⟨hreaches, ?_⟩
      rcases h.came mid hmid with hold | ⟨-, howner | ⟨old, hold, hsame'⟩⟩
      · exact .inr ⟨mid, hold, hsame⟩
      · exact .inl (hsame ▸ howner)
      · exact .inr ⟨old, hold, hsame'.trans hsame⟩
  case names =>
    intro row' hrow'
    rcases h'.names row' hrow' with hvalid | ⟨mid, hmid, hsame⟩
    · exact .inl hvalid
    · exact hsame ▸ h.names mid hmid

/-- Writing over a row the scope reaches. -/
theorem domainsMoved_save {old row : SenderDomain} (hsave : store.saveDomain row = .ok store')
    (hold : old ∈ store.domains.rows) (hreaches : scope.reaches old.ownerEmail)
    (hid : row.id = old.id) (hdomain : row.domain = old.domain)
    (howner : row.ownerEmail = old.ownerEmail) : DomainsMoved scope store store' := by
  have hdomains := (Store.saveDomain_ok hsave).2
  constructor
  case identities => exact (Store.saveDomain_ok hsave).1
  case recipients => exact Store.saveDomain_recipients hsave
  case kept =>
    intro other hother
    by_cases hsame : other.id = row.id
    · obtain rfl : other = old := Table.eq_of_key hother hold (hsame.trans hid)
      exact ⟨row, hdomains ▸ Table.mem_put.mpr (.inr rfl), hid, hdomain, howner, .inr hreaches⟩
    · exact ⟨other, hdomains ▸ Table.mem_put.mpr (.inl ⟨hother, hsame⟩), rfl, rfl, rfl, .inl rfl⟩
  case came =>
    intro row' hrow'
    rw [hdomains] at hrow'
    rcases Table.mem_put.mp hrow' with ⟨hkept, -⟩ | rfl
    · exact .inl hkept
    · exact .inr ⟨howner ▸ hreaches, .inr ⟨old, hold, howner.symm⟩⟩
  case names =>
    intro row' hrow'
    rw [hdomains] at hrow'
    rcases Table.mem_put.mp hrow' with ⟨hkept, -⟩ | rfl
    · exact .inr ⟨row', hkept, rfl⟩
    · exact .inr ⟨old, hold, hdomain.symm⟩

/-- A new row of the scope. -/
theorem domainsMoved_new {row : SenderDomain} (hid : row.id = store.nextDomainID)
    (howner : row.ownerEmail = normalizeOwnerEmail scope.ownerEmail)
    (hname : validDNSDomainName row.domain = true)
    (hsave : store.saveDomain row = .ok store') : DomainsMoved scope store store' := by
  have hmem : ∀ other, other ∈ store'.domains.rows ↔ other ∈ store.domains.rows ∨ other = row := by
    intro other
    rw [(Store.saveDomain_ok hsave).2]
    exact Table.mem_put_of_new fun old hold => hid ▸ (Table.lt_foldl_max hold).ne
  constructor
  case identities => exact (Store.saveDomain_ok hsave).1
  case recipients => exact Store.saveDomain_recipients hsave
  case kept => exact fun old hold => ⟨old, (hmem old).mpr (.inl hold), rfl, rfl, rfl, .inl rfl⟩
  case came =>
    intro row' hrow'
    rcases (hmem row').mp hrow' with hold | rfl
    · exact .inl hold
    · exact .inr ⟨.inr howner, .inl howner⟩
  case names =>
    intro row' hrow'
    rcases (hmem row').mp hrow' with hold | rfl
    · exact .inr ⟨row', hold, rfl⟩
    · exact .inl hname

/-- What a step of a request on domains returns: a stored row the scope
reaches. -/
structure ReturnsRow (scope : AccessScope) (store : Store)
    (result : Except IdentityError SenderDomain × Store) : Prop where
  moved : DomainsMoved scope store result.2
  stored : ∀ row, result.1 = .ok row →
    row ∈ result.2.domains.rows ∧ scope.reaches row.ownerEmail

theorem returnsRow_error (e : IdentityError) (h : DomainsMoved scope store store') :
    ReturnsRow scope store (.error e, store') :=
  ⟨h, fun _ hrow => by cases hrow⟩

theorem returnsRow_saved {row : SenderDomain} (h : DomainsMoved scope store store')
    {mid : Store} (hsave : mid.saveDomain row = .ok store') (hreaches : scope.reaches row.ownerEmail) :
    ReturnsRow scope store (.ok row, store') := by
  refine ⟨h, fun saved hrow => ?_⟩
  cases hrow
  exact ⟨(Store.saveDomain_ok hsave).2 ▸ Table.mem_put.mpr (.inr rfl), hreaches⟩

theorem ensureSenderDomainToken_returns {record : SenderDomain}
    (hrecord : record ∈ store.domains.rows) (hreaches : scope.reaches record.ownerEmail)
    (random : Option GoString) (now : Int) :
    ReturnsRow scope store (ensureSenderDomainToken store record random now) := by
  unfold ensureSenderDomainToken
  split
  · refine ⟨DomainsMoved.refl scope store, fun row hrow => ?_⟩
    cases hrow
    exact ⟨hrecord, hreaches⟩
  · split
    · exact returnsRow_error _ (DomainsMoved.refl scope store)
    · simp only
      split
      · exact returnsRow_error _ (DomainsMoved.refl scope store)
      · rename_i saved hsave
        exact returnsRow_saved (domainsMoved_save hsave hrecord hreaches rfl rfl rfl) hsave hreaches

theorem normalizeSenderDomain_ok {domain name : GoString}
    (h : normalizeSenderDomain domain = .ok name) (hne : name ≠ []) :
    validDNSDomainName name = true := by
  simp only [normalizeSenderDomain] at h
  split at h
  · cases h
    exact absurd rfl hne
  · split at h
    · cases h
    · rename_i hvalid
      cases h
      simp only [Bool.or_eq_true, Bool.not_eq_true', not_or, Bool.not_eq_false] at hvalid
      exact hvalid.2

theorem createSenderDomainForScope_returns (domain : GoString) (random : Option GoString)
    (now : Int) : ReturnsRow scope store
      (createSenderDomainForScope store scope domain random now) := by
  unfold createSenderDomainForScope
  split
  · exact returnsRow_error _ (DomainsMoved.refl scope store)
  · rename_i name hname
    split
    · exact returnsRow_error _ (DomainsMoved.refl scope store)
    · rename_i hne
      simp only
      split
      · rename_i existing hfirst
        split
        · rename_i hallowed
          refine ensureSenderDomainToken_returns (Table.first_some hfirst).1 ?_ random now
          simpa [AccessScope.reaches, or_comm] using hallowed
        · exact returnsRow_error _ (DomainsMoved.refl scope store)
      · split
        · exact returnsRow_error _ (DomainsMoved.refl scope store)
        · split
          · exact returnsRow_error _ (DomainsMoved.refl scope store)
          · rename_i saved hsave
            exact returnsRow_saved (domainsMoved_new rfl rfl (normalizeSenderDomain_ok hname hne)
              hsave) hsave (.inr rfl)

theorem requireSenderDomainByID_returns (domainID : Nat) (random : Option GoString) (now : Int) :
    ReturnsRow scope store (requireSenderDomainByID store scope domainID random now) := by
  unfold requireSenderDomainByID
  split
  · exact returnsRow_error _ (DomainsMoved.refl scope store)
  · rename_i record hfirst
    obtain ⟨hmem, hfound⟩ := Table.first_some hfirst
    refine ensureSenderDomainToken_returns hmem ?_ random now
    simp only [Bool.and_eq_true, Bool.or_eq_true, decide_eq_true_eq] at hfound
    exact hfound.2

theorem updateSenderDomainStatusForScope_returns (domainID : Nat) (random : Option GoString)
    (now : Int) (status : SenderDomainStatus) (checkedAt : Int) : ReturnsRow scope store
      (updateSenderDomainStatusForScope store scope domainID random now status checkedAt) := by
  have hrequire : ReturnsRow scope store (requireSenderDomainByID store scope domainID random now) :=
    requireSenderDomainByID_returns domainID random now
  unfold updateSenderDomainStatusForScope
  rcases hresult : requireSenderDomainByID store scope domainID random now with ⟨e | record, mid⟩
  · rw [hresult] at hrequire
    exact returnsRow_error e hrequire.moved
  · rw [hresult] at hrequire
    obtain ⟨hmem, hreaches⟩ := hrequire.stored record rfl
    simp only
    split
    · exact returnsRow_error _ hrequire.moved
    · rename_i saved hsave
      exact returnsRow_saved (hrequire.moved.trans
        (domainsMoved_save hsave hmem hreaches rfl rfl rfl)) hsave hreaches

/-- **`CheckSenderDomainDNS`** moves domain rows only, and returns a stored
one. -/
theorem checkSenderDomainDNS_returns (domainID : Nat) (env : CheckEnv) :
    DomainsMoved scope store (checkSenderDomainDNS store scope domainID env).2 ∧
      ∀ row checks, (checkSenderDomainDNS store scope domainID env).1 = .ok (row, checks) →
        row ∈ (checkSenderDomainDNS store scope domainID env).2.domains.rows ∧
          scope.reaches row.ownerEmail := by
  have hrequire : ReturnsRow scope store
      (requireSenderDomainByID store scope domainID env.random env.tokenTime) :=
    requireSenderDomainByID_returns domainID env.random env.tokenTime
  unfold checkSenderDomainDNS
  rcases hresult : requireSenderDomainByID store scope domainID env.random env.tokenTime with
    ⟨e | record, mid⟩
  · rw [hresult] at hrequire
    exact ⟨hrequire.moved, fun row checks h => by cases h⟩
  · rw [hresult] at hrequire
    simp only
    set status : SenderDomainStatus :=
      if allDNSChecksPassed (senderDomainChecks env.resolver env.host record) then .verified
      else .pending
    have hupdate : ReturnsRow scope mid (updateSenderDomainStatusForScope mid scope domainID
        env.random env.tokenTime status env.checkedAt) :=
      updateSenderDomainStatusForScope_returns domainID env.random env.tokenTime status env.checkedAt
    rcases hupdated : updateSenderDomainStatusForScope mid scope domainID env.random env.tokenTime
      status env.checkedAt with ⟨e | updated, after⟩
    · rw [hupdated] at hupdate
      exact ⟨hrequire.moved.trans hupdate.moved, fun row checks h => by cases h⟩
    · rw [hupdated] at hupdate
      refine ⟨hrequire.moved.trans hupdate.moved, fun row checks h => ?_⟩
      cases h
      exact hupdate.stored updated rfl

/-! ## Identity rows -/

theorem mem_forwardRecipientRecords {id : GoString} {recipients : List Address} {now : Int}
    {recipient : ForwardRecipient} : recipient ∈ forwardRecipientRecords id recipients now ↔
      ∃ address ∈ recipients, recipient = ⟨id, address.value, now, now⟩ := by
  rw [forwardRecipientRecords, List.mem_insertionSort, List.mem_map]
  simp only [eq_comm]

theorem mem_addedRecipients {id : GoString} {recipients : List Address} {now : Int}
    {recipient : ForwardRecipient} (hid : recipient.identityID ≠ id) :
    recipient ∈ store.recipients ↔
      recipient ∈ store.recipients ++ forwardRecipientRecords id recipients now := by
  rw [List.mem_append]
  constructor
  · exact .inl
  · rintro (hmem | hmem)
    · exact hmem
    · obtain ⟨address, -, rfl⟩ := mem_forwardRecipientRecords.mp hmem
      exact absurd rfl hid

theorem mem_replacedRecipients {id : GoString} {recipients : List Address}
    {now : Int} {recipient : ForwardRecipient} (hid : recipient.identityID ≠ id) :
    recipient ∈ store.recipients ↔ recipient ∈ replacedRecipients store id recipients now := by
  rw [mem_addedRecipients hid, replacedRecipients, List.mem_append, List.mem_append,
    List.mem_filter, bne_iff_ne, and_iff_left hid]

theorem createFind_address {address : Address} {existing : Identity}
    (hne : address.value ≠ []) (h : createFind store address = .ok (some existing)) :
    existing ∈ store.identities.rows ∧ existing.emailAddress = address.value := by
  unfold createFind at h
  split at h
  · cases h
  · rename_i found hfirst
    split at h
    · cases h
    · cases h
      obtain ⟨hmem, hfound⟩ := Table.first_some hfirst
      simp only [matchesField, Bool.or_eq_true, decide_eq_true_eq] at hfound
      exact ⟨hmem, hfound.resolve_left hne⟩

/-- A field of the row with a record's id. -/
theorem field_of_id {β : Type} (field : Identity → β) {record : Identity} {id : GoString}
    {value : β} (hrecord : record ∈ store.identities.rows) (hid : id = record.id)
    (hvalue : field record = value) :
    ∀ old ∈ store.identities.rows, old.id = id → field old = value := by
  intro old hold hold'
  rw [Table.eq_of_key hold hrecord (hold'.trans hid)]
  exact hvalue

/-- What a request can do. -/
inductive RequestEffect (crypto : Crypto) (scope : AccessScope) (store : Store) :
    ScopedRequest → ScopedAnswer → Store → Prop where
  | failed {request : ScopedRequest} {store' : Store} (e : IdentityError)
      (hmoved : DomainsMoved scope store store') :
      RequestEffect crypto scope store request (.failed e) store'
  | domain {request : ScopedRequest} {row : SenderDomain} {checks : List DNSCheck} {store' : Store}
      (hrequest : request.OnDomains) (hmoved : DomainsMoved scope store store')
      (hrow : row ∈ store'.domains.rows) (hreaches : scope.reaches row.ownerEmail) :
      RequestEffect crypto scope store request (.domain row checks) store'
  | created {address recipients draw random now} {store' : Store}
      (hcheck : createCheck store scope address recipients = .ok ())
      (hfind : createFind store address = .ok none)
      (hfresh : store.identities.get (uuidNewString random) = none)
      (hwrote : Wrote store store' (newRow scope address (crypto.newCredential draw) random now)
        (store.recipients ++ forwardRecipientRecords (uuidNewString random) recipients now)) :
      RequestEffect crypto scope store (.create address recipients (some draw) random now)
        (.credentials (publicIdentity (newRow scope address (crypto.newCredential draw) random now)
          (forwardRecipientRecords (uuidNewString random) recipients now))
          (crypto.newCredential draw).password) store'
  | reactivated {address recipients draw random now existing} {store' : Store}
      (hcheck : createCheck store scope address recipients = .ok ())
      (hfind : createFind store address = .ok (some existing))
      (hwrote : Wrote store store' (reactivatedRow scope (crypto.newCredential draw) now existing)
        (replacedRecipients store existing.id recipients now)) :
      RequestEffect crypto scope store (.create address recipients (some draw) random now)
        (.credentials (publicIdentity (reactivatedRow scope (crypto.newCredential draw) now existing)
          (forwardRecipientRecords existing.id recipients now))
          (crypto.newCredential draw).password) store'
  | updated {identityID recipients now record recordAddress} {store' : Store}
      (hread : requireIdentityForScope store scope identityID = .ok record)
      (haddress : newAddress record.emailAddress = .ok recordAddress)
      (hself : validateForwardRecipientTarget recordAddress recipients = .ok ())
      (hwrote : Wrote store store' { record with updatedAt := now }
        (replacedRecipients store record.id recipients now)) :
      RequestEffect crypto scope store (.updateForwarding identityID recipients now)
        (.identity (publicIdentity { record with updatedAt := now }
          (forwardRecipientRecords record.id recipients now))) store'
  | rotated {identityID draw now record} {store' : Store}
      (hread : requireIdentityForScope store scope identityID = .ok record)
      (hwrote : Wrote store store' (rotatedRow (crypto.newCredential draw) now record)
        store.recipients) :
      RequestEffect crypto scope store (.rotate identityID (some draw) now)
        (.credentials (publicIdentity (rotatedRow (crypto.newCredential draw) now record) [])
          (crypto.newCredential draw).password) store'
  | deleted {identityID now record} {store' : Store}
      (hread : requireIdentityForScope store scope identityID = .ok record)
      (hwrote : Wrote store store' (deletedRow now record) store.recipients) :
      RequestEffect crypto scope store (.delete identityID now) .deleted store'
  | read {identityID record password}
      (hread : requireIdentityForScope store scope identityID = .ok record) :
      RequestEffect crypto scope store (.credentials identityID)
        (.credentials (publicIdentity record []) password) store
  | list : RequestEffect crypto scope store .list (.identities (listForScope store scope)) store

theorem createSave_wrote {address : Address} {recipients : List Address} {draw : CredentialDraw}
    {random : GoString} {now : Int} {existing : Option Identity}
    (hcheck : createCheck store scope address recipients = .ok ())
    (hfind : createFind store address = .ok existing) :
    let result := createSave store scope address recipients (crypto.newCredential draw) random now
      existing
    RequestEffect crypto scope store (.create address recipients (some draw) random now)
      result.1.answer result.2 := by
  simp only
  generalize hresult : createSave store scope address recipients (crypto.newCredential draw) random
    now existing = result
  cases createSave_created hresult with
  | failed e => exact .failed e (DomainsMoved.refl scope store)
  | created hfresh hwrote => exact .created hcheck hfind hfresh hwrote
  | reactivated hwrote => exact .reactivated hcheck hfind hwrote

theorem updateForwardingForScope_effect (identityID : GoString) (recipients : List Address)
    (now : Int) : RequestEffect crypto scope store (.updateForwarding identityID recipients now)
      (ScopedRequest.run crypto scope store (.updateForwarding identityID recipients now)).1
      (ScopedRequest.run crypto scope store (.updateForwarding identityID recipients now)).2 := by
  have hnothing := DomainsMoved.refl scope store
  simp only [ScopedRequest.run, updateForwardingForScope]
  cases validateForwardRecipients recipients with
  | error e => exact .failed e hnothing
  | ok u =>
    cases hread : requireIdentityForScope store scope identityID with
    | error e => exact .failed e hnothing
    | ok record =>
      simp only
      cases haddress : newAddress record.emailAddress with
      | error e => exact .failed _ hnothing
      | ok recordAddress =>
        simp only
        cases hself : validateForwardRecipientTarget recordAddress recipients with
        | error e => exact .failed e hnothing
        | ok u =>
          simp only
          cases hadd : (store.dropRecipients record.id).addRecipients
              (forwardRecipientRecords record.id recipients now) with
          | error e => exact .failed e hnothing
          | ok written =>
            simp only
            cases hsave : written.save { record with updatedAt := now } with
            | error e => exact .failed e hnothing
            | ok stored =>
              obtain ⟨hidentities, hdomains⟩ := Store.addRecipients_tables hadd
              have hwrote := wrote_save hsave
              refine .updated hread haddress hself ⟨?_, ?_, ?_⟩
              · rw [hwrote.identities, hidentities]
                rfl
              · exact hwrote.domains.trans hdomains
              · rw [hwrote.recipients, Store.addRecipients_recipients hadd]
                rfl

/-- **Requests do nothing else.** -/
theorem run_effect (crypto : Crypto) (scope : AccessScope) (store : Store)
    (request : ScopedRequest) : RequestEffect crypto scope store request
      (request.run crypto scope store).1 (request.run crypto scope store).2 := by
  have hnothing := DomainsMoved.refl scope store
  cases request with
  | createSenderDomain domain random now =>
    have hreturns : ReturnsRow scope store
        (createSenderDomainForScope store scope domain random now) :=
      createSenderDomainForScope_returns domain random now
    simp only [ScopedRequest.run]
    rcases hresult : createSenderDomainForScope store scope domain random now with ⟨e | row, after⟩
    · rw [hresult] at hreturns
      exact .failed e hreturns.moved
    · rw [hresult] at hreturns
      obtain ⟨hrow, hreaches⟩ := hreturns.stored row rfl
      exact .domain trivial hreturns.moved hrow hreaches
  | checkSenderDomainDNS domainID env =>
    obtain ⟨hmoved, hstored⟩ := @checkSenderDomainDNS_returns scope store domainID env
    simp only [ScopedRequest.run]
    rcases hresult : checkSenderDomainDNS store scope domainID env with ⟨e | ⟨row, checks⟩, after⟩
    · rw [hresult] at hmoved
      exact .failed e hmoved
    · rw [hresult] at hmoved hstored
      obtain ⟨hrow, hreaches⟩ := hstored row checks rfl
      exact .domain trivial hmoved hrow hreaches
  | create address recipients draw random now =>
    simp only [ScopedRequest.run, perform]
    cases hcheck : createCheck store scope address recipients with
    | error e => exact .failed e hnothing
    | ok u =>
      cases hfind : createFind store address with
      | error e => exact .failed e hnothing
      | ok existing =>
        cases draw with
        | none => exact .failed .random hnothing
        | some draw => exact createSave_wrote hcheck hfind
  | updateForwarding identityID recipients now =>
    exact updateForwardingForScope_effect identityID recipients now
  | rotate identityID draw now =>
    simp only [ScopedRequest.run, perform]
    cases hread : requireIdentityForScope store scope identityID with
    | error e => exact .failed e hnothing
    | ok record =>
      cases draw with
      | none => exact .failed .random hnothing
      | some draw =>
        simp only [rotateSave]
        cases hsave : store.save (rotatedRow (crypto.newCredential draw) now record) with
        | error e => exact .failed e hnothing
        | ok store' => exact .rotated hread (wrote_save hsave)
  | delete identityID now =>
    simp only [ScopedRequest.run, perform]
    cases hread : requireIdentityForScope store scope identityID with
    | error e => exact .failed e hnothing
    | ok record =>
      simp only [deleteSave]
      cases hsave : store.save (deletedRow now record) with
      | error e => exact .failed e hnothing
      | ok store' => exact .deleted hread (wrote_save hsave)
  | credentials identityID =>
    simp only [ScopedRequest.run, credentialsForScope]
    cases hread : requireIdentityForScope store scope identityID with
    | error e => exact .failed e hnothing
    | ok record =>
      simp only
      cases crypto.decryptPassword record.passwordCipher with
      | none => exact .failed _ hnothing
      | some password => exact .read hread
  | list => exact .list

theorem run_updateForwarding_store (crypto : Crypto) (scope : AccessScope) (store : Store)
    (identityID : GoString) (recipients : List Address) (now : Int) :
    (ScopedRequest.run crypto scope store (.updateForwarding identityID recipients now)).2 =
      (updateForwardingForScope store scope identityID recipients now).2 := by
  simp only [ScopedRequest.run]
  split
  · rename_i hresult
    rw [hresult]
  · rename_i hresult
    rw [hresult]

end Pinguin.SmtpIdentity
