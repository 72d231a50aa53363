/-
Pinguin.SmtpIdentity.Store — the tables of package `smtpidentity`.

Identities are keyed by their id and have unique indexes on address and
user name; sender domains are keyed by number and have one on the domain. A
`Store` carries these facts, so a write has to show that it keeps them, and
a save that an index refuses is an error of the call. Forwarding recipients
are plain rows that name their identity; their own ids are not kept.
-/
import Pinguin.SmtpIdentity.Address
import Pinguin.Lib.Table

namespace Pinguin.SmtpIdentity

open Pinguin.Go Pinguin.Lib

/-! ## Rows -/

/-- `IdentityStatus`. -/
inductive IdentityStatus where
  | active
  | deleted
deriving DecidableEq, Repr

/-- `Identity`, without its forwarding recipients. -/
structure Identity where
  id : GoString
  ownerEmail : GoString
  emailAddress : GoString
  username : GoString
  passwordSalt : GoString
  passwordDigest : GoString
  passwordCipher : GoString
  status : IdentityStatus
  lastUsedAt : Option Int
  createdAt : Int
  updatedAt : Int
deriving DecidableEq, Repr

/-- `ForwardRecipient`. -/
structure ForwardRecipient where
  identityID : GoString
  emailAddress : GoString
  createdAt : Int
  updatedAt : Int
deriving DecidableEq, Repr

/-- `SenderDomainStatus`; old rows have none. -/
inductive SenderDomainStatus where
  | blank
  | pending
  | verified
deriving DecidableEq, Repr

/-- `SenderDomain`. -/
structure SenderDomain where
  id : Nat
  ownerEmail : GoString
  domain : GoString
  status : SenderDomainStatus
  verificationToken : GoString
  lastCheckedAt : Option Int
  createdAt : Int
  updatedAt : Int
deriving DecidableEq, Repr

/-- `AccessScope`. -/
structure AccessScope where
  ownerEmail : GoString
  admin : Bool
deriving DecidableEq, Repr

/-- The errors of the package, each with the text it is wrapped with. -/
inductive IdentityError where
  | authenticationFailed
  | senderDomainNotAllowed (domain : GoString)
  | identityExists
  | identityNotFound
  | forwardRecipientsRequired
  | forwardRecipientDuplicate (recipient : GoString)
  | forwardRecipientSelf (recipient : GoString)
  | storedAddress (text : GoString)
  | decryptPassword
  | random
  | uniqueConstraint
  | invalidSenderDomain (domain : GoString)
  | senderDomainExists (domain : GoString)
  | senderDomainNotFound
deriving DecidableEq, Repr

/-! ## Tables -/

structure Store where
  identities : Table Identity.id
  addressIndex : identities.UniqueIndex (·.emailAddress)
  usernameIndex : identities.UniqueIndex (·.username)
  recipients : List ForwardRecipient
  domains : Table SenderDomain.id
  domainIndex : domains.UniqueIndex (·.domain)

namespace Store

/-- The empty store. -/
def empty : Store :=
  ⟨Table.empty, Table.uniqueIndex_empty, Table.uniqueIndex_empty, [], Table.empty,
    Table.uniqueIndex_empty⟩

/-- The indexes allow to write the row. -/
def Allows (store : Store) (row : Identity) : Prop :=
  store.identities.Free (·.emailAddress) row ∧ store.identities.Free (·.username) row

instance (store : Store) (row : Identity) : Decidable (store.Allows row) :=
  inferInstanceAs (Decidable (_ ∧ _))

def write (store : Store) (row : Identity) (h : store.Allows row) : Store :=
  { store with
    identities := store.identities.put row
    addressIndex := store.addressIndex.put h.1
    usernameIndex := store.usernameIndex.put h.2 }

/-- gorm's `Save` of a whole row. -/
def save (store : Store) (row : Identity) : Except IdentityError Store :=
  if h : store.Allows row then .ok (store.write row h) else .error .uniqueConstraint

/-- gorm's `Create` of a row: its id must be new too. -/
def create (store : Store) (row : Identity) : Except IdentityError Store :=
  if (store.identities.get row.id).isSome then .error .uniqueConstraint else store.save row

/-- Delete the recipients of an identity. -/
def dropRecipients (store : Store) (identityID : GoString) : Store :=
  { store with recipients := store.recipients.filter (·.identityID != identityID) }

/-- Create a recipient, unless the index on identity and address holds it. -/
def addRecipient (store : Store) (record : ForwardRecipient) : Except IdentityError Store :=
  if store.recipients.any (fun stored =>
      stored.identityID = record.identityID && stored.emailAddress = record.emailAddress) then
    .error .uniqueConstraint
  else .ok { store with recipients := store.recipients ++ [record] }

def addRecipients (store : Store) : List ForwardRecipient → Except IdentityError Store
  | [] => .ok store
  | record :: records =>
    match store.addRecipient record with
    | .error e => .error e
    | .ok store => store.addRecipients records

/-- Write a whole domain row, if the index on the domain allows it. -/
def saveDomain (store : Store) (row : SenderDomain) : Except IdentityError Store :=
  if h : store.domains.Free (·.domain) row then
    .ok { store with domains := store.domains.put row, domainIndex := store.domainIndex.put h }
  else .error .uniqueConstraint

/-- The number the database gives the next domain. -/
def nextDomainID (store : Store) : Nat := (store.domains.rows.map (·.id)).foldl max 0 + 1

variable {store store' : Store} {row : Identity}

theorem save_ok (h : store.save row = .ok store') :
    ∃ hallows, store' = store.write row hallows := by
  unfold save at h
  split at h
  · rename_i hallows
    exact ⟨hallows, (Except.ok.inj h).symm⟩
  · cases h

theorem create_ok (h : store.create row = .ok store') :
    store.identities.get row.id = none ∧ ∃ hallows, store' = store.write row hallows := by
  unfold create at h
  split at h
  · cases h
  · rename_i hnew
    exact ⟨by simpa using hnew, save_ok h⟩

/-- A row with the address and user name of a stored one may be written over
it. -/
theorem allows_of_same {stored : Identity} (hmem : stored ∈ store.identities.rows)
    (hid : row.id = stored.id) (haddress : row.emailAddress = stored.emailAddress)
    (husername : row.username = stored.username) : store.Allows row :=
  ⟨store.addressIndex.free_of_same hmem hid haddress,
    store.usernameIndex.free_of_same hmem hid husername⟩

theorem addRecipient_tables {record : ForwardRecipient}
    (h : store.addRecipient record = .ok store') :
    store'.identities = store.identities ∧ store'.domains = store.domains := by
  unfold addRecipient at h
  split at h
  · cases h
  · cases h
    exact ⟨rfl, rfl⟩

/-- The recipients have a table of their own. -/
theorem addRecipients_tables {records : List ForwardRecipient}
    (h : store.addRecipients records = .ok store') :
    store'.identities = store.identities ∧ store'.domains = store.domains := by
  induction records generalizing store with
  | nil =>
    cases h
    exact ⟨rfl, rfl⟩
  | cons record records ih =>
    simp only [addRecipients] at h
    split at h
    · cases h
    · rename_i mid hadd
      obtain ⟨hidentities, hdomains⟩ := addRecipient_tables hadd
      obtain ⟨hidentities', hdomains'⟩ := ih h
      exact ⟨hidentities'.trans hidentities, hdomains'.trans hdomains⟩

theorem saveDomain_ok {domain : SenderDomain} (h : store.saveDomain domain = .ok store') :
    store'.identities = store.identities ∧ store'.domains = store.domains.put domain := by
  unfold saveDomain at h
  split at h
  · cases h
    exact ⟨rfl, rfl⟩
  · cases h

theorem saveDomain_recipients {domain : SenderDomain} (h : store.saveDomain domain = .ok store') :
    store'.recipients = store.recipients := by
  unfold saveDomain at h
  split at h
  · cases h
    rfl
  · cases h

theorem addRecipients_recipients {records : List ForwardRecipient}
    (h : store.addRecipients records = .ok store') :
    store'.recipients = store.recipients ++ records := by
  induction records generalizing store with
  | nil =>
    cases h
    exact (List.append_nil _).symm
  | cons record records ih =>
    simp only [addRecipients, addRecipient] at h
    split at h
    · cases h
    · rename_i mid hadd
      split at hadd
      · cases hadd
      · cases hadd
        rw [ih h, List.append_assoc]
        rfl

end Store

end Pinguin.SmtpIdentity
