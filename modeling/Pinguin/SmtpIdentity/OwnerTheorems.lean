/-
Pinguin.SmtpIdentity.OwnerTheorems — an owner reaches its own rows only.

Requests that do not overlap, from an empty store, under any mix of scopes.
The invariant links the two tables: an identity, active or deleted, has the
owner of the row of its domain. It is kept because no request changes the
owner of a domain row, and because a row without an owner, which an
administrator could use for any identity, is never made.
-/
import Pinguin.SmtpIdentity.AuthTheorems
import Pinguin.SmtpIdentity.Requests

namespace Pinguin.SmtpIdentity

open Pinguin.Go Pinguin.Lib

/-! ## Runs -/

/-- The owner's email is not blank, and an address is one `NewAddress`
made. -/
structure ScopedCall.WellFormed (call : ScopedCall) : Prop where
  owner : trimSpace call.scope.ownerEmail ≠ []
  address : call.request.MadeAddress

/-- The name under which the domain of an address is looked up. -/
def senderDomainOf (emailAddress : GoString) : GoString :=
  toLower (trimSpace (domainOf emailAddress))

/-- A creation that succeeded: the address, and the row its domain had. -/
structure Creation where
  emailAddress : GoString
  domain : SenderDomain
deriving DecidableEq, Repr

/-- The store, and the creations so far, which are no part of the program. -/
structure OwnerState where
  store : Store
  creations : List Creation

def OwnerState.empty : OwnerState := ⟨Store.empty, []⟩

/-- The creation a request made, if it did. -/
def creationOf (store : Store) : ScopedRequest → ScopedAnswer → List Creation
  | .create address .., .credentials .. =>
    (store.domains.first (·.domain = senderDomainOf address.value)).toList.map
      (⟨address.value, ·⟩)
  | _, _ => []

/-- Requests one after another. -/
def ownerStep (crypto : Crypto) (s : OwnerState) (call : ScopedCall) : Option OwnerState :=
  let (answer, store) := call.request.run crypto call.scope s.store
  some ⟨store, s.creations ++ creationOf s.store call.request answer⟩

/-! ## The property -/

/-- The row of the domain of an address belongs to the owner. -/
def OwnsDomain (store : Store) (emailAddress ownerEmail : GoString) : Prop :=
  ∃ domain ∈ store.domains.rows, domain.domain = senderDomainOf emailAddress ∧
    domain.ownerEmail = ownerEmail

/-- Only rows of the owner were changed, removed or added. -/
structure TouchesOnly (ownerEmail : GoString) (store store' : Store) : Prop where
  identities : ∀ row : Identity, row.ownerEmail ≠ ownerEmail →
    (row ∈ store.identities.rows ↔ row ∈ store'.identities.rows)
  domains : ∀ row : SenderDomain, row.ownerEmail ≠ ownerEmail →
    (row ∈ store.domains.rows ↔ row ∈ store'.domains.rows)
  recipients : ∀ recipient : ForwardRecipient,
    (recipient ∈ store.recipients ↔ recipient ∈ store'.recipients) ∨
      ∃ row ∈ store'.identities.rows, row.id = recipient.identityID ∧ row.ownerEmail = ownerEmail

/-- A public identity is that of a row of the owner. -/
def OfOwner (ownerEmail : GoString) (store : Store) (identity : PublicIdentity) : Prop :=
  ∃ row ∈ store.identities.rows, row.ownerEmail = ownerEmail ∧
    ∃ recipients, identity = publicIdentity row recipients

/-- Only rows of the owner are returned. -/
def ReturnsOnly (ownerEmail : GoString) (store : Store) : ScopedAnswer → Prop
  | .domain row _ => row ∈ store.domains.rows ∧ row.ownerEmail = ownerEmail
  | .credentials identity _ => OfOwner ownerEmail store identity
  | .identity identity => OfOwner ownerEmail store identity
  | .identities identities => ∀ identity ∈ identities, OfOwner ownerEmail store identity
  | .deleted => True
  | .failed _ => True

/-! ## The invariant -/

/-- What holds in every state of a run. -/
structure OwnerInv (s : OwnerState) : Prop where
  owners : ∀ domain ∈ s.store.domains.rows, domain.ownerEmail ≠ []
  owned : ∀ row ∈ s.store.identities.rows, OwnsDomain s.store row.emailAddress row.ownerEmail
  created : ∀ row ∈ s.store.identities.rows, ∃ creation ∈ s.creations,
    creation.emailAddress = row.emailAddress ∧
      creation.domain.ownerEmail = row.ownerEmail
  verified : ∀ creation ∈ s.creations, creation.domain.status = .verified ∧
    creation.domain.domain = senderDomainOf creation.emailAddress

variable {crypto : Crypto} {s : OwnerState} {scope : AccessScope} {store' : Store}

theorem senderDomainOf_value {raw : GoString} {address : Address}
    (h : newAddress raw = .ok address) :
    senderDomainOf address.value = toLower (trimSpace address.domain) := by
  obtain ⟨localPart, hcut⟩ := newAddress_cut h
  rw [senderDomainOf, domainOf, hcut]

/-- The domain that a creation is allowed by is a verified one of the scope:
there are no rows without an owner. -/
theorem OwnerInv.createCheck_domain (h : OwnerInv s) {raw : GoString} {address : Address}
    {recipients : List Address} (haddress : newAddress raw = .ok address)
    (hcheck : createCheck s.store scope address recipients = .ok ()) :
    ∃ domain ∈ s.store.domains.rows, domain.domain = senderDomainOf address.value ∧
      domain.ownerEmail = normalizeOwnerEmail scope.ownerEmail ∧ domain.status = .verified := by
  have hrequire := SmtpIdentity.createCheck_domain hcheck
  simp only [requireSenderDomainForScope] at hrequire
  split at hrequire
  · cases hrequire
  · rename_i domain hfirst
    obtain ⟨hmem, hfound⟩ := Table.first_some hfirst
    simp only [SenderDomain.verifiedFor, SenderDomain.shared, Bool.and_eq_true, Bool.or_eq_true,
      decide_eq_true_eq] at hfound
    obtain ⟨hdomain, ⟨howner, hverified⟩ | ⟨-, hblank, -⟩⟩ := hfound
    · exact ⟨domain, hmem, hdomain.trans (senderDomainOf_value haddress).symm, howner, hverified⟩
    · exact absurd hblank (h.owners domain hmem)

/-- Two owners of the domain of an address are one. -/
theorem OwnsDomain.unique {store : Store} {emailAddress owner owner' : GoString}
    (h : OwnsDomain store emailAddress owner) (h' : OwnsDomain store emailAddress owner') :
    owner = owner' := by
  obtain ⟨domain, hmem, hdomain, rfl⟩ := h
  obtain ⟨domain', hmem', hdomain', rfl⟩ := h'
  rw [Table.eq_of_key hmem hmem'
    (store.domainIndex domain hmem domain' hmem' (hdomain.trans hdomain'.symm))]

/-! ## What a request keeps -/

theorem OwnsDomain.moved {store store' : Store} {emailAddress owner : GoString}
    (h : OwnsDomain store emailAddress owner) (hmoved : DomainsMoved scope store store') :
    OwnsDomain store' emailAddress owner := by
  obtain ⟨domain, hmem, hdomain, howner⟩ := h
  obtain ⟨domain', hmem', -, hdomain', howner', -⟩ := hmoved.kept domain hmem
  exact ⟨domain', hmem', hdomain'.trans hdomain, howner'.trans howner⟩

theorem OwnerInv.moved (h : OwnerInv s) (howner : trimSpace scope.ownerEmail ≠ [])
    (hmoved : DomainsMoved scope s.store store') : OwnerInv ⟨store', s.creations⟩ := by
  constructor
  case owners =>
    intro domain hmem
    rcases hmoved.came domain hmem with hold | ⟨-, hnew | ⟨old, hold, hsame⟩⟩
    · exact h.owners domain hold
    · rw [hnew]
      exact normalizeOwnerEmail_ne_nil howner
    · rw [← hsame]
      exact h.owners old hold
  case owned =>
    intro row hrow
    rw [hmoved.identities] at hrow
    exact (h.owned row hrow).moved hmoved
  case created =>
    intro row hrow
    rw [hmoved.identities] at hrow
    exact h.created row hrow
  case verified => exact h.verified

theorem OwnerInv.wrote (h : OwnerInv s) {row : Identity} {recipients : List ForwardRecipient}
    {more : List Creation} (hwrote : Wrote s.store store' row recipients)
    (howned : OwnsDomain s.store row.emailAddress row.ownerEmail)
    (hcreated : ∃ creation ∈ s.creations ++ more, creation.emailAddress = row.emailAddress ∧
      creation.domain.ownerEmail = row.ownerEmail)
    (hverified : ∀ creation ∈ more, creation.domain.status = .verified ∧
      creation.domain.domain = senderDomainOf creation.emailAddress) :
    OwnerInv ⟨store', s.creations ++ more⟩ := by
  have hrows : ∀ other ∈ store'.identities.rows, other ∈ s.store.identities.rows ∨ other = row := by
    intro other hother
    rw [hwrote.identities] at hother
    rcases Table.mem_put.mp hother with ⟨hold, -⟩ | rfl
    · exact .inl hold
    · exact .inr rfl
  have hdomains : ∀ {emailAddress owner}, OwnsDomain s.store emailAddress owner →
      OwnsDomain store' emailAddress owner := by
    intro emailAddress owner howns
    rw [OwnsDomain, hwrote.domains]
    exact howns
  constructor
  case owners =>
    intro domain hmem
    rw [hwrote.domains] at hmem
    exact h.owners domain hmem
  case owned =>
    intro other hother
    rcases hrows other hother with hold | rfl
    · exact hdomains (h.owned other hold)
    · exact hdomains howned
  case created =>
    intro other hother
    rcases hrows other hother with hold | rfl
    · obtain ⟨creation, hmem, hcreation⟩ := h.created other hold
      exact ⟨creation, List.mem_append_left _ hmem, hcreation⟩
    · exact hcreated
  case verified =>
    intro creation hmem
    rcases List.mem_append.mp hmem with hold | hnew
    · exact h.verified creation hold
    · exact hverified creation hnew

/-- A row that keeps its address and owner. -/
theorem OwnerInv.rewrote (h : OwnerInv s) {record row : Identity}
    {recipients : List ForwardRecipient} (hrecord : record ∈ s.store.identities.rows)
    (hwrote : Wrote s.store store' row recipients) (haddress : row.emailAddress = record.emailAddress)
    (howner : row.ownerEmail = record.ownerEmail) : OwnerInv ⟨store', s.creations ++ []⟩ := by
  refine h.wrote hwrote ?_ ?_ (by simp)
  · rw [haddress, howner]
    exact h.owned record hrecord
  · rw [haddress, howner, List.append_nil]
    exact h.created record hrecord

/-- A creation, which is recorded with the domain it was allowed by. -/
theorem OwnerInv.creation (h : OwnerInv s) {raw : GoString} {address : Address}
    {recipients : List Address} (haddress : newAddress raw = .ok address)
    (hcheck : createCheck s.store scope address recipients = .ok ()) {row : Identity}
    {records : List ForwardRecipient} (hwrote : Wrote s.store store' row records)
    (hrow : row.emailAddress = address.value)
    (howner : row.ownerEmail = normalizeOwnerEmail scope.ownerEmail) :
    OwnerInv ⟨store', s.creations ++
      (s.store.domains.first (·.domain = senderDomainOf address.value)).toList.map
        (⟨address.value, ·⟩)⟩ := by
  obtain ⟨domain, hmem, hdomain, hown, hverified⟩ := h.createCheck_domain haddress hcheck
  have hfirst : s.store.domains.first (·.domain = senderDomainOf address.value) = some domain := by
    refine Table.first_unique hmem (by simpa using hdomain) fun other hother hsame => ?_
    exact Table.eq_of_key hother hmem (s.store.domainIndex other hother domain hmem
      ((of_decide_eq_true hsame).trans hdomain.symm))
  rw [hfirst, Option.toList_some, List.map_singleton]
  refine h.wrote hwrote ?_ ?_ ?_
  · rw [hrow, howner]
    exact ⟨domain, hmem, hdomain, hown⟩
  · exact ⟨_, List.mem_append_right _ (List.mem_singleton_self _), hrow.symm, hown.trans howner.symm⟩
  · intro creation hcreation
    rw [List.mem_singleton] at hcreation
    rw [hcreation]
    exact ⟨hverified, hdomain⟩

/-- **Step lemma.** -/
theorem OwnerInv.step (h : OwnerInv s) (call : ScopedCall) (hcall : call.WellFormed)
    {s' : OwnerState} (hstep : ownerStep crypto s call = some s') : OwnerInv s' := by
  have heffect := run_effect crypto call.scope s.store call.request
  have haddress := hcall.address
  rw [ownerStep, Option.some.injEq] at hstep
  rw [← hstep]
  generalize call.request = request at heffect haddress ⊢
  generalize request.run crypto call.scope s.store = result at heffect ⊢
  obtain ⟨answer, store'⟩ := result
  cases heffect with
  | failed e hmoved =>
    simpa [creationOf] using h.moved hcall.owner hmoved
  | domain hrequest hmoved hrow hreaches =>
    simpa [creationOf] using h.moved hcall.owner hmoved
  | created hcheck hfind hfresh hwrote =>
    obtain ⟨raw, hraw⟩ := haddress
    exact h.creation hraw hcheck hwrote rfl rfl
  | reactivated hcheck hfind hwrote =>
    obtain ⟨raw, hraw⟩ := haddress
    exact h.creation hraw hcheck hwrote
      (createFind_address (newAddress_value_ne_nil hraw) hfind).2 rfl
  | updated hread haddress hself hwrote =>
    exact h.rewrote (requireIdentityForScope_ok hread).1 hwrote rfl rfl
  | rotated hread hwrote => exact h.rewrote (requireIdentityForScope_ok hread).1 hwrote rfl rfl
  | deleted hread hwrote => exact h.rewrote (requireIdentityForScope_ok hread).1 hwrote rfl rfl
  | read hread => simpa [creationOf] using h
  | list => simpa [creationOf] using h

/-! ## What a request without administrator access reaches -/

theorem AccessScope.reaches_own (hscope : scope.admin = false) {owner : GoString}
    (h : scope.reaches owner) : owner = normalizeOwnerEmail scope.ownerEmail :=
  h.resolve_left (by simp [hscope])

theorem requireIdentityForScope_own {store : Store} (hscope : scope.admin = false)
    {identityID : GoString} {record : Identity}
    (h : requireIdentityForScope store scope identityID = .ok record) :
    record ∈ store.identities.rows ∧
      record.ownerEmail = normalizeOwnerEmail scope.ownerEmail := by
  obtain ⟨hmem, -, hallows, -⟩ := requireIdentityForScope_ok h
  exact ⟨hmem, by simpa [AccessScope.allows, hscope] using hallows⟩

theorem touchesOnly_moved {store : Store} (hscope : scope.admin = false)
    (hmoved : DomainsMoved scope store store') :
    TouchesOnly (normalizeOwnerEmail scope.ownerEmail) store store' := by
  constructor
  case identities =>
    intro row _
    rw [hmoved.identities]
  case recipients =>
    intro recipient
    rw [hmoved.recipients]
    exact .inl Iff.rfl
  case domains =>
    intro row hother
    constructor
    · intro hmem
      obtain ⟨row', hmem', -, -, -, rfl | hreaches⟩ := hmoved.kept row hmem
      · exact hmem'
      · exact absurd (AccessScope.reaches_own hscope hreaches) hother
    · intro hmem
      rcases hmoved.came row hmem with hold | ⟨hreaches, -⟩
      · exact hold
      · exact absurd (AccessScope.reaches_own hscope hreaches) hother

theorem touchesOnly_wrote {store : Store} {owner : GoString} {row : Identity}
    {recipients : List ForwardRecipient} (hwrote : Wrote store store' row recipients)
    (hrow : row.ownerEmail = owner)
    (hold : ∀ old ∈ store.identities.rows, old.id = row.id → old.ownerEmail = owner)
    (hothers : ∀ recipient : ForwardRecipient, recipient.identityID ≠ row.id →
      (recipient ∈ store.recipients ↔ recipient ∈ recipients)) :
    TouchesOnly owner store store' := by
  constructor
  case identities =>
    intro other hother
    rw [hwrote.identities, Table.mem_put]
    constructor
    · exact fun hmem => .inl ⟨hmem, fun hid => hother (hold other hmem hid)⟩
    · rintro (⟨hmem, -⟩ | rfl)
      · exact hmem
      · exact absurd hrow hother
  case domains =>
    intro other _
    rw [hwrote.domains]
  case recipients =>
    intro recipient
    by_cases hid : recipient.identityID = row.id
    · exact .inr ⟨row, hwrote.mem, hid.symm, hrow⟩
    · rw [hwrote.recipients]
      exact .inl (hothers recipient hid)

/-- **Request lemma.** -/
theorem OwnerInv.run_own (h : OwnerInv s) (crypto : Crypto) (call : ScopedCall)
    (hcall : call.WellFormed) (hscope : call.scope.admin = false) :
    TouchesOnly (normalizeOwnerEmail call.scope.ownerEmail) s.store
        (call.request.run crypto call.scope s.store).2 ∧
      ReturnsOnly (normalizeOwnerEmail call.scope.ownerEmail)
        (call.request.run crypto call.scope s.store).2
        (call.request.run crypto call.scope s.store).1 := by
  have heffect := run_effect crypto call.scope s.store call.request
  have haddress := hcall.address
  have hnothing := touchesOnly_moved hscope (DomainsMoved.refl call.scope s.store)
  generalize call.request = request at heffect haddress ⊢
  generalize (request.run crypto call.scope s.store).1 = answer at heffect ⊢
  generalize (request.run crypto call.scope s.store).2 = store' at heffect ⊢
  cases heffect with
  | failed e hmoved => exact ⟨touchesOnly_moved hscope hmoved, trivial⟩
  | domain hrequest hmoved hrow hreaches =>
    exact ⟨touchesOnly_moved hscope hmoved, hrow, AccessScope.reaches_own hscope hreaches⟩
  | created hcheck hfind hfresh hwrote =>
    refine ⟨touchesOnly_wrote hwrote rfl ?_ ?_, _, hwrote.mem, rfl, _, rfl⟩
    · exact fun old hmem hid => absurd hid (Table.get_none.mp hfresh old hmem)
    · exact fun recipient hid => mem_addedRecipients hid
  | reactivated hcheck hfind hwrote =>
    -- The deleted row belongs to the owner of its domain, which is the scope.
    obtain ⟨raw, hraw⟩ := haddress
    obtain ⟨hmem, hsame⟩ := createFind_address (newAddress_value_ne_nil hraw) hfind
    obtain ⟨domain, hdomain, hname, hown, -⟩ := h.createCheck_domain hraw hcheck
    have howner := (h.owned _ hmem).unique ⟨domain, hdomain, hsame ▸ hname, hown⟩
    exact ⟨touchesOnly_wrote hwrote rfl (field_of_id Identity.ownerEmail hmem rfl howner)
      fun recipient hid => mem_replacedRecipients hid, _, hwrote.mem, rfl, _, rfl⟩
  | updated hread haddress hself hwrote =>
    obtain ⟨hmem, howner⟩ := requireIdentityForScope_own hscope hread
    exact ⟨touchesOnly_wrote hwrote howner (field_of_id Identity.ownerEmail hmem rfl howner)
      fun recipient hid => mem_replacedRecipients hid, _, hwrote.mem, howner, _, rfl⟩
  | rotated hread hwrote =>
    obtain ⟨hmem, howner⟩ := requireIdentityForScope_own hscope hread
    exact ⟨touchesOnly_wrote hwrote howner (field_of_id Identity.ownerEmail hmem rfl howner)
      fun _ _ => Iff.rfl, _, hwrote.mem, howner, _, rfl⟩
  | deleted hread hwrote =>
    obtain ⟨hmem, howner⟩ := requireIdentityForScope_own hscope hread
    exact ⟨touchesOnly_wrote hwrote howner (field_of_id Identity.ownerEmail hmem rfl howner)
      fun _ _ => Iff.rfl, trivial⟩
  | read hread =>
    obtain ⟨hmem, howner⟩ := requireIdentityForScope_own hscope hread
    exact ⟨hnothing, _, hmem, howner, _, rfl⟩
  | list =>
    refine ⟨hnothing, fun identity hidentity => ?_⟩
    obtain ⟨row, hrow, rfl⟩ := List.mem_map.mp hidentity
    rw [List.mem_insertionSort, Table.select, List.mem_filter, hscope] at hrow
    simp only [Bool.false_or, Bool.and_eq_true, decide_eq_true_eq] at hrow
    exact ⟨row, hrow.1, hrow.2.2, _, rfl⟩

/-! ## The result -/

theorem run_domains (crypto : Crypto) (scope : AccessScope) (store : Store)
    (request : ScopedRequest) : ∀ domain ∈ store.domains.rows,
      ∃ domain' ∈ (request.run crypto scope store).2.domains.rows, domain'.id = domain.id ∧
        domain'.domain = domain.domain ∧ domain'.ownerEmail = domain.ownerEmail := by
  have heffect := run_effect crypto scope store request
  generalize (request.run crypto scope store).1 = answer at heffect
  generalize (request.run crypto scope store).2 = store' at heffect ⊢
  have hmoved : DomainsMoved scope store store' ∨ store'.domains = store.domains := by
    cases heffect with
    | failed e hmoved => exact .inl hmoved
    | domain hrequest hmoved hrow hreaches => exact .inl hmoved
    | created hcheck hfind hfresh hwrote => exact .inr hwrote.domains
    | reactivated hcheck hfind hwrote => exact .inr hwrote.domains
    | updated hread haddress hself hwrote => exact .inr hwrote.domains
    | rotated hread hwrote => exact .inr hwrote.domains
    | deleted hread hwrote => exact .inr hwrote.domains
    | read hread => exact .inr rfl
    | list => exact .inr rfl
  intro domain hmem
  rcases hmoved with hmoved | hsame
  · obtain ⟨domain', hmem', hid, hdomain, howner, -⟩ := hmoved.kept domain hmem
    exact ⟨domain', hmem', hid, hdomain, howner⟩
  · exact ⟨domain, hsame ▸ hmem, rfl, rfl, rfl⟩

theorem ownerInv_empty : OwnerInv OwnerState.empty := by
  constructor
  all_goals exact fun _ h => absurd h List.not_mem_nil

/-- **SMTP owner isolation.** After any requests that do not overlap, from
an empty store: every identity has the owner of its domain; the next request
changes the owner of no domain; without administrator access it touches and
returns rows of its own owner only; and the credentials it gets are for an
address whose domain it owns, and whose domain was verified when the address
was created. -/
theorem smtp_owner_isolation (crypto : Crypto) (calls : List ScopedCall) (s : OwnerState)
    (hcalls : ∀ call ∈ calls, call.WellFormed)
    (hrun : exec (ownerStep crypto) OwnerState.empty calls = some s)
    (call : ScopedCall) (hcall : call.WellFormed) (s' : OwnerState)
    (hstep : ownerStep crypto s call = some s') :
    (∀ row ∈ s.store.identities.rows, OwnsDomain s.store row.emailAddress row.ownerEmail) ∧
    (∀ domain ∈ s.store.domains.rows, ∃ domain' ∈ s'.store.domains.rows,
      domain'.id = domain.id ∧ domain'.domain = domain.domain ∧
        domain'.ownerEmail = domain.ownerEmail) ∧
    (call.scope.admin = false →
      TouchesOnly (normalizeOwnerEmail call.scope.ownerEmail) s.store s'.store ∧
      ReturnsOnly (normalizeOwnerEmail call.scope.ownerEmail) s'.store
        (call.request.run crypto call.scope s.store).1 ∧
      ∀ identity password,
        (call.request.run crypto call.scope s.store).1 = .credentials identity password →
        OwnsDomain s'.store identity.emailAddress (normalizeOwnerEmail call.scope.ownerEmail) ∧
        ∃ creation ∈ s'.creations, creation.emailAddress = identity.emailAddress ∧
          creation.domain.domain = senderDomainOf identity.emailAddress ∧
          creation.domain.ownerEmail = normalizeOwnerEmail call.scope.ownerEmail ∧
          creation.domain.status = .verified) := by
  have hinv : OwnerInv s :=
    exec_guarded_invariant (fun _ op _ hop h => h.step op hop) calls _ s
      (guarded_of_forall calls _ hcalls) ownerInv_empty hrun
  have hinv' : OwnerInv s' := hinv.step call hcall hstep
  have hstore : s'.store = (call.request.run crypto call.scope s.store).2 := by
    rw [ownerStep, Option.some.injEq] at hstep
    rw [← hstep]
  refine ⟨hinv.owned, ?_, fun hscope => ?_⟩
  · rw [hstore]
    exact run_domains crypto call.scope s.store call.request
  · obtain ⟨htouches, hreturns⟩ := hinv.run_own crypto call hcall hscope
    rw [← hstore] at htouches hreturns
    refine ⟨htouches, hreturns, fun identity password hanswer => ?_⟩
    rw [hanswer] at hreturns
    obtain ⟨row, hrow, howner, recipients, rfl⟩ := hreturns
    obtain ⟨creation, hcreation, haddress, hown⟩ := hinv'.created row hrow
    obtain ⟨hverified, hdomain⟩ := hinv'.verified creation hcreation
    rw [haddress] at hdomain
    exact ⟨howner ▸ hinv'.owned row hrow, creation, hcreation, haddress, hdomain,
      hown.trans howner, hverified⟩

/-- The creation of `a@x.io` by its domain's owner. -/
def exampleCreation (b : UInt8) (now : Int) : ScopedCall :=
  ⟨exampleScope, .create exampleAddress [⟨lit "b@y.io", lit "y.io"⟩] (some (exampleDraw b))
    (List.replicate 16 0) now⟩

/-- A domain is registered and verified, an identity created and deleted. -/
def exampleCalls : List ScopedCall :=
  [⟨exampleScope, .createSenderDomain (lit "X.io.") (some (List.replicate 24 0)) 1⟩,
    ⟨exampleScope, .checkSenderDomainDNS 1 ⟨lit "mx.x.io", publishedDNS, none, 2, 3⟩⟩,
    exampleCreation 0 4,
    ⟨exampleScope, .delete (lit "00000000-0000-4000-8000-000000000000") 5⟩]

theorem exampleCreation_wellFormed (b : UInt8) (now : Int) :
    (exampleCreation b now).WellFormed := by
  have hscope : trimSpace exampleScope.ownerEmail ≠ [] := by decide
  exact ⟨hscope, lit "a@x.io", by decide⟩

theorem exampleCalls_wellFormed : ∀ call ∈ exampleCalls, call.WellFormed := by
  intro call hmem
  simp only [exampleCalls, List.mem_cons, List.not_mem_nil, or_false] at hmem
  rcases hmem with rfl | rfl | rfl | rfl
  · exact ⟨by decide, trivial⟩
  · exact ⟨by decide, trivial⟩
  · exact exampleCreation_wellFormed 0 4
  · exact ⟨by decide, trivial⟩

/-- The deleted identity is reactivated by the owner of its domain. -/
theorem smtp_owner_isolation_reactivated : ∃ s s',
    exec (ownerStep exampleCrypto) OwnerState.empty exampleCalls = some s ∧
    ownerStep exampleCrypto s (exampleCreation 0xFF 6) = some s' ∧
    s.store.identities.rows.map (·.status) = [.deleted] ∧
    s'.store.identities.rows.map (·.status) = [.active] ∧
    TouchesOnly (normalizeOwnerEmail (lit "o@x.io")) s.store s'.store :=
  ⟨_, _, rfl, rfl, rfl, rfl, ((smtp_owner_isolation exampleCrypto exampleCalls _
    exampleCalls_wellFormed rfl (exampleCreation 0xFF 6) (exampleCreation_wellFormed 0xFF 6) _
    rfl).2.2 rfl).1⟩

end Pinguin.SmtpIdentity
