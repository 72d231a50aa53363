/-
Pinguin.SmtpIdentity.AuthTheorems — the exact authentication law.

Calls that do not overlap, from an empty store: a login succeeds exactly for
the pair that was issued last for an active identity whose domain is
verified. The invariant ties every stored row to the outcomes of the calls:
the row holds the password that was issued last for its id, and its address
and owner are stored in the form they are read back in.
-/
import Pinguin.Lib.Runs
import Pinguin.SmtpIdentity.AddressTheorems
import Pinguin.SmtpIdentity.Requests

namespace Pinguin.SmtpIdentity

open Pinguin.Go Pinguin.Lib

/-! ## Runs -/

/-- One call of the repository or of the service above it. -/
inductive Operation where
  | call (call : Call)
  | updateForwardingForScope (scope : AccessScope) (identityID : GoString)
      (recipients : List Address) (now : Int)
  | createSenderDomainForScope (scope : AccessScope) (domain : GoString)
      (random : Option GoString) (now : Int)
  | checkSenderDomainDNS (scope : AccessScope) (domainID : Nat) (env : CheckEnv)

/-- The store, and what the calls on identities returned. -/
structure RunState where
  store : Store
  history : List Outcome

def RunState.empty : RunState := ⟨Store.empty, []⟩

/-- Calls one after another. -/
def operate (crypto : Crypto) (s : RunState) : Operation → Option RunState
  | .call call =>
    some ⟨(perform crypto s.store call).2, s.history ++ [(perform crypto s.store call).1]⟩
  | .updateForwardingForScope scope identityID recipients now =>
    some { s with
      store := (SmtpIdentity.updateForwardingForScope s.store scope identityID recipients now).2 }
  | .createSenderDomainForScope scope domain random now =>
    some { s with
      store := (SmtpIdentity.createSenderDomainForScope s.store scope domain random now).2 }
  | .checkSenderDomainDNS scope domainID env =>
    some { s with store := (SmtpIdentity.checkSenderDomainDNS s.store scope domainID env).2 }

/-- A new identity has an ASCII address, and an ASCII owner. -/
def Operation.OnASCII : Operation → Prop
  | .call (.createForScope scope address _ _ _ _) =>
    isASCII scope.ownerEmail = true ∧ ∃ raw, isASCII raw = true ∧ newAddress raw = .ok address
  | _ => True

/-! ## The law -/

/-- The pair a call issued for an identity. -/
def Outcome.issuedFor (id : GoString) : Outcome → Option (GoString × GoString)
  | .issued identity password =>
    if identity.id = id then some (identity.username, password) else none
  | _ => none

/-- The pair issued last for an identity. -/
def lastIssued (id : GoString) (history : List Outcome) : Option (GoString × GoString) :=
  (history.filterMap (Outcome.issuedFor id)).getLast?

/-- What follows the `@`. -/
def domainOf (emailAddress : GoString) : GoString := (cut emailAddress 0x40).2.1

/-- The domain row of the identity is verified for its owner, or belongs to
nobody and is verified or has no status. -/
def DomainVerified (store : Store) (row : Identity) : Prop :=
  ∃ domain ∈ store.domains.rows, domain.domain = domainOf row.emailAddress ∧
    (domain.verifiedFor row.ownerEmail = true ∨ domain.shared = true)

/-! ## The invariant -/

/-- What is known of a stored identity. -/
structure Sound (crypto : Crypto) (history : List Outcome) (row : Identity) : Prop where
  issued : ∃ password, lastIssued row.id history = some (row.username, password) ∧
    HoldsPassword crypto row password
  username : row.username ≠ []
  address : newAddress row.emailAddress = .ok ⟨row.emailAddress, domainOf row.emailAddress⟩
  domain : toLower (trimSpace (domainOf row.emailAddress)) = domainOf row.emailAddress
  owner : normalizeOwnerEmail row.ownerEmail = row.ownerEmail
  id : trimSpace row.id = row.id ∧ row.id ≠ []

/-- Every stored identity is sound and every domain is a DNS name. -/
structure Lawful (crypto : Crypto) (s : RunState) : Prop where
  rows : ∀ row ∈ s.store.identities.rows, Sound crypto s.history row
  domains : ∀ domain ∈ s.store.domains.rows, validDNSDomainName domain.domain = true

variable {crypto : Crypto} {s : RunState} {store store' : Store} {history : List Outcome}

theorem lastIssued_snoc (id : GoString) (history : List Outcome) (outcome : Outcome) :
    lastIssued id (history ++ [outcome]) =
      (outcome.issuedFor id).or (lastIssued id history) := by
  cases h : outcome.issuedFor id <;> simp [lastIssued, List.filterMap_append, h]

/-- Columns that a row is sound by. -/
theorem Sound.congr {history' : List Outcome} {row row' : Identity}
    (h : Sound crypto history row) (hid : row'.id = row.id)
    (howner : row'.ownerEmail = row.ownerEmail) (haddress : row'.emailAddress = row.emailAddress)
    (husername : row'.username = row.username) (hsalt : row'.passwordSalt = row.passwordSalt)
    (hdigest : row'.passwordDigest = row.passwordDigest)
    (hcipher : row'.passwordCipher = row.passwordCipher)
    (hissued : lastIssued row.id history' = lastIssued row.id history) :
    Sound crypto history' row' := by
  obtain ⟨⟨password, hlast, hholds⟩, huser, haddr, hdomain, hown, hids⟩ := h
  refine ⟨⟨password, ?_, ?_⟩, ?_, ?_, ?_, ?_, ?_⟩
  · rw [hid, husername, hissued, hlast]
  · exact ⟨hsalt ▸ hholds.salt, by rw [hdigest, hsalt, hholds.digest],
      hcipher ▸ hholds.cipher, hholds.nonblank⟩
  · rw [husername]
    exact huser
  · rw [haddress]
    exact haddr
  · rw [haddress]
    exact hdomain
  · rw [howner]
    exact hown
  · rw [hid]
    exact hids

/-- A row with a new credential is sound once it is issued. -/
theorem sound_issued {row : Identity} {draw : CredentialDraw} {identity : PublicIdentity}
    (hid : identity.id = row.id)
    (husername : row.username = (crypto.newCredential draw).username)
    (hidentity : identity.username = (crypto.newCredential draw).username)
    (hholds : HoldsPassword crypto row (crypto.newCredential draw).password)
    (haddress : newAddress row.emailAddress = .ok ⟨row.emailAddress, domainOf row.emailAddress⟩)
    (hdomain : toLower (trimSpace (domainOf row.emailAddress)) = domainOf row.emailAddress)
    (howner : normalizeOwnerEmail row.ownerEmail = row.ownerEmail)
    (hids : trimSpace row.id = row.id ∧ row.id ≠ []) :
    Sound crypto (history ++ [.issued identity (crypto.newCredential draw).password]) row := by
  refine ⟨⟨_, ?_, hholds⟩, ?_, haddress, hdomain, howner, hids⟩
  · rw [lastIssued_snoc, Outcome.issuedFor, if_pos hid, Option.some_or, husername, hidentity]
  · rw [husername]
    exact newCredential_username draw

/-- Writing a sound row, the pairs of the other rows being as before. -/
theorem Lawful.put (h : Lawful crypto s) {row : Identity}
    (htables : store'.identities = s.store.identities.put row ∧ store'.domains = s.store.domains)
    (hrow : Sound crypto history row)
    (hothers : ∀ id, id ≠ row.id → lastIssued id history = lastIssued id s.history) :
    Lawful crypto ⟨store', history⟩ := by
  refine ⟨?_, ?_⟩
  · intro row' hrow'
    rw [htables.1] at hrow'
    rcases Table.mem_put.mp hrow' with ⟨hold, hne⟩ | rfl
    · exact (h.rows row' hold).congr rfl rfl rfl rfl rfl rfl rfl (hothers row'.id hne)
    · exact hrow
  · intro domain hdomain
    rw [htables.2] at hdomain
    exact h.domains domain hdomain

/-- An address that `CreateForScope` takes, in a domain that is a DNS name. -/
theorem newAddress_created (hdomains : ∀ domain ∈ store.domains.rows,
      validDNSDomainName domain.domain = true) {scope : AccessScope} {address : Address}
    {recipients : List Address} {raw : GoString} (hascii : isASCII raw = true)
    (hraw : newAddress raw = .ok address)
    (hcheck : createCheck store scope address recipients = .ok ()) :
    newAddress address.value = .ok ⟨address.value, domainOf address.value⟩ ∧
      toLower (trimSpace (domainOf address.value)) = domainOf address.value := by
  obtain ⟨row, hmem, hrow⟩ := requireSenderDomainForScope_ok (createCheck_domain hcheck)
  obtain ⟨hself, hnormal⟩ := newAddress_stored hascii hraw (hrow ▸ hdomains row hmem)
  have hdomain : domainOf address.value = address.domain := by
    obtain ⟨localPart, domain, hlocal, -, -, -, hvalue, hdomain⟩ := newAddress_ok hascii hraw
    rw [domainOf, hvalue, cut_dotAtom hlocal.lower, hdomain]
  rw [hdomain]
  exact ⟨hself, hnormal⟩

/-- **Step lemma for the calls on identities.** -/
theorem lawful_perform (h : Lawful crypto s) (call : Call)
    (hascii : (Operation.call call).OnASCII) :
    Lawful crypto ⟨(perform crypto s.store call).2,
      s.history ++ [(perform crypto s.store call).1]⟩ := by
  have heffect := perform_effect crypto s.store call
  generalize (perform crypto s.store call).1 = outcome at heffect ⊢
  generalize (perform crypto s.store call).2 = store' at heffect ⊢
  -- a credential is issued for one identity only
  have hothers : ∀ {identity : PublicIdentity} {password : GoString} {id : GoString},
      id ≠ identity.id → lastIssued id (s.history ++ [.issued identity password]) =
        lastIssued id s.history := by
    intro identity password id hne
    rw [lastIssued_snoc, Outcome.issuedFor, if_neg (Ne.symm hne), Option.none_or]
  have hquiet : ∀ {outcome : Outcome} {id : GoString}, outcome.issuedFor id = none →
      lastIssued id (s.history ++ [outcome]) = lastIssued id s.history := by
    intro outcome id hnone
    rw [lastIssued_snoc, hnone, Option.none_or]
  cases heffect with
  | failed e =>
    refine ⟨fun row hrow => ?_, h.domains⟩
    exact (h.rows row hrow).congr rfl rfl rfl rfl rfl rfl rfl (hquiet rfl)
  | reactivated hcheck hfind hidentity htables =>
    have hold := h.rows _ (createFind_ok hfind).1
    refine h.put htables (sound_issued hidentity.1 rfl hidentity.2 (holdsPassword_new rfl rfl rfl)
      hold.address hold.domain (normalizeOwnerEmail_idem hascii.1) hold.id) ?_
    intro id hne
    exact hothers fun hsame => hne (hsame.trans hidentity.1)
  | created hcheck hfind hidentity htables =>
    obtain ⟨howner, raw, hraw, haddress⟩ := hascii
    obtain ⟨hself, hnormal⟩ := newAddress_created h.domains hraw haddress hcheck
    obtain ⟨hvisible, hne⟩ := uuidNewString_visible _
    refine h.put htables (sound_issued hidentity.1 rfl hidentity.2 (holdsPassword_new rfl rfl rfl)
      hself hnormal (normalizeOwnerEmail_idem howner) ⟨hvisible.trimSpace, hne⟩) ?_
    intro id hne
    exact hothers fun hsame => hne (hsame.trans hidentity.1)
  | rotated hread hidentity htables =>
    have hold := h.rows _ (requireIdentityForScope_ok hread).1
    refine h.put htables (sound_issued hidentity.1 rfl hidentity.2 (holdsPassword_new rfl rfl rfl)
      hold.address hold.domain hold.owner hold.id) ?_
    intro id hne
    exact hothers fun hsame => hne (hsame.trans hidentity.1)
  | deleted hread htables =>
    have hold := h.rows _ (requireIdentityForScope_ok hread).1
    exact h.put htables (hold.congr rfl rfl rfl rfl rfl rfl rfl (hquiet rfl))
      fun id _ => hquiet rfl
  | authenticated hmem hactive hidentity htables =>
    exact h.put htables ((h.rows _ hmem).congr rfl rfl rfl rfl rfl rfl rfl (hquiet rfl))
      fun id _ => hquiet rfl

/-! ## Domains and forwarding -/

/-- A domain was there before or is a DNS name. -/
theorem Lawful.moved {scope : AccessScope} (h : Lawful crypto s)
    (hmoved : DomainsMoved scope s.store store') : Lawful crypto { s with store := store' } := by
  refine ⟨?_, ?_⟩
  · intro row hrow
    exact h.rows row (hmoved.identities ▸ hrow)
  · intro domain hmem
    rcases hmoved.names domain hmem with hvalid | ⟨old, hold, hsame⟩
    · exact hvalid
    · exact hsame ▸ h.domains old hold

/-- New recipients leave the credentials alone. -/
theorem Lawful.updateForwarding (h : Lawful crypto s) (scope : AccessScope) (identityID : GoString)
    (recipients : List Address) (now : Int) : Lawful crypto { s with
      store := (updateForwardingForScope s.store scope identityID recipients now).2 } := by
  have heffect := run_effect crypto scope s.store (.updateForwarding identityID recipients now)
  rw [run_updateForwarding_store] at heffect
  generalize (ScopedRequest.run crypto scope s.store
    (.updateForwarding identityID recipients now)).1 = answer at heffect
  generalize (updateForwardingForScope s.store scope identityID recipients now).2 = store'
    at heffect ⊢
  cases heffect with
  | failed e hmoved => exact h.moved hmoved
  | domain hrequest hmoved hrow hreaches => exact h.moved hmoved
  | updated hread haddress hself hwrote =>
    have hold := h.rows _ (requireIdentityForScope_ok hread).1
    exact h.put hwrote.tables
      (hold.congr rfl rfl rfl rfl rfl rfl rfl rfl) fun id _ => rfl

/-- **Step lemma.** Every operation keeps the invariant. -/
theorem lawful_step (s : RunState) (op : Operation) (s' : RunState) (hascii : op.OnASCII)
    (h : Lawful crypto s) (hstep : operate crypto s op = some s') : Lawful crypto s' := by
  cases op with
  | call call =>
    rw [operate, Option.some.injEq] at hstep
    subst hstep
    exact lawful_perform h call hascii
  | updateForwardingForScope scope identityID recipients now =>
    rw [operate, Option.some.injEq] at hstep
    subst hstep
    exact h.updateForwarding scope identityID recipients now
  | createSenderDomainForScope scope domain random now =>
    rw [operate, Option.some.injEq] at hstep
    subst hstep
    exact h.moved (createSenderDomainForScope_returns domain random now).moved
  | checkSenderDomainDNS scope domainID env =>
    rw [operate, Option.some.injEq] at hstep
    subst hstep
    exact h.moved (checkSenderDomainDNS_returns domainID env).1

theorem lawful_empty : Lawful crypto RunState.empty :=
  ⟨fun _ h => absurd h List.not_mem_nil, fun _ h => absurd h List.not_mem_nil⟩

/-! ## The result -/

/-- The domain check of a sound row. -/
theorem Sound.authenticateDomain_iff {row : Identity} (h : Sound crypto history row) :
    authenticateDomain store row ⟨row.emailAddress, domainOf row.emailAddress⟩ = .ok () ↔
      DomainVerified store row := by
  rw [authenticateDomain_ok_iff, requireSenderDomainForIdentity_iff, h.owner]
  simp only [h.domain]
  rfl

/-- The login law of a store within the invariant. -/
theorem Lawful.authenticate_iff (h : Lawful crypto s) (username password : GoString) (now : Int)
    (identity : AuthenticatedIdentity) :
    (authenticate crypto s.store username password now).1 = .ok identity ↔
      ∃ row ∈ s.store.identities.rows, row.status = .active ∧
        lastIssued row.id s.history = some (trimSpace username, password) ∧
        DomainVerified s.store row ∧
        identity = ⟨row.id, ⟨row.emailAddress, domainOf row.emailAddress⟩, trimSpace username⟩ := by
  rw [authenticate_ok_iff]
  constructor
  · rintro ⟨record, address, hread, hdomain, -, rfl⟩
    obtain ⟨-, hfirst, hdigest, haddress⟩ := authenticateRead_ok_iff.mp hread
    obtain ⟨hmem, hfound⟩ := Table.first_some hfirst
    simp only [Bool.and_eq_true, decide_eq_true_eq] at hfound
    have hsound := h.rows record hmem
    obtain ⟨issued, hlast, hholds⟩ := hsound.issued
    obtain rfl := hholds.digest_iff.mp hdigest
    rw [hsound.address, Except.ok.injEq] at haddress
    subst haddress
    refine ⟨record, hmem, hfound.2, ?_, hsound.authenticateDomain_iff.mp hdomain, ?_⟩
    · rw [hlast, hfound.1]
    · rw [hfound.1]
  · rintro ⟨row, hmem, hactive, hissued, hverified, rfl⟩
    have hsound := h.rows row hmem
    obtain ⟨issued, hlast, hholds⟩ := hsound.issued
    rw [hlast, Option.some.injEq, Prod.mk.injEq] at hissued
    obtain ⟨husername, rfl⟩ := hissued
    have hfirst : s.store.identities.first (fun r =>
        r.username = trimSpace username && r.status = .active) = some row := by
      refine Table.first_unique hmem (by simp [husername, hactive]) ?_
      intro other hother hp
      simp only [Bool.and_eq_true, decide_eq_true_eq] at hp
      exact Table.eq_of_key hother hmem
        (s.store.usernameIndex other hother row hmem (hp.1.trans husername.symm))
    refine ⟨row, _, authenticateRead_ok_iff.mpr ⟨⟨?_, hholds.nonblank⟩, hfirst,
      hholds.digest_iff.mpr rfl, hsound.address⟩, hsound.authenticateDomain_iff.mpr hverified,
      markAuthenticatedIdentityUsed_active now hmem hactive, ?_⟩
    · rw [← husername]
      exact hsound.username
    · rw [husername]

/-- An allowed scope reads the pair back. -/
theorem Lawful.credentials (h : Lawful crypto s) {row : Identity}
    (hmem : row ∈ s.store.identities.rows) (hactive : row.status = .active)
    {username password : GoString} (hissued : lastIssued row.id s.history = some (username, password))
    {scope : AccessScope} (hallows : scope.allows row = true) :
    ∃ identity, credentialsForScope crypto s.store scope row.id = .ok (identity, password) ∧
      identity.id = row.id ∧ identity.username = username := by
  have hsound := h.rows row hmem
  obtain ⟨issued, hlast, hholds⟩ := hsound.issued
  rw [hlast, Option.some.injEq, Prod.mk.injEq] at hissued
  obtain ⟨husername, rfl⟩ := hissued
  have hread := requireIdentityForScope_id hmem hactive hallows hsound.id.1 hsound.id.2
  refine ⟨publicIdentity row [], ?_, rfl, husername⟩
  simp only [credentialsForScope, hread, hholds.cipher]

/-- **The authentication law.** After any calls that do not overlap, on
ASCII addresses and from an empty store, a login succeeds exactly with the
pair issued last for an active identity whose domain is verified. It returns
that identity, and its credentials are that pair. -/
theorem authentication_law (crypto : Crypto) (ops : List Operation) (s : RunState)
    (hascii : ∀ op ∈ ops, op.OnASCII)
    (hrun : exec (operate crypto) RunState.empty ops = some s)
    (username password : GoString) (now : Int) :
    (∀ identity, (authenticate crypto s.store username password now).1 = .ok identity ↔
      ∃ row ∈ s.store.identities.rows, row.status = .active ∧
        lastIssued row.id s.history = some (trimSpace username, password) ∧
        DomainVerified s.store row ∧
        identity = ⟨row.id, ⟨row.emailAddress, domainOf row.emailAddress⟩, trimSpace username⟩) ∧
    ∀ row ∈ s.store.identities.rows, row.status = .active →
      lastIssued row.id s.history = some (trimSpace username, password) →
      ∀ scope : AccessScope, scope.allows row = true →
        ∃ identity, credentialsForScope crypto s.store scope row.id = .ok (identity, password) ∧
          identity.id = row.id ∧ identity.username = trimSpace username := by
  have h : Lawful crypto s :=
    exec_guarded_invariant (fun s op s' hop => lawful_step s op s' hop) ops _ s
      (guarded_of_forall ops _ hascii) lawful_empty hrun
  refine ⟨fun identity => h.authenticate_iff username password now identity, ?_⟩
  intro row hmem hactive hissued scope hallows
  exact h.credentials hmem hactive hissued hallows

/-- The three records of the domain are published. -/
def publishedDNS : DNSResolver := fun name =>
  if name = challengeHost (lit "x.io") then
    some [challengeValue (base64RawURLEncode (List.replicate 24 0))]
  else if name = lit "x.io" then some [lit "v=spf1 a:mx.x.io ~all"]
  else some [lit "v=DMARC1; p=none"]

/-- A domain is registered and verified, an identity created and rotated. -/
def exampleOperations : List Operation :=
  [.createSenderDomainForScope exampleScope (lit "X.io.") (some (List.replicate 24 0)) 1,
    .checkSenderDomainDNS exampleScope 1 ⟨lit "mx.x.io", publishedDNS, none, 2, 3⟩,
    .call (.createForScope exampleScope exampleAddress [⟨lit "b@y.io", lit "y.io"⟩]
      (some (exampleDraw 0)) (List.replicate 16 0) 4),
    .call (.rotateForScope exampleScope (lit "00000000-0000-4000-8000-000000000000")
      (some (exampleDraw 0xFF)) 5)]

/-- The rotated pair logs in. -/
theorem authentication_law_rotated : ∃ s,
    exec (operate exampleCrypto) RunState.empty exampleOperations = some s ∧
    ∃ row ∈ s.store.identities.rows, row.status = .active ∧
      lastIssued row.id s.history =
        some (lit "smtp_________________", lit "pgsmtp_________________________________") ∧
      DomainVerified s.store row := by
  have hascii : ∀ op ∈ exampleOperations, op.OnASCII := by
    intro op hop
    simp only [exampleOperations, List.mem_cons, List.not_mem_nil, or_false] at hop
    rcases hop with rfl | rfl | rfl | rfl
    · trivial
    · trivial
    · exact ⟨by decide, lit "a@x.io", by decide, by decide⟩
    · trivial
  refine ⟨_, rfl, ?_⟩
  obtain ⟨row, hmem, hactive, hissued, hverified, -⟩ :=
    ((authentication_law exampleCrypto exampleOperations _ hascii rfl
      (lit " smtp_________________ ") (lit "pgsmtp_________________________________") 6).1
      ⟨lit "00000000-0000-4000-8000-000000000000", exampleAddress,
        lit "smtp_________________"⟩).mp (by decide)
  exact ⟨row, hmem, hactive, hissued, hverified⟩

end Pinguin.SmtpIdentity
