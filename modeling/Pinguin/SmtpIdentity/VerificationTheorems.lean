/-
Pinguin.SmtpIdentity.VerificationTheorems — which TXT records verify a
sender domain.

`Published` says what the displayed records ask for, as a reading of the
TXT values: the challenge value, an SPF record whose relay mechanism stands
before every `all` term, and a DMARC record with a policy tag. The checks of
`CheckSenderDomainDNS` read the values more loosely: they trim the challenge
value, find the mechanism anywhere in an SPF record, and look in a DMARC
record only for how it begins and for `p=`, which also misses a record with
white space around its equals signs. `ReadAsMeant` is the condition under
which the difference does not matter, and `sender_domain_verified_iff` says
that it is the exact one.
-/
import Pinguin.Go.RuneTheorems
import Pinguin.SmtpIdentity.Requests

namespace Pinguin.SmtpIdentity

open Pinguin.Go Pinguin.Lib

/-! ## Records -/

/-- The TXT values of a name; none when the lookup fails. -/
def txtValues (resolver : DNSResolver) (name : GoString) : List GoString :=
  (resolver name).getD []

/-- The terms of an SPF record, in lower case. -/
def spfTerms (value : GoString) : List GoString := fields (toLower (trimSpace value))

/-- The `all` mechanism with any qualifier. -/
def isAllTerm (term : GoString) : Bool :=
  term = lit "all" || term = lit "+all" || term = lit "-all" || term = lit "~all" ||
    term = lit "?all"

/-- The terms behind the version of an SPF record. -/
def spfMechanisms (value : GoString) : Option (List GoString) :=
  match spfTerms value with
  | [] => none
  | version :: mechanisms => if version = lit "v=spf1" then some mechanisms else none

/-- An SPF record with the mechanism somewhere in it. -/
def MentionsRelay (mechanism value : GoString) : Prop :=
  ∃ mechanisms ∈ spfMechanisms value, toLower mechanism ∈ mechanisms

/-- An SPF record with the mechanism before any `all` term. -/
def AuthorizesRelay (mechanism value : GoString) : Prop :=
  ∃ mechanisms ∈ spfMechanisms value, toLower mechanism ∈ mechanisms.takeWhile (!isAllTerm ·)

instance decidableAuthorizesRelay (mechanism value : GoString) :
    Decidable (AuthorizesRelay mechanism value) :=
  inferInstanceAs (Decidable (∃ mechanisms ∈ spfMechanisms value, _))

/-- A tag of a DMARC record: name and value, in lower case and trimmed. -/
def dmarcTag (text : GoString) : Option (GoString × GoString) :=
  match cut text 0x3D with
  | (_, _, false) => none
  | (name, value, true) => some (trimSpace name, trimSpace value)

def dmarcTags (value : GoString) : List (Option (GoString × GoString)) :=
  (splitByte 0x3B (toLower value)).map dmarcTag

/-- A DMARC record: its first tag is `v=DMARC1`, and it has a tag `p`. -/
def IsDMARCPolicy (value : GoString) : Prop :=
  (dmarcTags value).head? = some (some (lit "v", lit "dmarc1")) ∧
    ∃ tag ∈ dmarcTags value, tag.map Prod.fst = some (lit "p")

instance decidableIsDMARCPolicy (value : GoString) : Decidable (IsDMARCPolicy value) :=
  inferInstanceAs (Decidable (_ ∧ ∃ tag ∈ dmarcTags value, _))

/-- A text that begins like a DMARC record and contains `p=`. -/
def LooksLikeDMARC (value : GoString) : Prop :=
  (lit "v=dmarc1").isPrefixOf (toLower (trimSpace value)) = true ∧
    contains (toLower (trimSpace value)) "p=" = true

/-- The three records that verify a domain. -/
structure Published (resolver : DNSResolver) (host domain token : GoString) : Prop where
  ownership : challengeValue token ∈ txtValues resolver (challengeHost domain)
  spf : ∃ value ∈ txtValues resolver domain, AuthorizesRelay (spfMechanism host) value
  dmarc : ∃ value ∈ txtValues resolver (dmarcHost domain), IsDMARCPolicy value

/-- No looseness of the checks matters. `strict`: where a padded challenge
value, a mechanism anywhere and a text like a DMARC record are found, the
records themselves are there. `missed`: where the records are there, the
DMARC record, or another text, looks like one. -/
structure ReadAsMeant (resolver : DNSResolver) (host domain token : GoString) : Prop where
  strict :
    (∃ value ∈ txtValues resolver (challengeHost domain), trimSpace value = challengeValue token) →
    (∃ value ∈ txtValues resolver domain, MentionsRelay (spfMechanism host) value) →
    (∃ value ∈ txtValues resolver (dmarcHost domain), LooksLikeDMARC value) →
      Published resolver host domain token
  missed : Published resolver host domain token →
    ∃ value ∈ txtValues resolver (dmarcHost domain), LooksLikeDMARC value

/-! ## The matchers -/

theorem exactTXTMatch_iff {values : List GoString} {expected : GoString} :
    exactTXTMatch values expected = true ↔ ∃ value ∈ values, trimSpace value = expected := by
  simp [exactTXTMatch]

/-- The fields of a text are trimmed already. -/
theorem any_trimSpace_field {text version expected : GoString} {mechanisms : List GoString}
    (hfields : fields text = version :: mechanisms) :
    mechanisms.any (trimSpace · = expected) = true ↔ expected ∈ mechanisms := by
  have htrim : ∀ field ∈ mechanisms, trimSpace field = field := fun field hfield =>
    trimSpace_field (hfields ▸ List.mem_cons_of_mem version hfield)
  rw [List.any_eq_true]
  constructor
  · rintro ⟨field, hfield, heq⟩
    rw [← of_decide_eq_true heq, htrim field hfield]
    exact hfield
  · intro hmem
    exact ⟨_, hmem, decide_eq_true (htrim _ hmem)⟩

theorem spfTXTMatch_iff {values : List GoString} {mechanism : GoString} :
    spfTXTMatch values mechanism = true ↔ ∃ value ∈ values, MentionsRelay mechanism value := by
  rw [spfTXTMatch, List.any_eq_true]
  refine exists_congr fun value => and_congr_right fun _ => ?_
  unfold MentionsRelay spfMechanisms spfTerms
  cases hfields : fields (toLower (trimSpace value)) with
  | nil => simp
  | cons version mechanisms =>
    have hany : mechanisms.any (trimSpace · = toLower mechanism) = true ↔
        toLower mechanism ∈ mechanisms := any_trimSpace_field hfields
    by_cases hversion : version = lit "v=spf1"
    · simp [hversion, ← hany]
    · simp [hversion]

theorem dmarcTXTMatch_iff {values : List GoString} {expected : GoString} :
    dmarcTXTMatch values expected = true ↔ ∃ value ∈ values, LooksLikeDMARC value := by
  simp [dmarcTXTMatch, LooksLikeDMARC]

theorem checkTXT_passed (resolver : DNSResolver) (host expected : GoString)
    (matcher : List GoString → GoString → Bool) (successMessage failureMessage : GoString)
    (hnone : matcher [] expected = false) :
    (checkTXT resolver host expected matcher successMessage failureMessage).passed =
      matcher (txtValues resolver host) expected := by
  unfold checkTXT txtValues
  cases resolver host with
  | none => exact hnone.symm
  | some values =>
    simp only [Option.getD_some]
    split <;> simp_all

/-- **What the checks look for.** -/
theorem allDNSChecksPassed_iff (resolver : DNSResolver) (host : GoString) (row : SenderDomain) :
    allDNSChecksPassed (senderDomainChecks resolver host row) = true ↔
      (∃ value ∈ txtValues resolver (challengeHost row.domain),
        trimSpace value = challengeValue row.verificationToken) ∧
      (∃ value ∈ txtValues resolver row.domain, MentionsRelay (spfMechanism host) value) ∧
      ∃ value ∈ txtValues resolver (dmarcHost row.domain), LooksLikeDMARC value := by
  simp only [allDNSChecksPassed, senderDomainChecks, List.all_cons, List.all_nil, Bool.and_true,
    Bool.and_eq_true, checkTXT_passed _ _ _ exactTXTMatch _ _ rfl,
    checkTXT_passed _ _ _ spfTXTMatch _ _ rfl, checkTXT_passed _ _ _ dmarcTXTMatch _ _ rfl,
    exactTXTMatch_iff, spfTXTMatch_iff, dmarcTXTMatch_iff]

/-- The challenge value carries no outer white space. -/
theorem trimSpace_challengeValue (token : GoString) :
    trimSpace (challengeValue token) = challengeValue token := by
  have hsplit : challengeValue token = lit "pinguin-domain-verification" ++ 0x3D :: trimSpace token :=
    rfl
  rw [hsplit]
  refine trimSpace_append_ascii_trimmed (by decide) (by decide) token ?_
  intro r hr
  have hfirst : (runes (lit "pinguin-domain-verification")).head? = some (0x70, [0x70]) := by decide
  rw [hfirst, Option.some.injEq] at hr
  subst hr
  decide

theorem AuthorizesRelay.mentions {mechanism value : GoString}
    (h : AuthorizesRelay mechanism value) : MentionsRelay mechanism value := by
  obtain ⟨mechanisms, hvalue, hmem⟩ := h
  exact ⟨mechanisms, hvalue, (List.takeWhile_sublist _).subset hmem⟩

/-- The checks give the verdict of the records exactly when they are read as
they are meant. -/
theorem checks_exact_iff (resolver : DNSResolver) (host : GoString) (row : SenderDomain) :
    (allDNSChecksPassed (senderDomainChecks resolver host row) = true ↔
        Published resolver host row.domain row.verificationToken) ↔
      ReadAsMeant resolver host row.domain row.verificationToken := by
  rw [allDNSChecksPassed_iff]
  constructor
  · intro hexact
    refine ⟨fun hownership hspf hdmarc => hexact.mp ⟨hownership, hspf, hdmarc⟩, ?_⟩
    intro hpublished
    exact (hexact.mpr hpublished).2.2
  · intro hmeant
    refine ⟨fun ⟨hownership, hspf, hdmarc⟩ => hmeant.strict hownership hspf hdmarc, ?_⟩
    intro hpublished
    obtain ⟨value, hvalue, hauthorizes⟩ := hpublished.spf
    exact ⟨⟨_, hpublished.ownership, trimSpace_challengeValue _⟩,
      ⟨value, hvalue, hauthorizes.mentions⟩, hmeant.missed hpublished⟩

/-! ## The stored status -/

variable {store store' : Store} {scope : AccessScope} {domainID : Nat} {env : CheckEnv}
  {row : SenderDomain}

/-- The row with its token, which is drawn when there is none. -/
theorem ensureSenderDomainToken_ok {record : SenderDomain} {random : Option GoString} {now : Int}
    (h : ensureSenderDomainToken store record random now = (.ok row, store'))
    (hrecord : record ∈ store.domains.rows) :
    row ∈ store'.domains.rows ∧ row.id = record.id ∧ row.domain = record.domain ∧
      row.ownerEmail = record.ownerEmail ∧
      (trimSpace row.verificationToken = [] →
        randomToken random = .ok row.verificationToken) := by
  unfold ensureSenderDomainToken at h
  split at h
  · next htoken =>
    cases h
    exact ⟨hrecord, rfl, rfl, rfl, fun hblank => absurd hblank htoken⟩
  · split at h
    · cases h
    · next token hrandom =>
      simp only at h
      split at h
      · cases h
      · next saved hsave =>
        cases h
        exact ⟨(Store.saveDomain_ok hsave).2 ▸ Table.mem_put.mpr (.inr rfl), rfl, rfl, rfl,
          fun _ => hrandom⟩

/-- The row of an id that a scope reaches, as a condition on rows. -/
def AccessScope.finds (scope : AccessScope) (domainID : Nat) (row : SenderDomain) : Bool :=
  row.id = domainID && (scope.admin || row.ownerEmail = normalizeOwnerEmail scope.ownerEmail)

theorem requireSenderDomainByID_ok {random : Option GoString} {now : Int}
    (h : requireSenderDomainByID store scope domainID random now = (.ok row, store')) :
    row ∈ store'.domains.rows ∧ scope.finds domainID row = true ∧
      (trimSpace row.verificationToken = [] →
        randomToken random = .ok row.verificationToken) := by
  unfold requireSenderDomainByID at h
  split at h
  · cases h
  · next record hfirst =>
    obtain ⟨hmem, hfound⟩ := Table.first_some hfirst
    obtain ⟨hstored, hid, -, howner, htoken⟩ := ensureSenderDomainToken_ok h hmem
    refine ⟨hstored, ?_, htoken⟩
    rw [AccessScope.finds, hid, howner]
    exact hfound

/-- The row that a scope finds is the first one. -/
theorem first_of_finds (hrow : row ∈ store.domains.rows)
    (hfinds : scope.finds domainID row = true) :
    store.domains.first (fun row => row.id = domainID &&
      (scope.admin || row.ownerEmail = normalizeOwnerEmail scope.ownerEmail)) = some row := by
  refine Table.first_unique hrow hfinds fun other hother hfound => ?_
  rw [AccessScope.finds, Bool.and_eq_true, decide_eq_true_eq] at hfinds
  rw [Bool.and_eq_true, decide_eq_true_eq] at hfound
  exact Table.eq_of_key hother hrow (hfound.1.trans hfinds.1.symm)

/-- Asking again for a stored row gives its name and its token again. -/
theorem requireSenderDomainByID_again {random : Option GoString} {now : Int}
    {again : SenderDomain} (hrow : row ∈ store.domains.rows)
    (hfinds : scope.finds domainID row = true)
    (htoken : trimSpace row.verificationToken = [] → randomToken random = .ok row.verificationToken)
    (h : requireSenderDomainByID store scope domainID random now = (.ok again, store')) :
    again.domain = row.domain ∧ again.verificationToken = row.verificationToken := by
  simp only [requireSenderDomainByID, first_of_finds hrow hfinds, ensureSenderDomainToken] at h
  split at h
  · cases h
    exact ⟨rfl, rfl⟩
  · next hblank =>
    rw [htoken (not_not.mp hblank)] at h
    simp only at h
    split at h
    · cases h
    · cases h
      exact ⟨rfl, rfl⟩

theorem senderDomainChecks_congr (resolver : DNSResolver) (host : GoString)
    {row row' : SenderDomain} (hdomain : row.domain = row'.domain)
    (htoken : row.verificationToken = row'.verificationToken) :
    senderDomainChecks resolver host row = senderDomainChecks resolver host row' := by
  rw [senderDomainChecks, senderDomainChecks, hdomain, htoken]

/-- **`CheckSenderDomainDNS`** stores the verdict of the checks on the row it
returns. -/
theorem checkSenderDomainDNS_ok {checks : List DNSCheck}
    (h : checkSenderDomainDNS store scope domainID env = (.ok (row, checks), store')) :
    row ∈ store'.domains.rows ∧
      row.status = if allDNSChecksPassed (senderDomainChecks env.resolver env.host row) then .verified
        else .pending := by
  unfold checkSenderDomainDNS at h
  rcases hrequire : requireSenderDomainByID store scope domainID env.random env.tokenTime with
    ⟨e | record, mid⟩
  · rw [hrequire] at h
    cases h
  · rw [hrequire] at h
    obtain ⟨hrecord, hfinds, htoken⟩ := requireSenderDomainByID_ok hrequire
    simp only [updateSenderDomainStatusForScope] at h
    rcases hagain : requireSenderDomainByID mid scope domainID env.random env.tokenTime with
      ⟨e | again, after⟩
    · rw [hagain] at h
      cases h
    · obtain ⟨hdomain, hsame⟩ := requireSenderDomainByID_again hrecord hfinds htoken hagain
      rw [hagain] at h
      simp only at h
      split at h
      · cases h
      · next updated _ hupdated =>
        cases h
        split at hupdated
        · cases hupdated
        · next saved hsave =>
          cases hupdated
          refine ⟨(Store.saveDomain_ok hsave).2 ▸ Table.mem_put.mpr (.inr rfl), ?_⟩
          rw [senderDomainChecks_congr env.resolver env.host hdomain.symm hsame.symm]
          rfl

/-- The domain x.io, registered with a token and pending. -/
def registeredStore : Store :=
  (createSenderDomainForScope Store.empty ⟨lit "o@x.io", false⟩ (lit "x.io")
    (some (List.replicate 24 0)) 1).2

/-- The challenge value is published, with the given SPF and DMARC texts. -/
def dnsAnswers (spf dmarc : GoString) : DNSResolver := fun name =>
  if name = challengeHost (lit "x.io") then
    some [challengeValue (base64RawURLEncode (List.replicate 24 0))]
  else if name = lit "x.io" then some [spf]
  else some [dmarc]

def checkRegistered (spf dmarc : GoString) :
    Except IdentityError (SenderDomain × List DNSCheck) × Store :=
  checkSenderDomainDNS registeredStore ⟨lit "o@x.io", false⟩ 1
    ⟨lit "mx.x.io", dnsAnswers spf dmarc, none, 2, 3⟩

end Pinguin.SmtpIdentity
