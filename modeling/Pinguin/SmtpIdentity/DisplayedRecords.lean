/-
Pinguin.SmtpIdentity.DisplayedRecords — the records an owner is shown verify
the domain.

`senderDomainDNSRecords` makes the three records, and three matchers read
what the resolver returns: they trim it, put it in lower case and cut it into
words. Whatever else is published at the names and whatever white space
stands around the values, each matcher finds the record it is for: the white
space goes (`trimSpace_padded`), and of the SPF value the words are left with
the relay host as one of them, for it has no white space of its own.
-/
import Pinguin.SmtpIdentity.VerificationTheorems

namespace Pinguin.SmtpIdentity

open Pinguin.Go Pinguin.Lib

/-- The resolver returns the value of a record, with any white space around
it, among whatever else. -/
def Shows (resolver : DNSResolver) (record : DNSRecord) : Prop :=
  ∃ left right, White left ∧ White right ∧
    left ++ record.value ++ right ∈ txtValues resolver record.host

/-- A host name without white space. -/
def Unspaced (host : GoString) : Prop := ∀ r ∈ runes host, isSpace r.1 = false

/-! ## The SPF value -/

variable {host : GoString}

theorem unspaced_spfMechanism (hhost : Unspaced host) : Unspaced (spfMechanism host) := by
  have hsplit : spfMechanism host = lit "a" ++ 0x3A :: host := by
    rw [spfMechanism, trimSpace_of_no_space hhost]
    rfl
  have hletter : runes (lit "a") = [(0x61, [0x61])] := by decide
  intro r hr
  rw [hsplit, runes_append_ascii _ (by decide), hletter] at hr
  rcases List.mem_cons.mp hr with rfl | hr
  · decide
  · rcases List.mem_cons.mp hr with rfl | hr
    · decide
    · exact hhost r hr

theorem spfStarterValue_eq (host : GoString) :
    spfStarterValue host = lit "v=spf1" ++ 0x20 :: (spfMechanism host ++ 0x20 :: lit "~all") := by
  have hversion : lit "v=spf1 " = lit "v=spf1" ++ [0x20] := by decide
  have hall : lit " ~all" = 0x20 :: lit "~all" := by decide
  rw [spfStarterValue, hversion, hall, List.append_assoc, List.append_assoc]
  rfl

theorem trimSpace_spfStarterValue (host : GoString) :
    trimSpace (spfStarterValue host) = spfStarterValue host := by
  have hversion : (runes (lit "v=spf1")).head? = some (0x76, [0x76]) := by decide
  have hall : (runes (lit "~all")).getLast? = some (0x6C, [0x6C]) := by decide
  have hrunes : runes (spfStarterValue host) = runes (lit "v=spf1") ++ (0x20, [0x20]) ::
      (runes (spfMechanism host) ++ (0x20, [0x20]) :: runes (lit "~all")) := by
    rw [spfStarterValue_eq, runes_append_ascii _ (by decide), runes_append_ascii _ (by decide)]
    rfl
  apply trimSpace_eq_self
  · intro r hr
    rw [hrunes, List.head?_append, hversion] at hr
    cases hr
    decide
  · intro r hr
    have hfront : runes (spfStarterValue host) = (runes (lit "v=spf1") ++ (0x20, [0x20]) ::
        (runes (spfMechanism host) ++ [(0x20, [0x20])])) ++ runes (lit "~all") := by
      rw [hrunes]
      simp only [List.append_assoc, List.cons_append, List.nil_append]
    rw [hfront, List.getLast?_append, hall] at hr
    cases hr
    decide

/-- The words of the SPF value, in lower case. -/
theorem fields_toLower_spfStarterValue (hhost : Unspaced host) :
    fields (toLower (spfStarterValue host)) =
      [lit "v=spf1", toLower (spfMechanism host), lit "~all"] := by
  have hlower : toLower (spfStarterValue host) =
      lit "v=spf1" ++ 0x20 :: (toLower (spfMechanism host) ++ 0x20 :: lit "~all") := by
    rw [spfStarterValue_eq, toLower_append_ascii _ (by decide), toLower_append_ascii _ (by decide)]
    rfl
  have hmechanism : toLower (spfMechanism host) ≠ [] := 
    toLower_ne_nil (List.append_ne_nil_of_left_ne_nil (by decide) _)
  rw [hlower, fields_word_space (by decide) (by decide), fields_word_space hmechanism
    (not_isSpace_toLower (unspaced_spfMechanism hhost))]
  rfl

/-! ## The checks -/

variable {resolver : DNSResolver} {row : SenderDomain}

/-- What the resolver returns for a record trims to its value. -/
theorem Shows.trimmed {record : DNSRecord} (h : Shows resolver record)
    (hvalue : trimSpace record.value = record.value) {c : UInt8} {rest : GoString}
    (hfirst : record.value = c :: rest) (hc : c.toNat < 0x80) :
    ∃ value ∈ txtValues resolver record.host, trimSpace value = record.value := by
  obtain ⟨left, right, hleft, hright, hmem⟩ := h
  refine ⟨_, hmem, ?_⟩
  have hstart : StartsRune record.value := hfirst ▸ startsRune_cons hc rest
  rw [trimSpace_padded hleft hright hstart, hvalue]

theorem mentionsRelay_spfStarterValue (hhost : Unspaced host) {value : GoString}
    (hvalue : trimSpace value = spfStarterValue host) :
    MentionsRelay (spfMechanism host) value := by
  refine ⟨[toLower (spfMechanism host), lit "~all"], ?_, List.mem_cons_self⟩
  rw [spfMechanisms, spfTerms, hvalue, fields_toLower_spfStarterValue hhost]
  rfl

theorem looksLikeDMARC_displayed {value : GoString}
    (hvalue : trimSpace value = lit "v=DMARC1; p=none") : LooksLikeDMARC value := by
  rw [LooksLikeDMARC, hvalue]
  decide

/-- **The records that are shown pass the checks.** -/
theorem allDNSChecksPassed_of_shows (hhost : Unspaced host)
    (hshows : ∀ record ∈ senderDomainDNSRecords host row, Shows resolver record) :
    allDNSChecksPassed (senderDomainChecks resolver host row) = true := by
  simp only [senderDomainDNSRecords, List.forall_mem_cons] at hshows
  obtain ⟨hchallenge, hspf, hdmarc, -⟩ := hshows
  have hownership := hchallenge.trimmed (trimSpace_challengeValue row.verificationToken) rfl
    (by decide)
  obtain ⟨spf, hspf, hspfValue⟩ := hspf.trimmed (trimSpace_spfStarterValue host) rfl (by decide)
  have hpolicy : trimSpace (lit "v=DMARC1; p=none") = lit "v=DMARC1; p=none" := by decide
  obtain ⟨dmarc, hdmarc, hdmarcValue⟩ := hdmarc.trimmed hpolicy rfl (by decide)
  exact (allDNSChecksPassed_iff resolver host row).mpr ⟨hownership,
    ⟨spf, hspf, mentionsRelay_spfStarterValue hhost hspfValue⟩,
    dmarc, hdmarc, looksLikeDMARC_displayed hdmarcValue⟩

/-! ## The stored status -/

variable {store store' : Store} {scope : AccessScope} {domainID : Nat}

/-- A stored row may always be saved again under its domain. -/
theorem saveDomain_stored (hrow : row ∈ store.domains.rows) (changed : SenderDomain)
    (hid : changed.id = row.id) (hdomain : changed.domain = row.domain) :
    ∃ saved, store.saveDomain changed = .ok saved :=
  ⟨_, dif_pos (store.domainIndex.free_of_same hrow hid hdomain)⟩

/-- Asking again for a stored row succeeds. -/
theorem requireSenderDomainByID_found (hrow : row ∈ store.domains.rows)
    (hfinds : scope.finds domainID row = true) {random : Option GoString} (now : Int)
    (htoken : trimSpace row.verificationToken = [] →
      randomToken random = .ok row.verificationToken) :
    ∃ again saved, requireSenderDomainByID store scope domainID random now = (.ok again, saved) := by
  simp only [requireSenderDomainByID, first_of_finds hrow hfinds, ensureSenderDomainToken]
  split
  · exact ⟨_, _, rfl⟩
  · next hblank =>
    obtain ⟨saved, hsave⟩ := saveDomain_stored hrow { row with updatedAt := now } rfl rfl
    rw [htoken (not_not.mp hblank)]
    simp only [hsave]
    exact ⟨_, _, rfl⟩

/-- The check of a domain that is found returns. -/
theorem checkSenderDomainDNS_found {env : CheckEnv} {record : SenderDomain}
    (h : requireSenderDomainByID store scope domainID env.random env.tokenTime =
      (.ok record, store')) :
    ∃ row saved, checkSenderDomainDNS store scope domainID env =
        (.ok (row, senderDomainChecks env.resolver env.host record), saved) ∧
      row.domain = record.domain ∧ row.verificationToken = record.verificationToken := by
  obtain ⟨hrecord, hfinds, htoken⟩ := requireSenderDomainByID_ok h
  obtain ⟨again, after, hagain⟩ :=
    requireSenderDomainByID_found hrecord hfinds env.tokenTime htoken
  obtain ⟨hstored, -, -⟩ := requireSenderDomainByID_ok hagain
  obtain ⟨hdomain, hsame⟩ := requireSenderDomainByID_again hrecord hfinds htoken hagain
  obtain ⟨row, hrow⟩ : ∃ row, row = { again with
      status := if allDNSChecksPassed (senderDomainChecks env.resolver env.host record) then .verified
        else .pending
      lastCheckedAt := some env.checkedAt
      updatedAt := env.checkedAt } := ⟨_, rfl⟩
  obtain ⟨saved, hsave⟩ := saveDomain_stored hstored row (by rw [hrow]) (by rw [hrow])
  refine ⟨row, saved, ?_, ?_, ?_⟩
  · simp only [checkSenderDomainDNS, h, updateSenderDomainStatusForScope, hagain, ← hrow, hsave]
  · rw [hrow]
    exact hdomain
  · rw [hrow]
    exact hsame

/-- **Published records always verify.** For every domain row with its token,
every relay host without white space and every resolver that returns the
displayed values, padded and among others as they may be, all three checks
pass; and `CheckSenderDomainDNS` on a domain that is found with this token
returns, and stores it as verified. -/
theorem displayed_records_verify (env : CheckEnv) (record : SenderDomain)
    (hhost : Unspaced env.host)
    (hshows : ∀ shown ∈ senderDomainDNSRecords env.host record, Shows env.resolver shown) :
    (∀ check ∈ senderDomainChecks env.resolver env.host record, check.passed = true) ∧
      ∀ store scope domainID store',
        requireSenderDomainByID store scope domainID env.random env.tokenTime =
          (.ok record, store') →
        ∃ row saved, checkSenderDomainDNS store scope domainID env =
            (.ok (row, senderDomainChecks env.resolver env.host record), saved) ∧
          row ∈ saved.domains.rows ∧ row.domain = record.domain ∧ row.status = .verified := by
  have hpassed := allDNSChecksPassed_of_shows hhost hshows
  refine ⟨List.all_eq_true.mp hpassed, ?_⟩
  intro store scope domainID store' hfound
  obtain ⟨row, saved, hcheck, hdomain, htoken⟩ := checkSenderDomainDNS_found hfound
  obtain ⟨hstored, hstatus⟩ := checkSenderDomainDNS_ok hcheck
  rw [senderDomainChecks_congr env.resolver env.host hdomain htoken, if_pos hpassed] at hstatus
  exact ⟨row, saved, hcheck, hstored, hdomain, hstatus⟩

/-- The records of x.io, padded and among others, for a host in capitals. -/
def paddedAnswers : DNSResolver := fun name =>
  if name = challengeHost (lit "x.io") then
    some [lit "other", lit "\t" ++ challengeValue (base64RawURLEncode (List.replicate 24 0))]
  else if name = lit "x.io" then
    some [lit "v=spf1 -all", spfStarterValue (lit "MX.x.io") ++ lit " \n", lit "other"]
  else some [lit " v=DMARC1; p=none "]

def paddedEnv : CheckEnv := ⟨lit "MX.x.io", paddedAnswers, none, 2, 3⟩

/-- The row of x.io. -/
def registeredRow : SenderDomain :=
  ⟨1, lit "o@x.io", lit "x.io", .pending, base64RawURLEncode (List.replicate 24 0), none, 1, 1⟩

theorem displayed_records_verify_padded :
    requireSenderDomainByID registeredStore ⟨lit "o@x.io", false⟩ 1 none 2 =
        (.ok registeredRow, registeredStore) ∧
      ∃ row saved, checkSenderDomainDNS registeredStore ⟨lit "o@x.io", false⟩ 1 paddedEnv =
          (.ok (row, senderDomainChecks paddedAnswers (lit "MX.x.io") registeredRow), saved) ∧
        row ∈ saved.domains.rows ∧ row.domain = lit "x.io" ∧ row.status = .verified := by
  have hwhite : White [] ∧ White (lit "\t") ∧ White (lit " \n") ∧ White (lit " ") := by
    unfold White
    decide
  obtain ⟨hnone, htab, hline, hblank⟩ := hwhite
  have hhost : Unspaced (lit "MX.x.io") := by
    unfold Unspaced
    decide
  have hshows : ∀ shown ∈ senderDomainDNSRecords (lit "MX.x.io") registeredRow,
      Shows paddedAnswers shown := by
    simp only [senderDomainDNSRecords, List.forall_mem_cons]
    exact ⟨⟨lit "\t", [], htab, hnone, by decide⟩, ⟨[], lit " \n", hnone, hline, by decide⟩,
      ⟨lit " ", lit " ", hblank, hblank, by decide⟩, List.forall_mem_nil _⟩
  have hfound : requireSenderDomainByID registeredStore ⟨lit "o@x.io", false⟩ 1 none 2 =
      (.ok registeredRow, registeredStore) := rfl
  exact ⟨hfound, (displayed_records_verify paddedEnv registeredRow hhost hshows).2 _ _ _ _ hfound⟩

end Pinguin.SmtpIdentity
