/-
Pinguin.Submission.DirectRelayTheorems — the order and the outcome of direct
delivery.

What a lookup leads to is said without the code: `Targets` lists the hosts
that may be tried, `Refused` the cases without any attempt. The loop over the
targets is followed attempt by attempt: one that succeeds or is answered with
5xx is the last one (`relayTargets_cons`), and the error of the relay is made
from the last attempt. `direct_relay_outcome` puts the two together.
-/
import Mathlib.Data.Prod.Lex
import Pinguin.Submission.DirectRelay

namespace Pinguin.Submission

open Pinguin.Go Pinguin.SmtpIdentity

/-! ## The order of the records -/

/-- Preference first, then the host. -/
def MX.key (record : MX) : Nat ×ₗ GoString := toLex (record.pref.toNat, record.host)

theorem MX.notAfter_iff {a b : MX} : a.notAfter b ↔ a.key ≤ b.key := by
  rw [MX.notAfter, MX.less, MX.key, MX.key, Prod.Lex.toLex_le_toLex]
  by_cases h : b.pref = a.pref
  · rw [if_pos h, h, decide_eq_false_iff_not, not_lt]
    simp
  · have hne : a.pref.toNat ≠ b.pref.toNat := fun heq => h (UInt16.toNat_inj.mp heq).symm
    rw [if_neg h, decide_eq_false_iff_not, UInt16.lt_iff_toNat_lt]
    simp only [hne, false_and, or_false]
    omega

instance MX.notAfter_total : Std.Total MX.notAfter :=
  ⟨fun a b => by
    rw [MX.notAfter_iff, MX.notAfter_iff]
    exact le_total _ _⟩

instance MX.notAfter_trans : IsTrans MX MX.notAfter :=
  ⟨fun a b c hab hbc => by
    rw [MX.notAfter_iff] at *
    exact hab.trans hbc⟩

theorem sortRecords_perm (records : List MX) : (sortRecords records).Perm records :=
  List.perm_insertionSort _ _

theorem sortRecords_sorted (records : List MX) :
    (sortRecords records).Pairwise fun a b => a.key ≤ b.key :=
  (List.pairwise_insertionSort MX.notAfter records).imp MX.notAfter_iff.mp

/-! ## The targets of a domain -/

/-- The recipients are not all of one domain. -/
def SeveralDomains (recipients : List Address) : Prop :=
  ∃ r ∈ recipients, ∃ r' ∈ recipients, r.domain ≠ r'.domain

def MX.IsNull (record : MX) : Prop := trimSpace record.host = lit "."

/-- The lookup returns a null MX. -/
def NullMX (network : Network) (domain : GoString) : Prop :=
  ∃ records, network.lookupMX domain = .ok records ∧ ∃ record ∈ records, record.IsNull

/-- There are no MX records, or the name is not found. -/
def NoRecords (network : Network) (domain : GoString) : Prop :=
  network.lookupMX domain = .ok [] ∨
    ∃ e, network.lookupMX domain = .error e ∧ e.isNotFound = true

/-- The hosts of the records that are not blank, in order. -/
def hosts (records : List MX) : List GoString :=
  (records.map fun record => trimSpace record.host).filter (· ≠ [])

/-- **What may be tried for a domain**: itself, where it has no records; else
the hosts of its records, by preference and host; nothing if the lookup
fails. -/
inductive Targets (network : Network) (domain : GoString) : List GoString → Prop
  | itself (h : NoRecords network domain) : Targets network domain [domain]
  | records (records ordered : List MX) (h : network.lookupMX domain = .ok records)
      (hne : records ≠ []) (hperm : ordered.Perm records)
      (hsorted : ordered.Pairwise fun a b => a.key ≤ b.key) :
      Targets network domain (hosts ordered)
  | failed (e : DNSError) (h : network.lookupMX domain = .error e) (hfound : e.isNotFound = false) :
      Targets network domain []

theorem recordTargets_null {records : List MX} (h : ∃ record ∈ records, record.IsNull)
    (domain : GoString) :
    recordTargets domain records = .error (.wrap .errRelayPermanent
      (lit "recipient domain " ++ domain ++ lit " publishes null mx")) := by
  induction records with
  | nil =>
    obtain ⟨record, hmem, _⟩ := h
    exact absurd hmem List.not_mem_nil
  | cons record records ih =>
    rw [recordTargets]
    by_cases hnull : record.IsNull
    · exact if_pos hnull
    · obtain ⟨other, hmem, hother⟩ := h
      have hrest : ∃ record ∈ records, record.IsNull := by
        rcases List.mem_cons.mp hmem with rfl | hmem
        · exact absurd hother hnull
        · exact ⟨other, hmem, hother⟩
      simp only [if_neg (show ¬ trimSpace record.host = lit "." from hnull), ih hrest]

theorem recordTargets_hosts {records : List MX} (h : ∀ record ∈ records, ¬ record.IsNull)
    (domain : GoString) : recordTargets domain records = .ok (hosts records) := by
  induction records with
  | nil => rfl
  | cons record records ih =>
    rw [List.forall_mem_cons] at h
    simp only [recordTargets, if_neg (show ¬ trimSpace record.host = lit "." from h.1), ih h.2]
    by_cases hblank : trimSpace record.host = []
    · simp [hosts, hblank]
    · simp [hosts, hblank]

theorem nullMX_iff {network : Network} {domain : GoString} {records : List MX}
    (hlookup : network.lookupMX domain = .ok records) :
    NullMX network domain ↔ ∃ record ∈ records, record.IsNull := by
  constructor
  · rintro ⟨records', h, hrecord⟩
    cases hlookup.symm.trans h
    exact hrecord
  · exact fun hrecord => ⟨records, hlookup, hrecord⟩

theorem not_nullMX_of_error {network : Network} {domain : GoString} {e : DNSError}
    (hlookup : network.lookupMX domain = .error e) : ¬ NullMX network domain := by
  rintro ⟨records, h, _⟩
  cases hlookup.symm.trans h

/-- What `lookupTargets` answers: a permanent error for a null MX, no target,
or all that may be tried. -/
theorem lookupTargets_cases (network : Network) (domain : GoString) :
    (NullMX network domain ∧ ∃ message,
      lookupTargets network domain = .error (.wrap .errRelayPermanent message)) ∨
    (¬ NullMX network domain ∧ Targets network domain [] ∧ ∃ e,
      lookupTargets network domain = .error e ∧ e.is .errRelayPermanent = false) ∨
    (¬ NullMX network domain ∧ ∃ targets, targets ≠ [] ∧ Targets network domain targets ∧
      lookupTargets network domain = .ok targets) := by
  cases hlookup : network.lookupMX domain with
  | error e =>
    have hnull := not_nullMX_of_error hlookup
    cases hfound : e.isNotFound with
    | true =>
      refine .inr (.inr ⟨hnull, [domain], List.cons_ne_nil _ _, ?_, ?_⟩)
      · exact .itself (.inr ⟨e, hlookup, hfound⟩)
      · simp only [lookupTargets, hlookup, hfound, if_true]
    | false =>
      refine .inr (.inl ⟨hnull, .failed e hlookup hfound, .lookup e, ?_, rfl⟩)
      simp [lookupTargets, hlookup, hfound]
  | ok records =>
    rw [nullMX_iff hlookup]
    by_cases hempty : records = []
    · subst hempty
      refine .inr (.inr ⟨by simp, [domain], List.cons_ne_nil _ _, .itself (.inl hlookup), ?_⟩)
      simp [lookupTargets, hlookup]
    -- The records are sorted before the null MX is looked for, which does not
    -- change whether there is one.
    have hmem : ∀ record, record ∈ sortRecords records ↔ record ∈ records :=
      fun record => (sortRecords_perm records).mem_iff
    by_cases hnull : ∃ record ∈ records, record.IsNull
    · refine .inl ⟨hnull, lit "recipient domain " ++ domain ++ lit " publishes null mx", ?_⟩
      have hsorted : ∃ record ∈ sortRecords records, record.IsNull := by
        simpa only [hmem] using hnull
      simp only [lookupTargets, hlookup, if_neg hempty, recordTargets_null hsorted domain]
    · have hsorted : ∀ record ∈ sortRecords records, ¬ record.IsNull := by
        simpa only [hmem, not_exists, not_and] using hnull
      have htargets : Targets network domain (hosts (sortRecords records)) :=
        .records records _ hlookup hempty (sortRecords_perm records) (sortRecords_sorted records)
      by_cases hblank : hosts (sortRecords records) = []
      · refine .inr (.inl ⟨hnull, hblank ▸ htargets,
          .plain (lit "recipient mx records for " ++ domain ++ lit " contain no hosts"), ?_, rfl⟩)
        simp only [lookupTargets, hlookup, if_neg hempty, recordTargets_hosts hsorted domain,
          if_pos hblank]
      · refine .inr (.inr ⟨hnull, _, hblank, htargets, ?_⟩)
        simp only [lookupTargets, hlookup, if_neg hempty, recordTargets_hosts hsorted domain,
          if_neg hblank]

/-! ## One target after the other -/

/-- The target took the message. -/
def TargetAttempt.Succeeded (made : TargetAttempt) : Prop := made.err = none

/-- The target answered with a 5xx reply. -/
def TargetAttempt.Rejected (made : TargetAttempt) : Prop :=
  ∃ code message, made.err = some (.reply code message) ∧ 500 ≤ code ∧ code < 600

theorem TargetAttempt.rejected_iff {made : TargetAttempt} :
    made.Rejected ↔ isPermanentSMTPError made.err = true := by
  obtain ⟨target, address, err⟩ := made
  cases err with
  | none => simp [Rejected, isPermanentSMTPError]
  | some err =>
    cases err with
    | reply code message => simp [Rejected, isPermanentSMTPError]
    | other message => simp [Rejected, isPermanentSMTPError]

/-- Nothing is tried behind the attempt. -/
def TargetAttempt.Ends (made : TargetAttempt) : Prop := made.Succeeded ∨ made.Rejected

section Attempts

variable {attempt : Nat → GoString → TargetAttempt} {number : Nat} {target : GoString}

theorem relayTargets_cons_ends (h : (attempt number target).Ends) (lastErr : Option TargetError)
    (targets : List GoString) :
    relayTargets attempt number lastErr (target :: targets) =
      ([attempt number target],
        (attempt number target).err.map fun err => directRelayError (some err)) := by
  rcases h with h | h
  · simp only [relayTargets, show (attempt number target).err = none from h, Option.map_none]
  · rw [TargetAttempt.rejected_iff] at h
    cases herr : (attempt number target).err with
    | none => simp only [relayTargets, herr, Option.map_none]
    | some err =>
      rw [herr] at h
      simp only [relayTargets, herr, h, if_true, Option.map_some]

theorem relayTargets_cons_goes_on (h : ¬ (attempt number target).Ends)
    (lastErr : Option TargetError) (targets : List GoString) :
    relayTargets attempt number lastErr (target :: targets) =
      (attempt number target ::
          (relayTargets attempt (number + 1) (attempt number target).err targets).1,
        (relayTargets attempt (number + 1) (attempt number target).err targets).2) := by
  rw [TargetAttempt.Ends, not_or, TargetAttempt.rejected_iff] at h
  cases herr : (attempt number target).err with
  | none => exact absurd herr h.1
  | some err =>
    rw [herr] at h
    simp only [relayTargets, herr, if_neg h.2]

/-- **What the attempts at a list of targets are**: in their order, from the
first, until one ends the delivery. -/
structure Tried (attempt : Nat → GoString → TargetAttempt) (number : Nat)
    (lastErr : Option TargetError) (targets : List GoString) (attempts : List TargetAttempt)
    (result : Option RelayError) : Prop where
  made : ∀ i made, attempts[i]? = some made → made = attempt (number + i) made.target
  inOrder : attempts.map (·.target) <+: targets
  untilEnd : attempts.map (·.target) = targets ∨ ∃ last ∈ attempts.getLast?, last.Ends
  goesOn : ∀ made ∈ attempts.dropLast, ¬ made.Ends
  delivered : result = none ↔ ∃ made ∈ attempts, made.Succeeded
  error : ∀ err, result = some err →
    err = directRelayError ((attempts.getLast?.map (·.err)).getD lastErr)

/-- An attempt that ends the delivery is the only one. -/
theorem Tried.of_ends (htarget : (attempt number target).target = target)
    (hends : (attempt number target).Ends) (lastErr : Option TargetError)
    (targets : List GoString) :
    Tried attempt number lastErr (target :: targets) [attempt number target]
      ((attempt number target).err.map fun err => directRelayError (some err)) where
  made i made h := by
    cases i with
    | zero =>
      cases h
      rw [htarget]
      rfl
    | succ i => cases h
  inOrder := by simp [htarget]
  untilEnd := .inr ⟨_, rfl, hends⟩
  goesOn made h := absurd h List.not_mem_nil
  delivered := by simp [TargetAttempt.Succeeded]
  error err h := by
    obtain ⟨e, he, rfl⟩ := Option.map_eq_some_iff.mp h
    simp [he]

/-- Behind an attempt that does not end it the delivery goes on. -/
theorem Tried.of_goes_on {targets : List GoString} {attempts : List TargetAttempt}
    {result : Option RelayError} (htarget : (attempt number target).target = target)
    (hends : ¬ (attempt number target).Ends)
    (h : Tried attempt (number + 1) (attempt number target).err targets attempts result)
    (lastErr : Option TargetError) :
    Tried attempt number lastErr (target :: targets) (attempt number target :: attempts) result where
  made i made hmade := by
    cases i with
    | zero =>
      cases hmade
      rw [htarget]
      rfl
    | succ i =>
      have hlater := h.made i made hmade
      rwa [Nat.add_assoc, Nat.add_comm 1 i] at hlater
  inOrder := by
    rw [List.map_cons, htarget]
    exact (List.prefix_cons_inj target).mpr h.inOrder
  untilEnd := by
    rcases h.untilEnd with hall | ⟨last, hlast, hlastEnds⟩
    · exact .inl (by rw [List.map_cons, htarget, hall])
    · refine .inr ⟨last, ?_, hlastEnds⟩
      rw [List.getLast?_cons, Option.mem_def.mp hlast]
      rfl
  goesOn := by
    cases attempts with
    | nil => exact fun made hmem => absurd hmem List.not_mem_nil
    | cons next attempts =>
      rw [List.dropLast_cons_cons, List.forall_mem_cons]
      exact ⟨hends, h.goesOn⟩
  delivered := by
    rw [h.delivered, List.exists_mem_cons_iff]
    exact (or_iff_right fun hsucceeded => hends (.inl hsucceeded)).symm
  error err herr := by
    -- Without a later attempt the last error is the one of this attempt.
    rw [h.error err herr, List.getLast?_cons]
    cases attempts.getLast? with
    | none => rfl
    | some last => rfl

theorem relayTargets_tried (htarget : ∀ n t, (attempt n t).target = t) (number : Nat)
    (lastErr : Option TargetError) (targets : List GoString) :
    Tried attempt number lastErr targets (relayTargets attempt number lastErr targets).1
      (relayTargets attempt number lastErr targets).2 := by
  induction targets generalizing number lastErr with
  | nil =>
    refine ⟨by simp [relayTargets], by simp [relayTargets], .inl rfl, by simp [relayTargets],
      by simp [relayTargets], ?_⟩
    rintro err ⟨⟩
    rfl
  | cons target targets ih =>
    by_cases hends : (attempt number target).Ends
    · rw [relayTargets_cons_ends hends]
      exact .of_ends (htarget _ _) hends lastErr targets
    · rw [relayTargets_cons_goes_on hends]
      exact .of_goes_on (htarget _ _) hends (ih _ _) lastErr

end Attempts

/-! ## The recipients' domain -/

theorem mem_groupRecipient {grouped : List (GoString × List Address)} {recipient : Address}
    {domain : GoString} :
    domain ∈ (groupRecipient grouped recipient).map (·.1) ↔
      domain ∈ grouped.map (·.1) ∨ domain = recipient.domain := by
  rw [groupRecipient]
  split
  · rename_i hany
    obtain ⟨group, hgroup, hdomain⟩ := List.any_eq_true.mp hany
    have hkeys : (grouped.map fun group =>
        if group.1 = recipient.domain then (group.1, group.2 ++ [recipient]) else group).map (·.1) =
        grouped.map (·.1) := by
      rw [List.map_map]
      refine List.map_congr_left fun group _ => ?_
      rw [Function.comp_apply]
      split
      · rfl
      · rfl
    rw [hkeys, iff_self_or]
    rintro rfl
    exact of_decide_eq_true hdomain ▸ List.mem_map_of_mem hgroup
  · simp

theorem mem_groupRecipientsByDomain {recipients : List Address} {domain : GoString} :
    domain ∈ (groupRecipientsByDomain recipients).map (·.1) ↔
      ∃ recipient ∈ recipients, recipient.domain = domain := by
  have hfold : ∀ grouped, domain ∈ (recipients.foldl groupRecipient grouped).map (·.1) ↔
      domain ∈ grouped.map (·.1) ∨ ∃ recipient ∈ recipients, recipient.domain = domain := by
    induction recipients with
    | nil => simp
    | cons recipient recipients ih =>
      intro grouped
      rw [List.foldl_cons, ih, mem_groupRecipient, List.exists_mem_cons_iff, or_assoc,
        eq_comm (a := domain)]
  rw [groupRecipientsByDomain, hfold]
  simp

/-- Recipients of one domain are one group, in their order. -/
theorem groupRecipientsByDomain_one {recipients : List Address} {domain : GoString}
    (hne : recipients ≠ []) (h : ∀ recipient ∈ recipients, recipient.domain = domain) :
    groupRecipientsByDomain recipients = [(domain, recipients)] := by
  have hfold : ∀ (later before : List Address), (∀ recipient ∈ later, recipient.domain = domain) →
      later.foldl groupRecipient [(domain, before)] = [(domain, before ++ later)] := by
    intro later
    induction later with
    | nil => simp
    | cons recipient later ih =>
      intro before hlater
      rw [List.forall_mem_cons] at hlater
      have hgroup : groupRecipient [(domain, before)] recipient =
          [(domain, before ++ [recipient])] := by simp [groupRecipient, hlater.1]
      rw [List.foldl_cons, hgroup, ih _ hlater.2]
      simp
  obtain ⟨first, later, rfl⟩ := List.exists_cons_of_ne_nil hne
  rw [List.forall_mem_cons] at h
  have hfirst : groupRecipient [] first = [(domain, [first])] := by simp [groupRecipient, h.1]
  rw [groupRecipientsByDomain, List.foldl_cons, hfirst, hfold later [first] h.2]
  rfl

theorem one_lt_length_groups {recipients : List Address} (h : SeveralDomains recipients) :
    1 < (groupRecipientsByDomain recipients).length := by
  obtain ⟨r, hr, r', hr', hne⟩ := h
  have hmem := mem_groupRecipientsByDomain.mpr ⟨r, hr, rfl⟩
  have hmem' := mem_groupRecipientsByDomain.mpr ⟨r', hr', rfl⟩
  rw [← List.length_map (·.1)]
  generalize (groupRecipientsByDomain recipients).map (·.1) = domains at hmem hmem'
  cases domains with
  | nil => cases hmem
  | cons domain domains =>
    cases domains with
    | nil =>
      exact absurd ((List.mem_singleton.mp hmem).trans (List.mem_singleton.mp hmem').symm) hne
    | cons domain' domains => simp

theorem relayDomains_one (relay : DirectMXRelay) (network : Network) (sender : Address)
    (data : GoString) (number : Nat) (domain : GoString) (recipients : List Address) :
    relayDomains relay network sender data number [(domain, recipients)] =
      relayDomain relay network number domain sender recipients data := by
  rw [relayDomains]
  rcases relayDomain relay network number domain sender recipients data with ⟨attempts, _ | err⟩
  · simp [relayDomains]
  · rfl

/-! ## The whole delivery -/

/-- No host is tried: the recipients span several domains, or theirs has a
null MX. -/
def Refused (network : Network) (recipients : List Address) : Prop :=
  SeveralDomains recipients ∨ ∃ recipient ∈ recipients, NullMX network recipient.domain

/-- **What a delivery is to be**, given what was tried and how it ended. -/
structure Delivery (relay : DirectMXRelay) (network : Network) (message : RawMessage)
    (attempts : List TargetAttempt) (result : Option RelayError) : Prop where
  made : ∀ i made, attempts[i]? = some made →
    made = attemptTarget relay network message.sender message.recipients message.data i made.target
  refused : Refused network message.recipients → attempts = []
  inOrder : ¬ Refused network message.recipients → ∀ recipient ∈ message.recipients,
    ∃ targets, Targets network recipient.domain targets ∧ attempts.map (·.target) <+: targets ∧
      (attempts.map (·.target) = targets ∨ ∃ last ∈ attempts.getLast?, last.Ends)
  goesOn : ∀ made ∈ attempts.dropLast, ¬ made.Ends
  delivered : result = none ↔ ∃ made ∈ attempts, made.Succeeded
  once : attempts.countP (·.err = none) ≤ 1
  error : ∀ err, result = some err →
    err.is .errRelayPermanent ≠ err.is .errRelayTemporary ∧
      (err.is .errRelayPermanent = true ↔ Refused network message.recipients ∨
        ∃ last ∈ attempts.getLast?, last.Rejected)

theorem directRelayError_is (err : Option TargetError) :
    (directRelayError err).is .errRelayPermanent ≠ (directRelayError err).is .errRelayTemporary ∧
      ((directRelayError err).is .errRelayPermanent = true ↔ isPermanentSMTPError err = true) := by
  rw [directRelayError]
  by_cases h : isPermanentSMTPError err = true
  · rw [if_pos h]
    simp [RelayError.is, h]
  · rw [if_neg h]
    simp [RelayError.is, h]

theorem countP_succeeded {attempts : List TargetAttempt}
    (h : ∀ made ∈ attempts.dropLast, ¬ made.Ends) : attempts.countP (·.err = none) ≤ 1 := by
  rcases List.eq_nil_or_concat attempts with rfl | ⟨front, last, rfl⟩
  · simp
  · rw [List.concat_eq_append, List.dropLast_concat] at h
    have hfront : front.countP (·.err = none) = 0 :=
      List.countP_eq_zero.mpr fun made hmem hnone =>
        h made hmem (.inl (show made.err = none from of_decide_eq_true hnone))
    rw [List.concat_eq_append, List.countP_append, hfront, Nat.zero_add]
    exact List.countP_le_length

/-- Without an attempt there is only the error to look at. -/
theorem Delivery.of_no_attempt {relay : DirectMXRelay} {network : Network} {message : RawMessage}
    {err : RelayError}
    (htargets : ¬ Refused network message.recipients → ∀ recipient ∈ message.recipients,
      Targets network recipient.domain [])
    (hone : err.is .errRelayPermanent ≠ err.is .errRelayTemporary)
    (hpermanent : err.is .errRelayPermanent = true ↔ Refused network message.recipients) :
    Delivery relay network message [] (some err) where
  made i made h := by cases h
  refused _ := rfl
  inOrder h recipient hmem := ⟨[], htargets h recipient hmem, List.prefix_rfl, .inl rfl⟩
  goesOn made h := absurd h List.not_mem_nil
  delivered := by simp
  once := by simp
  error e he := by
    cases he
    exact ⟨hone, by simp [hpermanent]⟩

theorem Delivery.of_tried {relay : DirectMXRelay} {network : Network} {message : RawMessage}
    {targets : List GoString} {attempts : List TargetAttempt} {result : Option RelayError}
    (hgoes : ¬ Refused network message.recipients)
    (htargets : ∀ recipient ∈ message.recipients, Targets network recipient.domain targets)
    (hne : targets ≠ [])
    (h : Tried (attemptTarget relay network message.sender message.recipients message.data) 0 none
      targets attempts result) : Delivery relay network message attempts result where
  made i made hmade := by
    have := h.made i made hmade
    rwa [Nat.zero_add] at this
  refused hrefused := absurd hrefused hgoes
  inOrder _ recipient hmem := ⟨targets, htargets recipient hmem, h.inOrder, h.untilEnd⟩
  goesOn := h.goesOn
  delivered := h.delivered
  once := countP_succeeded h.goesOn
  error err herr := by
    obtain ⟨last, hlast⟩ : ∃ last, attempts.getLast? = some last := by
      rcases h.untilEnd with hall | ⟨last, hlast, _⟩
      · have hmade : attempts ≠ [] := by
          rintro rfl
          exact hne hall.symm
        exact ⟨_, List.getLast?_eq_some_getLast hmade⟩
      · exact ⟨last, hlast⟩
    have hmade := h.error err herr
    rw [hlast] at hmade
    obtain ⟨hone, hpermanent⟩ := directRelayError_is last.err
    rw [hmade]
    refine ⟨hone, hpermanent.trans ?_⟩
    rw [or_iff_right hgoes, ← TargetAttempt.rejected_iff, hlast]
    simp

/-- **Order and outcome of a direct delivery.** -/
theorem direct_relay_outcome (relay : DirectMXRelay) (network : Network) (message : RawMessage)
    (hne : message.recipients ≠ []) :
    Delivery relay network message (relay.relay network message).1
      (relay.relay network message).2 := by
  by_cases hseveral : SeveralDomains message.recipients
  · have hlen := one_lt_length_groups hseveral
    rw [DirectMXRelay.relay]
    simp only [List.length_insertionSort, if_pos hlen]
    exact .of_no_attempt (fun h => absurd (.inl hseveral) h) (by decide)
      (iff_of_true rfl (.inl hseveral))
  obtain ⟨first, later, hfirst⟩ := List.exists_cons_of_ne_nil hne
  have hdomain : ∀ recipient ∈ message.recipients, recipient.domain = first.domain := by
    intro recipient hmem
    by_contra hother
    exact hseveral ⟨recipient, hmem, first, hfirst ▸ List.mem_cons_self, hother⟩
  have hrelay : relay.relay network message =
      relayDomain relay network 0 first.domain message.sender message.recipients message.data := by
    rw [DirectMXRelay.relay, groupRecipientsByDomain_one hne hdomain]
    exact relayDomains_one relay network message.sender message.data 0 _ _
  have hrefused : Refused network message.recipients ↔ NullMX network first.domain := by
    refine (or_iff_right hseveral).trans ?_
    constructor
    · rintro ⟨recipient, hmem, hnull⟩
      rwa [hdomain recipient hmem] at hnull
    · exact fun hnull => ⟨first, hfirst ▸ List.mem_cons_self, hnull⟩
  rw [hrelay, relayDomain]
  rcases lookupTargets_cases network first.domain with ⟨hnull, text, hlookup⟩ |
    ⟨hnull, htargets, e, hlookup, htemporary⟩ | ⟨hnull, targets, htargetsNe, htargets, hlookup⟩
  · have his : (RelayError.wrap .errRelayPermanent text).is .errRelayPermanent = true := by
      simp [RelayError.is]
    simp only [hlookup, his, if_true]
    refine .of_no_attempt (fun h => absurd (hrefused.mpr hnull) h) (by simp [RelayError.is])
      (iff_of_true his (hrefused.mpr hnull))
  · simp only [hlookup, htemporary]
    refine .of_no_attempt (fun _ recipient hmem => hdomain recipient hmem ▸ htargets)
      (by simp [RelayError.is]) (iff_of_false (by simp [RelayError.is]) (mt hrefused.mp hnull))
  · simp only [hlookup]
    exact .of_tried (mt hrefused.mp hnull) (fun recipient hmem => hdomain recipient hmem ▸ htargets)
      htargetsNe (relayTargets_tried (fun _ _ => rfl) 0 none targets)

/-- Four records, one blank; the first host that is tried asks to come back
later. -/
def greylistingNetwork : Network where
  lookupMX _ := .ok [⟨lit "b.y.io.", 10⟩, ⟨lit "c.y.io.", 20⟩, ⟨lit " ", 1⟩, ⟨lit "a.y.io.", 10⟩]
  dialogue number _ :=
    ⟨none, none, none, fun _ => none, false, none, fun _ => none,
      fun _ => if number = 0 then some (.reply 451 (lit "later")) else none, none, fun _ => none, none⟩

def greylistedMessage : RawMessage :=
  ⟨lit "id", ⟨lit "a@x.io", lit "x.io"⟩, [⟨lit "b@y.io", lit "y.io"⟩], lit "hi\r\n"⟩

theorem direct_relay_outcome_greylisted :
    (DirectMXRelay.relay ⟨lit "x.io", 30⟩ greylistingNetwork greylistedMessage).1.map (·.address) =
        [lit "a.y.io:25", lit "b.y.io:25"] ∧
      Delivery ⟨lit "x.io", 30⟩ greylistingNetwork greylistedMessage
        (DirectMXRelay.relay ⟨lit "x.io", 30⟩ greylistingNetwork greylistedMessage).1
        (DirectMXRelay.relay ⟨lit "x.io", 30⟩ greylistingNetwork greylistedMessage).2 :=
  ⟨by decide +kernel, direct_relay_outcome _ _ _ (by decide)⟩

end Pinguin.Submission
