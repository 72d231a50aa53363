/-
Pinguin.SmtpIdentity.LoopTheorems — shared addresses that forward in a
circle.

A successful creation or update of forwarding redirects one address: it
changes the edges out of that address, and no others. The code compares the
new recipients with the address itself; whether the edges close a circle
depends on where the recipients lead.
-/
import Pinguin.Lib.Acyclic
import Pinguin.SmtpIdentity.OwnerTheorems

namespace Pinguin.SmtpIdentity

open Pinguin.Go Pinguin.Lib Relation

/-! ## The forwarding graph -/

/-- The address is that of an active identity. -/
def ActiveAddress (store : Store) (address : GoString) : Prop :=
  ∃ row ∈ store.identities.rows, row.status = .active ∧ row.emailAddress = address

/-- The active identity of the address forwards to the recipient. -/
def Lists (store : Store) (address recipient : GoString) : Prop :=
  ∃ row ∈ store.identities.rows, row.status = .active ∧ row.emailAddress = address ∧
    ∃ record ∈ store.recipients, record.identityID = row.id ∧ record.emailAddress = recipient

/-- From one active shared address to the next. -/
def Forwards (store : Store) (address next : GoString) : Prop :=
  Lists store address next ∧ ActiveAddress store next

instance decidableForwards (store : Store) (address next : GoString) :
    Decidable (Forwards store address next) :=
  inferInstanceAs (Decidable ((∃ row ∈ store.identities.rows, row.status = .active ∧
      row.emailAddress = address ∧ ∃ record ∈ store.recipients, record.identityID = row.id ∧
        record.emailAddress = next) ∧
    ∃ row ∈ store.identities.rows, row.status = .active ∧ row.emailAddress = next))

/-- No way along active shared addresses returns to its start. -/
def LoopFree (store : Store) : Prop := Acyclic (Forwards store)

variable {crypto : Crypto} {scope : AccessScope} {store store' : Store}

/-- On a circle every address is active: each forwards to the next. -/
theorem loopFree_iff : LoopFree store ↔ Acyclic (Lists store) := by
  have hactive : ∀ {address recipient}, Lists store address recipient →
      ActiveAddress store address := by
    rintro address recipient ⟨row, hmem, hstatus, haddress, -⟩
    exact ⟨row, hmem, hstatus, haddress⟩
  constructor
  · -- A way over listed recipients that ends at an active address is a way
    -- over active addresses; on a circle the end is active, as it goes on.
    intro hfree address hcycle
    have hforwards : ∀ last, TransGen (Lists store) address last → ActiveAddress store last →
        TransGen (Forwards store) address last := by
      intro last hway
      induction hway with
      | single hstep => exact fun hlast => .single ⟨hstep, hlast⟩
      | tail _ hstep ih => exact fun hlast => (ih (hactive hstep)).tail ⟨hstep, hlast⟩
    obtain ⟨next, hstep, -⟩ := TransGen.head'_iff.mp hcycle
    exact hfree address (hforwards address hcycle (hactive hstep))
  · exact fun hacyclic => hacyclic.mono fun _ _ hstep => hstep.1

/-! ## Requests -/

/-- The address a request redirects, and its new recipients. -/
def redirected (store : Store) (call : ScopedCall) : Option (GoString × List Address) :=
  match call.request with
  | .create address recipients .. => some (address.value, recipients)
  | .updateForwarding identityID recipients _ =>
    match requireIdentityForScope store call.scope identityID with
    | .error _ => none
    | .ok record => some (record.emailAddress, recipients)
  | _ => none

/-- If the request succeeds, none of the new recipients leads, over active
identities, to the address it redirects. -/
def NoWayBack (crypto : Crypto) (store : Store) (call : ScopedCall) : Prop :=
  (∀ e, (call.request.run crypto call.scope store).1 ≠ .failed e) →
    ∀ address recipients, redirected store call = some (address, recipients) →
      ∀ recipient ∈ recipients, ¬ ReflTransGen (Lists store) recipient.value address

/-- Requests one after another. -/
def requestStep (crypto : Crypto) (store : Store) (call : ScopedCall) : Option Store :=
  some (call.request.run crypto call.scope store).2

/-- Every recipient belongs to a stored identity. -/
def RecipientsOwned (store : Store) : Prop :=
  ∀ record ∈ store.recipients, ∃ row ∈ store.identities.rows, row.id = record.identityID

/-! ## Edges after a write -/

/-- Only the edges out of the written row's address move. -/
theorem sameFrom_wrote {row : Identity} {recipients : List ForwardRecipient}
    (hwrote : Wrote store store' row recipients)
    (hold : ∀ old ∈ store.identities.rows, old.id = row.id → old.emailAddress = row.emailAddress)
    (hothers : ∀ record : ForwardRecipient, record.identityID ≠ row.id →
      (record ∈ store.recipients ↔ record ∈ recipients)) :
    SameFrom row.emailAddress (Lists store) (Lists store') := by
  intro address recipient hne
  constructor
  · rintro ⟨other, hmem, hactive, haddress, record, hrecord, hid, hrecipient⟩
    rw [hwrote.identities, Table.mem_put] at hmem
    rw [hwrote.recipients] at hrecord
    rcases hmem with ⟨hmem, hother⟩ | rfl
    · exact ⟨other, hmem, hactive, haddress, record, (hothers record (hid ▸ hother)).mpr hrecord,
        hid, hrecipient⟩
    · exact absurd haddress.symm hne
  · rintro ⟨other, hmem, hactive, haddress, record, hrecord, hid, hrecipient⟩
    have hother : other.id ≠ row.id := fun hsame =>
      hne (haddress.symm.trans (hold other hmem hsame))
    refine ⟨other, ?_, hactive, haddress, record, ?_, hid, hrecipient⟩
    · rw [hwrote.identities, Table.mem_put]
      exact .inl ⟨hmem, hother⟩
    · rw [hwrote.recipients]
      exact (hothers record (hid ▸ hother)).mp hrecord

/-- The edges out of the written row's address. -/
theorem lists_wrote {row : Identity} {recipients : List ForwardRecipient}
    (hwrote : Wrote store store' row recipients) (hactive : row.status = .active)
    (recipient : GoString) : Lists store' row.emailAddress recipient ↔
      ∃ record ∈ recipients, record.identityID = row.id ∧ record.emailAddress = recipient := by
  constructor
  · rintro ⟨other, hmem, -, haddress, record, hrecord, hid, hrecipient⟩
    have hsame : other = row := Table.eq_of_key hmem hwrote.mem
      (store'.addressIndex other hmem row hwrote.mem haddress)
    rw [hwrote.recipients] at hrecord
    exact ⟨record, hrecord, hid.trans (by rw [hsame]), hrecipient⟩
  · rintro ⟨record, hrecord, hid, hrecipient⟩
    exact ⟨row, hwrote.mem, hactive, rfl, record, hwrote.recipients ▸ hrecord, hid, hrecipient⟩

theorem mem_added_own {id : GoString} {recipients : List Address} {now : Int}
    {before : List ForwardRecipient} (hnone : ∀ record ∈ before, record.identityID ≠ id)
    {recipient : GoString} :
    (∃ record ∈ before ++ forwardRecipientRecords id recipients now, record.identityID = id ∧
      record.emailAddress = recipient) ↔ ∃ address ∈ recipients, address.value = recipient := by
  constructor
  · rintro ⟨record, hrecord, hid, hrecipient⟩
    rcases List.mem_append.mp hrecord with hbefore | hnew
    · exact absurd hid (hnone record hbefore)
    · obtain ⟨address, hmem, rfl⟩ := mem_forwardRecipientRecords.mp hnew
      exact ⟨address, hmem, hrecipient⟩
  · rintro ⟨address, hmem, hrecipient⟩
    exact ⟨⟨id, address.value, now, now⟩, List.mem_append_right _
      (mem_forwardRecipientRecords.mpr ⟨address, hmem, rfl⟩), rfl, hrecipient⟩

theorem mem_replaced_own {id : GoString} {recipients : List Address} {now : Int}
    {recipient : GoString} :
    (∃ record ∈ replacedRecipients store id recipients now, record.identityID = id ∧
      record.emailAddress = recipient) ↔ ∃ address ∈ recipients, address.value = recipient :=
  mem_added_own fun _ hmem => by simpa using (List.mem_filter.mp hmem).2

/-- A row written over one of its own address, with its recipients kept,
adds no edge unless it becomes active. -/
theorem lists_of_rewrote {row old : Identity} (hwrote : Wrote store store' row store.recipients)
    (hold : old ∈ store.identities.rows) (hid : row.id = old.id)
    (haddress : row.emailAddress = old.emailAddress)
    (hactive : row.status = .active → old.status = .active) {address recipient : GoString}
    (h : Lists store' address recipient) : Lists store address recipient := by
  obtain ⟨other, hmem, hstatus, hother, record, hrecord, hrecordID, hrecipient⟩ := h
  rw [hwrote.identities, Table.mem_put] at hmem
  rw [hwrote.recipients] at hrecord
  rcases hmem with ⟨hmem, -⟩ | rfl
  · exact ⟨other, hmem, hstatus, hother, record, hrecord, hrecordID, hrecipient⟩
  · exact ⟨old, hold, hactive hstatus, haddress.symm.trans hother, record, hrecord,
      hrecordID.trans hid, hrecipient⟩

theorem lists_of_moved (hmoved : DomainsMoved scope store store') {address recipient : GoString}
    (h : Lists store' address recipient) : Lists store address recipient := by
  rw [Lists, hmoved.identities, hmoved.recipients] at h
  exact h

/-! ## One request -/

/-- What a request does to the graph: it adds no edge, or it redirects one
address. -/
inductive GraphEffect (crypto : Crypto) (store store' : Store) (call : ScopedCall) : Prop where
  | shrinks (hguard : NoWayBack crypto store call)
      (hlists : ∀ address recipient, Lists store' address recipient →
        Lists store address recipient)
  | redirects (address : GoString) (recipients : List Address)
      (hok : ∀ e, (call.request.run crypto call.scope store).1 ≠ .failed e)
      (hcall : redirected store call = some (address, recipients))
      (hsame : SameFrom address (Lists store) (Lists store'))
      (hlists : ∀ recipient, Lists store' address recipient ↔
        ∃ target ∈ recipients, target.value = recipient)

theorem noWayBack_of_not_redirected {call : ScopedCall} (h : redirected store call = none) :
    NoWayBack crypto store call := by
  intro _ address recipients hsome
  rw [h] at hsome
  cases hsome

/-- An active row was written, with these recipients for its own. -/
theorem graphEffect_wrote {row : Identity} {recipients : List ForwardRecipient} {call : ScopedCall}
    {targets : List Address} (hwrote : Wrote store store' row recipients)
    (hok : ∀ e, (call.request.run crypto call.scope store).1 ≠ .failed e)
    (hcall : redirected store call = some (row.emailAddress, targets))
    (hactive : row.status = .active)
    (hold : ∀ old ∈ store.identities.rows, old.id = row.id → old.emailAddress = row.emailAddress)
    (hothers : ∀ record : ForwardRecipient, record.identityID ≠ row.id →
      (record ∈ store.recipients ↔ record ∈ recipients))
    (howned : ∀ recipient, (∃ record ∈ recipients, record.identityID = row.id ∧
      record.emailAddress = recipient) ↔ ∃ target ∈ targets, target.value = recipient) :
    GraphEffect crypto store store' call :=
  .redirects row.emailAddress targets hok hcall (sameFrom_wrote hwrote hold hothers)
    fun recipient => (lists_wrote hwrote hactive recipient).trans (howned recipient)

/-- **Request lemma.** -/
theorem graph_effect (hown : RecipientsOwned store) (call : ScopedCall)
    (hmade : call.request.MadeAddress) :
    GraphEffect crypto store (call.request.run crypto call.scope store).2 call := by
  obtain ⟨scope, request⟩ := call
  have heffect := run_effect crypto scope store request
  simp only at hmade ⊢
  generalize hanswer : (request.run crypto scope store).1 = answer at heffect
  generalize (request.run crypto scope store).2 = store' at heffect ⊢
  cases heffect with
  | failed e hmoved =>
    exact .shrinks (fun hok => absurd hanswer (hok e)) fun _ _ => lists_of_moved hmoved
  | domain hrequest hmoved hrow hreaches =>
    refine .shrinks (noWayBack_of_not_redirected ?_) fun _ _ => lists_of_moved hmoved
    cases request with
    | createSenderDomain domain random now => rfl
    | checkSenderDomainDNS domainID env => rfl
    | _ => exact hrequest.elim
  | created hcheck hfind hfresh hwrote =>
    -- The id is new, so no stored recipient is taken for one of the new row.
    refine graphEffect_wrote hwrote (fun e he => by cases hanswer.symm.trans he) rfl rfl
      (fun old hmem hid => absurd hid (Table.get_none.mp hfresh old hmem))
      (fun record hid => mem_addedRecipients hid)
      fun recipient => mem_added_own fun record hrecord hid => ?_
    obtain ⟨row, hrow, hrowID⟩ := hown record hrecord
    exact Table.get_none.mp hfresh row hrow (hrowID.trans hid)
  | @reactivated address recipients draw random now existing _ hcheck hfind hwrote =>
    -- The deleted row had no edges; it has the address that is created again.
    obtain ⟨raw, hraw⟩ := hmade
    obtain ⟨hmem, hsame⟩ := createFind_address (newAddress_value_ne_nil hraw) hfind
    have hcall : redirected store ⟨scope, .create address recipients (some draw) random now⟩ =
        some (existing.emailAddress, recipients) := by
      rw [hsame]
      rfl
    exact graphEffect_wrote hwrote (fun e he => by cases hanswer.symm.trans he) hcall rfl
      (field_of_id Identity.emailAddress hmem rfl rfl)
      (fun record hid => mem_replacedRecipients hid) fun recipient => mem_replaced_own
  | @updated identityID recipients now record _ _ hread haddress hself hwrote =>
    obtain ⟨hmem, hactive, -⟩ := requireIdentityForScope_ok hread
    have hcall : redirected store ⟨scope, .updateForwarding identityID recipients now⟩ =
        some (record.emailAddress, recipients) := by
      simp only [redirected, hread]
    exact graphEffect_wrote hwrote (fun e he => by cases hanswer.symm.trans he) hcall hactive
      (field_of_id Identity.emailAddress hmem rfl rfl)
      (fun record hid => mem_replacedRecipients hid) fun recipient => mem_replaced_own
  | rotated hread hwrote =>
    obtain ⟨hmem, hactive, -⟩ := requireIdentityForScope_ok hread
    exact .shrinks (noWayBack_of_not_redirected rfl) fun _ _ =>
      lists_of_rewrote hwrote hmem rfl rfl fun _ => hactive
  | deleted hread hwrote =>
    obtain ⟨hmem, hactive, -⟩ := requireIdentityForScope_ok hread
    exact .shrinks (noWayBack_of_not_redirected rfl) fun _ _ =>
      lists_of_rewrote hwrote hmem rfl rfl fun _ => hactive
  | read hread => exact .shrinks (noWayBack_of_not_redirected rfl) fun _ _ h => h
  | list => exact .shrinks (noWayBack_of_not_redirected rfl) fun _ _ h => h

theorem recipientsOwned_wrote {row : Identity} {recipients : List ForwardRecipient}
    (hown : RecipientsOwned store) (hwrote : Wrote store store' row recipients)
    (hothers : ∀ record : ForwardRecipient, record.identityID ≠ row.id →
      (record ∈ store.recipients ↔ record ∈ recipients)) : RecipientsOwned store' := by
  intro record hrecord
  by_cases hid : record.identityID = row.id
  · exact ⟨row, hwrote.mem, hid.symm⟩
  · rw [hwrote.recipients] at hrecord
    obtain ⟨other, hmem, hother⟩ := hown record ((hothers record hid).mpr hrecord)
    refine ⟨other, ?_, hother⟩
    rw [hwrote.identities, Table.mem_put]
    exact .inl ⟨hmem, hother ▸ hid⟩

theorem recipientsOwned_moved (hown : RecipientsOwned store)
    (hmoved : DomainsMoved scope store store') : RecipientsOwned store' := by
  rw [RecipientsOwned, hmoved.identities, hmoved.recipients]
  exact hown

/-- **Step lemma.** -/
theorem recipientsOwned_run (hown : RecipientsOwned store) (request : ScopedRequest) :
    RecipientsOwned (request.run crypto scope store).2 := by
  have heffect := run_effect crypto scope store request
  generalize (request.run crypto scope store).1 = answer at heffect
  generalize (request.run crypto scope store).2 = store' at heffect ⊢
  cases heffect with
  | failed e hmoved => exact recipientsOwned_moved hown hmoved
  | domain hrequest hmoved hrow hreaches => exact recipientsOwned_moved hown hmoved
  | created hcheck hfind hfresh hwrote =>
    exact recipientsOwned_wrote hown hwrote fun record hid => mem_addedRecipients hid
  | reactivated hcheck hfind hwrote =>
    exact recipientsOwned_wrote hown hwrote fun record hid => mem_replacedRecipients hid
  | updated hread haddress hself hwrote =>
    exact recipientsOwned_wrote hown hwrote fun record hid => mem_replacedRecipients hid
  | rotated hread hwrote => exact recipientsOwned_wrote hown hwrote fun _ _ => Iff.rfl
  | deleted hread hwrote => exact recipientsOwned_wrote hown hwrote fun _ _ => Iff.rfl
  | read hread => exact hown
  | list => exact hown

/-- From a store without a circle, a request leads to one without exactly if
it leaves no way back. -/
theorem loopFree_run_iff (hown : RecipientsOwned store) (hfree : LoopFree store)
    (call : ScopedCall) (hmade : call.request.MadeAddress) :
    LoopFree (call.request.run crypto call.scope store).2 ↔ NoWayBack crypto store call := by
  rw [loopFree_iff] at hfree ⊢
  have heffect : GraphEffect crypto store (call.request.run crypto call.scope store).2 call :=
    graph_effect hown call hmade
  cases heffect with
  | shrinks hguard hlists => exact iff_of_true (hfree.mono hlists) hguard
  | redirects address recipients hok hcall hsame hlists =>
    rw [hsame.acyclic_iff hfree]
    constructor
    · intro hback _ address' recipients' hcall' target htarget
      cases hcall.symm.trans hcall'
      exact hback target.value ((hlists target.value).mpr ⟨target, htarget, rfl⟩)
    · intro hguard recipient hrecipient
      obtain ⟨target, htarget, rfl⟩ := (hlists recipient).mp hrecipient
      exact hguard hok address recipients hcall target htarget

/-! ## The result -/

theorem loopFree_empty : LoopFree Store.empty := by
  intro address hcycle
  obtain ⟨next, ⟨⟨row, hmem, -⟩, -⟩, -⟩ := TransGen.head'_iff.mp hcycle
  exact absurd hmem List.not_mem_nil

/-- **Forwarding loops.** In a run from the empty store no store has a
circle of shared addresses exactly if every successful creation and update
of forwarding names only recipients from which no way over active identities
leads to the address it is for. The check the code makes, that the address
is not its own recipient, is the case of the empty way. -/
theorem forwarding_loops_iff (crypto : Crypto) (calls : List ScopedCall)
    (hcalls : ∀ call ∈ calls, call.request.MadeAddress) :
    (∀ n store, exec (requestStep crypto) Store.empty (calls.take n) = some store →
      LoopFree store) ↔
    Guarded (requestStep crypto) (NoWayBack crypto) Store.empty calls := by
  have hinv : ∀ store call store', call.request.MadeAddress → RecipientsOwned store →
      requestStep crypto store call = some store' → RecipientsOwned store' := by
    intro store call store' _ hown hstep
    rw [requestStep, Option.some.injEq] at hstep
    exact hstep ▸ recipientsOwned_run hown call.request
  exact guarded_iff hinv
    (fun store call hmade hown hfree => ⟨_, rfl, loopFree_run_iff hown hfree call hmade⟩)
    calls Store.empty hcalls (fun _ h => absurd h List.not_mem_nil) loopFree_empty

/-- The creation of a shared address of `x.io` that forwards to another. -/
def exampleForwarding (address recipient : String) (random : UInt8) (now : Int) : ScopedCall :=
  ⟨exampleScope, .create ⟨lit address, lit "x.io"⟩ [⟨lit recipient, lit "x.io"⟩]
    (some (exampleDraw random)) (List.replicate 16 random) now⟩

/-- The domain `x.io` is registered and verified, and `a@x.io` forwards to
`b@x.io`, which forwards to the given address. -/
def exampleForwards (last : String) : List ScopedCall :=
  [⟨exampleScope, .createSenderDomain (lit "X.io.") (some (List.replicate 24 0)) 1⟩,
    ⟨exampleScope, .checkSenderDomainDNS 1 ⟨lit "mx.x.io", publishedDNS, none, 2, 3⟩⟩,
    exampleForwarding "a@x.io" "b@x.io" 0 4, exampleForwarding "b@x.io" last 1 5]

theorem exampleForwards_made (last : String) :
    ∀ call ∈ exampleForwards last, call.request.MadeAddress := by
  have ha : newAddress (lit "a@x.io") = .ok ⟨lit "a@x.io", lit "x.io"⟩ := by decide
  have hb : newAddress (lit "b@x.io") = .ok ⟨lit "b@x.io", lit "x.io"⟩ := by decide
  intro call hmem
  simp only [exampleForwards, List.mem_cons, List.not_mem_nil, or_false] at hmem
  rcases hmem with rfl | rfl | rfl | rfl
  · trivial
  · trivial
  · exact ⟨lit "a@x.io", ha⟩
  · exact ⟨lit "b@x.io", hb⟩

/-- No way leads on from a recipient that is not a shared address. -/
theorem noWayBack_of_foreign {call : ScopedCall} {address : GoString} {recipient : Address}
    (hcall : redirected store call = some (address, [recipient]))
    (hforeign : ∀ row ∈ store.identities.rows, row.emailAddress ≠ recipient.value)
    (hne : recipient.value ≠ address) : NoWayBack crypto store call := by
  intro _ address' recipients' hcall' target htarget hway
  cases hcall.symm.trans hcall'
  obtain rfl := List.mem_singleton.mp htarget
  rcases hway.cases_head with hsame | ⟨next, ⟨row, hmem, -, haddress, -⟩, -⟩
  · exact hne hsame
  · exact hforeign row hmem haddress

/-- Two shared addresses, the second of which forwards to another mailbox. -/
theorem forwarding_loops_iff_chain : ∃ store,
    exec (requestStep exampleCrypto) Store.empty (exampleForwards "c@x.io") = some store ∧
    Forwards store (lit "a@x.io") (lit "b@x.io") ∧ LoopFree store := by
  refine ⟨_, rfl, by decide +kernel, (forwarding_loops_iff exampleCrypto (exampleForwards "c@x.io")
    (exampleForwards_made "c@x.io")).mpr ?_ 4 _ rfl⟩
  refine guarded_cons (noWayBack_of_not_redirected rfl) rfl ?_
  refine guarded_cons (noWayBack_of_not_redirected rfl) rfl ?_
  refine guarded_cons (noWayBack_of_foreign rfl (by decide +kernel) (by decide)) rfl ?_
  exact guarded_cons (noWayBack_of_foreign rfl (by decide +kernel) (by decide)) rfl trivial

/-- Two shared addresses that forward to each other. Each creation passes
the check: neither address is its own recipient. -/
theorem forwarding_loop_created : ∃ store,
    exec (requestStep exampleCrypto) Store.empty (exampleForwards "a@x.io") = some store ∧
    Forwards store (lit "a@x.io") (lit "b@x.io") ∧
    Forwards store (lit "b@x.io") (lit "a@x.io") ∧ ¬ LoopFree store := by
  have hrun : ∃ store,
      exec (requestStep exampleCrypto) Store.empty (exampleForwards "a@x.io") = some store ∧
      Forwards store (lit "a@x.io") (lit "b@x.io") ∧
      Forwards store (lit "b@x.io") (lit "a@x.io") :=
    ⟨_, rfl, by decide +kernel, by decide +kernel⟩
  obtain ⟨store, hstore, hthere, hback⟩ := hrun
  exact ⟨store, hstore, hthere, hback, fun hfree => hfree _ ((TransGen.single hthere).tail hback)⟩

end Pinguin.SmtpIdentity
