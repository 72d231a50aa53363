/-
Pinguin.SmtpIdentity.CallTheorems — overlapping calls on identities.

A rotation or deletion saves the row it read a while ago, and a creation the
row it found: when the row has changed in between, the save undoes the
change. A rotation that saves after a deletion brings the identity back to
life. As long as every save finds the row still fit for it, the calls are
linearizable, and an identity whose last creation or deletion was a deletion
can neither log in nor receive mail.
-/
import Pinguin.SmtpIdentity.Calls

namespace Pinguin.SmtpIdentity

open Pinguin.Go Pinguin.Lib

/-! ## The property -/

/-- The call deleted the identity. -/
def Deletes (id : GoString) (e : Entry Call Outcome) : Prop :=
  match e.call, e.result with
  | .deleteForScope _ identityID _, .deleted => trimSpace identityID = id ∧ id ≠ []
  | _, _ => False

/-- The call created or reactivated the identity. -/
def Creates (id : GoString) (e : Entry Call Outcome) : Prop :=
  match e.call, e.result with
  | .createForScope .., .issued identity _ => identity.id = id
  | _, _ => False

/-- The identity was deleted, and not created again since. -/
def DeletedLast (id : GoString) (order : List (Entry Call Outcome)) : Prop :=
  ∃ front e back, order = front ++ e :: back ∧ Deletes id e ∧ ∀ e' ∈ back, ¬ Creates id e'

/-- Nobody can log in as the identity, and its address forwards nothing. -/
def Dead (crypto : Crypto) (store : Store) (id : GoString) : Prop :=
  (∀ username password now identity,
    (authenticate crypto store username password now).1 = .ok identity → identity.id ≠ id) ∧
  ∀ row ∈ store.identities.rows, row.id = id → row.emailAddress ≠ [] →
    ∀ domain, resolveForwarding store ⟨row.emailAddress, domain⟩ = .ok none

/-- The calls of a run look sequential, and deleted identities stay dead. -/
def DeadStayDead (crypto : Crypto) (start : Store) (s : CallState) : Prop :=
  ∃ order, Linearizes (perform crypto) start s.history order s.store ∧
    ∀ id, DeletedLast id order → Dead crypto s.store id

/-! ## The condition -/

/-- The row that a login under way has read. -/
def CallStage.loginRow : CallStage → Option Identity
  | .authenticateRead record _ => some record
  | .authenticateChecked record _ => some record
  | _ => none

/-- No login under way has read the user name. -/
def FreshUsername (s : CallState) (username : GoString) : Prop :=
  ∀ id thread record, s.threads id = some thread → thread.stage.loginRow = some record →
    record.username ≠ username

/-- The save of a call finds the row fit for it: the check that the call made
when it read the row still passes, the columns that it does not set are as it
read them, and a new user name is new to the logins under way. -/
def SaveFits (crypto : Crypto) (s : CallState) (thread : CallThread) : Prop :=
  match thread.call, thread.stage with
  | .createForScope scope address _ (some draw) _ now, .createFound existing =>
    FreshUsername s (crypto.newCredential draw).username ∧
    ∃ stored, createFind s.store address = .ok stored ∧
      stored.map (reactivatedRow scope (crypto.newCredential draw) now) =
        existing.map (reactivatedRow scope (crypto.newCredential draw) now)
  | .rotateForScope scope identityID (some draw) now, .rotateRead record =>
    FreshUsername s (crypto.newCredential draw).username ∧
    ∃ stored, requireIdentityForScope s.store scope identityID = .ok stored ∧
      rotatedRow (crypto.newCredential draw) now stored =
        rotatedRow (crypto.newCredential draw) now record
  | .deleteForScope scope identityID now, .deleteRead record =>
    ∃ stored, requireIdentityForScope s.store scope identityID = .ok stored ∧
      deletedRow now stored = deletedRow now record
  | _, _ => True

/-- The condition on steps. -/
def SavesFit (crypto : Crypto) (s : CallState) : CallAction → Prop
  | .advance id => ∀ thread, s.threads id = some thread → SaveFits crypto s thread
  | _ => True

/-! ## Logins under way -/

variable {crypto : Crypto} {store store' : Store} {record : Identity} {address : Address}
  {username password : GoString}

/-- A row that has the user name a login read is the row it read. -/
def StillSame (store : Store) (record : Identity) : Prop :=
  ∀ row ∈ store.identities.rows, row.username = record.username → row.id = record.id ∧
    row.ownerEmail = record.ownerEmail ∧ row.emailAddress = record.emailAddress ∧
    row.passwordSalt = record.passwordSalt ∧ row.passwordDigest = record.passwordDigest

/-- What a login knows of the row it has read. -/
structure LoginRead (crypto : Crypto) (store : Store) (username password : GoString)
    (record : Identity) (address : Address) : Prop where
  nonblank : trimSpace username ≠ [] ∧ trimSpace password ≠ []
  username : record.username = trimSpace username
  digest : crypto.digest record.passwordSalt password = record.passwordDigest
  address : newAddress record.emailAddress = .ok address
  same : StillSame store record

theorem loginRead_of_read
    (h : authenticateRead crypto store username password = .ok (record, address)) :
    LoginRead crypto store username password record address := by
  obtain ⟨hnonblank, hfirst, hdigest, haddress⟩ := authenticateRead_ok_iff.mp h
  obtain ⟨hmem, hfound⟩ := Table.first_some hfirst
  simp only [Bool.and_eq_true, decide_eq_true_eq] at hfound
  refine ⟨hnonblank, hfound.1, hdigest, haddress, ?_⟩
  intro row hrow husername
  obtain rfl := Table.eq_of_key hrow hmem (store.usernameIndex row hrow record hmem husername)
  exact ⟨rfl, rfl, rfl, rfl, rfl⟩

/-- The login, if it read again now: no row, or the row it read. -/
theorem LoginRead.again (h : LoginRead crypto store username password record address) :
    (authenticateRead crypto store username password = .error .authenticationFailed ∧
      ∀ row ∈ store.identities.rows, row.username = record.username → row.status ≠ .active) ∨
    ∃ row ∈ store.identities.rows, row.status = .active ∧ row.username = record.username ∧
      row.id = record.id ∧ row.ownerEmail = record.ownerEmail ∧
      authenticateRead crypto store username password = .ok (row, address) := by
  cases hfirst : store.identities.first (fun row =>
      row.username = trimSpace username && row.status = .active) with
  | none =>
    left
    refine ⟨?_, ?_⟩
    · simp [authenticateRead, h.nonblank, hfirst]
    · intro row hrow husername hactive
      have := Table.first_none.mp hfirst row hrow
      simp [husername, h.username, hactive] at this
  | some row =>
    right
    obtain ⟨hmem, hfound⟩ := Table.first_some hfirst
    simp only [Bool.and_eq_true, decide_eq_true_eq] at hfound
    have husername : row.username = record.username := hfound.1.trans h.username.symm
    obtain ⟨hid, howner, haddress, hsalt, hdigest⟩ := h.same row hmem husername
    refine ⟨row, hmem, hfound.2, husername, hid, howner, authenticateRead_ok_iff.mpr
      ⟨h.nonblank, hfirst, ?_, ?_⟩⟩
    · rw [hsalt, hdigest, h.digest]
    · rw [haddress, h.address]

theorem authenticateDomain_congr {row : Identity} (h : row.ownerEmail = record.ownerEmail) :
    authenticateDomain store row address = authenticateDomain store record address := by
  unfold authenticateDomain
  rw [h]

theorem markAuthenticatedIdentityUsed_congr {row : Identity} (now : Int)
    (hid : row.id = record.id) (husername : row.username = record.username) :
    markAuthenticatedIdentityUsed store row now = markAuthenticatedIdentityUsed store record now := by
  unfold markAuthenticatedIdentityUsed
  rw [hid, husername]

/-- A login that the domain check ends has the result of one run whole now. -/
theorem LoginRead.domain_failed (h : LoginRead crypto store username password record address)
    {e : IdentityError} (hdomain : authenticateDomain store record address = .error e) (now : Int) :
    perform crypto store (.authenticate username password now) = (.failed e, store) := by
  rcases h.again with ⟨hread, -⟩ | ⟨row, -, -, -, -, howner, hread⟩
  · simp only [perform, SmtpIdentity.authenticate, hread, authenticateDomain_error hdomain]
  · rw [← authenticateDomain_congr howner] at hdomain
    simp only [perform, SmtpIdentity.authenticate, hread, hdomain]

theorem LoginRead.unmarked (h : LoginRead crypto store username password record address)
    (hdomain : authenticateDomain store record address = .ok ()) {e : IdentityError} {now : Int}
    (hmark : markAuthenticatedIdentityUsed store record now = .error e) :
    perform crypto store (.authenticate username password now) = (.failed e, store) := by
  rcases h.again with ⟨hread, -⟩ | ⟨row, -, -, husername, hid, howner, hread⟩
  · simp only [perform, SmtpIdentity.authenticate, hread,
      markAuthenticatedIdentityUsed_error hmark]
  · rw [← authenticateDomain_congr howner] at hdomain
    rw [← markAuthenticatedIdentityUsed_congr now hid husername] at hmark
    simp only [perform, SmtpIdentity.authenticate, hread, hdomain, hmark]

theorem LoginRead.marked (h : LoginRead crypto store username password record address)
    (hdomain : authenticateDomain store record address = .ok ()) {now : Int}
    (hmark : markAuthenticatedIdentityUsed store record now = .ok store') :
    perform crypto store (.authenticate username password now) =
      (.authenticated ⟨record.id, address, record.username⟩, store') := by
  rcases h.again with ⟨-, hnone⟩ | ⟨row, -, -, husername, hid, howner, hread⟩
  · obtain ⟨stored, hstored, hactive, husername, -⟩ := markAuthenticatedIdentityUsed_ok hmark
    exact absurd hactive (hnone stored (Table.get_some hstored).1 husername)
  · rw [← authenticateDomain_congr howner] at hdomain
    rw [← markAuthenticatedIdentityUsed_congr now hid husername] at hmark
    simp only [perform, SmtpIdentity.authenticate, hread, hdomain, hmark, hid, husername]

/-- A call with a fresh user name leaves the rows that logins have read. -/
theorem StillSame.effect (h : StillSame store record) {call : Call} {outcome : Outcome}
    (heffect : CallEffect crypto store call outcome store')
    (hfresh : ∀ draw ∈ call.draw, record.username ≠ (crypto.newCredential draw).username) :
    StillSame store' record := by
  have hput : ∀ {row : Identity}, store'.identities = store.identities.put row →
      (row.username = record.username → row.id = record.id ∧ row.ownerEmail = record.ownerEmail ∧
        row.emailAddress = record.emailAddress ∧ row.passwordSalt = record.passwordSalt ∧
        row.passwordDigest = record.passwordDigest) → StillSame store' record := by
    intro row hrows hrow other hother husername
    rw [hrows] at hother
    rcases Table.mem_put.mp hother with ⟨hold, -⟩ | rfl
    · exact h other hold husername
    · exact hrow husername
  cases heffect with
  | failed e => exact h
  | reactivated hcheck hfind hidentity htables =>
    exact hput htables.1 fun husername => absurd husername.symm (hfresh _ rfl)
  | created hcheck hfind hidentity htables =>
    exact hput htables.1 fun husername => absurd husername.symm (hfresh _ rfl)
  | rotated hread hidentity htables =>
    exact hput htables.1 fun husername => absurd husername.symm (hfresh _ rfl)
  | deleted hread htables =>
    have hold := h _ (requireIdentityForScope_ok hread).1
    exact hput htables.1 fun husername => hold husername
  | authenticated hmem hactive hidentity htables =>
    have hold := h _ hmem
    exact hput htables.1 fun husername => hold husername

theorem CallEffect.domains {call : Call} {outcome : Outcome}
    (heffect : CallEffect crypto store call outcome store') : store'.domains = store.domains := by
  cases heffect with
  | failed e => rfl
  | reactivated hcheck hfind hidentity htables => exact htables.2
  | created hcheck hfind hidentity htables => exact htables.2
  | rotated hread hidentity htables => exact htables.2
  | deleted hread htables => exact htables.2
  | authenticated hmem hactive hidentity htables => exact htables.2

/-! ## Threads -/

/-- What a thread knows at its stage. -/
def StageKnows (crypto : Crypto) (store : Store) (thread : CallThread) : Prop :=
  match thread.call, thread.stage with
  | .createForScope scope address recipients _ _ _, .createChecked =>
    createCheck store scope address recipients = .ok ()
  | .createForScope scope address recipients _ _ _, .createFound _ =>
    createCheck store scope address recipients = .ok ()
  | .authenticate username password _, .authenticateRead record address =>
    LoginRead crypto store username password record address
  | .authenticate username password _, .authenticateChecked record address =>
    LoginRead crypto store username password record address ∧
      authenticateDomain store record address = .ok ()
  | _, _ => True

/-- The domain checks look at the domains only. -/
theorem requireSenderDomainForScope_congr (h : store'.domains = store.domains)
    (scope : AccessScope) (domain : GoString) :
    requireSenderDomainForScope store' scope domain =
      requireSenderDomainForScope store scope domain := by
  unfold requireSenderDomainForScope
  rw [h]

/-- A thread keeps what it knows when another call takes effect. -/
theorem StageKnows.effect {thread : CallThread} (h : StageKnows crypto store thread)
    (hdomains : store'.domains = store.domains)
    (hsame : ∀ record, thread.stage.loginRow = some record → StillSame store record →
      StillSame store' record) : StageKnows crypto store' thread := by
  obtain ⟨call, stage⟩ := thread
  have hlogin : ∀ {username password record address}, stage.loginRow = some record →
      LoginRead crypto store username password record address →
      LoginRead crypto store' username password record address :=
    fun hrow hread =>
      ⟨hread.nonblank, hread.username, hread.digest, hread.address, hsame _ hrow hread.same⟩
  cases call with
  | createForScope scope address recipients draw random now =>
    have hcheck : createCheck store' scope address recipients =
        createCheck store scope address recipients := by
      unfold createCheck
      rw [requireSenderDomainForScope_congr hdomains]
    cases stage with
    | createChecked => exact hcheck.trans h
    | createFound existing => exact hcheck.trans h
    | _ => trivial
  | authenticate username password now =>
    cases stage with
    | authenticateRead record address => exact hlogin rfl h
    | authenticateChecked record address =>
      refine ⟨hlogin rfl h.1, ?_⟩
      have hcheck := h.2
      unfold authenticateDomain requireSenderDomainForIdentity at hcheck ⊢
      rwa [requireSenderDomainForScope_congr hdomains]
    | _ => trivial
  | _ => trivial

/-! ## Statements -/

theorem readOr_next {α : Type} {read : Except IdentityError α} {next : α → CallStage}
    {stage : CallStage} (h : some (readOr store read next) = some (.next stage)) :
    ∃ found, read = .ok found ∧ stage = next found := by
  cases read with
  | error e => cases h
  | ok found =>
    cases h
    exact ⟨found, rfl, rfl⟩

theorem readOr_finish {α : Type} {read : Except IdentityError α} {next : α → CallStage}
    {outcome : Outcome} (h : some (readOr store read next) = some (.finish outcome store')) :
    ∃ e, read = .error e ∧ outcome = .failed e ∧ store' = store := by
  cases read with
  | error e =>
    cases h
    exact ⟨e, rfl, rfl, rfl⟩
  | ok found => cases h

/-- The read of a call passes on what it found out. -/
theorem progress_next {thread : CallThread} {stage : CallStage}
    (h : StageKnows crypto store thread)
    (hprogress : progress crypto store thread = some (.next stage)) :
    StageKnows crypto store { thread with stage := stage } ∧ ∀ outcome, stage ≠ .done outcome := by
  obtain ⟨call, current⟩ := thread
  cases call with
  | createForScope scope address recipients draw random now =>
    cases current with
    | invoked =>
      obtain ⟨⟨⟩, hcheck, rfl⟩ := readOr_next hprogress
      exact ⟨hcheck, by rintro outcome ⟨⟩⟩
    | createChecked =>
      simp only [progress] at hprogress
      split at hprogress
      · cases hprogress
      · obtain ⟨existing, -, rfl⟩ := readOr_next hprogress
        exact ⟨h, by rintro outcome ⟨⟩⟩
    | createFound existing =>
      cases draw with
      | none => cases hprogress
      | some draw => cases hprogress
    | _ => cases hprogress
  | rotateForScope scope identityID draw now =>
    cases current with
    | invoked =>
      simp only [progress] at hprogress
      split at hprogress
      · cases hprogress
      · obtain ⟨record, -, rfl⟩ := readOr_next hprogress
        exact ⟨trivial, by rintro outcome ⟨⟩⟩
    | rotateRead record =>
      cases draw with
      | none => cases hprogress
      | some draw => cases hprogress
    | _ => cases hprogress
  | deleteForScope scope identityID now =>
    cases current with
    | invoked =>
      obtain ⟨record, -, rfl⟩ := readOr_next hprogress
      exact ⟨trivial, by rintro outcome ⟨⟩⟩
    | _ => cases hprogress
  | authenticate username password now =>
    cases current with
    | invoked =>
      obtain ⟨⟨record, address⟩, hfound, rfl⟩ := readOr_next hprogress
      exact ⟨loginRead_of_read hfound, by rintro outcome ⟨⟩⟩
    | authenticateRead record address =>
      obtain ⟨⟨⟩, hdomain, rfl⟩ := readOr_next hprogress
      exact ⟨⟨h, hdomain⟩, by rintro outcome ⟨⟩⟩
    | authenticateChecked record address =>
      simp only [progress] at hprogress
      split at hprogress
      · cases hprogress
      · cases hprogress
    | _ => cases hprogress

theorem createSave_congr {scope : AccessScope} {recipients : List Address}
    {credential : Credential} {random : GoString} {now : Int} {stored existing : Option Identity}
    (h : stored.map (reactivatedRow scope credential now) =
      existing.map (reactivatedRow scope credential now)) :
    createSave store scope address recipients credential random now stored =
      createSave store scope address recipients credential random now existing := by
  cases stored with
  | none =>
    cases existing with
    | none => rfl
    | some existing => cases h
  | some stored =>
    cases existing with
    | none => cases h
    | some existing =>
      simp only [Option.map_some, Option.some.injEq] at h
      simp only [createSave, h, Option.isSome_some]

/-- The call, run whole in this state, has this result and this effect; if it
writes a new user name, no login under way has read it. -/
def TakesEffect (crypto : Crypto) (s : CallState) (call : Call) (outcome : Outcome)
    (store' : Store) : Prop :=
  perform crypto s.store call = (outcome, store') ∧
    (store' = s.store ∨ ∀ draw ∈ call.draw, FreshUsername s (crypto.newCredential draw).username)

section Finish

variable {s : CallState} {stage : CallStage} {outcome : Outcome}

theorem createForScope_finish {scope : AccessScope} {address : Address} {recipients : List Address}
    {draw : Option CredentialDraw} {random : GoString} {now : Int}
    (h : StageKnows crypto s.store ⟨.createForScope scope address recipients draw random now, stage⟩)
    (hfits : SaveFits crypto s ⟨.createForScope scope address recipients draw random now, stage⟩)
    (hprogress : progress crypto s.store
      ⟨.createForScope scope address recipients draw random now, stage⟩ =
        some (.finish outcome store')) :
    TakesEffect crypto s (.createForScope scope address recipients draw random now) outcome
      store' := by
  cases stage with
  | invoked =>
    obtain ⟨e, hcheck, rfl, rfl⟩ := readOr_finish hprogress
    exact ⟨by simp only [perform, hcheck], .inl rfl⟩
  | createChecked =>
    have hcheck : createCheck s.store scope address recipients = .ok () := h
    simp only [progress] at hprogress
    split at hprogress
    · rename_i hfind
      cases hprogress
      exact ⟨by simp only [perform, hcheck, hfind], .inl rfl⟩
    · obtain ⟨e, hfind, rfl, rfl⟩ := readOr_finish hprogress
      exact ⟨by simp only [perform, hcheck, hfind], .inl rfl⟩
  | createFound existing =>
    cases draw with
    | none => cases hprogress
    | some draw =>
      have hcheck : createCheck s.store scope address recipients = .ok () := h
      obtain ⟨hfresh, stored, hfind, hsame⟩ := hfits
      cases hprogress
      refine ⟨by simp only [perform, hcheck, hfind, createSave_congr hsame], .inr ?_⟩
      rintro draw' ⟨⟩
      exact hfresh
  | _ => cases hprogress

theorem rotateForScope_finish {scope : AccessScope} {identityID : GoString}
    {draw : Option CredentialDraw} {now : Int}
    (hfits : SaveFits crypto s ⟨.rotateForScope scope identityID draw now, stage⟩)
    (hprogress : progress crypto s.store ⟨.rotateForScope scope identityID draw now, stage⟩ =
      some (.finish outcome store')) :
    TakesEffect crypto s (.rotateForScope scope identityID draw now) outcome store' := by
  cases stage with
  | invoked =>
    simp only [progress] at hprogress
    split at hprogress
    · rename_i hfound
      cases hprogress
      exact ⟨by simp only [perform, hfound], .inl rfl⟩
    · obtain ⟨e, hfound, rfl, rfl⟩ := readOr_finish hprogress
      exact ⟨by simp only [perform, hfound], .inl rfl⟩
  | rotateRead record =>
    cases draw with
    | none => cases hprogress
    | some draw =>
      obtain ⟨hfresh, stored, hstored, hsame⟩ := hfits
      cases hprogress
      refine ⟨by simp only [perform, hstored, rotateSave, hsame], .inr ?_⟩
      rintro draw' ⟨⟩
      exact hfresh
  | _ => cases hprogress

theorem deleteForScope_finish {scope : AccessScope} {identityID : GoString} {now : Int}
    (hfits : SaveFits crypto s ⟨.deleteForScope scope identityID now, stage⟩)
    (hprogress : progress crypto s.store ⟨.deleteForScope scope identityID now, stage⟩ =
      some (.finish outcome store')) :
    TakesEffect crypto s (.deleteForScope scope identityID now) outcome store' := by
  cases stage with
  | invoked =>
    obtain ⟨e, hfound, rfl, rfl⟩ := readOr_finish hprogress
    exact ⟨by simp only [perform, hfound], .inl rfl⟩
  | deleteRead record =>
    obtain ⟨stored, hstored, hsame⟩ := hfits
    cases hprogress
    refine ⟨by simp only [perform, hstored, deleteSave, hsame], .inr ?_⟩
    rintro draw ⟨⟩
  | _ => cases hprogress

theorem authenticate_finish {username password : GoString} {now : Int}
    (h : StageKnows crypto s.store ⟨.authenticate username password now, stage⟩)
    (hprogress : progress crypto s.store ⟨.authenticate username password now, stage⟩ =
      some (.finish outcome store')) :
    TakesEffect crypto s (.authenticate username password now) outcome store' := by
  cases stage with
  | invoked =>
    obtain ⟨e, hfound, rfl, rfl⟩ := readOr_finish hprogress
    exact ⟨by simp only [perform, SmtpIdentity.authenticate, hfound], .inl rfl⟩
  | authenticateRead record address =>
    obtain ⟨e, hdomain, rfl, rfl⟩ := readOr_finish hprogress
    exact ⟨LoginRead.domain_failed h hdomain now, .inl rfl⟩
  | authenticateChecked record address =>
    obtain ⟨hlogin, hdomain⟩ := h
    simp only [progress] at hprogress
    split at hprogress
    · rename_i e hmark
      cases hprogress
      exact ⟨hlogin.unmarked hdomain hmark, .inl rfl⟩
    · rename_i marked hmark
      cases hprogress
      refine ⟨hlogin.marked hdomain hmark, .inr ?_⟩
      rintro draw ⟨⟩
  | _ => cases hprogress

/-- **A call takes effect as a whole.** The statement that ends a call has the
result and the effect of the whole call run at that moment, if its save fits. -/
theorem progress_finish {thread : CallThread} (h : StageKnows crypto s.store thread)
    (hfits : SaveFits crypto s thread)
    (hprogress : progress crypto s.store thread = some (.finish outcome store')) :
    TakesEffect crypto s thread.call outcome store' := by
  obtain ⟨call, stage⟩ := thread
  cases call with
  | createForScope scope address recipients draw random now =>
    exact createForScope_finish h hfits hprogress
  | rotateForScope scope identityID draw now => exact rotateForScope_finish hfits hprogress
  | deleteForScope scope identityID now => exact deleteForScope_finish hfits hprogress
  | authenticate username password now => exact authenticate_finish h hprogress

end Finish

theorem progress_pending {thread : CallThread} {p : Progress}
    (hprogress : progress crypto store thread = some p) (outcome : Outcome) :
    thread.stage ≠ .done outcome := by
  intro hdone
  obtain ⟨call, stage⟩ := thread
  subst hdone
  cases call <;> cases hprogress

theorem stageKnows_done {call : Call} {outcome : Outcome} :
    StageKnows crypto store ⟨call, .done outcome⟩ := by
  cases call <;> trivial

/-! ## The invariant -/

/-- What is known of a thread: its call was invoked, it knows what its stage
says, and it is in the order exactly when it is done. -/
structure ThreadKnown (crypto : Crypto) (s : CallState) (id : Nat) (thread : CallThread) :
    Prop where
  invoked : .invoked id thread.call ∈ s.history
  knows : StageKnows crypto s.store thread
  done : ∀ outcome, thread.stage = .done outcome → ∃ e ∈ s.order, e.id = id ∧ e.result = outcome
  pending : (∀ outcome, thread.stage ≠ .done outcome) → ∀ e ∈ s.order, e.id ≠ id

/-- The order explains the run so far. -/
structure Explained (crypto : Crypto) (start : Store) (s : CallState) : Prop where
  linear : Linearizes (perform crypto) start s.history s.order s.store
  threads : ∀ id thread, s.threads id = some thread → ThreadKnown crypto s id thread

variable {start : Store} {s s' : CallState} {id : Nat}

theorem explained_start (store : Store) : Explained crypto store (.start store) := by
  refine ⟨linearizes_nil, ?_⟩
  intro id thread hthread
  cases hthread

/-- Look-up after one thread was set. -/
theorem setThread_some {thread : Option CallThread} {id' : Nat} {found : CallThread}
    (h : (s.setThread id thread).threads id' = some found) :
    (id' = id ∧ thread = some found) ∨ (id' ≠ id ∧ s.threads id' = some found) := by
  change Function.update s.threads id thread id' = some found at h
  by_cases hid : id' = id
  · subst hid
    rw [Function.update_self] at h
    exact .inl ⟨rfl, h⟩
  · rw [Function.update_of_ne hid] at h
    exact .inr ⟨hid, h⟩

theorem Explained.invokeCall (h : Explained crypto start s) (call : Call)
    (hnew : ∀ call', .invoked id call' ∉ s.history) :
    Explained crypto start (s.invokeCall id call) := by
  have hplace : ∀ e ∈ s.order, e.id ≠ id := by
    rintro e he rfl
    exact hnew e.call (h.linear.invoked e he)
  refine ⟨h.linear.invoke call hplace, ?_⟩
  intro id' thread hthread
  rcases setThread_some hthread with ⟨rfl, hsome⟩ | ⟨hne, hold⟩
  · cases hsome
    refine ⟨List.mem_append_right _ (List.mem_singleton.mpr rfl), ?_, ?_, fun _ => hplace⟩
    · cases call <;> trivial
    · intro outcome hdone
      cases hdone
  · have hknown := h.threads id' thread hold
    exact ⟨List.mem_append_left _ hknown.invoked, hknown.knows, hknown.done, hknown.pending⟩

theorem Explained.moveOn (h : Explained crypto start s) {thread : CallThread} {stage : CallStage}
    (hthread : s.threads id = some thread)
    (hprogress : progress crypto s.store thread = some (.next stage)) :
    Explained crypto start (s.moveOn id thread stage) := by
  refine ⟨h.linear, ?_⟩
  intro id' thread' hthread'
  rcases setThread_some hthread' with ⟨rfl, hsome⟩ | ⟨-, hold⟩
  · cases hsome
    have hknown := h.threads id' thread hthread
    obtain ⟨hknows, hnot⟩ := progress_next hknown.knows hprogress
    exact ⟨hknown.invoked, hknows, fun outcome hdone => absurd hdone (hnot outcome),
      fun _ => hknown.pending (progress_pending hprogress)⟩
  · have hknown := h.threads id' thread' hold
    exact ⟨hknown.invoked, hknown.knows, hknown.done, hknown.pending⟩

theorem Explained.finishCall (h : Explained crypto start s) {thread : CallThread}
    {outcome : Outcome} (hthread : s.threads id = some thread)
    (hfits : SaveFits crypto s thread)
    (hprogress : progress crypto s.store thread = some (.finish outcome store')) :
    Explained crypto start (s.finishCall id thread outcome store') := by
  have hknown := h.threads id thread hthread
  have hpending : ∀ e ∈ s.order, e.id ≠ id := hknown.pending (progress_pending hprogress)
  obtain ⟨hperform, hfresh⟩ := progress_finish hknown.knows hfits hprogress
  have heffect : CallEffect crypto s.store thread.call outcome store' := by
    have := perform_effect crypto s.store thread.call
    rwa [hperform] at this
  refine ⟨h.linear.commit hknown.invoked hpending hperform, ?_⟩
  intro id' thread' hthread'
  rcases setThread_some hthread' with ⟨rfl, hsome⟩ | ⟨hne, hold⟩
  · cases hsome
    refine ⟨hknown.invoked, stageKnows_done, ?_, fun hnot => absurd rfl (hnot outcome)⟩
    rintro outcome' ⟨⟩
    exact ⟨_, List.mem_append_right _ (List.mem_singleton.mpr rfl), rfl, rfl⟩
  · have hother := h.threads id' thread' hold
    refine ⟨hother.invoked, ?_, ?_, ?_⟩
    · refine hother.knows.effect heffect.domains ?_
      intro record hrow hsame
      rcases hfresh with hunchanged | hfresh
      · exact hunchanged ▸ hsame
      · exact hsame.effect heffect fun draw hdraw => hfresh draw hdraw id' thread' record hold hrow
    · intro outcome' hdone
      obtain ⟨e, he, hid, hresult⟩ := hother.done outcome' hdone
      exact ⟨e, List.mem_append_left _ he, hid, hresult⟩
    · intro hnot e he
      rcases List.mem_append.mp he with he | he
      · exact hother.pending hnot e he
      · rw [List.mem_singleton.mp he]
        exact hne.symm

theorem Explained.returnCall (h : Explained crypto start s) {call : Call} {outcome : Outcome}
    (hthread : s.threads id = some ⟨call, .done outcome⟩) :
    Explained crypto start (s.returnCall id outcome) := by
  refine ⟨h.linear.ret ((h.threads id _ hthread).done outcome rfl), ?_⟩
  intro id' thread hthread'
  rcases setThread_some hthread' with ⟨-, hsome⟩ | ⟨-, hold⟩
  · cases hsome
  · have hknown := h.threads id' thread hold
    exact ⟨List.mem_append_left _ hknown.invoked, hknown.knows, hknown.done, hknown.pending⟩

/-- One step whose save fits. -/
theorem callStep_explained (act : CallAction) (h : Explained crypto start s)
    (hfits : SavesFit crypto s act) (hstep : callStep crypto s act = some s') :
    Explained crypto start s' := by
  cases act with
  | invoke id call =>
    obtain ⟨-, hnew, rfl⟩ := callStep_invoke hstep
    exact h.invokeCall call hnew
  | advance id =>
    obtain ⟨thread, hthread, hnext | hfinish⟩ := callStep_advance hstep
    · obtain ⟨stage, hprogress, rfl⟩ := hnext
      exact h.moveOn hthread hprogress
    · obtain ⟨outcome, store', hprogress, rfl⟩ := hfinish
      exact h.finishCall hthread (hfits thread hthread) hprogress
  | ret id =>
    obtain ⟨call, outcome, hthread, rfl⟩ := callStep_ret hstep
    exact h.returnCall hthread

/-! ## Deleted identities -/

/-- No row of the identity is active. -/
def Inactive (store : Store) (id : GoString) : Prop :=
  ∀ row ∈ store.identities.rows, row.id = id → row.status ≠ .active

/-- The address of an identity that is not active forwards nothing: no other
identity has it. -/
theorem resolveForwarding_inactive {row : Identity} (hmem : row ∈ store.identities.rows)
    (hinactive : row.status ≠ .active) (hne : row.emailAddress ≠ []) {domain : GoString} :
    resolveForwarding store ⟨row.emailAddress, domain⟩ = .ok none := by
  have hnone : store.identities.first (fun other =>
      matchesField [] row.emailAddress other.emailAddress && other.status = .active) = none := by
    refine Table.first_none.mpr fun other hother => ?_
    rw [Bool.and_eq_false_iff]
    by_cases hsame : other.emailAddress = row.emailAddress
    · have hid := store.addressIndex other hother row hmem hsame
      obtain rfl := Table.eq_of_key hother hmem hid
      exact .inr (decide_eq_false hinactive)
    · left
      simp [matchesField, hne, hsame]
  unfold resolveForwarding
  rw [hnone]

theorem Inactive.dead {id : GoString} (h : Inactive store id) : Dead crypto store id := by
  refine ⟨?_, ?_⟩
  · intro username password now identity hok hid
    obtain ⟨record, address, hread, -, -, rfl⟩ := authenticate_ok_iff.mp hok
    obtain ⟨-, hfirst, -⟩ := authenticateRead_ok_iff.mp hread
    obtain ⟨hmem, hfound⟩ := Table.first_some hfirst
    simp only [Bool.and_eq_true, decide_eq_true_eq] at hfound
    exact h record hmem hid hfound.2
  · intro row hmem hid hne domain
    exact resolveForwarding_inactive hmem (h row hmem hid) hne

/-- A call that does not create the identity leaves it inactive. -/
theorem Inactive.effect {id : GoString} (h : Inactive store id) {n : Nat} {call : Call}
    {outcome : Outcome} (heffect : CallEffect crypto store call outcome store')
    (hnot : ¬ Creates id ⟨n, call, outcome⟩) : Inactive store' id := by
  have hput : ∀ {row : Identity}, store'.identities = store.identities.put row →
      (row.id = id → row.status ≠ .active) → Inactive store' id := by
    intro row hrows hrow other hother hid
    rw [hrows] at hother
    rcases Table.mem_put.mp hother with ⟨hold, -⟩ | rfl
    · exact h other hold hid
    · exact hrow hid
  cases heffect with
  | failed e => exact h
  | reactivated hcheck hfind hidentity htables =>
    refine hput htables.1 fun hid => absurd ?_ hnot
    exact hidentity.1.trans hid
  | created hcheck hfind hidentity htables =>
    refine hput htables.1 fun hid => absurd ?_ hnot
    exact hidentity.1.trans hid
  | rotated hread hidentity htables =>
    obtain ⟨hmem, hactive, -⟩ := requireIdentityForScope_ok hread
    exact hput htables.1 fun hid => absurd hactive (h _ hmem hid)
  | deleted hread htables =>
    refine hput htables.1 ?_
    intro _ hactive
    cases hactive
  | authenticated hmem hactive hidentity htables =>
    exact hput htables.1 fun hid => absurd hactive (h _ hmem hid)

/-- A deletion leaves the identity inactive. -/
theorem inactive_of_deletes {id : GoString} {n : Nat} {call : Call} {outcome : Outcome}
    (heffect : CallEffect crypto store call outcome store')
    (hdeletes : Deletes id ⟨n, call, outcome⟩) : Inactive store' id := by
  cases heffect with
  | deleted hread htables =>
    obtain ⟨htrim, hne⟩ := hdeletes
    obtain ⟨hmem, -, -, hfield⟩ := requireIdentityForScope_ok hread
    intro row hrow hid
    rw [htables.1] at hrow
    rcases Table.mem_put.mp hrow with ⟨-, hother⟩ | rfl
    · refine absurd ?_ hother
      simp only [matchesField, htrim, hne, Bool.or_eq_true, decide_eq_true_eq, false_or] at hfield
      exact hid.trans hfield.symm
    · intro hactive
      cases hactive
  | failed e =>
    cases call <;> exact hdeletes.elim
  | _ => exact hdeletes.elim

/-- **Run.** An inactive identity stays so until a call creates it. -/
theorem Inactive.legal {id : GoString} {order : List (Entry Call Outcome)}
    (h : Inactive store id) (hlegal : Legal (perform crypto) store order store')
    (hnot : ∀ e ∈ order, ¬ Creates id e) : Inactive store' id := by
  induction order generalizing store with
  | nil =>
    cases hlegal
    exact h
  | cons e order ih =>
    obtain ⟨hresult, hrest⟩ := hlegal
    have heffect := perform_effect crypto store e.call
    rw [hresult] at heffect
    exact ih (h.effect (n := e.id) heffect (hnot e List.mem_cons_self)) hrest
      fun e' he' => hnot e' (List.mem_cons_of_mem _ he')

theorem inactive_of_deletedLast {id : GoString} {order : List (Entry Call Outcome)}
    (hlegal : Legal (perform crypto) store order store') (hlast : DeletedLast id order) :
    Inactive store' id := by
  obtain ⟨front, e, back, rfl, hdeletes, hnot⟩ := hlast
  obtain ⟨mid, -, hresult, hback⟩ := legal_append.mp hlegal
  have heffect := perform_effect crypto mid e.call
  rw [hresult] at heffect
  exact (inactive_of_deletes (n := e.id) heffect hdeletes).legal hback hnot

/-- Once a deletion has returned, and no creation was invoked, the identity is
deleted in every order that explains the history. -/
theorem deletedLast_of_returned {id : GoString} {history : List (HistoryEvent Call Outcome)}
    {order : List (Entry Call Outcome)} {n : Nat}
    (h : Linearizes (perform crypto) store history order store')
    (hreturned : .returned n .deleted ∈ history)
    (hcall : ∀ call, .invoked n call ∈ history → ∃ scope identityID now,
      call = .deleteForScope scope identityID now ∧ trimSpace identityID = id ∧ id ≠ [])
    (hnone : ∀ m scope address recipients draw random now,
      .invoked m (.createForScope scope address recipients draw random now) ∉ history) :
    DeletedLast id order := by
  obtain ⟨⟨n', call, result⟩, he, rfl, rfl⟩ := h.complete n .deleted hreturned
  obtain ⟨scope, identityID, now, rfl, hid⟩ := hcall _ (h.invoked _ he)
  obtain ⟨front, back, rfl⟩ := List.append_of_mem he
  refine ⟨front, _, back, rfl, hid, ?_⟩
  rintro ⟨m, call, result⟩ he' hcreates
  have hinvoked := h.invoked _ (List.mem_append_right _ (List.mem_cons_of_mem _ he'))
  cases call with
  | createForScope scope address recipients draw random now => exact hnone _ _ _ _ _ _ _ hinvoked
  | _ => exact hcreates.elim

/-- **Deleted credentials stay dead.** In every run of overlapping calls whose
saves all fit, the calls are linearizable and a deleted identity is dead until
it is created again. -/
theorem dead_stay_dead (crypto : Crypto) (start : Store) (acts : List CallAction) (s : CallState)
    (hfits : Guarded (callStep crypto) (SavesFit crypto) (.start start) acts)
    (hrun : exec (callStep crypto) (.start start) acts = some s) :
    DeadStayDead crypto start s := by
  have hexplained : Explained crypto start s :=
    exec_guarded_invariant (fun _ act _ hfit h hstep => callStep_explained act h hfit hstep) acts
      _ s hfits (explained_start start) hrun
  refine ⟨s.order, hexplained.linear, ?_⟩
  intro id hlast
  exact (inactive_of_deletedLast hexplained.linear.legal hlast).dead

/-! ## Fixed runs -/

def exampleID : GoString := lit "00000000-0000-4000-8000-000000000000"

/-- An active identity with a verified domain and one recipient. -/
def exampleStore : Store :=
  { Store.empty.write
      (newRow exampleScope exampleAddress (exampleCrypto.newCredential (exampleDraw 0))
        (List.replicate 16 0) 4) (by decide) with
    recipients := [⟨exampleID, lit "b@y.io", 4, 4⟩]
    domains := Table.empty.put ⟨1, lit "o@x.io", lit "x.io", .verified, [], none, 1, 1⟩
    domainIndex := Table.uniqueIndex_empty.put (by decide) }

def exampleLogin : Call :=
  .authenticate (lit "smtp_AAAAAAAAAAAAAAAA") (lit "pgsmtp_AAAAAAAAAAAAAAAAAAAAAAAAAAAAAAAA") 5

def exampleRotation : Call := .rotateForScope exampleScope exampleID (some (exampleDraw 0xFF)) 5

def exampleDeletion : Call := .deleteForScope exampleScope exampleID 6

/-- The identity is deleted while another call has read its row. -/
def deletionDuring (call : Call) : List CallAction :=
  [.invoke 0 call, .advance 0, .invoke 1 exampleDeletion, .advance 1, .advance 1, .ret 1]

/-- A login that overlaps with the deletion fails. -/
theorem dead_stay_dead_login : ∃ s,
    exec (callStep exampleCrypto) (.start exampleStore)
      (deletionDuring exampleLogin ++ [.advance 0, .advance 0, .ret 0]) = some s ∧
    s.history = [.invoked 0 exampleLogin, .invoked 1 exampleDeletion, .returned 1 .deleted,
      .returned 0 (.failed .authenticationFailed)] ∧
    DeadStayDead exampleCrypto exampleStore s := by
  refine ⟨_, rfl, rfl, dead_stay_dead exampleCrypto exampleStore
    (deletionDuring exampleLogin ++ [.advance 0, .advance 0, .ret 0]) _ ?_ rfl⟩
  refine guarded_cons trivial rfl (guarded_cons ?_ rfl (guarded_cons trivial rfl
    (guarded_cons ?_ rfl (guarded_cons ?_ rfl (guarded_cons trivial rfl (guarded_cons ?_ rfl
      (guarded_cons ?_ rfl (guarded_cons trivial rfl trivial))))))))
  all_goals
    intro thread hthread
    obtain rfl := Option.some.inj hthread
  -- the deletion saves the row it read; the other steps save nothing
  · trivial
  · trivial
  · exact ⟨_, rfl, rfl⟩
  · trivial
  · trivial

/-- A rotation that overlaps with the deletion saves the row it read, which
was active. The identity logs in with the rotated pair, and its address
forwards mail again. -/
theorem deleted_identity_restored : ∃ s,
    exec (callStep exampleCrypto) (.start exampleStore)
      (deletionDuring exampleRotation ++ [.advance 0, .ret 0]) = some s ∧
    (∃ identity, s.history = [.invoked 0 exampleRotation, .invoked 1 exampleDeletion,
      .returned 1 .deleted,
      .returned 0 (.issued identity (lit "pgsmtp_________________________________"))]) ∧
    (authenticate exampleCrypto s.store (lit "smtp_________________")
      (lit "pgsmtp_________________________________") 7).1 =
      .ok ⟨exampleID, exampleAddress, lit "smtp_________________"⟩ ∧
    resolveForwarding s.store exampleAddress = .ok (some [⟨lit "b@y.io", lit "y.io"⟩]) ∧
    ¬ DeadStayDead exampleCrypto exampleStore s := by
  have hbad : ∀ (s : CallState) (identity : PublicIdentity), s.history =
      [.invoked 0 exampleRotation, .invoked 1 exampleDeletion, .returned 1 .deleted,
        .returned 0 (.issued identity (lit "pgsmtp_________________________________"))] →
      (authenticate exampleCrypto s.store (lit "smtp_________________")
        (lit "pgsmtp_________________________________") 7).1 =
        .ok ⟨exampleID, exampleAddress, lit "smtp_________________"⟩ →
      ¬ DeadStayDead exampleCrypto exampleStore s := by
    rintro s identity hhistory hlogin ⟨order, hlinear, hdead⟩
    refine (hdead exampleID ?_).1 _ _ _ _ hlogin rfl
    refine deletedLast_of_returned hlinear (n := 1) ?_ ?_ ?_
    · simp [hhistory]
    · intro call hcall
      simp only [hhistory, List.mem_cons, HistoryEvent.invoked.injEq, reduceCtorEq, or_false,
        List.not_mem_nil, false_or, Nat.one_ne_zero, false_and, true_and] at hcall
      subst hcall
      exact ⟨exampleScope, exampleID, 6, rfl, by decide, by decide⟩
    · intro m scope address recipients draw random now hcreate
      simp [hhistory, exampleRotation, exampleDeletion] at hcreate
  exact ⟨_, rfl, ⟨_, rfl⟩, by decide, by decide, hbad _ _ rfl (by decide)⟩

end Pinguin.SmtpIdentity
