/-
Pinguin.Forwarding.ServerTheorems — what a forwarding session logs.

Only an accepted DATA command opens a body, a body that is read to its end
is followed by its forwards, and one that breaks leaves the connection
right behind the break.
-/
import Pinguin.Forwarding.Server
import Pinguin.Smtp.SessionTheorems

namespace Pinguin.Forwarding

open Pinguin.Go Pinguin.SmtpIdentity Pinguin.Smtp

theorem acts_log (acts : List Action) (link : SessionLink) :
    (acts.foldl Link.act link).log = link.log ++ acts.map .action := by
  induction acts generalizing link with
  | nil => simp
  | cons a acts ih => rw [List.foldl_cons, ih]; simp

theorem forwardBody_log (env : Env) (sender : ReversePath) (data : GoString)
    (link : SessionLink) :
    (forwardBody env sender data link).log = link.log ++
      (forwardRoutes env ⟨sender, link.session.recipients, data⟩ link.session.routes).1.map
        .action := by
  simp only [forwardBody]
  split
  · simp [acts_log]
  · simp [acts_log]

/-- DATA when it is not answered 354: the log is as before. -/
theorem handleData_refused (server : Server) (env : Env) {link : SessionLink}
    (h : ¬ OpensData Session.ready link) : (handleData server env link).log = link.log := by
  unfold handleData
  split
  · rfl
  · rename_i sender hsender
    split
    · rfl
    · rename_i hrecipients
      have hroom : link.writer.room = some 0 := by
        by_contra hroom
        exact h ⟨by simp [Session.ready, hsender, hrecipients], hroom⟩
      rw [receiveData_full _ hroom]

theorem OpensData.sender {link : SessionLink} (h : OpensData Session.ready link) :
    ∃ sender, link.session.mailFrom = some sender ∧ link.session.recipients ≠ [] := by
  have hready := h.1
  simp only [Session.ready, Bool.and_eq_true, bne_iff_ne, ne_eq] at hready
  obtain ⟨sender, hsender⟩ := Option.isSome_iff_exists.mp hready.1
  exact ⟨sender, hsender, hready.2⟩

/-- Commands other than an accepted DATA log nothing. -/
theorem dispatch_quiet (server : Server) (env : Env) (verb : Verb) (argument : GoString)
    (link : SessionLink) (h : ¬ (verb = .data ∧ OpensData Session.ready link)) :
    (dispatch server env verb argument link).log = link.log := by
  cases verb with
  | hello => simp [dispatch, handleHello]
  | mail => simp only [dispatch, handleMail]; split <;> rfl
  | rcpt =>
    simp only [dispatch, handleRecipient]
    repeat' split
    all_goals rfl
  | data => exact handleData_refused server env fun hopen => h ⟨rfl, hopen⟩
  | rset => rfl
  | noop => rfl
  | quit => rfl
  | auth => rfl
  | starttls => rfl
  | unknown => rfl

/-- The forwarding server's dispatch has the data discipline. -/
theorem dispatch_discipline (server : Server) (env : Env) :
    DataDiscipline Session.ready (dispatch server env) where
  quiet := fun verb argument link h =>
    ⟨[], by simpa using dispatch_quiet server env verb argument link h⟩
  ended := by
    intro argument link body rest hopen hitems
    obtain ⟨sender, hsender, hrecipients⟩ := OpensData.sender hopen
    obtain ⟨link', hreceived, hbody⟩ := receiveData_ended
      server.config.maxMessageBytes.toNat hopen.2 hitems
    simp only [dispatch, handleData, hsender, hrecipients, if_false, hreceived]
    by_cases hlarge : server.config.maxMessageBytes.toNat < body.length
    · exact ⟨[], by simp [hlarge, hbody.log]⟩
    · simp only [hlarge, if_false]
      exact ⟨_, by rw [forwardBody_log, hbody.log, List.append_assoc]; rfl⟩
  broken := by
    intro argument link e rest hopen hitems
    obtain ⟨sender, hsender, hrecipients⟩ := OpensData.sender hopen
    obtain ⟨link', hreceived, hbody⟩ := receiveData_broken
      server.config.maxMessageBytes.toNat hopen.2 hitems
    have heq : dispatch server env .data argument link = link' := by
      simp only [dispatch, handleData, hsender, hrecipients, if_false, hreceived]
    rw [heq]
    exact ⟨hbody.log, hbody.items, hbody.closed⟩

end Pinguin.Forwarding
