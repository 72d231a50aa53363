/-
Pinguin.Forwarding.Routes — where the routes of the server come from.

`newRoute` checks a route, and `resolve` is the resolver the server is
started with: it asks the identity repository.
-/
import Pinguin.Forwarding.Server
import Pinguin.SmtpIdentity.Repository

namespace Pinguin.Forwarding

open Pinguin.Go Pinguin.SmtpIdentity Pinguin.Smtp

/-- What `ErrInvalidRoute` is wrapped with. -/
inductive RouteError where
  | addressRequired
  | recipientRequired
  | duplicateRecipient (recipient : GoString)
  | recipientsRequired
deriving DecidableEq, Repr

/-- The loop over the recipients, `seen` being the ones before. -/
def checkRouteRecipients : List GoString → List Address → Except RouteError Unit
  | _, [] => .ok ()
  | seen, recipient :: recipients =>
    if recipient.value = [] then .error .recipientRequired
    else if seen.contains recipient.value then .error (.duplicateRecipient recipient.value)
    else checkRouteRecipients (recipient.value :: seen) recipients

/-- `NewRoute`. -/
def newRoute (address : Address) (forwardTo : List Address) : Except RouteError Route :=
  if address.value = [] then .error .addressRequired
  else match checkRouteRecipients [] forwardTo with
    | .error e => .error e
    | .ok () => if forwardTo = [] then .error .recipientsRequired else .ok ⟨address, forwardTo⟩

/-- An error of the resolver. -/
inductive ResolveError where
  | repository (e : IdentityError)
  | route (e : RouteError)
deriving DecidableEq, Repr

/-- `smtpIdentityForwardingResolver.Resolve`. -/
def resolve (store : Store) (address : Address) : Except ResolveError (Option Route) :=
  match resolveForwarding store address with
  | .error e => .error (.repository e)
  | .ok none => .ok none
  | .ok (some recipients) =>
    match newRoute address recipients with
    | .error e => .error (.route e)
    | .ok route => .ok (some route)

/-- An `Env` whose routes are the repository's. -/
def storeEnv (store : Store) (forward : Route → Message → Bool) : Env where
  resolve address := (resolve store address).mapError fun _ => ()
  forward := forward

theorem newRoute_ok {address : Address} {forwardTo : List Address} {route : Route}
    (h : newRoute address forwardTo = .ok route) : route = ⟨address, forwardTo⟩ := by
  simp only [newRoute] at h
  split at h
  · cases h
  · split at h
    · cases h
    · split at h
      · cases h
      · exact (Except.ok.inj h).symm

/-- A route of an environment is for the address that was asked. -/
def AnswersAsked (env : Env) : Prop :=
  ∀ address route, env.resolve address = .ok (some route) → route.address.value = address.value

theorem storeEnv_answersAsked (store : Store) (forward : Route → Message → Bool) :
    AnswersAsked (storeEnv store forward) := by
  intro address route h
  have hroute : resolve store address = .ok (some route) := by
    rw [storeEnv] at h
    simp only at h
    cases hresolve : resolve store address with
    | error e => rw [hresolve] at h; cases h
    | ok found => rw [hresolve] at h; cases h; rfl
  simp only [resolve] at hroute
  split at hroute
  · cases hroute
  · cases hroute
  · split at hroute
    · cases hroute
    · rename_i hnew
      cases hroute
      rw [newRoute_ok hnew]

end Pinguin.Forwarding
