import AccessHarness.Proofs.Access.Approvals
import AccessHarness.Proofs.Rest.Availability

/-!
# What programs send

A program sends requests of one kind if every one of its steps does, however it ends.

* `Event.Asks` — an exchange whose request is of a kind.
* `Session.Sends` — a program with no exchanges but such.
* `RestClient.sends_call` and the lemmas after it — a call of a client is of a kind as soon as the
  one request is that it may come to.

A kind is a condition on requests, so that a place, a method and what is not asked for are all
instances of it; what came back plays no part.
-/

namespace AccessHarness

open Program (Leads)
open Transcript (ExtendsWithin)

/-- **A request of a kind**, if it is a request at all. -/
def Event.Asks (kind : Request → Prop) : Event → Prop
  | .exchanged r _ => kind r
  | .slept _ => True

theorem Event.Asks.mono {kind kind' : Request → Prop} {x : Event} (h : x.Asks kind)
    (sub : ∀ r, kind r → kind' r) : x.Asks kind' := by
  cases x with
  | exchanged r reply => exact sub r h
  | slept d => exact trivial

/-- **A program whose requests are of one kind.** -/
abbrev Session.Sends {α : Type} (kind : Request → Prop) (env : Environment) (m : Session α) :
    Prop :=
  Leads (ExtendsWithin (Event.Asks kind)) env m

variable {kind : Request → Prop} {env : Environment} {α : Type}

namespace Session

/-- Every request of such a program is of the kind. -/
theorem Sends.of_mem {m : Session α} {t : Transcript} {r : Request} {reply : Reply}
    (h : Sends kind env m) (sent : .exchanged r reply ∈ (m env t).2.since t) : kind r :=
  (h t).within _ sent

theorem Sends.weaken {kind' : Request → Prop} (sub : ∀ r, kind r → kind' r) {m : Session α}
    (h : Sends kind env m) : Sends kind' env m :=
  Leads.mono (fun within => within.mono fun _ asks => asks.mono sub) h

/-- Only web addresses are sent anything. -/
theorem sends_send {r : Request} (h : r.url.isWeb = true → kind r) : Sends kind env (send r) := by
  intro t
  unfold send
  by_cases web : r.url.isWeb = true
  · rw [if_pos web]
    have exchanged (reply : Reply) : ExtendsWithin (Event.Asks kind) t (.exchanged r reply :: t) :=
      Transcript.extendsWithin_cons t (h web)
    split <;> exact exchanged _
  · rw [if_neg web]
    exact refl_of _ t

theorem sends_sleep (env : Environment) (d : Nat) : Sends kind env (sleep d) := fun t =>
  Transcript.extendsWithin_cons t trivial

/-- A step that takes an outcome over hands on only what there is. -/
theorem sends_ofOutcome_bind {β : Type} {o : Outcome α} {k : α → Session β}
    (h : ∀ a, o = .ok a → Sends kind env (k a)) : Sends kind env (ofOutcome o >>= k) := by
  cases o with
  | error f => exact fun t => refl_of _ t
  | ok a => exact h a rfl

theorem sends_timeOfDay : Sends kind env timeOfDay := fun t => refl_of _ t

theorem sends_fileContent (path : String) : Sends kind env (fileContent path) := by
  intro t
  unfold fileContent
  split <;> exact refl_of _ t

end Session

open Session (Sends leads_ofOutcome)

namespace RestClient

variable (c : RestClient)

theorem sends_execute {method : String} {url : Url} {body : Body}
    (h : url.isWeb = true → ∀ headers, kind ⟨method, url, headers, body⟩)
    (headers : List (String × String)) : Sends kind env (c.execute method url headers body) :=
  .bind (.bind (leads_ofOutcome _) fun _ => Session.sends_send fun web => h web _)
    fun _ => leads_ofOutcome _

variable {c} {path : String}

/-- **A call is of a kind if its request is.** -/
theorem sends_call {method : String} {body : Body}
    (h : ∀ r, c.request method path body = .ok r → kind r) :
    Sends kind env (c.call method path body) := by
  intro t
  rw [call_apply]
  cases sent : c.request method path body with
  | error f => exact refl_of _ t
  | ok r => exact Transcript.extendsWithin_cons t (h r sent)

theorem sends_probe (h : ∀ r, c.request "GET" path .empty = .ok r → kind r) :
    Sends kind env (c.probe path) := by
  intro t
  rw [probe_apply]
  cases sent : c.request "GET" path .empty with
  | error f => exact refl_of _ t
  | ok r => exact Transcript.extendsWithin_cons t (h r sent)

theorem sends_get (d : Json.Decoder α) (h : ∀ r, c.request "GET" path .empty = .ok r → kind r) :
    Sends kind env (c.get d path) :=
  .bind (sends_call h) fun _ => leads_ofOutcome _

theorem sends_getOption (d : Json.Decoder α)
    (h : ∀ r, c.request "GET" path .empty = .ok r → kind r) :
    Sends kind env (c.getOption d path) :=
  leads_getOption_of_get (sends_get d h)

theorem sends_putJson {document : Json}
    (h : ∀ r, c.request "PUT" path (.json document) = .ok r → kind r) :
    Sends kind env (c.putJson path document) :=
  .bind (sends_call h) fun _ => .pure _

theorem sends_postJson (d : Json.Decoder α) {document : Json}
    (h : ∀ r, c.request "POST" path (.json document) = .ok r → kind r) :
    Sends kind env (c.postJson d path document) :=
  .bind (sends_call h) fun _ => leads_ofOutcome _

theorem sends_post {body : Body} (h : ∀ r, c.request "POST" path body = .ok r → kind r) :
    Sends kind env (c.post path body) :=
  .bind (sends_call h) fun _ => .pure _

theorem sends_delete (h : ∀ r, c.request "DELETE" path .empty = .ok r → kind r) :
    Sends kind env (c.delete path) :=
  .bind (sends_call h) fun _ => .pure _

end RestClient

end AccessHarness
