import AccessHarness.Proofs.Rest.Places
import AccessHarness.Proofs.Rest.Sending
import AccessHarness.Settings

/-!
# Tokens and who they are for

A name and a password are exchanged for a token, and a client presents that token with every
request.  This file says what is sent for an exchange and what the answer comes to.

* `Text.Base64.decodeBytes_encodeBytes` — the form in which credentials travel can be read back.
* `Settings.header_inj` — test users with the same header are the same.
* `Endpoint.tokenRequest`, `Reply.token` — the two sides of an exchange.
* `RestClient.login_apply` — logging in is one exchange, or none.
* `RestClient.Presents` — every request of a client presents one token.

### What is load-bearing

**The length of a header tells where the name in it ends.**  Name and password stand in one text
with a colon between them, but a name may hold colons itself.  The password of a test user is the
name again with a suffix that all of them share, so the whole is as long as two names and what all
share.  The administrator's password has no suffix, and is not covered by this.
-/

namespace AccessHarness

namespace Text.Base64

/-- The six bits of a character; what fills up the end has none. -/
def value (c : Char) : Nat := ((List.range 64).map digit).idxOf c % 64

/-- Four characters back into three bytes, or less if they were filled up. -/
def decodeBytes : List Char → List UInt8
  | w :: x :: y :: z :: rest =>
    let n := value w * 262144 + value x * 4096 + value y * 64 + value z
    let bytes := [n / 65536, n / 256, n].map UInt8.ofNat
    if y = '=' then bytes.take 1 else if z = '=' then bytes.take 2 else bytes ++ decodeBytes rest
  | _ => []

theorem value_digit {n : Nat} (h : n < 64) : value (digit n) = n := by
  have read : ∀ n < 64, value (digit n) = n := by decide +kernel
  exact read n h

theorem digit_ne_pad {n : Nat} (h : n < 64) : digit n ≠ '=' := by
  have apart : ∀ n < 64, digit n ≠ '=' := by decide +kernel
  exact apart n h

theorem value_pad : value '=' = 0 := by decide +kernel

private theorem ofNat_eq {b : UInt8} {n : Nat} (h : n % 256 = b.toNat) : UInt8.ofNat n = b := by
  rw [← UInt8.toNat_inj, UInt8.toNat_ofNat']
  exact h

/-- **Nothing is lost in writing bytes down.** -/
theorem decodeBytes_encodeBytes (bs : List UInt8) : decodeBytes (encodeBytes bs) = bs := by
  induction bs using encodeBytes.induct with
  | case1 a b c rest ih =>
    have la := a.toNat_lt
    have lb := b.toNat_lt
    have lc := c.toNat_lt
    simp (disch := omega) only [encodeBytes, decodeBytes, value_digit, if_false, digit_ne_pad, ih,
      List.map_cons, List.map_nil, List.cons_append, List.nil_append]
    rw [List.cons.injEq, List.cons.injEq, List.cons.injEq]
    exact ⟨ofNat_eq (by omega), ofNat_eq (by omega), ofNat_eq (by omega), rfl⟩
  | case2 a b =>
    have la := a.toNat_lt
    have lb := b.toNat_lt
    simp (disch := omega) only [encodeBytes, decodeBytes, value_digit, value_pad, if_true, if_false,
      digit_ne_pad, List.map_cons, List.take_succ_cons, List.take_zero]
    rw [List.cons.injEq, List.cons.injEq]
    exact ⟨ofNat_eq (by omega), ofNat_eq (by omega), rfl⟩
  | case3 a =>
    have la := a.toNat_lt
    simp (disch := omega) only [encodeBytes, decodeBytes, value_digit, value_pad, if_true,
      List.map_cons, List.take_succ_cons, List.take_zero]
    rw [List.cons.injEq]
    exact ⟨ofNat_eq (by omega), rfl⟩
  | case4 => rfl

theorem encodeBytes_inj {bs bs' : List UInt8} : encodeBytes bs = encodeBytes bs' ↔ bs = bs' := by
  refine ⟨?_, congrArg encodeBytes⟩
  intro same
  have decoded := congrArg decodeBytes same
  rwa [decodeBytes_encodeBytes, decodeBytes_encodeBytes] at decoded

end Text.Base64

/-! ### Credentials -/

/-- **Test users with the same header are the same.** -/
theorem Settings.header_inj {s : Settings} {user user' : String} (other : user ≠ s.adminUser)
    (other' : user' ≠ s.adminUser)
    (same : (s.credentialsFor user).header = (s.credentialsFor user').header) : user = user' := by
  have basic {l l' : List Char} (h : "Basic " ++ String.ofList l = "Basic " ++ String.ofList l') :
      l = l' := by
    rw [← String.toList_inj, String.toList_append, String.toList_append] at h
    simpa using h
  have written : (user ++ ":" ++ (user ++ s.passwordSuffix)).toList =
      (user' ++ ":" ++ (user' ++ s.passwordSuffix)).toList := by
    have texts := basic (Prod.mk.inj same).2
    rw [Text.Base64.encodeBytes_inj, Text.Percent.utf8_inj] at texts
    simpa only [credentialsFor, if_neg other, if_neg other'] using texts
  simp only [String.toList_append, List.append_assoc] at written
  -- both sides are as long as two names and what all users share
  have lengths := congrArg List.length written
  simp only [List.length_append] at lengths
  exact String.toList_inj.1 (List.append_inj_left written (by omega))

/-! ### The exchange -/

/-- **The request that exchanges credentials for a token**, or why it cannot be sent. -/
def Endpoint.tokenRequest (e : Endpoint) (u : Credentials) : Outcome Request :=
  match resolveBelow e.authUrl "token" with
  | .error f => .error f
  | .ok url => if url.isWeb then .ok ⟨"GET", url, [u.header], .empty⟩ else .error .transport

/-- **What a reply to that request comes to.** -/
def Reply.token (reply : Reply) : Outcome AccessToken := do
  let r ← reply.outcome
  decodeBody AccessToken.decoder r.body

theorem Endpoint.header_of_tokenRequest {e : Endpoint} {u u' : Credentials} {r : Request}
    (h : e.tokenRequest u = .ok r) (h' : e.tokenRequest u' = .ok r) : u.header = u'.header := by
  have headers {u : Credentials} (h : e.tokenRequest u = .ok r) : r.headers = [u.header] := by
    unfold tokenRequest at h
    split at h
    · cases h
    · split at h <;> cases h
      rfl
  have same := (headers h).symm.trans (headers h')
  exact List.singleton_injective same

namespace RestClient

/-- **Logging in is one exchange, or none.** -/
theorem login_apply (e : Endpoint) (u : Credentials) (env : Environment) (t : Transcript) :
    login e u env t =
      match e.tokenRequest u with
      | .error f => (.error f, t)
      | .ok r => ((env.respond t r).token.map fun a => .ofToken e (some a.token),
          env.after t r) := by
  unfold login fetchToken Endpoint.tokenRequest Reply.token
  simp only [Program.bind_apply, Session.ofOutcome]
  cases resolveBelow e.authUrl "token" with
  | error f => rfl
  | ok url =>
    simp only [Session.send]
    by_cases web : url.isWeb = true
    · simp only [web, if_true, Environment.after]
      cases env.respond t ⟨"GET", url, [u.header], .empty⟩ with
      | answered r =>
        simp only [Reply.outcome]
        cases requireSuccess r with
        | error f => rfl
        | ok r' =>
          simp only [bind, Except.bind]
          cases decodeBody AccessToken.decoder r'.body <;> rfl
      | unreachable => rfl
      | dropped => rfl
    · simp only [web, Bool.false_eq_true, if_false]

/-- **Every request of a client presents one token**, next to what it is given to send. -/
def Presents (client : RestClient) (token : String) : Prop :=
  ∀ (env : Environment) (method : String) (url : Url) (headers : List (String × String))
    (body : Body), Session.Sends (fun r => r = ⟨method, url,
      headers ++ [("authorization", "Bearer " ++ token)] ++ contentType body, body⟩) env
      (client.send method url headers body)

theorem presents_ofToken (e : Endpoint) (token : String) :
    (ofToken e (some token)).Presents token := by
  intro env method url headers body
  refine Session.sends_ofOutcome_bind fun authorization authorized => ?_
  have field : authorization = [("authorization", "Bearer " ++ token)] := by
    simp only [RestClient.authorization, ofToken] at authorized
    split at authorized <;> cases authorized
    rfl
  rw [field]
  exact Session.sends_send fun _ => rfl

end RestClient

end AccessHarness
