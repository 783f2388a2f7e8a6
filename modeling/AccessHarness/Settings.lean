import AccessHarness.Access.Cache
import AccessHarness.Decimal.Unsigned
import AccessHarness.Rest.Client

/-!
# Settings

What the harness is told: where the platform is, who the administrator is, how names and
passwords are made, how to deal with cached decisions.  Everything comes from named
variables; a value is read without the blanks at its ends, and a blank one counts as
unset.

`Settings.ofLookup` reports the first setting that is wrong, in the order in which the
fields stand here.
-/

namespace AccessHarness

/-- **What the harness is told.** -/
structure Settings where
  endpoint : Endpoint
  /-- A token for the administrator; with one, none is fetched. -/
  accessToken : Option String
  adminUser : String
  passwordSuffix : String
  testNamespace : NamespaceId
  /-- The principal the test namespace is impersonated as, if any. -/
  namespacePrincipal : Option String
  namespaceKeytab : Option String
  invalidatePath : String
  cachePolicy : CachePolicy
  /-- The market, where it is not the platform's own. -/
  marketUrl : Option String
  /-- The version of the test applications. -/
  artifactVersion : String
  /-- Where the test applications are kept; without it the platform must have them. -/
  artifactDirectory : Option String
  deriving DecidableEq

namespace Settings

/-- The variables the settings are read from. -/
def variableNames : List String :=
  ["CDAP_INSTANCE_URI", "CDAP_AUTH_URI", "CDAP_ACCESS_TOKEN", "CDAP_ADMIN_USER",
   "CDAP_PASSWORD_SUFFIX", "CDAP_TEST_NAMESPACE", "CDAP_NAMESPACE_PRINCIPAL",
   "CDAP_NAMESPACE_KEYTAB", "CDAP_CACHE_INVALIDATE_PATH", "CDAP_CACHE_STALENESS_SECS",
   "CDAP_MARKET_URL", "CDAP_APP_ARTIFACT_VERSION", "CDAP_APP_JAR_DIR",
   "CDAP_REQUEST_TIMEOUT_SECS"]

/-- A setting without the blanks around it, if anything is left. -/
def value? (lookup : String → Option String) (key : String) : Option String :=
  (lookup key).bind fun raw =>
    let v := Text.trim raw
    if v.isEmpty then none else some v

/-- Read a number of 64 bits. -/
def number (key raw : String) : Outcome Nat :=
  match Decimal.readUnsigned UInt64.size raw with
  | .ok n => .ok n
  | .error e =>
    .error (.configuration
      (key ++ " must be a non-negative integer, got '" ++ raw ++ "': " ++ e.message))

/-- A setting that is a number of seconds, if it is set. -/
def seconds? (lookup : String → Option String) (key : String) : Outcome (Option Nat) :=
  match value? lookup key with
  | none => .ok none
  | some raw => (number key raw).map some

/-- A setting that is a URL, if it is set. -/
def url? (lookup : String → Option String) (key what : String) : Outcome (Option Url) :=
  match value? lookup key with
  | none => .ok none
  | some raw => (readUrl what raw).map some

/-- **Read the settings.** -/
def ofLookup (lookup : String → Option String) : Outcome Settings := do
  let get := value? lookup
  let endpoint ← Endpoint.ofInstance ((get "CDAP_INSTANCE_URI").getD "http://localhost:11015")
  let auth ← url? lookup "CDAP_AUTH_URI" "auth URI"
  let timeout ← seconds? lookup "CDAP_REQUEST_TIMEOUT_SECS"
  let staleness ← seconds? lookup "CDAP_CACHE_STALENESS_SECS"
  let invalidatePath :=
    (get "CDAP_CACHE_INVALIDATE_PATH").getD "/v3/security/authorization/cache/invalidate"
  if !Text.startsWith ['/'] invalidatePath.toList then
    throw (.configuration
      ("CDAP_CACHE_INVALIDATE_PATH must be an absolute path, got '" ++ invalidatePath ++ "'"))
  return {
    endpoint :=
      { endpoint with
        authUrl := auth.getD endpoint.authUrl
        requestTimeout := (timeout.map Duration.ofSeconds).getD endpoint.requestTimeout }
    accessToken := get "CDAP_ACCESS_TOKEN"
    adminUser := (get "CDAP_ADMIN_USER").getD "cdapitn"
    passwordSuffix := (get "CDAP_PASSWORD_SUFFIX").getD "password"
    testNamespace := ⟨(get "CDAP_TEST_NAMESPACE").getD "authorization"⟩
    namespacePrincipal := get "CDAP_NAMESPACE_PRINCIPAL"
    namespaceKeytab := get "CDAP_NAMESPACE_KEYTAB"
    invalidatePath
    cachePolicy :=
      match staleness with
      | some s => .stalenessWindow (Duration.ofSeconds s)
      | none => .invalidateOnMutation
    marketUrl := get "CDAP_MARKET_URL"
    artifactVersion := (get "CDAP_APP_ARTIFACT_VERSION").getD "1.0.0"
    artifactDirectory := get "CDAP_APP_JAR_DIR" }

/-- **The password of a test user**: the administrator's is its own name, everyone else's
its name and the suffix. -/
def credentialsFor (s : Settings) (user : String) : Credentials :=
  ⟨user, if user = s.adminUser then user else user ++ s.passwordSuffix⟩

/-- The administrator as a principal. -/
def adminPrincipal (s : Settings) : Principal := .user s.adminUser

end Settings

end AccessHarness
