import Openlit.Text
import Mathlib.Tactic.Common

/-!
The session check of the client's middleware (`check-auth.ts`): which requests
it forwards, redirects or refuses. `withAuth` is next-auth's wrapper, which is
handed the function below and asked to call it for every request; the paths
that the wrapper answers by itself are its own affair, so it stays a parameter.
A cron route is let in before its header is read, and a request without the
header falls through to the forwarding: `checkAuth_guards_iff`.
-/
namespace Openlit.CheckAuth
open Openlit.Text

/-! ### Routes -/

def DEFAULT_LOGGED_IN_ROUTE : String := "/home"
def ALLOWED_OPENLIT_ROUTES_WITHOUT_TOKEN : List String :=
  ["/api/prompt/get-compiled", "/api/vault/get-secrets", "/api/rule-engine/evaluate"]
def CRON_JOB_ROUTES : List String := ["/api/evaluation/auto"]
def ONBOARDING_WHITELIST_ROUTES : List String := ["/onboarding"]

structure WhitelistApiRoutes where
  exact : List (String × List String)
  prefixes : List (String × List String)
def ONBOARDING_WHITELIST_API_ROUTES : WhitelistApiRoutes where
  exact :=
    [("GET", ["/api/organisation", "/api/organisation/invitation", "/api/user/profile", "/api/auth/session"]),
     ("POST", ["/api/organisation", "/api/user/complete-onboarding", "/api/auth/session"])]
  prefixes :=
    [("POST", ["/api/organisation/current/", "/api/organisation/invitation/"]),
     ("DELETE", ["/api/organisation/invitation/"])]

/-! ### Requests and responses -/

/-- The claims of a session token that the middleware reads. A token from before the flag has none. -/
structure Token where
  hasCompletedOnboarding : Option Bool

/-- A request, with what `getToken` answers for it: it throws on a token that it cannot read. -/
structure Request where
  pathname : String
  search : String
  method : String
  /-- `headers.get`. -/
  header : String → Option String
  token : Except Unit (Option Token)

/-- A redirect names its place below the origin of the request. -/
inductive Response
  | next
  | redirect (url : String)
  | json (error : String) (status : Nat)
  deriving DecidableEq

/-- `toUpperCase`, on the ASCII letters that methods are written in. -/
def toUpperCase (s : String) : String := String.ofList (s.toList.map Char.toUpper)

/-- The characters that `encodeURIComponent` keeps. -/
def isUnreserved (c : Char) : Bool := c.isAlphanum || c ∈ ['-', '_', '.', '!', '~', '*', '\'', '(', ')']
def hexDigit (n : Nat) : Char := (Nat.digitChar n).toUpper
def encodeURIComponent (s : String) : String :=
  String.ofList (s.toList.flatMap fun c =>
    if isUnreserved c then [c]
    else (String.utf8EncodeChar c).flatMap fun byte => ['%', hexDigit (byte.toNat / 16), hexDigit (byte.toNat % 16)])

def loginRedirect (request : Request) : Response :=
  .redirect ("/login?callbackUrl=" ++ encodeURIComponent (request.pathname ++ request.search))

/-! ### The check -/

def isAuthPage (request : Request) : Bool := hasPrefix request.pathname "/login" || hasPrefix request.pathname "/register"
def isApiPage (request : Request) : Bool := hasPrefix request.pathname "/api"
def isAllowedRequestWithoutToken (request : Request) : Bool :=
  request.pathname ∈ ALLOWED_OPENLIT_ROUTES_WITHOUT_TOKEN
def isCronJobRoute (request : Request) : Bool := request.pathname ∈ CRON_JOB_ROUTES

/-- The routes that a table lists under a method, none for one it does not have. -/
def routesOf (table : List (String × List String)) (method : String) : List String := (table.lookup method).getD []
def isOnboardingWhitelistedApi (request : Request) : Bool :=
  let method := toUpperCase request.method
  isApiPage request &&
    (request.pathname ∈ routesOf ONBOARDING_WHITELIST_API_ROUTES.exact method ||
      (routesOf ONBOARDING_WHITELIST_API_ROUTES.prefixes method).any fun route => hasPrefix request.pathname route)
def isOnboardingWhitelisted (request : Request) : Bool :=
  request.pathname ∈ ONBOARDING_WHITELIST_ROUTES || isOnboardingWhitelistedApi request

/-- `token.hasCompletedOnboarding === false`. -/
def Token.needsOnboarding (token : Token) : Bool := token.hasCompletedOnboarding == some false

/-- The part of `middleware` inside the `try`, once the token is read. -/
def checked (request : Request) (token : Option Token) : Response :=
  let needsOnboarding := token.any Token.needsOnboarding
  if isAuthPage request then
    if token.isSome then if needsOnboarding then .redirect "/onboarding" else .redirect DEFAULT_LOGGED_IN_ROUTE
    else .next
  else if isApiPage request && (token.isSome || isAllowedRequestWithoutToken request || isCronJobRoute request) then
    if isCronJobRoute request && (present (request.header "X-CRON-JOB")).isSome then .next
    -- a cron route without the header goes on as if it had a token
    else if needsOnboarding && !isOnboardingWhitelisted request && !isAllowedRequestWithoutToken request then
      .json "Please complete onboarding first" 403
    else .next
  else if token.isNone then loginRedirect request
  else if needsOnboarding && !isOnboardingWhitelisted request then .redirect "/onboarding"
  else .next

/-- The function that `checkAuth` hands to `withAuth`. -/
def middleware (next : Request → Response) (request : Request) : Response :=
  if hasPrefix request.pathname "/_next" || hasPrefix request.pathname "/static" || hasPrefix request.pathname "/images" then
    next request
  else
    match request.token with
    | .ok token => checked request token
    | .error _ => if isAuthPage request then .next else loginRedirect request

def checkAuth (withAuth : (Request → Response) → Request → Response) (next : Request → Response) : Request → Response :=
  withAuth (middleware next)

/-! ### Which requests may pass -/

def Request.HasSession (request : Request) : Prop := ∃ token, request.token = .ok (some token)
def Request.CarriesCronJobHeader (request : Request) : Prop := (present (request.header "X-CRON-JOB")).isSome
instance (request : Request) : Decidable request.CarriesCronJobHeader :=
  inferInstanceAs (Decidable ((present (request.header "X-CRON-JOB")).isSome = true))

/-- Who may use a route below `/api`. -/
inductive Admitted (request : Request) : Prop
  | onboarded {token : Token} (session : request.token = .ok (some token)) (completed : token.needsOnboarding = false)
  | whitelisted (session : request.HasSession) (listed : isOnboardingWhitelisted request)
  | withoutToken (listed : isAllowedRequestWithoutToken request)
  | cronJob (route : isCronJobRoute request) (header : request.CarriesCronJobHeader)

/-- An answer that keeps a request from its route. -/
def Response.Refuses : Response → Prop
  | .next => False
  | .redirect _ => True
  | .json _ status => 400 ≤ status

/-- Below `/api` an answer forwards only the requests that may pass, and refuses every other. -/
def Guards (request : Request) (response : Response) : Prop :=
  isApiPage request → (response = .next → Admitted request) ∧ (¬ Admitted request → response.Refuses)

/-- A cron route without a session and without the header of the cron jobs. -/
def UnheadedCronJob (request : Request) : Prop :=
  isCronJobRoute request ∧ request.token = .ok none ∧ ¬ request.CarriesCronJobHeader

/-- Two different beginnings of one string: one begins with the other. -/
theorem hasPrefix_apart {s a b : String} (begins : hasPrefix s a) (left : ¬ a.toList <+: b.toList)
    (right : ¬ b.toList <+: a.toList) : hasPrefix s b = false := by
  by_contra also
  rw [Bool.not_eq_false] at also
  rcases List.prefix_or_prefix_of_prefix (of_decide_eq_true begins) (of_decide_eq_true also) with below | above
  · exact left below
  · exact right above

section
variable {next : Request → Response} {request : Request}

theorem isAuthPage_of_api (api : isApiPage request) : isAuthPage request = false := by
  unfold isAuthPage
  rw [hasPrefix_apart api (by decide) (by decide), hasPrefix_apart api (by decide) (by decide), Bool.or_false]
theorem middleware_of_api (api : isApiPage request) :
    middleware next request =
      match request.token with
      | .ok token => checked request token
      | .error _ => loginRedirect request := by
  have static : (hasPrefix request.pathname "/_next" || hasPrefix request.pathname "/static" ||
      hasPrefix request.pathname "/images") = false := by
    rw [hasPrefix_apart api (by decide) (by decide), hasPrefix_apart api (by decide) (by decide),
      hasPrefix_apart api (by decide) (by decide), Bool.or_false, Bool.or_false]
  simp [middleware, static, isAuthPage_of_api api]

/-- Without a session, only the listed routes are forwarded. -/
theorem checked_none (api : isApiPage request) :
    checked request none =
      if isAllowedRequestWithoutToken request || isCronJobRoute request then .next else loginRedirect request := by
  by_cases listed : isAllowedRequestWithoutToken request || isCronJobRoute request
  · have enters : (isAllowedRequestWithoutToken request = true ∨ isCronJobRoute request = true) := by
      simpa using listed
    simp [checked, isAuthPage_of_api api, api, enters]
  · have stays : ¬ (isAllowedRequestWithoutToken request = true ∨ isCronJobRoute request = true) := by
      simpa using listed
    simp [checked, isAuthPage_of_api api, stays]
/-- With a session, a route is forwarded unless the onboarding comes first. -/
theorem checked_some (api : isApiPage request) (token : Token) :
    checked request (some token) =
      if isCronJobRoute request && (present (request.header "X-CRON-JOB")).isSome then .next
      else if token.needsOnboarding && !isOnboardingWhitelisted request && !isAllowedRequestWithoutToken request then
        .json "Please complete onboarding first" 403
      else .next := by
  simp [checked, isAuthPage_of_api api, api]

/-- Every answer forwards or refuses. -/
theorem refuses_of_not_next {response : Response} (answers : response = .next ∨ response = loginRedirect request ∨
    response = .json "Please complete onboarding first" 403) (stays : response ≠ .next) : response.Refuses := by
  rcases answers with forwarded | rfl | rfl
  · exact absurd forwarded stays
  · trivial
  · show 400 ≤ 403
    omega
theorem middleware_answers (api : isApiPage request) :
    middleware next request = .next ∨ middleware next request = loginRedirect request ∨
      middleware next request = .json "Please complete onboarding first" 403 := by
  rw [middleware_of_api api]
  cases request.token with
  | error _ => exact .inr (.inl rfl)
  | ok token =>
    cases token with
    | none =>
      simp only [checked_none api]
      split
      · exact .inl rfl
      · exact .inr (.inl rfl)
    | some token =>
      simp only [checked_some api]
      split
      · exact .inl rfl
      · split
        · exact .inr (.inr rfl)
        · exact .inl rfl

/-- A request with a session that is forwarded may pass. -/
theorem admitted_of_session {token : Token} (api : isApiPage request) (session : request.token = .ok (some token))
    (forwarded : checked request (some token) = .next) : Admitted request := by
  rw [checked_some api] at forwarded
  by_cases cron : isCronJobRoute request && (present (request.header "X-CRON-JOB")).isSome
  · obtain ⟨route, header⟩ := Bool.and_eq_true_iff.mp cron
    exact .cronJob route header
  by_cases allowed : isAllowedRequestWithoutToken request
  · exact .withoutToken allowed
  by_cases listed : isOnboardingWhitelisted request
  · exact .whitelisted ⟨token, session⟩ listed
  cases needs : token.needsOnboarding with
  | false => exact .onboarded session needs
  | true => simp [cron, allowed, listed, needs] at forwarded

/-- Without a session, the listed routes may pass, a cron route with its header. -/
theorem admitted_none (session : request.token = .ok none) :
    Admitted request ↔
      isAllowedRequestWithoutToken request ∨ (isCronJobRoute request ∧ request.CarriesCronJobHeader) := by
  constructor
  · intro admitted
    cases admitted with
    | onboarded some => rw [session] at some; cases some
    | whitelisted some => obtain ⟨token, some⟩ := some; rw [session] at some; cases some
    | withoutToken listed => exact .inl listed
    | cronJob route header => exact .inr ⟨route, header⟩
  · rintro (listed | ⟨route, header⟩)
    · exact .withoutToken listed
    · exact .cronJob route header

/-- No cron route is on the list of the routes without a token. -/
theorem not_allowed_of_cron (route : isCronJobRoute request) : ¬ isAllowedRequestWithoutToken request := by
  have isRoute : request.pathname = "/api/evaluation/auto" := by simpa [isCronJobRoute, CRON_JOB_ROUTES] using route
  simp [isAllowedRequestWithoutToken, ALLOWED_OPENLIT_ROUTES_WITHOUT_TOKEN, isRoute]

theorem forwarded_admitted_iff (api : isApiPage request) :
    (middleware next request = .next → Admitted request) ↔ ¬ UnheadedCronJob request := by
  rw [middleware_of_api api]
  cases session : request.token with
  | error _ =>
    have headed : ¬ UnheadedCronJob request := by
      rintro ⟨-, none, -⟩
      rw [session] at none
      cases none
    exact iff_of_true (fun forwarded => by cases forwarded) headed
  | ok token =>
    cases token with
    | some token =>
      have headed : ¬ UnheadedCronJob request := by
        rintro ⟨-, none, -⟩
        rw [session] at none
        cases none
      exact iff_of_true (admitted_of_session api session) headed
    | none =>
      simp only [checked_none api, admitted_none session, UnheadedCronJob, session]
      by_cases route : isCronJobRoute request
      · simp [route, not_allowed_of_cron route]
      · by_cases listed : isAllowedRequestWithoutToken request <;> simp [route, listed, loginRedirect]

theorem isApiPage_of_cron (route : isCronJobRoute request) : isApiPage request := by
  have isRoute : request.pathname = "/api/evaluation/auto" := by simpa [isCronJobRoute, CRON_JOB_ROUTES] using route
  rw [isApiPage, isRoute]
  decide

/-- Of the requests that `withAuth` hands on, those below `/api` are answered
    as they should be, apart from a cron route without a session whose header is missing. -/
theorem checkAuth_guards_iff {withAuth : (Request → Response) → Request → Response}
    (handed : withAuth (middleware next) request = middleware next request) :
    Guards request (checkAuth withAuth next request) ↔ ¬ UnheadedCronJob request := by
  rw [checkAuth, handed]
  constructor
  · intro guards unheaded
    have api := isApiPage_of_cron unheaded.1
    exact (forwarded_admitted_iff api).mp (guards api).1 unheaded
  · intro headed api
    have admitted : middleware next request = .next → Admitted request := (forwarded_admitted_iff api).mpr headed
    exact ⟨admitted, fun outside => refuses_of_not_next (middleware_answers api) (mt admitted outside)⟩

end

/-- A wrapper that lets the paths of next-auth itself on unread. -/
def nextAuth (middleware : Request → Response) (request : Request) : Response :=
  if hasPrefix request.pathname "/api/auth" || hasPrefix request.pathname "/_next" ||
      hasPrefix request.pathname "/favicon.ico" then .next
  else middleware request
def cronRequest (header : Option String) : Request where
  pathname := "/api/evaluation/auto"
  search := ""
  method := "POST"
  header name := if name = "X-CRON-JOB" then header else none
  token := .ok none

theorem headed_cron_guarded :
    nextAuth (middleware fun _ => .next) (cronRequest (some "true")) = middleware (fun _ => .next) (cronRequest (some "true")) ∧
      Guards (cronRequest (some "true")) (checkAuth nextAuth (fun _ => .next) (cronRequest (some "true"))) :=
  ⟨by decide, (checkAuth_guards_iff (by decide)).mpr fun unheaded => unheaded.2.2 (by decide)⟩
/-- A cron route without a session and without the header is forwarded, to a caller who may not use it. -/
theorem unheaded_cron_forwarded :
    checkAuth nextAuth (fun _ => .next) (cronRequest none) = .next ∧
      ¬ Guards (cronRequest none) (checkAuth nextAuth (fun _ => .next) (cronRequest none)) := by
  have forwarded : checkAuth nextAuth (fun _ => .next) (cronRequest none) = .next := by decide
  refine ⟨forwarded, fun guards => ?_⟩
  have admitted := (guards (by decide)).1 forwarded
  rcases (admitted_none rfl).mp admitted with listed | ⟨-, header⟩
  · exact absurd listed (by decide)
  · exact absurd header (by decide)

end Openlit.CheckAuth
