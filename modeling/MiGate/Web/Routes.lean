import MiGate.Go.Strings
import Mathlib.Data.List.Basic

namespace MiGate.Web

open Go

/-! The routes of the panel: which handler a request reaches, and what it must carry for it. -/

inductive AuthPolicy where
  | authPublic
  | authRequired
deriving DecidableEq, Repr

inductive CSRFPolicy where
  | csrfNotRequired
  | csrfRequired
deriving DecidableEq, Repr

inductive Handler where
  | loginHandler
  | logoutHandler
  | sessionHandler
  | sessionsListHandler
  | sessionRevokeHandler
  | healthHandler
  | metricsHandler
  | inboundCapabilitiesHandler
  | realityKeypairHandler
  | inboundsHandler
  | inboundChildrenHandler
  | outboundsHandler
  | outboundChildrenHandler
  | outboundSubscriptionsHandler
  | outboundSubscriptionChildrenHandler
  | routingRulesHandler
  | routingRuleChildrenHandler
  | statsHandler
  | trafficV2SnapshotHandler
  | trafficV2AnalyticsHandler
  | trafficV2StreamHandler
  | dashboardSummaryHandler
  | systemResourcesHandler
  | coreApplyJobStatusHandler
  | xrayStatusHandler
  | xrayConfigHandler
  | xrayConfigPreviewHandler
  | xrayValidateHandler
  | xrayDiagnosticsHandler
  | xrayApplyHandler
  | coreInstallHandler (core : String)
  | coreUninstallHandler (core : String)
  | coreDeleteHandler (core : String)
  | coreServiceControlHandler (core action : String)
  | xrayLogsHandler
  | xrayVersionHandler
  | singboxStatusHandler
  | singboxDiagnosticsHandler
  | singboxApplyHandler
  | singboxValidateHandler
  | singboxConfigHandler
  | singboxConfigPreviewHandler
  | singboxVersionHandler
  | singboxLogsHandler
  | certStatusHandler
  | certIssueHandler
  | certificatesHandler
  | certificateChildrenHandler
  | settingsHandler
  | restartHandler
  | serviceStatusHandler
  | versionHandler
  | updateCheckHandler
  | updateHandler
  | updateStatusHandler
  | updateLogsHandler
  | staticAssetsHandler
  | staticRootAssetHandler (assetPath : String)
  | loginPageHandler
  | subscriptionHandler
  | spaHandler
deriving DecidableEq, Repr

/-- The methods a handler does not answer with `method_not_allowed`. Where it depends on the rest
of the path, a method is listed that is accepted for some. -/
def Handler.methods : Handler → List String
  | .loginHandler | .logoutHandler | .realityKeypairHandler | .xrayApplyHandler | .coreInstallHandler _
  | .coreUninstallHandler _ | .coreDeleteHandler _ | .coreServiceControlHandler _ _ | .singboxApplyHandler
  | .certIssueHandler | .restartHandler | .updateHandler => ["POST"]
  | .sessionRevokeHandler => ["DELETE"]
  | .inboundsHandler | .outboundsHandler | .outboundSubscriptionsHandler | .routingRulesHandler
  | .certificatesHandler | .certificateChildrenHandler => ["GET", "POST"]
  | .inboundChildrenHandler => ["POST", "PATCH", "PUT", "DELETE"]
  | .outboundChildrenHandler | .routingRuleChildrenHandler => ["GET", "POST", "PUT", "DELETE"]
  | .outboundSubscriptionChildrenHandler => ["POST", "PUT", "DELETE"]
  | .settingsHandler => ["GET", "PUT"]
  | .staticAssetsHandler | .staticRootAssetHandler _ | .spaHandler => ["GET", "HEAD"]
  | .loginPageHandler => ["GET", "HEAD", "POST"]
  | _ => ["GET"]

/-- `RouteContract`, with the handler that `Build` makes. -/
structure Route where
  method : String
  path : String
  auth : AuthPolicy
  csrf : CSRFPolicy
  handler : Handler
deriving DecidableEq, Repr

def routeTable : List Route :=
  [⟨"POST", "/api/login", .authPublic, .csrfRequired, .loginHandler⟩,
    ⟨"POST", "/api/logout", .authRequired, .csrfRequired, .logoutHandler⟩,
    ⟨"GET", "/api/session", .authPublic, .csrfNotRequired, .sessionHandler⟩,
    ⟨"GET", "/api/sessions", .authRequired, .csrfNotRequired, .sessionsListHandler⟩,
    ⟨"DELETE", "/api/sessions/", .authRequired, .csrfRequired, .sessionRevokeHandler⟩,
    ⟨"GET", "/api/health", .authPublic, .csrfNotRequired, .healthHandler⟩,
    ⟨"GET", "/api/metrics", .authRequired, .csrfNotRequired, .metricsHandler⟩,
    ⟨"GET", "/api/inbound-capabilities", .authRequired, .csrfNotRequired, .inboundCapabilitiesHandler⟩,
    ⟨"POST", "/api/reality/keypair", .authRequired, .csrfRequired, .realityKeypairHandler⟩,
    ⟨"GET", "/api/inbounds", .authRequired, .csrfNotRequired, .inboundsHandler⟩,
    ⟨"POST", "/api/inbounds", .authRequired, .csrfRequired, .inboundsHandler⟩,
    ⟨"PUT", "/api/inbounds/", .authRequired, .csrfRequired, .inboundChildrenHandler⟩,
    ⟨"PATCH", "/api/inbounds/", .authRequired, .csrfRequired, .inboundChildrenHandler⟩,
    ⟨"DELETE", "/api/inbounds/", .authRequired, .csrfRequired, .inboundChildrenHandler⟩,
    ⟨"POST", "/api/inbounds/", .authRequired, .csrfRequired, .inboundChildrenHandler⟩,
    ⟨"GET", "/api/outbounds", .authRequired, .csrfNotRequired, .outboundsHandler⟩,
    ⟨"POST", "/api/outbounds", .authRequired, .csrfRequired, .outboundsHandler⟩,
    ⟨"GET", "/api/outbounds/", .authRequired, .csrfNotRequired, .outboundChildrenHandler⟩,
    ⟨"PUT", "/api/outbounds/", .authRequired, .csrfRequired, .outboundChildrenHandler⟩,
    ⟨"DELETE", "/api/outbounds/", .authRequired, .csrfRequired, .outboundChildrenHandler⟩,
    ⟨"POST", "/api/outbounds/", .authRequired, .csrfRequired, .outboundChildrenHandler⟩,
    ⟨"GET", "/api/outbound-subscriptions", .authRequired, .csrfNotRequired, .outboundSubscriptionsHandler⟩,
    ⟨"POST", "/api/outbound-subscriptions", .authRequired, .csrfRequired, .outboundSubscriptionsHandler⟩,
    ⟨"PUT", "/api/outbound-subscriptions/", .authRequired, .csrfRequired, .outboundSubscriptionChildrenHandler⟩,
    ⟨"DELETE", "/api/outbound-subscriptions/", .authRequired, .csrfRequired, .outboundSubscriptionChildrenHandler⟩,
    ⟨"POST", "/api/outbound-subscriptions/", .authRequired, .csrfRequired, .outboundSubscriptionChildrenHandler⟩,
    ⟨"GET", "/api/routing-rules", .authRequired, .csrfNotRequired, .routingRulesHandler⟩,
    ⟨"POST", "/api/routing-rules", .authRequired, .csrfRequired, .routingRulesHandler⟩,
    ⟨"GET", "/api/routing-rules/", .authRequired, .csrfNotRequired, .routingRuleChildrenHandler⟩,
    ⟨"PUT", "/api/routing-rules/", .authRequired, .csrfRequired, .routingRuleChildrenHandler⟩,
    ⟨"DELETE", "/api/routing-rules/", .authRequired, .csrfRequired, .routingRuleChildrenHandler⟩,
    ⟨"POST", "/api/routing-rules/", .authRequired, .csrfRequired, .routingRuleChildrenHandler⟩,
    ⟨"GET", "/api/stats", .authRequired, .csrfNotRequired, .statsHandler⟩,
    ⟨"GET", "/api/traffic/v2/snapshot", .authRequired, .csrfNotRequired, .trafficV2SnapshotHandler⟩,
    ⟨"GET", "/api/traffic/v2/analytics", .authRequired, .csrfNotRequired, .trafficV2AnalyticsHandler⟩,
    ⟨"GET", "/api/traffic/v2/stream", .authRequired, .csrfNotRequired, .trafficV2StreamHandler⟩,
    ⟨"GET", "/api/dashboard/summary", .authRequired, .csrfNotRequired, .dashboardSummaryHandler⟩,
    ⟨"GET", "/api/system/resources", .authRequired, .csrfNotRequired, .systemResourcesHandler⟩,
    ⟨"GET", "/api/core/apply-jobs/", .authRequired, .csrfNotRequired, .coreApplyJobStatusHandler⟩,
    ⟨"GET", "/api/xray/status", .authRequired, .csrfNotRequired, .xrayStatusHandler⟩,
    ⟨"GET", "/api/xray/config", .authRequired, .csrfNotRequired, .xrayConfigHandler⟩,
    ⟨"GET", "/api/xray/config/preview", .authRequired, .csrfNotRequired, .xrayConfigPreviewHandler⟩,
    ⟨"GET", "/api/xray/validate", .authRequired, .csrfNotRequired, .xrayValidateHandler⟩,
    ⟨"GET", "/api/xray/diagnostics", .authRequired, .csrfNotRequired, .xrayDiagnosticsHandler⟩,
    ⟨"POST", "/api/xray/apply", .authRequired, .csrfRequired, .xrayApplyHandler⟩,
    ⟨"POST", "/api/xray/install", .authRequired, .csrfRequired, .coreInstallHandler "xray"⟩,
    ⟨"POST", "/api/xray/uninstall", .authRequired, .csrfRequired, .coreUninstallHandler "xray"⟩,
    ⟨"POST", "/api/xray/delete", .authRequired, .csrfRequired, .coreDeleteHandler "xray"⟩,
    ⟨"POST", "/api/xray/restart", .authRequired, .csrfRequired, .coreServiceControlHandler "xray" "restart"⟩,
    ⟨"POST", "/api/xray/stop", .authRequired, .csrfRequired, .coreServiceControlHandler "xray" "stop"⟩,
    ⟨"GET", "/api/xray/logs", .authRequired, .csrfNotRequired, .xrayLogsHandler⟩,
    ⟨"GET", "/api/xray/version", .authRequired, .csrfNotRequired, .xrayVersionHandler⟩,
    ⟨"GET", "/api/singbox/status", .authRequired, .csrfNotRequired, .singboxStatusHandler⟩,
    ⟨"GET", "/api/singbox/diagnostics", .authRequired, .csrfNotRequired, .singboxDiagnosticsHandler⟩,
    ⟨"POST", "/api/singbox/apply", .authRequired, .csrfRequired, .singboxApplyHandler⟩,
    ⟨"GET", "/api/singbox/validate", .authRequired, .csrfNotRequired, .singboxValidateHandler⟩,
    ⟨"POST", "/api/singbox/install", .authRequired, .csrfRequired, .coreInstallHandler "singbox"⟩,
    ⟨"POST", "/api/singbox/uninstall", .authRequired, .csrfRequired, .coreUninstallHandler "singbox"⟩,
    ⟨"POST", "/api/singbox/delete", .authRequired, .csrfRequired, .coreDeleteHandler "singbox"⟩,
    ⟨"POST", "/api/singbox/restart", .authRequired, .csrfRequired, .coreServiceControlHandler "singbox" "restart"⟩,
    ⟨"POST", "/api/singbox/stop", .authRequired, .csrfRequired, .coreServiceControlHandler "singbox" "stop"⟩,
    ⟨"GET", "/api/singbox/config", .authRequired, .csrfNotRequired, .singboxConfigHandler⟩,
    ⟨"GET", "/api/singbox/config/preview", .authRequired, .csrfNotRequired, .singboxConfigPreviewHandler⟩,
    ⟨"GET", "/api/singbox/version", .authRequired, .csrfNotRequired, .singboxVersionHandler⟩,
    ⟨"GET", "/api/singbox/logs", .authRequired, .csrfNotRequired, .singboxLogsHandler⟩,
    ⟨"GET", "/api/cert/status", .authRequired, .csrfNotRequired, .certStatusHandler⟩,
    ⟨"POST", "/api/cert/issue", .authRequired, .csrfRequired, .certIssueHandler⟩,
    ⟨"GET", "/api/certificates", .authRequired, .csrfNotRequired, .certificatesHandler⟩,
    ⟨"POST", "/api/certificates", .authRequired, .csrfRequired, .certificatesHandler⟩,
    ⟨"GET", "/api/certificates/", .authRequired, .csrfNotRequired, .certificateChildrenHandler⟩,
    ⟨"POST", "/api/certificates/", .authRequired, .csrfRequired, .certificateChildrenHandler⟩,
    ⟨"GET", "/api/settings", .authRequired, .csrfNotRequired, .settingsHandler⟩,
    ⟨"PUT", "/api/settings", .authRequired, .csrfRequired, .settingsHandler⟩,
    ⟨"POST", "/api/restart", .authRequired, .csrfRequired, .restartHandler⟩,
    ⟨"GET", "/api/service/status", .authRequired, .csrfNotRequired, .serviceStatusHandler⟩,
    ⟨"GET", "/api/version", .authRequired, .csrfNotRequired, .versionHandler⟩,
    ⟨"GET", "/api/update/check", .authRequired, .csrfNotRequired, .updateCheckHandler⟩,
    ⟨"POST", "/api/update", .authRequired, .csrfRequired, .updateHandler⟩,
    ⟨"GET", "/api/update/status", .authRequired, .csrfNotRequired, .updateStatusHandler⟩,
    ⟨"GET", "/api/update/logs", .authRequired, .csrfNotRequired, .updateLogsHandler⟩]

/-- `registerAPIRoutes`: of the routes of one path the first is registered. -/
def registerAPIRoutes (routes : List Route) : List (String × Handler) :=
  routes.foldl (fun registered route =>
    if registered.any (fun known => known.1 = route.path) then registered
    else registered ++ [(route.path, route.handler)]) []

/-- What `NewRouter` registers with the mux. -/
def patterns : List (String × Handler) :=
  [("/assets/", .staticAssetsHandler), ("/favicon.svg", .staticRootAssetHandler "/favicon.svg"),
      ("/favicon.ico", .staticRootAssetHandler "/favicon.ico"), ("/login", .loginPageHandler)] ++
    registerAPIRoutes routeTable ++ [("/sub/", .subscriptionHandler), ("/", .spaHandler)]

/-! ### Which route a request belongs to -/

/-- A request as the middlewares see it: whether its cookie holds a session that is valid and not
revoked, and whether it says that it comes from the panel's own pages. -/
structure Request where
  method : String
  path : String
  session : Bool
  sameOrigin : Bool
deriving DecidableEq, Repr

/-- `strings.HasSuffix` with a slash. -/
def endsInSlash (path : String) : Bool :=
  path.toList.getLast? = some '/'

def routePathMatches (routePath requestPath : String) : Bool :=
  if endsInSlash routePath then hasPrefix requestPath routePath else requestPath = routePath

def routeContractForRequest (request : Request) : Option Route :=
  routeTable.find? fun route => route.method = request.method && routePathMatches route.path request.path

/-- `pathMatchesAnyRoute`, for the routes of one policy or for all. -/
def pathMatchesAnyRoute (path : String) (auth : Option AuthPolicy) : Bool :=
  routeTable.any fun route => routePathMatches route.path path && auth.all (route.auth = ·)

def requestAuthPolicy (request : Request) : AuthPolicy :=
  let path := request.path
  if path = "/login" ∨ path = "/" ∨ hasPrefix path "/sub/" ∨ hasPrefix path "/assets/" then .authPublic
  else if request.method = "GET" ∧ !hasPrefix path "/api/" ∧ !hasPrefix path "/sub/" then .authPublic
  else if !hasPrefix path "/api/" then .authRequired
  else
    match routeContractForRequest request with
    | some route => route.auth
    | none =>
        if pathMatchesAnyRoute path (some .authPublic) ∧ !pathMatchesAnyRoute path (some .authRequired) then .authPublic
        else .authRequired

/-- A method by which nothing is to change. -/
def isReadMethod (method : String) : Bool :=
  ["GET", "HEAD", "OPTIONS"].contains method

def isAPIWriteRequest (request : Request) : Bool :=
  hasPrefix request.path "/api/" && !isReadMethod request.method

def requestRequiresCSRF (request : Request) : Bool :=
  if !isAPIWriteRequest request then false
  else
    match routeContractForRequest request with
    | some route => route.csrf = .csrfRequired
    | none => !pathMatchesAnyRoute request.path none

/-! ### The mux -/

/-- `path.Clean` of a path that begins with a slash, in its segments. -/
def cleanSegments (segments : List (List Char)) : List (List Char) :=
  segments.foldl (fun kept segment =>
    if segment = [] ∨ segment = ['.'] then kept
    else if segment = ['.', '.'] then kept.dropLast
    else kept ++ [segment]) []

/-- `cleanPath` of `net/http`. -/
def cleanPath (path : String) : String :=
  if path = "" then "/"
  else
    let rooted := if hasPrefix path "/" then path.toList else '/' :: path.toList
    let cleaned := '/' :: ['/'].intercalate (cleanSegments (rooted.splitOn '/'))
    String.ofList (if endsInSlash path ∧ cleaned ≠ ['/'] then cleaned ++ ['/'] else cleaned)

/-- The longest of the patterns a path matches. -/
def longestPattern (path : String) : Option (String × Handler) :=
  (patterns.filter fun known => routePathMatches known.1 path).foldl (fun best known =>
    match best with
    | none => some known
    | some earlier => if earlier.1.length < known.1.length then some known else best) none

inductive Response where
  | unauthorized
  | csrfOriginMismatch
  | redirected (target : String)
  | notFound
  | handled (handler : Handler)
deriving DecidableEq, Repr

/-- `ServeMux`: a path that is not clean, or lacks the slash at the end, is redirected to. -/
def muxServe (request : Request) : Response :=
  if request.method ≠ "CONNECT" ∧ cleanPath request.path ≠ request.path then .redirected (cleanPath request.path)
  else
    match longestPattern request.path with
    | none => .notFound
    | some known =>
        if known.1 ≠ request.path ∧ !endsInSlash request.path ∧
            patterns.any (fun other => other.1 = request.path ++ "/") then .redirected (request.path ++ "/")
        else .handled known.2

/-! ### The middlewares -/

structure RouterConfig where
  authEnabled : Bool
  basePath : String
deriving DecidableEq, Repr

def csrfMiddleware (config : RouterConfig) (request : Request) : Response :=
  if config.authEnabled ∧ requestRequiresCSRF request ∧ !request.sameOrigin then .csrfOriginMismatch
  else muxServe request

/-- `authMiddleware` in front of `csrfMiddleware`. -/
def authorizedServe (config : RouterConfig) (request : Request) : Response :=
  if config.authEnabled ∧ requestAuthPolicy request ≠ .authPublic ∧ !request.session then .unauthorized
  else csrfMiddleware config request

def isRootStaticAsset (path : String) : Bool :=
  path = "/favicon.svg" || path = "/favicon.ico"

/-- `basePathMiddleware`, and what `NewRouter` does without a base path. -/
def serve (config : RouterConfig) (request : Request) : Response :=
  if config.basePath = "" ∨ isRootStaticAsset request.path then authorizedServe config request
  else if request.path = config.basePath then .redirected (config.basePath ++ "/")
  else if !hasPrefix request.path (config.basePath ++ "/") then .notFound
  else authorizedServe config { request with path := String.ofList (request.path.toList.drop config.basePath.length) }

/-! ### What is open to everybody -/

/-- The handlers that a request reaches without a session. -/
def openHandlers : List Handler :=
  [.loginHandler, .sessionHandler, .healthHandler, .staticAssetsHandler, .staticRootAssetHandler "/favicon.svg",
    .staticRootAssetHandler "/favicon.ico", .loginPageHandler, .subscriptionHandler, .spaHandler]

theorem hasPrefix_iff {path lead : String} : hasPrefix path lead = true ↔ lead.toList <+: path.toList := by
  unfold hasPrefix
  exact List.isPrefixOf_iff_prefix

/-- A path does not begin in two ways that have nothing to do with each other. -/
theorem hasPrefix_apart {path lead other : String} (begins : hasPrefix path lead = true)
    (apart : hasPrefix lead other = false ∧ hasPrefix other lead = false) : hasPrefix path other = false := by
  cases both : hasPrefix path other with
  | false => rfl
  | true =>
      rcases List.prefix_or_prefix_of_prefix (hasPrefix_iff.mp begins) (hasPrefix_iff.mp both) with first | second
      · rw [hasPrefix_iff.mpr first] at apart
        cases apart.2
      · rw [hasPrefix_iff.mpr second] at apart
        cases apart.1

theorem prefix_of_matches {pattern path : String} (matched : routePathMatches pattern path = true) :
    pattern.toList <+: path.toList := by
  unfold routePathMatches at matched
  split at matched
  · exact hasPrefix_iff.mp matched
  · rw [decide_eq_true_eq] at matched
    exact matched ▸ List.prefix_rfl

theorem hasPrefix_of_matches {pattern path lead : String} (matched : routePathMatches pattern path = true)
    (begins : hasPrefix pattern lead = true) : hasPrefix path lead = true :=
  hasPrefix_iff.mpr ((hasPrefix_iff.mp begins).trans (prefix_of_matches matched))

theorem longestPattern_mem {path : String} {known : String × Handler} (longest : longestPattern path = some known) :
    known ∈ patterns ∧ routePathMatches known.1 path = true := by
  have among : ∀ (candidates : List (String × Handler)) (best : Option (String × Handler)),
      candidates.foldl (fun best known =>
        match best with
        | none => some known
        | some earlier => if earlier.1.length < known.1.length then some known else best) best = some known →
      best = some known ∨ known ∈ candidates := by
    intro candidates
    induction candidates with
    | nil => exact fun best found => .inl found
    | cons candidate rest ih =>
        intro best found
        rcases ih _ found with taken | later
        · cases best with
          | none =>
              cases taken
              exact .inr List.mem_cons_self
          | some earlier =>
              simp only at taken
              split at taken
              · cases taken
                exact .inr List.mem_cons_self
              · exact .inl taken
        · exact .inr (List.mem_cons_of_mem _ later)
  rcases among _ _ longest with absurd_ | member
  · cases absurd_
  · simpa using member

/-- A pattern that does not belong to the interface is open, and is written to only by the login page. -/
theorem patterns_api : ∀ known ∈ patterns, hasPrefix known.1 "/api/" = true ∨
    known.2 ∈ openHandlers ∧ ∀ method ∈ known.2.methods, isReadMethod method = true ∨
      known.2 = .loginPageHandler ∧ method = "POST" := by
  decide +kernel

/-- The routes that are public are exact paths of open handlers. -/
theorem public_routes : ∀ route ∈ routeTable, route.auth = .authPublic →
    endsInSlash route.path = false ∧ (longestPattern route.path).all (fun known => known.2 ∈ openHandlers) = true := by
  decide +kernel

/-- Every write of the interface that a handler accepts has a route of its own. -/
theorem writes_have_routes : ∀ known ∈ patterns, hasPrefix known.1 "/api/" = true → ∀ method ∈ known.2.methods,
    isReadMethod method = false → ∃ route ∈ routeTable, route.method = method ∧ route.path = known.1 := by
  decide +kernel

theorem writes_require_csrf : ∀ route ∈ routeTable, isReadMethod route.method = false → route.csrf = .csrfRequired := by
  decide +kernel

theorem muxServe_handled {request : Request} {handler : Handler} (served : muxServe request = .handled handler) :
    ∃ pattern, longestPattern request.path = some (pattern, handler) := by
  unfold muxServe at served
  split at served
  · cases served
  · split at served
    · cases served
    · rename_i known longest
      split at served
      · cases served
      · cases served
        exact ⟨known.1, longest⟩

/-- Who is let through without a session comes to a handler that is open. -/
theorem public_open {request : Request} {handler : Handler} (policy : requestAuthPolicy request = .authPublic)
    (served : muxServe request = .handled handler) : handler ∈ openHandlers := by
  obtain ⟨pattern, longest⟩ := muxServe_handled served
  obtain ⟨registered, matched⟩ := longestPattern_mem longest
  have outside : hasPrefix request.path "/api/" = false → handler ∈ openHandlers := by
    intro notApi
    rcases patterns_api _ registered with api | ⟨isOpen, _⟩
    · rw [hasPrefix_of_matches matched api] at notApi
      cases notApi
    · exact isOpen
  have ofRoute : ∀ route ∈ routeTable, route.auth = .authPublic → routePathMatches route.path request.path = true →
      handler ∈ openHandlers := by
    intro route member isPublic here
    obtain ⟨exact_, reached⟩ := public_routes route member isPublic
    have same : request.path = route.path := by simpa [routePathMatches, exact_] using here
    rw [← same, longest] at reached
    simpa using reached
  unfold requestAuthPolicy at policy
  simp only at policy
  split at policy
  · rename_i page
    refine outside ?_
    rcases page with login | root | subscription | asset
    · rw [login]
      decide +kernel
    · rw [root]
      decide +kernel
    · exact hasPrefix_apart subscription (by decide +kernel)
    · exact hasPrefix_apart asset (by decide +kernel)
  · split at policy
    · rename_i _ page
      exact outside (by simpa using page.2.1)
    · split at policy
      · cases policy
      · split at policy
        · rename_i route found
          have member := List.mem_of_find?_eq_some found
          have here := List.find?_some found
          simp only [Bool.and_eq_true] at here
          exact ofRoute route member policy here.2
        · split at policy
          · rename_i matches_
            obtain ⟨route, member, here⟩ := List.any_eq_true.mp matches_.1
            simp only [Bool.and_eq_true, Option.all_some, decide_eq_true_eq] at here
            exact ofRoute route member here.2 here.1
          · cases policy

/-- A write that its handler accepts is one that must come from the panel's own pages, but for the
login by the login page. -/
theorem write_requires_csrf {request : Request} {handler : Handler} (served : muxServe request = .handled handler)
    (accepted : request.method ∈ handler.methods) (write : isReadMethod request.method = false) :
    requestRequiresCSRF request = true ∨ handler = .loginPageHandler ∧ request.method = "POST" := by
  obtain ⟨pattern, longest⟩ := muxServe_handled served
  obtain ⟨registered, matched⟩ := longestPattern_mem longest
  rcases patterns_api _ registered with api | ⟨_, reads⟩
  · obtain ⟨route, member, method, path⟩ := writes_have_routes _ registered api _ accepted write
    refine .inl ?_
    have isWrite : isAPIWriteRequest request = true := by
      rw [isAPIWriteRequest, hasPrefix_of_matches matched api, write]
      rfl
    have found : (routeContractForRequest request).isSome = true := by
      refine List.find?_isSome.mpr ⟨route, member, ?_⟩
      rw [path, matched]
      simpa using method
    obtain ⟨contract, here⟩ := Option.isSome_iff_exists.mp found
    have same := List.find?_some here
    simp only [Bool.and_eq_true, decide_eq_true_eq] at same
    have required := writes_require_csrf contract (List.mem_of_find?_eq_some here) (same.1 ▸ write)
    simp only [requestRequiresCSRF, isWrite, here, required, decide_true, Bool.not_true, Bool.false_eq_true, if_false]
  · rcases reads _ accepted with read | login
    · rw [write] at read
      cases read
    · exact .inr login

theorem authorizedServe_guards {config : RouterConfig} {request : Request} {handler : Handler}
    (enabled : config.authEnabled = true) (served : authorizedServe config request = .handled handler)
    (accepted : request.method ∈ handler.methods) :
    (request.session = true ∨ handler ∈ openHandlers) ∧
      (isReadMethod request.method = false → request.sameOrigin = true ∨
        handler = .loginPageHandler ∧ request.method = "POST") := by
  unfold authorizedServe csrfMiddleware at served
  simp only [enabled, true_and] at served
  split at served
  · cases served
  · rename_i passed
    split at served
    · cases served
    · rename_i same
      constructor
      · by_cases policy : requestAuthPolicy request = .authPublic
        · exact .inr (public_open policy served)
        · simp only [ne_eq, policy, not_false_eq_true, true_and, Bool.not_eq_true', Bool.not_eq_false] at passed
          exact .inl passed
      · intro write
        rcases write_requires_csrf served accepted write with required | login
        · simp only [required, true_and, Bool.not_eq_true', Bool.not_eq_false] at same
          exact .inl same
        · exact .inr login

end MiGate.Web
