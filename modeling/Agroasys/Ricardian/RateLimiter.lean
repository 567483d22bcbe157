import Agroasys.Foundation.Faults
import Agroasys.Runtime.Number

/-! `rateLimit/limiter.ts`: the stores that count requests, the middleware that they decide
for, and the routes of the app that it stands before. Times are seconds. -/

namespace Agroasys.Ricardian

open Function Agroasys.Foundation Agroasys.Runtime

structure RateLimitWindowConfig where
  limit : Int
  windowSeconds : Int

structure RateLimitRouteConfig where
  burst : RateLimitWindowConfig
  sustained : RateLimitWindowConfig

structure RicardianRateLimitConfig where
  enabled : Bool
  redisUrl : Option String
  nodeEnv : String
  writeRoute : RateLimitRouteConfig
  readRoute : RateLimitRouteConfig

section Stores

structure RateLimitStoreResult where
  count : Nat
  resetSeconds : Int
  deriving DecidableEq, Repr

/-- What becomes of the commands that a call sends to Redis. -/
structure Calling where
  connected : Bool
  incr : Fate
  expire : Fate

/-- All commands are acknowledged. -/
def Calling.healthy : Calling := ⟨true, .acknowledged, .acknowledged⟩

structure Bucket where
  count : Nat
  expiresAt : Int
  deriving DecidableEq, Repr

abbrev Buckets := String → Option Bucket

def bucketKey (key : String) (windowSeconds : Int) : String := key ++ ":" ++ toString windowSeconds

/-- `incrementAndGet` of `InMemoryRateLimitStore`. -/
def Buckets.incrementAndGet (key : String) (windowSeconds nowSeconds : Int) (buckets : Buckets) :
    RateLimitStoreResult × Buckets :=
  let bucketKey := bucketKey key windowSeconds
  match (buckets bucketKey).filter fun bucket => nowSeconds < bucket.expiresAt with
  | none => (⟨1, windowSeconds⟩, update buckets bucketKey (some ⟨1, nowSeconds + windowSeconds⟩))
  | some existing =>
    (⟨existing.count + 1, max 0 (existing.expiresAt - nowSeconds)⟩,
      update buckets bucketKey (some { existing with count := existing.count + 1 }))

/-- A counter of Redis, and when it goes. -/
structure Cell where
  count : Nat
  expiresAt : Option Int
  deriving DecidableEq, Repr

abbrev Cells := String → Option Cell

/-- What Redis still has under a key. -/
def Cells.find (nowSeconds : Int) (cells : Cells) (key : String) : Option Cell :=
  (cells key).filter fun cell => cell.expiresAt.all fun expiresAt => nowSeconds < expiresAt

/-- `INCR`. -/
def Cells.incr (nowSeconds : Int) (key : String) (cells : Cells) : Nat × Cells :=
  match cells.find nowSeconds key with
  | none => (1, update cells key (some ⟨1, none⟩))
  | some cell => (cell.count + 1, update cells key (some { cell with count := cell.count + 1 }))

/-- `EXPIRE`. -/
def Cells.expire (nowSeconds : Int) (key : String) (seconds : Int) (cells : Cells) : Cells :=
  update cells key ((cells key).map fun cell => { cell with expiresAt := some (nowSeconds + seconds) })

def redisKey (key : String) (windowSeconds bucket : Int) : String :=
  "ricardian:rate-limit:" ++ key ++ ":" ++ toString windowSeconds ++ ":" ++ toString bucket

def unreachable : String := "Connection is closed."

/-- `incrementAndGet` of `RedisRateLimitStore`. -/
def Cells.incrementAndGet (calling : Calling) (key : String) (windowSeconds nowSeconds : Int) (cells : Cells) :
    Except String RateLimitStoreResult × Cells :=
  if calling.connected then
    let redisKey := redisKey key windowSeconds (nowSeconds / windowSeconds)
    let resetSeconds := windowSeconds - nowSeconds.tmod windowSeconds
    match calling.incr.execute unreachable (.ok (cells.incr nowSeconds redisKey)) cells with
    | (.error error, cells) => (.error error, cells)
    | (.ok count, cells) =>
      if count = 1 then
        match calling.expire.execute unreachable (.ok ((), cells.expire nowSeconds redisKey windowSeconds)) cells with
        | (.error error, cells) => (.error error, cells)
        | (.ok (), cells) => (.ok ⟨count, resetSeconds⟩, cells)
      else (.ok ⟨count, resetSeconds⟩, cells)
  else (.error unreachable, cells)

/-- The store that was chosen, with what it holds. -/
inductive RateLimitStore where
  | memory (buckets : Buckets)
  | redis (cells : Cells)

def RateLimitStore.incrementAndGet (calling : Calling) (key : String) (windowSeconds nowSeconds : Int) :
    RateLimitStore → Except String RateLimitStoreResult × RateLimitStore
  | .memory buckets =>
    let (result, buckets) := buckets.incrementAndGet key windowSeconds nowSeconds
    (.ok result, .memory buckets)
  | .redis cells =>
    let (result, cells) := cells.incrementAndGet calling key windowSeconds nowSeconds
    (result, .redis cells)

end Stores

section Startup

def validateWindow (window : RateLimitWindowConfig) : Except String Unit :=
  if window.limit ≤ 0 then .error "Rate limit value must be > 0"
  else if window.windowSeconds ≤ 0 then .error "Rate limit window must be > 0"
  else .ok ()

def validateConfig (config : RicardianRateLimitConfig) : Except String Unit := do
  validateWindow config.writeRoute.burst
  validateWindow config.writeRoute.sustained
  validateWindow config.readRoute.burst
  validateWindow config.readRoute.sustained

/-- `chooseStore`, before anything is counted. -/
def chooseStore (calling : Calling) (nowSeconds : Int) (config : RicardianRateLimitConfig) :
    Except String RateLimitStore :=
  match config.redisUrl.filter (· ≠ "") with
  | none =>
    if config.nodeEnv = "production" then
      .error "RATE_LIMIT_REDIS_URL is required when RATE_LIMIT_ENABLED=true in production"
    else .ok (.memory fun _ => none)
  | some _ =>
    match Cells.incrementAndGet calling "bootstrap" 1 nowSeconds fun _ => none with
    | (.ok _, cells) => .ok (.redis cells)
    | (.error error, _) =>
      if config.nodeEnv = "production" then .error ("Failed to connect rate limiter to Redis: " ++ error)
      else .ok (.memory fun _ => none)

/-- `createRicardianRateLimiter`, where rate limiting is enabled. -/
def createRateLimiter (calling : Calling) (nowSeconds : Int) (config : RicardianRateLimitConfig) :
    Except String RateLimitStore := do
  validateConfig config
  chooseStore calling nowSeconds config

end Startup

section Requests

/-- What the router and the limiter read of a request. The path is what follows the prefix of
the API. -/
structure LimitedRequest where
  method : String
  path : String
  apiKeyId : Option String
  ip : Option String
  remoteAddress : Option String
  deriving DecidableEq

/-- `callerContext(req).key`. -/
def callerKey (req : LimitedRequest) : String :=
  let ip := ((req.ip.filter (· ≠ "")).or (req.remoteAddress.filter (· ≠ ""))).getD "unknown"
  match req.apiKeyId.filter (· ≠ "") with
  | some apiKeyId => "apiKey:" ++ apiKeyId ++ ":ip:" ++ ip
  | none => "ip:" ++ ip

inductive RouteKind where
  | write
  | read
  deriving DecidableEq, Repr

def RouteKind.value : RouteKind → String
  | .write => "write"
  | .read => "read"

/-- Without the slashes at the end. -/
def normalizeRoutePath (path : List Char) : List Char :=
  if path.length ≤ 1 then path
  else
    let normalized := (path.reverse.dropWhile (· = '/')).reverse
    if normalized = [] then ['/'] else normalized

def routeKind (req : LimitedRequest) : Option RouteKind :=
  let path := normalizeRoutePath req.path.toList
  if path = "/health".toList then none
  else if req.method.toList.map Char.toUpper = "POST".toList ∧ path = "/hash".toList then some .write
  else if req.method.toList.map Char.toUpper = "GET".toList ∧ path.take 6 = "/hash/".toList then some .read
  else none

def routePolicy (config : RicardianRateLimitConfig) : RouteKind → RateLimitRouteConfig
  | .write => config.writeRoute
  | .read => config.readRoute

end Requests

section Router

/-- The bytes of a text in which some are written as `%XX`. -/
def uriBytes : List Char → Option (List UInt8)
  | [] => some []
  | '%' :: high :: low :: rest => do
    let high ← hexValue high
    let low ← hexValue low
    return (16 * high + low).toUInt8 :: (← uriBytes rest)
  | '%' :: _ => none
  | char :: rest => return (String.singleton char).toUTF8.toList ++ (← uriBytes rest)

def decodeURIComponent (text : List Char) : Option String :=
  (uriBytes text).bind fun bytes => String.fromUTF8? ⟨bytes.toArray⟩

/-- `/^\/hash(?:\/$)?$/i`. -/
def matchesHash (path : List Char) : Bool :=
  path.map Char.toLower = "/hash".toList || path.map Char.toLower = "/hash/".toList

/-- The parameter of `/^\/hash\/([^\/]+)(?:\/$)?$/i`. -/
def hashParam (path : List Char) : Option (List Char) :=
  if (path.take 6).map Char.toLower = "/hash/".toList then
    let rest := path.drop 6
    let param := if rest.getLast? = some '/' then rest.dropLast else rest
    if param ≠ [] ∧ '/' ∉ param then some param else none
  else none

/-- The route that the router of Express dispatches a request to: it compares letters without
their case, and answers `HEAD` by the handlers of `GET`. -/
def dispatched (req : LimitedRequest) : Option RouteKind :=
  let method := req.method.toList.map Char.toLower
  let path := req.path.toList
  if method = "post".toList ∧ matchesHash path then some .write
  else if (method = "get".toList ∨ method = "head".toList) ∧
      ((hashParam path).bind decodeURIComponent).isSome then some .read
  else none

end Router

section Middleware

/-- A call of the store that was answered. -/
structure Tally where
  key : String
  windowSeconds : Int
  nowSeconds : Int
  result : RateLimitStoreResult
  deriving DecidableEq

/-- The headers of `setRateLimitHeaders`. -/
structure RateLimitHeaders where
  limit : Int
  remaining : Int
  reset : Int
  policy : String
  deriving DecidableEq

def rateLimitHeaders (policy : RateLimitRouteConfig) (window : RateLimitWindowConfig) (result : RateLimitStoreResult) :
    RateLimitHeaders where
  limit := window.limit
  remaining := max 0 (window.limit - result.count)
  reset := result.resetSeconds
  policy := "burst;w=" ++ toString policy.burst.windowSeconds ++ ", sustained;w=" ++
    toString policy.sustained.windowSeconds

/-- How the limiter ends: it calls `next`, or it answers itself. -/
inductive Verdict where
  | next (headers : Option RateLimitHeaders)
  | limited (headers : RateLimitHeaders) (retryAfterSeconds : Int)
  | unavailable
  deriving DecidableEq

/-- `evaluateRoute`, with the calls of the store that were answered. -/
def evaluateRoute (callings : Calling × Calling) (policy : RateLimitRouteConfig) (key : String) (nowSeconds : Int)
    (store : RateLimitStore) : Verdict × List Tally × RateLimitStore :=
  match store.incrementAndGet callings.1 (key ++ ":burst") policy.burst.windowSeconds nowSeconds with
  | (.error _, store) => (.unavailable, [], store)
  | (.ok burst, store) =>
    let first := ⟨key ++ ":burst", policy.burst.windowSeconds, nowSeconds, burst⟩
    if burst.count > policy.burst.limit then
      (.limited (rateLimitHeaders policy policy.burst burst) burst.resetSeconds, [first], store)
    else
      match store.incrementAndGet callings.2 (key ++ ":sustained") policy.sustained.windowSeconds nowSeconds with
      | (.error _, store) => (.unavailable, [first], store)
      | (.ok sustained, store) =>
        let second := ⟨key ++ ":sustained", policy.sustained.windowSeconds, nowSeconds, sustained⟩
        let headers := rateLimitHeaders policy policy.sustained sustained
        if sustained.count > policy.sustained.limit then
          (.limited headers sustained.resetSeconds, [first, second], store)
        else (.next (some headers), [first, second], store)

/-- `middleware`, with the calls of the store that were answered. -/
def limiter (callings : Calling × Calling) (config : RicardianRateLimitConfig) (nowSeconds : Int) (req : LimitedRequest)
    (store : RateLimitStore) : Verdict × List Tally × RateLimitStore :=
  match routeKind req with
  | none => (.next none, [], store)
  | some kind =>
    evaluateRoute callings (routePolicy config kind) (kind.value ++ ":" ++ callerKey req) nowSeconds store

/-- A request as it arrives: when, whether the middleware before the limiter lets it through,
and what becomes of the commands to Redis. -/
structure Arrival where
  req : LimitedRequest
  nowSeconds : Int
  authenticated : Bool
  callings : Calling × Calling

/-- What was done with a request. -/
inductive Outcome where
  | elsewhere
  | unauthenticated
  | rejected (verdict : Verdict)
  | passed (kind : RouteKind)
  deriving DecidableEq

structure Visit where
  req : LimitedRequest
  nowSeconds : Int
  outcome : Outcome
  tallies : List Tally

/-- A route hands a request to the middleware before its handler. -/
def serveRequest (config : RicardianRateLimitConfig) (arrival : Arrival) (store : RateLimitStore) :
    Visit × RateLimitStore :=
  match dispatched arrival.req with
  | none => (⟨arrival.req, arrival.nowSeconds, .elsewhere, []⟩, store)
  | some kind =>
    if arrival.authenticated then
      match limiter arrival.callings config arrival.nowSeconds arrival.req store with
      | (.next _, tallies, store) => (⟨arrival.req, arrival.nowSeconds, .passed kind, tallies⟩, store)
      | (verdict, tallies, store) => (⟨arrival.req, arrival.nowSeconds, .rejected verdict, tallies⟩, store)
    else (⟨arrival.req, arrival.nowSeconds, .unauthenticated, []⟩, store)

/-- Requests one after the other. -/
def serveRequests (config : RicardianRateLimitConfig) : List Arrival → RateLimitStore → List Visit
  | [], _ => []
  | arrival :: arrivals, store =>
    let (visit, store) := serveRequest config arrival store
    visit :: serveRequests config arrivals store

end Middleware

end Agroasys.Ricardian
