import Agroasys.Auth.Controller
import Agroasys.Runtime.Doubles
import Agroasys.Runtime.JsonText

namespace Agroasys.Auth.Lifetimes

open Function Agroasys.Foundation Agroasys.Runtime

section Service

def defaultTtlSeconds : Double := .finite 3600

/-- `sessions.issue`, for any number of seconds. What no BIGINT can hold is refused by the database. -/
def issue (profile : UserProfile) (ttlSeconds : Double) : Job SessionIssueResult := do
  let sessionId ← perform .randomBytes
  let expiresAt := Double.add (.finite (← nowSeconds)) ttlSeconds
  let issuedAt ← nowSeconds
  let stored ← Task.ofExcept expiresAt.bigint
  Task.ofExcept (← perform (.insertSession sessionId profile issuedAt stored))
  return ⟨sessionId, stored⟩

def login (walletAddress : String) (role : UserRole) (orgId : Option String) (ttlSeconds : Option Double) :
    Job SessionIssueResult := do
  let normalized := toLowerCase walletAddress
  let profile ← upsert normalized role orgId
  if profile.active then issue profile (ttlSeconds.getD defaultTtlSeconds)
  else throw "User profile is deactivated"

def refresh (sessionId : String) (ttlSeconds : Option Double) : Job SessionIssueResult := do
  match ← resolveActive sessionId with
  | none => throw "Session is invalid, expired, or revoked"
  | some existing =>
    match ← findById existing.userId with
    | none => throw "User profile is inactive or not found"
    | some profile =>
      if profile.active then do
        let result ← issue profile (ttlSeconds.getD defaultTtlSeconds)
        revokeSession sessionId
        return result
      else throw "User profile is inactive or not found"

end Service

section Controller

/-- `number` is what a value of a body is as a number. -/
structure Settings extends AppSettings where
  number : JsValue → Double

variable (settings : Settings)

/-- `Math.max(1, Math.min(ttlSeconds, this.maxSessionTtlSeconds))`, if the value is not undefined. -/
def safeTtl : JsValue → Option Double
  | .undefined => none
  | ttlSeconds =>
    let least := Double.minimum (settings.number ttlSeconds) (.finite settings.maxSessionTtlSeconds)
    some (Double.maximum (.finite 1) least)

/-- A login body; its lifetime may be any value. -/
structure LoginBody where
  walletAddress : Option String
  signature : Option String
  role : Option String
  orgId : Option String
  ttlSeconds : JsValue

def postLogin (body : LoginBody) : Job HttpResponse := do
  match readLogin ⟨body.walletAddress, body.signature, body.role, body.orgId, none⟩ with
  | .error refusal => return refusal
  | .ok (walletAddress, signature, role) =>
    let wallet := toLowerCase walletAddress
    match ← perform (.getChallenge wallet) with
    | none => return unauthorized "No active challenge for this wallet. Call GET /challenge first."
    | some nonce =>
      match checkSignature settings.verifyMessage wallet nonce signature with
      | .error refusal => return refusal
      | .ok () =>
        perform (.deleteChallenge wallet)
        let safeTtl := safeTtl settings body.ttlSeconds
        tryCatch (do return ⟨201, .issued (← login wallet role body.orgId safeTtl)⟩) fun message =>
          return forbidden message

def postRefresh (authorization : Option String) : Job HttpResponse :=
  withSession authorization fun session =>
    tryCatch (do return ⟨200, .issued (← refresh session.sessionId none)⟩) fun message =>
      return unauthorized message

/-- The requests of the routes. -/
inductive Request where
  | getChallenge (wallet : Option String)
  | postLogin (body : LoginBody)
  | getSession (authorization : Option String)
  | postRefresh (authorization : Option String)
  | postRevoke (authorization : Option String)

def handle : Request → Job HttpResponse
  | .getChallenge wallet => getChallenge wallet
  | .postLogin body => postLogin settings body
  | .getSession authorization => getSession authorization
  | .postRefresh authorization => postRefresh authorization
  | .postRevoke authorization => postRevoke authorization

def respond (request : Request) : Job HttpResponse :=
  tryCatch (handle settings request) fun _ => return internalServerError

/-- The service as its routes expose it. -/
def app : Server Request Effect Answer (Except String HttpResponse) World where
  initial _ := True
  program request := (respond settings request).run
  serves := serve.serves
  drifts := World.Drifts

abbrev AppPool := Pool Effect Answer (Except String HttpResponse) World
abbrev AppEntry := Transition AppPool (Move Request Effect Answer)
abbrev AppHistory := History AppPool (Move Request Effect Answer)

end Controller

section Reads

/-- What a call read of the clock, the last first. -/
def reads (pid : Nat) (history : AppHistory) : List Nat :=
  history.filterMap fun entry =>
    match entry.label with
    | .perform caller ⟨.now, time⟩ => if caller = pid then some time else none
    | _ => none

/-- A call stores a session. -/
def Stores (pid : Nat) (issuedAt expiresAt : Int) (entry : AppEntry) : Prop :=
  ∃ sessionId profile answer,
    entry.label = .perform pid ⟨.insertSession sessionId profile issuedAt expiresAt, answer⟩

/-- A session that a call stores expires at most so many seconds after the second that it was issued
at: `issue` reads the clock for that, and once more for the column `issued_at`. -/
def Within (maxSeconds : Int) (history : AppHistory) (entry : AppEntry) : Prop :=
  ∀ pid issuedAt expiresAt, Stores pid issuedAt expiresAt entry →
    ∃ stamped read earlier, reads pid history = stamped :: read :: earlier ∧ issuedAt = stamped / 1000 ∧
      expiresAt ≤ (read / 1000 : Nat) + maxSeconds

/-- The request gives a lifetime. -/
def Request.limited : Request → Prop
  | .postLogin body => body.ttlSeconds ≠ .undefined
  | _ => False

/-- A request that stores a session gives a lifetime, or the default is within the maximum; and the
second of the clock and the maximum are a safe integer together. -/
structure Capped (maxSeconds : Int) (history : AppHistory) (entry : AppEntry) : Prop where
  stored : ∀ pid issuedAt expiresAt request, Stores pid issuedAt expiresAt entry →
    Began history pid request → request.limited ∨ 3600 ≤ maxSeconds
  timed : ∀ pid time, entry.label = .perform pid ⟨.now, time⟩ → (time / 1000 : Nat) + maxSeconds ≤ maxSafeInteger

end Reads

section Clocks

/-- What a call knows of time: the lifetime that it would give a session, if it may store any, and
its readings of the clock. -/
structure Clock where
  ttlSeconds : Option Double
  reads : List Nat

def Clock.permits (clock : Clock) : Effect → Prop
  | .insertSession _ _ issuedAt expiresAt => ∃ ttlSeconds stamped read earlier, clock.ttlSeconds = some ttlSeconds ∧
      clock.reads = stamped :: read :: earlier ∧ issuedAt = (stamped / 1000 : Nat) ∧
        (Double.add (.finite (read / 1000 : Nat)) ttlSeconds).bigint = .ok expiresAt
  | _ => True

def Clock.after (clock : Clock) : (effect : Effect) → Answer effect → Clock
  | .now, time => { clock with reads := time :: clock.reads }
  | _, _ => clock

def clocks : Protocol Effect Answer Clock where
  permits := Clock.permits
  after := Clock.after

def Request.ttlSeconds (settings : Settings) : Request → Option Double
  | .postLogin body => some ((safeTtl settings body.ttlSeconds).getD defaultTtlSeconds)
  | .postRefresh _ => some defaultTtlSeconds
  | _ => none

/-- A clock with any readings. -/
abbrev Of (ttlSeconds : Option Double) (clock : Clock) (_ : α) : Prop := clock.ttlSeconds = ttlSeconds

variable {clock : Clock} {ttlSeconds : Option Double}

theorem clocks_now {returns : Clock → Nat → Prop} {throws : Clock → String → Prop}
    (returned : ∀ time, returns { clock with reads := time :: clock.reads } (time / 1000)) :
    clocks.Runs returns throws clock nowSeconds := by
  apply Protocol.Runs.bind
  refine Protocol.Runs.perform trivial ?_
  intro time
  exact .pure (returned time)

private theorem clocks_resolveActive (own : clock.ttlSeconds = ttlSeconds) (sessionId : String) :
    clocks.Runs (Of ttlSeconds) (Of ttlSeconds) clock (resolveActive sessionId) := by
  apply Protocol.Runs.bind
  apply Protocol.Runs.bind
  refine Protocol.Runs.perform trivial ?_
  intro answer
  apply Protocol.Runs.bind
  refine Protocol.Runs.ofExcept ?_ fun _ _ => own
  intro found _
  cases found with
  | none => exact .pure own
  | some row =>
    apply Protocol.Runs.bind
    refine Protocol.Runs.ofExcept ?_ fun _ _ => own
    intro session _
    apply Protocol.Runs.pure
    dsimp only
    split
    · exact .pure own
    · apply Protocol.Runs.bind
      refine clocks_now ?_
      intro time
      split
      · exact .pure own
      · exact .pure own

private theorem clocks_issue {lifetime : Double} (own : clock.ttlSeconds = some lifetime) (profile : UserProfile) :
    clocks.Runs (Of (some lifetime)) (Of (some lifetime)) clock (issue profile lifetime) := by
  apply Protocol.Runs.bind
  refine Protocol.Runs.perform trivial ?_
  intro sessionId
  apply Protocol.Runs.bind
  refine clocks_now ?_
  intro read
  apply Protocol.Runs.bind
  refine clocks_now ?_
  intro stamped
  apply Protocol.Runs.bind
  refine Protocol.Runs.ofExcept ?_ fun _ _ => own
  intro stored written
  apply Protocol.Runs.bind
  refine Protocol.Runs.perform ⟨lifetime, stamped, read, clock.reads, own, rfl, rfl, written⟩ ?_
  intro answer
  apply Protocol.Runs.bind
  exact Protocol.Runs.ofExcept (fun _ _ => .pure own) fun _ _ => own

private theorem clocks_revokeSession (own : clock.ttlSeconds = ttlSeconds) (sessionId : String) :
    clocks.Runs (Of ttlSeconds) (Of ttlSeconds) clock (revokeSession sessionId) := by
  apply Protocol.Runs.bind
  refine clocks_now ?_
  intro time
  apply Protocol.Runs.bind
  refine Protocol.Runs.perform trivial ?_
  intro answer
  exact Protocol.Runs.ofExcept (fun _ _ => own) fun _ _ => own

private theorem clocks_login {given : Option Double} (own : clock.ttlSeconds = some (given.getD defaultTtlSeconds))
    (wallet : String) (role : UserRole) (orgId : Option String) :
    clocks.Runs (fun _ _ => True) (fun _ _ => True) clock (login wallet role orgId given) := by
  apply Protocol.Runs.bind
  apply Protocol.Runs.bind
  refine Protocol.Runs.perform trivial ?_
  intro answer
  refine Protocol.Runs.ofExcept ?_ fun _ _ => trivial
  intro profile _
  split
  · exact (clocks_issue own profile).mono (fun _ _ _ => trivial) fun _ _ _ => trivial
  · exact .throw trivial

private theorem clocks_refresh (own : clock.ttlSeconds = some defaultTtlSeconds) (sessionId : String) :
    clocks.Runs (fun _ _ => True) (fun _ _ => True) clock (refresh sessionId none) := by
  apply Protocol.Runs.bind
  refine (clocks_resolveActive own sessionId).mono ?_ fun _ _ _ => trivial
  intro clock existing own
  cases existing with
  | none => exact .throw trivial
  | some existing =>
    apply Protocol.Runs.bind
    apply Protocol.Runs.bind
    refine Protocol.Runs.perform trivial ?_
    intro answer
    refine Protocol.Runs.ofExcept ?_ fun _ _ => trivial
    intro found _
    cases found with
    | none => exact .throw trivial
    | some profile =>
      dsimp only
      split
      · apply Protocol.Runs.bind
        refine (clocks_issue own profile).mono ?_ fun _ _ _ => trivial
        intro clock result own
        apply Protocol.Runs.bind
        refine (clocks_revokeSession own sessionId).mono ?_ fun _ _ _ => trivial
        exact fun _ _ _ => .pure trivial
      · exact .throw trivial

private theorem clocks_withSession {handler : UserSession → Job HttpResponse} (own : clock.ttlSeconds = ttlSeconds)
    (authorization : Option String)
    (handled : ∀ clock session, clock.ttlSeconds = ttlSeconds →
      clocks.Runs (fun _ _ => True) (fun _ _ => True) clock (handler session)) :
    clocks.Runs (fun _ _ => True) (fun _ _ => True) clock (withSession authorization handler) := by
  unfold withSession
  split
  · exact .pure trivial
  · apply Protocol.Runs.bind
    apply Protocol.Runs.tryCatch
    refine (clocks_resolveActive own _).mono ?_ ?_
    · intro clock session own
      cases session with
      | none => exact .pure trivial
      | some session => exact handled clock session own
    · exact fun _ _ _ => .pure (.pure trivial)

private theorem clocks_handle (settings : Settings) (request : Request) :
    clocks.Runs (fun _ _ => True) (fun _ _ => True) ⟨request.ttlSeconds settings, []⟩ (handle settings request) := by
  cases request with
  | getChallenge wallet =>
    unfold handle getChallenge
    dsimp only
    split
    · exact .pure trivial
    · split
      · apply Protocol.Runs.bind
        refine Protocol.Runs.perform trivial ?_
        intro nonce
        apply Protocol.Runs.bind
        exact Protocol.Runs.perform trivial fun _ => .pure trivial
      · exact .pure trivial
  | postLogin body =>
    unfold handle postLogin
    dsimp only
    split
    · exact .pure trivial
    · apply Protocol.Runs.bind
      refine Protocol.Runs.perform trivial ?_
      intro answer
      cases answer with
      | none => exact .pure trivial
      | some nonce =>
        dsimp only
        split
        · exact .pure trivial
        · apply Protocol.Runs.bind
          refine Protocol.Runs.perform trivial ?_
          intro _
          apply Protocol.Runs.tryCatch
          apply Protocol.Runs.bind
          exact (clocks_login rfl _ _ _).mono (fun _ _ _ => .pure trivial) fun _ _ _ => .pure trivial
  | getSession authorization =>
    exact clocks_withSession rfl authorization fun _ _ _ => .pure trivial
  | postRefresh authorization =>
    refine clocks_withSession rfl authorization ?_
    intro clock session own
    apply Protocol.Runs.tryCatch
    apply Protocol.Runs.bind
    exact (clocks_refresh own session.sessionId).mono (fun _ _ _ => .pure trivial) fun _ _ _ => .pure trivial
  | postRevoke authorization =>
    refine clocks_withSession rfl authorization ?_
    intro clock session own
    apply Protocol.Runs.bind
    exact (clocks_revokeSession own session.sessionId).mono (fun _ _ _ => .pure trivial) fun _ _ _ => trivial

private theorem app_follows (settings : Settings) (request : Request) :
    clocks.Follows (fun _ _ => True) ⟨request.ttlSeconds settings, []⟩ ((app settings).program request) := by
  apply Protocol.Runs.follows
  apply Protocol.Runs.tryCatch
  exact (clocks_handle settings request).mono (fun _ _ _ => trivial) fun _ _ _ => .pure trivial

end Clocks

section Runs

variable {settings : Settings} {history : AppHistory} {pool next : AppPool} {roles : Nat → Option Clock}

/-- The lifetime of a session is within the maximum if it is given, or if the default is. -/
theorem request_bounded (positive : 1 ≤ settings.maxSessionTtlSeconds)
    (capped : Request.limited request ∨ 3600 ≤ settings.maxSessionTtlSeconds)
    (own : request.ttlSeconds settings = some ttlSeconds) :
    Double.Bounded settings.maxSessionTtlSeconds ttlSeconds := by
  have default_bounded : 3600 ≤ settings.maxSessionTtlSeconds →
      Double.Bounded settings.maxSessionTtlSeconds defaultTtlSeconds := by
    intro within
    exact .inr ⟨3600, rfl, by norm_num, by exact_mod_cast within⟩
  cases request with
  | getChallenge | getSession | postRevoke => cases own
  | postRefresh =>
    cases own
    exact default_bounded (capped.resolve_left id)
  | postLogin body =>
    obtain rfl := Option.some.inj own
    unfold safeTtl
    split
    · rename_i absent
      exact default_bounded (capped.resolve_left fun given => given absent)
    · exact Double.bounded_maximum (by exact_mod_cast positive) _

/-- What the calls that run know of time. -/
structure Kept (settings : Settings) (history : AppHistory) (roles : Nat → Option Clock) : Prop where
  fresh : ∀ pid, roles pid = none → reads pid history = []
  known : ∀ pid clock, roles pid = some clock → clock.reads = reads pid history ∧
    ∃ request, Began history pid request ∧ clock.ttlSeconds = request.ttlSeconds settings
  safe : ∀ pid, ∀ read ∈ reads pid history,
    (read / 1000 : Nat) + settings.maxSessionTtlSeconds ≤ maxSafeInteger
  within : Throughout (Within settings.maxSessionTtlSeconds) history

theorem throughout_push (throughout : Throughout condition history) (met : condition history entry) :
    Throughout condition (entry :: history) := by
  intro later other earlier same
  cases later with
  | nil =>
    obtain ⟨rfl, rfl⟩ := List.cons.inj same
    exact met
  | cons _ later =>
    obtain ⟨rfl, rfl⟩ := List.cons.inj same
    exact throughout later other earlier rfl

private theorem stores_iff : Stores pid issuedAt expiresAt ⟨pool, .perform caller event, next⟩ ↔
    pid = caller ∧ ∃ sessionId profile answer, event = ⟨.insertSession sessionId profile issuedAt expiresAt, answer⟩ := by
  constructor
  · rintro ⟨sessionId, profile, answer, label⟩
    cases label
    exact ⟨rfl, sessionId, profile, answer, rfl⟩
  · rintro ⟨rfl, sessionId, profile, answer, rfl⟩
    exact ⟨sessionId, profile, answer, rfl⟩

/-- A step that reads no clock and stores no session. -/
theorem Kept.idle (kept : Kept settings history roles)
    (silent : ∀ pid issuedAt expiresAt, ¬ Stores pid issuedAt expiresAt entry)
    (unread : ∀ pid, reads pid (entry :: history) = reads pid history) : Kept settings (entry :: history) roles where
  fresh pid unassigned := (unread pid).trans (kept.fresh pid unassigned)
  known pid clock assigned := by
    obtain ⟨readings, request, began, own⟩ := kept.known pid clock assigned
    exact ⟨readings.trans (unread pid).symm, request, began.later entry, own⟩
  safe pid read member := kept.safe pid read (by rwa [unread pid] at member)
  within := throughout_push kept.within fun pid issuedAt expiresAt stores =>
    absurd stores (silent pid issuedAt expiresAt)

private theorem reads_now (pid caller time : Nat) : reads pid (⟨pool, .perform caller ⟨.now, time⟩, next⟩ :: history) =
    if caller = pid then time :: reads pid history else reads pid history := by
  unfold reads
  rw [List.filterMap_cons]
  by_cases same : caller = pid
  · simp only [if_pos same]
  · simp only [if_neg same]

/-- A stored session is within the maximum. -/
theorem Kept.stored (kept : Kept settings history roles) (positive : 1 ≤ settings.maxSessionTtlSeconds)
    (capped : Capped settings.maxSessionTtlSeconds history ⟨pool, .perform pid event, next⟩)
    (assigned : roles pid = some clock) (permitted : clock.permits event.effect) :
    Within settings.maxSessionTtlSeconds history ⟨pool, .perform pid event, next⟩ := by
  intro caller issuedAt expiresAt stores
  obtain ⟨rfl, sessionId, profile, answer, rfl⟩ := stores_iff.mp stores
  obtain ⟨ttlSeconds, stamped, read, earlier, own, readings, stamp, written⟩ := permitted
  obtain ⟨known, request, began, asked⟩ := kept.known caller clock assigned
  have bounded := request_bounded positive (capped.stored caller issuedAt expiresAt request stores began)
    (asked.symm.trans own)
  have safe := kept.safe caller read (by rw [← known, readings]; simp)
  refine ⟨stamped, read, earlier, known ▸ readings, by rw [stamp]; rfl, ?_⟩
  obtain ⟨cap, same⟩ := Int.eq_ofNat_of_zero_le (le_trans (by decide : (0 : Int) ≤ 1) positive)
  rw [same] at bounded safe ⊢
  have limit : expiresAt ≤ ((read / 1000 + cap : ℕ) : ℤ) :=
    Double.bigint_le bounded (by push_cast; exact le_refl _) (by unfold maxSafeInteger at safe; omega) written
  exact_mod_cast limit

private theorem Kept.start (kept : Kept settings history roles) (unassigned : roles pid = none) :
    Kept settings (⟨pool, .start pid request, next⟩ :: history)
      (update roles pid (some ⟨request.ttlSeconds settings, []⟩)) := by
  have idle : Kept settings (⟨pool, .start pid request, next⟩ :: history) roles :=
    kept.idle (by rintro _ _ _ ⟨_, _, _, label⟩; cases label) fun _ => rfl
  refine ⟨?_, ?_, idle.safe, idle.within⟩
  · intro other absent
    by_cases same : other = pid
    · rw [same, update_self] at absent
      cases absent
    · rw [update_of_ne same] at absent
      exact idle.fresh other absent
  · intro other clock assigned
    rcases update_assigned assigned with ⟨rfl, rfl⟩ | ⟨_, before⟩
    · exact ⟨(kept.fresh other unassigned).symm, request, began_start.mpr (.inl ⟨rfl, rfl⟩), rfl⟩
    · exact idle.known other clock before

private theorem Kept.now (kept : Kept settings history roles)
    (capped : Capped settings.maxSessionTtlSeconds history ⟨pool, .perform pid ⟨.now, time⟩, next⟩)
    (assigned : roles pid = some clock) :
    Kept settings (⟨pool, .perform pid ⟨.now, time⟩, next⟩ :: history)
      (update roles pid (some { clock with reads := time :: clock.reads })) := by
  refine ⟨?_, ?_, ?_, ?_⟩
  · intro other absent
    by_cases same : other = pid
    · rw [same, update_self] at absent
      cases absent
    · rw [update_of_ne same] at absent
      rw [reads_now, if_neg (Ne.symm same)]
      exact kept.fresh other absent
  · intro other after assigned'
    rcases update_assigned assigned' with ⟨rfl, rfl⟩ | ⟨different, before⟩
    · obtain ⟨known, request, began, own⟩ := kept.known other clock assigned
      rw [reads_now, if_pos rfl, ← known]
      exact ⟨rfl, request, began.later _, own⟩
    · obtain ⟨known, request, began, own⟩ := kept.known other after before
      rw [reads_now, if_neg (Ne.symm different)]
      exact ⟨known, request, began.later _, own⟩
  · intro other read member
    rw [reads_now] at member
    split at member
    · rcases List.mem_cons.mp member with rfl | member
      · exact capped.timed pid read rfl
      · exact kept.safe other read member
    · exact kept.safe other read member
  · refine throughout_push kept.within ?_
    rintro _ _ _ ⟨_, _, _, label⟩
    cases label

private theorem Kept.perform (kept : Kept settings history roles) (positive : 1 ≤ settings.maxSessionTtlSeconds)
    (capped : Capped settings.maxSessionTtlSeconds history ⟨pool, .perform pid event, next⟩)
    (assigned : roles pid = some clock) (permitted : clock.permits event.effect) :
    Kept settings (⟨pool, .perform pid event, next⟩ :: history)
      (update roles pid (some (clock.after event.effect event.answer))) := by
  obtain ⟨effect, answer⟩ := event
  cases effect with
  | now => exact kept.now capped assigned
  | insertSession sessionId profile issuedAt expiresAt =>
    change Kept settings _ (update roles pid (some clock))
    rw [← assigned, update_eq_self]
    refine ⟨kept.fresh, ?_, kept.safe, throughout_push kept.within (kept.stored positive capped assigned permitted)⟩
    intro other after before
    obtain ⟨known, request, began, own⟩ := kept.known other after before
    exact ⟨known, request, began.later _, own⟩
  | randomBytes | setChallenge | getChallenge | deleteChallenge | upsertProfile | findProfileById | findSessionById
  | revokeSession =>
    change Kept settings _ (update roles pid (some clock))
    rw [← assigned, update_eq_self]
    exact kept.idle (by rintro _ _ _ ⟨_, _, _, label⟩; cases label) fun _ => rfl

/-- No session outlives the maximum, if none is stored with a default beyond it. -/
theorem sessions_within (settings : Settings) (positive : 1 ≤ settings.maxSessionTtlSeconds)
    (run : (app settings).system.Run history pool)
    (capped : Throughout (Capped settings.maxSessionTtlSeconds) history) :
    Throughout (Within settings.maxSessionTtlSeconds) history := by
  obtain ⟨roles, _, kept⟩ := Server.run_roles (fun history _ roles => Kept settings history roles)
    (app_follows settings)
    (by
      intro origin _
      exact ⟨fun _ _ => rfl, fun _ _ assigned => (nomatch assigned), fun _ _ member => (nomatch member),
        fun later _ _ same => (nomatch List.append_eq_nil_iff.mp same.symm)⟩)
    (by
      intro history pool roles pid request next cast _ kept absent _
      exact kept.start (cast.unassigned absent))
    (by
      intro history pool roles pid event clock rest next _ allowed kept _ assigned permitted _ _
      exact kept.perform positive allowed assigned permitted)
    (by
      intro history pool roles next _ kept _ _
      exact kept.idle (by rintro _ _ _ ⟨_, _, _, label⟩; cases label) fun _ => rfl)
    run capped
  exact kept.within

end Runs

section Examples

/-- A session of a buyer at its last refresh. -/
def signedIn : World :=
  ⟨[⟨"7d9f", "0xf39fd6e51aad88f6f4ce6ab8827279cfffb92266", .buyer, none, true⟩],
    [⟨"5e55", "7d9f", "0xf39fd6e51aad88f6f4ce6ab8827279cfffb92266", .buyer, 1950, 2010, none⟩], fun _ => none⟩

def atOnce (_ : Nat) : Choice := ⟨.acknowledged, 2000000, "6e66"⟩

def refreshing (maxSessionTtlSeconds : Int) : Settings where
  maxSessionTtlSeconds := maxSessionTtlSeconds
  verifyMessage _ _ := none
  number _ := .nan

def refreshCues : List (Cue Request) := [.start 0 (.postRefresh (some "Bearer 5e55")), .go 0 11]

/-- A session is stored beyond the maximum. -/
def overdue (maxSeconds : Int) (history : AppHistory) (entry : AppEntry) : Bool :=
  match entry.label with
  | .perform pid ⟨.insertSession _ _ _ expiresAt, _⟩ =>
    match reads pid history with
    | _ :: read :: _ => (read / 1000 : Nat) + maxSeconds < expiresAt
    | _ => false
  | _ => false

private theorem not_within_of_overdue (late : overdue maxSeconds history entry = true) :
    ¬ Within maxSeconds history entry := by
  intro within
  unfold overdue at late
  split at late
  · rename_i pid sessionId profile issuedAt expiresAt answer label
    obtain ⟨stamped, read, earlier, readings, _, limit⟩ := within pid issuedAt expiresAt ⟨_, _, _, label⟩
    rw [readings] at late
    exact absurd limit (not_le_of_gt (of_decide_eq_true late))
  · cases late

/-- A refresh issues a session of an hour, where the maximum is a minute. -/
theorem refreshed_overdue : 1 ≤ (refreshing 60).maxSessionTtlSeconds ∧
    ¬ ∀ history pool, (app (refreshing 60)).system.Run history pool →
      Throughout (Within (refreshing 60).maxSessionTtlSeconds) history := by
  refine ⟨by decide, fun always => ?_⟩
  obtain ⟨recording, run, checked⟩ :=
    (app (refreshing 60)).record_run serve atOnce signedIn refreshCues
      (fun recording => checkSome (overdue 60) recording.history) rfl trivial (by decide +kernel)
  obtain ⟨later, entry, earlier, same, late⟩ := sometime_of_checkSome (fun _ _ => not_within_of_overdue) checked
  exact late (always recording.history recording.pool run later entry earlier same)

/-- The clock leaves room for the maximum. -/
def timely (maxSeconds : Int) (_ : AppHistory) (entry : AppEntry) : Bool :=
  match entry.label with
  | .perform _ ⟨.now, time⟩ => (time / 1000 : Nat) + maxSeconds ≤ maxSafeInteger
  | _ => true

private theorem capped_of_timely (hour : 3600 ≤ maxSeconds) (check : timely maxSeconds history entry = true) :
    Capped maxSeconds history entry := by
  refine ⟨fun _ _ _ _ _ _ => .inr hour, ?_⟩
  intro pid time label
  rw [timely, label] at check
  exact of_decide_eq_true check

def storesHour (entry : AppEntry) : Bool :=
  match entry.label with
  | .perform 0 ⟨.insertSession _ _ 2000 5600, _⟩ => true
  | _ => false

private theorem stores_of_storesHour (hour : storesHour entry = true) : Stores 0 2000 5600 entry := by
  unfold storesHour at hour
  split at hour
  · rename_i label
    exact ⟨_, _, _, label⟩
  · cases hour

/-- A refresh issues a session of an hour, where the maximum is one. -/
theorem refreshed_within : ∃ history pool, (app (refreshing 3600)).system.Run history pool ∧
    (∃ entry ∈ history, Stores 0 2000 5600 entry) ∧ Throughout (Within 3600) history := by
  obtain ⟨recording, run, checked⟩ :=
    (app (refreshing 3600)).record_run serve atOnce signedIn refreshCues
      (fun recording => checkEach (timely 3600) recording.history && recording.history.any storesHour)
      rfl trivial (by decide +kernel)
  rw [Bool.and_eq_true, List.any_eq_true] at checked
  obtain ⟨timed, entry, member, stored⟩ := checked
  have capped : Throughout (Capped 3600) recording.history :=
    throughout_of_checkEach (fun _ _ => capped_of_timely (by decide)) timed
  exact ⟨recording.history, recording.pool, run, ⟨entry, member, stores_of_storesHour stored⟩,
    sessions_within (refreshing 3600) (by decide) run capped⟩

end Examples

end Agroasys.Auth.Lifetimes
