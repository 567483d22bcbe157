import Agroasys.Auth.Escalation
import Agroasys.Foundation.Casting

/-! How far a request of the auth service has come towards a session, and what it has
called to get there. `GET /challenge` draws a nonce for a wallet, and a login uses it up
once its signature is the wallet's; a session is stored for such a login or in exchange
for a live one. -/

namespace Agroasys.Auth

open Agroasys.Foundation Agroasys.Runtime

/-- A login body asks for a role of a wallet, with the wallet's signature of the challenge
with this nonce. -/
def Signs (verifyMessage : String → String → Option String) (body : LoginBody) (wallet nonce : String)
    (role : UserRole) : Prop :=
  ∃ walletAddress signature, readLogin body = .ok (walletAddress, signature, role) ∧
    toLowerCase walletAddress = wallet ∧ checkSignature verifyMessage wallet nonce signature = .ok ()

/-- The token of a request with a session. -/
def Request.authorization : Request → Option String
  | .getSession authorization => authorization
  | .postRefresh authorization => authorization
  | .postRevoke authorization => authorization
  | _ => none

/-- A session is neither revoked nor over at a time in milliseconds. -/
def SessionRow.Live (row : SessionRow) (time : Nat) : Prop :=
  row.revokedAt = none ∧ ((time / 1000 : Nat) : Int) < row.expiresAt

/-- How far a request has come towards a session. -/
inductive Standing where
  | asking (wallet : String)
  | drawn (wallet nonce : String)
  | given (wallet nonce : String)
  | arriving (body : LoginBody)
  | shown (body : LoginBody) (answer : Option String)
  | proven (body : LoginBody) (nonce : String)
  | admitted (body : LoginBody) (nonce : String) (profile : UserProfile)
  | stored (body : LoginBody) (nonce : String)
  | bearing (request : Request) (row : Option SessionRow) (time : Option Nat)
  | vouched (request : Request) (profile : Option UserProfile)
  | exchanged (request : Request)

section Standings

variable (verifyMessage : String → String → Option String)

def Standing.permits : Standing → Effect → Prop
  | .asking _, .randomBytes => True
  | .drawn wallet nonce, .setChallenge wallet' nonce' ttlSeconds =>
    wallet' = wallet ∧ nonce' = nonce ∧ ttlSeconds = challengeTtlSeconds
  | .arriving body, .getChallenge wallet =>
    ∃ walletAddress signature role, readLogin body = .ok (walletAddress, signature, role) ∧
      wallet = toLowerCase walletAddress
  | .shown body (some nonce), .deleteChallenge wallet => ∃ role, Signs verifyMessage body wallet nonce role
  | .proven body nonce, .upsertProfile wallet role _ => Signs verifyMessage body wallet nonce role
  | .admitted _ _ _, .now => True
  | .admitted _ _ _, .randomBytes => True
  | .admitted _ _ profile, .insertSession _ profile' _ _ => profile' = profile ∧ profile.active
  | .stored _ _, .now => True
  | .bearing request row _, .findSessionById sessionId =>
    readBearer request.authorization = .ok sessionId ∨ ∃ found, row = some found ∧ found.sessionId = sessionId
  | .bearing _ _ _, .now => True
  | .bearing _ _ _, .revokeSession _ _ => True
  | .bearing request row time, .findProfileById id => (∃ authorization, request = .postRefresh authorization) ∧
    ∃ found read, row = some found ∧ time = some read ∧ id = found.userId ∧ found.Live read
  | .vouched _ _, .now => True
  | .vouched _ _, .randomBytes => True
  | .vouched _ profile, .insertSession _ profile' _ _ => profile = some profile' ∧ profile'.active
  | .exchanged _, .now => True
  | .exchanged _, .revokeSession _ _ => True
  | _, _ => False

def Standing.after : Standing → (effect : Effect) → Answer effect → Standing
  | .asking wallet, .randomBytes, nonce => .drawn wallet nonce
  | .drawn wallet nonce, .setChallenge _ _ _, _ => .given wallet nonce
  | .arriving body, .getChallenge _, answer => .shown body answer
  | .shown body (some nonce), .deleteChallenge _, _ => .proven body nonce
  | .proven body nonce, .upsertProfile _ _ _, .ok profile => .admitted body nonce profile
  | .proven body nonce, .upsertProfile _ _ _, .error _ => .stored body nonce
  | .admitted body nonce _, .insertSession _ _ _ _, _ => .stored body nonce
  | .bearing request _ _, .findSessionById _, answer => .bearing request answer.toOption.join none
  | .bearing request row _, .now, time => .bearing request row (some time)
  | .bearing request _ _, .findProfileById _, answer => .vouched request answer.toOption.join
  | .vouched request _, .insertSession _ _ _ _, _ => .exchanged request
  | standing, _, _ => standing

def standings : Protocol Effect Answer Standing where
  permits := Standing.permits verifyMessage
  after := Standing.after

def Request.standing : Request → Standing
  | .getChallenge (some wallet) => .asking (toLowerCase wallet)
  | .postLogin body => .arriving body
  | request => .bearing request none none

variable {verifyMessage} {standing : Standing} {returns : Standing → α → Prop} {throws : Standing → String → Prop}

/-- The parts of a session that its row gives. -/
theorem normalizeSessionRow_parts (normalized : normalizeSessionRow row = .ok session) :
    session.sessionId = row.sessionId ∧ session.userId = row.userId ∧ (session.expiresAt : Int) = row.expiresAt ∧
      (session.revokedAt = none → row.revokedAt = none) := by
  simp only [normalizeSessionRow, bind, Except.bind] at normalized
  split at normalized
  · cases normalized
  · split at normalized
    · cases normalized
    · rename_i expiresAt parsed
      have expiry : (expiresAt : Int) = row.expiresAt := by
        unfold parseSessionEpoch at parsed
        split at parsed <;> cases parsed
        rename_i bounds
        exact Int.toNat_of_nonneg bounds.1
      split at normalized
      · rename_i unrevoked
        cases normalized
        exact ⟨rfl, rfl, expiry, fun _ => unrevoked⟩
      · rename_i value revoked
        cases time : parseSessionEpoch value "revokedAt" with
        | error message =>
          rw [time] at normalized
          cases normalized
        | ok revokedAt =>
          rw [time] at normalized
          cases normalized
          exact ⟨rfl, rfl, expiry, fun absent => by cases absent⟩

/-- A permitted reading of the clock. -/
theorem runs_clock {returns : Standing → Nat → Prop} (permitted : standing.permits verifyMessage .now)
    (returned : ∀ time, returns (standing.after .now time) (time / 1000)) :
    (standings verifyMessage).Runs returns throws standing nowSeconds := by
  apply Protocol.Runs.bind
  refine Protocol.Runs.perform permitted ?_
  intro time
  exact .pure (returned time)

/-- The lookup of a session by a token the request has. -/
theorem bearing_resolveActive {returns : Standing → Option UserSession → Prop}
    (mine : readBearer request.authorization = .ok sessionId ∨ ∃ found, row = some found ∧ found.sessionId = sessionId)
    (absent : ∀ row time, returns (.bearing request row time) none)
    (present : ∀ found time session, session.sessionId = found.sessionId → session.userId = found.userId →
      found.Live time → returns (.bearing request (some found) (some time)) (some session))
    (thrown : ∀ row time error, throws (.bearing request row time) error) :
    (standings verifyMessage).Runs returns throws (.bearing request row time) (resolveActive sessionId) := by
  apply Protocol.Runs.bind
  apply Protocol.Runs.bind
  refine Protocol.Runs.perform mine ?_
  intro answer
  apply Protocol.Runs.bind
  refine Protocol.Runs.ofExcept ?_ fun error _ => thrown _ _ error
  rintro found rfl
  cases found with
  | none => exact .pure (absent _ _)
  | some found =>
    apply Protocol.Runs.bind
    refine Protocol.Runs.ofExcept ?_ fun error _ => thrown _ _ error
    intro session normalized
    obtain ⟨named, user, expiry, unrevoked⟩ := normalizeSessionRow_parts normalized
    apply Protocol.Runs.pure
    dsimp only
    split
    · exact .pure (absent _ _)
    · rename_i live
      apply Protocol.Runs.bind
      refine runs_clock trivial ?_
      intro time
      split
      · exact .pure (absent _ _)
      · rename_i unexpired
        refine .pure (present found time session named user ⟨unrevoked (not_not.mp live), ?_⟩)
        rw [← expiry]
        exact_mod_cast not_le.mp unexpired

/-- A session is issued by one insert. -/
theorem standing_issue {returns : Standing → SessionIssueResult → Prop}
    (draws : standing.permits verifyMessage .randomBytes)
    (drawn : ∀ bytes, standing.after .randomBytes bytes = standing) (reads : standing.permits verifyMessage .now)
    (read : ∀ time, standing.after .now time = standing)
    (inserts : ∀ sessionId issuedAt expiresAt,
      standing.permits verifyMessage (.insertSession sessionId profile issuedAt expiresAt))
    (inserted : ∀ sessionId issuedAt expiresAt answer result,
      returns (standing.after (.insertSession sessionId profile issuedAt expiresAt) answer) result)
    (thrown : ∀ sessionId issuedAt expiresAt answer error,
      throws (standing.after (.insertSession sessionId profile issuedAt expiresAt) answer) error) (ttlSeconds : Int) :
    (standings verifyMessage).Runs returns throws standing (issue profile ttlSeconds) := by
  apply Protocol.Runs.bind
  refine Protocol.Runs.perform draws fun sessionId => ?_
  apply Protocol.Runs.bind
  change (standings verifyMessage).Runs _ _ (standing.after .randomBytes sessionId) _
  rw [drawn]
  refine runs_clock reads fun now => ?_
  rw [read]
  apply Protocol.Runs.bind
  refine runs_clock reads fun issuedAt => ?_
  rw [read]
  apply Protocol.Runs.bind
  refine Protocol.Runs.perform (inserts _ _ _) fun answer => ?_
  apply Protocol.Runs.bind
  exact Protocol.Runs.ofExcept (fun _ _ => .pure (inserted _ _ _ _ _)) fun error _ => thrown _ _ _ _ error

theorem proven_login (signs : Signs verifyMessage body wallet nonce role) (lowered : toLowerCase wallet = wallet)
    (ttlSeconds : Option Int) :
    (standings verifyMessage).Runs (fun _ _ => True) (fun _ _ => True) (.proven body nonce)
      (login wallet role orgId ttlSeconds) := by
  apply Protocol.Runs.bind
  apply Protocol.Runs.bind
  refine Protocol.Runs.perform ?_ ?_
  · rw [lowered, lowered]
    exact signs
  · intro answer
    refine Protocol.Runs.ofExcept ?_ fun _ _ => trivial
    rintro profile rfl
    split
    · rename_i active
      exact standing_issue (by trivial) (fun _ => rfl) (by trivial) (fun _ => rfl) (fun _ _ _ => by exact ⟨rfl, active⟩)
        (fun _ _ _ _ _ => trivial) (fun _ _ _ _ _ => trivial) _
    · exact .throw trivial

private theorem bearing_refresh (named : found.sessionId = sessionId) (ttlSeconds : Option Int) :
    (standings verifyMessage).Runs (fun _ _ => True) (fun _ _ => True)
      (.bearing (.postRefresh authorization) (some found) time)
      (refresh sessionId ttlSeconds) := by
  apply Protocol.Runs.bind
  refine bearing_resolveActive (.inr ⟨found, rfl, named⟩) (fun _ _ => .throw trivial) ?_ (fun _ _ _ => trivial)
  intro row read session _ user live
  apply Protocol.Runs.bind
  apply Protocol.Runs.bind
  refine Protocol.Runs.perform ⟨⟨authorization, rfl⟩, row, read, rfl, rfl, user, live⟩ ?_
  intro answer
  refine Protocol.Runs.ofExcept ?_ fun _ _ => trivial
  rintro given rfl
  cases given with
  | none => exact .throw trivial
  | some profile =>
    dsimp only
    split
    · rename_i active
      apply Protocol.Runs.bind
      refine standing_issue (by trivial) (fun _ => rfl) (by trivial) (fun _ => rfl)
        (fun _ _ _ => by exact ⟨rfl, active⟩) ?_ (fun _ _ _ _ _ => trivial) _
      intro _ _ _ _ result
      apply Protocol.Runs.bind
      apply Protocol.Runs.bind
      refine runs_clock trivial fun revokedAt => ?_
      apply Protocol.Runs.bind
      refine Protocol.Runs.perform trivial fun answer => ?_
      exact Protocol.Runs.ofExcept (fun _ _ => .pure trivial) fun _ _ => trivial
    · exact .throw trivial

private theorem bearing_withSession {handler : UserSession → Job HttpResponse} (request : Request)
    (handled : ∀ found time session, session.sessionId = found.sessionId →
      (standings verifyMessage).Runs (fun _ _ => True) (fun _ _ => True) (.bearing request (some found) (some time))
        (handler session)) :
    (standings verifyMessage).Runs (fun _ _ => True) (fun _ _ => True) (.bearing request none none)
      (withSession request.authorization handler) := by
  unfold withSession
  split
  · exact .pure trivial
  · rename_i sessionId read
    apply Protocol.Runs.bind
    apply Protocol.Runs.tryCatch
    refine bearing_resolveActive (.inl read) (fun _ _ => .pure trivial) ?_ fun _ _ _ => .pure (.pure trivial)
    intro found time session named _ _
    exact handled found time session named

private theorem handle_standing (settings : AppSettings) (request : Request) :
    (standings settings.verifyMessage).Runs (fun _ _ => True) (fun _ _ => True) request.standing
      (handle settings request) := by
  cases request with
  | getChallenge asked =>
    cases asked with
    | none => exact .pure trivial
    | some asked =>
      unfold handle getChallenge
      dsimp only [Option.map_some]
      split
      · apply Protocol.Runs.bind
        refine Protocol.Runs.perform trivial fun nonce => ?_
        apply Protocol.Runs.bind
        refine Protocol.Runs.perform ⟨rfl, rfl, rfl⟩ fun _ => ?_
        exact .pure trivial
      · exact .pure trivial
  | postLogin body =>
    unfold handle postLogin
    dsimp only
    split
    · exact .pure trivial
    · rename_i walletAddress signature role read
      apply Protocol.Runs.bind
      refine Protocol.Runs.perform ⟨walletAddress, signature, role, read, rfl⟩ fun answer => ?_
      cases answer with
      | none => exact .pure trivial
      | some nonce =>
        dsimp only
        split
        · exact .pure trivial
        · rename_i checked
          have signs : Signs settings.verifyMessage body (toLowerCase walletAddress) nonce role :=
            ⟨walletAddress, signature, read, rfl, checked⟩
          apply Protocol.Runs.bind
          refine Protocol.Runs.perform ⟨role, signs⟩ fun _ => ?_
          apply Protocol.Runs.tryCatch
          apply Protocol.Runs.bind
          apply (proven_login signs (toLowerCase_idempotent walletAddress) _).mono
          · intro standing result _
            exact .pure trivial
          · intro standing message _
            exact .pure trivial
  | getSession authorization =>
    apply bearing_withSession (.getSession authorization)
    intro found time session _
    exact .pure trivial
  | postRefresh authorization =>
    apply bearing_withSession (.postRefresh authorization)
    intro found time session named
    apply Protocol.Runs.tryCatch
    apply Protocol.Runs.bind
    apply (bearing_refresh named.symm none).mono
    · intro standing result _
      exact .pure trivial
    · intro standing message _
      exact .pure trivial
  | postRevoke authorization =>
    apply bearing_withSession (.postRevoke authorization)
    intro found time session _
    apply Protocol.Runs.bind
    apply Protocol.Runs.bind
    refine runs_clock trivial fun revokedAt => ?_
    apply Protocol.Runs.bind
    refine Protocol.Runs.perform trivial fun answer => ?_
    exact Protocol.Runs.ofExcept (fun _ _ => .pure trivial) fun _ _ => trivial

theorem app_standing (settings : AppSettings) (request : Request) :
    (standings settings.verifyMessage).Follows (fun _ _ => True) request.standing
      ((app settings).program request) := by
  refine Protocol.Runs.follows (Protocol.Runs.tryCatch ?_)
  apply (handle_standing settings request).mono
  · intro standing response _
    exact trivial
  · intro standing error _
    exact .pure trivial

/-! What a request has called, from where it stands. -/

/-- No challenge was set. -/
def Unset (events : List (Event Effect Answer)) : Prop :=
  ∀ event ∈ events, ∀ wallet nonce ttlSeconds, event.effect ≠ .setChallenge wallet nonce ttlSeconds

/-- No session was stored. -/
def Unstored (events : List (Event Effect Answer)) : Prop :=
  ∀ event ∈ events, ∀ sessionId profile issuedAt expiresAt,
    event.effect ≠ .insertSession sessionId profile issuedAt expiresAt

/-- The one challenge that was looked at. -/
def Looked (events : List (Event Effect Answer)) (wallet nonce : String) : Prop :=
  ⟨.getChallenge wallet, some nonce⟩ ∈ events ∧
    ∀ event ∈ events, ∀ asked, event.effect = .getChallenge asked → event = ⟨.getChallenge wallet, some nonce⟩

/-- The request is for a challenge of the wallet. -/
def Request.Asks (request : Request) (wallet : String) : Prop :=
  ∃ asked, request = .getChallenge (some asked) ∧ toLowerCase asked = wallet

/-- A login that was told a nonce, with its wallet's signature of it, and the active
profile it was given. -/
def Admits (verifyMessage : String → String → Option String) (request : Request) (events : List (Event Effect Answer))
    (wallet nonce : String) (role : UserRole) (profile : UserProfile) : Prop :=
  ∃ body orgId, request = .postLogin body ∧ Signs verifyMessage body wallet nonce role ∧
    Looked events wallet nonce ∧ ⟨.upsertProfile wallet role orgId, .ok profile⟩ ∈ events

/-- A refresh that bears the token of a live session, and the profile it was given. -/
def Exchanges (request : Request) (events : List (Event Effect Answer)) (row : SessionRow) (time : Nat)
    (profile : UserProfile) : Prop :=
  ∃ authorization, request = .postRefresh authorization ∧ readBearer authorization = .ok row.sessionId ∧
    ⟨.findSessionById row.sessionId, .ok (some row)⟩ ∈ events ∧ ⟨.now, time⟩ ∈ events ∧ row.Live time ∧
    ⟨.findProfileById row.userId, .ok (some profile)⟩ ∈ events

def Standing.Past (verifyMessage : String → String → Option String) (request : Request)
    (events : List (Event Effect Answer)) : Standing → Prop
  | .asking wallet => request.Asks wallet ∧ events = []
  | .drawn wallet nonce => request.Asks wallet ∧ events = [⟨.randomBytes, nonce⟩]
  | .given wallet nonce => request.Asks wallet ∧
      events = [⟨.setChallenge wallet nonce challengeTtlSeconds, ()⟩, ⟨.randomBytes, nonce⟩]
  | .arriving body => request = .postLogin body ∧ events = []
  | .shown body answer => request = .postLogin body ∧
      ∃ walletAddress signature role, readLogin body = .ok (walletAddress, signature, role) ∧
        events = [⟨.getChallenge (toLowerCase walletAddress), answer⟩]
  | .proven body nonce => request = .postLogin body ∧ ∃ wallet role, Signs verifyMessage body wallet nonce role ∧
      events = [⟨.deleteChallenge wallet, ()⟩, ⟨.getChallenge wallet, some nonce⟩]
  | .admitted body nonce profile => request = .postLogin body ∧ Unset events ∧ Unstored events ∧
      ∃ wallet role, Admits verifyMessage request events wallet nonce role profile
  | .stored body nonce => request = .postLogin body ∧ Unset events ∧
      ∃ wallet role, Signs verifyMessage body wallet nonce role ∧ Looked events wallet nonce ∧
        ∀ sessionId profile issuedAt expiresAt answer,
          ⟨.insertSession sessionId profile issuedAt expiresAt, answer⟩ ∈ events →
            profile.active ∧ Admits verifyMessage request events wallet nonce role profile ∧
              ∀ event ∈ events, ∀ sessionId' profile' issuedAt' expiresAt',
                event.effect = .insertSession sessionId' profile' issuedAt' expiresAt' →
                  event = ⟨.insertSession sessionId profile issuedAt expiresAt, answer⟩
  | .bearing held row time => request = held ∧ (∀ body, request ≠ .postLogin body) ∧ Unset events ∧ Unstored events ∧
      (∀ found, row = some found → readBearer request.authorization = .ok found.sessionId ∧
        ⟨.findSessionById found.sessionId, .ok (some found)⟩ ∈ events) ∧
      ∀ read, time = some read → ⟨.now, read⟩ ∈ events
  | .vouched held profile => request = held ∧ (∀ body, request ≠ .postLogin body) ∧ Unset events ∧ Unstored events ∧
      ∀ given, profile = some given → ∃ row time, Exchanges request events row time given
  | .exchanged held => request = held ∧ (∀ body, request ≠ .postLogin body) ∧ Unset events ∧
      ∀ sessionId profile issuedAt expiresAt answer,
        ⟨.insertSession sessionId profile issuedAt expiresAt, answer⟩ ∈ events →
          profile.active ∧ ∃ row time, Exchanges request events row time profile

section Past

variable {request : Request} {events : List (Event Effect Answer)} {event : Event Effect Answer}

private theorem unset_nil : Unset [] := fun _ member => by cases member

private theorem unstored_nil : Unstored [] := fun _ member => by cases member

theorem Unset.cons (unset : Unset events)
    (other : ∀ wallet nonce ttlSeconds, event.effect ≠ .setChallenge wallet nonce ttlSeconds) :
    Unset (event :: events) := by
  intro made member
  rcases List.mem_cons.mp member with rfl | member
  · exact other
  · exact unset made member

theorem Unstored.cons (unstored : Unstored events)
    (other : ∀ sessionId profile issuedAt expiresAt,
      event.effect ≠ .insertSession sessionId profile issuedAt expiresAt) : Unstored (event :: events) := by
  intro made member
  rcases List.mem_cons.mp member with rfl | member
  · exact other
  · exact unstored made member

theorem Looked.cons (looked : Looked events wallet nonce) (other : ∀ asked, event.effect ≠ .getChallenge asked) :
    Looked (event :: events) wallet nonce := by
  refine ⟨List.mem_cons_of_mem _ looked.1, ?_⟩
  intro made member asked same
  rcases List.mem_cons.mp member with rfl | member
  · exact absurd same (other asked)
  · exact looked.2 made member asked same

private theorem Admits.cons (admits : Admits verifyMessage request events wallet nonce role profile)
    (other : ∀ asked, event.effect ≠ .getChallenge asked) :
    Admits verifyMessage request (event :: events) wallet nonce role profile := by
  obtain ⟨body, orgId, asked, signs, looked, given⟩ := admits
  exact ⟨body, orgId, asked, signs, looked.cons other, List.mem_cons_of_mem _ given⟩

private theorem Exchanges.cons (exchanges : Exchanges request events row time profile) :
    Exchanges request (event :: events) row time profile := by
  obtain ⟨authorization, asked, token, found, read, live, given⟩ := exchanges
  exact ⟨authorization, asked, token, List.mem_cons_of_mem _ found, List.mem_cons_of_mem _ read, live,
    List.mem_cons_of_mem _ given⟩

/-- A body signs for one wallet and role. -/
theorem Signs.read (signs : Signs verifyMessage body wallet nonce role)
    (read : readLogin body = .ok (walletAddress, signature, role')) :
    wallet = toLowerCase walletAddress ∧ role = role' := by
  obtain ⟨_, _, again, lowered, _⟩ := signs
  cases read.symm.trans again
  exact ⟨lowered.symm, rfl⟩

/-- A step of a login. -/
theorem Past.login (past : (Standing.admitted body nonce profile).Past verifyMessage request events)
    (permitted : (Standing.admitted body nonce profile).permits verifyMessage event.effect) :
    ((Standing.admitted body nonce profile).after event.effect event.answer).Past verifyMessage request
      (event :: events) := by
  obtain ⟨asked, unset, unstored, wallet, role, admits⟩ := past
  obtain ⟨effect, answer⟩ := event
  cases effect with
  | now =>
    exact ⟨asked, unset.cons fun _ _ _ => nofun, unstored.cons fun _ _ _ _ => nofun, wallet, role,
      admits.cons fun _ => nofun⟩
  | randomBytes =>
    exact ⟨asked, unset.cons fun _ _ _ => nofun, unstored.cons fun _ _ _ _ => nofun, wallet, role,
      admits.cons fun _ => nofun⟩
  | insertSession sessionId given issuedAt expiresAt =>
    obtain ⟨rfl, active⟩ := permitted
    obtain ⟨body', orgId, same, signs, told, _⟩ := id admits
    cases asked.symm.trans same
    refine ⟨asked, unset.cons fun _ _ _ => nofun, wallet, role, signs, told.cons fun _ => nofun, ?_⟩
    intro sessionId' profile' issuedAt' expiresAt' answer' member
    rcases List.mem_cons.mp member with here | before
    · cases here
      refine ⟨active, admits.cons fun _ => nofun, ?_⟩
      intro made member' sessionId'' profile'' issuedAt'' expiresAt'' inserts
      rcases List.mem_cons.mp member' with rfl | before
      · rfl
      · exact absurd inserts (unstored made before _ _ _ _)
    · exact absurd rfl (unstored _ before _ _ _ _)
  | _ => exact permitted.elim

/-- A step of a request with a session. -/
theorem Past.session (past : (Standing.bearing held row time).Past verifyMessage request events)
    (permitted : (Standing.bearing held row time).permits verifyMessage event.effect)
    (honest : ∀ sessionId found,
      event = ⟨.findSessionById sessionId, .ok (some found)⟩ → found.sessionId = sessionId) :
    ((Standing.bearing held row time).after event.effect event.answer).Past verifyMessage request
      (event :: events) := by
  obtain ⟨rfl, other, unset, unstored, token, read⟩ := past
  obtain ⟨effect, answer⟩ := event
  cases effect with
  | now =>
    refine ⟨rfl, other, unset.cons fun _ _ _ => nofun, unstored.cons fun _ _ _ _ => nofun, ?_, ?_⟩
    · intro found same
      obtain ⟨bears, looked⟩ := token found same
      exact ⟨bears, List.mem_cons_of_mem _ looked⟩
    · rintro time' ⟨⟩
      exact List.mem_cons_self
  | findSessionById sessionId =>
    refine ⟨rfl, other, unset.cons fun _ _ _ => nofun, unstored.cons fun _ _ _ _ => nofun, ?_, fun _ => nofun⟩
    intro found same
    cases answer with
    | error _ => cases same
    | ok answered =>
      change answered = some found at same
      subst same
      have named : found.sessionId = sessionId := honest sessionId found rfl
      subst named
      refine ⟨?_, List.mem_cons_self⟩
      rcases permitted with bears | ⟨sooner, before, again⟩
      · exact bears
      · rw [← again]
        exact (token sooner before).1
  | revokeSession =>
    refine ⟨rfl, other, unset.cons fun _ _ _ => nofun, unstored.cons fun _ _ _ _ => nofun, ?_, ?_⟩
    · intro found same
      obtain ⟨bears, looked⟩ := token found same
      exact ⟨bears, List.mem_cons_of_mem _ looked⟩
    · intro time' same
      exact List.mem_cons_of_mem _ (read time' same)
  | findProfileById id =>
    obtain ⟨⟨authorization, rfl⟩, found, time', rfl, rfl, rfl, live⟩ := permitted
    refine ⟨rfl, other, unset.cons fun _ _ _ => nofun, unstored.cons fun _ _ _ _ => nofun, ?_⟩
    intro given same
    obtain ⟨bears, looked⟩ := token found rfl
    refine ⟨found, time', authorization, rfl, bears, List.mem_cons_of_mem _ looked,
      List.mem_cons_of_mem _ (read time' rfl), live, ?_⟩
    cases answer with
    | error _ => cases same
    | ok answered =>
      change answered = some given at same
      subst same
      exact List.mem_cons_self
  | _ => exact permitted.elim

private theorem Past.exchange (past : (Standing.vouched held profile).Past verifyMessage request events)
    (permitted : (Standing.vouched held profile).permits verifyMessage event.effect) :
    ((Standing.vouched held profile).after event.effect event.answer).Past verifyMessage request
      (event :: events) := by
  obtain ⟨rfl, other, unset, unstored, vouches⟩ := past
  have kept : ∀ given, profile = some given → ∃ row time, Exchanges request (event :: events) row time given := by
    intro given same
    obtain ⟨row, time, exchanges⟩ := vouches given same
    exact ⟨row, time, exchanges.cons⟩
  obtain ⟨effect, answer⟩ := event
  cases effect with
  | now => exact ⟨rfl, other, unset.cons fun _ _ _ => nofun, unstored.cons fun _ _ _ _ => nofun, kept⟩
  | randomBytes => exact ⟨rfl, other, unset.cons fun _ _ _ => nofun, unstored.cons fun _ _ _ _ => nofun, kept⟩
  | insertSession sessionId given issuedAt expiresAt =>
    obtain ⟨rfl, active⟩ := permitted
    refine ⟨rfl, other, unset.cons fun _ _ _ => nofun, ?_⟩
    intro sessionId' profile' issuedAt' expiresAt' answer' member
    rcases List.mem_cons.mp member with here | before
    · cases here
      exact ⟨active, kept given rfl⟩
    · exact absurd rfl (unstored _ before _ _ _ _)
  | _ => exact permitted.elim

theorem Past.asking (past : (Standing.asking wallet).Past verifyMessage request events)
    (permitted : (Standing.asking wallet).permits verifyMessage event.effect) :
    ((Standing.asking wallet).after event.effect event.answer).Past verifyMessage request (event :: events) := by
  obtain ⟨asks, rfl⟩ := past
  obtain ⟨effect, answer⟩ := event
  cases effect with
  | randomBytes => exact ⟨asks, rfl⟩
  | _ => exact permitted.elim

theorem Past.drawn (past : (Standing.drawn wallet nonce).Past verifyMessage request events)
    (permitted : (Standing.drawn wallet nonce).permits verifyMessage event.effect) :
    ((Standing.drawn wallet nonce).after event.effect event.answer).Past verifyMessage request (event :: events) := by
  obtain ⟨asks, rfl⟩ := past
  obtain ⟨effect, answer⟩ := event
  cases effect with
  | setChallenge =>
    obtain ⟨rfl, rfl, rfl⟩ := permitted
    exact ⟨asks, rfl⟩
  | _ => exact permitted.elim

theorem Past.arriving (past : (Standing.arriving body).Past verifyMessage request events)
    (permitted : (Standing.arriving body).permits verifyMessage event.effect) :
    ((Standing.arriving body).after event.effect event.answer).Past verifyMessage request (event :: events) := by
  obtain ⟨asked, rfl⟩ := past
  obtain ⟨effect, answer⟩ := event
  cases effect with
  | getChallenge =>
    obtain ⟨walletAddress, signature, role, read, rfl⟩ := permitted
    exact ⟨asked, walletAddress, signature, role, read, rfl⟩
  | _ => exact permitted.elim

theorem Past.shown (past : (Standing.shown body shownNonce).Past verifyMessage request events)
    (permitted : (Standing.shown body shownNonce).permits verifyMessage event.effect) :
    ((Standing.shown body shownNonce).after event.effect event.answer).Past verifyMessage request
      (event :: events) := by
  obtain ⟨asked, walletAddress, signature, role, read, rfl⟩ := past
  obtain ⟨effect, answer⟩ := event
  cases shownNonce with
  | none => exact permitted.elim
  | some nonce =>
    cases effect with
    | deleteChallenge wallet =>
      obtain ⟨role', signs⟩ := permitted
      obtain ⟨rfl, rfl⟩ := signs.read read
      exact ⟨asked, _, _, signs, rfl⟩
    | _ => exact permitted.elim

theorem Past.proven (past : (Standing.proven body nonce).Past verifyMessage request events)
    (permitted : (Standing.proven body nonce).permits verifyMessage event.effect) :
    ((Standing.proven body nonce).after event.effect event.answer).Past verifyMessage request (event :: events) := by
  obtain ⟨asked, wallet, role, signs, rfl⟩ := past
  obtain ⟨effect, answer⟩ := event
  cases effect with
  | upsertProfile wallet' role' orgId =>
    obtain ⟨walletAddress, signature, read, lowered, _⟩ := id signs
    obtain ⟨same, rfl⟩ := Signs.read permitted read
    rw [lowered] at same
    subst same
    have unset : Unset [⟨.upsertProfile wallet' role' orgId, answer⟩, ⟨.deleteChallenge wallet', ()⟩,
        ⟨.getChallenge wallet', some nonce⟩] := by
      refine Unset.cons (Unset.cons (Unset.cons unset_nil ?_) ?_) ?_ <;> exact fun _ _ _ => nofun
    have unstored : Unstored [⟨.upsertProfile wallet' role' orgId, answer⟩, ⟨.deleteChallenge wallet', ()⟩,
        ⟨.getChallenge wallet', some nonce⟩] := by
      refine Unstored.cons (Unstored.cons (Unstored.cons unstored_nil ?_) ?_) ?_ <;> exact fun _ _ _ _ => nofun
    have looked : Looked [⟨.upsertProfile wallet' role' orgId, answer⟩, ⟨.deleteChallenge wallet', ()⟩,
        ⟨.getChallenge wallet', some nonce⟩] wallet' nonce := by
      refine Looked.cons (Looked.cons ⟨List.mem_singleton_self _, ?_⟩ fun _ => nofun) fun _ => nofun
      intro event member _ _
      exact List.mem_singleton.mp member
    cases answer with
    | ok profile =>
      exact ⟨asked, unset, unstored, wallet', role', body, orgId, asked, signs, looked, List.mem_cons_self⟩
    | error message =>
      refine ⟨asked, unset, wallet', role', signs, looked, ?_⟩
      intro sessionId profile issuedAt expiresAt answer member
      exact absurd rfl (unstored _ member sessionId profile issuedAt expiresAt)
  | _ => exact permitted.elim

theorem Past.stored (past : (Standing.stored body nonce).Past verifyMessage request events)
    (permitted : (Standing.stored body nonce).permits verifyMessage event.effect) :
    ((Standing.stored body nonce).after event.effect event.answer).Past verifyMessage request (event :: events) := by
  obtain ⟨asked, unset, wallet, role, signs, told, once⟩ := past
  obtain ⟨effect, answer⟩ := event
  cases effect with
  | now =>
    refine ⟨asked, unset.cons fun _ _ _ => nofun, wallet, role, signs, told.cons fun _ => nofun, ?_⟩
    intro sessionId profile issuedAt expiresAt answer' member
    have before := (List.mem_cons.mp member).resolve_left nofun
    obtain ⟨active, admits, alone⟩ := once _ _ _ _ _ before
    refine ⟨active, admits.cons fun _ => nofun, ?_⟩
    intro made member' sessionId' profile' issuedAt' expiresAt' inserts
    rcases List.mem_cons.mp member' with rfl | sooner
    · cases inserts
    · exact alone made sooner _ _ _ _ inserts
  | _ => exact permitted.elim

theorem Past.exchanged (past : (Standing.exchanged held).Past verifyMessage request events)
    (permitted : (Standing.exchanged held).permits verifyMessage event.effect) :
    ((Standing.exchanged held).after event.effect event.answer).Past verifyMessage request (event :: events) := by
  obtain ⟨rfl, other, unset, once⟩ := past
  obtain ⟨effect, answer⟩ := event
  have kept (idle : ∀ sessionId profile issuedAt expiresAt,
      effect ≠ .insertSession sessionId profile issuedAt expiresAt) :
      ∀ sessionId profile issuedAt expiresAt answer',
        ⟨.insertSession sessionId profile issuedAt expiresAt, answer'⟩ ∈ (⟨effect, answer⟩ :: events) →
          profile.active ∧ ∃ row time, Exchanges request (⟨effect, answer⟩ :: events) row time profile := by
    intro sessionId profile issuedAt expiresAt answer' member
    have before := (List.mem_cons.mp member).resolve_left fun same =>
      idle _ _ _ _ (congrArg Event.effect same).symm
    obtain ⟨active, row, time, exchanges⟩ := once _ _ _ _ _ before
    exact ⟨active, row, time, exchanges.cons⟩
  cases effect with
  | now => exact ⟨rfl, other, unset.cons fun _ _ _ => nofun, kept fun _ _ _ _ => nofun⟩
  | revokeSession => exact ⟨rfl, other, unset.cons fun _ _ _ => nofun, kept fun _ _ _ _ => nofun⟩
  | _ => exact permitted.elim

/-- What a call that is permitted adds to the past. -/
theorem Past.next (past : standing.Past verifyMessage request events)
    (permitted : standing.permits verifyMessage event.effect)
    (honest : ∀ sessionId found,
      event = ⟨.findSessionById sessionId, .ok (some found)⟩ → found.sessionId = sessionId) :
    (standing.after event.effect event.answer).Past verifyMessage request (event :: events) := by
  cases standing with
  | admitted => exact Past.login past permitted
  | bearing => exact Past.session past permitted honest
  | vouched => exact Past.exchange past permitted
  | given => exact permitted.elim
  | asking => exact Past.asking past permitted
  | drawn => exact Past.drawn past permitted
  | arriving => exact Past.arriving past permitted
  | shown => exact Past.shown past permitted
  | proven => exact Past.proven past permitted
  | stored => exact Past.stored past permitted
  | exchanged => exact Past.exchanged past permitted

private theorem standing_past (request : Request) : request.standing.Past verifyMessage request [] := by
  cases request with
  | getChallenge asked =>
    cases asked with
    | none => exact ⟨rfl, fun _ => nofun, unset_nil, unstored_nil, fun _ => nofun, fun _ => nofun⟩
    | some asked => exact ⟨⟨asked, rfl, rfl⟩, rfl⟩
  | postLogin body => exact ⟨rfl, rfl⟩
  | getSession => exact ⟨rfl, fun _ => nofun, unset_nil, unstored_nil, fun _ => nofun, fun _ => nofun⟩
  | postRefresh => exact ⟨rfl, fun _ => nofun, unset_nil, unstored_nil, fun _ => nofun, fun _ => nofun⟩
  | postRevoke => exact ⟨rfl, fun _ => nofun, unset_nil, unstored_nil, fun _ => nofun, fun _ => nofun⟩

theorem traced_past (traced : (standings verifyMessage).Traced request.standing events standing)
    (honest : ∀ sessionId found,
      ⟨.findSessionById sessionId, .ok (some found)⟩ ∈ events → found.sessionId = sessionId) :
    standing.Past verifyMessage request events := by
  induction traced with
  | start => exact standing_past request
  | next _ permitted ih =>
    apply Past.next (ih fun sessionId found member => honest sessionId found (List.mem_cons_of_mem _ member)) permitted
    rintro sessionId found rfl
    exact honest sessionId found List.mem_cons_self

end Past

end Standings

end Agroasys.Auth
