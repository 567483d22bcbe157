import Agroasys.Auth.Types
import Agroasys.Foundation.Faults

/-! The auth service's database, its statements as `queries.ts` writes them, and the
in-memory challenges. Each statement is atomic. -/

namespace Agroasys.Auth

open Function Agroasys.Foundation Agroasys.Runtime

/-- The calls the service makes. Times of `findSessionById` and the like are whatever
the columns hold; `now` is `Date.now()`, in milliseconds. -/
inductive Effect where
  | now
  | randomBytes
  | setChallenge (wallet nonce : String) (ttlSeconds : Nat)
  | getChallenge (wallet : String)
  | deleteChallenge (wallet : String)
  | upsertProfile (walletAddress : String) (role : UserRole) (orgId : Option String)
  | findProfileById (id : String)
  | insertSession (sessionId : String) (profile : UserProfile) (issuedAt expiresAt : Int)
  | findSessionById (sessionId : String)
  | revokeSession (sessionId : String) (revokedAt : Int)
  deriving DecidableEq

abbrev Answer : Effect → Type
  | .now => Nat
  | .randomBytes => String
  | .setChallenge _ _ _ => Unit
  | .getChallenge _ => Option String
  | .deleteChallenge _ => Unit
  | .upsertProfile _ _ _ => Except String UserProfile
  | .findProfileById _ => Except String (Option UserProfile)
  | .insertSession _ _ _ _ => Except String Unit
  | .findSessionById _ => Except String (Option SessionRow)
  | .revokeSession _ _ => Except String Unit

structure World where
  profiles : List UserProfile
  sessions : List SessionRow
  challenges : String → Option Challenge

namespace World

variable (world : World)

def profile (id : String) : Option UserProfile :=
  world.profiles.find? (·.id = id)

def session (sessionId : String) : Option SessionRow :=
  world.sessions.find? (·.sessionId = sessionId)

/-- `ON CONFLICT (wallet_address) DO UPDATE`: the role given replaces the stored one,
the organisation only if one is given. `fresh` is what `gen_random_uuid` draws. -/
def upsertProfile (fresh walletAddress : String) (role : UserRole) (orgId : Option String) :
    Except String (UserProfile × World) :=
  match world.profiles.find? (·.walletAddress = walletAddress) with
  | some stored =>
    let updated := { stored with role := role, orgId := orgId.or stored.orgId }
    .ok (updated, { world with
      profiles := world.profiles.map fun row => if row.walletAddress = walletAddress then updated else row })
  | none =>
    match world.profile fresh with
    | some _ => .error "duplicate key value violates unique constraint"
    | none =>
      let inserted := ⟨fresh, walletAddress, role, orgId, true⟩
      .ok (inserted, { world with profiles := inserted :: world.profiles })

/-- The primary key and the reference to `user_profiles` are its only constraints. -/
def insertSession (sessionId : String) (profile : UserProfile) (issuedAt expiresAt : Int) :
    Except String (Unit × World) :=
  match world.session sessionId, world.profile profile.id with
  | some _, _ => .error "duplicate key value violates unique constraint"
  | none, none => .error "insert or update violates foreign key constraint"
  | none, some _ =>
    .ok ((), { world with
      sessions := ⟨sessionId, profile.id, profile.walletAddress, profile.role, issuedAt, expiresAt, none⟩ ::
        world.sessions })

def revokeSession (sessionId : String) (revokedAt : Int) : World :=
  { world with
    sessions := world.sessions.map fun row =>
      if row.sessionId = sessionId then { row with revokedAt := some revokedAt } else row }

/-- `deactivate` of the profile store. -/
def deactivate (id : String) : World :=
  { world with
    profiles := world.profiles.map fun row => if row.id = id then { row with active := false } else row }

end World

/-- What the surroundings choose: the outcome of the statement, the time in
milliseconds and the random bytes. -/
structure Choice where
  fate : Fate
  time : Nat
  random : String

def unreachable : String := "Connection terminated unexpectedly"

/-- What a call is answered, and the world it leaves. -/
def serve : Serving Choice Effect Answer World
  | choice, world, .now => (choice.time, world)
  | choice, world, .randomBytes => (choice.random, world)
  | choice, world, .setChallenge wallet nonce ttlSeconds =>
    let challenge := ⟨nonce, choice.time + ttlSeconds * 1000⟩
    ((), { world with challenges := update world.challenges (toLowerCase wallet) (some challenge) })
  | choice, world, .getChallenge wallet =>
    match world.challenges (toLowerCase wallet) with
    | none => (none, world)
    | some entry =>
      if entry.expiresAt ≤ choice.time then
        (none, { world with challenges := update world.challenges (toLowerCase wallet) none })
      else (some entry.nonce, world)
  | _, world, .deleteChallenge wallet =>
    ((), { world with challenges := update world.challenges (toLowerCase wallet) none })
  | choice, world, .upsertProfile walletAddress role orgId =>
    choice.fate.execute unreachable (world.upsertProfile choice.random walletAddress role orgId) world
  | choice, world, .findProfileById id =>
    choice.fate.execute unreachable (.ok (world.profile id, world)) world
  | choice, world, .insertSession sessionId profile issuedAt expiresAt =>
    choice.fate.execute unreachable (world.insertSession sessionId profile issuedAt expiresAt) world
  | choice, world, .findSessionById sessionId =>
    choice.fate.execute unreachable (.ok (world.session sessionId, world)) world
  | choice, world, .revokeSession sessionId revokedAt =>
    choice.fate.execute unreachable (.ok ((), world.revokeSession sessionId revokedAt)) world

/-- What a call can do to the two tables. -/
inductive Changes (before : World) : Event Effect Answer → World → Prop where
  | quiet (profiles : after.profiles = before.profiles) (sessions : after.sessions = before.sessions) :
      Changes before event after
  | upserted (named : profile.walletAddress = walletAddress) (given : profile.role = role)
      (profiles : ∀ row ∈ after.profiles, row = profile ∨ row ∈ before.profiles)
      (sessions : after.sessions = before.sessions) :
      Changes before ⟨.upsertProfile walletAddress role orgId, answer⟩ after
  | inserted (absent : before.session sessionId = none) (profiles : after.profiles = before.profiles)
      (sessions : after.sessions =
        ⟨sessionId, profile.id, profile.walletAddress, profile.role, issuedAt, expiresAt, none⟩ ::
          before.sessions) :
      Changes before ⟨.insertSession sessionId profile issuedAt expiresAt, answer⟩ after
  | revoked : Changes before ⟨.revokeSession sessionId revokedAt, answer⟩
      (before.revokeSession sessionId revokedAt)

section Sessions

variable {before after : World}

private theorem session_revokeSession (world : World) (sessionId other : String) (revokedAt : Int) :
    (world.revokeSession sessionId revokedAt).session other =
      (world.session other).map fun row =>
        if row.sessionId = sessionId then { row with revokedAt := some revokedAt } else row := by
  unfold World.session World.revokeSession
  rw [List.find?_map]
  congr 2
  funext row
  dsimp only [Function.comp_apply]
  split <;> rfl

theorem session_named {world : World} (found : world.session sessionId = some row) :
    row.sessionId = sessionId := by
  simpa using List.find?_some found

theorem insertSession_eq_ok
    (inserted : before.insertSession sessionId profile issuedAt expiresAt = .ok ((), after)) :
    before.session sessionId = none ∧
      after = { before with
        sessions := ⟨sessionId, profile.id, profile.walletAddress, profile.role, issuedAt, expiresAt, none⟩ ::
          before.sessions } := by
  unfold World.insertSession at inserted
  split at inserted
  · cases inserted
  · cases inserted
  · rename_i absent _
    cases inserted
    exact ⟨absent, rfl⟩

private theorem upsertProfile_eq_ok
    (upserted : before.upsertProfile fresh walletAddress role orgId = .ok (profile, after)) :
    profile.walletAddress = walletAddress ∧ profile.role = role ∧
      (∀ row ∈ after.profiles, row = profile ∨ row ∈ before.profiles) ∧ after.sessions = before.sessions := by
  unfold World.upsertProfile at upserted
  split at upserted
  · rename_i stored found
    cases upserted
    have named : stored.walletAddress = walletAddress := by simpa using List.find?_some found
    refine ⟨named, rfl, ?_, rfl⟩
    intro row member
    obtain ⟨old, present, rfl⟩ := List.mem_map.mp member
    split
    · exact .inl rfl
    · exact .inr present
  · split at upserted <;> cases upserted
    refine ⟨rfl, rfl, ?_, rfl⟩
    intro row member
    exact (List.mem_cons.mp member).imp_right id

/-- A session is stored and revoked. -/
def World.Dead (world : World) (sessionId : String) : Prop :=
  ∃ row, world.session sessionId = some row ∧ row.revokedAt ≠ none

theorem changes_served {event : Event Effect Answer} (served : serve.serves before event after) :
    Changes before event after := by
  obtain ⟨choice, served⟩ := served
  obtain ⟨effect, answer⟩ := event
  cases effect with
  | now => cases served; exact .quiet rfl rfl
  | randomBytes => cases served; exact .quiet rfl rfl
  | setChallenge => cases served; exact .quiet rfl rfl
  | deleteChallenge => cases served; exact .quiet rfl rfl
  | getChallenge wallet =>
    unfold serve at served
    dsimp only at served
    split at served
    · cases served; exact .quiet rfl rfl
    · split at served <;> cases served <;> exact .quiet rfl rfl
  | findProfileById profileId =>
    obtain ⟨rfl, _⟩ := Fate.executed_read served
    exact .quiet rfl rfl
  | findSessionById sessionId =>
    obtain ⟨rfl, _⟩ := Fate.executed_read served
    exact .quiet rfl rfl
  | upsertProfile walletAddress role orgId =>
    rcases Fate.executed served with ⟨_, done, _⟩ | ⟨rfl, _⟩
    · obtain ⟨named, given, profiles, sessions⟩ := upsertProfile_eq_ok done
      exact .upserted named given profiles sessions
    · exact .quiet rfl rfl
  | insertSession sessionId profile issuedAt expiresAt =>
    rcases Fate.executed served with ⟨_, done, _⟩ | ⟨rfl, _⟩
    · obtain ⟨absent, rfl⟩ := insertSession_eq_ok done
      exact .inserted absent rfl rfl
    · exact .quiet rfl rfl
  | revokeSession sessionId revokedAt =>
    rcases Fate.executed served with ⟨_, done, _⟩ | ⟨rfl, _⟩
    · cases done
      exact .revoked
    · exact .quiet rfl rfl

private theorem session_cons (same : after.sessions = row :: before.sessions) (sessionId : String) :
    after.session sessionId = if row.sessionId = sessionId then some row else before.session sessionId := by
  unfold World.session
  rw [same, List.find?_cons]
  by_cases named : row.sessionId = sessionId <;> simp [named]

theorem session_same (same : after.sessions = before.sessions) (sessionId : String) :
    after.session sessionId = before.session sessionId := by
  unfold World.session
  rw [same]

/-- A stored session stays stored, and a revoked one revoked. -/
theorem session_served {event : Event Effect Answer} (served : serve.serves before event after)
    (found : before.session sessionId = some row) :
    ∃ next, after.session sessionId = some next ∧ (row.revokedAt ≠ none → next.revokedAt ≠ none) := by
  cases changes_served served with
  | quiet _ same => exact ⟨row, (session_same same sessionId).trans found, id⟩
  | upserted _ _ _ same => exact ⟨row, (session_same same sessionId).trans found, id⟩
  | inserted absent _ same =>
    refine ⟨row, ?_, id⟩
    rw [session_cons same, if_neg, found]
    intro named
    dsimp only at named
    rw [named, found] at absent
    cases absent
  | revoked =>
    rw [session_revokeSession, found, Option.map_some]
    refine ⟨_, rfl, ?_⟩
    intro revoked
    split
    · exact Option.some_ne_none _
    · exact revoked

theorem Dead.served {event : Event Effect Answer} (served : serve.serves before event after)
    (dead : before.Dead sessionId) : after.Dead sessionId := by
  obtain ⟨row, found, revoked⟩ := dead
  obtain ⟨next, present, kept⟩ := session_served served found
  exact ⟨next, present, kept revoked⟩

/-- An acknowledged revoke of a stored session leaves it revoked. -/
theorem revoke_served (served : serve.serves before ⟨.revokeSession sessionId revokedAt, .ok ()⟩ after)
    (stored : before.session sessionId ≠ none) : after.Dead sessionId := by
  obtain ⟨choice, served⟩ := served
  have done := Fate.executed_ok served
  cases done
  obtain ⟨row, found⟩ := Option.ne_none_iff_exists'.mp stored
  refine ⟨_, by rw [session_revokeSession, found, Option.map_some], ?_⟩
  rw [if_pos (session_named found)]
  exact Option.some_ne_none _

/-- An acknowledged insert took effect. -/
theorem insert_served
    (served : serve.serves before ⟨.insertSession sessionId profile issuedAt expiresAt, .ok ()⟩ after) :
    after.session sessionId ≠ before.session sessionId := by
  obtain ⟨choice, served⟩ := served
  obtain ⟨absent, same⟩ := insertSession_eq_ok (Fate.executed_ok served)
  rw [absent, session_cons (congrArg World.sessions same), if_pos rfl]
  exact Option.some_ne_none _

end Sessions

section Answers

variable {before after : World}

/-- The profile an upsert returns. -/
theorem upsert_answer
    (served : serve.serves before ⟨.upsertProfile walletAddress role orgId, .ok profile⟩ after) :
    profile.walletAddress = walletAddress ∧ profile.role = role := by
  obtain ⟨choice, served⟩ := served
  obtain ⟨named, given, _⟩ := upsertProfile_eq_ok (Fate.executed_ok served)
  exact ⟨named, given⟩

/-- A profile that is found is stored. -/
theorem findProfile_answer (served : serve.serves before ⟨.findProfileById profileId, .ok (some profile)⟩ after) :
    profile ∈ before.profiles := by
  obtain ⟨choice, served⟩ := served
  rcases (Fate.executed_read served).2 with found | failed
  · exact List.mem_of_find?_eq_some (Except.ok.inj found).symm
  · cases failed

/-- A session that is found is stored. -/
theorem findSession_answer (served : serve.serves before ⟨.findSessionById sessionId, .ok (some row)⟩ after) :
    row ∈ before.sessions := by
  obtain ⟨choice, served⟩ := served
  rcases (Fate.executed_read served).2 with found | failed
  · exact List.mem_of_find?_eq_some (Except.ok.inj found).symm
  · cases failed

end Answers

/-- What happens besides: challenges expire or are lost in a restart, and a profile may
be deactivated. -/
inductive World.Drifts (before : World) : World → Prop where
  | purge (challenges : String → Option Challenge)
      (kept : ∀ wallet challenge, challenges wallet = some challenge →
        before.challenges wallet = some challenge) :
      before.Drifts { before with challenges := challenges }
  | deactivate (id : String) : before.Drifts (before.deactivate id)

end Agroasys.Auth
