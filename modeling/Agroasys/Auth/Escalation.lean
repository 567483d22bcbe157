import Agroasys.Gateway.Principal

namespace Agroasys.Auth

open Function Agroasys.Foundation Agroasys.Runtime

/-- A login body asks for a role of a wallet, with the wallet's signature of one of its
challenges. -/
def Declares (verifyMessage : String → String → Option String) (body : LoginBody) (wallet : String)
    (role : UserRole) : Prop :=
  ∃ walletAddress signature nonce, readLogin body = .ok (walletAddress, signature, role) ∧
    toLowerCase walletAddress = wallet ∧ checkSignature verifyMessage wallet nonce signature = .ok ()

/-- A login of the wallet asks for the role admin. -/
def DeclaresAdmin (settings : AppSettings) (wallet : String) (entry : AppEntry) : Prop :=
  ∃ pid body, entry.label = .start pid (.postLogin body) ∧ Declares settings.verifyMessage body wallet .admin

/-- What a request has in hand: its login body, the last profile it was given and the
last session it looked up. -/
structure Hand where
  body : Option LoginBody
  profile : Option UserProfile
  row : Option SessionRow

section Hands

variable (verifyMessage : String → String → Option String)

def Hand.permits (hand : Hand) : Effect → Prop
  | .upsertProfile wallet role _ => ∃ body, hand.body = some body ∧ Declares verifyMessage body wallet role
  | .insertSession _ profile _ _ => hand.profile = some profile
  | _ => True

def Hand.after (hand : Hand) : (effect : Effect) → Answer effect → Hand
  | .upsertProfile _ _ _, answer => { hand with profile := answer.toOption }
  | .findProfileById _, answer => { hand with profile := answer.toOption.join }
  | .findSessionById _, answer => { hand with row := answer.toOption.join }
  | _, _ => hand

def hands : Protocol Effect Answer Hand where
  permits := Hand.permits verifyMessage
  after := Hand.after

def Request.hand : Request → Hand
  | .postLogin body => ⟨some body, none, none⟩
  | _ => ⟨none, none, none⟩

/-- A session shown is the one last looked up. -/
def Hand.shows (hand : Hand) (response : HttpResponse) : Prop :=
  ∀ view, response.body = .session view →
    ∃ row, hand.row = some row ∧ view.walletAddress = row.walletAddress ∧ view.role = row.role

def Hand.fits (hand : Hand) : Except String HttpResponse → Prop
  | .ok response => hand.shows response
  | .error _ => True

variable {verifyMessage} {hand : Hand} {throws : Hand → String → Prop}

/-- The parts of a session that its row gives. -/
theorem normalizeSessionRow_eq_ok (normalized : normalizeSessionRow row = .ok session) :
    session.walletAddress = row.walletAddress ∧ session.role = row.role := by
  simp only [normalizeSessionRow, bind, Except.bind] at normalized
  split at normalized
  · cases normalized
  · split at normalized
    · cases normalized
    · split at normalized
      · cases normalized
        exact ⟨rfl, rfl⟩
      · split at normalized <;> cases normalized
        exact ⟨rfl, rfl⟩

theorem hands_now {returns : Hand → Nat → Prop} (returned : ∀ time, returns hand time) :
    (hands verifyMessage).Runs returns throws hand nowSeconds := by
  apply Protocol.Runs.bind
  refine Protocol.Runs.perform (by trivial) ?_
  intro time
  exact .pure (returned _)

private theorem hands_resolveActive {returns : Hand → Option UserSession → Prop}
    (absent : ∀ row, returns { hand with row := row } none)
    (present : ∀ row session, session.walletAddress = row.walletAddress → session.role = row.role →
      returns { hand with row := some row } (some session))
    (thrown : ∀ row error, throws { hand with row := row } error) (sessionId : String) :
    (hands verifyMessage).Runs returns throws hand (resolveActive sessionId) := by
  apply Protocol.Runs.bind
  apply Protocol.Runs.bind
  refine Protocol.Runs.perform (by trivial) ?_
  intro answer
  apply Protocol.Runs.bind
  refine Protocol.Runs.ofExcept ?_ fun error _ => thrown _ error
  rintro found rfl
  cases found with
  | none => exact .pure (absent _)
  | some row =>
    apply Protocol.Runs.bind
    refine Protocol.Runs.ofExcept ?_ fun error _ => thrown _ error
    intro session normalized
    apply Protocol.Runs.pure
    dsimp only
    split
    · exact .pure (absent _)
    · apply Protocol.Runs.bind
      refine hands_now ?_
      intro time
      split
      · exact .pure (absent _)
      · obtain ⟨wallet, role⟩ := normalizeSessionRow_eq_ok normalized
        exact .pure (present row session wallet role)

private theorem hands_issue {returns : Hand → SessionIssueResult → Prop} (given : hand.profile = some profile)
    (returned : ∀ result, returns hand result) (thrown : ∀ error, throws hand error) (ttlSeconds : Int) :
    (hands verifyMessage).Runs returns throws hand (issue profile ttlSeconds) := by
  apply Protocol.Runs.bind
  refine Protocol.Runs.perform (by trivial) ?_
  intro sessionId
  apply Protocol.Runs.bind
  refine hands_now ?_
  intro now
  apply Protocol.Runs.bind
  refine hands_now ?_
  intro issuedAt
  apply Protocol.Runs.bind
  refine Protocol.Runs.perform given ?_
  intro answer
  apply Protocol.Runs.bind
  exact Protocol.Runs.ofExcept (fun _ _ => .pure (returned _)) fun error _ => thrown error

private theorem hands_revokeSession {returns : Hand → Unit → Prop} (returned : returns hand ())
    (thrown : ∀ error, throws hand error) (sessionId : String) :
    (hands verifyMessage).Runs returns throws hand (revokeSession sessionId) := by
  apply Protocol.Runs.bind
  refine hands_now ?_
  intro now
  apply Protocol.Runs.bind
  refine Protocol.Runs.perform (by trivial) ?_
  intro answer
  exact Protocol.Runs.ofExcept (fun _ _ => returned) fun error _ => thrown error

private theorem hands_login (declares : hand.permits verifyMessage (.upsertProfile wallet role orgId))
    (lowered : toLowerCase wallet = wallet) (ttlSeconds : Option Int) :
    (hands verifyMessage).Runs (fun _ _ => True) (fun _ _ => True) hand (login wallet role orgId ttlSeconds) := by
  apply Protocol.Runs.bind
  apply Protocol.Runs.bind
  refine Protocol.Runs.perform ?_ ?_
  · rw [lowered, lowered]
    exact declares
  · intro answer
    refine Protocol.Runs.ofExcept ?_ fun _ _ => trivial
    rintro profile rfl
    split
    · exact hands_issue rfl (fun _ => trivial) (fun _ => trivial) _
    · exact .throw trivial

private theorem hands_refresh (sessionId : String) (ttlSeconds : Option Int) :
    (hands verifyMessage).Runs (fun _ _ => True) (fun _ _ => True) hand (refresh sessionId ttlSeconds) := by
  apply Protocol.Runs.bind
  refine hands_resolveActive (fun _ => .throw trivial) ?_ (fun _ _ => trivial) sessionId
  intro row session _ _
  apply Protocol.Runs.bind
  apply Protocol.Runs.bind
  refine Protocol.Runs.perform (by trivial) ?_
  intro answer
  refine Protocol.Runs.ofExcept ?_ fun _ _ => trivial
  rintro found rfl
  cases found with
  | none => exact .throw trivial
  | some profile =>
    dsimp only
    split
    · apply Protocol.Runs.bind
      refine hands_issue rfl ?_ (fun _ => trivial) _
      intro result
      apply Protocol.Runs.bind
      exact hands_revokeSession (.pure trivial) (fun _ => trivial) sessionId
    · exact .throw trivial

/-- A response without a session shows none. -/
theorem shows_plain {response : HttpResponse} (plain : ∀ view, response.body ≠ .session view) :
    hand.shows response :=
  fun view same => absurd same (plain view)

private theorem hands_withSession {handler : UserSession → Job HttpResponse} (authorization : Option String)
    (handled : ∀ row session, session.walletAddress = row.walletAddress → session.role = row.role →
      (hands verifyMessage).Runs Hand.shows (fun _ _ => True) { hand with row := some row } (handler session)) :
    (hands verifyMessage).Runs Hand.shows (fun _ _ => True) hand (withSession authorization handler) := by
  unfold withSession
  split
  · rename_i refusal refused
    apply Protocol.Runs.pure
    apply shows_plain
    intro view shown
    unfold readBearer at refused
    split at refused
    · cases refused
      cases shown
    · split at refused <;> cases refused
      cases shown
  · apply Protocol.Runs.bind
    apply Protocol.Runs.tryCatch
    refine hands_resolveActive ?_ ?_ ?_ _
    · intro row
      exact .pure (shows_plain fun view shown => by cases shown)
    · intro row session wallet role
      exact handled row session wallet role
    · intro row error
      exact .pure (.pure (shows_plain fun view shown => by cases shown))

theorem hands_getChallenge (settings : AppSettings) (wallet : Option String) :
    (hands settings.verifyMessage).Runs Hand.shows (fun _ _ => True) (Request.getChallenge wallet).hand
      (handle settings (.getChallenge wallet)) := by
  unfold handle getChallenge
  dsimp only
  split
  · exact .pure (shows_plain fun view shown => by cases shown)
  · split
    · apply Protocol.Runs.bind
      refine Protocol.Runs.perform (by trivial) ?_
      intro nonce
      apply Protocol.Runs.bind
      refine Protocol.Runs.perform (by trivial) ?_
      intro _
      exact .pure (shows_plain fun view shown => by cases shown)
    · exact .pure (shows_plain fun view shown => by cases shown)

theorem hands_postLogin (settings : AppSettings) (body : LoginBody) :
    (hands settings.verifyMessage).Runs Hand.shows (fun _ _ => True) (Request.postLogin body).hand
      (handle settings (.postLogin body)) := by
  unfold handle postLogin
  dsimp only
  split
  · rename_i refusal refused
    apply Protocol.Runs.pure
    apply shows_plain
    intro view shown
    unfold readLogin at refused
    split at refused
    · cases refused
      cases shown
    · split at refused
      · cases refused
        cases shown
      · split at refused <;> cases refused
        cases shown
  · rename_i walletAddress signature role read
    apply Protocol.Runs.bind
    refine Protocol.Runs.perform (by trivial) ?_
    intro answer
    cases answer with
    | none => exact .pure (shows_plain fun view shown => by cases shown)
    | some nonce =>
      dsimp only
      split
      · rename_i refusal refused
        apply Protocol.Runs.pure
        apply shows_plain
        intro view shown
        unfold checkSignature at refused
        split at refused
        · cases refused
          cases shown
        · split at refused <;> cases refused
          cases shown
      · rename_i checked
        apply Protocol.Runs.bind
        refine Protocol.Runs.perform (by trivial) ?_
        intro _
        apply Protocol.Runs.tryCatch
        apply Protocol.Runs.bind
        apply (hands_login ⟨body, rfl, walletAddress, signature, nonce, read, rfl, checked⟩
          (toLowerCase_idempotent walletAddress) _).mono
        · intro hand result _
          exact .pure (shows_plain fun view shown => by cases shown)
        · intro hand message _
          exact .pure (shows_plain fun view shown => by cases shown)

private theorem hands_request (settings : AppSettings) (request : Request) :
    (hands settings.verifyMessage).Runs Hand.shows (fun _ _ => True) request.hand (handle settings request) := by
  cases request with
  | getChallenge wallet => exact hands_getChallenge settings wallet
  | postLogin body => exact hands_postLogin settings body
  | getSession authorization =>
    apply hands_withSession authorization
    intro row session wallet role
    apply Protocol.Runs.pure
    intro view shown
    cases shown
    exact ⟨row, rfl, wallet, role⟩
  | postRefresh authorization =>
    apply hands_withSession authorization
    intro row session _ _
    apply Protocol.Runs.tryCatch
    apply Protocol.Runs.bind
    apply (hands_refresh session.sessionId none).mono
    · intro hand result _
      exact .pure (shows_plain fun view shown => by cases shown)
    · intro hand message _
      exact .pure (shows_plain fun view shown => by cases shown)
  | postRevoke authorization =>
    apply hands_withSession authorization
    intro row session _ _
    apply Protocol.Runs.bind
    refine hands_revokeSession ?_ (fun _ => trivial) session.sessionId
    exact .pure (shows_plain fun view shown => by cases shown)

private theorem app_hands (settings : AppSettings) (request : Request) :
    (hands settings.verifyMessage).Follows Hand.fits request.hand ((app settings).program request) := by
  refine Protocol.Runs.follows (Protocol.Runs.tryCatch ?_)
  apply (hands_request settings request).mono
  · intro hand response shows
    exact shows
  · intro hand error _
    exact .pure (shows_plain fun view shown => by cases shown)

end Hands

/-- What is known of a wallet has another role than admin. -/
def Plain (wallet address : String) (role : UserRole) : Prop :=
  address = wallet → role ≠ .admin

/-- No stored profile or session of the wallet has role admin. -/
structure World.Plain (world : World) (wallet : String) : Prop where
  profiles : ∀ profile ∈ world.profiles, Auth.Plain wallet profile.walletAddress profile.role
  sessions : ∀ row ∈ world.sessions, Auth.Plain wallet row.walletAddress row.role

structure Hand.Plain (hand : Hand) (settings : AppSettings) (wallet : String) : Prop where
  body : ∀ body, hand.body = some body → ¬ Declares settings.verifyMessage body wallet .admin
  profile : ∀ profile, hand.profile = some profile → Auth.Plain wallet profile.walletAddress profile.role
  row : ∀ row, hand.row = some row → Auth.Plain wallet row.walletAddress row.role

section Plainness

variable {settings : AppSettings} {hand : Hand} {before after : World}

private theorem Hand.Plain.fresh {body : Option LoginBody}
    (undeclared : ∀ declared, body = some declared → ¬ Declares settings.verifyMessage declared wallet .admin) :
    (⟨body, none, none⟩ : Hand).Plain settings wallet := by
  refine ⟨undeclared, ?_, ?_⟩
  · intro profile given
    cases given
  · intro row given
    cases given

private theorem World.Plain.served {event : Event Effect Answer} (plain : before.Plain wallet)
    (held : hand.Plain settings wallet) (permitted : hand.permits settings.verifyMessage event.effect)
    (served : serve.serves before event after) : after.Plain wallet := by
  cases changes_served served with
  | quiet profiles sessions =>
    exact ⟨by rw [profiles]; exact plain.profiles, by rw [sessions]; exact plain.sessions⟩
  | upserted named given profiles sessions =>
    refine ⟨?_, by rw [sessions]; exact plain.sessions⟩
    intro row member
    rcases profiles row member with rfl | member
    · obtain ⟨body, mine, declares⟩ := permitted
      intro same admin
      rw [← named, same, ← given, admin] at declares
      exact held.body body mine declares
    · exact plain.profiles row member
  | inserted _ profiles sessions =>
    refine ⟨by rw [profiles]; exact plain.profiles, ?_⟩
    intro row member
    rw [sessions] at member
    rcases List.mem_cons.mp member with rfl | member
    · exact held.profile _ permitted
    · exact plain.sessions row member
  | revoked =>
    refine ⟨plain.profiles, ?_⟩
    intro row member
    obtain ⟨old, present, rfl⟩ := List.mem_map.mp member
    have before := plain.sessions old present
    split <;> exact before

private theorem Hand.Plain.answered {event : Event Effect Answer} (held : hand.Plain settings wallet)
    (plain : before.Plain wallet) (permitted : hand.permits settings.verifyMessage event.effect)
    (served : serve.serves before event next) : (hand.after event.effect event.answer).Plain settings wallet := by
  obtain ⟨effect, answer⟩ := event
  cases effect with
  | upsertProfile walletAddress role orgId =>
    refine ⟨held.body, ?_, held.row⟩
    intro profile given
    cases answer with
    | error => cases given
    | ok stored =>
      cases given
      obtain ⟨named, asked⟩ := upsert_answer served
      obtain ⟨body, mine, declares⟩ := permitted
      intro same admin
      rw [← named, same, ← asked, admin] at declares
      exact held.body body mine declares
  | findProfileById =>
    refine ⟨held.body, ?_, held.row⟩
    intro profile given
    cases answer with
    | error => cases given
    | ok found =>
      cases given
      exact plain.profiles profile (findProfile_answer served)
  | findSessionById =>
    refine ⟨held.body, held.profile, ?_⟩
    intro row given
    cases answer with
    | error => cases given
    | ok found =>
      cases given
      exact plain.sessions row (findSession_answer served)
  | _ => exact held

private theorem drift_plain (drifted : before.Drifts after) (plain : before.Plain wallet) : after.Plain wallet := by
  cases drifted with
  | purge challenges _ => exact ⟨plain.profiles, plain.sessions⟩
  | deactivate profileId =>
    refine ⟨?_, plain.sessions⟩
    intro profile member
    obtain ⟨old, present, rfl⟩ := List.mem_map.mp member
    have before := plain.profiles old present
    split <;> exact before

end Plainness

/-- Declarations are where admin comes from. -/
theorem path_plain {settings : AppSettings} {origin pool : AppPool}
    (started : (app settings).system.initial origin) (path : Path (app settings).system origin history pool)
    (plain : origin.world.Plain wallet)
    (undeclared : ∀ entry ∈ history, ¬ DeclaresAdmin settings wallet entry) :
    ∃ parts, Played (hands settings.verifyMessage) Hand.fits parts pool.running ∧
      pool.world.Plain wallet ∧ ∀ pid hand, parts pid = some hand → hand.Plain settings wallet := by
  have allowed : Throughout (fun _ entry => ¬ DeclaresAdmin settings wallet entry) history := by
    intro later entry earlier same
    exact undeclared entry (by simp [same])
  apply Server.path_played
    (fun _ pool parts => pool.world.Plain wallet ∧ ∀ pid hand, parts pid = some hand → hand.Plain settings wallet)
    (app_hands settings) ⟨plain, fun _ _ assigned => (nomatch assigned)⟩ ?_ ?_ ?_ started path allowed
  · intro history pool parts pid request next _ _ allowed holds _ same
    obtain ⟨plain, held⟩ := holds
    subst same
    refine ⟨plain, ?_⟩
    intro other hand assigned
    rcases update_assigned assigned with ⟨_, rfl⟩ | ⟨_, assigned⟩
    · cases request with
      | postLogin body =>
        apply Hand.Plain.fresh
        intro declared same declares
        cases same
        exact allowed ⟨pid, body, rfl, declares⟩
      | _ => exact .fresh fun declared same => by cases same
    · exact held other hand assigned
  · intro history pool parts pid event hand rest next _ _ _ holds _ assigned permitted served _
    obtain ⟨plain, held⟩ := holds
    have mine := held pid hand assigned
    refine ⟨plain.served mine permitted served, ?_⟩
    intro other hand' assigned'
    rcases update_assigned assigned' with ⟨_, rfl⟩ | ⟨_, assigned'⟩
    · exact mine.answered plain permitted served
    · exact held other hand' assigned'
  · intro history pool parts next _ _ holds drifted _
    exact ⟨drift_plain drifted holds.1, holds.2⟩

/-! One wallet, with a signature of it as ethers recovers it. -/

def holder : String := "0xf39fd6e51aad88f6f4ce6ab8827279cfffb92266"

def holderNonce : String := "00112233445566778899aabbccddeeff"

def holderSignature : String :=
  "0x801f5ba90de9bb957e7a5cf9cea94487034ca730ed9e8d7c00aecb234958c6c807f05651d39271f0b6c7f87294662d0ae3274bc702166aa2433f750fa5c8d4b81b"

def holderSettings : AppSettings where
  maxSessionTtlSeconds := 86400
  verifyMessage message signature :=
    if message = buildChallengeMessage holder holderNonce ∧ signature = holderSignature then
      some "0xf39Fd6e51aad88F6F4ce6aB8827279cffFb92266"
    else none

/-- The random bytes are the nonce first and the session id later. -/
def holderScript (time : Nat) : Choice :=
  ⟨.acknowledged, 1000000 + time, if time = 1 then holderNonce else "5e55"⟩

/-- The holder is a buyer. -/
def holderWorld : World :=
  ⟨[⟨"7d9f", holder, .buyer, none, true⟩], [], fun _ => none⟩

/-- A challenge, a login for a role and a look at the session. -/
def holderCues (role : String) : List (Cue Request) :=
  [.start 0 (.getChallenge (some holder)), .go 0 2,
    .start 1 (.postLogin ⟨some holder, some holderSignature, some role, none, none⟩), .go 1 7,
    .start 2 (.getSession (some "Bearer 5e55")), .go 2 2]

/-- The principal of an answer, where mutations are enabled and the holder is listed. -/
def admitted (pool : AppPool) (pid : Nat) : Option Gateway.GatewayPrincipal :=
  match pool.running pid with
  | some (.done (.ok response)) => (Gateway.authenticate true [holder] response).toOption
  | _ => none

theorem admitted_eq_some {pool : AppPool} (made : admitted pool pid = some principal) :
    ∃ response, pool.running pid = some (.done (.ok response)) ∧ response.body = .session principal.session ∧
      Gateway.authenticate true [holder] response = .ok principal := by
  unfold admitted at made
  split at made
  · rename_i response present
    cases asked : Gateway.authenticate true [holder] response with
    | error => simp [asked, Except.toOption] at made
    | ok given =>
      have same : given = principal := by simpa [asked, Except.toOption] using made
      subst same
      obtain ⟨_, view, body, rfl⟩ := Gateway.authenticate_eq_ok.mp asked
      exact ⟨response, present, body, asked⟩
  · cases made

def asksAdmin (entry : AppEntry) : Bool :=
  match entry.label with
  | .start _ (.postLogin body) =>
    match readLogin body with
    | .ok (_, _, role) => role = .admin
    | .error _ => false
  | _ => false

private theorem undeclared_of_asksAdmin {settings : AppSettings} {entry : AppEntry} (asks : asksAdmin entry = false) :
    ¬ DeclaresAdmin settings wallet entry := by
  intro declares
  obtain ⟨pid, body, label, _, _, _, read, _⟩ := declares
  rw [asksAdmin, label] at asks
  dsimp only at asks
  rw [read] at asks
  cases asks

/-- If neither the profile nor a stored session of a wallet has role admin and no login
signed by it asks for that role, no session of the wallet ever has it, and the gateway
makes no operator of one: its guards refuse every principal made of it. -/
theorem no_escalation {settings : AppSettings} {origin pool : AppPool}
    (started : (app settings).system.initial origin) (path : Path (app settings).system origin history pool)
    (profile : ∀ profile ∈ origin.world.profiles, profile.walletAddress = wallet → profile.role ≠ .admin)
    (leftover : ∀ row ∈ origin.world.sessions, row.walletAddress = wallet → row.role ≠ .admin)
    (undeclared : ∀ entry ∈ history, ¬ DeclaresAdmin settings wallet entry) :
    (∀ row ∈ pool.world.sessions, row.walletAddress = wallet → row.role ≠ .admin) ∧
      ∀ pid response view, pool.running pid = some (.done (.ok response)) → response.body = .session view →
        view.walletAddress = wallet → view.role ≠ .admin ∧ Gateway.mapGatewayRoles view = [] ∧
          ∀ enableMutations writeAllowlist principal,
            Gateway.authenticate enableMutations writeAllowlist response = .ok principal → principal.Refused := by
  obtain ⟨parts, played, plain, held⟩ := path_plain started path ⟨profile, leftover⟩ undeclared
  refine ⟨plain.sessions, ?_⟩
  intro pid response view done shown mine
  obtain ⟨hand, assigned, shows⟩ := played.finished done
  obtain ⟨row, looked, wallet, role⟩ := shows view shown
  have other : view.role ≠ .admin := role ▸ (held pid hand assigned).row row looked (wallet ▸ mine)
  have nothing : Gateway.mapGatewayRoles view = [] := if_neg other
  refine ⟨other, nothing, ?_⟩
  intro enableMutations writeAllowlist principal made
  obtain ⟨_, seen, given, rfl⟩ := Gateway.authenticate_eq_ok.mp made
  have same : view = seen := Body.session.inj (shown.symm.trans given)
  subst same
  exact Gateway.GatewayPrincipal.refused nothing

/-- The holder logs in as a buyer. -/
theorem buyerLogin_plain : ∃ (history : AppHistory) (pool : AppPool) (principal : Gateway.GatewayPrincipal),
    (app holderSettings).system.Run history pool ∧ admitted pool 2 = some principal ∧
      principal.session.walletAddress = holder ∧ principal.session.role ≠ .admin ∧
      Gateway.mapGatewayRoles principal.session = [] ∧ principal.Refused := by
  obtain ⟨recording, path, checked⟩ :=
    (app holderSettings).record_from serve holderScript holderWorld (holderCues "buyer")
      (fun recording => !recording.history.any asksAdmin &&
        (admitted recording.pool 2).any fun principal => principal.session.walletAddress = holder)
      rfl (by decide +kernel)
  simp only [Bool.and_eq_true, Bool.not_eq_true', List.any_eq_false, Option.any_eq_true,
    decide_eq_true_eq] at checked
  obtain ⟨buyers, principal, made, mine⟩ := checked
  obtain ⟨response, done, body, asked⟩ := admitted_eq_some made
  have started : (app holderSettings).system.initial ⟨holderWorld, fun _ => none⟩ := ⟨trivial, fun _ => rfl⟩
  have profiles : ∀ profile ∈ holderWorld.profiles, profile.walletAddress = holder → profile.role ≠ .admin := by
    decide
  have sessions : ∀ row ∈ holderWorld.sessions, row.walletAddress = holder → row.role ≠ .admin := by decide
  obtain ⟨_, plain⟩ := no_escalation started path profiles sessions
    fun entry member => undeclared_of_asksAdmin (by simpa using buyers entry member)
  obtain ⟨other, nothing, refused⟩ := plain 2 response principal.session done body mine
  exact ⟨recording.history, recording.pool, principal, ⟨_, started, path⟩, made, mine, other, nothing,
    refused _ _ _ asked⟩

/-- The buyer logs in as an admin, and passes the guard of the mutations. -/
theorem adminLogin_escalates : ∃ (history : AppHistory) (pool : AppPool) (response : HttpResponse)
    (view : SessionView), Path (app holderSettings).system ⟨holderWorld, fun _ => none⟩ history pool ∧
      (∀ profile ∈ holderWorld.profiles, profile.role = .buyer) ∧
      pool.running 2 = some (.done (.ok response)) ∧ response.body = .session view ∧
      view.walletAddress = holder ∧ view.role = .admin ∧
      Gateway.mapGatewayRoles view = [.operatorRead, .operatorWrite] ∧
      ∃ principal, Gateway.authenticate true [holder] response = .ok principal ∧
        Gateway.requireMutationWriteAccess principal = .ok () := by
  obtain ⟨recording, path, checked⟩ :=
    (app holderSettings).record_from serve holderScript holderWorld (holderCues "admin")
      (fun recording => (admitted recording.pool 2).any fun principal =>
        principal.session.walletAddress = holder && principal.session.role = .admin &&
          (Gateway.requireMutationWriteAccess principal).isOk)
      rfl (by decide +kernel)
  simp only [Option.any_eq_true, Bool.and_eq_true, decide_eq_true_eq] at checked
  obtain ⟨principal, made, ⟨mine, admin⟩, passed⟩ := checked
  obtain ⟨response, done, body, asked⟩ := admitted_eq_some made
  refine ⟨recording.history, recording.pool, response, principal.session, path, by decide, done, body, mine, admin,
    if_pos admin, principal, asked, ?_⟩
  cases answer : Gateway.requireMutationWriteAccess principal with
  | error => simp [answer, Except.isOk, Except.toBool] at passed
  | ok => rfl

end Agroasys.Auth
