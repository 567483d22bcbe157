import Agroasys.Auth.Challenges

/-! What deactivating a profile stops. A session that is stored stays as it is; a request
that begins later stores no other. -/

namespace Agroasys.Auth

open Function Agroasys.Foundation Agroasys.Runtime

/-- Wallets are unique, and the profile is stored and nowhere active. -/
structure World.Retired (world : World) (profileId : String) : Prop where
  unique : (world.profiles.map (·.walletAddress)).Nodup
  stored : ∃ profile ∈ world.profiles, profile.id = profileId
  barred : ∀ profile ∈ world.profiles, profile.id = profileId → profile.active = false

/-- A profile in hand is not the retired one, unless it says so. -/
def UserProfile.Bars (profile : UserProfile) (profileId : String) : Prop :=
  profile.id = profileId → profile.active = false

/-- A request has no active copy of the profile. -/
def Standing.Bars : Standing → String → Prop
  | .admitted _ _ profile, profileId => profile.Bars profileId
  | .vouched _ profile, profileId => ∀ given, profile = some given → given.Bars profileId
  | _, _ => True

section Retirement

variable {before after : World}

private theorem deactivate_wallets (world : World) (profileId : String) :
    (world.deactivate profileId).profiles.map (·.walletAddress) = world.profiles.map (·.walletAddress) := by
  unfold World.deactivate
  rw [List.map_map]
  apply List.map_congr_left
  intro row _
  dsimp only [Function.comp_apply]
  split <;> rfl

/-- A row after a deactivation. -/
theorem deactivate_row {world : World} (present : row ∈ (world.deactivate profileId).profiles) :
    ∃ old ∈ world.profiles, row.id = old.id ∧
      ((row.id = profileId ∧ row.active = false) ∨ (row.id ≠ profileId ∧ row = old)) := by
  obtain ⟨old, sooner, rfl⟩ := List.mem_map.mp present
  refine ⟨old, sooner, ?_⟩
  split
  · rename_i mine
    exact ⟨rfl, .inl ⟨mine, rfl⟩⟩
  · rename_i other
    exact ⟨rfl, .inr ⟨other, rfl⟩⟩

theorem deactivate_stored {world : World} (stored : ∃ row ∈ world.profiles, row.id = profileId) (other : String) :
    ∃ row ∈ (world.deactivate other).profiles, row.id = profileId := by
  obtain ⟨row, member, named⟩ := stored
  refine ⟨_, List.mem_map.mpr ⟨row, member, rfl⟩, ?_⟩
  split <;> exact named

/-- The administrator's call retires a stored profile. -/
theorem deactivate_retired (unique : (before.profiles.map (·.walletAddress)).Nodup)
    (stored : ∃ row ∈ before.profiles, row.id = profileId) :
    (before.deactivate profileId).Retired profileId := by
  refine ⟨(deactivate_wallets before profileId).symm ▸ unique, deactivate_stored stored profileId, ?_⟩
  intro row present same
  obtain ⟨_, _, _, ⟨_, inactive⟩ | ⟨other, _⟩⟩ := deactivate_row present
  · exact inactive
  · exact absurd same other

/-- An upsert keeps the id and the activity of every profile, and a new one has a new id. -/
theorem World.Retired.upserted (retired : before.Retired profileId)
    (upserted : before.upsertProfile fresh walletAddress role orgId = .ok (given, after)) :
    after.Retired profileId ∧ given.Bars profileId := by
  obtain ⟨held, member, named⟩ := retired.stored
  unfold World.upsertProfile at upserted
  split at upserted
  · rename_i stored found
    cases upserted
    have present : stored ∈ before.profiles := List.mem_of_find?_eq_some found
    have mine : stored.walletAddress = walletAddress := by simpa using List.find?_some found
    have alone (row : UserProfile) (sooner : row ∈ before.profiles) (same : row.walletAddress = walletAddress) :
        row = stored :=
      List.inj_on_of_nodup_map retired.unique sooner present (same.trans mine.symm)
    refine ⟨⟨?_, ?_, ?_⟩, fun same => retired.barred stored present same⟩
    · rw [List.map_map]
      convert retired.unique using 1
      apply List.map_congr_left
      intro row sooner
      dsimp only [Function.comp_apply]
      split
      · rename_i same
        rw [alone row sooner same]
      · rfl
    · refine ⟨_, List.mem_map.mpr ⟨held, member, rfl⟩, ?_⟩
      split
      · rename_i same
        rw [← alone held member same]
        exact named
      · exact named
    · intro row later same
      obtain ⟨old, sooner, rfl⟩ := List.mem_map.mp later
      split at same
      · rename_i address
        rw [if_pos address]
        exact retired.barred stored present same
      · rename_i address
        rw [if_neg address]
        exact retired.barred old sooner same
  · rename_i absent
    split at upserted <;> cases upserted
    rename_i unused
    have different : fresh ≠ profileId := by
      rintro rfl
      exact List.find?_eq_none.mp unused held member (decide_eq_true named)
    refine ⟨⟨?_, ⟨held, List.mem_cons_of_mem _ member, named⟩, ?_⟩, fun same => absurd same different⟩
    · rw [List.map_cons, List.nodup_cons]
      refine ⟨?_, retired.unique⟩
      intro taken
      obtain ⟨row, sooner, same⟩ := List.mem_map.mp taken
      exact List.find?_eq_none.mp absent row sooner (decide_eq_true same)
    · intro row later same
      rcases List.mem_cons.mp later with rfl | sooner
      · exact absurd same different
      · exact retired.barred row sooner same

private theorem World.Retired.same (retired : before.Retired profileId) (profiles : after.profiles = before.profiles) :
    after.Retired profileId where
  unique := profiles ▸ retired.unique
  stored := profiles ▸ retired.stored
  barred := profiles ▸ retired.barred

/-- A retired profile stays retired, and no call tells of an active one. -/
theorem World.Retired.served {event : Event Effect Answer} (retired : before.Retired profileId)
    (served : serve.serves before event after) :
    after.Retired profileId ∧
      (∀ walletAddress role orgId profile, event = ⟨.upsertProfile walletAddress role orgId, .ok profile⟩ →
        profile.Bars profileId) ∧
      ∀ asked profile, event = ⟨.findProfileById asked, .ok (some profile)⟩ → profile.Bars profileId := by
  refine ⟨?_, ?_, ?_⟩
  · cases changes_served served with
    | quiet profiles => exact retired.same profiles
    | inserted _ profiles => exact retired.same profiles
    | revoked => exact retired.same rfl
    | upserted =>
      obtain ⟨choice, served⟩ := served
      rcases Fate.executed served with ⟨given, done, _⟩ | ⟨rfl, _⟩
      · exact (retired.upserted done).1
      · exact retired
  · rintro walletAddress role orgId profile rfl
    obtain ⟨choice, served⟩ := served
    exact (retired.upserted (Fate.executed_ok served)).2
  · rintro asked profile rfl
    exact retired.barred profile (findProfile_answer served)

private theorem drift_retired (drifted : before.Drifts after) (retired : before.Retired profileId) :
    after.Retired profileId := by
  cases drifted with
  | purge => exact retired.same rfl
  | deactivate other =>
    refine ⟨(deactivate_wallets before other).symm ▸ retired.unique, deactivate_stored retired.stored other, ?_⟩
    intro row present same
    obtain ⟨old, sooner, _, ⟨_, inactive⟩ | ⟨_, rfl⟩⟩ := deactivate_row present
    · exact inactive
    · exact retired.barred row sooner same

end Retirement

section Runs

variable {settings : AppSettings} {earlier later : AppHistory} {middle pool : AppPool}

/-- A request without an active copy of the profile stores no session of it. -/
theorem bars_insert {standing : Standing}
    (permitted : standing.permits verifyMessage (.insertSession sessionId profile issuedAt expiresAt))
    (bars : standing.Bars profileId) : profile.id ≠ profileId := by
  intro same
  cases standing with
  | admitted =>
    obtain ⟨rfl, active⟩ := permitted
    exact absurd active (by rw [bars same]; decide)
  | vouched =>
    obtain ⟨rfl, active⟩ := permitted
    exact absurd active (by rw [bars profile rfl same]; decide)
  | shown _ answer => cases answer <;> exact permitted.elim
  | _ => exact permitted.elim

private theorem standing_bars (request : Request) : request.standing.Bars profileId := by
  cases request with
  | getChallenge asked => cases asked <;> trivial
  | _ => trivial

/-- A call that tells of no active copy leaves a request without one. -/
theorem Standing.Bars.after {standing : Standing} {event : Event Effect Answer} (bars : standing.Bars profileId)
    (permitted : standing.permits verifyMessage event.effect)
    (upserted : ∀ walletAddress role orgId profile, event = ⟨.upsertProfile walletAddress role orgId, .ok profile⟩ →
      profile.Bars profileId)
    (found : ∀ asked profile, event = ⟨.findProfileById asked, .ok (some profile)⟩ → profile.Bars profileId) :
    (standing.after event.effect event.answer).Bars profileId := by
  obtain ⟨effect, answer⟩ := event
  cases standing with
  | proven =>
    cases effect with
    | upsertProfile =>
      cases answer with
      | ok profile => exact upserted _ _ _ profile rfl
      | error => trivial
    | _ => exact permitted.elim
  | bearing =>
    cases effect with
    | findProfileById asked =>
      intro given same
      cases answer with
      | error => cases same
      | ok told =>
        change told = some given at same
        subst same
        exact found asked given rfl
    | findSessionById => trivial
    | now => trivial
    | revokeSession => trivial
    | _ => exact permitted.elim
  | admitted =>
    cases effect with
    | insertSession => trivial
    | now => exact bars
    | randomBytes => exact bars
    | _ => exact permitted.elim
  | vouched =>
    cases effect with
    | insertSession => trivial
    | now => exact bars
    | randomBytes => exact bars
    | _ => exact permitted.elim
  | shown _ told =>
    cases told with
    | none => exact permitted.elim
    | some =>
      cases effect with
      | deleteChallenge => trivial
      | _ => exact permitted.elim
  | asking => cases effect <;> first | exact permitted.elim | trivial
  | drawn => cases effect <;> first | exact permitted.elim | trivial
  | arriving => cases effect <;> first | exact permitted.elim | trivial
  | stored => cases effect <;> first | exact permitted.elim | trivial
  | exchanged => cases effect <;> first | exact permitted.elim | trivial
  | given => exact permitted.elim

/-- The requests that began before a profile was retired, and what the later ones have in hand. -/
structure Fenced (settings : AppSettings) (earlier later : AppHistory) (pool : AppPool) (profileId : String) :
    Prop where
  retired : pool.world.Retired profileId
  bars : ∀ pid standing, stances settings (later ++ earlier) pid = some standing →
    (∃ request, Began earlier pid request) ∨ standing.Bars profileId
  stored : ∀ pid sessionId profile issuedAt expiresAt answer,
    Made later pid ⟨.insertSession sessionId profile issuedAt expiresAt, answer⟩ → profile.id = profileId →
      ∃ request, Began earlier pid request

private theorem path_fenced (run : (launched settings).system.Run earlier middle)
    (path : Path (launched settings).system middle later pool) (retired : middle.world.Retired profileId) :
    Fenced settings earlier later pool profileId := by
  induction path with
  | start =>
    refine ⟨retired, ?_, ?_⟩
    · intro pid standing assigned
      obtain ⟨request, began, _⟩ := run_past run assigned
      exact .inl ⟨request, began⟩
    · intro pid _ _ _ _ _ made
      obtain ⟨_, member, _⟩ := made
      cases member
  | @next later pool move next reached taken ih =>
    have sofar := run.extend reached
    cases move with
    | start pid request =>
      refine ⟨(Server.started taken).1 ▸ ih.retired, ?_, ?_⟩
      · intro other standing assigned
        rw [List.cons_append, stances, casting_start] at assigned
        rcases update_assigned assigned with ⟨_, rfl⟩ | ⟨_, assigned⟩
        · exact .inr (standing_bars request)
        · exact ih.bars other standing assigned
      · intro other _ _ _ _ _ made same
        rcases made_cons.mp made with label | made
        · cases label
        · exact ih.stored other _ _ _ _ _ made same
    | perform pid event =>
      obtain ⟨standing, acts⟩ := Server.acts (launched_standing settings) sofar taken
      obtain ⟨kept, upserted, found⟩ := ih.retired.served acts.served
      refine ⟨kept, ?_, ?_⟩
      · intro other standing' assigned
        rw [List.cons_append, stances, casting_perform acts.assigned] at assigned
        rcases update_assigned assigned with ⟨rfl, rfl⟩ | ⟨_, assigned⟩
        · exact (ih.bars other standing acts.assigned).imp_right fun bars =>
            bars.after acts.permitted upserted found
        · exact ih.bars other standing' assigned
      · intro other sessionId profile issuedAt expiresAt answer made same
        rcases made_cons.mp made with label | made
        · cases label
          rcases ih.bars pid standing acts.assigned with began | bars
          · exact began
          · exact absurd same (bars_insert acts.permitted bars)
        · exact ih.stored other _ _ _ _ _ made same
    | drift =>
      refine ⟨drift_retired taken.1 ih.retired, ?_, ?_⟩
      · intro other standing assigned
        rw [List.cons_append, stances, casting_drift] at assigned
        exact ih.bars other standing assigned
      · intro other _ _ _ _ _ made same
        rcases made_cons.mp made with label | made
        · cases label
        · exact ih.stored other _ _ _ _ _ made same

/-- Once a profile is stored and nowhere active it stays so, whatever is asked of the
service, and a session of it is stored only by requests that had begun before. -/
theorem retired_unissued (run : (launched settings).system.Run earlier middle)
    (path : Path (launched settings).system middle later pool) (retired : middle.world.Retired profileId) :
    pool.world.Retired profileId ∧
      ∀ pid sessionId profile issuedAt expiresAt answer,
        Made later pid ⟨.insertSession sessionId profile issuedAt expiresAt, answer⟩ → profile.id = profileId →
          ∃ request, Began earlier pid request := by
  have fenced := path_fenced run path retired
  exact ⟨fenced.retired, fenced.stored⟩

end Runs

section Examples

/-- The holder's profile is deactivated before the holder logs in. -/
def retiredWorld : World :=
  holderWorld.deactivate "7d9f"

def refusedCues : List (Cue Request) :=
  [.start 0 (.getChallenge (some holder)), .go 0 2,
    .start 1 (.postLogin ⟨some holder, some holderSignature, some "buyer", none, none⟩), .go 1 3]

/-- The answer to a login of a deactivated profile. -/
def forbids (pool : AppPool) (pid : Nat) : Bool :=
  match pool.running pid with
  | some (.done (.ok ⟨403, .failure "Forbidden" "User profile is deactivated"⟩)) => true
  | _ => false

/-- The login of a holder whose profile was deactivated is refused. -/
theorem retired_refused : ∃ (earlier later : AppHistory) (pool : AppPool),
    (launched holderSettings).system.Run (later ++ earlier) pool ∧ forbids pool 1 = true ∧
      pool.world.Retired "7d9f" ∧
      ∀ pid sessionId profile issuedAt expiresAt answer,
        ¬ (Made later pid ⟨.insertSession sessionId profile issuedAt expiresAt, answer⟩ ∧ profile.id = "7d9f") := by
  obtain ⟨recording, path, refused⟩ :=
    (launched holderSettings).record_from serve holderScript retiredWorld refusedCues
      (fun recording => forbids recording.pool 1) rfl (by decide +kernel)
  have drifted : (launched holderSettings).system.step ⟨holderWorld, fun _ => none⟩ .drift
      ⟨retiredWorld, fun _ => none⟩ := ⟨.deactivate "7d9f", rfl⟩
  have run : (launched holderSettings).system.Run _ _ :=
    ⟨⟨holderWorld, fun _ => none⟩, ⟨fun _ => rfl, fun _ => rfl⟩, Path.single drifted⟩
  have retired : retiredWorld.Retired "7d9f" := deactivate_retired (by decide) ⟨_, List.mem_cons_self, rfl⟩
  obtain ⟨kept, unissued⟩ := retired_unissued run path retired
  refine ⟨_, recording.history, recording.pool, run.extend path, refused, kept, ?_⟩
  rintro pid sessionId profile issuedAt expiresAt answer ⟨made, same⟩
  obtain ⟨_, _, member, label⟩ := unissued pid sessionId profile issuedAt expiresAt answer made same
  rw [List.mem_singleton] at member
  subst member
  cases label

end Examples

end Agroasys.Auth
