import Agroasys.Auth.Standings
import Agroasys.Foundation.Transcripts

namespace Agroasys.Auth

open Function Agroasys.Foundation Agroasys.Runtime

/-- The service from the start of its process: the tables hold anything. -/
def launched (settings : AppSettings) : Server Request Effect Answer (Except String HttpResponse) World :=
  { app settings with initial := fun world => ∀ wallet, world.challenges wallet = none }

theorem launched_standing (settings : AppSettings) (request : Request) :
    (standings settings.verifyMessage).Follows (fun _ _ => True) request.standing
      ((launched settings).program request) :=
  app_standing settings request

/-! The slots of the store. -/

section Slots

variable {before after : World}

/-- A wallet's slot changes by what is set for it; else a challenge stays or goes. -/
theorem challenges_kept {event : Event Effect Answer} (served : serve.serves before event after)
    (other : ∀ asked nonce ttlSeconds,
      event.effect = .setChallenge asked nonce ttlSeconds → wallet ≠ toLowerCase asked)
    (held : after.challenges wallet = some challenge) : before.challenges wallet = some challenge := by
  obtain ⟨choice, served⟩ := served
  obtain ⟨effect, answer⟩ := event
  have cleared (asked : String) (held : update before.challenges (toLowerCase asked) none wallet = some challenge) :
      before.challenges wallet = some challenge := by
    by_cases same : wallet = toLowerCase asked
    · rw [same, update_self] at held
      cases held
    · rwa [update_of_ne same] at held
  cases effect with
  | now => cases served; exact held
  | randomBytes => cases served; exact held
  | setChallenge asked nonce ttlSeconds =>
    cases served
    change update before.challenges (toLowerCase asked) _ wallet = some challenge at held
    rwa [update_of_ne (other asked nonce ttlSeconds rfl)] at held
  | getChallenge asked =>
    unfold serve at served
    dsimp only at served
    split at served
    · cases served; exact held
    · split at served
      · cases served; exact cleared asked held
      · cases served; exact held
  | deleteChallenge asked => cases served; exact cleared asked held
  | upsertProfile walletAddress role orgId =>
    rcases Fate.executed served with ⟨_, done, _⟩ | ⟨rfl, _⟩
    · unfold World.upsertProfile at done
      split at done
      · cases done; exact held
      · split at done <;> cases done
        exact held
    · exact held
  | insertSession sessionId profile issuedAt expiresAt =>
    rcases Fate.executed served with ⟨_, done, _⟩ | ⟨rfl, _⟩
    · obtain ⟨_, rfl⟩ := insertSession_eq_ok done
      exact held
    · exact held
  | revokeSession sessionId revokedAt =>
    rcases Fate.executed served with ⟨_, done, _⟩ | ⟨rfl, _⟩
    · cases done; exact held
    · exact held
  | findProfileById id =>
    obtain ⟨rfl, _⟩ := Fate.executed_read served
    exact held
  | findSessionById sessionId =>
    obtain ⟨rfl, _⟩ := Fate.executed_read served
    exact held

private theorem challenges_set (served : serve.serves before ⟨.setChallenge wallet nonce ttlSeconds, ()⟩ after)
    (held : after.challenges (toLowerCase wallet) = some challenge) : challenge.nonce = nonce := by
  obtain ⟨choice, served⟩ := served
  cases served
  change update before.challenges (toLowerCase wallet) _ _ = some challenge at held
  rw [update_self] at held
  cases held
  rfl

/-- A nonce that is told is in its slot, and stays there. -/
theorem getChallenge_answer (served : serve.serves before ⟨.getChallenge wallet, some nonce⟩ after) :
    after = before ∧ ∃ expiresAt, before.challenges (toLowerCase wallet) = some ⟨nonce, expiresAt⟩ := by
  obtain ⟨choice, served⟩ := served
  unfold serve at served
  dsimp only at served
  split at served
  · cases served
  · rename_i entry found
    split at served <;> cases served
    exact ⟨rfl, entry.expiresAt, found⟩

private theorem deleteChallenge_empty (served : serve.serves before ⟨.deleteChallenge wallet, ()⟩ after) :
    after.challenges (toLowerCase wallet) = none := by
  obtain ⟨choice, served⟩ := served
  cases served
  exact update_self ..

private theorem findSession_named (served : serve.serves before ⟨.findSessionById sessionId, .ok (some row)⟩ after) :
    row.sessionId = sessionId := by
  obtain ⟨choice, served⟩ := served
  rcases (Fate.executed_read served).2 with found | failed
  · exact session_named (Except.ok.inj found).symm
  · cases failed

theorem findProfile_named (served : serve.serves before ⟨.findProfileById profileId, .ok (some profile)⟩ after) :
    profile.id = profileId := by
  obtain ⟨choice, served⟩ := served
  rcases (Fate.executed_read served).2 with found | failed
  · have same : before.profile profileId = some profile := (Except.ok.inj found).symm
    simpa using List.find?_some same
  · cases failed

private theorem drift_challenges (drifted : before.Drifts after) (held : after.challenges wallet = some challenge) :
    before.challenges wallet = some challenge := by
  cases drifted with
  | purge challenges kept => exact kept wallet challenge held
  | deactivate => exact held

end Slots

/-- A step of the world at a time in milliseconds. -/
def At (entry : AppEntry) (time : Nat) : Prop :=
  ∃ pid event choice, entry.label = .perform pid event ∧ choice.time = time ∧
    serve choice entry.before.world event.effect = (event.answer, entry.after.world)

/-- The step sets a challenge of the wallet. -/
def Sets (wallet : String) (entry : AppEntry) : Prop :=
  ∃ pid nonce ttlSeconds answer, entry.label = .perform pid ⟨.setChallenge wallet nonce ttlSeconds, answer⟩

/-- The newest challenge of a wallet. -/
def Newest (history : AppHistory) (wallet nonce : String) (expiresAt : Nat) : Prop :=
  ∃ later entry earlier issuer, history = later ++ entry :: earlier ∧
    entry.label = .perform issuer ⟨.setChallenge wallet nonce challengeTtlSeconds, ()⟩ ∧
    (∀ recent ∈ later, ¬ Sets wallet recent) ∧ ∀ time, At entry time → expiresAt = time + challengeTtlSeconds * 1000

/-- Random bytes are drawn once. -/
def Drawn (bytes : String) : AppHistory → AppEntry → Prop :=
  Once fun event => event = ⟨.randomBytes, bytes⟩

/-- A login deletes a challenge at once after its look at it: it does not wait in between. -/
def Uninterrupted (earlier : AppHistory) (entry : AppEntry) : Prop :=
  ∀ pid wallet, entry.label = .perform pid ⟨.deleteChallenge wallet, ()⟩ →
    ∃ last rest event, earlier = last :: rest ∧ last.label = .perform pid event

section Runs

variable {settings : AppSettings} {history : AppHistory} {pool next : AppPool} {entry : AppEntry}

/-- Where the requests of a run stand. -/
abbrev stances (settings : AppSettings) (history : AppHistory) : Nat → Option Standing :=
  casting (standings settings.verifyMessage) Request.standing history

theorem run_past (run : (launched settings).system.Run history pool)
    (assigned : stances settings history pid = some standing) :
    ∃ request, Began history pid request ∧ standing.Past settings.verifyMessage request (eventsOf pid history) := by
  obtain ⟨request, began, traced⟩ := Server.casting_traced (launched_standing settings) run assigned
  refine ⟨request, began, traced_past traced ?_⟩
  intro sessionId found member
  obtain ⟨entry, present, label⟩ := made_iff.mpr member
  obtain ⟨later, earlier, _, _, taken, _⟩ := run.cut present
  rw [label] at taken
  obtain ⟨_, _, served, _⟩ := taken
  exact findSession_named served

/-- A call that a run has made was made where the request stood. -/
theorem made_past (run : (launched settings).system.Run history pool) (made : Made history pid event) :
    ∃ request standing, Began history pid request ∧ stances settings history pid = some standing ∧
      standing.Past settings.verifyMessage request (eventsOf pid history) := by
  obtain ⟨program, present⟩ := Option.ne_none_iff_exists'.mp (Server.made_running run made)
  obtain ⟨standing, assigned, _⟩ := (Server.run_casting (launched_standing settings) run).assigned present
  obtain ⟨request, began, past⟩ := run_past run assigned
  exact ⟨request, standing, began, assigned, past⟩

private theorem permits_set {standing : Standing}
    (permitted : standing.permits verifyMessage (.setChallenge wallet nonce ttlSeconds)) :
    standing = .drawn wallet nonce ∧ ttlSeconds = challengeTtlSeconds := by
  cases standing with
  | drawn =>
    obtain ⟨rfl, rfl, rfl⟩ := permitted
    exact ⟨rfl, rfl⟩
  | shown _ answer => cases answer <;> exact permitted.elim
  | _ => exact permitted.elim

theorem Request.Asks.lowered {request : Request} (asks : request.Asks wallet) : toLowerCase wallet = wallet := by
  obtain ⟨asked, _, rfl⟩ := asks
  exact toLowerCase_idempotent asked

private theorem Newest.later (newest : Newest history wallet nonce expiresAt) (other : ¬ Sets wallet entry) :
    Newest (entry :: history) wallet nonce expiresAt := by
  obtain ⟨later, set, earlier, issuer, rfl, label, recent, timed⟩ := newest
  refine ⟨entry :: later, set, earlier, issuer, rfl, label, ?_, timed⟩
  intro sooner member
  rcases List.mem_cons.mp member with rfl | member
  · exact other
  · exact recent sooner member

/-- A challenge in a slot was there before or is set for its wallet. -/
theorem slot_served (acts : (launched settings).Acts (standings settings.verifyMessage) Request.standing history pool
      pid event standing next) (held : next.world.challenges wallet = some challenge) :
    (pool.world.challenges wallet = some challenge ∧ ¬ Sets wallet ⟨pool, .perform pid event, next⟩) ∨
      (standing = .drawn wallet challenge.nonce ∧ toLowerCase wallet = wallet ∧
        event = ⟨.setChallenge wallet challenge.nonce challengeTtlSeconds, ()⟩) := by
  by_cases sets : ∃ asked nonce ttlSeconds, event.effect = .setChallenge asked nonce ttlSeconds
  · obtain ⟨asked, nonce, ttlSeconds, same⟩ := sets
    obtain ⟨effect, answer⟩ := event
    dsimp only at same
    subst same
    obtain ⟨rfl, rfl⟩ := permits_set acts.permitted
    obtain ⟨request, _, asks, _⟩ := run_past acts.run acts.assigned
    have lowered := asks.lowered
    by_cases mine : wallet = asked
    · subst mine
      have named : challenge.nonce = nonce := by
        apply challenges_set acts.served
        rwa [lowered]
      exact .inr ⟨by rw [named], lowered, by rw [named]⟩
    · refine .inl ⟨challenges_kept acts.served ?_ held, ?_⟩
      · rintro _ _ _ ⟨⟩
        rwa [lowered]
      · rintro ⟨_, _, _, _, label⟩
        cases label
        exact mine rfl
  · refine .inl ⟨challenges_kept acts.served ?_ held, ?_⟩
    · intro asked nonce ttlSeconds same
      exact absurd ⟨asked, nonce, ttlSeconds, same⟩ sets
    · rintro ⟨_, nonce, ttlSeconds, _, label⟩
      cases label
      exact sets ⟨wallet, nonce, ttlSeconds, rfl⟩

/-- The slot of a wallet holds its newest challenge. -/
theorem run_newest (run : (launched settings).system.Run history pool) :
    ∀ wallet challenge, pool.world.challenges wallet = some challenge →
      Newest history wallet challenge.nonce challenge.expiresAt := by
  apply Server.run_kept (launched_standing settings) ?_ ?_ ?_ ?_ run throughout_trivial
  · intro pool initial wallet challenge held
    rw [initial.1 wallet] at held
    cases held
  · intro history pool pid request next _ _ _ taken before wallet challenge held
    rw [(Server.started taken).1] at held
    refine (before wallet challenge held).later ?_
    rintro ⟨_, _, _, _, label⟩
    cases label
  · intro history pool pid event standing next acts _ before wallet challenge held
    rcases slot_served acts held with ⟨sooner, other⟩ | ⟨_, lowered, rfl⟩
    · exact (before wallet challenge sooner).later other
    · refine ⟨[], _, history, pid, rfl, rfl, fun _ member => absurd member List.not_mem_nil, ?_⟩
      rintro time ⟨pid', event, choice, label, rfl, served⟩
      cases label
      have set := congrArg (fun result => result.2.challenges wallet) served
      change update pool.world.challenges (toLowerCase wallet) _ wallet = next.world.challenges wallet at set
      rw [lowered, update_self, held, Option.some.injEq] at set
      rw [← set]
  · intro history pool next _ _ taken before wallet challenge held
    refine (before wallet challenge (drift_challenges taken.1 held)).later ?_
    rintro ⟨_, _, _, _, label⟩
    cases label

/-- A challenge was set by the one request that its nonce was drawn for. -/
theorem Past.set {request : Request} {standing : Standing} (past : standing.Past verifyMessage request events)
    (member : ⟨.setChallenge wallet nonce ttlSeconds, answer⟩ ∈ events) :
    ttlSeconds = challengeTtlSeconds ∧ request.Asks wallet ∧
      events = [⟨.setChallenge wallet nonce challengeTtlSeconds, ()⟩, ⟨.randomBytes, nonce⟩] := by
  cases standing with
  | asking =>
    obtain ⟨_, rfl⟩ := past
    cases member
  | drawn =>
    obtain ⟨_, rfl⟩ := past
    cases (List.mem_singleton.mp member)
  | given =>
    obtain ⟨asks, rfl⟩ := past
    rcases List.mem_cons.mp member with same | member
    · cases same
      exact ⟨rfl, asks, rfl⟩
    · cases (List.mem_singleton.mp member)
  | arriving =>
    obtain ⟨_, rfl⟩ := past
    cases member
  | shown =>
    obtain ⟨_, _, _, _, _, rfl⟩ := past
    cases (List.mem_singleton.mp member)
  | proven =>
    obtain ⟨_, _, _, _, rfl⟩ := past
    rcases List.mem_cons.mp member with same | member
    · cases same
    · cases (List.mem_singleton.mp member)
  | admitted => exact absurd rfl (past.2.1 _ member _ _ _)
  | stored => exact absurd rfl (past.2.1 _ member _ _ _)
  | bearing => exact absurd rfl (past.2.2.1 _ member _ _ _)
  | vouched => exact absurd rfl (past.2.2.1 _ member _ _ _)
  | exchanged => exact absurd rfl (past.2.2.1 _ member _ _ _)

theorem made_set (run : (launched settings).system.Run history pool)
    (made : Made history pid ⟨.setChallenge wallet nonce ttlSeconds, answer⟩) :
    (∃ request, Began history pid request ∧ request.Asks wallet) ∧
      eventsOf pid history = [⟨.setChallenge wallet nonce challengeTtlSeconds, ()⟩, ⟨.randomBytes, nonce⟩] := by
  obtain ⟨request, standing, began, _, past⟩ := made_past run made
  obtain ⟨_, asks, events⟩ := Past.set past (made_iff.mp made)
  exact ⟨⟨request, began, asks⟩, events⟩

/-- A nonce is set once. -/
theorem set_once (run : (launched settings).system.Run history pool)
    (drawn : ∀ bytes, Throughout (Drawn bytes) history)
    (first : Made history pid ⟨.setChallenge wallet nonce ttlSeconds, answer⟩)
    (second : Made history other ⟨.setChallenge wallet' nonce ttlSeconds', answer'⟩) :
    pid = other ∧ wallet = wallet' := by
  obtain ⟨_, events⟩ := made_set run first
  obtain ⟨_, events'⟩ := made_set run second
  have draws : Made history pid ⟨.randomBytes, nonce⟩ := by
    rw [made_iff, events]
    simp
  have draws' : Made history other ⟨.randomBytes, nonce⟩ := by
    rw [made_iff, events']
    simp
  obtain ⟨rfl, _⟩ := made_once (drawn nonce) draws rfl draws' rfl
  rw [events, List.cons.injEq] at events'
  cases events'.1
  exact ⟨rfl, rfl⟩

/-- A login was told a nonce, the newest of its wallet, before it expired. -/
def Told (history : AppHistory) (pid : Nat) (wallet nonce : String) : Prop :=
  ∃ later look between set earlier issuer asker, history = later ++ look :: (between ++ set :: earlier) ∧
    look.label = .perform pid ⟨.getChallenge wallet, some nonce⟩ ∧
    set.label = .perform issuer ⟨.setChallenge wallet nonce challengeTtlSeconds, ()⟩ ∧
    Began history issuer asker ∧ asker.Asks wallet ∧ (∀ entry ∈ between, ¬ Sets wallet entry) ∧
    ∀ issuedAt time, At set issuedAt → At look time → time < issuedAt + challengeTtlSeconds * 1000

private theorem made_told (run : (launched settings).system.Run history pool) (lowered : toLowerCase wallet = wallet)
    (made : Made history pid ⟨.getChallenge wallet, some nonce⟩) : Told history pid wallet nonce := by
  obtain ⟨look, member, label⟩ := made
  obtain ⟨later, sooner, rfl, before, taken, _⟩ := run.cut member
  rw [label] at taken
  obtain ⟨_, _, served, _⟩ := taken
  obtain ⟨_, expiresAt, held⟩ := getChallenge_answer served
  rw [lowered] at held
  obtain ⟨between, set, earlier, issuer, rfl, set_label, recent, timed⟩ := run_newest before wallet _ held
  have set_made : Made (later ++ look :: (between ++ set :: earlier)) issuer
      ⟨.setChallenge wallet nonce challengeTtlSeconds, ()⟩ := ⟨set, by simp, set_label⟩
  obtain ⟨⟨asker, began, asks⟩, _⟩ := made_set run set_made
  refine ⟨later, look, between, set, earlier, issuer, asker, rfl, label, set_label, began, asks, recent, ?_⟩
  intro issuedAt time at_set at_look
  have expiry : expiresAt = issuedAt + challengeTtlSeconds * 1000 := timed issuedAt at_set
  obtain ⟨pid', event, choice, label', rfl, looked⟩ := at_look
  cases label.symm.trans label'
  dsimp only at looked
  unfold serve at looked
  dsimp only at looked
  rw [lowered, held] at looked
  dsimp only at looked
  split at looked
  · cases looked
  · rename_i unexpired
    omega

/-- The nonce was used up where a request stands. -/
def Standing.Spent : Standing → String → Prop
  | .proven _ spent, nonce => spent = nonce
  | .admitted _ spent _, nonce => spent = nonce
  | .stored _ spent, nonce => spent = nonce
  | _, _ => False

private theorem Past.spent {request : Request} {standing : Standing} (past : standing.Past verifyMessage request events)
    (spent : standing.Spent nonce) :
    ∃ wallet, ⟨.getChallenge wallet, some nonce⟩ ∈ events ∧ toLowerCase wallet = wallet := by
  cases standing with
  | proven body same =>
    obtain rfl := spent
    obtain ⟨_, wallet, role, ⟨walletAddress, _, _, rfl, _⟩, rfl⟩ := past
    exact ⟨_, by simp, toLowerCase_idempotent walletAddress⟩
  | admitted body same profile =>
    obtain rfl := spent
    obtain ⟨_, _, _, wallet, role, _, _, _, ⟨walletAddress, _, _, rfl, _⟩, looked, _⟩ := past
    exact ⟨_, looked.1, toLowerCase_idempotent walletAddress⟩
  | stored body same =>
    obtain rfl := spent
    obtain ⟨_, _, wallet, role, ⟨walletAddress, _, _, rfl, _⟩, looked, _⟩ := past
    exact ⟨_, looked.1, toLowerCase_idempotent walletAddress⟩
  | _ => exact spent.elim

private theorem spent_set (run : (launched settings).system.Run history pool)
    (assigned : stances settings history pid = some standing) (spent : standing.Spent nonce) :
    ∃ wallet issuer, Made history issuer ⟨.setChallenge wallet nonce challengeTtlSeconds, ()⟩ := by
  obtain ⟨request, began, past⟩ := run_past run assigned
  obtain ⟨wallet, told, lowered⟩ := Past.spent past spent
  obtain ⟨_, _, _, set, _, issuer, _, rfl, _, label, _⟩ := made_told run lowered (made_iff.mpr told)
  exact ⟨wallet, issuer, set, by simp, label⟩

/-- The nonces that logins use up. -/
structure Guarded (settings : AppSettings) (history : AppHistory) (pool : AppPool) : Prop where
  /-- What a login has just looked at is still there. -/
  looked : ∀ last rest pid event body nonce wallet role, history = last :: rest → last.label = .perform pid event →
    stances settings history pid = some (.shown body (some nonce)) →
      Signs settings.verifyMessage body wallet nonce role →
        ∃ expiresAt, pool.world.challenges wallet = some ⟨nonce, expiresAt⟩
  /-- What is used up is in no slot. -/
  gone : ∀ pid standing nonce, stances settings history pid = some standing → standing.Spent nonce →
    ∀ wallet challenge, pool.world.challenges wallet = some challenge → challenge.nonce ≠ nonce
  alone : ∀ pid other standing standing' nonce, stances settings history pid = some standing → standing.Spent nonce →
    stances settings history other = some standing' → standing'.Spent nonce → pid = other

private theorem spent_after {standing : Standing} {event : Event Effect Answer}
    (permitted : standing.permits verifyMessage event.effect)
    (spent : (standing.after event.effect event.answer).Spent nonce) :
    standing.Spent nonce ∨ ∃ body, standing = .shown body (some nonce) := by
  obtain ⟨effect, answer⟩ := event
  cases standing with
  | shown body answer' =>
    cases answer' with
    | none => exact permitted.elim
    | some told =>
      cases effect with
      | deleteChallenge =>
        obtain rfl := spent
        exact .inr ⟨body, rfl⟩
      | _ => exact permitted.elim
  | proven body used =>
    cases effect with
    | upsertProfile => cases answer <;> exact .inl spent
    | _ => exact permitted.elim
  | admitted body used profile =>
    cases effect with
    | insertSession => exact .inl spent
    | now => exact .inl spent
    | randomBytes => exact .inl spent
    | _ => exact permitted.elim
  | stored body used =>
    cases effect with
    | now => exact .inl spent
    | _ => exact permitted.elim
  | bearing held row time =>
    cases effect with
    | findSessionById => exact spent.elim
    | now => exact spent.elim
    | revokeSession => exact spent.elim
    | findProfileById => exact spent.elim
    | _ => exact permitted.elim
  | vouched held profile =>
    cases effect with
    | now => exact spent.elim
    | randomBytes => exact spent.elim
    | insertSession => exact spent.elim
    | _ => exact permitted.elim
  | exchanged held =>
    cases effect with
    | now => exact spent.elim
    | revokeSession => exact spent.elim
    | _ => exact permitted.elim
  | asking wallet =>
    cases effect with
    | randomBytes => exact spent.elim
    | _ => exact permitted.elim
  | drawn wallet drew =>
    cases effect with
    | setChallenge => exact spent.elim
    | _ => exact permitted.elim
  | given => exact permitted.elim
  | arriving body =>
    cases effect with
    | getChallenge => exact spent.elim
    | _ => exact permitted.elim

/-- A login looks at a challenge in one call. -/
theorem shown_after {standing : Standing} {event : Event Effect Answer}
    (permitted : standing.permits verifyMessage event.effect)
    (shown : standing.after event.effect event.answer = .shown body (some nonce)) :
    ∃ wallet walletAddress signature role, event = ⟨.getChallenge wallet, some nonce⟩ ∧
      readLogin body = .ok (walletAddress, signature, role) ∧ wallet = toLowerCase walletAddress := by
  obtain ⟨effect, answer⟩ := event
  cases standing with
  | arriving =>
    cases effect with
    | getChallenge wallet =>
      cases shown
      obtain ⟨walletAddress, signature, role, read, lowered⟩ := permitted
      exact ⟨wallet, walletAddress, signature, role, rfl, read, lowered⟩
    | _ => exact permitted.elim
  | shown _ told =>
    cases told with
    | none => exact permitted.elim
    | some _ =>
      cases effect with
      | deleteChallenge => cases shown
      | _ => exact permitted.elim
  | proven =>
    cases effect with
    | upsertProfile => cases answer <;> cases shown
    | _ => exact permitted.elim
  | bearing => cases effect <;> first | exact permitted.elim | cases shown
  | asking => cases effect <;> first | exact permitted.elim | cases shown
  | drawn => cases effect <;> first | exact permitted.elim | cases shown
  | admitted => cases effect <;> first | exact permitted.elim | cases shown
  | stored => cases effect <;> first | exact permitted.elim | cases shown
  | vouched => cases effect <;> first | exact permitted.elim | cases shown
  | exchanged => cases effect <;> first | exact permitted.elim | cases shown
  | given => exact permitted.elim

private theorem standing_unspent (request : Request) : ¬ request.standing.Spent nonce := by
  cases request with
  | getChallenge asked => cases asked <;> exact id
  | _ => exact id

/-- A nonce that was just drawn is not used up. -/
theorem drawn_unspent (run : (launched settings).system.Run history pool)
    (drawn : ∀ bytes, Throughout (Drawn bytes) history)
    (assigned : stances settings history pid = some (.drawn wallet nonce))
    (assigned' : stances settings history other = some standing) : ¬ standing.Spent nonce := by
  intro spent
  obtain ⟨_, issuer, made⟩ := spent_set run assigned' spent
  obtain ⟨_, _, _, events⟩ := run_past run assigned
  obtain ⟨_, events'⟩ := made_set run made
  have draws : Made history pid ⟨.randomBytes, nonce⟩ := by
    rw [made_iff, events]
    simp
  have draws' : Made history issuer ⟨.randomBytes, nonce⟩ := by
    rw [made_iff, events']
    simp
  obtain ⟨rfl, _⟩ := made_once (drawn nonce) draws rfl draws' rfl
  rw [events, List.cons.injEq] at events'
  cases events'.1

private theorem Newest.made (newest : Newest history wallet nonce expiresAt) :
    ∃ issuer, Made history issuer ⟨.setChallenge wallet nonce challengeTtlSeconds, ()⟩ := by
  obtain ⟨later, set, earlier, issuer, rfl, label, _⟩ := newest
  exact ⟨issuer, set, by simp, label⟩

private theorem slot_alone (run : (launched settings).system.Run history pool)
    (drawn : ∀ bytes, Throughout (Drawn bytes) history) (held : pool.world.challenges wallet = some challenge)
    (held' : pool.world.challenges wallet' = some challenge') (same : challenge.nonce = challenge'.nonce) :
    wallet = wallet' := by
  obtain ⟨_, made⟩ := (run_newest run wallet challenge held).made
  obtain ⟨_, made'⟩ := (run_newest run wallet' challenge' held').made
  rw [← same] at made'
  exact (set_once run drawn made made').2

/-- The conditions of a run. -/
def Sound (earlier : AppHistory) (entry : AppEntry) : Prop :=
  Uninterrupted earlier entry ∧ ∀ bytes, Drawn bytes earlier entry

private theorem sound_drawn (sound : Throughout Sound history) (bytes : String) : Throughout (Drawn bytes) history :=
  fun later entry earlier same => (sound later entry earlier same).2 bytes

/-- What a login has looked at is still there when it deletes it. -/
theorem Guarded.deletes (guarded : Guarded settings history pool)
    (uninterrupted : Uninterrupted history ⟨pool, .perform pid ⟨.deleteChallenge wallet, ()⟩, next⟩)
    (assigned : stances settings history pid = some (.shown body (some nonce)))
    (signs : Signs settings.verifyMessage body wallet nonce role) :
    ∃ expiresAt, pool.world.challenges wallet = some ⟨nonce, expiresAt⟩ := by
  obtain ⟨last, rest, event, rfl, label⟩ := uninterrupted pid wallet rfl
  exact guarded.looked last rest pid event body nonce wallet role rfl label assigned signs

/-- What is in a slot after a call was in it before, or is a nonce that was just drawn. -/
theorem Guarded.absent (guarded : Guarded settings history pool) (drawn : ∀ bytes, Throughout (Drawn bytes) history)
    (acts : (launched settings).Acts (standings settings.verifyMessage) Request.standing history pool pid event
      standing next)
    (assigned : stances settings history other = some standing') (spent : standing'.Spent nonce)
    (held : next.world.challenges wallet = some challenge) : challenge.nonce ≠ nonce := by
  rcases slot_served acts held with ⟨before, _⟩ | ⟨rfl, _, rfl⟩
  · exact guarded.gone other standing' nonce assigned spent wallet challenge before
  · rintro rfl
    exact drawn_unspent acts.run drawn acts.assigned assigned spent

/-- A deletion uses up a nonce that nobody has used up, and empties its slot. -/
theorem Guarded.uses (guarded : Guarded settings history pool) (drawn : ∀ bytes, Throughout (Drawn bytes) history)
    (acts : (launched settings).Acts (standings settings.verifyMessage) Request.standing history pool pid event
      (.shown body (some nonce)) next) (uninterrupted : Uninterrupted history ⟨pool, .perform pid event, next⟩) :
    (∀ other standing, stances settings history other = some standing → ¬ standing.Spent nonce) ∧
      ∀ wallet challenge, next.world.challenges wallet = some challenge → challenge.nonce ≠ nonce := by
  obtain ⟨effect, answer⟩ := event
  cases effect with
  | deleteChallenge wallet =>
    obtain ⟨role, signs⟩ := acts.permitted
    obtain ⟨walletAddress, _, _, lowered, _⟩ := id signs
    obtain ⟨expiresAt, there⟩ := guarded.deletes uninterrupted acts.assigned signs
    constructor
    · intro other standing assigned spent
      exact guarded.gone other standing nonce assigned spent wallet _ there rfl
    · intro wallet' challenge held named
      rcases slot_served acts held with ⟨before, _⟩ | ⟨_, _, other⟩
      · have same := slot_alone acts.run drawn before there named
        have empty := deleteChallenge_empty acts.served
        rw [← lowered, toLowerCase_idempotent, lowered, ← same, held] at empty
        cases empty
      · cases other
  | _ => exact acts.permitted.elim

private theorem run_guarded (run : (launched settings).system.Run history pool) (sound : Throughout Sound history) :
    Guarded settings history pool := by
  -- Carried along: the bytes drawn so far are distinct.
  suffices both : Throughout Sound history ∧ Guarded settings history pool from both.2
  apply Server.run_kept (launched_standing settings) ?_ ?_ ?_ ?_ run sound
  · intro pool _
    refine ⟨fun later entry earlier same => ?_, ?_, ?_, ?_⟩
    · exact absurd same.symm (by simp)
    · intro last rest _ _ _ _ _ _ same
      cases same
    · intro pid standing nonce assigned
      cases assigned
    · intro pid other standing standing' nonce assigned
      cases assigned
  · intro history pool pid request next run allowed absent taken before
    obtain ⟨sound, guarded⟩ := before
    refine ⟨sound.push allowed, ?_, ?_, ?_⟩
    · intro last rest pid' event _ _ _ _ same label
      cases same
      cases label
    · intro other standing nonce assigned spent wallet challenge held
      rw [(Server.started taken).1] at held
      rw [stances, casting_start] at assigned
      rcases update_assigned assigned with ⟨_, rfl⟩ | ⟨_, assigned⟩
      · exact absurd spent (standing_unspent request)
      · exact guarded.gone other standing nonce assigned spent wallet challenge held
    · intro other other' standing standing' nonce assigned spent assigned' spent'
      rw [stances, casting_start] at assigned assigned'
      rcases update_assigned assigned with ⟨_, rfl⟩ | ⟨_, assigned⟩
      · exact absurd spent (standing_unspent request)
      · rcases update_assigned assigned' with ⟨_, rfl⟩ | ⟨_, assigned'⟩
        · exact absurd spent' (standing_unspent request)
        · exact guarded.alone other other' standing standing' nonce assigned spent assigned' spent'
  · intro history pool pid event standing next acts allowed before
    obtain ⟨sound, guarded⟩ := before
    have drawn := sound_drawn sound
    have uses : ∀ body nonce, standing = .shown body (some nonce) → _ := fun body nonce same =>
      Guarded.uses guarded drawn (same ▸ acts) allowed.1
    refine ⟨sound.push allowed, ?_, ?_, ?_⟩
    · intro last rest pid' event' body nonce wallet role same label assigned signs
      cases same
      cases label
      rw [stances, casting_perform acts.assigned, update_self, Option.some.injEq] at assigned
      obtain ⟨wallet', walletAddress, _, _, rfl, read, rfl⟩ := shown_after acts.permitted assigned
      obtain ⟨same, expiresAt, held⟩ := getChallenge_answer acts.served
      obtain ⟨rfl, _⟩ := signs.read read
      rw [toLowerCase_idempotent] at held
      exact ⟨expiresAt, same ▸ held⟩
    · intro other standing' nonce assigned spent wallet challenge held
      rw [stances, casting_perform acts.assigned] at assigned
      rcases update_assigned assigned with ⟨rfl, rfl⟩ | ⟨_, assigned⟩
      · rcases spent_after acts.permitted spent with spent | ⟨body, rfl⟩
        · exact guarded.absent drawn acts acts.assigned spent held
        · exact (uses body nonce rfl).2 wallet challenge held
      · exact guarded.absent drawn acts assigned spent held
    · intro other other' standing' standing'' nonce assigned spent assigned' spent'
      rw [stances, casting_perform acts.assigned] at assigned assigned'
      rcases update_assigned assigned with ⟨rfl, rfl⟩ | ⟨_, sooner⟩
      · rcases update_assigned assigned' with ⟨rfl, rfl⟩ | ⟨_, sooner'⟩
        · rfl
        · rcases spent_after acts.permitted spent with spent | ⟨body, rfl⟩
          · exact guarded.alone _ other' _ standing'' nonce acts.assigned spent sooner' spent'
          · exact absurd spent' ((uses body nonce rfl).1 other' standing'' sooner')
      · rcases update_assigned assigned' with ⟨rfl, rfl⟩ | ⟨_, sooner'⟩
        · rcases spent_after acts.permitted spent' with spent' | ⟨body, rfl⟩
          · exact guarded.alone other _ standing' _ nonce sooner spent acts.assigned spent'
          · exact absurd spent ((uses body nonce rfl).1 other standing' sooner)
        · exact guarded.alone other other' standing' standing'' nonce sooner spent sooner' spent'
  · intro history pool next run allowed taken before
    obtain ⟨sound, guarded⟩ := before
    refine ⟨sound.push allowed, ?_, ?_, ?_⟩
    · intro last rest pid' event _ _ _ _ same label
      cases same
      cases label
    · intro other standing nonce assigned spent wallet challenge held
      exact guarded.gone other standing nonce assigned spent wallet challenge (drift_challenges taken.1 held)
    · intro other other' standing standing' nonce assigned spent assigned' spent'
      exact guarded.alone other other' standing standing' nonce assigned spent assigned' spent'

/-- Sessions are stored where a request has logged in or refreshed. -/
theorem Past.inserts {request : Request} {standing : Standing} {event : Event Effect Answer}
    (past : standing.Past verifyMessage request events) (member : event ∈ events)
    (inserts : event.effect = .insertSession sessionId profile issuedAt expiresAt) :
    (∃ body nonce, standing = .stored body nonce) ∨ ∃ held, standing = .exchanged held := by
  cases standing with
  | stored body nonce => exact .inl ⟨body, nonce, rfl⟩
  | exchanged held => exact .inr ⟨held, rfl⟩
  | admitted => exact absurd inserts (past.2.2.1 _ member _ _ _ _)
  | bearing => exact absurd inserts (past.2.2.2.1 _ member _ _ _ _)
  | vouched => exact absurd inserts (past.2.2.2.1 _ member _ _ _ _)
  | asking =>
    rw [past.2] at member
    cases member
  | arriving =>
    rw [past.2] at member
    cases member
  | drawn =>
    rw [past.2, List.mem_singleton] at member
    subst member
    cases inserts
  | shown =>
    obtain ⟨_, _, _, _, _, rfl⟩ := past
    rw [List.mem_singleton] at member
    subst member
    cases inserts
  | given =>
    rw [past.2] at member
    rcases List.mem_pair.mp member with rfl | rfl <;> cases inserts
  | proven =>
    obtain ⟨_, _, _, _, rfl⟩ := past
    rcases List.mem_pair.mp member with rfl | rfl <;> cases inserts

/-- A login with its wallet's signature of a nonce that it was told. -/
def LogsIn (settings : AppSettings) (history : AppHistory) (pid : Nat) (profile : UserProfile) (nonce : String) :
    Prop :=
  ∃ body, Began history pid (.postLogin body) ∧
    Signs settings.verifyMessage body profile.walletAddress nonce profile.role ∧
    Told history pid profile.walletAddress nonce

/-- A refresh with the token of a session that it saw live, of a profile that it saw. -/
def Refreshes (history : AppHistory) (pid : Nat) (profile : UserProfile) : Prop :=
  ∃ authorization row time, Began history pid (.postRefresh authorization) ∧
    readBearer authorization = .ok row.sessionId ∧ Made history pid ⟨.findSessionById row.sessionId, .ok (some row)⟩ ∧
    Made history pid ⟨.now, time⟩ ∧ row.Live time ∧ profile.id = row.userId ∧
    Made history pid ⟨.findProfileById row.userId, .ok (some profile)⟩

/-- A login was told a nonce and stored a session. -/
def Redeems (history : AppHistory) (pid : Nat) (nonce : String) (event : Event Effect Answer) : Prop :=
  (∃ body, Began history pid (.postLogin body)) ∧ (∃ wallet, Made history pid ⟨.getChallenge wallet, some nonce⟩) ∧
    Made history pid event ∧
    ∃ sessionId profile issuedAt expiresAt, event.effect = .insertSession sessionId profile issuedAt expiresAt

private theorem made_vouched (run : (launched settings).system.Run history pool)
    (made : Made history pid ⟨.insertSession sessionId profile issuedAt expiresAt, answer⟩) :
    profile.active ∧ ((∃ nonce, LogsIn settings history pid profile nonce) ∨ Refreshes history pid profile) := by
  obtain ⟨request, standing, began, _, past⟩ := made_past run made
  rw [made_iff] at made
  have served {event : Event Effect Answer} (member : event ∈ eventsOf pid history) :
      ∃ before after, serve.serves before event after := by
    obtain ⟨entry, present, label⟩ := made_iff.mpr member
    obtain ⟨_, _, _, _, taken, _⟩ := run.cut present
    rw [label] at taken
    obtain ⟨_, _, served, _⟩ := taken
    exact ⟨_, _, served⟩
  rcases Past.inserts past made rfl with ⟨body, nonce, rfl⟩ | ⟨held, rfl⟩
  · obtain ⟨rfl, _, wallet, role, _, looked, once⟩ := past
    obtain ⟨active, ⟨_, orgId, same, signs, _, given⟩, _⟩ := once _ _ _ _ _ made
    cases same
    obtain ⟨_, _, upserted⟩ := served given
    obtain ⟨rfl, rfl⟩ := upsert_answer upserted
    obtain ⟨walletAddress, _, _, lowered, _⟩ := id signs
    have told : Told history pid profile.walletAddress nonce := by
      apply made_told run _ (made_iff.mpr looked.1)
      rw [← lowered, toLowerCase_idempotent]
    exact ⟨active, .inl ⟨nonce, body, began, signs, told⟩⟩
  · obtain ⟨rfl, _, _, once⟩ := past
    obtain ⟨active, row, time, authorization, rfl, token, found, read, live, given⟩ := once _ _ _ _ _ made
    obtain ⟨_, _, found_profile⟩ := served given
    exact ⟨active, .inr ⟨authorization, row, time, began, token, made_iff.mpr found, made_iff.mpr read, live,
      findProfile_named found_profile, made_iff.mpr given⟩⟩

theorem redeems_stored (run : (launched settings).system.Run history pool) (redeems : Redeems history pid nonce event) :
    ∃ body, stances settings history pid = some (.stored body nonce) ∧
      ∀ other ∈ eventsOf pid history, ∀ sessionId profile issuedAt expiresAt,
        other.effect = .insertSession sessionId profile issuedAt expiresAt → other = event := by
  obtain ⟨⟨body, began⟩, ⟨wallet, told⟩, made, sessionId, profile, issuedAt, expiresAt, inserts⟩ := redeems
  obtain ⟨request, standing, began', assigned, past⟩ := made_past run made
  cases Server.began_unique run began began'
  rw [made_iff] at told made
  rcases Past.inserts past made inserts with ⟨body', nonce', rfl⟩ | ⟨held, rfl⟩
  · obtain ⟨_, _, _, _, _, looked, once⟩ := past
    cases looked.2 _ told wallet rfl
    obtain ⟨effect, answer⟩ := event
    dsimp only at inserts
    subst inserts
    exact ⟨_, assigned, (once _ _ _ _ _ made).2.2⟩
  · exact absurd rfl (past.2.1 body)

/-- Whatever the interleaving of the requests: a session is stored for a login whose wallet
signed the newest challenge that was set for it, within the lifetime of it, or for a
refresh with the token of a live session, each of an active profile; and no two sessions
are stored for logins that were told one nonce. -/
theorem sessions_vouched (run : (launched settings).system.Run history pool) (sound : Throughout Sound history) :
    (∀ pid sessionId profile issuedAt expiresAt answer,
      Made history pid ⟨.insertSession sessionId profile issuedAt expiresAt, answer⟩ →
        profile.active ∧ ((∃ nonce, LogsIn settings history pid profile nonce) ∨ Refreshes history pid profile)) ∧
      ∀ pid other nonce event event', Redeems history pid nonce event → Redeems history other nonce event' →
        pid = other ∧ event = event' := by
  refine ⟨fun pid sessionId profile issuedAt expiresAt answer made => made_vouched run made, ?_⟩
  intro pid other nonce event event' redeems redeems'
  obtain ⟨body, assigned, once⟩ := redeems_stored run redeems
  obtain ⟨body', assigned', _⟩ := redeems_stored run redeems'
  obtain rfl := (run_guarded run sound).alone pid other _ _ nonce assigned rfl assigned' rfl
  obtain ⟨_, _, made', _, _, _, _, inserts⟩ := redeems'
  exact ⟨rfl, (once event' (made_iff.mp made') _ _ _ _ inserts).symm⟩

end Runs

section Examples

/-- The random bytes are the nonce, the id of the first session and the id of the second. -/
def loginScript (time : Nat) : Choice :=
  ⟨.acknowledged, 1000000 + time, if time = 1 then holderNonce else if time < 12 then "5e55" else "7a77"⟩

/-- A challenge, a login, a replay of it and a refresh. -/
def loginCues : List (Cue Request) :=
  [.start 0 (.getChallenge (some holder)), .go 0 2,
    .start 1 (.postLogin ⟨some holder, some holderSignature, some "buyer", none, none⟩), .go 1 7,
    .start 2 (.postLogin ⟨some holder, some holderSignature, some "buyer", none, none⟩), .go 2 1,
    .start 3 (.postRefresh (some "Bearer 5e55")), .go 3 11]

/-- The bytes that a step draws. -/
def draws (entry : AppEntry) : Option String :=
  match entry.label with
  | .perform _ ⟨.randomBytes, bytes⟩ => some bytes
  | _ => none

/-- New bytes, and a deletion right after a call of its own. -/
def soundStep (earlier : AppHistory) (entry : AppEntry) : Bool :=
  ((draws entry).all fun bytes => !(earlier.filterMap draws).contains bytes) &&
    match entry.label with
    | .perform pid ⟨.deleteChallenge _, _⟩ =>
      match earlier with
      | ⟨_, .perform other _, _⟩ :: _ => decide (other = pid)
      | _ => false
    | _ => true

private theorem sound_of_soundStep (check : soundStep earlier entry = true) : Sound earlier entry := by
  unfold soundStep at check
  rw [Bool.and_eq_true] at check
  constructor
  · rintro pid wallet label
    have last := check.2
    rw [label] at last
    dsimp only at last
    split at last
    · rename_i other event after rest
      exact ⟨_, rest, event, rfl, by rw [of_decide_eq_true last]⟩
    · cases last
  · rintro bytes pid _ label rfl other _ ⟨sooner, member, label'⟩ rfl
    have fresh := check.1
    rw [draws, label] at fresh
    simp only [Option.all_some, Bool.not_eq_true', List.contains_eq_mem, decide_eq_false_iff_not] at fresh
    exact fresh (List.mem_filterMap.mpr ⟨sooner, member, by rw [draws, label']⟩)

/-- A wallet logs in once with its signature, which is no use again, and refreshes. -/
theorem sessions_vouched_once : ∃ (history : AppHistory) (pool : AppPool),
    (launched holderSettings).system.Run history pool ∧ Throughout Sound history ∧
      (pool.world.sessions.map fun row => (row.sessionId, row.role)) = [("7a77", .buyer), ("5e55", .buyer)] ∧
      (∀ pid sessionId profile issuedAt expiresAt answer,
        Made history pid ⟨.insertSession sessionId profile issuedAt expiresAt, answer⟩ → profile.active) ∧
      ∀ pid other nonce event event', Redeems history pid nonce event → Redeems history other nonce event' →
        pid = other ∧ event = event' := by
  obtain ⟨recording, run, checked⟩ :=
    (launched holderSettings).record_run serve loginScript holderWorld loginCues
      (fun recording => checkEach soundStep recording.history &&
        decide ((recording.pool.world.sessions.map fun row => (row.sessionId, row.role)) =
          [("7a77", .buyer), ("5e55", .buyer)]))
      rfl (fun _ => rfl) (by decide +kernel)
  rw [Bool.and_eq_true] at checked
  have sound : Throughout Sound recording.history :=
    throughout_of_checkEach (fun _ _ => sound_of_soundStep) checked.1
  obtain ⟨vouched, once⟩ := sessions_vouched run sound
  exact ⟨recording.history, recording.pool, run, sound, of_decide_eq_true checked.2,
    fun pid sessionId profile issuedAt expiresAt answer made => (vouched _ _ _ _ _ _ made).1, once⟩

end Examples

end Agroasys.Auth
