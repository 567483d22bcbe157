import Agroasys.Notifications.Notifier
import Mathlib.Tactic.Linarith

namespace Agroasys.Notifications

open Function Agroasys.Foundation

section Deliveries

/-- A call of the key is answered by a response of the 200 class. -/
def DeliveredBy (pid : Nat) (dedupKey : String) (entry : NotifierEntry) : Prop :=
  ∃ webhookUrl payload timeoutMs delivery,
    entry.label = .perform pid ⟨.fetch dedupKey webhookUrl payload timeoutMs, delivery⟩ ∧
      Delivery.ok delivery = true

/-- A call finds its key free. -/
def PassedBy (pid : Nat) (dedupKey : String) (entry : NotifierEntry) : Prop :=
  entry.label = .perform pid ⟨.isInCooldown dedupKey, false⟩

/-- Deliveries of one key are apart. -/
def Apart (cooldownMs : ℚ) (history : NotifierHistory) : Prop :=
  history.Pairwise fun second first => ∀ dedupKey pid other,
    DeliveredBy pid dedupKey second → DeliveredBy other dedupKey first →
      cooldownMs ≤ ((second.before.world.now - first.before.world.now : ℤ) : ℚ)

/-- What was delivered for the key of a delivery had been recorded when its call found the key free,
and nothing is recorded at the time zero. -/
structure Single (history : NotifierHistory) (entry : NotifierEntry) : Prop where
  recorded : ∀ pid dedupKey, DeliveredBy pid dedupKey entry →
    ∀ recent check before, history = recent ++ check :: before → PassedBy pid dedupKey check →
      ∀ other, ∀ delivery ∈ history, DeliveredBy other dedupKey delivery →
        Made before other ⟨.markSent dedupKey, ()⟩
  timed : ∀ pid dedupKey, entry.label = .perform pid ⟨.markSent dedupKey, ()⟩ → entry.before.world.now ≠ 0

end Deliveries

section Stages

/-- How far a call for a key is. -/
inductive Stage where
  | checking (dedupKey : String)
  | delivering (dedupKey : String)
  | delivered (dedupKey : String)
  | closed
  deriving DecidableEq

def stages : Protocol Effect Answer Stage where
  permits
    | .checking dedupKey, .isInCooldown key => key = dedupKey
    | .delivering dedupKey, .fetch key _ _ _ => key = dedupKey
    | .delivering _, .sleep _ => True
    | .delivered dedupKey, .markSent key => key = dedupKey
    | _, _ => False
  after
    | .checking dedupKey, .isInCooldown _, suppressed => if suppressed then .closed else .delivering dedupKey
    | .delivering dedupKey, .fetch _ _ _ _, delivery =>
      if Delivery.ok delivery then .delivered dedupKey else .delivering dedupKey
    | .delivered _, .markSent _, _ => .closed
    | stage, _, _ => stage

theorem attemptDelivery_follows (config : WebhookNotifierConfig) (event : NotificationEvent) (webhookUrl : String)
    (remaining attempt : Nat) : stages.Follows (fun _ _ => True) (.delivering event.dedupKey)
      (attemptDelivery config event webhookUrl remaining attempt) := by
  induction remaining generalizing attempt with
  | zero => trivial
  | succ remaining ih =>
    refine ⟨rfl, fun delivery => ?_⟩
    change stages.Follows _
      (if Delivery.ok delivery = true then Stage.delivered event.dedupKey else Stage.delivering event.dedupKey)
      (if Delivery.ok delivery = true then _ else _)
    split
    · exact ⟨rfl, fun _ => trivial⟩
    · split
      · exact ⟨trivial, fun _ => ih _⟩
      · trivial

private theorem notify_follows (config : WebhookNotifierConfig) (event : NotificationEvent) :
    stages.Follows (fun _ _ => True) (.checking event.dedupKey) (notify config event) := by
  unfold notify
  split
  · split
    · trivial
    · refine ⟨rfl, fun suppressed => ?_⟩
      cases suppressed
      · exact attemptDelivery_follows _ _ _ _ _
      · trivial
  · trivial

end Stages

section Runs

variable {config : WebhookNotifierConfig} {history : NotifierHistory} {pool next : NotifierPool}
  {roles : Nat → Option Stage}

/-- The time since a delivery. -/
def age (pool : NotifierPool) (entry : NotifierEntry) : ℚ :=
  ((pool.world.now - entry.before.world.now : ℤ) : ℚ)

/-- What is known of the deliveries while calls run. -/
structure Records (cooldownMs : ℚ) (history : NotifierHistory) (pool : NotifierPool) (roles : Nat → Option Stage) :
    Prop where
  dated : ∀ entry ∈ history, entry.before.world.now ≤ pool.world.now
  ended : ∀ pid dedupKey, Made history pid ⟨.markSent dedupKey, ()⟩ → roles pid = some .closed
  marked : ∀ pid dedupKey, Made history pid ⟨.markSent dedupKey, ()⟩ →
    ∃ previous, pool.world.dedupCache dedupKey = some previous ∧ previous ≠ 0 ∧ previous ≤ pool.world.now ∧
      ∀ delivery ∈ history, DeliveredBy pid dedupKey delivery → delivery.before.world.now ≤ previous
  passed : ∀ pid dedupKey, roles pid = some (.delivering dedupKey) →
    ∃ recent check before, history = recent ++ check :: before ∧ PassedBy pid dedupKey check ∧
      ∀ other, ∀ delivery ∈ history, DeliveredBy other dedupKey delivery →
        Made before other ⟨.markSent dedupKey, ()⟩ → cooldownMs ≤ age pool delivery
  apart : Apart cooldownMs history

/-- A key that is free was last delivered long enough ago. -/
theorem Records.free (records : Records config.cooldownMs history pool roles)
    (free : pool.world.isInCooldown config dedupKey = false) (made : Made history pid ⟨.markSent dedupKey, ()⟩)
    (member : delivery ∈ history) (delivered : DeliveredBy pid dedupKey delivery) :
    config.cooldownMs ≤ age pool delivery := by
  obtain ⟨previous, cached, nonzero, _, before⟩ := records.marked pid dedupKey made
  have earlier := before delivery member delivered
  unfold World.isInCooldown at free
  rw [cached] at free
  have since : config.cooldownMs ≤ ((pool.world.now - previous : ℤ) : ℚ) := by
    simpa [nonzero] using free
  refine since.trans ?_
  unfold age
  exact_mod_cast Int.sub_le_sub_left earlier _

theorem apart_cons (apart : Apart cooldownMs history)
    (since : ∀ dedupKey pid other, DeliveredBy pid dedupKey ⟨pool, move, next⟩ → ∀ delivery ∈ history,
      DeliveredBy other dedupKey delivery → cooldownMs ≤ age pool delivery) :
    Apart cooldownMs (⟨pool, move, next⟩ :: history) :=
  List.pairwise_cons.mpr ⟨fun delivery member dedupKey pid other second first =>
    since dedupKey pid other second delivery member first, apart⟩

/-- A step that delivers and records nothing and moves no call on only lets time pass. -/
theorem Records.idle (records : Records cooldownMs history pool roles)
    (quiet : ∀ pid dedupKey, ¬ DeliveredBy pid dedupKey ⟨pool, move, next⟩)
    (unmarked : ∀ pid dedupKey, move ≠ .perform pid ⟨.markSent dedupKey, ()⟩)
    (later : pool.world.now ≤ next.world.now) (cache : next.world.dedupCache = pool.world.dedupCache)
    (stayed : ∀ pid dedupKey, roles' pid = some (.delivering dedupKey) → roles pid = some (.delivering dedupKey))
    (finished : ∀ pid, roles pid = some .closed → roles' pid = some .closed) :
    Records cooldownMs (⟨pool, move, next⟩ :: history) next roles' := by
  have made : ∀ pid dedupKey, Made (⟨pool, move, next⟩ :: history) pid ⟨.markSent dedupKey, ()⟩ →
      Made history pid ⟨.markSent dedupKey, ()⟩ := by
    intro pid dedupKey made
    exact (made_cons.mp made).resolve_left (unmarked pid dedupKey)
  have old : ∀ pid dedupKey, ∀ delivery ∈ (⟨pool, move, next⟩ : NotifierEntry) :: history,
      DeliveredBy pid dedupKey delivery → delivery ∈ history := by
    intro pid dedupKey delivery member delivered
    rcases List.mem_cons.mp member with rfl | member
    · exact absurd delivered (quiet pid dedupKey)
    · exact member
  constructor
  · intro entry member
    rcases List.mem_cons.mp member with rfl | member
    · exact later
    · exact (records.dated entry member).trans later
  · intro pid dedupKey recorded
    exact finished pid (records.ended pid dedupKey (made pid dedupKey recorded))
  · intro pid dedupKey recorded
    obtain ⟨previous, cached, nonzero, past, before⟩ := records.marked pid dedupKey (made pid dedupKey recorded)
    refine ⟨previous, by rw [cache]; exact cached, nonzero, past.trans later, ?_⟩
    intro delivery member delivered
    exact before delivery (old pid dedupKey delivery member delivered) delivered
  · intro pid dedupKey delivering
    obtain ⟨recent, check, before, parts, check_passed, since⟩ :=
      records.passed pid dedupKey (stayed pid dedupKey delivering)
    refine ⟨⟨pool, move, next⟩ :: recent, check, before, by rw [parts]; rfl, check_passed, ?_⟩
    intro other delivery member delivered recorded
    refine (since other delivery (old other dedupKey delivery member delivered) delivered recorded).trans ?_
    unfold age
    exact_mod_cast Int.sub_le_sub_right later _
  · exact apart_cons records.apart fun dedupKey pid _ delivered => absurd delivered (quiet pid dedupKey)

private theorem label_delivered (delivered : DeliveredBy other dedupKey ⟨pool, .perform pid event, next⟩) :
    other = pid ∧ ∃ webhookUrl payload timeoutMs delivery,
      event = ⟨.fetch dedupKey webhookUrl payload timeoutMs, delivery⟩ := by
  obtain ⟨webhookUrl, payload, timeoutMs, delivery, label, _⟩ := delivered
  cases label
  exact ⟨rfl, webhookUrl, payload, timeoutMs, delivery, rfl⟩

/-- A call that finds its key free has seen what was recorded of it. -/
theorem Records.check (records : Records config.cooldownMs history pool roles)
    (role : roles pid = some (.checking dedupKey)) (free : pool.world.isInCooldown config dedupKey = false)
    (same : next.world = pool.world) :
    Records config.cooldownMs (⟨pool, .perform pid ⟨.isInCooldown dedupKey, false⟩, next⟩ :: history) next
      (update roles pid (some (.delivering dedupKey))) := by
  have known : Records config.cooldownMs (⟨pool, .perform pid ⟨.isInCooldown dedupKey, false⟩, next⟩ :: history)
      next roles :=
    records.idle (by rintro _ _ ⟨_, _, _, _, label, _⟩; cases label) (by rintro _ _ label; cases label)
      (by rw [same]) (by rw [same]) (fun _ _ role => role) (fun _ role => role)
  refine ⟨known.dated, ?_, known.marked, ?_, known.apart⟩
  · intro other key made
    have spent := known.ended other key made
    rw [update_of_ne]
    · exact spent
    · rintro rfl
      rw [role] at spent
      cases spent
  · intro other key delivering
    rcases update_assigned delivering with ⟨rfl, stage⟩ | ⟨_, stage⟩
    · cases stage
      refine ⟨[], _, history, rfl, rfl, ?_⟩
      intro other delivery member delivered made
      have past : delivery ∈ history := by
        refine (List.mem_cons.mp member).resolve_left ?_
        rintro rfl
        obtain ⟨_, _, _, _, _, event⟩ := label_delivered delivered
        cases event
      have since := records.free free made past delivered
      unfold age at since ⊢
      rwa [same]
    · exact known.passed other key stage

/-- What is delivered was last delivered long enough ago. -/
theorem Records.deliver (records : Records cooldownMs history pool roles)
    (role : roles pid = some (.delivering dedupKey)) (same : next.world = pool.world)
    (effect : event.effect = .fetch dedupKey webhookUrl payload timeoutMs)
    (single : Single history ⟨pool, .perform pid event, next⟩) :
    Records cooldownMs (⟨pool, .perform pid event, next⟩ :: history) next
      (update roles pid (some (.delivered dedupKey))) := by
  have unmarked : ∀ key, ¬ Made history pid ⟨.markSent key, ()⟩ := by
    intro key made
    have spent := records.ended pid key made
    rw [role] at spent
    cases spent
  have made : ∀ other key, Made (⟨pool, .perform pid event, next⟩ :: history) other ⟨.markSent key, ()⟩ →
      Made history other ⟨.markSent key, ()⟩ := by
    intro other key made
    refine (made_cons.mp made).resolve_left ?_
    rintro label
    cases label
    cases effect
  constructor
  · intro entry member
    rw [same]
    rcases List.mem_cons.mp member with rfl | member
    · exact Int.le_refl _
    · exact records.dated entry member
  · intro other key recorded
    have spent := records.ended other key (made other key recorded)
    rw [update_of_ne]
    · exact spent
    · rintro rfl
      exact unmarked key (made other key recorded)
  · intro other key recorded
    obtain ⟨previous, cached, nonzero, past, before⟩ := records.marked other key (made other key recorded)
    rw [same]
    refine ⟨previous, cached, nonzero, past, ?_⟩
    intro delivery member delivered
    rcases List.mem_cons.mp member with rfl | member
    · obtain ⟨rfl, _⟩ := label_delivered delivered
      exact absurd (made other key recorded) (unmarked key)
    · exact before delivery member delivered
  · intro other key delivering
    rcases update_assigned delivering with ⟨_, stage⟩ | ⟨_, stage⟩
    · cases stage
    · obtain ⟨recent, check, before, parts, check_passed, since⟩ := records.passed other key stage
      refine ⟨_ :: recent, check, before, by rw [parts]; rfl, check_passed, ?_⟩
      intro third delivery member delivered recorded
      unfold age
      rw [same]
      rcases List.mem_cons.mp member with rfl | member
      · obtain ⟨rfl, _⟩ := label_delivered delivered
        obtain ⟨entry, among, label⟩ := recorded
        refine absurd ⟨entry, ?_, label⟩ (unmarked key)
        rw [parts]
        exact List.mem_append_right _ (List.mem_cons_of_mem _ among)
      · exact since third delivery member delivered recorded
  · refine apart_cons records.apart ?_
    intro key other third delivered delivery member first
    obtain ⟨rfl, _, _, _, _, rfl⟩ := label_delivered delivered
    cases effect
    obtain ⟨recent, check, before, parts, check_passed, since⟩ := records.passed other dedupKey role
    exact since third delivery member first
      (single.recorded other dedupKey delivered recent check before parts check_passed third delivery member first)

/-- What is recorded is as late as all that was delivered. -/
theorem Records.mark (records : Records cooldownMs history pool roles)
    (same : next.world = pool.world.markSent dedupKey) (nonzero : pool.world.now ≠ 0) :
    Records cooldownMs (⟨pool, .perform pid ⟨.markSent dedupKey, ()⟩, next⟩ :: history) next
      (update roles pid (some .closed)) := by
  have quiet : ∀ other key,
      ¬ DeliveredBy other key ⟨pool, .perform pid ⟨.markSent dedupKey, ()⟩, next⟩ := by
    rintro other key ⟨_, _, _, _, label, _⟩
    cases label
  have clock : next.world.now = pool.world.now := by rw [same]; rfl
  constructor
  · intro entry member
    rw [clock]
    rcases List.mem_cons.mp member with rfl | member
    · exact Int.le_refl _
    · exact records.dated entry member
  · intro other key made
    by_cases here : other = pid
    · rw [here, update_self]
    · rw [update_of_ne here]
      refine records.ended other key ((made_cons.mp made).resolve_left ?_)
      intro label
      cases label
      exact here rfl
  · intro other key made
    have dated : ∀ delivery ∈ (⟨pool, .perform pid ⟨.markSent dedupKey, ()⟩, next⟩ : NotifierEntry) :: history,
        DeliveredBy other key delivery → delivery ∈ history := by
      intro delivery member delivered
      rcases List.mem_cons.mp member with rfl | member
      · exact absurd delivered (quiet other key)
      · exact member
    rw [clock]
    by_cases own : key = dedupKey
    · refine ⟨pool.world.now, by rw [same, own]; exact update_self .., nonzero, Int.le_refl _, ?_⟩
      intro delivery member delivered
      exact records.dated delivery (dated delivery member delivered)
    · have recorded : Made history other ⟨.markSent key, ()⟩ := by
        refine (made_cons.mp made).resolve_left ?_
        intro label
        cases label
        exact own rfl
      obtain ⟨previous, cached, present, past, before⟩ := records.marked other key recorded
      refine ⟨previous, ?_, present, past, ?_⟩
      · rw [same]
        exact (update_of_ne own _ _).trans cached
      · intro delivery member delivered
        exact before delivery (dated delivery member delivered) delivered
  · intro other key delivering
    rcases update_assigned delivering with ⟨_, stage⟩ | ⟨_, stage⟩
    · cases stage
    · obtain ⟨recent, check, before, parts, check_passed, since⟩ := records.passed other key stage
      refine ⟨_ :: recent, check, before, by rw [parts]; rfl, check_passed, ?_⟩
      intro third delivery member delivered recorded
      unfold age
      rw [clock]
      rcases List.mem_cons.mp member with rfl | member
      · exact absurd delivered (quiet third key)
      · exact since third delivery member delivered recorded
  · exact apart_cons records.apart fun key other _ delivered => absurd delivered (quiet other key)

theorem Records.perform (records : Records config.cooldownMs history pool roles) (assigned : roles pid = some role)
    (permitted : stages.permits role event.effect) (served : Serves config pool.world event next.world)
    (single : Single history ⟨pool, .perform pid event, next⟩) :
    Records config.cooldownMs (⟨pool, .perform pid event, next⟩ :: history) next
      (update roles pid (some (stages.after role event.effect event.answer))) := by
  obtain ⟨effect, answer⟩ := event
  cases effect with
  | isInCooldown key =>
    cases role with
    | checking dedupKey =>
      obtain rfl : key = dedupKey := permitted
      obtain ⟨answered, same⟩ := served
      cases answer with
      | false => exact records.check assigned answered.symm same
      | true =>
        refine records.idle (by rintro _ _ ⟨_, _, _, _, label, _⟩; cases label) (by rintro _ _ label; cases label)
          (by rw [same]) (by rw [same]) ?_ ?_
        · intro other dedupKey delivering
          rcases update_assigned delivering with ⟨_, stage⟩ | ⟨_, stage⟩
          · cases stage
          · exact stage
        · intro other spent
          by_cases here : other = pid
          · rw [here]
            exact update_self ..
          · rwa [update_of_ne here]
    | delivering | delivered | closed => exact permitted.elim
  | fetch key webhookUrl payload timeoutMs =>
    cases role with
    | delivering dedupKey =>
      obtain rfl : key = dedupKey := permitted
      change Records _ _ _ (update roles pid (some
        (if Delivery.ok answer = true then Stage.delivered key else Stage.delivering key)))
      split
      · exact records.deliver assigned served rfl single
      · rename_i failed
        rw [← assigned, update_eq_self]
        refine records.idle ?_ (by rintro _ _ label; cases label) (by rw [served]) (by rw [served])
          (fun _ _ stage => stage) (fun _ stage => stage)
        rintro other dedupKey ⟨_, _, _, _, label, ok⟩
        cases label
        exact failed ok
    | checking | delivered | closed => exact permitted.elim
  | markSent key =>
    cases role with
    | delivered dedupKey =>
      obtain rfl : key = dedupKey := permitted
      exact records.mark served (single.timed pid key rfl)
    | checking | delivering | closed => exact permitted.elim
  | sleep ms =>
    cases role with
    | delivering dedupKey =>
      change Records _ _ _ (update roles pid (some (Stage.delivering dedupKey)))
      rw [← assigned, update_eq_self]
      exact records.idle (by rintro _ _ ⟨_, _, _, _, label, _⟩; cases label) (by rintro _ _ label; cases label)
        (by rw [served]) (by rw [served]) (fun _ _ stage => stage) (fun _ stage => stage)
    | checking | delivered | closed => exact permitted.elim

/-- Deliveries of one key are a cooldown apart if no two calls of the key overlap in theirs. -/
theorem notifications_apart (config : WebhookNotifierConfig) (run : (notifier config).system.Run history pool)
    (single : Throughout Single history) : Apart config.cooldownMs history := by
  obtain ⟨roles, _, records⟩ := Server.run_roles
    (fun history pool roles => Records config.cooldownMs history pool roles) (notify_follows config)
    (by
      intro origin _
      constructor
      · exact fun _ member => nomatch member
      · rintro _ _ ⟨_, member, _⟩
        cases member
      · rintro _ _ ⟨_, member, _⟩
        cases member
      · exact fun _ _ role => nomatch role
      · exact .nil)
    (by
      intro history pool roles pid event next cast _ records absent after
      subst after
      refine records.idle (by rintro _ _ ⟨_, _, _, _, label, _⟩; cases label) (by rintro _ _ label; cases label)
        (Int.le_refl _) rfl ?_ ?_
      · intro other dedupKey delivering
        rcases update_assigned delivering with ⟨_, role⟩ | ⟨_, role⟩
        · cases role
        · exact role
      · intro other role
        rw [update_of_ne]
        · exact role
        · rintro rfl
          rw [cast.unassigned absent] at role
          cases role)
    (by
      intro history pool roles pid event role rest next _ allowed records _ assigned permitted served _
      exact records.perform assigned permitted served allowed)
    (by
      intro history pool roles next _ records drifted _
      exact records.idle (by rintro _ _ ⟨_, _, _, _, label, _⟩; cases label) (by rintro _ _ label; cases label)
        drifted.1 drifted.2 (fun _ _ role => role) (fun _ role => role))
    run single
  exact records.apart

end Runs

section Examples

variable {config : WebhookNotifierConfig} {origin pool : NotifierPool} {history : NotifierHistory}

private theorem path_start (pid : Nat) (event : NotificationEvent)
    (path : Path (notifier config).system origin history pool) (absent : pool.running pid = none) :
    Path (notifier config).system origin
      (⟨pool, .start pid event, ⟨pool.world, update pool.running pid (some (notify config event))⟩⟩ :: history)
      ⟨pool.world, update pool.running pid (some (notify config event))⟩ :=
  path.next ⟨absent, rfl⟩

private theorem path_perform (pid : Nat) (answer : Answer effect) {rest : Answer effect → Program Effect Answer Bool}
    (path : Path (notifier config).system origin history pool)
    (running : pool.running pid = some (.call effect rest))
    (served : Serves config pool.world ⟨effect, answer⟩ world) :
    Path (notifier config).system origin
      (⟨pool, .perform pid ⟨effect, answer⟩, ⟨world, update pool.running pid (some (rest answer))⟩⟩ :: history)
      ⟨world, update pool.running pid (some (rest answer))⟩ :=
  path.next ⟨rest, running, served, rfl⟩

private theorem path_drift (now : ℤ) (path : Path (notifier config).system origin history pool)
    (later : pool.world.now ≤ now) :
    Path (notifier config).system origin
      (⟨pool, .drift, ⟨{ pool.world with now := now }, pool.running⟩⟩ :: history)
      ⟨{ pool.world with now := now }, pool.running⟩ :=
  path.next ⟨⟨later, rfl⟩, rfl⟩

/-- A cooldown of a minute and no retries. -/
def minuteConfig : WebhookNotifierConfig :=
  ⟨true, some "https://hooks.example.invalid/notify", 60000, none, none, none, none⟩

def alert : NotificationEvent :=
  ⟨"oracle", "ORACLE_TRIGGER_TERMINAL_FAILURE", .critical, "oracle:critical:trade-1", "terminal failure",
    ⟨some "1", none, none, none, none, none⟩⟩

/-- The first second after the epoch. -/
def beginning : NotifierPool := ⟨⟨1000, fun _ => none⟩, fun _ => none⟩

/-- Two calls find the key free before either is answered. -/
theorem overlapping_calls : 1 ≤ minuteConfig.cooldownMs ∧
    ¬ ∀ history pool, (notifier minuteConfig).system.Run history pool → Apart minuteConfig.cooldownMs history := by
  refine ⟨by decide, fun always => ?_⟩
  have first := path_start 0 alert (Path.start : Path (notifier minuteConfig).system beginning [] beginning) rfl
  have second := path_start 1 alert first rfl
  have firstFree := path_perform 0 false second rfl ⟨rfl, rfl⟩
  have secondFree := path_perform 1 false firstFree rfl ⟨rfl, rfl⟩
  have firstSent := path_perform 0 (Delivery.response 200) secondFree rfl rfl
  have secondSent := path_perform 1 (Delivery.response 200) firstSent rfl rfl
  have apart := always _ _ ⟨beginning, ⟨fun _ => rfl, fun _ => rfl⟩, secondSent⟩
  have close := (List.pairwise_cons.mp apart).1 _ List.mem_cons_self alert.dedupKey 1 0
    ⟨_, _, _, _, rfl, rfl⟩ ⟨_, _, _, _, rfl, rfl⟩
  revert close
  decide

private theorem throughout_push (throughout : Throughout Single history) (single : Single history entry) :
    Throughout Single (entry :: history) := by
  intro later other earlier same
  cases later with
  | nil =>
    obtain ⟨rfl, rfl⟩ := List.cons.inj same
    exact single
  | cons _ later =>
    obtain ⟨rfl, rfl⟩ := List.cons.inj same
    exact throughout later other earlier rfl

/-- A step that neither delivers nor records. -/
theorem single_quiet (quiet : ∀ pid dedupKey, ¬ DeliveredBy pid dedupKey entry)
    (unmarked : ∀ pid dedupKey, entry.label ≠ .perform pid ⟨.markSent dedupKey, ()⟩) : Single history entry :=
  ⟨fun pid dedupKey delivered => absurd delivered (quiet pid dedupKey),
    fun pid dedupKey label => absurd label (unmarked pid dedupKey)⟩

/-- A delivery that is recorded before the next call checks its key. -/
theorem alone_twice {first firstFree firstSent marked waited second secondFree last : NotifierPool}
    (timed : firstSent.world.now ≠ 0) :
    Throughout Single
      [⟨secondFree, .perform 1 ⟨.fetch key url payload timeout, .response 200⟩, last⟩,
        ⟨second, .perform 1 ⟨.isInCooldown key, false⟩, secondFree⟩, ⟨waited, .start 1 event, second⟩,
        ⟨marked, .drift, waited⟩, ⟨firstSent, .perform 0 ⟨.markSent key, ()⟩, marked⟩,
        ⟨firstFree, .perform 0 ⟨.fetch key url payload timeout, .response 200⟩, firstSent⟩,
        ⟨first, .perform 0 ⟨.isInCooldown key, false⟩, firstFree⟩, ⟨origin, .start 0 event, first⟩] := by
  refine throughout_push (throughout_push (throughout_push (throughout_push (throughout_push (throughout_push
    (throughout_push (throughout_push (fun _ _ _ same => nomatch List.append_eq_nil_iff.mp same.symm)
      ?_) ?_) ?_) ?_) ?_) ?_) ?_) ?_
  · exact single_quiet (by rintro _ _ ⟨_, _, _, _, label, _⟩; cases label) (by rintro _ _ label; cases label)
  · exact single_quiet (by rintro _ _ ⟨_, _, _, _, label, _⟩; cases label) (by rintro _ _ label; cases label)
  · refine ⟨?_, by rintro _ _ label; cases label⟩
    rintro _ _ _ _ _ _ _ _ other delivery member ⟨_, _, _, _, label, _⟩
    rcases List.mem_pair.mp member with rfl | rfl <;> cases label
  · exact ⟨fun _ _ ⟨_, _, _, _, label, _⟩ => (nomatch label), fun _ _ _ => timed⟩
  · exact single_quiet (by rintro _ _ ⟨_, _, _, _, label, _⟩; cases label) (by rintro _ _ label; cases label)
  · exact single_quiet (by rintro _ _ ⟨_, _, _, _, label, _⟩; cases label) (by rintro _ _ label; cases label)
  · exact single_quiet (by rintro _ _ ⟨_, _, _, _, label, _⟩; cases label) (by rintro _ _ label; cases label)
  · refine ⟨?_, by rintro _ _ label; cases label⟩
    rintro _ _ ⟨_, _, _, _, label, _⟩ recent check before parts passed other delivery member ⟨_, _, _, _, sent, _⟩
    cases label
    -- Only the first call has delivered, and it has recorded that.
    have own : other = 0 := by
      simp only [List.mem_cons, List.not_mem_nil, or_false] at member
      rcases member with rfl | rfl | rfl | rfl | rfl | rfl | rfl <;> cases sent
      rfl
    subst own
    cases recent with
    | nil =>
      obtain ⟨rfl, rfl⟩ := List.cons.inj parts
      exact ⟨_, List.mem_of_getElem? (i := 2) rfl, rfl⟩
    | cons _ recent =>
      have among : check ∈ recent.append (check :: before) := List.mem_append_right recent List.mem_cons_self
      rw [← (List.cons.inj parts).2] at among
      simp only [List.mem_cons, List.not_mem_nil, or_false] at among
      rcases among with rfl | rfl | rfl | rfl | rfl | rfl <;> cases passed

/-- A second call, a minute after the first was answered. -/
theorem later_call : ∃ history pool, (notifier minuteConfig).system.Run history pool ∧
    (∃ first ∈ history, DeliveredBy 0 alert.dedupKey first) ∧
      (∃ second ∈ history, DeliveredBy 1 alert.dedupKey second) ∧ Apart minuteConfig.cooldownMs history := by
  have first := path_start 0 alert (Path.start : Path (notifier minuteConfig).system beginning [] beginning) rfl
  have firstFree := path_perform 0 false first rfl ⟨rfl, rfl⟩
  have firstSent := path_perform 0 (Delivery.response 200) firstFree rfl rfl
  have marked := path_perform 0 () firstSent rfl rfl
  have waited := path_drift 61000 marked (by decide)
  have second := path_start 1 alert waited rfl
  have secondFree := path_perform 1 false second rfl ⟨by decide, rfl⟩
  have secondSent := path_perform 1 (Delivery.response 200) secondFree rfl rfl
  have run := (⟨beginning, ⟨fun _ => rfl, fun _ => rfl⟩, secondSent⟩ : (notifier minuteConfig).system.Run _ _)
  refine ⟨_, _, run, ⟨_, List.mem_of_getElem? (i := 5) rfl, _, _, _, _, rfl, rfl⟩,
    ⟨_, List.mem_cons_self, _, _, _, _, rfl, rfl⟩, notifications_apart minuteConfig run (alone_twice (by decide))⟩

end Examples

end Agroasys.Notifications
