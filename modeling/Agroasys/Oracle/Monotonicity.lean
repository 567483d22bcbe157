import Agroasys.Oracle.Bench
import Agroasys.Oracle.Holders

/-! A submitted row only moves on: to `CONFIRMED`, or through the worker's hard timeout
to `EXHAUSTED_NEEDS_REDRIVE`, and a confirmed row stands still. -/

namespace Agroasys.Oracle

open Function Agroasys.Foundation

variable {κ : Type}

/-- No call is handed another's row, polls do not overlap, and no write of `SUBMITTED`
or of an on-chain verification takes effect while its answer is lost. -/
def InOrder (earlier : ServiceHistory κ) (entry : ServiceEntry κ) : Prop :=
  match entry.label with
  | .start _ .pollConfirmations =>
    ∀ pid, Started earlier pid .pollConfirmations → ¬ entry.before.Live pid
  | .perform _ ⟨.insertTrigger _ _, .error error⟩ => error.code ≠ uniqueViolation
  | .perform _ ⟨.updateTrigger key updates, .error _⟩ =>
    updates.status = some .submitted ∨ updates = verifiedUpdates →
      entry.after.world.table.lookup key = entry.before.world.table.lookup key
  | _ => True

/-- The worker moves the row on because its hard timeout has passed. -/
def TimesOut (entry : ServiceEntry κ) (key : String) : Prop :=
  ∃ pid ageMs answer, hardTimeoutMs < ageMs ∧
    entry.label = .perform pid ⟨.updateTrigger key (timeoutUpdates ageMs), answer⟩

/-- Between two times a row that was submitted, exhausted or confirmed only moved on. -/
structure Onward (old new : Trigger) : Prop where
  submitted : old.status = .submitted →
    new.status = .submitted ∨ new.status = .confirmed ∨ new.status = .exhaustedNeedsRedrive
  exhausted : old.status = .exhaustedNeedsRedrive →
    new.status = .exhaustedNeedsRedrive ∨ new.status = .confirmed
  confirmed : old.status = .confirmed → new.status = .confirmed ∧ new.txHash = old.txHash

private theorem Onward.refl (old : Trigger) : Onward old old :=
  ⟨.inl, .inl, fun confirmed => ⟨confirmed, rfl⟩⟩

private theorem Onward.trans (first : Onward old middle) (second : Onward middle new) : Onward old new where
  submitted submitted := by
    rcases first.submitted submitted with same | confirmed | exhausted
    · exact second.submitted same
    · exact .inr (.inl (second.confirmed confirmed).1)
    · exact .inr ((second.exhausted exhausted).symm)
  exhausted exhausted := by
    rcases first.exhausted exhausted with same | confirmed
    · exact second.exhausted same
    · exact .inr (second.confirmed confirmed).1
  confirmed confirmed := by
    obtain ⟨still, kept⟩ := first.confirmed confirmed
    obtain ⟨stands, same⟩ := second.confirmed still
    exact ⟨stands, same.trans kept⟩

private theorem Advance.onward (advance : Advance false role effect key old new) : Onward old new := by
  cases advance with
  | stays => exact .refl _
  | works _ working => constructor <;> intro status <;> rw [status] at working <;> cases working
  | verifies resting => exact ⟨fun _ => .inr (.inl rfl), fun _ => .inr rfl, fun _ => ⟨rfl, rfl⟩⟩
  | polls _ _ submitted worker _ =>
    refine ⟨fun _ => ?_, ?_, ?_⟩
    · cases worker with
      | verified => exact .inr (.inl rfl)
      | indexed event => exact .inr (.inl rfl)
      | timeout elapsed => exact .inr (.inr rfl)
    · intro status
      rw [submitted] at status
      cases status
    · intro status
      rw [submitted] at status
      cases status
  | approves awaits _ => constructor <;> intro status <;> rw [awaits] at status <;> cases status
  | rejects awaits _ _ => constructor <;> intro status <;> rw [awaits] at status <;> cases status

/-- A submitted row is left alone by all but a poll. -/
theorem Advance.leaves_submitted (advance : Advance false role effect key old new)
    (submitted : old.status = .submitted) (other : ∀ keys, role ≠ .polling keys) : new = old := by
  cases advance with
  | stays => rfl
  | works _ working => rw [submitted] at working; cases working
  | verifies resting => rcases resting with status | status <;> rw [submitted] at status <;> cases status
  | polls _ polling _ _ _ =>
    obtain ⟨keys, polling⟩ := polling
    exact absurd polling (other keys)
  | approves awaits _ => rw [submitted] at awaits; cases awaits
  | rejects awaits _ _ => rw [submitted] at awaits; cases awaits

/-- Only the worker's timeout gives up a submitted row. -/
theorem Advance.timed (advance : Advance false role effect key old new) (submitted : old.status = .submitted)
    (exhausted : new.status = .exhaustedNeedsRedrive) :
    ∃ ageMs, hardTimeoutMs < ageMs ∧ effect = .updateTrigger key (timeoutUpdates ageMs) := by
  cases advance with
  | stays => rw [submitted] at exhausted; cases exhausted
  | works _ working => rw [submitted] at working; cases working
  | verifies _ => cases exhausted
  | polls _ _ _ worker writes =>
    cases worker with
    | verified => cases exhausted
    | indexed event => cases exhausted
    | timeout elapsed => exact ⟨_, elapsed, writes⟩
  | approves awaits _ => rw [submitted] at awaits; cases awaits
  | rejects awaits _ _ => rw [submitted] at awaits; cases awaits

/-- What a poll rests on. -/
def Role.Paged (table : Table) (live : Prop) : Role → Prop
  | .polling keys => live → keys.Nodup ∧ ∀ key ∈ keys, table.status key = some .submitted
  | _ => True

structure Order (history : ServiceHistory κ) (pool : ServicePool κ) (cast : Nat → Option Role) : Prop where
  holding : Holding false pool.world.table cast
  paged : ∀ pid role, cast pid = some role → role.Paged pool.world.table (pool.Live pid)
  started : ∀ pid role, cast pid = some role → role.polls = true → Started history pid .pollConfirmations
  onePoll : ∀ pid pid' role role', cast pid = some role → cast pid' = some role' →
    role.polls = true → role'.polls = true → pool.Live pid → pool.Live pid' → pid = pid'
  onward : ∀ entry ∈ history, ∀ key old, entry.before.world.table.lookup key = some old →
    ∃ new, pool.world.table.lookup key = some new ∧ Onward old new
  timed : ∀ entry ∈ history, ∀ key, entry.before.world.table.status key = some .submitted →
    entry.after.world.table.status key = some .exhaustedNeedsRedrive → TimesOut entry key

section Order

variable {history : ServiceHistory κ} {pool next : ServicePool κ} {cast : Nat → Option Role} {role : Role}

theorem Role.Paged.mono {role : Role} (paged : role.Paged table live) (implied : alive → live) :
    role.Paged table alive := by
  cases role with
  | polling keys => exact fun alive => paged (implied alive)
  | _ => trivial

private theorem InOrder.unshared (kept : InOrder history ⟨pool, .perform pid event, next⟩) :
    Unshared false pool.world.table event next.world.table := by
  obtain ⟨effect, answer⟩ := event
  cases effect <;> try trivial
  case insertTrigger origin data =>
    cases answer with
    | ok row => trivial
    | error error => exact kept
  case updateTrigger key updates =>
    cases answer with
    | ok value => trivial
    | error error => exact fun submits => .inr (kept (.inl submits))

private theorem Order.polled (order : Order history pool cast) (assigned : cast pid = some role)
    (live : pool.Live pid) : Polled false pool.world.table role := by
  intro keys polling
  subst polling
  exact ⟨rfl, (order.paged pid _ assigned live).2⟩

/-- The submitted rows before a poll are its own to move on. -/
theorem Order.others_paged (order : Order history pool cast) (assigned : cast pid = some role)
    (live : pool.Live pid)
    (advances : ∀ key old, pool.world.table.lookup key = some old →
      ∃ new, next.world.table.lookup key = some new ∧ Advance false role effect key old new)
    (different : other ≠ pid) (playing : cast other = some role') (same : next.Live other → pool.Live other) :
    role'.Paged next.world.table (next.Live other) := by
  cases role' <;> try trivial
  case polling keys =>
    intro alive
    obtain ⟨distinct, submitted⟩ := order.paged other _ playing (same alive)
    refine ⟨distinct, ?_⟩
    intro key member
    obtain ⟨old, found, status⟩ := status_eq_some.mp (submitted key member)
    obtain ⟨new, now, advance⟩ := advances key old found
    have unpolled : ∀ keys, role ≠ .polling keys := by
      intro keys polling
      subst polling
      exact different (order.onePoll other pid _ _ playing assigned rfl rfl (same alive) live)
    exact status_eq_some.mpr ⟨new, now, by rw [advance.leaves_submitted status unpolled, status]⟩

private theorem update_paged (order : Order history pool cast) (assigned : cast pid = some (.polling keys))
    (live : pool.Live pid)
    (served : pool.world.table.serves ⟨.updateTrigger key updates, answer⟩ next.world.table)
    (kept : acknowledged = false → updates = verifiedUpdates →
      next.world.table.lookup key = pool.world.table.lookup key) :
    (Role.wrote (.polling keys) key updates acknowledged).Paged next.world.table alive := by
  obtain ⟨distinct, submitted⟩ := order.paged pid _ assigned live
  have elsewhere (other : String) (different : other ≠ key) :
      next.world.table.lookup other = pool.world.table.lookup other := by
    rcases update_served served with same | ⟨same, _⟩
    · rw [same, update_of_ne different]
    · rw [same]
  unfold Role.wrote
  dsimp only
  split
  · rename_i lost
    intro _
    refine ⟨distinct, ?_⟩
    intro other member
    rw [Table.status]
    by_cases equal : other = key
    · rw [equal, kept lost.2 lost.1]
      exact submitted key (equal ▸ member)
    · rw [elsewhere other equal]
      exact submitted other member
  · intro _
    refine ⟨distinct.erase _, ?_⟩
    intro other member
    obtain ⟨different, member⟩ := distinct.mem_erase_iff.mp member
    rw [Table.status, elsewhere other different]
    exact submitted other member

private theorem Order.self_paged (order : Order history pool cast) (assigned : cast pid = some role)
    (live : pool.Live pid) (permitted : role.permits manual event.effect)
    (served : pool.world.table.serves event next.world.table)
    (kept : InOrder history ⟨pool, .perform pid event, next⟩) :
    (role.after event.effect event.answer).Paged next.world.table alive := by
  by_cases polls : (role.after event.effect event.answer).polls = true
  · have before := polls_after permitted polls
    obtain ⟨effect, answer⟩ := event
    cases role with
    | fetching =>
      cases effect <;> first | exact permitted.elim | skip
      case getTriggersByStatus status limit =>
        cases answer with
        | error error => trivial
        | ok rows =>
          obtain rfl := permitted
          obtain ⟨same, found⟩ := served
          intro _
          have oldest := found rows rfl
          refine ⟨oldest.distinct, ?_⟩
          intro key member
          obtain ⟨row, fetched, rfl⟩ := List.mem_map.mp member
          obtain ⟨present, submitted⟩ := oldest.selected row fetched
          rw [same]
          exact status_eq_some.mpr ⟨row, Table.lookup_of_mem present, submitted⟩
      all_goals trivial
    | polling keys =>
      have unchanged (reads : effect.writes = false) :
          Role.Paged next.world.table alive (.polling keys) := by
        rw [serves_read served reads]
        exact (order.paged pid _ assigned).mono fun _ => live
      cases effect <;> first | exact permitted.elim | skip
      case updateTrigger key updates =>
        cases answer with
        | ok value => exact update_paged order assigned live served (by simp)
        | error error => exact update_paged order assigned live served fun _ verifies => kept (.inr verifies)
      all_goals exact unchanged rfl
    | _ => cases before
  · generalize role.after event.effect event.answer = later at polls
    cases later with
    | polling keys => exact absurd rfl polls
    | _ => trivial

private theorem order_perform {rest : Answer event.effect → Program Effect Answer Result}
    (order : Order history pool cast) (assigned : cast pid = some role)
    (present : pool.running pid = some (.call event.effect rest))
    (permitted : role.permits manual event.effect)
    (kept : InOrder history ⟨pool, .perform pid event, next⟩)
    (served : pool.world.table.serves event next.world.table)
    (advanced : next.running = update pool.running pid (some (rest event.answer))) :
    Order (⟨pool, .perform pid event, next⟩ :: history) next
      (update cast pid (some (role.after event.effect event.answer))) := by
  have live : pool.Live pid := ⟨_, _, present⟩
  have stays (other : Nat) (alive : next.Live other) : pool.Live other := live.before advanced alive
  have polled := order.polled assigned live
  have advances (key : String) (old : Trigger) (found : pool.world.table.lookup key = some old) :=
    order.holding.advances assigned polled permitted served found
  have unpolled {other : Nat} {role' : Role}
      (playing : update cast pid (some (role.after event.effect event.answer)) other = some role')
      (polls : role'.polls = true) : ∃ role, cast other = some role ∧ role.polls = true := by
    rcases update_assigned playing with ⟨rfl, rfl⟩ | ⟨_, playing⟩
    · exact ⟨role, assigned, polls_after permitted polls⟩
    · exact ⟨role', playing, polls⟩
  refine ⟨order.holding.perform assigned polled permitted served kept.unshared, ?_, ?_, ?_, ?_, ?_⟩
  · intro other role' playing
    rcases update_assigned playing with ⟨rfl, rfl⟩ | ⟨different, playing⟩
    · exact order.self_paged assigned live permitted served kept
    · exact order.others_paged assigned live advances different playing (stays other)
  · intro other role' playing polls
    obtain ⟨old, playing, polls⟩ := unpolled playing polls
    exact (order.started other old playing polls).later _
  · intro first second role₁ role₂ playing₁ playing₂ polls₁ polls₂ live₁ live₂
    obtain ⟨old₁, cast₁, polls₁⟩ := unpolled playing₁ polls₁
    obtain ⟨old₂, cast₂, polls₂⟩ := unpolled playing₂ polls₂
    exact order.onePoll _ _ _ _ cast₁ cast₂ polls₁ polls₂ (stays _ live₁) (stays _ live₂)
  · intro entry member key old found
    rcases List.mem_cons.mp member with rfl | member
    · obtain ⟨new, now, advance⟩ := advances key old found
      exact ⟨new, now, advance.onward⟩
    · obtain ⟨middle, found, onward⟩ := order.onward entry member key old found
      obtain ⟨new, now, advance⟩ := advances key middle found
      exact ⟨new, now, onward.trans advance.onward⟩
  · intro entry member key submitted exhausted
    rcases List.mem_cons.mp member with rfl | member
    · obtain ⟨old, found, submitted⟩ := status_eq_some.mp submitted
      obtain ⟨new, now, advance⟩ := advances key old found
      have moved : new.status = .exhaustedNeedsRedrive := by
        simpa [Table.status, now] using exhausted
      obtain ⟨ageMs, elapsed, writes⟩ := advance.timed submitted moved
      obtain ⟨effect, answer⟩ := event
      obtain rfl := writes
      exact ⟨pid, ageMs, answer, elapsed, rfl⟩
    · exact order.timed entry member key submitted exhausted

/-- Where the table stands still the record of the rows goes on. -/
theorem Order.standing (order : Order history pool cast) (entry : ServiceEntry κ)
    (next : ServicePool κ) (before : entry.before = pool)
    (after : entry.after.world.table = pool.world.table) (same : next.world.table = pool.world.table) :
    (∀ earlier ∈ entry :: history, ∀ key old, earlier.before.world.table.lookup key = some old →
        ∃ new, next.world.table.lookup key = some new ∧ Onward old new) ∧
      ∀ earlier ∈ entry :: history, ∀ key, earlier.before.world.table.status key = some .submitted →
        earlier.after.world.table.status key = some .exhaustedNeedsRedrive → TimesOut earlier key := by
  constructor
  · intro earlier member key old found
    rw [same]
    rcases List.mem_cons.mp member with rfl | member
    · exact ⟨old, before ▸ found, .refl old⟩
    · exact order.onward earlier member key old found
  · intro earlier member key submitted exhausted
    rcases List.mem_cons.mp member with rfl | member
    · rw [after, ← before, submitted] at exhausted
      cases exhausted
    · exact order.timed earlier member key submitted exhausted

private theorem order_start (order : Order history pool cast) (call : Call)
    (kept : InOrder history ⟨pool, .start pid call, { pool with running := update pool.running pid program }⟩) :
    Order (⟨pool, .start pid call, { pool with running := update pool.running pid program }⟩ :: history)
      { pool with running := update pool.running pid program } (update cast pid (some call.role)) := by
  have stays {other : Nat} (different : other ≠ pid)
      (alive : Pool.Live { pool with running := update pool.running pid program } other) :
      pool.Live other := by
    obtain ⟨effect, rest, running⟩ := alive
    exact ⟨effect, rest, (update_of_ne different _ _).symm.trans running⟩
  have poll (polls : call.role.polls = true) : call = .pollConfirmations := by
    cases call <;> first | rfl | cases polls
  -- A poll that starts is the only one that is running.
  have first {other : Nat} {role' : Role} (polls : call.role.polls = true) (different : other ≠ pid)
      (playing : cast other = some role') (polls' : role'.polls = true)
      (alive : Pool.Live { pool with running := update pool.running pid program } other) : False := by
    obtain rfl := poll polls
    exact kept other (order.started other role' playing polls') (stays different alive)
  obtain ⟨onward, timed⟩ := order.standing
    ⟨pool, .start pid call, { pool with running := update pool.running pid program }⟩
    { pool with running := update pool.running pid program } rfl rfl rfl
  refine ⟨order.holding.start call, ?_, ?_, ?_, onward, timed⟩
  · intro other role' playing
    rcases update_assigned playing with ⟨rfl, rfl⟩ | ⟨different, playing⟩
    · cases call <;> trivial
    · exact (order.paged other role' playing).mono (stays different)
  · intro other role' playing polls
    rcases update_assigned playing with ⟨rfl, rfl⟩ | ⟨_, playing⟩
    · exact ⟨_, List.mem_cons_self, by rw [poll polls]⟩
    · exact (order.started other role' playing polls).later _
  · intro one two role₁ role₂ playing₁ playing₂ polls₁ polls₂ live₁ live₂
    rcases update_assigned playing₁ with ⟨rfl, rfl⟩ | ⟨different₁, played₁⟩
    · rcases update_assigned playing₂ with ⟨rfl, _⟩ | ⟨different₂, played₂⟩
      · rfl
      · exact (first polls₁ different₂ played₂ polls₂ live₂).elim
    · rcases update_assigned playing₂ with ⟨rfl, rfl⟩ | ⟨different₂, played₂⟩
      · exact (first polls₂ different₁ played₁ polls₁ live₁).elim
      · exact order.onePoll _ _ _ _ played₁ played₂ polls₁ polls₂ (stays different₁ live₁)
          (stays different₂ live₂)

private theorem order_drift (order : Order history pool cast) (same : next.world.table = pool.world.table)
    (running : next.running = pool.running) : Order (⟨pool, .drift, next⟩ :: history) next cast := by
  have stays (other : Nat) (alive : next.Live other) : pool.Live other := by
    obtain ⟨effect, rest, present⟩ := alive
    exact ⟨effect, rest, running ▸ present⟩
  obtain ⟨onward, timed⟩ := order.standing ⟨pool, .drift, next⟩ next rfl same same
  refine ⟨same ▸ order.holding, ?_, ?_, ?_, onward, timed⟩
  · intro pid role playing
    rw [same]
    exact (order.paged pid role playing).mono (stays pid)
  · intro pid role playing polls
    exact (order.started pid role playing polls).later _
  · intro one two role₁ role₂ playing₁ playing₂ polls₁ polls₂ live₁ live₂
    exact order.onePoll _ _ _ _ playing₁ playing₂ polls₁ polls₂ (stays one live₁) (stays two live₂)

end Order

private theorem run_order {settings : Settings} {outside : Outside κ}
    (run : (service settings outside).system.Run history pool) (kept : Throughout InOrder history) :
    ∃ cast, Order history pool cast := by
  obtain ⟨cast, _, order⟩ := Server.run_roles Order (service_follows settings outside)
    (by
      intro pool _
      refine ⟨.initial _, ?_, ?_, ?_, ?_, ?_⟩
      · intro _ _ assigned
        cases assigned
      · intro _ _ assigned
        cases assigned
      · intro _ _ _ _ assigned
        cases assigned
      · intro _ member
        cases member
      · intro _ member
        cases member)
    (by
      intro history pool cast pid call next _ kept order _ same
      subst same
      exact order_start order call kept)
    (by
      intro history pool cast pid event role rest next _ kept order present assigned permitted served advanced
      exact order_perform order assigned present permitted kept served.1 advanced)
    (by
      intro history pool cast next _ order drifted running
      exact order_drift order drifted.1 running)
    run kept
  exact ⟨cast, order⟩

/-- As long as nobody is handed another's row, polls do not overlap and those answers
are not lost, a submitted row only moves on and a confirmed row stands still. -/
theorem submitted_onward {settings : Settings} {outside : Outside κ}
    (run : (service settings outside).system.Run history pool) (kept : Throughout InOrder history) :
    (∀ entry ∈ history, ∀ key old, entry.before.world.table.lookup key = some old →
        ∃ new, pool.world.table.lookup key = some new ∧ Onward old new) ∧
      ∀ entry ∈ history, ∀ key, entry.before.world.table.status key = some .submitted →
        entry.after.world.table.status key = some .exhaustedNeedsRedrive → TimesOut entry key := by
  obtain ⟨cast, order⟩ := run_order run kept
  exact ⟨order.onward, order.timed⟩

/-! Two rehearsed runs. -/

/-- The state of a row, as far as it may not change. -/
def recorded (table : Table) (key : String) : Option (TriggerStatus × Option String) :=
  (table.lookup key).map fun row => (row.status, row.txHash)

/-- No insert is refused and every update is acknowledged. -/
def smooth : ServiceMove → Bool
  | .perform _ ⟨.insertTrigger _ _, answer⟩ => answer.toOption.isSome
  | .perform _ ⟨.updateTrigger _ _, answer⟩ => answer.toOption.isSome
  | _ => true

private theorem inOrder_of_smooth {history : ServiceHistory κ}
    (quiet : (history.map Transition.label).all smooth = true)
    (once : (history.map Transition.label).countP startsPoll ≤ 1) : Throughout InOrder history := by
  have quiet : ∀ entry ∈ history, smooth entry.label = true := by simpa using quiet
  intro later entry earlier same
  unfold InOrder
  split
  · rename_i label
    intro pid started _
    obtain ⟨other, member, label'⟩ := started
    have polled : 0 < (earlier.map Transition.label).countP startsPoll :=
      List.countP_pos_iff.mpr ⟨_, List.mem_map_of_mem member, by rw [label']; rfl⟩
    have polls : startsPoll entry.label = true := by rw [label]; rfl
    rw [same, List.map_append, List.countP_append, List.map_cons, List.countP_cons_of_pos polls] at once
    omega
  · rename_i label
    have loud := quiet entry (by simp [same])
    simp [label, smooth, Except.toOption] at loud
  · rename_i label
    have loud := quiet entry (by simp [same])
    simp [label, smooth, Except.toOption] at loud
  · trivial

/-- Time passes by a quarter of an hour with every move, and until then the trade is
locked. -/
def releasedAt (moves : Nat) : Script where
  getTrade time _ := .ok ⟨1, ⟨0xB0⟩, if time < moves then .locked else .inTransit, none⟩
  sendTransaction _ _ := .ok ⟨"0x01", 7⟩
  findConfirmationEvent _ _ := .ok none
  now time := time * (15 * 60 * 1000)

/-- A request that comes while another one's row is pending is handed that row, finds
the trade released and fails the row for good, submitted as it is. -/
theorem sharedRow_fallsBack :
    ∃ (history : ServiceHistory Unit) (pool : ServicePool Unit) (entry : ServiceEntry Unit)
      (key : String), (service plainSettings anything).system.Run history pool ∧ entry ∈ history ∧
        recorded entry.before.world.table key = some (.submitted, some "0x01") ∧
        recorded pool.world.table key = some (.terminalFailure, some "0x01") := by
  have outcome : ((rehearse plainSettings (releasedAt 20) .empty
      [.start 0 (.executeTrigger (releaseRequest false)), .go 0 8,
        .start 1 (.executeTrigger (releaseRequest false)), .go 1 8, .go 0 6, .go 1 3]).bind fun drive =>
      (Server.advance (releasedAt 20).respond 1 drive).map fun next =>
        (recorded drive.2.world.table "RELEASE_STAGE_1:1:6",
          recorded next.2.world.table "RELEASE_STAGE_1:1:6")) =
      some (some (.submitted, some "0x01"), some (.terminalFailure, some "0x01")) := by
    decide +kernel
  obtain ⟨drive, success, rest⟩ := Option.bind_eq_some_iff.mp outcome
  obtain ⟨next, last, facts⟩ := Option.map_eq_some_iff.mp rest
  obtain ⟨submitted, failed⟩ := Prod.mk.inj facts
  obtain ⟨entry, history, run, before, _, _⟩ := rehearse_advance success last
  exact ⟨_, _, entry, _, run, List.mem_cons_self, before ▸ submitted, failed⟩

/-- A request that is submitted, never indexed and given up by the worker. -/
theorem unindexedRow_timesOut :
    ∃ (history : ServiceHistory Unit) (pool : ServicePool Unit) (entry : ServiceEntry Unit)
      (key : String), (service plainSettings anything).system.Run history pool ∧ entry ∈ history ∧
        entry.before.world.table.status key = some .submitted ∧
        pool.world.table.status key = some .exhaustedNeedsRedrive ∧ TimesOut entry key := by
  have outcome : ((rehearse plainSettings (releasedAt 100) .empty
      [.start 0 (.executeTrigger (releaseRequest false)), .go 0 14, .start 1 .pollConfirmations,
        .go 1 5]).bind fun drive =>
      (Server.advance (releasedAt 100).respond 1 drive).map fun next =>
        (drive.2.world.table.status "RELEASE_STAGE_1:1:6", next.2.world.table.status "RELEASE_STAGE_1:1:6",
          next.1.all smooth, decide (next.1.countP startsPoll ≤ 1))) =
      some (some .submitted, some .exhaustedNeedsRedrive, true, true) := by
    decide +kernel
  obtain ⟨drive, success, rest⟩ := Option.bind_eq_some_iff.mp outcome
  obtain ⟨next, last, facts⟩ := Option.map_eq_some_iff.mp rest
  simp only [Prod.mk.injEq, decide_eq_true_eq] at facts
  obtain ⟨submitted, exhausted, quiet, once⟩ := facts
  obtain ⟨entry, history, run, before, after, labels⟩ := rehearse_advance success last
  rw [← before] at submitted
  rw [← after] at exhausted
  rw [← labels] at quiet once
  exact ⟨_, _, entry, _, run, List.mem_cons_self, submitted, after ▸ exhausted,
    (submitted_onward run (inOrder_of_smooth quiet once)).2 entry List.mem_cons_self _ submitted exhausted⟩

end Agroasys.Oracle
