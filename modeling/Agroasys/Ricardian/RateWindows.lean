import Agroasys.Foundation.Joined
import Agroasys.Foundation.Outcomes
import Agroasys.Ricardian.RateLimiter
import Agroasys.Runtime.Integers

namespace Agroasys.Ricardian

open Function Agroasys.Foundation Agroasys.Runtime

section Keys

theorem bucketKey_inj {key key' : String} {width width' : Int} :
    bucketKey key width = bucketKey key' width' ↔ key = key' ∧ width = width' := by
  constructor
  · intro same
    have lists := congrArg String.toList same
    have colon : ":".toList = [':'] := by decide
    simp only [bucketKey, String.toList_append, List.append_assoc, colon, List.singleton_append] at lists
    obtain ⟨keys, widths⟩ := cut_last (mark_toString_int (by decide) (by decide) width)
      (mark_toString_int (by decide) (by decide) width') lists
    exact ⟨String.toList_injective keys, Int.repr_injective (String.toList_injective widths)⟩
  · rintro ⟨rfl, rfl⟩
    rfl

private theorem redisKey_eq (key : String) (width bucket : Int) :
    redisKey key width bucket = bucketKey (bucketKey ("ricardian:rate-limit:" ++ key) width) bucket := by
  unfold redisKey bucketKey
  with_reducible rfl

private theorem redisKey_inj {key key' : String} {width width' bucket bucket' : Int} :
    redisKey key width bucket = redisKey key' width' bucket' ↔ key = key' ∧ width = width' ∧ bucket = bucket' := by
  constructor
  · intro same
    rw [redisKey_eq, redisKey_eq, bucketKey_inj, bucketKey_inj] at same
    obtain ⟨⟨keys, widths⟩, buckets⟩ := same
    have lists := congrArg String.toList keys
    rw [String.toList_append, String.toList_append] at lists
    exact ⟨String.toList_injective (List.append_cancel_left lists), widths, buckets⟩
  · rintro ⟨rfl, rfl, rfl⟩
    rfl

end Keys

section Windows

inductive StoreMode where
  | memory
  | redis
  deriving DecidableEq, Repr

def RateLimitStore.mode : RateLimitStore → StoreMode
  | .memory _ => .memory
  | .redis _ => .redis

/-- Where the window starts in which a store counted a request: in memory a window is as long
as it still was, in Redis the windows follow each other from zero. -/
def Tally.start (tally : Tally) : StoreMode → Int
  | .memory => tally.nowSeconds + tally.result.resetSeconds - tally.windowSeconds
  | .redis => tally.nowSeconds / tally.windowSeconds * tally.windowSeconds

/-- The store still knows of a request that it counted. -/
def RateLimitStore.Remembers (tally : Tally) : RateLimitStore → Prop
  | .memory buckets => ∃ bucket, buckets (bucketKey tally.key tally.windowSeconds) = some bucket ∧
      (tally.start .memory + tally.windowSeconds = bucket.expiresAt ∧ tally.result.count ≤ bucket.count ∨
        tally.start .memory + 2 * tally.windowSeconds ≤ bucket.expiresAt)
  | .redis cells => ∃ cell,
      cells (redisKey tally.key tally.windowSeconds (tally.nowSeconds / tally.windowSeconds)) = some cell ∧
        tally.result.count ≤ cell.count ∧
        ∀ expiresAt, cell.expiresAt = some expiresAt → tally.start .redis + tally.windowSeconds ≤ expiresAt

/-- One request after another of the same key: later in the same window, or in a later one. -/
def Tally.Then (mode : StoreMode) (tally later : Tally) : Prop :=
  tally.key = later.key → tally.windowSeconds = later.windowSeconds →
    tally.start mode = later.start mode ∧ tally.result.count < later.result.count ∨
      tally.start mode + tally.windowSeconds ≤ later.start mode

/-- The window is one that the request falls in, and the request is counted there. -/
structure Tally.Placed (mode : StoreMode) (tally : Tally) : Prop where
  starts : tally.start mode ≤ tally.nowSeconds
  ends : tally.nowSeconds < tally.start mode + tally.windowSeconds
  counted : 1 ≤ tally.result.count

/-- No window began in the future, and no counter of Redis goes before its window ends. -/
def RateLimitStore.Sound (now : Int) : RateLimitStore → Prop
  | .memory buckets => ∀ key width bucket, buckets (bucketKey key width) = some bucket → bucket.expiresAt ≤ now + width
  | .redis cells => ∀ key width bucket cell expiresAt, cells (redisKey key width bucket) = some cell →
      cell.expiresAt = some expiresAt → (bucket + 1) * width ≤ expiresAt

private theorem RateLimitStore.Sound.mono {store : RateLimitStore} (sound : store.Sound now) (later : now ≤ now') :
    store.Sound now' := by
  cases store with
  | memory buckets =>
    intro key width bucket found
    have bound := sound key width bucket found
    omega
  | redis cells => exact sound

section Memory

variable {buckets : Buckets} {key : String} {width now : Int}

/-- A bucket is opened where none counts any more; else the one there counts on. -/
theorem memory_cases (buckets : Buckets) (key : String) (width now : Int) :
    (buckets.incrementAndGet key width now =
        (⟨1, width⟩, update buckets (bucketKey key width) (some ⟨1, now + width⟩)) ∧
      ∀ bucket, buckets (bucketKey key width) = some bucket → bucket.expiresAt ≤ now) ∨
    ∃ existing, buckets (bucketKey key width) = some existing ∧ now < existing.expiresAt ∧
      buckets.incrementAndGet key width now = (⟨existing.count + 1, existing.expiresAt - now⟩,
        update buckets (bucketKey key width) (some { existing with count := existing.count + 1 })) := by
  unfold Buckets.incrementAndGet
  dsimp only
  split
  · rename_i dead
    refine .inl ⟨rfl, ?_⟩
    intro bucket found
    rw [found, Option.filter_some] at dead
    split at dead
    · cases dead
    · rename_i ended
      simpa using ended
  · rename_i existing found
    rw [Option.filter_eq_some_iff, decide_eq_true_eq] at found
    refine .inr ⟨existing, found.1, found.2, ?_⟩
    rw [Int.max_eq_right (by omega)]

private theorem memory_counts (sound : (RateLimitStore.memory buckets).Sound now) (positive : 0 < width)
    (counted : buckets.incrementAndGet key width now = (result, next)) :
    Tally.Placed .memory ⟨key, width, now, result⟩ ∧ (RateLimitStore.memory next).Remembers ⟨key, width, now, result⟩ ∧
      (RateLimitStore.memory next).Sound now := by
  rcases memory_cases buckets key width now with ⟨opened, _⟩ | ⟨existing, found, live, grown⟩
  · cases opened.symm.trans counted
    refine ⟨⟨?_, ?_, Nat.le_refl 1⟩, ⟨_, update_self .., .inl ⟨?_, Nat.le_refl 1⟩⟩, ?_⟩
    · simp only [Tally.start]; omega
    · simp only [Tally.start]; omega
    · simp only [Tally.start]; omega
    · intro key' width' bucket found
      by_cases same : bucketKey key' width' = bucketKey key width
      · rw [same, update_self] at found
        cases found
        rw [(bucketKey_inj.mp same).2]
      · rw [update_of_ne same] at found
        exact sound key' width' bucket found
  · cases grown.symm.trans counted
    have bound := sound key width existing found
    refine ⟨⟨?_, ?_, Nat.le_add_left 1 _⟩, ⟨_, update_self .., .inl ⟨?_, Nat.le_refl _⟩⟩, ?_⟩
    · simp only [Tally.start]; omega
    · simp only [Tally.start]; omega
    · simp only [Tally.start]; omega
    · intro key' width' bucket found'
      by_cases same : bucketKey key' width' = bucketKey key width
      · rw [same, update_self] at found'
        cases found'
        rw [(bucketKey_inj.mp same).2]
        exact bound
      · rw [update_of_ne same] at found'
        exact sound key' width' bucket found'

/-- What the store knew of it still knows, and it counts on from there. -/
theorem memory_keeps (positive : 0 < tally.windowSeconds) (remembers : (RateLimitStore.memory buckets).Remembers tally)
    (counted : buckets.incrementAndGet key width now = (result, next)) :
    (RateLimitStore.memory next).Remembers tally ∧ tally.Then .memory ⟨key, width, now, result⟩ := by
  obtain ⟨bucket, held, ends⟩ := remembers
  by_cases same : bucketKey tally.key tally.windowSeconds = bucketKey key width
  · obtain ⟨keys, widths⟩ := bucketKey_inj.mp same
    rcases memory_cases buckets key width now with ⟨opened, dead⟩ | ⟨existing, found, live, grown⟩
    · cases opened.symm.trans counted
      have gone := dead bucket (by rw [← same]; exact held)
      refine ⟨⟨_, by rw [same, update_self], .inr ?_⟩, fun _ _ => .inr ?_⟩
      · dsimp only
        omega
      · simp only [Tally.start] at *
        omega
    · cases grown.symm.trans counted
      rw [same, found] at held
      cases held
      refine ⟨⟨_, by rw [same, update_self], ?_⟩, fun _ _ => ?_⟩
      · dsimp only
        omega
      · simp only [Tally.start] at *
        omega
  · have other : next (bucketKey tally.key tally.windowSeconds) = some bucket := by
      rcases memory_cases buckets key width now with ⟨opened, _⟩ | ⟨existing, _, _, grown⟩
      · cases opened.symm.trans counted
        rw [update_of_ne same]
        exact held
      · cases grown.symm.trans counted
        rw [update_of_ne same]
        exact held
    exact ⟨⟨bucket, other, ends⟩, fun keys widths => absurd (bucketKey_inj.mpr ⟨keys, widths⟩) same⟩

end Memory

section Redis

variable {cells : Cells} {key : String} {width now : Int}

/-- A counter that is not gone yet. -/
def Cell.Live (now : Int) (cell : Cell) : Prop :=
  ∀ expiresAt, cell.expiresAt = some expiresAt → now < expiresAt

/-- A call has counted: on from a counter that is not gone yet, which goes when it would have
gone, or a window from now. -/
structure Counts (cells : Cells) (redisKey : String) (width now : Int) (cell : Cell) (next : Cells) : Prop where
  written : next = update cells redisKey (some cell)
  positive : 1 ≤ cell.count
  more : ∀ old, cells redisKey = some old → old.Live now → old.count < cell.count
  goes : ∀ expiresAt, cell.expiresAt = some expiresAt →
    expiresAt = now + width ∨ ∃ old, cells redisKey = some old ∧ old.expiresAt = some expiresAt

private theorem find_live {redisKey : String} : cells.find now redisKey = some cell ↔
    cells redisKey = some cell ∧ cell.Live now := by
  rw [Cells.find, Option.filter_eq_some_iff, Option.all_eq_true]
  simp [Cell.Live]

private theorem incr_counts (cells : Cells) (redisKey : String) (width now : Int) :
    ∃ cell, (cells.incr now redisKey).1 = cell.count ∧ Counts cells redisKey width now cell (cells.incr now redisKey).2 := by
  unfold Cells.incr
  split
  · rename_i missing
    refine ⟨⟨1, none⟩, rfl, rfl, Nat.le_refl 1, ?_, fun _ absent => nomatch absent⟩
    intro old held live
    rw [find_live.mpr ⟨held, live⟩] at missing
    cases missing
  · rename_i cell found
    obtain ⟨held, live⟩ := find_live.mp found
    refine ⟨{ cell with count := cell.count + 1 }, rfl, rfl, Nat.le_add_left 1 _, ?_, fun _ goes => .inr ⟨cell, held, goes⟩⟩
    intro old held' _
    cases held.symm.trans held'
    exact Nat.lt_succ_self _

private theorem Counts.expired {redisKey : String} (counts : Counts cells redisKey width now cell next) :
    Counts cells redisKey width now { cell with expiresAt := some (now + width) } (next.expire now redisKey width) := by
  refine ⟨?_, counts.positive, counts.more, ?_⟩
  · rw [Cells.expire, counts.written, update_self, update_idem]
    rfl
  · intro expiresAt goes
    cases goes
    exact .inl rfl

/-- A call of Redis leaves it as it was and fails, or counts. -/
theorem redis_cases (counted : cells.incrementAndGet calling key width now = (answer, next)) :
    (next = cells ∧ ∃ error, answer = .error error) ∨
    ∃ cell, Counts cells (redisKey key width (now / width)) width now cell next ∧
      ∀ result, answer = .ok result → result.count = cell.count := by
  obtain ⟨cell, count, counts⟩ := incr_counts cells (redisKey key width (now / width)) width now
  unfold Cells.incrementAndGet at counted
  dsimp only at counted
  generalize cells.incr now (redisKey key width (now / width)) = incremented at counted count counts
  split at counted
  · split at counted
    · rename_i error cells' failed
      cases counted
      rcases Fate.executed failed with ⟨value, done, _⟩ | ⟨same, _⟩
      · cases done
        exact .inr ⟨cell, counts, fun _ failed => nomatch failed⟩
      · exact .inl ⟨same, error, rfl⟩
    · rename_i number cells' acknowledged
      have done := Fate.executed_ok acknowledged
      cases done
      split at counted
      · split at counted
        · rename_i error cells' failed
          cases counted
          rcases Fate.executed failed with ⟨value, done, _⟩ | ⟨same, _⟩
          · cases done
            exact .inr ⟨_, counts.expired, fun _ failed => nomatch failed⟩
          · rw [same]
            exact .inr ⟨cell, counts, fun _ failed => nomatch failed⟩
        · rename_i cells' expired
          have done := Fate.executed_ok expired
          cases done
          cases counted
          refine .inr ⟨_, counts.expired, ?_⟩
          intro result same
          cases same
          exact count
      · cases counted
        refine .inr ⟨cell, counts, ?_⟩
        intro result same
        cases same
        exact count
  · cases counted
    exact .inl ⟨rfl, _, rfl⟩

private theorem window_ends (now : Int) (positive : 0 < width) : now < now / width * width + width := by
  have rest := Int.emod_lt_of_pos now positive
  have whole := Int.mul_ediv_add_emod now width
  rw [Int.mul_comm] at whole
  omega

private theorem window_starts (now : Int) (positive : 0 < width) : now / width * width ≤ now :=
  Int.ediv_mul_le now (by omega)

/-- A window of Redis with the same number is the same window. -/
theorem redis_counts (sound : (RateLimitStore.redis cells).Sound now) (positive : 0 < width)
    (counted : cells.incrementAndGet calling key width now = (answer, next)) :
    (RateLimitStore.redis next).Sound now ∧ ∀ result, answer = .ok result →
      Tally.Placed .redis ⟨key, width, now, result⟩ ∧ (RateLimitStore.redis next).Remembers ⟨key, width, now, result⟩ := by
  rcases redis_cases counted with ⟨same, error, failed⟩ | ⟨cell, counts, count⟩
  · subst same failed
    exact ⟨sound, fun _ done => nomatch done⟩
  · have ends := window_ends now positive
    have starts := window_starts now positive
    have goes : ∀ expiresAt, cell.expiresAt = some expiresAt → (now / width + 1) * width ≤ expiresAt := by
      intro expiresAt goes
      rcases counts.goes expiresAt goes with rfl | ⟨old, held, goes⟩
      · rw [Int.add_mul, Int.one_mul]
        omega
      · exact sound key width _ old expiresAt held goes
    refine ⟨?_, ?_⟩
    · intro key' width' bucket other expiresAt held goes'
      rw [counts.written] at held
      by_cases same : redisKey key' width' bucket = redisKey key width (now / width)
      · obtain ⟨_, rfl, rfl⟩ := redisKey_inj.mp same
        rw [same, update_self] at held
        cases held
        exact goes expiresAt goes'
      · rw [update_of_ne same] at held
        exact sound key' width' bucket other expiresAt held goes'
    · intro result done
      have number := count result done
      refine ⟨⟨starts, ends, by dsimp only; rw [number]; exact counts.positive⟩, cell, ?_, Nat.le_of_eq number, ?_⟩
      · rw [counts.written]
        exact update_self ..
      · intro expiresAt goes'
        have bound := goes expiresAt goes'
        rw [Int.add_mul, Int.one_mul] at bound
        exact bound

private theorem redis_keeps (positive : 0 < tally.windowSeconds) (past : tally.nowSeconds ≤ now)
    (remembers : (RateLimitStore.redis cells).Remembers tally)
    (counted : cells.incrementAndGet calling key width now = (answer, next)) :
    (RateLimitStore.redis next).Remembers tally ∧
      ∀ result, answer = .ok result → tally.Then .redis ⟨key, width, now, result⟩ := by
  obtain ⟨old, held, count, goes⟩ := remembers
  rcases redis_cases counted with ⟨same, error, failed⟩ | ⟨cell, counts, number⟩
  · subst same failed
    exact ⟨⟨old, held, count, goes⟩, fun _ done => nomatch done⟩
  · by_cases same : redisKey tally.key tally.windowSeconds (tally.nowSeconds / tally.windowSeconds) =
        redisKey key width (now / width)
    · obtain ⟨keys, rfl, buckets⟩ := redisKey_inj.mp same
      have ends := window_ends now positive
      rw [← buckets] at ends
      have live : old.Live now := fun expiresAt goes' => Int.lt_of_lt_of_le ends (goes expiresAt goes')
      have more := counts.more old (same ▸ held) live
      refine ⟨⟨cell, ?_, by omega, ?_⟩, ?_⟩
      · rw [counts.written, same]
        exact update_self ..
      · intro expiresAt goes'
        rcases counts.goes expiresAt goes' with rfl | ⟨old', held', goes'⟩
        · have starts := window_starts now positive
          rw [← buckets] at starts
          exact Int.add_le_add_right starts _
        · rw [← same, held] at held'
          cases held'
          exact goes expiresAt goes'
      · intro result done _ _
        refine .inl ⟨?_, ?_⟩
        · simp only [Tally.start, buckets]
        · dsimp only
          rw [number result done]
          omega
    · refine ⟨⟨old, ?_, count, goes⟩, ?_⟩
      · rw [counts.written, update_of_ne same]
        exact held
      · intro result done keys widths
        have order : tally.nowSeconds / tally.windowSeconds ≤ now / tally.windowSeconds :=
          Int.ediv_le_ediv positive past
        have apart : tally.nowSeconds / tally.windowSeconds ≠ now / tally.windowSeconds := by
          intro buckets
          have widths : tally.windowSeconds = width := widths
          have keys : tally.key = key := keys
          exact same (by rw [buckets, keys, widths])
        have next : tally.nowSeconds / tally.windowSeconds + 1 ≤ now / tally.windowSeconds := by omega
        have scaled := Int.mul_le_mul_of_nonneg_right next (Int.le_of_lt positive)
        rw [Int.add_mul, Int.one_mul] at scaled
        have widths : tally.windowSeconds = width := widths
        right
        dsimp only [Tally.start]
        rw [← widths]
        exact scaled

end Redis

section Store

variable {store next : RateLimitStore} {key : String} {width now : Int}

private theorem store_counts (sound : store.Sound now) (positive : 0 < width)
    (counted : store.incrementAndGet calling key width now = (answer, next)) :
    next.mode = store.mode ∧ next.Sound now ∧ ∀ result, answer = .ok result →
      Tally.Placed store.mode ⟨key, width, now, result⟩ ∧ next.Remembers ⟨key, width, now, result⟩ := by
  cases store with
  | memory buckets =>
    cases counted
    obtain ⟨placed, remembers, sound'⟩ := memory_counts sound positive rfl
    refine ⟨rfl, sound', ?_⟩
    intro result same
    cases same
    exact ⟨placed, remembers⟩
  | redis cells =>
    cases counted
    obtain ⟨sound', counts⟩ := redis_counts sound positive rfl
    exact ⟨rfl, sound', counts⟩

theorem store_keeps (positive : 0 < tally.windowSeconds) (past : tally.nowSeconds ≤ now) (remembers : store.Remembers tally)
    (counted : store.incrementAndGet calling key width now = (answer, next)) :
    next.Remembers tally ∧ ∀ result, answer = .ok result → tally.Then store.mode ⟨key, width, now, result⟩ := by
  cases store with
  | memory buckets =>
    cases counted
    obtain ⟨remembers', later⟩ := memory_keeps positive remembers rfl
    refine ⟨remembers', ?_⟩
    intro result same
    cases same
    exact later
  | redis cells =>
    cases counted
    exact redis_keeps positive past remembers rfl

end Store

end Windows

section Ledger

/-- The requests counted up to a time: the store remembers them all. -/
structure Ledger (mode : StoreMode) (store : RateLimitStore) (now : Int) (log : List Tally) : Prop where
  chosen : store.mode = mode
  sound : store.Sound now
  remembered : ∀ tally ∈ log, store.Remembers tally
  placed : ∀ tally ∈ log, tally.Placed mode ∧ 0 < tally.windowSeconds ∧ tally.nowSeconds ≤ now
  ordered : log.Pairwise (Tally.Then mode)

variable {mode : StoreMode} {store next : RateLimitStore} {log : List Tally} {config : RicardianRateLimitConfig}

private theorem Ledger.mono (ledger : Ledger mode store now log) (later : now ≤ now') : Ledger mode store now' log := by
  refine { ledger with sound := ledger.sound.mono later, placed := ?_ }
  intro tally member
  obtain ⟨placed, positive, past⟩ := ledger.placed tally member
  exact ⟨placed, positive, Int.le_trans past later⟩

private theorem Ledger.failed (ledger : Ledger mode store now log) (positive : 0 < width)
    (counted : store.incrementAndGet calling key width now = (.error error, next)) : Ledger mode next now log := by
  obtain ⟨same, sound, _⟩ := store_counts ledger.sound positive counted
  refine ⟨same.trans ledger.chosen, sound, ?_, ledger.placed, ledger.ordered⟩
  intro tally member
  obtain ⟨_, positive', past⟩ := ledger.placed tally member
  exact (store_keeps positive' past (ledger.remembered tally member) counted).1

private theorem Ledger.counted (ledger : Ledger mode store now log) (positive : 0 < width)
    (counted : store.incrementAndGet calling key width now = (.ok result, next)) :
    Ledger mode next now (log ++ [⟨key, width, now, result⟩]) := by
  obtain ⟨same, sound, counts⟩ := store_counts ledger.sound positive counted
  obtain ⟨placed, remembers⟩ := counts result rfl
  rw [ledger.chosen] at placed
  have kept : ∀ tally ∈ log, next.Remembers tally ∧ tally.Then mode ⟨key, width, now, result⟩ := by
    intro tally member
    obtain ⟨_, positive', past⟩ := ledger.placed tally member
    obtain ⟨remembers, later⟩ := store_keeps positive' past (ledger.remembered tally member) counted
    exact ⟨remembers, ledger.chosen ▸ later result rfl⟩
  refine ⟨same.trans ledger.chosen, sound, ?_, ?_, ?_⟩
  · intro tally member
    rcases List.mem_append.mp member with old | new
    · exact (kept tally old).1
    · rw [List.mem_singleton.mp new]
      exact remembers
  · intro tally member
    rcases List.mem_append.mp member with old | new
    · exact ledger.placed tally old
    · rw [List.mem_singleton.mp new]
      exact ⟨placed, positive, Int.le_refl now⟩
  · rw [List.pairwise_append]
    refine ⟨ledger.ordered, List.pairwise_singleton .., ?_⟩
    intro tally member later new
    rw [List.mem_singleton.mp new]
    exact (kept tally member).2

structure RateLimitWindowConfig.Positive (window : RateLimitWindowConfig) : Prop where
  limit : 0 < window.limit
  width : 0 < window.windowSeconds

structure RateLimitRouteConfig.Positive (policy : RateLimitRouteConfig) : Prop where
  burst : policy.burst.Positive
  sustained : policy.sustained.Positive

private theorem validateWindow_positive (valid : validateWindow window = .ok ()) : window.Positive := by
  unfold validateWindow at valid
  split at valid
  · cases valid
  · rename_i limit
    split at valid
    · cases valid
    · rename_i width
      exact ⟨Int.not_le.mp limit, Int.not_le.mp width⟩

private theorem validateConfig_positive (valid : validateConfig config = .ok ()) (kind : RouteKind) :
    (routePolicy config kind).Positive := by
  unfold validateConfig at valid
  obtain ⟨_, writeBurst, rest⟩ := bind_eq_ok.mp valid
  obtain ⟨_, writeSustained, rest⟩ := bind_eq_ok.mp rest
  obtain ⟨_, readBurst, readSustained⟩ := bind_eq_ok.mp rest
  cases kind with
  | write => exact ⟨validateWindow_positive writeBurst, validateWindow_positive writeSustained⟩
  | read => exact ⟨validateWindow_positive readBurst, validateWindow_positive readSustained⟩

/-- A request that goes on was counted in both windows, within their limits. -/
def Allowed (policy : RateLimitRouteConfig) (key : String) (now : Int) (tallies : List Tally) : Prop :=
  (∃ tally ∈ tallies, tally.key = key ++ ":burst" ∧ tally.windowSeconds = policy.burst.windowSeconds ∧
      tally.nowSeconds = now ∧ (tally.result.count : Int) ≤ policy.burst.limit) ∧
    ∃ tally ∈ tallies, tally.key = key ++ ":sustained" ∧ tally.windowSeconds = policy.sustained.windowSeconds ∧
      tally.nowSeconds = now ∧ (tally.result.count : Int) ≤ policy.sustained.limit

private theorem evaluateRoute_ledger {policy : RateLimitRouteConfig} (ledger : Ledger mode store now log)
    (positive : policy.Positive) (evaluated : evaluateRoute callings policy key now store = (verdict, tallies, next)) :
    Ledger mode next now (log ++ tallies) := by
  unfold evaluateRoute at evaluated
  split at evaluated
  · rename_i error store' failed
    cases evaluated
    rw [List.append_nil]
    exact ledger.failed positive.burst.width failed
  · rename_i burst store' counted
    have first := ledger.counted positive.burst.width counted
    dsimp only at evaluated
    split at evaluated
    · cases evaluated
      exact first
    · split at evaluated
      · rename_i error store'' failed
        cases evaluated
        exact first.failed positive.sustained.width failed
      · rename_i sustained store'' counted'
        have second := first.counted positive.sustained.width counted'
        rw [List.append_assoc, List.singleton_append] at second
        split at evaluated
        · cases evaluated
          exact second
        · cases evaluated
          exact second

private theorem evaluateRoute_allowed {policy : RateLimitRouteConfig}
    (evaluated : evaluateRoute callings policy key now store = (.next headers, tallies, next)) :
    Allowed policy key now tallies := by
  unfold evaluateRoute at evaluated
  split at evaluated
  · cases evaluated
  · dsimp only at evaluated
    split at evaluated
    · cases evaluated
    · rename_i within
      split at evaluated
      · cases evaluated
      · split at evaluated
        · cases evaluated
        · rename_i within'
          cases evaluated
          exact ⟨⟨_, List.mem_cons_self, rfl, rfl, rfl, Int.not_lt.mp within⟩,
            _, List.mem_cons_of_mem _ List.mem_cons_self, rfl, rfl, rfl, Int.not_lt.mp within'⟩

/-- What the limiter counts a request of a caller under. -/
def requestKey (kind : RouteKind) (caller : String) : String := kind.value ++ ":" ++ caller

theorem serveRequest_ledger (ledger : Ledger mode store arrival.nowSeconds log) (valid : validateConfig config = .ok ())
    (served : serveRequest config arrival store = (visit, next)) :
    Ledger mode next arrival.nowSeconds (log ++ visit.tallies) := by
  unfold serveRequest at served
  have nothing : Ledger mode store arrival.nowSeconds (log ++ []) := by
    rw [List.append_nil]
    exact ledger
  have counted : ∀ verdict tallies next', limiter arrival.callings config arrival.nowSeconds arrival.req store =
      (verdict, tallies, next') → Ledger mode next' arrival.nowSeconds (log ++ tallies) := by
    intro verdict tallies next' limited
    unfold limiter at limited
    split at limited
    · cases limited
      exact nothing
    · exact evaluateRoute_ledger ledger (validateConfig_positive valid _) limited
  split at served
  · cases served
    exact nothing
  · split at served
    · split at served
      · rename_i limited
        cases served
        exact counted _ _ _ limited
      · rename_i limited
        cases served
        exact counted _ _ _ limited
    · cases served
      exact nothing

private theorem serveRequests_ledger (valid : validateConfig config = .ok ()) (ledger : Ledger mode store now log)
    (times : arrivals.Pairwise fun arrival later => arrival.nowSeconds ≤ later.nowSeconds)
    (after : ∀ arrival ∈ arrivals, now ≤ arrival.nowSeconds) :
    ∃ final now', Ledger mode final now' (log ++ (serveRequests config arrivals store).flatMap Visit.tallies) := by
  induction arrivals generalizing store now log with
  | nil =>
    refine ⟨store, now, ?_⟩
    rw [serveRequests, List.flatMap_nil, List.append_nil]
    exact ledger
  | cons arrival arrivals ih =>
    obtain ⟨first, rest⟩ := List.pairwise_cons.mp times
    have served := serveRequest_ledger (ledger.mono (after arrival List.mem_cons_self)) valid rfl
    obtain ⟨final, now', run⟩ := ih served rest first
    refine ⟨final, now', ?_⟩
    rw [serveRequests, List.flatMap_cons, ← List.append_assoc]
    exact run

end Ledger

section Limits

def Tally.count (tally : Tally) : Nat := tally.result.count

variable {config : RicardianRateLimitConfig} {mode : StoreMode}

/-- A window in which the store counts: in memory one that it counted a request in, in Redis any
that it can count in. -/
def StoreWindow (mode : StoreMode) (log : List Tally) (key : String) (width start : Int) : Prop :=
  match mode with
  | .memory => ∃ tally ∈ log, tally.key = key ∧ tally.windowSeconds = width ∧ tally.start .memory = start
  | .redis => ∃ number, start = number * width

/-- Counts that rise from one on are as many as the last one says. -/
theorem rising_length {counts : List Nat} (rising : counts.Pairwise (· < ·)) (positive : ∀ count ∈ counts, 1 ≤ count)
    (bounded : ∀ count ∈ counts, count ≤ limit) : counts.length ≤ limit := by
  have distinct : counts.Nodup := rising.imp Nat.ne_of_lt
  rw [← List.toFinset_card_of_nodup distinct]
  refine Nat.le_trans (Finset.card_le_card (t := Finset.Icc 1 limit) ?_) (by simp)
  intro count member
  rw [List.mem_toFinset] at member
  exact Finset.mem_Icc.mpr ⟨positive count member, bounded count member⟩

/-- A request counted within a limit, in one window. -/
def Tally.Within (tally : Tally) (key : String) (width start limit : Int) : Prop :=
  tally.key = key ∧ tally.windowSeconds = width ∧ (start ≤ tally.nowSeconds ∧ tally.nowSeconds < start + width) ∧
    (tally.result.count : Int) ≤ limit

instance (tally : Tally) (key : String) (width start limit : Int) : Decidable (tally.Within key width start limit) :=
  inferInstanceAs (Decidable (_ ∧ _ ∧ (_ ∧ _) ∧ _))

/-- The windows are the same or apart, if they are of one key. -/
def Tally.Apart (mode : StoreMode) (tally other : Tally) : Prop :=
  tally.key = other.key → tally.windowSeconds = other.windowSeconds → tally.start mode = other.start mode ∨
    tally.start mode + tally.windowSeconds ≤ other.start mode ∨ other.start mode + other.windowSeconds ≤ tally.start mode

instance : Std.Symm (Tally.Apart mode) where
  symm tally other apart keys widths := by
    rcases apart keys.symm widths.symm with same | before | after
    · exact .inl same.symm
    · exact .inr (.inr before)
    · exact .inr (.inl after)

private theorem windows_apart {log : List Tally} (ordered : log.Pairwise (Tally.Then mode)) (member : tally ∈ log)
    (member' : other ∈ log) : tally.Apart mode other := by
  have pairs : log.Pairwise (Tally.Apart mode) := by
    refine ordered.imp ?_
    intro tally other later keys widths
    rcases later keys widths with ⟨same, _⟩ | before
    · exact .inl same
    · exact .inr (.inl before)
  exact pairs.forall_of_forall (fun _ _ _ _ => .inl rfl) member member'

/-- A request counted within a window of the store is counted in this window. -/
theorem start_of_within {log : List Tally} (ordered : log.Pairwise (Tally.Then mode))
    (placed : ∀ tally ∈ log, tally.Placed mode ∧ 0 < tally.windowSeconds)
    (window : StoreWindow mode log tally.key tally.windowSeconds start) (member : tally ∈ log)
    (within : start ≤ tally.nowSeconds ∧ tally.nowSeconds < start + tally.windowSeconds) : tally.start mode = start := by
  obtain ⟨⟨starts, ends, _⟩, positive⟩ := placed tally member
  cases mode with
  | memory =>
    obtain ⟨first, counted, keys, widths, rfl⟩ := window
    rcases windows_apart ordered counted member keys widths with same | before | after
    · exact same.symm
    · omega
    · omega
  | redis =>
    obtain ⟨number, rfl⟩ := window
    have same : tally.nowSeconds / tally.windowSeconds = number := by
      rw [Int.ediv_eq_iff_of_pos positive]
      exact within
    rw [Tally.start, same]

private theorem within_length {log : List Tally} (limit : Int) (ordered : log.Pairwise (Tally.Then mode))
    (placed : ∀ tally ∈ log, tally.Placed mode ∧ 0 < tally.windowSeconds) (window : StoreWindow mode log key width start) :
    (log.countP fun tally => tally.Within key width start limit) ≤ limit.toNat := by
  have starts : ∀ tally ∈ log.filter fun tally => tally.Within key width start limit,
      tally ∈ log ∧ tally.Within key width start limit ∧ tally.start mode = start := by
    intro tally member
    obtain ⟨counted, within⟩ := List.mem_filter.mp member
    have within := of_decide_eq_true within
    obtain ⟨rfl, rfl, inside, _⟩ := within
    exact ⟨counted, of_decide_eq_true (List.mem_filter.mp member).2, start_of_within ordered placed window counted inside⟩
  rw [List.countP_eq_length_filter, ← List.length_map Tally.count]
  apply rising_length
  · rw [List.pairwise_map]
    refine (ordered.filter _).imp_of_mem ?_
    intro tally other member member' later
    obtain ⟨counted, ⟨keys, widths, _, _⟩, same⟩ := starts tally member
    obtain ⟨counted', ⟨keys', widths', _, _⟩, same'⟩ := starts other member'
    obtain ⟨_, positive⟩ := placed tally counted
    rcases later (keys.trans keys'.symm) (widths.trans widths'.symm) with ⟨_, less⟩ | before
    · exact less
    · omega
  · intro count member
    obtain ⟨tally, counted, rfl⟩ := List.mem_map.mp member
    exact (placed tally (starts tally counted).1).1.counted
  · intro count member
    obtain ⟨tally, counted, rfl⟩ := List.mem_map.mp member
    obtain ⟨_, ⟨_, _, _, bounded⟩, _⟩ := starts tally counted
    change tally.result.count ≤ _
    omega

end Limits

section Spelling

/-- The path spells `hash` in lower case, and the method is not `HEAD`. -/
def Spelled (req : LimitedRequest) : Prop :=
  req.path.toList.take 5 = "/hash".toList ∧ req.method.toList.map Char.toLower ≠ "head".toList

instance : DecidablePred Spelled := fun req =>
  inferInstanceAs (Decidable (req.path.toList.take 5 = "/hash".toList ∧ req.method.toList.map Char.toLower ≠ "head".toList))

private theorem upper_of_lower {text lower upper : List Char} (raised : lower.map Char.toUpper = upper)
    (same : text.map Char.toLower = lower) : text.map Char.toUpper = upper := by
  rw [← raised, ← same, List.map_map]
  exact List.map_congr_left fun char _ => (Char.toUpper_toLower_eq_toUpper char).symm

private theorem lower_of_upper {text lower upper : List Char} (lowered : upper.map Char.toLower = lower)
    (same : text.map Char.toUpper = upper) : text.map Char.toLower = lower := by
  rw [← lowered, ← same, List.map_map]
  exact List.map_congr_left fun char _ => (Char.toLower_toUpper_eq_toLower char).symm

/-- What is left without the slashes at the end is where the path starts. -/
theorem normalize_prefix (long : 1 < (normalizeRoutePath path).length) : normalizeRoutePath path <+: path := by
  unfold normalizeRoutePath at *
  split
  · exact List.prefix_refl path
  · rename_i longer
    rw [if_neg longer] at long
    dsimp only at *
    split
    · rename_i empty
      rw [if_pos empty] at long
      exact absurd long (by decide)
    · rw [← List.reverse_suffix, List.reverse_reverse]
      exact List.dropWhile_suffix _

private theorem dropSlashes {body : List Char} (last : body.getLast? ≠ some '/') :
    body.reverse.dropWhile (· = '/') = body.reverse := by
  apply dropWhile_fixed
  intro char member
  rw [List.head?_reverse] at member
  exact decide_eq_false fun same => last (same ▸ member)

private theorem normalize_plain {body : List Char} (filled : body ≠ []) (last : body.getLast? ≠ some '/') :
    normalizeRoutePath body = body := by
  unfold normalizeRoutePath
  split
  · rfl
  · dsimp only
    rw [dropSlashes last, List.reverse_reverse, if_neg filled]

/-- A slash at the end is taken off. -/
theorem normalize_slash {body : List Char} (filled : body ≠ []) (last : body.getLast? ≠ some '/') :
    normalizeRoutePath (body ++ ['/']) = body := by
  have length := List.length_pos_of_ne_nil filled
  have long : ¬ (body ++ ['/']).length ≤ 1 := by
    rw [List.length_append, List.length_singleton]
    omega
  rw [normalizeRoutePath, if_neg long]
  dsimp only
  rw [List.reverse_append, List.reverse_singleton, List.singleton_append, List.dropWhile_cons_of_pos (by decide),
    dropSlashes last, List.reverse_reverse, if_neg filled]

theorem take_five {path : List Char} (start : path.take 6 = "/hash/".toList) : path.take 5 = "/hash".toList := by
  have shorter : (path.take 6).take 5 = path.take 5 := List.take_take
  rw [← shorter, start]
  decide

/-- What `hashParam` found in a path. -/
theorem hashParam_path {path : List Char} (found : hashParam path = some param) :
    (path.take 6).map Char.toLower = "/hash/".toList ∧ param ≠ [] ∧ '/' ∉ param ∧
      (path = path.take 6 ++ param ∨ path = path.take 6 ++ param ++ ['/']) := by
  unfold hashParam at found
  rw [Option.ite_none_right_eq_some] at found
  obtain ⟨start, found⟩ := found
  dsimp only at found
  rw [Option.ite_none_right_eq_some] at found
  obtain ⟨⟨filled, plain⟩, same⟩ := found
  cases same
  refine ⟨start, filled, plain, ?_⟩
  by_cases slash : (path.drop 6).getLast? = some '/'
  · right
    rw [if_pos slash, List.append_assoc, List.dropLast_append_getLast? '/' slash, List.take_append_drop]
  · left
    rw [if_neg slash, List.take_append_drop]

private theorem take_six {path : List Char} (start : path.take 5 = "/hash".toList)
    (folded : (path.take 6).map Char.toLower = "/hash/".toList) : path.take 6 = "/hash/".toList := by
  have split : path.take 6 = path.take 5 ++ (path.drop 5).take 1 := List.take_add (i := 5) (j := 1)
  have whole : "/hash/".toList = "/hash".toList ++ ['/'] := by decide
  have lowered : "/hash".toList.map Char.toLower = "/hash".toList := by decide
  rw [split, start, List.map_append, lowered, whole] at folded
  obtain ⟨char, last, slash⟩ := List.map_eq_singleton_iff.mp (List.append_cancel_left folded)
  rw [split, start, last, (toLower_mark (by decide) char).mp slash, whole]

variable {req : LimitedRequest}

theorem spelled_write (method : req.method.toList.map Char.toLower = "post".toList) (found : matchesHash req.path.toList) :
    routeKind req = some .write ↔ Spelled req := by
  have upper : req.method.toList.map Char.toUpper = "POST".toList := upper_of_lower (by decide) method
  constructor
  · intro counted
    refine ⟨?_, by rw [method]; decide⟩
    unfold routeKind at counted
    dsimp only at counted
    split at counted
    · cases counted
    · split at counted
      · rename_i path
        have start : normalizeRoutePath req.path.toList <+: req.path.toList :=
          normalize_prefix (by rw [path.2]; decide)
        rw [path.2] at start
        exact (List.prefix_iff_eq_take.mp start).symm
      · split at counted
        · cases counted
        · cases counted
  · rintro ⟨start, _⟩
    have path : req.path.toList = "/hash".toList ∨ req.path.toList = "/hash".toList ++ ['/'] := by
      unfold matchesHash at found
      rw [Bool.or_eq_true, decide_eq_true_eq, decide_eq_true_eq] at found
      rcases found with short | long
      · left
        have length : req.path.toList.length ≤ 5 := by
          rw [← List.length_map Char.toLower, short]
          decide
        rw [← start, List.take_of_length_le length]
      · right
        have length : req.path.toList.length ≤ 6 := by
          rw [← List.length_map Char.toLower, long]
          decide
        have six := take_six start (by rw [List.take_of_length_le length]; exact long)
        rw [← List.take_of_length_le length, six]
        decide
    have normal : normalizeRoutePath req.path.toList = "/hash".toList := by
      rcases path with path | path
      · rw [path]
        exact normalize_plain (by decide) (by decide)
      · rw [path]
        exact normalize_slash (by decide) (by decide)
    rw [routeKind, normal, upper]
    decide

private theorem spelled_read (method : req.method.toList.map Char.toLower = "get".toList ∨
      req.method.toList.map Char.toLower = "head".toList) (found : hashParam req.path.toList = some param) :
    routeKind req = some .read ↔ Spelled req := by
  obtain ⟨folded, filled, plain, path⟩ := hashParam_path found
  constructor
  · intro counted
    unfold routeKind at counted
    dsimp only at counted
    split at counted
    · cases counted
    · split at counted
      · cases counted
      · split at counted
        · rename_i kind
          have start : normalizeRoutePath req.path.toList <+: req.path.toList := by
            apply normalize_prefix
            have length : (normalizeRoutePath req.path.toList).take 6 = "/hash/".toList := kind.2
            have six := congrArg List.length length
            rw [List.length_take] at six
            have value : "/hash/".toList.length = 6 := by decide
            omega
          refine ⟨take_five ?_, ?_⟩
          · obtain ⟨rest, same⟩ := start
            rw [← same, List.take_append_of_le_length, kind.2]
            have six := congrArg List.length kind.2
            rw [List.length_take] at six
            have value : "/hash/".toList.length = 6 := by decide
            omega
          · have lowered : "GET".toList.map Char.toLower = "get".toList := by decide
            rw [lower_of_upper lowered kind.1]
            decide
        · cases counted
  · rintro ⟨start, head⟩
    have get : req.method.toList.map Char.toLower = "get".toList := method.resolve_right head
    have upper : req.method.toList.map Char.toUpper = "GET".toList := upper_of_lower (by decide) get
    have last : ("/hash/".toList ++ param).getLast? ≠ some '/' := by
      rw [List.getLast?_append_of_ne_nil _ filled]
      exact fun same => plain (List.mem_of_getLast? same)
    have normal : normalizeRoutePath req.path.toList = "/hash/".toList ++ param := by
      rw [take_six start folded] at path
      rcases path with path | path
      · rw [path]
        exact normalize_plain (List.append_ne_nil_of_right_ne_nil _ filled) last
      · rw [path]
        exact normalize_slash (List.append_ne_nil_of_right_ne_nil _ filled) last
    have health : "/hash/".toList ++ param ≠ "/health".toList := by
      intro same
      have third := congrArg (List.take 6) same
      rw [List.take_left' (by decide)] at third
      exact absurd third (by decide)
    rw [routeKind, normal, upper]
    rw [if_neg health, if_neg (fun both => absurd both.1 (by decide)), if_pos ⟨rfl, List.take_left' (by decide)⟩]

/-- The limiter counts the requests of a route that are spelled as it spells them. -/
theorem routeKind_dispatched (routed : dispatched req = some kind) : routeKind req = some kind ↔ Spelled req := by
  unfold dispatched at routed
  dsimp only at routed
  split at routed
  · rename_i post
    cases routed
    exact spelled_write post.1 post.2
  · split at routed
    · rename_i get
      cases routed
      obtain ⟨_, found⟩ := Option.isSome_iff_exists.mp get.2
      obtain ⟨param, found, _⟩ := Option.bind_eq_some_iff.mp found
      exact spelled_read get.1 found
    · cases routed

end Spelling

section Limits

variable {config : RicardianRateLimitConfig}

inductive WindowName where
  | burst
  | sustained
  deriving DecidableEq, Repr

def WindowName.value : WindowName → String
  | .burst => "burst"
  | .sustained => "sustained"

def RateLimitRouteConfig.window (policy : RateLimitRouteConfig) : WindowName → RateLimitWindowConfig
  | .burst => policy.burst
  | .sustained => policy.sustained

private theorem RateLimitRouteConfig.Positive.window {policy : RateLimitRouteConfig} (positive : policy.Positive)
    (name : WindowName) : (policy.window name).Positive := by
  cases name with
  | burst => exact positive.burst
  | sustained => exact positive.sustained

/-- The key that a window of a caller is counted under. -/
def windowKey (kind : RouteKind) (caller : String) (name : WindowName) : String :=
  kind.value ++ ":" ++ caller ++ ":" ++ name.value

/-- A request of a caller that was passed on to a route within a window. -/
def Visit.PassedIn (visit : Visit) (kind : RouteKind) (caller : String) (start width : Int) : Prop :=
  visit.outcome = .passed kind ∧ callerKey visit.req = caller ∧ start ≤ visit.nowSeconds ∧ visit.nowSeconds < start + width

instance (visit : Visit) (kind : RouteKind) (caller : String) (start width : Int) :
    Decidable (visit.PassedIn kind caller start width) :=
  inferInstanceAs (Decidable (_ ∧ _ ∧ _ ∧ _))

/-- At most the limit of requests of any caller is passed on in any window of the store. -/
def Limited (config : RicardianRateLimitConfig) (mode : StoreMode) (visits : List Visit) : Prop :=
  ∀ kind caller name start,
    StoreWindow mode (visits.flatMap Visit.tallies) (windowKey kind caller name)
        ((routePolicy config kind).window name).windowSeconds start →
      ((visits.countP fun visit =>
          visit.PassedIn kind caller start ((routePolicy config kind).window name).windowSeconds : Nat) : Int) ≤
        ((routePolicy config kind).window name).limit

private theorem windowKey_eq (kind : RouteKind) (caller : String) (name : WindowName) :
    windowKey kind caller name = requestKey kind caller ++ (":" ++ name.value) := by
  rw [windowKey, requestKey, String.append_assoc]

theorem Allowed.within {policy : RateLimitRouteConfig} (allowed : Allowed policy (requestKey kind caller) now tallies)
    (name : WindowName) (inside : start ≤ now ∧ now < start + (policy.window name).windowSeconds) :
    ∃ tally ∈ tallies, tally.Within (windowKey kind caller name) (policy.window name).windowSeconds start
      (policy.window name).limit := by
  obtain ⟨⟨burst, member, keys, widths, same, bounded⟩, sustained, member', keys', widths', same', bounded'⟩ := allowed
  rw [windowKey_eq]
  cases name with
  | burst => exact ⟨burst, member, keys, widths, same ▸ inside, bounded⟩
  | sustained => exact ⟨sustained, member', keys', widths', same' ▸ inside, bounded'⟩

/-- A request that is passed on was counted within both limits, where the limiter counts it. -/
theorem serveRequest_allowed (counted : ∀ kind, dispatched arrival.req = some kind → routeKind arrival.req = some kind)
    (served : serveRequest config arrival store = (visit, next)) (passed : visit.outcome = .passed kind) :
    Allowed (routePolicy config kind) (requestKey kind (callerKey visit.req)) visit.nowSeconds visit.tallies := by
  unfold serveRequest at served
  split at served
  · cases served
    cases passed
  · rename_i kind' routed
    split at served
    · split at served
      · rename_i headers tallies store' limited
        cases served
        cases passed
        unfold limiter at limited
        rw [counted _ routed] at limited
        exact evaluateRoute_allowed limited
      · cases served
        cases passed
    · cases served
      cases passed

private theorem serveRequests_each (visited : visit ∈ serveRequests config arrivals store) :
    ∃ arrival ∈ arrivals, ∃ store next, serveRequest config arrival store = (visit, next) := by
  induction arrivals generalizing store with
  | nil => cases visited
  | cons arrival arrivals ih =>
    rw [serveRequests] at visited
    rcases List.mem_cons.mp visited with rfl | later
    · exact ⟨arrival, List.mem_cons_self, store, _, rfl⟩
    · obtain ⟨other, member, served⟩ := ih later
      exact ⟨other, List.mem_cons_of_mem _ member, served⟩

/-- Where each of some visits has an entry of a kind, there are as many such entries. -/
theorem countP_flatMap_le {visits : List Visit} {chosen : Visit → Bool} {entry : Tally → Bool}
    (each : ∀ visit ∈ visits, chosen visit = true → ∃ tally ∈ visit.tallies, entry tally = true) :
    visits.countP chosen ≤ (visits.flatMap Visit.tallies).countP entry := by
  induction visits with
  | nil => exact Nat.le_refl 0
  | cons visit visits ih =>
    have rest := ih fun other member => each other (List.mem_cons_of_mem _ member)
    rw [List.countP_cons, List.flatMap_cons, List.countP_append]
    split
    · rename_i chosen
      have one : 0 < visit.tallies.countP entry := List.countP_pos_iff.mpr (each visit List.mem_cons_self chosen)
      omega
    · omega

private theorem created_ledger (created : createRateLimiter calling startTime config = .ok store) (now : Int) :
    validateConfig config = .ok () ∧ Ledger store.mode store now [] := by
  obtain ⟨_, valid, chosen⟩ := bind_eq_ok.mp created
  refine ⟨valid, rfl, ?_, (fun _ none => nomatch none), (fun _ none => nomatch none), .nil⟩
  unfold chooseStore at chosen
  have memory : (RateLimitStore.memory fun _ => none).Sound now := fun _ _ _ none => nomatch none
  split at chosen
  · split at chosen
    · cases chosen
    · cases chosen
      exact memory
  · split at chosen
    · rename_i result cells counted
      cases chosen
      have empty : (RateLimitStore.redis fun _ => none).Sound startTime := fun _ _ _ _ _ none => nomatch none
      exact (redis_counts empty (by decide) counted).1
    · split at chosen
      · cases chosen
      · cases chosen
        exact memory

/-- Where the requests that reach a route are spelled as the limiter spells them, it keeps its limits
in every window, and what goes on was within both. -/
theorem limiter_covers (created : createRateLimiter calling startTime config = .ok store)
    (times : arrivals.Pairwise fun arrival later => arrival.nowSeconds ≤ later.nowSeconds)
    (spelled : ∀ arrival ∈ arrivals, (dispatched arrival.req).isSome → Spelled arrival.req) :
    Limited config store.mode (serveRequests config arrivals store) ∧
      ∀ visit ∈ serveRequests config arrivals store, ∀ kind, visit.outcome = .passed kind →
        Allowed (routePolicy config kind) (requestKey kind (callerKey visit.req)) visit.nowSeconds visit.tallies := by
  have allowed : ∀ visit ∈ serveRequests config arrivals store, ∀ kind, visit.outcome = .passed kind →
      Allowed (routePolicy config kind) (requestKey kind (callerKey visit.req)) visit.nowSeconds visit.tallies := by
    intro visit visited kind passed
    obtain ⟨arrival, member, before, next, served⟩ := serveRequests_each visited
    refine serveRequest_allowed ?_ served passed
    intro kind routed
    exact (routeKind_dispatched routed).mpr (spelled arrival member (by rw [routed]; rfl))
  refine ⟨?_, allowed⟩
  have valid := (created_ledger created 0).1
  have run : ∃ final now', Ledger store.mode final now' ([] ++ (serveRequests config arrivals store).flatMap Visit.tallies) := by
    cases arrivals with
    | nil => exact ⟨store, 0, (created_ledger created 0).2⟩
    | cons arrival arrivals =>
      refine serveRequests_ledger valid (created_ledger created arrival.nowSeconds).2 times ?_
      intro other member
      rcases List.mem_cons.mp member with rfl | later
      · exact Int.le_refl _
      · exact (List.pairwise_cons.mp times).1 other later
  obtain ⟨final, now', ledger⟩ := run
  rw [List.nil_append] at ledger
  intro kind caller name start window
  have entered : ∀ visit ∈ serveRequests config arrivals store,
      decide (visit.PassedIn kind caller start ((routePolicy config kind).window name).windowSeconds) = true →
        ∃ tally ∈ visit.tallies, decide (tally.Within (windowKey kind caller name)
          ((routePolicy config kind).window name).windowSeconds start ((routePolicy config kind).window name).limit) =
            true := by
    intro visit visited chosen
    obtain ⟨passed, rfl, inside⟩ := of_decide_eq_true chosen
    obtain ⟨tally, member, within⟩ := (allowed visit visited kind passed).within name inside
    exact ⟨tally, member, decide_eq_true within⟩
  have entries := countP_flatMap_le entered
  have bounded := within_length ((routePolicy config kind).window name).limit ledger.ordered
    (fun tally member => ⟨(ledger.placed tally member).1, (ledger.placed tally member).2.1⟩) window
  have positive := ((validateConfig_positive valid kind).window name).limit
  omega

/-- One request in ten seconds. -/
def strictConfig : RicardianRateLimitConfig where
  enabled := true
  redisUrl := none
  nodeEnv := "development"
  writeRoute := ⟨⟨1, 10⟩, ⟨1, 60⟩⟩
  readRoute := ⟨⟨1, 10⟩, ⟨1, 60⟩⟩

def post (path : String) : Arrival where
  req := ⟨"POST", path, none, some "10.0.0.1", none⟩
  nowSeconds := 1000
  authenticated := true
  callings := (.healthy, .healthy)

theorem repeated_covered : Limited strictConfig .memory
      (serveRequests strictConfig [post "/hash", post "/hash/"] (.memory fun _ => none)) ∧
    ∀ visit ∈ serveRequests strictConfig [post "/hash", post "/hash/"] (.memory fun _ => none), ∀ kind,
      visit.outcome = .passed kind → Allowed (routePolicy strictConfig kind)
        (requestKey kind (callerKey visit.req)) visit.nowSeconds visit.tallies :=
  limiter_covers
    (rfl : createRateLimiter .healthy 1000 strictConfig = .ok (.memory fun _ => none)) (by decide) (by decide)

/-- The second request is spelled otherwise and goes on uncounted, beyond the limit. -/
theorem capitals_uncounted : createRateLimiter .healthy 1000 strictConfig = .ok (.memory fun _ => none) ∧
    ¬ Limited strictConfig .memory
      (serveRequests strictConfig [post "/hash", post "/HASH"] (.memory fun _ => none)) := by
  refine ⟨rfl, ?_⟩
  intro limited
  have window : ∃ tally ∈ (serveRequests strictConfig [post "/hash", post "/HASH"] (.memory fun _ => none)).flatMap
      Visit.tallies, tally.key = windowKey .write "ip:10.0.0.1" .burst ∧ tally.windowSeconds = 10 ∧
        tally.start .memory = 1000 := by decide
  exact absurd (limited .write "ip:10.0.0.1" .burst 1000 window) (by decide)

end Limits

end Agroasys.Ricardian
