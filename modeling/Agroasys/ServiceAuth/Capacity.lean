import Mathlib.Data.List.Induction
import Agroasys.ServiceAuth.NonceStore

/-! What the in-memory nonce store answers: as the map of pairs does, but for the pairs that
its capacity crowded out. -/

namespace Agroasys.ServiceAuth

open Agroasys.Foundation Agroasys.Runtime

theorem Consumption.expires {call : Consumption} (checked : call.check = .ok ()) : call.now < call.expiresAt := by
  have positive : 0 < call.ttlSeconds := by
    obtain ⟨_, _, rest⟩ := bind_eq_ok.mp checked
    obtain ⟨_, _, last⟩ := bind_eq_ok.mp rest
    unfold assertPositiveInteger at last
    split at last
    · cases last
    · rename_i high
      exact Int.not_le.mp high
  unfold Consumption.expiresAt
  omega

section Held

theorem held_append (calls : List Consumption) (call : Consumption) :
    held (calls ++ [call]) = (consumePair call (held calls)).2 := by
  unfold held
  rw [List.foldl_append]
  rfl

theorem consumePair_error {call : Consumption} (failed : call.check = .error message) (rows : PairStore) :
    consumePair call rows = (.error message, rows) := by
  unfold consumePair
  rw [failed]

theorem consumePair_refused {call : Consumption} {rows : PairStore} (checked : call.check = .ok ())
    (member : entry ∈ rows) (same : entry.key = call.pair) (live : call.now < entry.expiresAt) :
    consumePair call rows = (.ok false, rows.filter fun other => call.now < other.expiresAt) := by
  unfold consumePair
  rw [checked]
  dsimp only
  rw [takeLease_held member same live]

theorem consumePair_accepted {call : Consumption} {rows : PairStore} (checked : call.check = .ok ())
    (free : ∀ entry ∈ rows, entry.key = call.pair → ¬ call.now < entry.expiresAt) :
    consumePair call rows =
      (.ok true, ⟨call.pair, call.expiresAt⟩ :: rows.filter fun other => call.now < other.expiresAt) := by
  unfold consumePair
  rw [checked]
  dsimp only
  rw [takeLease_free free]

/-- What a call does to the map of pairs. -/
theorem consumePair_cases (call : Consumption) (rows : PairStore) :
    (∃ message, call.check = .error message) ∨
      (call.check = .ok () ∧ ∃ entry ∈ rows, entry.key = call.pair ∧ call.now < entry.expiresAt) ∨
      (call.check = .ok () ∧ ∀ entry ∈ rows, entry.key = call.pair → ¬ call.now < entry.expiresAt) := by
  cases checked : call.check with
  | error message => exact .inl ⟨message, rfl⟩
  | ok _ =>
    right
    by_cases present : ∃ entry ∈ rows, entry.key = call.pair ∧ call.now < entry.expiresAt
    · exact .inl ⟨rfl, present⟩
    · exact .inr ⟨rfl, fun entry member same live => present ⟨entry, member, same, live⟩⟩

/-- The entries of the map are those of calls. -/
theorem held_from (calls : List Consumption) : ∀ entry ∈ held calls, ∃ call ∈ calls, entry.key = call.pair := by
  induction calls using List.reverseRecOn with
  | nil => exact List.forall_mem_nil _
  | append_singleton calls call ih =>
    have before : ∀ entry ∈ held calls, ∃ other ∈ calls ++ [call], entry.key = other.pair := by
      intro entry member
      obtain ⟨other, among, same⟩ := ih entry member
      exact ⟨other, List.mem_append_left _ among, same⟩
    rw [held_append]
    rcases consumePair_cases call (held calls) with
      ⟨message, failed⟩ | ⟨checked, _, member, same, live⟩ | ⟨checked, free⟩
    · rw [consumePair_error failed]
      exact before
    · rw [consumePair_refused checked member same live]
      exact fun entry member => before entry (List.mem_of_mem_filter member)
    · rw [consumePair_accepted checked free, List.forall_mem_cons]
      exact ⟨⟨call, by simp, rfl⟩, fun entry member => before entry (List.mem_of_mem_filter member)⟩

/-- The map has one entry for each pair. -/
theorem held_distinct (calls : List Consumption) : ((held calls).map Lease.key).Nodup := by
  induction calls using List.reverseRecOn with
  | nil => exact List.nodup_nil
  | append_singleton calls call ih =>
    have pruned : (((held calls).filter fun other => call.now < other.expiresAt).map Lease.key).Nodup :=
      ih.sublist (List.filter_sublist.map _)
    rw [held_append]
    rcases consumePair_cases call (held calls) with
      ⟨message, failed⟩ | ⟨checked, _, member, same, live⟩ | ⟨checked, free⟩
    · rw [consumePair_error failed]
      exact ih
    · rw [consumePair_refused checked member same live]
      exact pruned
    · rw [consumePair_accepted checked free, List.map_cons, List.nodup_cons]
      refine ⟨?_, pruned⟩
      intro among
      obtain ⟨entry, member, same⟩ := List.mem_map.mp among
      rw [List.mem_filter, decide_eq_true_eq] at member
      exact free entry member.1 same member.2

private theorem consumePair_keeps {call : Consumption} {rows : PairStore} (member : entry ∈ rows)
    (live : call.now < entry.expiresAt) : entry ∈ (consumePair call rows).2 := by
  unfold consumePair
  split
  · exact member
  · exact takeLease_keeps _ _ _ member live

/-- An entry that does not expire meanwhile stays. -/
theorem held_keeps (before rest : List Consumption) (member : entry ∈ held before)
    (live : ∀ call ∈ rest, call.now < entry.expiresAt) : entry ∈ held (before ++ rest) := by
  induction rest using List.reverseRecOn with
  | nil => rwa [List.append_nil]
  | append_singleton rest call ih =>
    rw [← List.append_assoc, held_append]
    apply consumePair_keeps
    · exact ih fun other among => live other (List.mem_append_left _ among)
    · exact live call (by simp)

theorem Crowded.later (crowded : Crowded maxEntries calls entry) : Crowded maxEntries (calls ++ [call]) entry := by
  obtain ⟨before, part, member⟩ := crowded
  exact ⟨before, part.trans (List.prefix_append _ _), member⟩

/-- What has been crowded out after a call was crowded out before, or is by it. -/
theorem Crowded.now (crowded : Crowded maxEntries (calls ++ [call]) entry) :
    Crowded maxEntries calls entry ∨ entry ∈ (held (calls ++ [call])).drop maxEntries := by
  obtain ⟨before, part, member⟩ := crowded
  rcases List.prefix_concat_iff.mp part with same | part
  · rw [← same]
    exact .inr member
  · exact .inl ⟨before, part, member⟩

end Held

section InMemory

/-- An entry as the in-memory store writes it. -/
def flatten (entry : Lease (String × String)) : String × Nat := (nonceKey entry.key, entry.expiresAt)

private theorem nonceKey_given (pair : String × String) : nonceKey pair ≠ "" := by
  intro same
  have length := congrArg String.length same
  simp [nonceKey] at length

/-- The size comes down to what is wanted. -/
theorem surplus_eq (maxEntries : Nat) (entries : List (String × Nat)) (named : ∀ entry ∈ entries, entry.1 ≠ "") :
    surplus maxEntries entries = entries.length - maxEntries := by
  induction entries with
  | nil => simp [surplus]
  | cons entry rest ih =>
    rw [List.forall_mem_cons] at named
    unfold surplus
    rw [if_neg named.1, ih named.2, List.length_cons]
    split <;> omega

/-- The store still has an entry with this key. -/
theorem get_pruned {store : NonceMap} (key : String) (now : Nat) :
    ((pruneExpired now store).get key).any (fun expiresAt => expiresAt ≠ 0 && expiresAt > now) = true ↔
      ∃ entry ∈ store.entries, entry.1 = key ∧ now < entry.2 := by
  unfold InsertionMap.get pruneExpired InsertionMap.filter
  constructor
  · intro found
    cases first : (store.entries.filter fun entry => now < entry.2).find? (·.1 = key) with
    | none =>
      rw [first] at found
      cases found
    | some entry =>
      have named : entry.1 = key := by simpa using List.find?_some first
      have member := List.mem_of_find?_eq_some first
      rw [List.mem_filter, decide_eq_true_eq] at member
      exact ⟨entry, member.1, named, member.2⟩
  · rintro ⟨entry, member, named, live⟩
    have present : ((store.entries.filter fun entry => now < entry.2).find? (·.1 = key)).isSome := by
      rw [List.find?_isSome]
      exact ⟨entry, by simp [member, live], by simpa using named⟩
    obtain ⟨other, first⟩ := Option.isSome_iff_exists.mp present
    have among := List.mem_of_find?_eq_some first
    rw [List.mem_filter, decide_eq_true_eq] at among
    have positive : 0 < other.2 := Nat.zero_lt_of_lt among.2
    simp [first, among.2, Nat.pos_iff_ne_zero.mp positive]

private theorem consumeInMemory_error {call : Consumption} (failed : call.check = .error message) (store : NonceMap) :
    consumeInMemory maxEntries call store = (.error message, store) := by
  unfold consumeInMemory
  rw [failed]

private theorem consumeInMemory_refused {call : Consumption} {store : NonceMap} (checked : call.check = .ok ())
    (found : ∃ entry ∈ store.entries, entry.1 = nonceKey call.pair ∧ call.now < entry.2) :
    consumeInMemory maxEntries call store = (.ok false, pruneExpired call.now store) := by
  unfold consumeInMemory
  rw [checked]
  dsimp only
  rw [if_pos ((get_pruned _ _).mpr found)]

private theorem consumeInMemory_accepted {call : Consumption} {store : NonceMap} (checked : call.check = .ok ())
    (free : ¬ ∃ entry ∈ store.entries, entry.1 = nonceKey call.pair ∧ call.now < entry.2) :
    consumeInMemory maxEntries call store =
      (.ok true, capStoreSize maxEntries ((pruneExpired call.now store).set (nonceKey call.pair) call.expiresAt)) := by
  unfold consumeInMemory
  rw [checked]
  dsimp only
  rw [if_neg (mt (get_pruned _ _).mp free)]

end InMemory

/-- The in-memory store holds the younger part of the map: what it lacks was crowded
out, and nothing else. -/
structure Mirrors (maxEntries : Nat) (earlier : List Consumption) (kept lost : PairStore) (store : NonceMap) :
    Prop where
  whole : held earlier = kept ++ lost
  entries : store.entries = (kept.map flatten).reverse
  bounded : kept.length ≤ maxEntries
  lost : ∀ entry ∈ lost, Crowded maxEntries earlier entry
  kept : ∀ entry ∈ kept, ¬ Crowded maxEntries earlier entry

section Mirrors

variable {maxEntries : Nat} {earlier : List Consumption} {call : Consumption} {kept lost : PairStore} {store : NonceMap}

/-- Calls so far came no later, and name the same pair if they have the same key. -/
def Coherent (earlier : List Consumption) (call : Consumption) : Prop :=
  ∀ other ∈ earlier, other.now ≤ call.now ∧ (nonceKey other.pair = nonceKey call.pair → other.pair = call.pair)

private theorem mirrors_start (maxEntries : Nat) : Mirrors maxEntries [] [] [] InsertionMap.empty where
  whole := rfl
  entries := rfl
  bounded := Nat.zero_le _
  lost := List.forall_mem_nil _
  kept := List.forall_mem_nil _

/-- The in-memory store finds a pair if it is in the younger part. -/
theorem Mirrors.finds (mirrors : Mirrors maxEntries earlier kept lost store) (coherent : Coherent earlier call) :
    (∃ entry ∈ store.entries, entry.1 = nonceKey call.pair ∧ call.now < entry.2) ↔
      ∃ entry ∈ kept, entry.key = call.pair ∧ call.now < entry.expiresAt := by
  rw [mirrors.entries]
  constructor
  · rintro ⟨flat, member, same, live⟩
    obtain ⟨entry, among, rfl⟩ := List.mem_map.mp (List.mem_reverse.mp member)
    obtain ⟨other, called, named⟩ := held_from earlier entry (by rw [mirrors.whole]; exact List.mem_append_left _ among)
    refine ⟨entry, among, ?_, live⟩
    rw [named]
    apply (coherent other called).2
    rw [← named]
    exact same
  · rintro ⟨entry, member, same, live⟩
    exact ⟨flatten entry, List.mem_reverse.mpr (List.mem_map_of_mem member), congrArg nonceKey same, live⟩

private theorem Mirrors.pruned (mirrors : Mirrors maxEntries earlier kept lost store) (now : Nat) :
    (pruneExpired now store).entries =
      ((kept.filter fun entry => now < entry.expiresAt).map flatten).reverse := by
  unfold pruneExpired
  rw [InsertionMap.filter_entries, mirrors.entries, List.filter_reverse, List.filter_map]
  rfl

/-- What has not expired. -/
def live (now : Nat) (rows : PairStore) : PairStore := rows.filter fun entry => now < entry.expiresAt

private theorem mem_live {rows : PairStore} : entry ∈ live now rows ↔ entry ∈ rows ∧ now < entry.expiresAt := by
  simp [live]

/-- A call that fails changes neither store. -/
theorem Mirrors.failed (mirrors : Mirrors maxEntries earlier kept lost store) (failed : call.check = .error message) :
    Mirrors maxEntries (earlier ++ [call]) kept lost store where
  whole := by rw [held_append, consumePair_error failed, mirrors.whole]
  entries := mirrors.entries
  bounded := mirrors.bounded
  lost entry member := (mirrors.lost entry member).later
  kept entry member := by
    intro crowded
    apply mirrors.kept entry member
    rcases crowded.now with before | last
    · exact before
    · rw [held_append, consumePair_error failed] at last
      exact ⟨earlier, List.prefix_refl _, last⟩

/-- A call that is refused leaves what has not expired. -/
theorem Mirrors.refused (mirrors : Mirrors maxEntries earlier kept lost store)
    (left : held (earlier ++ [call]) = live call.now (held earlier)) :
    Mirrors maxEntries (earlier ++ [call]) (live call.now kept) (live call.now lost) (pruneExpired call.now store) where
  whole := by rw [left, mirrors.whole, live, List.filter_append, live, live]
  entries := mirrors.pruned call.now
  bounded := Nat.le_trans (List.length_filter_le _ _) mirrors.bounded
  lost entry member := (mirrors.lost entry (mem_live.mp member).1).later
  kept entry member := by
    intro crowded
    rcases crowded.now with before | last
    · exact mirrors.kept entry (mem_live.mp member).1 before
    · have short : (live call.now kept).length ≤ maxEntries := Nat.le_trans (List.length_filter_le _ _) mirrors.bounded
      rw [left, mirrors.whole, live, List.filter_append, ← live, ← live, List.drop_append,
        List.drop_eq_nil_of_le short, List.nil_append] at last
      have distinct := held_distinct earlier
      rw [mirrors.whole, List.map_append, List.nodup_append] at distinct
      exact distinct.2.2 _ (List.mem_map_of_mem (mem_live.mp member).1) _
        (List.mem_map_of_mem (mem_live.mp (List.mem_of_mem_drop last)).1) rfl

/-- A call that is accepted adds its entry, and crowds out the oldest beyond the capacity. -/
theorem Mirrors.accepted (mirrors : Mirrors maxEntries earlier kept lost store) (coherent : Coherent earlier call)
    (left : held (earlier ++ [call]) = ⟨call.pair, call.expiresAt⟩ :: live call.now (held earlier))
    (expires : call.now < call.expiresAt)
    (free : ∀ entry ∈ held earlier, entry.key = call.pair → ¬ call.now < entry.expiresAt) :
    Mirrors maxEntries (earlier ++ [call]) ((⟨call.pair, call.expiresAt⟩ :: live call.now kept).take maxEntries)
      ((⟨call.pair, call.expiresAt⟩ :: live call.now kept).drop maxEntries ++ live call.now lost)
      (capStoreSize maxEntries ((pruneExpired call.now store).set (nonceKey call.pair) call.expiresAt)) := by
  have whole : held (earlier ++ [call]) =
      (⟨call.pair, call.expiresAt⟩ :: live call.now kept) ++ live call.now lost := by
    rw [left, mirrors.whole, live, List.filter_append, List.cons_append, ← live, ← live]
  have absent : nonceKey call.pair ∉ (pruneExpired call.now store).entries.map Prod.fst := by
    intro present
    obtain ⟨flat, member, named⟩ := List.mem_map.mp present
    unfold pruneExpired at member
    rw [InsertionMap.filter_entries, List.mem_filter, decide_eq_true_eq] at member
    obtain ⟨entry, young, same, fresh⟩ := (mirrors.finds coherent).mp ⟨flat, member.1, named, member.2⟩
    exact free entry (by rw [mirrors.whole]; exact List.mem_append_left _ young) same fresh
  constructor
  · rw [whole, ← List.append_assoc, List.take_append_drop]
  · have grown : ((pruneExpired call.now store).set (nonceKey call.pair) call.expiresAt).entries =
        ((⟨call.pair, call.expiresAt⟩ :: live call.now kept).map flatten).reverse := by
      rw [InsertionMap.set_entries absent, mirrors.pruned, ← live, List.map_cons, List.reverse_cons]
      rfl
    have named : ∀ entry ∈ ((⟨call.pair, call.expiresAt⟩ :: live call.now kept).map flatten).reverse, entry.1 ≠ "" := by
      intro flat member
      obtain ⟨entry, _, rfl⟩ := List.mem_map.mp (List.mem_reverse.mp member)
      exact nonceKey_given entry.key
    unfold capStoreSize
    rw [InsertionMap.drop_entries, grown, surplus_eq maxEntries _ named, List.length_reverse, List.map_take,
      List.reverse_take]
  · exact List.length_take_le _ _
  · intro entry member
    rw [List.mem_append] at member
    rcases member with old | old
    · refine ⟨_, List.prefix_refl _, ?_⟩
      rw [whole, List.drop_append]
      exact List.mem_append_left _ old
    · exact (mirrors.lost entry (mem_live.mp old).1).later
  · intro entry member crowded
    rcases crowded.now with before | last
    · rcases List.mem_cons.mp (List.mem_of_mem_take member) with rfl | young
      · -- An equal entry that was crowded out would still be there.
        obtain ⟨before, ⟨rest, rfl⟩, among⟩ := before
        refine free _ (held_keeps before rest (List.mem_of_mem_drop among) ?_) rfl expires
        intro other past
        exact Nat.lt_of_le_of_lt (coherent other (List.mem_append_right _ past)).1 expires
      · exact mirrors.kept entry (mem_live.mp young).1 before
    · have distinct := held_distinct (earlier ++ [call])
      rw [← List.take_append_drop maxEntries (held (earlier ++ [call])), List.map_append, List.nodup_append] at distinct
      have first : entry ∈ (held (earlier ++ [call])).take maxEntries := by
        rw [whole, List.take_append]
        exact List.mem_append_left _ member
      exact distinct.2.2 _ (List.mem_map_of_mem first) _ (List.mem_map_of_mem last) rfl

/-- A call that finds nothing wrong in what was forgotten leaves the two stores so. -/
theorem Mirrors.step (mirrors : Mirrors maxEntries earlier kept lost store) (coherent : Coherent earlier call)
    (remembered : ¬ Forgotten maxEntries earlier call) :
    (consumeInMemory maxEntries call store).1 = (consumePair call (held earlier)).1 ∧
      ∃ kept lost, Mirrors maxEntries (earlier ++ [call]) kept lost (consumeInMemory maxEntries call store).2 := by
  rcases consumePair_cases call (held earlier) with
    ⟨message, failed⟩ | ⟨checked, entry, member, same, fresh⟩ | ⟨checked, free⟩
  · rw [consumePair_error failed, consumeInMemory_error failed]
    exact ⟨rfl, _, _, mirrors.failed failed⟩
  · have young : entry ∈ kept := by
      rcases List.mem_append.mp (mirrors.whole ▸ member) with young | old
      · exact young
      · exact absurd ⟨checked, entry, member, same, fresh, mirrors.lost entry old⟩ remembered
    have left := held_append earlier call
    rw [consumePair_refused checked member same fresh] at left ⊢
    rw [consumeInMemory_refused checked ((mirrors.finds coherent).mpr ⟨entry, young, same, fresh⟩)]
    exact ⟨rfl, _, _, mirrors.refused left⟩
  · have left := held_append earlier call
    rw [consumePair_accepted checked free] at left ⊢
    rw [consumeInMemory_accepted checked]
    · exact ⟨rfl, _, _, mirrors.accepted coherent left (Consumption.expires checked) free⟩
    · rw [mirrors.finds coherent]
      rintro ⟨entry, young, same, fresh⟩
      exact free entry (by rw [mirrors.whole]; exact List.mem_append_left _ young) same fresh

/-- A pair that was forgotten is taken again. -/
theorem Mirrors.forgotten (mirrors : Mirrors maxEntries earlier kept lost store) (coherent : Coherent earlier call)
    (forgotten : Forgotten maxEntries earlier call) :
    (consumeInMemory maxEntries call store).1 ≠ (consumePair call (held earlier)).1 := by
  obtain ⟨checked, entry, member, same, live, crowded⟩ := forgotten
  rw [consumePair_refused checked member same live, consumeInMemory_accepted checked]
  · nofun
  · rw [mirrors.finds coherent]
    rintro ⟨other, among, named, _⟩
    rw [mirrors.whole, List.mem_append] at member
    rcases member with young | old
    · exact mirrors.kept entry young crowded
    · have distinct := held_distinct earlier
      rw [mirrors.whole, List.map_append, List.nodup_append] at distinct
      exact distinct.2.2 _ (List.mem_map_of_mem among) _ (List.mem_map_of_mem old) (named.trans same.symm)

/-- From stores that mirror each other on, the answers are the same if and only if no call
names what was forgotten. -/
theorem Mirrors.answers (calls : List Consumption) (mirrors : Mirrors maxEntries earlier kept lost store)
    (coherent : ∀ before call after, calls = before ++ call :: after → Coherent (earlier ++ before) call) :
    answers (consumeInMemory maxEntries) calls store = answers consumePair calls (held earlier) ↔
      ∀ before call after, calls = before ++ call :: after → ¬ Forgotten maxEntries (earlier ++ before) call := by
  induction calls generalizing earlier kept lost store with
  | nil =>
    refine iff_of_true rfl ?_
    intro before call after same
    simp at same
  | cons call calls ih =>
    have now := coherent [] call calls rfl
    rw [List.append_nil] at now
    rw [ServiceAuth.answers, ServiceAuth.answers, List.cons.injEq]
    by_cases forgotten : Forgotten maxEntries earlier call
    · refine iff_of_false (fun same => mirrors.forgotten now forgotten same.1) ?_
      intro remembered
      apply remembered [] call calls rfl
      rwa [List.append_nil]
    · obtain ⟨same, kept, lost, next⟩ := mirrors.step now forgotten
      have shifted : ∀ before other after, calls = before ++ other :: after →
          Coherent (earlier ++ [call] ++ before) other := by
        intro before other after split
        rw [List.append_assoc]
        exact coherent (call :: before) other after (by rw [split, List.cons_append])
      have rest := ih next shifted
      rw [held_append] at rest
      rw [and_iff_right same, rest]
      constructor
      · intro remembered before other after split
        cases before with
        | nil =>
          cases split
          rwa [List.append_nil]
        | cons first before =>
          cases split
          have later := remembered before other after rfl
          rwa [List.append_assoc] at later
      · intro remembered before other after split
        rw [List.append_assoc]
        exact remembered (call :: before) other after (by rw [split, List.cons_append])

end Mirrors

/-- Where one key means one pair, the in-memory store answers like the map if and
only if no call names a pair that its capacity crowded out. -/
theorem inMemory_answers (maxEntries : Nat) (calls : List Consumption)
    (ordered : calls.Pairwise fun first second => first.now ≤ second.now)
    (apart : ∀ first ∈ calls, ∀ second ∈ calls, nonceKey first.pair = nonceKey second.pair → first.pair = second.pair) :
    answers (consumeInMemory maxEntries) calls InsertionMap.empty = answers consumePair calls [] ↔
      ∀ earlier call later, calls = earlier ++ call :: later → ¬ Forgotten maxEntries earlier call := by
  apply (mirrors_start maxEntries).answers calls
  rintro before call after rfl other among
  have member : other ∈ before ++ call :: after := List.mem_append_left _ among
  rw [List.pairwise_append] at ordered
  exact ⟨ordered.2.2 other among call (by simp), apart other member call (by simp)⟩

/-- A nonce is taken twice by one key, and once by another meanwhile. -/
def threeNonces : List Consumption :=
  [⟨"svc-a", "nonce-1", 600, 0⟩, ⟨"svc-b", "nonce-1", 600, 1⟩, ⟨"svc-a", "nonce-1", 600, 2⟩]

theorem threeNonces_remembered : ¬ ∃ earlier call later, threeNonces = earlier ++ call :: later ∧
    Forgotten 10000 earlier call := by
  rintro ⟨earlier, call, later, cut, forgotten⟩
  exact (inMemory_answers 10000 threeNonces (by decide +kernel) (by decide +kernel)).mp (by decide +kernel)
    earlier call later cut forgotten

/-- A store for one nonce forgets the first for the second, and takes it again. -/
theorem smallStore_differs : ∃ (maxEntries : Nat) (calls : List Consumption),
    1 ≤ maxEntries ∧ (∀ call ∈ calls, call.apiKey ≠ "" ∧ call.nonce ≠ "" ∧ 0 < call.ttlSeconds) ∧
      calls.Pairwise (fun first second => first.now ≤ second.now) ∧
      answers (consumeInMemory maxEntries) calls InsertionMap.empty ≠ answers consumePair calls [] :=
  ⟨1, threeNonces, by decide +kernel, by decide +kernel, by decide +kernel, by decide +kernel⟩

end Agroasys.ServiceAuth
