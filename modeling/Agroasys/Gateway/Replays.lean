import Agroasys.Gateway.Reservations

namespace Agroasys.Gateway

open Function Agroasys.Foundation Agroasys.Runtime

variable {Body Own Context State : Type} {OwnAnswer : Own → Type} {sha256 : List UInt8 → String}

/-- The request looks up the record of a key. -/
def LooksUp (entry : GatewayEntry Own OwnAnswer Context Body State) (pid : Nat) (key : String) : Prop :=
  (∃ pending answer, pending.idempotencyKey = key ∧
      entry.label = .perform pid ⟨.store (.insertPending pending), answer⟩) ∨
    ∃ answer, entry.label = .perform pid ⟨.store (.get key), answer⟩

/-- One method, one path and one body. -/
def SameCall (request again : HttpRequest Context) : Prop :=
  request.method = again.method ∧ request.path = again.path ∧ request.body = again.body

/-- Requests of one key, method and path have one fingerprint just if they have one body. -/
def Fingerprinted (sha256 : List UInt8 → String) (history : GatewayHistory Own OwnAnswer Context Body State) :
    Prop :=
  ∀ pid other request again, Began history pid request → Began history other again →
    request.key = again.key → request.method = again.method → request.path = again.path →
      (request.fingerprint sha256 = again.fingerprint sha256 ↔ request.body = again.body)

section Lookups

variable {backend : Backend Own OwnAnswer Context Body State}
  {history : GatewayHistory Own OwnAnswer Context Body State} {pool : GatewayPool Own OwnAnswer Body State}
  {request again : HttpRequest Context}

private theorem SameCall.matches (told : Fingerprinted sha256 history) (began : Began history pid request)
    (begun : Began history other again) (keyed : request.key = some key) (keyed' : again.key = some key)
    {record : IdempotencyRecord Body} (fits : request.Matches sha256 record) :
    again.Matches sha256 record ↔ SameCall request again := by
  have named : request.key = again.key := keyed.trans keyed'.symm
  constructor
  · intro fits'
    have method := fits.2.1.symm.trans fits'.2.1
    have path := fits.2.2.symm.trans fits'.2.2
    exact ⟨method, path, (told pid other request again began begun named method path).mp (fits.1.symm.trans fits'.1)⟩
  · intro same
    obtain ⟨method, path, body⟩ := same
    have fingerprint := (told pid other request again began begun named method path).mpr body
    exact ⟨fits.1.trans fingerprint, fits.2.1.trans method, fits.2.2.trans path⟩

/-- A request that looks a recorded response up gets it. -/
theorem get_replays (run : (gatewayServer sha256 backend).system.Run history pool)
    (told : Fingerprinted sha256 history) (began : Began history pid request) (begun : Began history other again)
    (keyed : again.key = some key) (same : SameCall request again)
    (looked : Sometime (fun earlier entry => Made earlier pid ⟨.store (.complete key response), ()⟩ ∧
      ∃ answer, entry.label = .perform other ⟨.store (.get key), answer⟩) history) :
    ¬ Made history other ⟨.next, ()⟩ ∧
      ∀ result, pool.running other = some (.done result) → result = .ok ⟨response, true⟩ := by
  obtain ⟨later, entry, earlier, rfl, made, answer, label⟩ := looked
  obtain ⟨before, taken, _⟩ := run.split
  have first := Server.began_before (gateway_follows sha256 backend) run made began
  obtain ⟨record, now, present, fits, stored⟩ := (run_reserving before).completed pid request key response first made
  rw [label] at taken
  rw [get_answer taken, present] at label
  have asked : Made (later ++ entry :: earlier) other ⟨.store (.get key), some record⟩ :=
    ⟨entry, List.mem_append_right _ List.mem_cons_self, label⟩
  obtain ⟨passage, stands, unentered, led⟩ := found_standing run begun asked
  refine ⟨unentered, ?_⟩
  obtain ⟨own, _⟩ := complete_key run began (made.append later entry)
  have matched := (SameCall.matches told began begun own keyed fits).mpr same
  rw [verdict_stored matched stored] at led
  intro result finished
  obtain ⟨passage', stands', fit⟩ := (Server.run_casting (gateway_follows sha256 backend) run).finished finished
  cases stands.symm.trans stands'
  rcases led with rfl | rfl
  · cases fit
  · exact fit

/-- A request that looks a taken key up is kept from its handler. -/
theorem insert_barred (run : (gatewayServer sha256 backend).system.Run history pool)
    (begun : Began history other again)
    (looked : Sometime (fun _ entry => ∃ pending answer, pending.idempotencyKey = key ∧
      entry.label = .perform other ⟨.store (.insertPending pending), answer⟩ ∧
        entry.before.world.rows key ≠ none) history) : ¬ Made history other ⟨.next, ()⟩ := by
  obtain ⟨later, entry, earlier, rfl, pending, answer, rfl, label, taken⟩ := looked
  obtain ⟨_, step, _⟩ := run.split
  rw [label] at step
  have empty := insert_answer step taken
  subst empty
  have asked : Made (later ++ entry :: earlier) other ⟨.store (.insertPending pending), none⟩ :=
    ⟨entry, List.mem_append_right _ List.mem_cons_self, label⟩
  obtain ⟨passage, _, told⟩ := began_standing run begun
  have member := made_iff.mp asked
  rw [made_iff]
  cases passage with
  | arriving =>
    rw [told.2] at member
    cases member
  | reserved => exact absurd member (told.2.1.1 pending)
  | handling => exact absurd member (told.2.1.1 pending)
  | settled => exact absurd member (told.2.1.1 pending)
  | conflicted => exact told.2.1.1
  | replaying => exact told.2.1.1
  | replayed => exact told.2.1.1
  | refused => exact told.2.1.1

/-- A request that met a taken key is over only once it has looked the record up. -/
theorem met_finished (run : (gatewayServer sha256 backend).system.Run history pool)
    (begun : Began history other again) (keyed : again.key = some key)
    (met : Made history other ⟨.store (.insertPending pending), none⟩)
    (finished : pool.running other = some (.done result)) :
    ∃ answer, Made history other ⟨.store (.get key), answer⟩ := by
  obtain ⟨passage, stands, told⟩ := began_standing run begun
  obtain ⟨passage', stands', fit⟩ := (Server.run_casting (gateway_follows sha256 backend) run).finished finished
  cases stands.symm.trans stands'
  have member := made_iff.mp met
  cases passage with
  | arriving =>
    rw [told.2] at member
    cases member
  | reserved => exact absurd member (told.2.1.1 pending)
  | handling => exact absurd member (told.2.1.1 pending)
  | settled => exact absurd member (told.2.1.1 pending)
  | conflicted => cases fit
  | replaying => cases fit
  | replayed =>
    obtain ⟨_, _, key', answer, keyed', _, only⟩ := told
    cases keyed.symm.trans keyed'
    exact ⟨answer, made_iff.mpr ((only key answer).mpr ⟨rfl, rfl⟩)⟩
  | refused =>
    obtain ⟨_, _, key', answer, keyed', _, only⟩ := told
    cases keyed.symm.trans keyed'
    exact ⟨answer, made_iff.mpr ((only key answer).mpr ⟨rfl, rfl⟩)⟩

/-- A request that comes after a response was recorded gets it. -/
theorem insert_replays (run : (gatewayServer sha256 backend).system.Run history pool)
    (told : Fingerprinted sha256 history) (began : Began history pid request) (begun : Began history other again)
    (keyed : again.key = some key) (same : SameCall request again)
    (looked : Sometime (fun earlier entry => Made earlier pid ⟨.store (.complete key response), ()⟩ ∧
      ∃ pending answer, pending.idempotencyKey = key ∧
        entry.label = .perform other ⟨.store (.insertPending pending), answer⟩) history) :
    ¬ Made history other ⟨.next, ()⟩ ∧
      ∀ result, pool.running other = some (.done result) → result = .ok ⟨response, true⟩ := by
  obtain ⟨later, entry, earlier, rfl, made, pending, answer, rfl, label⟩ := looked
  obtain ⟨before, taken, _⟩ := run.split
  have first := Server.began_before (gateway_follows sha256 backend) run made began
  obtain ⟨record, now, present, _⟩ := (run_reserving before).completed pid request _ response first made
  have occupied : entry.before.world.rows pending.idempotencyKey ≠ none := by simp [present]
  refine ⟨insert_barred run begun ⟨later, entry, earlier, rfl, pending, answer, rfl, label, occupied⟩, ?_⟩
  intro result finished
  rw [label] at taken
  have empty := insert_answer taken occupied
  subst empty
  have met : Made (later ++ entry :: earlier) other ⟨.store (.insertPending pending), none⟩ :=
    ⟨entry, List.mem_append_right _ List.mem_cons_self, label⟩
  obtain ⟨answer, sooner, member, found⟩ := met_finished run begun keyed met finished
  -- The lookup comes after the insert, for nothing came before that.
  have after : sooner ∈ later := by
    rcases List.mem_append.mp member with after | here
    · exact after
    · exfalso
      rcases List.mem_cons.mp here with rfl | before'
      · rw [label] at found
        cases found
      · obtain ⟨role, acts⟩ := Server.acts (gateway_follows sha256 backend) before taken
        obtain ⟨asked, _, traced⟩ :=
          Server.casting_traced (gateway_follows sha256 backend) before acts.assigned
        have passes := passes_of_permits acts.permitted
        have events := made_iff.mp ⟨sooner, before', found⟩
        have told := traced_told traced
        generalize role.after sha256 _ _ = reached at passes
        cases passes with
        | meet =>
          rw [told.2] at events
          cases events
  obtain ⟨newest, between, rfl⟩ := List.append_of_mem after
  refine (get_replays run told began begun keyed same ⟨newest, sooner, between ++ entry :: earlier, ?_, ?_⟩).2
    result finished
  · rw [List.append_assoc, List.cons_append]
  · exact ⟨made.append between entry, answer, found⟩

/-- A request that finds the record of a different one is answered so. -/
theorem get_refused (run : (gatewayServer sha256 backend).system.Run history pool)
    (told : Fingerprinted sha256 history) (began : Began history pid request) (begun : Began history other again)
    (keyed : again.key = some key) (different : ¬ SameCall request again)
    (looked : Sometime (fun earlier entry => Holds earlier pid key ∧
      ∃ answer, entry.label = .perform other ⟨.store (.get key), answer⟩) history) :
    ¬ Made history other ⟨.next, ()⟩ ∧
      ∀ result, pool.running other = some (.done result) → result = .error differentRequest := by
  obtain ⟨later, entry, earlier, rfl, holds, answer, label⟩ := looked
  obtain ⟨before, taken, _⟩ := run.split
  obtain ⟨⟨reserved, row, rfl, made⟩, _⟩ := id holds
  have first := Server.began_before (gateway_follows sha256 backend) run made began
  obtain ⟨record, present, fits⟩ := held_record before first holds
  rw [label] at taken
  rw [get_answer taken, present] at label
  have asked : Made (later ++ entry :: earlier) other ⟨.store (.get reserved.idempotencyKey), some record⟩ :=
    ⟨entry, List.mem_append_right _ List.mem_cons_self, label⟩
  obtain ⟨passage, stands, unentered, led⟩ := found_standing run begun asked
  refine ⟨unentered, ?_⟩
  obtain ⟨own, _⟩ := insert_key run began (made.append later entry)
  have unmatched := mt (SameCall.matches told began begun own keyed fits).mp different
  rw [verdict_different unmatched] at led
  intro result finished
  obtain ⟨passage', stands', fit⟩ := (Server.run_casting (gateway_follows sha256 backend) run).finished finished
  cases stands.symm.trans stands'
  rw [show passage = .refused again differentRequest from led] at fit
  exact fit

end Lookups

section Agreement

variable {backend : Backend Own OwnAnswer Context Body State}
  {history : GatewayHistory Own OwnAnswer Context Body State} {pool : GatewayPool Own OwnAnswer Body State}

/-! Two requests of one key, one after the other. -/

def decisionsPath : String := "/api/dashboard-gateway/v1/compliance/decisions"

def decisionRequest (requestId : String) (json : Bool) (body : List UInt8) : HttpRequest Unit :=
  ⟨"POST", decisionsPath, some "key-1", requestId, json, body, ()⟩

/-- SHA-256 of a request to the route without a raw body, and of one with an empty object. -/
def routeSha256 (bytes : List UInt8) : String :=
  if bytes = utf8 ("POST\n" ++ decisionsPath ++ "\n") then
    "c5830555b59c808b3bc3e823220ac2e8827ce7994efac4381c9787953b04e40c"
  else if bytes = utf8 ("POST\n" ++ decisionsPath ++ "\n\x7b\x7d") then
    "e262f3107c484309a257c79125e919a10ac7e2e3b864b17444860d1f521aeba2"
  else ""

def badRequest : Response String :=
  ⟨400, some "application/json; charset=utf-8", "Request body must be a JSON object"⟩

def objectServing : Serving Unit Empty (fun _ => Unit) Unit :=
  fun _ _ effect => nomatch effect

/-- A route that refuses what `express.json` has not read. -/
def objectRoute : Backend Empty (fun _ => Unit) Unit String Unit where
  handler request := .done (if request.rawBody = none then badRequest else
    ⟨201, some "application/json; charset=utf-8", "recorded"⟩)
  initial _ := True
  serves := objectServing.serves
  drifts _ _ := False

abbrev RouteHistory := GatewayHistory Empty (fun _ => Unit) Unit String Unit
abbrev RouteEntry := GatewayEntry Empty (fun _ => Unit) Unit String Unit

/-- The response a step records, and for whom. -/
def completion (entry : RouteEntry) : Option (Nat × String × Response String) :=
  match entry.label with
  | .perform pid ⟨.store (.complete key response), _⟩ => some (pid, key, response)
  | _ => none

def reservation (entry : RouteEntry) : Option (Nat × String) :=
  match entry.label with
  | .perform pid ⟨.store (.insertPending pending), some _⟩ => some (pid, pending.idempotencyKey)
  | _ => none

def releaser (entry : RouteEntry) : Option Nat :=
  match entry.label with
  | .perform pid ⟨.store (.releasePending _), _⟩ => some pid
  | _ => none

def getter (entry : RouteEntry) : Option (Nat × String) :=
  match entry.label with
  | .perform pid ⟨.store (.get key), _⟩ => some (pid, key)
  | _ => none

theorem made_of_completion {history : RouteHistory} (member : (pid, key, response) ∈ history.filterMap completion) :
    Made history pid ⟨.store (.complete key response), ()⟩ := by
  obtain ⟨entry, recorded, same⟩ := List.mem_filterMap.mp member
  refine ⟨entry, recorded, ?_⟩
  unfold completion at same
  split at same
  · rename_i label
    cases same
    exact label
  · cases same

private theorem label_of_getter {entry : RouteEntry} (same : getter entry = some (pid, key)) :
    ∃ answer, entry.label = .perform pid ⟨.store (.get key), answer⟩ := by
  unfold getter at same
  split at same
  · rename_i answer label
    cases same
    exact ⟨answer, label⟩
  · cases same

private theorem holds_of_reservation {history : RouteHistory} (member : (pid, key) ∈ history.filterMap reservation)
    (kept : pid ∉ history.filterMap releaser) : Holds history pid key := by
  obtain ⟨entry, recorded, same⟩ := List.mem_filterMap.mp member
  refine ⟨?_, ?_⟩
  · unfold reservation at same
    split at same
    · rename_i pending record label
      cases same
      exact ⟨pending, record, rfl, entry, recorded, label⟩
    · cases same
  · intro key' released
    obtain ⟨entry', recorded', label⟩ := released
    apply kept
    refine List.mem_filterMap.mpr ⟨entry', recorded', ?_⟩
    unfold releaser
    rw [label]

/-- Where the fingerprint tells the bodies apart: the handlers of a key run one at a
time, a recorded response answers every later request like its own, and while a request
holds the record of a key no other is handled and a different one is answered 409. -/
theorem replay_agreement (run : (gatewayServer sha256 backend).system.Run history pool)
    (told : Fingerprinted sha256 history) :
    (∀ pid other request again key, Began history pid request → Began history other again →
        request.key = some key → again.key = some key → Handles history pid → Handles history other →
          pid = other) ∧
      (∀ key, pool.world.rows key ≠ none ↔ ∃ pid, Holds history pid key) ∧
      ∀ pid other request again key, Began history pid request → Began history other again →
        again.key = some key →
          (∀ response, SameCall request again → Sometime (fun earlier entry =>
              Made earlier pid ⟨.store (.complete key response), ()⟩ ∧ LooksUp entry other key) history →
            response.status < 500 ∧ ¬ Made history other ⟨.next, ()⟩ ∧
              ∀ result, pool.running other = some (.done result) → result = .ok ⟨response, true⟩) ∧
          (Sometime (fun earlier entry => Holds earlier pid key ∧ LooksUp entry other key) history →
            ¬ Made history other ⟨.next, ()⟩) ∧
          (¬ SameCall request again → Sometime (fun earlier entry => Holds earlier pid key ∧
              ∃ answer, entry.label = .perform other ⟨.store (.get key), answer⟩) history →
            ∀ result, pool.running other = some (.done result) → result = .error differentRequest) := by
  refine ⟨?_, ?_, ?_⟩
  · intro pid other request again key began begun keyed keyed' handles handled
    obtain ⟨passage, stands, occupies⟩ := handles_occupies run began keyed handles
    obtain ⟨rival, against, rivals⟩ := handles_occupies run begun keyed' handled
    exact (run_reserving run).single pid other passage rival request again key stands against occupies rivals
  · intro key
    constructor
    · intro present
      obtain ⟨record, there⟩ := Option.ne_none_iff_exists'.mp present
      exact run_held run there
    · intro held
      obtain ⟨pid, holds⟩ := held
      exact held_present run holds
  · intro pid other request again key began begun keyed
    refine ⟨?_, ?_, ?_⟩
    · intro response same looked
      obtain ⟨later, entry, earlier, split, made, looks⟩ := id looked
      have completed : Made history pid ⟨.store (.complete key response), ()⟩ := split ▸ made.append later entry
      refine ⟨(complete_key run began completed).2, ?_⟩
      rcases looks with inserts | gets
      · exact insert_replays run told began begun keyed same ⟨later, entry, earlier, split, made, inserts⟩
      · exact get_replays run told began begun keyed same ⟨later, entry, earlier, split, made, gets⟩
    · intro looked
      obtain ⟨later, entry, earlier, rfl, holds, looks⟩ := looked
      obtain ⟨before, taken, _⟩ := run.split
      obtain ⟨⟨reserved, row, _, made⟩, _⟩ := id holds
      have first := Server.began_before (gateway_follows sha256 backend) run made began
      obtain ⟨record, present, _⟩ := held_record before first holds
      rcases looks with ⟨pending, answer, rfl, label⟩ | ⟨answer, label⟩
      · exact insert_barred run begun
          ⟨later, entry, earlier, rfl, pending, answer, rfl, label, by simp [present]⟩
      · have asked : Made (later ++ entry :: earlier) other ⟨.store (.get key), answer⟩ :=
          ⟨entry, List.mem_append_right _ List.mem_cons_self, label⟩
        obtain ⟨_, _, unentered, _⟩ := found_standing run begun asked
        exact unentered
    · intro different looked
      exact (get_refused run told began begun keyed different looked).2

/-- A recorded response, asked for again. -/
theorem sameBody_replayed :
    ∃ (history : RouteHistory) (pool : GatewayPool Empty (fun _ => Unit) String Unit) (result : _),
      pool.running 1 = some (.done result) ∧
        result = .ok ⟨⟨201, some "application/json; charset=utf-8", "recorded"⟩, true⟩ ∧
          ¬ Made history 1 ⟨.next, ()⟩ := by
  let request := decisionRequest "r-0" true [123, 125]
  obtain ⟨recording, run, checked⟩ :=
    (gatewayServer routeSha256 objectRoute).record_run (gatewayServing objectServing) (fun time => (time, ()))
      ⟨fun _ => none, ()⟩ [.start 0 request, .go 0 3, .start 1 request, .go 1 3]
      (fun recording => decide (recording.history.filterMap begins = [(1, request), (0, request)]) &&
        checkSome (fun earlier entry => decide (getter entry = some (1, "key-1")) &&
          decide ((0, "key-1", ⟨201, some "application/json; charset=utf-8", "recorded"⟩) ∈
            earlier.filterMap completion)) recording.history &&
        decide ((recording.pool.running 1).bind Program.outcome =
          some (.ok ⟨⟨201, some "application/json; charset=utf-8", "recorded"⟩, true⟩)))
      (gatewayServing_serves objectServing objectRoute rfl) ⟨fun _ => rfl, trivial⟩ (by decide +kernel)
  simp only [Bool.and_eq_true, decide_eq_true_eq] at checked
  obtain ⟨⟨begun, looked⟩, finished⟩ := checked
  have asked {pid : Nat} {asking : HttpRequest Unit} (began : Began recording.history pid asking) :
      asking = request := by
    have member := began_iff.mp began
    rw [begun] at member
    simp only [List.mem_cons, Prod.mk.injEq, List.not_mem_nil, or_false] at member
    exact member.elim And.right And.right
  have told : Fingerprinted routeSha256 recording.history := by
    intro pid other first second began began' _ _ _
    rw [asked began, asked began']
    simp
  have began : Began recording.history 0 request := began_iff.mpr (by rw [begun]; simp)
  have again : Began recording.history 1 request := began_iff.mpr (by rw [begun]; simp)
  obtain ⟨result, ended, finished⟩ := Option.bind_eq_some_iff.mp finished
  rw [Program.outcome_eq_some] at finished
  subst finished
  have sought : Sometime (fun earlier entry =>
      Made earlier 0 ⟨.store (.complete "key-1" ⟨201, some "application/json; charset=utf-8", "recorded"⟩), ()⟩ ∧
        LooksUp entry 1 "key-1") recording.history := by
    apply sometime_of_checkSome ?_ looked
    intro earlier entry found
    simp only [Bool.and_eq_true, decide_eq_true_eq] at found
    exact ⟨made_of_completion found.2, .inr (label_of_getter found.1)⟩
  obtain ⟨_, unentered, answered⟩ :=
    ((replay_agreement run told).2.2 0 1 request request "key-1" began again (by decide +kernel)).1
      ⟨201, some "application/json; charset=utf-8", "recorded"⟩ ⟨rfl, rfl, rfl⟩ sought
  exact ⟨recording.history, recording.pool, _, ended, answered _ ended, unentered⟩

/-- Two requests whose bodies `express.json` does not read. -/
theorem plainBodies_replayed :
    ∃ (history : RouteHistory) (pool : GatewayPool Empty (fun _ => Unit) String Unit)
      (request again : HttpRequest Unit),
      (gatewayServer routeSha256 objectRoute).system.Run history pool ∧ Began history 0 request ∧
        Began history 1 again ∧ request.key = some "key-1" ∧ again.key = some "key-1" ∧ ¬ SameCall request again ∧
          Sometime (fun earlier entry => Holds earlier 0 "key-1" ∧
            ∃ answer, entry.label = .perform 1 ⟨.store (.get "key-1"), answer⟩) history ∧
          pool.running 1 = some (.done (.ok ⟨badRequest, true⟩)) := by
  let request := decisionRequest "r-0" false [97]
  let again := decisionRequest "r-1" false [98]
  obtain ⟨recording, run, checked⟩ :=
    (gatewayServer routeSha256 objectRoute).record_run (gatewayServing objectServing) (fun time => (time, ()))
      ⟨fun _ => none, ()⟩ [.start 0 request, .go 0 3, .start 1 again, .go 1 3]
      (fun recording => decide (recording.history.filterMap begins = [(1, again), (0, request)]) &&
        checkSome (fun earlier entry => decide (getter entry = some (1, "key-1")) &&
          decide ((0, "key-1") ∈ earlier.filterMap reservation) &&
            decide (0 ∉ earlier.filterMap releaser)) recording.history &&
        decide ((recording.pool.running 1).bind Program.outcome = some (.ok ⟨badRequest, true⟩)))
      (gatewayServing_serves objectServing objectRoute rfl) ⟨fun _ => rfl, trivial⟩ (by decide +kernel)
  simp only [Bool.and_eq_true, decide_eq_true_eq] at checked
  obtain ⟨⟨begun, looked⟩, finished⟩ := checked
  obtain ⟨result, ended, finished⟩ := Option.bind_eq_some_iff.mp finished
  rw [Program.outcome_eq_some] at finished
  subst finished
  refine ⟨recording.history, recording.pool, request, again, run, began_iff.mpr ?_, began_iff.mpr ?_,
    by decide +kernel, by decide +kernel, ?_, ?_, ended⟩
  · rw [begun]
    simp
  · rw [begun]
    simp
  · intro same
    cases same.2.2
  · apply sometime_of_checkSome ?_ looked
    intro earlier entry found
    simp only [Bool.and_eq_true, decide_eq_true_eq] at found
    exact ⟨holds_of_reservation found.1.2 found.2, label_of_getter found.1.1⟩

end Agreement

end Agroasys.Gateway
