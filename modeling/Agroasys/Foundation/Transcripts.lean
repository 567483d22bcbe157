import Agroasys.Foundation.Casting

namespace Agroasys.Foundation

variable {Call Effect Result World α : Type} {Answer : Effect → Type}

/-- Every call is permitted, and kept with its answer, newest first. -/
def transcript {Effect : Type} (Answer : Effect → Type) : Protocol Effect Answer (List (Event Effect Answer)) where
  permits _ _ := True
  after events effect answer := ⟨effect, answer⟩ :: events

/-- The transcript beside the request that is worked on. -/
def requestTranscript (Call : Type) {Effect : Type} (Answer : Effect → Type) :
    Protocol Effect Answer (Call × List (Event Effect Answer)) where
  permits _ _ := True
  after role effect answer := (role.1, ⟨effect, answer⟩ :: role.2)

section Transcripts

variable {events : List (Event Effect Answer)} {program : Program Effect Answer α}

/-- Every program can be kept a transcript of. -/
theorem transcript_follows {post : List (Event Effect Answer) → α → Prop} (fits : ∀ events value, post events value)
    (events : List (Event Effect Answer)) (program : Program Effect Answer α) :
    (transcript Answer).Follows post events program := by
  induction program generalizing events with
  | done value => exact fits events value
  | call effect next ih => exact ⟨trivial, fun answer => ih answer _⟩

theorem requestTranscript_follows {post : Call → List (Event Effect Answer) → α → Prop}
    (follows : (transcript Answer).Follows (post call) events program) :
    (requestTranscript Call Answer).Follows (fun role => post role.1 role.2) (call, events) program := by
  induction program generalizing events with
  | done value => exact follows
  | call effect next ih => exact ⟨trivial, fun answer => ih answer (follows.2 answer)⟩

theorem requestTranscript_traced {role : Call × List (Event Effect Answer)}
    (traced : (requestTranscript Call Answer).Traced (call, []) events role) : role = (call, events) := by
  induction traced with
  | start => rfl
  | next _ _ ih =>
    subst ih
    rfl

/-- The result of a program is one that its calls lead to. -/
theorem Server.finished_calls {server : Server Call Effect Answer Result World}
    {post : Call → List (Event Effect Answer) → Result → Prop}
    {history : History (Pool Effect Answer Result World) (Move Call Effect Answer)}
    {pool : Pool Effect Answer Result World}
    (follows : ∀ call, (transcript Answer).Follows (post call) [] (server.program call))
    (run : server.system.Run history pool) (finished : pool.running pid = some (.done result)) :
    ∃ call, Began history pid call ∧ post call (eventsOf pid history) result := by
  have plays (call : Call) := requestTranscript_follows (follows call)
  obtain ⟨role, assigned, fits⟩ := (Server.run_casting plays run).finished finished
  obtain ⟨call, began, traced⟩ := Server.casting_traced plays run assigned
  rw [requestTranscript_traced traced] at fits
  exact ⟨call, began, fits⟩

end Transcripts

/-- A condition that a step meets too. -/
theorem Throughout.push {State Label : Type} {condition : History State Label → Transition State Label → Prop}
    {history : History State Label} {entry : Transition State Label} (throughout : Throughout condition history)
    (met : condition history entry) : Throughout condition (entry :: history) := by
  intro later other earlier same
  cases later with
  | nil =>
    obtain ⟨rfl, rfl⟩ := List.cons.inj same
    exact met
  | cons _ later =>
    obtain ⟨rfl, rfl⟩ := List.cons.inj same
    exact throughout later other earlier rfl

section Picked

variable {history : History (Pool Effect Answer Result World) (Move Call Effect Answer)}

/-- Once a call of a kind is made no other one of it is. -/
def Once (picks : Event Effect Answer → Prop)
    (earlier : History (Pool Effect Answer Result World) (Move Call Effect Answer))
    (entry : Transition (Pool Effect Answer Result World) (Move Call Effect Answer)) : Prop :=
  ∀ pid event, entry.label = .perform pid event → picks event → ∀ other event', Made earlier other event' → ¬ picks event'

theorem made_once {picks : Event Effect Answer → Prop} (once : Throughout (Once picks) history)
    (first : Made history pid event) (picked : picks event) (second : Made history other event') (picked' : picks event') :
    pid = other ∧ event = event' := by
  induction history with
  | nil =>
    obtain ⟨_, member, _⟩ := first
    cases member
  | cons entry earlier ih =>
    obtain ⟨now, before⟩ := once.cons
    rcases made_cons.mp first with label | first
    · rcases made_cons.mp second with label' | second
      · cases label.symm.trans label'
        exact ⟨rfl, rfl⟩
      · exact absurd picked' (now pid event label picked other event' second)
    · rcases made_cons.mp second with label' | second
      · exact absurd picked (now other event' label' picked' pid event first)
      · exact ih before first second

end Picked

end Agroasys.Foundation
