import Mathlib.Data.List.Basic

/-! Labelled transition systems with their finite histories. A history keeps
every transition taken, newest first, so that properties of two distant points
of a run are statements about its members and its splittings. -/

namespace Agroasys.Foundation

structure System (State Label : Type) where
  initial : State → Prop
  step : State → Label → State → Prop

/-- One taken step, with the states on both sides of it. -/
structure Transition (State Label : Type) where
  before : State
  label : Label
  after : State

abbrev History (State Label : Type) := List (Transition State Label)

inductive Path (system : System State Label) (origin : State) :
    History State Label → State → Prop where
  | start : Path system origin [] origin
  | next (earlier : Path system origin history state)
      (taken : system.step state label final) :
      Path system origin (⟨state, label, final⟩ :: history) final

/-- A path from an initial state. -/
def System.Run (system : System State Label) (history : History State Label) (state : State) : Prop :=
  ∃ origin, system.initial origin ∧ Path system origin history state

def System.Reachable (system : System State Label) (state : State) : Prop :=
  ∃ history, system.Run history state

variable {State Label : Type} {system : System State Label}

/-- A system that takes the same steps follows the same paths. -/
theorem Path.mono {other : System State Label} (path : Path system origin history state)
    (steps : ∀ state label final, system.step state label final → other.step state label final) :
    Path other origin history state := by
  induction path with
  | start => exact .start
  | next earlier taken ih => exact ih.next (steps _ _ _ taken)

theorem Path.append (first : Path system origin earlier middle)
    (second : Path system middle later final) : Path system origin (later ++ earlier) final := by
  induction second with
  | start => exact first
  | next _ taken ih => exact .next ih taken

theorem Path.single (taken : system.step state label final) :
    Path system state [⟨state, label, final⟩] final :=
  .next .start taken

/-- A member of a history cuts its path into the part before, the step itself
and the part after. -/
theorem Path.split (path : Path system origin (later ++ entry :: earlier) final) :
    Path system origin earlier entry.before ∧ system.step entry.before entry.label entry.after ∧
      Path system entry.after later final := by
  induction later generalizing final with
  | nil =>
    cases path with
    | next first taken => exact ⟨first, taken, .start⟩
  | cons head rest ih =>
    cases path with
    | next first taken =>
      obtain ⟨before, step, after⟩ := ih first
      exact ⟨before, step, .next after taken⟩

theorem Path.cut (path : Path system origin history final) (member : entry ∈ history) :
    ∃ later earlier, history = later ++ entry :: earlier ∧
      Path system origin earlier entry.before ∧ system.step entry.before entry.label entry.after ∧
      Path system entry.after later final := by
  obtain ⟨later, earlier, same⟩ := List.append_of_mem member
  subst same
  exact ⟨later, earlier, rfl, path.split⟩

theorem Path.invariant {holds : State → Prop} (path : Path system origin history final)
    (initial : holds origin)
    (preserved : ∀ state label next, system.step state label next → holds state → holds next) :
    holds final := by
  induction path with
  | start => exact initial
  | next _ taken ih => exact preserved _ _ _ taken ih

/-- The state a path starts from is the first `before` of its history. -/
theorem Path.origin_of_nil (path : Path system origin [] final) : final = origin := by
  cases path; rfl

theorem System.Run.extend (run : system.Run earlier middle) (path : Path system middle later final) :
    system.Run (later ++ earlier) final := by
  obtain ⟨origin, initial, first⟩ := run
  exact ⟨origin, initial, first.append path⟩

theorem System.Run.cut (run : system.Run history final) (member : entry ∈ history) :
    ∃ later earlier, history = later ++ entry :: earlier ∧
      system.Run earlier entry.before ∧ system.step entry.before entry.label entry.after ∧
      Path system entry.after later final := by
  obtain ⟨origin, initial, path⟩ := run
  obtain ⟨later, earlier, same, before, taken, after⟩ := path.cut member
  exact ⟨later, earlier, same, ⟨origin, initial, before⟩, taken, after⟩

theorem System.Run.split (run : system.Run (later ++ entry :: earlier) final) :
    system.Run earlier entry.before ∧ system.step entry.before entry.label entry.after ∧
      Path system entry.after later final := by
  obtain ⟨origin, initial, path⟩ := run
  obtain ⟨before, taken, after⟩ := path.split
  exact ⟨⟨origin, initial, before⟩, taken, after⟩

theorem System.Run.invariant {holds : State → Prop} (run : system.Run history final)
    (initial : ∀ origin, system.initial origin → holds origin)
    (preserved : ∀ state label next, system.step state label next → holds state → holds next) :
    holds final := by
  obtain ⟨origin, first, path⟩ := run
  exact path.invariant (initial origin first) preserved

/-- Induction over a run in which every step starts from a reachable state. -/
theorem System.Run.history_invariant {P : History State Label → State → Prop}
    (run : system.Run history final)
    (initial : ∀ origin, system.initial origin → P [] origin)
    (preserved : ∀ earlier state label next, system.Run earlier state →
      system.step state label next → P earlier state → P (⟨state, label, next⟩ :: earlier) next) :
    P history final := by
  obtain ⟨origin, first, path⟩ := run
  induction path with
  | start => exact initial origin first
  | next earlier taken ih => exact preserved _ _ _ _ ⟨origin, first, earlier⟩ taken ih

theorem System.Reachable.step (reachable : system.Reachable state)
    (taken : system.step state label final) : system.Reachable final := by
  obtain ⟨history, run⟩ := reachable
  exact ⟨_, run.extend (Path.single taken)⟩

/-- Induction over a path from a reachable state. -/
theorem System.Reachable.invariant {P : State → Prop} (reachable : system.Reachable origin)
    (path : Path system origin history final) (initial : P origin)
    (preserved : ∀ state label next, system.Reachable state → system.step state label next →
      P state → P next) : system.Reachable final ∧ P final := by
  induction path with
  | start => exact ⟨reachable, initial⟩
  | next _ taken ih => exact ⟨ih.1.step taken, preserved _ _ _ ih.1 taken ih.2⟩

/-- The states a path with this history passes through, its ends included. -/
def Visited (history : History State Label) (final state : State) : Prop :=
  state = final ∨ ∃ entry ∈ history, state = entry.before

theorem visited_nil : Visited ([] : History State Label) final state ↔ state = final := by
  simp [Visited]

theorem visited_cons : Visited (⟨middle, label, final⟩ :: earlier) final state ↔
    state = final ∨ Visited earlier middle state := by
  simp [Visited]

theorem Visited.append (visited : Visited later final state) (earlier : History State Label) :
    Visited (later ++ earlier) final state := by
  rcases visited with last | ⟨entry, member, before⟩
  · exact .inl last
  · exact .inr ⟨entry, List.mem_append_left _ member, before⟩

/-- A run goes through its visited states. -/
theorem System.Run.visited (run : system.Run history final) (visited : Visited history final state) :
    system.Reachable state ∧ ∃ later, Path system state later final := by
  rcases visited with rfl | ⟨entry, member, rfl⟩
  · exact ⟨⟨history, run⟩, [], .start⟩
  · obtain ⟨later, earlier, _, before, taken, after⟩ := run.cut member
    exact ⟨⟨earlier, before⟩, _, (Path.single taken).append after⟩

/-- Transitions on which a flag of the state goes up. -/
def Raises (flag : State → Bool) (entry : Transition State Label) : Prop :=
  flag entry.before = false ∧ flag entry.after = true

/-- A flag that no step of a run lowers is raised at most once in it. -/
theorem System.Run.raises_once {flag : State → Bool}
    (latched : ∀ state label next, system.Reachable state → system.step state label next →
      flag state = true → flag next = true)
    (run : system.Run (later ++ entry :: earlier) final) (raised : Raises flag entry)
    (member : other ∈ later ∨ other ∈ earlier) : ¬ Raises flag other := by
  intro again
  obtain ⟨before, taken, after⟩ := run.split
  rcases member with member | member
  · obtain ⟨_, _, _, reached, _, _⟩ := after.cut member
    have reachable : system.Reachable entry.before := ⟨_, before⟩
    have up := ((reachable.step taken).invariant reached raised.2 latched).2
    simp [again.1] at up
  · obtain ⟨_, _, _, first, taken, reached⟩ := before.cut member
    have reachable : system.Reachable other.before := ⟨_, first⟩
    have up := ((reachable.step taken).invariant reached again.2 latched).2
    simp [raised.1] at up

/-- A flag that is up now but was down at first was raised on the way, for a last
time. -/
theorem Path.last_raised {flag : State → Bool} (path : Path system origin history final)
    (down : flag origin = false) (up : flag final = true) :
    ∃ later entry earlier, history = later ++ entry :: earlier ∧ Raises flag entry ∧
      ∀ state, Visited later final state → flag state = true := by
  induction path with
  | start => simp [down] at up
  | @next earlier state label final _ taken ih =>
    cases middle : flag state with
    | false =>
      refine ⟨[], ⟨state, label, final⟩, earlier, rfl, ⟨middle, up⟩, ?_⟩
      intro visited last
      rw [visited_nil.mp last]
      exact up
    | true =>
      obtain ⟨later, entry, older, rfl, raised, since⟩ := ih middle
      refine ⟨⟨state, label, final⟩ :: later, entry, older, rfl, raised, ?_⟩
      intro visited passed
      rcases visited_cons.mp passed with last | before
      · rw [last]
        exact up
      · exact since visited before

theorem Path.raised {flag : State → Bool} (path : Path system origin history final)
    (down : flag origin = false) (up : flag final = true) : ∃ entry ∈ history, Raises flag entry := by
  obtain ⟨later, entry, earlier, rfl, raised, _⟩ := path.last_raised down up
  exact ⟨entry, List.mem_append_right _ List.mem_cons_self, raised⟩

/-- Some path whose transitions are all allowed leads from one state to another. -/
def System.Leads (system : System State Label) (allowed : Transition State Label → Prop)
    (origin final : State) : Prop :=
  ∃ history, Path system origin history final ∧ ∀ entry ∈ history, allowed entry

section Leads

variable {allowed : Transition State Label → Prop}

theorem System.Leads.refl (state : State) : system.Leads allowed state state :=
  ⟨[], .start, by simp⟩

theorem System.Leads.single (taken : system.step state label final)
    (permitted : allowed ⟨state, label, final⟩) : system.Leads allowed state final :=
  ⟨_, Path.single taken, by simpa using permitted⟩

theorem System.Leads.trans (first : system.Leads allowed origin middle)
    (second : system.Leads allowed middle final) : system.Leads allowed origin final := by
  obtain ⟨earlier, before, permitted⟩ := first
  obtain ⟨later, after, admitted⟩ := second
  refine ⟨later ++ earlier, before.append after, ?_⟩
  intro entry member
  rcases List.mem_append.mp member with member | member
  · exact admitted entry member
  · exact permitted entry member

theorem System.Leads.mono (leads : system.Leads allowed origin final)
    (weaker : ∀ entry, allowed entry → permitted entry) : system.Leads permitted origin final := by
  obtain ⟨history, path, admitted⟩ := leads
  exact ⟨history, path, fun entry member => weaker entry (admitted entry member)⟩

theorem System.Leads.reachable (leads : system.Leads allowed origin final)
    (reachable : system.Reachable origin) : system.Reachable final := by
  obtain ⟨history, path, _⟩ := leads
  obtain ⟨earlier, run⟩ := reachable
  exact ⟨_, run.extend path⟩

/-- A goal is reached if from every state some step reaches it or brings it
nearer. -/
theorem System.Leads.countdown {P : Nat → State → Prop} {goal : State → Prop}
    (progress : ∀ distance state, P distance state → ∃ label next, system.step state label next ∧
      allowed ⟨state, label, next⟩ ∧ (goal next ∨ ∃ nearer, nearer < distance ∧ P nearer next))
    (start : P distance origin) : ∃ final, system.Leads allowed origin final ∧ goal final := by
  induction distance using Nat.strongRecOn generalizing origin with
  | ind distance ih =>
    obtain ⟨label, next, taken, permitted, arrived | ⟨nearer, closer, remaining⟩⟩ := progress _ _ start
    · exact ⟨next, .single taken permitted, arrived⟩
    · obtain ⟨final, leads, arrived⟩ := ih nearer closer remaining
      exact ⟨final, (System.Leads.single taken permitted).trans leads, arrived⟩

end Leads

/-- Labels of steps taken one after the other, oldest first. -/
inductive System.Trace (system : System State Label) : State → List Label → State → Prop where
  | done (state : State) : Trace system state [] state
  | step (taken : system.step state label middle) (rest : Trace system middle labels final) :
      Trace system state (label :: labels) final

theorem System.Trace.append (first : system.Trace state earlier middle) (second : system.Trace middle later final) :
    system.Trace state (earlier ++ later) final := by
  induction first with
  | done => exact second
  | step taken _ ih => exact .step taken (ih second)

theorem System.Trace.single (taken : system.step state label final) : system.Trace state [label] final :=
  .step taken (.done final)

/-- A reader of items, of which some show a label in its own rendering, stays related to the
state if each of them keeps it so. -/
theorem System.Trace.read {Item Rendering View : Type} {items : List Item} {view : View}
    {shows : Item → Option Rendering} {render : Label → Rendering} {read : View → Item → View}
    {related : State → View → Prop}
    (told : ∀ item ∈ items, ∀ state label next view, shows item = some (render label) →
      system.step state label next → related state view → related next (read view item))
    (ignored : ∀ item ∈ items, ∀ state view, shows item = none → related state view →
      related state (read view item))
    (trace : system.Trace state labels final) (shown : items.filterMap shows = labels.map render)
    (start : related state view) : related final (items.foldl read view) := by
  induction items generalizing state labels view with
  | nil =>
    have none : labels = [] := by simpa using shown.symm
    subst none
    cases trace
    exact start
  | cons item rest ih =>
    rw [List.forall_mem_cons] at told ignored
    rw [List.foldl_cons]
    cases seen : shows item with
    | none =>
      rw [List.filterMap_cons_none seen] at shown
      exact ih told.2 ignored.2 trace shown (ignored.1 _ _ seen start)
    | some rendering =>
      rw [List.filterMap_cons_some seen] at shown
      cases trace with
      | done => simp at shown
      | step taken later =>
        obtain ⟨rfl, others⟩ := List.cons.inj shown
        exact ih told.2 ignored.2 later others (told.1 _ _ _ _ seen taken start)

end Agroasys.Foundation
