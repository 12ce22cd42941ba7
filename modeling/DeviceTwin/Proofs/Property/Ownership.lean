import DeviceTwin.Proofs.Property.Solo

/-!
The exchange of a property as a lock. The task that has hold of it and those that wait for it are the claimants of its
registration. They are tasks that are under way, none of them twice, and nobody waits for an exchange that is free
(`Session.Claimed`). So when all tasks have ended, no exchange is left locked, and neither is one when the tasks are
dropped: between its sessions a device is idle, whatever it has come to (`idle_of_reachable`).
-/
namespace DeviceTwin

/-- A task in this phase has hold of an exchange, or waits for it. -/
def Phase.isEngaged : Phase → Bool
  | .entering => false
  | .finished _ => false
  | _ => true

namespace Registration
variable {reg : Registration}

/-- The tasks that get the exchange, one after the other, from the one that has hold of it. -/
def claimants (reg : Registration) : List Nat :=
  reg.owner.toList ++ reg.waiting

/-- Nobody waits for the exchange while it is free. -/
def Prompt (reg : Registration) : Prop :=
  reg.owner = none → reg.waiting = []

theorem claimants_owned {ticket : Nat} (owned : reg.owner = some ticket) :
    reg.claimants = ticket :: reg.waiting := by
  simp [claimants, owned]

theorem claimants_release : reg.release.claimants = reg.waiting := by
  cases waiting : reg.waiting <;> simp [claimants, release, waiting]

theorem prompt_release : reg.release.Prompt := by
  intro free
  cases waiting : reg.waiting with
  | nil => simp [release, waiting]
  | cons next rest => simp [release, waiting] at free

theorem prompt_owned {ticket : Nat} (owned : reg.owner = some ticket) : reg.Prompt := by
  intro free
  rw [owned] at free
  cases free

end Registration

namespace Task
open Registration

variable {c : Convention} {ticket : Nat} {desired : DesiredSet} {rep : Reporter} {reg : Registration} {phase : Phase}
  {m : Move} {events : List Event}

/-- How a move of a task changes the claimants: not at all, or the task becomes the last of them, or it was the first
    of them and is gone. -/
inductive Reclaims (ticket : Nat) : Registration → Phase → Registration → Phase → Prop where
  | same {reg reg' : Registration} {phase phase' : Phase} (claimants : reg'.claimants = reg.claimants)
      (engaged : phase'.isEngaged = phase.isEngaged) : Reclaims ticket reg phase reg' phase'
  | comes {reg reg' : Registration} {phase phase' : Phase} (claimants : reg'.claimants = reg.claimants ++ [ticket])
      (new : phase.isEngaged = false) (engaged : phase'.isEngaged = true) : Reclaims ticket reg phase reg' phase'
  | goes {reg reg' : Registration} {phase phase' : Phase} (claimants : reg.claimants = ticket :: reg'.claimants) :
      Reclaims ticket reg phase reg' phase'

/-- A task that had hold of the exchange leaves it to the next one. -/
theorem reclaims_release (owned : reg.owner = some ticket) (phase phase' : Phase) :
    Reclaims ticket reg phase reg.release phase' ∧ reg.release.Prompt := by
  refine ⟨.goes ?_, prompt_release⟩
  rw [claimants_owned owned, claimants_release]

theorem reclaims_inState_release (state : ExchangeState) (owned : reg.owner = some ticket) (phase phase' : Phase) :
    Reclaims ticket reg phase (reg.inState state).release phase' ∧ (reg.inState state).release.Prompt := by
  refine ⟨.goes ?_, prompt_release⟩
  rw [claimants_owned owned, claimants_release]
  rfl

/-- A task that finds an exchange free keeps it or is done with it. -/
theorem reclaims_opens {raw : Json} (prompt : reg.Prompt) (free : reg.owner = none)
    (opened : Opened c desired raw rep { reg with owner := some ticket } m events) :
    Reclaims ticket reg .entering m.registration m.phase ∧ m.registration.Prompt := by
  have nobody : reg.waiting = [] := prompt free
  have unclaimed : reg.claimants = reg.waiting := by simp [claimants, free]
  cases opened with
  | skipped => exact ⟨.same (claimants_release.trans unclaimed.symm) rfl, prompt_release⟩
  | unrejected => exact ⟨.same (claimants_release.trans unclaimed.symm) rfl, prompt_release⟩
  | unacknowledged => exact ⟨.same (claimants_release.trans unclaimed.symm) rfl, prompt_release⟩
  | rejects => exact ⟨.comes (by simp [claimants, free, nobody, inState]) rfl rfl, prompt_owned rfl⟩
  | acknowledges => exact ⟨.comes (by simp [claimants, free, nobody, inState]) rfl rfl, prompt_owned rfl⟩

/-- A task that has waited for an exchange keeps it or leaves it to the next one. -/
theorem reclaims_opensLate {raw : Json} (owned : reg.owner = some ticket)
    (opened : Opened c desired raw rep reg m events) :
    Reclaims ticket reg .queued m.registration m.phase ∧ m.registration.Prompt := by
  cases opened with
  | skipped => exact reclaims_release owned _ _
  | unrejected => exact reclaims_inState_release _ owned _ _
  | unacknowledged => exact reclaims_inState_release _ owned _ _
  | rejects => exact ⟨.same rfl rfl, prompt_owned owned⟩
  | acknowledges => exact ⟨.same rfl rfl, prompt_owned owned⟩

theorem moved_reclaims (prompt : reg.Prompt) (owns : Holds phase → reg.owner = some ticket)
    (moved : Moved c ticket desired rep reg phase m events) :
    Reclaims ticket reg phase m.registration m.phase ∧ m.registration.Prompt := by
  cases moved with
  | absent => exact ⟨.same rfl rfl, prompt⟩
  | queues wants held => exact ⟨.comes (by simp [claimants]) rfl rfl, prompt_owned held⟩
  | opens wants free opened => exact reclaims_opens prompt free opened
  | waits => exact ⟨.same rfl rfl, prompt⟩
  | leaves unwanted held => exact reclaims_release held _ _
  | opensLate wants held opened => exact reclaims_opensLate held opened
  | pauses => exact ⟨.same rfl rfl, prompt⟩
  | refused => exact reclaims_release (owns trivial) _ _
  | applies => exact ⟨.same rfl rfl, prompt⟩
  | finishes => exact reclaims_release (owns trivial) _ _
  | works => exact ⟨.same rfl rfl, prompt⟩
  | unanswered => exact reclaims_release (owns trivial) _ _
  | answers => exact ⟨.same rfl rfl, prompt⟩
  | rests => exact ⟨.same rfl rfl, prompt⟩

end Task

namespace Session
variable {c : Convention} {s : Session} {entries : List Entry} {k i : Nat} {t : Standing}

/-- The claimants of an exchange are tasks that are under way, none of them twice. -/
structure Claimed (s : Session) : Prop where
  prompt : ∀ {i : Nat} {reg : Registration}, s.registrations[i]? = some reg → reg.Prompt
  nodup : ∀ {i : Nat} {reg : Registration}, s.registrations[i]? = some reg → reg.claimants.Nodup
  engaged : ∀ {i k : Nat} {reg : Registration}, s.registrations[i]? = some reg → k ∈ reg.claimants →
    ∃ t, s.task? k i = some t ∧ t.phase.isEngaged = true

/-- A task that has not moved is engaged as it was. -/
theorem engaged_advance (found : s.task? k i = some t) (m : Move) {k' i' : Nat} {t' : Standing}
    (other : ¬ (k' = k ∧ i' = i)) (found' : s.task? k' i' = some t') (engaged : t'.phase.isEngaged = true) :
    ∃ t', (s.advance k i m).task? k' i' = some t' ∧ t'.phase.isEngaged = true := by
  rw [task?_advance found, found']
  exact ⟨_, rfl, by simpa [other] using engaged⟩

/-- A move of a task keeps the claimants of its exchange. -/
theorem claimed_own {m : Move} (claimed : s.Claimed) (found : s.task? k i = some t)
    (reclaims : Task.Reclaims k t.registration t.phase m.registration m.phase) :
    m.registration.claimants.Nodup ∧ ∀ k' ∈ m.registration.claimants,
      ∃ t', (s.advance k i m).task? k' i = some t' ∧ t'.phase.isEngaged = true := by
  obtain ⟨_, _, registration, _⟩ := task?_eq_some found
  have nodup := claimed.nodup registration
  have self := task?_advance_self found m
  have others : ∀ k' ∈ t.registration.claimants, k' ≠ k →
      ∃ t', (s.advance k i m).task? k' i = some t' ∧ t'.phase.isEngaged = true := by
    intro k' member different
    obtain ⟨t', found', engaged⟩ := claimed.engaged registration member
    exact engaged_advance found m (fun same => different same.1) found' engaged
  have engagedSelf (member : k ∈ t.registration.claimants) : t.phase.isEngaged = true := by
    obtain ⟨t', found', engaged⟩ := claimed.engaged registration member
    rw [found] at found'
    cases found'
    exact engaged
  generalize t.registration = reg at reclaims nodup others engagedSelf
  generalize t.phase = phase at reclaims engagedSelf
  generalize m.registration = reg' at reclaims self
  generalize m.phase = phase' at reclaims self
  cases reclaims with
  | same claimants engaged =>
    rw [claimants]
    refine ⟨nodup, fun k' member => ?_⟩
    by_cases here : k' = k
    · subst here
      exact ⟨_, self, by rw [← engagedSelf member]; exact engaged⟩
    · exact others k' member here
  | comes claimants new engaged =>
    have absent : k ∉ reg.claimants := fun member => by simp [engagedSelf member] at new
    rw [claimants]
    refine ⟨List.nodup_append.mpr ⟨nodup, by simp, ?_⟩, fun k' member => ?_⟩
    · rintro k' member _ here rfl
      exact absent (List.mem_singleton.mp here ▸ member)
    · rcases List.mem_append.mp member with before | last
      · exact others k' before fun here => absent (here ▸ before)
      · rw [List.mem_singleton.mp last]
        exact ⟨_, self, engaged⟩
  | goes claimants =>
    rw [claimants] at nodup others
    obtain ⟨absent, nodup⟩ := List.nodup_cons.mp nodup
    exact ⟨nodup, fun k' member => others k' (List.mem_cons_of_mem k member) fun here => absent (here ▸ member)⟩

theorem claimed_next (claimed : s.Claimed) (proper : Proper c entries s) (k i : Nat) : (s.next c k i).1.Claimed := by
  cases found : s.task? k i with
  | none => simpa [next, found] using claimed
  | some t =>
    rw [next_of_task c found]
    obtain ⟨_, _, registration, _⟩ := task?_eq_some found
    have ticket := proper.ticket found
    obtain ⟨reclaims, prompt⟩ := Task.moved_reclaims (claimed.prompt registration)
      (fun holds => ticket ▸ proper.owner found holds) (move_moved proper found)
    rw [ticket] at reclaims
    obtain ⟨nodup, engaged⟩ := claimed_own claimed found reclaims
    refine ⟨?_, ?_, ?_⟩
    · intro j reg there
      rcases registration_advance there with ⟨_, rfl⟩ | ⟨_, before⟩
      · exact prompt
      · exact claimed.prompt before
    · intro j reg there
      rcases registration_advance there with ⟨_, rfl⟩ | ⟨_, before⟩
      · exact nodup
      · exact claimed.nodup before
    · intro j k' reg there member
      rcases registration_advance there with ⟨rfl, rfl⟩ | ⟨elsewhere, before⟩
      · exact engaged k' member
      · obtain ⟨t', found', engaged⟩ := claimed.engaged before member
        exact engaged_advance found _ (fun same => elsewhere same.2) found' engaged

theorem claimed_run (schedule : List (Nat × Nat)) (claimed : s.Claimed) (proper : Proper c entries s) :
    (s.run c schedule).1.Claimed := by
  induction schedule generalizing s entries with
  | nil => exact claimed
  | cons move schedule ih =>
    obtain ⟨k, i⟩ := move
    exact ih (claimed_next claimed proper k i) (proper_next proper k i)

/-- Tasks that have all ended claim nothing. -/
theorem Claimed.free {reg : Registration} (claimed : s.Claimed) (finished : s.isOver = true)
    (there : s.registrations[i]? = some reg) : reg.owner = none ∧ reg.waiting = [] := by
  have none_ : reg.claimants = [] := by
    refine List.eq_nil_iff_forall_not_mem.mpr fun k member => ?_
    obtain ⟨t, found, engaged⟩ := claimed.engaged there member
    obtain ⟨d, dispatch, _, phased, _⟩ := task?_eq_some found
    have ended := List.all_eq_true.mp (List.all_eq_true.mp finished d (List.mem_of_getElem? dispatch)) t.phase
      (List.mem_of_getElem? phased)
    revert ended engaged
    cases t.phase <;> simp [Phase.isEngaged]
  simpa [Registration.claimants, Option.toList_eq_nil_iff] using none_

end Session

namespace Dispatcher
variable {d d' : Dispatcher} {entries : List Entry} {i : Nat} {reg : Registration}

theorem claimed_begin (idle : ∀ reg ∈ d.registrations, reg.Idle) (sets : List DesiredSet) :
    (d.begin sets).Claimed := by
  have claims : ∀ {i : Nat} {reg : Registration}, (d.begin sets).registrations[i]? = some reg →
      reg.Prompt ∧ reg.claimants = [] := by
    intro i reg there
    have free := idle reg (List.mem_of_getElem? there)
    exact ⟨fun _ => free.waiting, by simp [Registration.claimants, free.owner, free.waiting]⟩
  refine ⟨fun there => (claims there).1, fun there => ?_, fun there member => ?_⟩
  · rw [(claims there).2]
    exact List.nodup_nil
  · rw [(claims there).2] at member
    cases member

theorem sound_of_reachable (reached : Reachable d entries) : ∀ reg ∈ d.registrations, reg.Sound := by
  intro reg member
  obtain ⟨i, there⟩ := List.mem_iff_getElem?.mp member
  exact (settled_of_reachable reached).sound there

/-- Whatever a device has come to: while no dispatch is under way, no exchange is locked. -/
theorem idle_of_reachable (reached : Reachable d entries) : ∀ reg ∈ d.registrations, reg.Idle := by
  suffices free : ∀ reg ∈ d.registrations, reg.owner = none ∧ reg.waiting = [] from
    fun reg member => ⟨sound_of_reachable reached reg member, (free reg member).1, (free reg member).2⟩
  induction reached with
  | new c rep => simp [Dispatcher.new]
  | registered before registers ih =>
    simp only [register] at registers
    split at registers
    · cases registers
    · cases registers
      intro reg member
      rcases List.mem_append.mp member with inside | last
      · exact ih reg inside
      · rw [List.mem_singleton.mp last]
        exact ⟨rfl, rfl⟩
  | @reported d entries before name value component ih =>
    rw [(reportProperty_same d name value component).1]
    exact ih
  | @ended d entries before sets schedule finished ih =>
    intro reg member
    obtain ⟨i, there⟩ := List.mem_iff_getElem?.mp member
    have idle : ∀ reg ∈ d.registrations, reg.Idle := fun reg member =>
      ⟨sound_of_reachable before reg member, (ih reg member).1, (ih reg member).2⟩
    have claimed := Session.claimed_run schedule (claimed_begin idle sets)
      (proper_begin (settled_of_reachable before) sets)
    exact claimed.free finished there
  | dropped before sets schedule ih =>
    intro reg member
    obtain ⟨reg₀, _, rfl⟩ := List.mem_map.mp member
    exact ⟨rfl, rfl⟩

end Dispatcher
end DeviceTwin
