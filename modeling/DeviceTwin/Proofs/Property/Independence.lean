import DeviceTwin.Proofs.Property.Completion

/-!
Handlers do not interfere. In a dispatch of one set to some handlers, whatever order their tasks move in, what each of
them does is what it does alone on a device of its own, where nothing pauses and its calls of the reporter get the same
replies (`Registration.solo`). A task that moves stays alike to the one that is alone (`Task.alike_step`), the moves
of others leave it as it is, and so a run keeps the likeness (`Session.tracks_run`) up to the end of the task, which
comes whatever the others do (`Dispatcher.independent_handlers`).
-/
namespace DeviceTwin

/-- A call of the reporter begins. -/
def Event.isCall : Event → Bool
  | .called _ => true
  | _ => false

def Entry.isCall (e : Entry) : Bool :=
  e.event.isCall

/-- How the calls of one handler are refused, if they are. Calls are numbered through all handlers, from `first` on. -/
def replies (refusal : Nat → Option String) (i first : Nat) (entries : List Entry) : List (Option String) :=
  ((entries.filter Entry.isCall).zipIdx first).filterMap fun (e, index) =>
    if e.handler = i then some (refusal index) else none

/-- What has become of a handler in a dispatch: its calls and runs, its exchange, how often it has run by now, and
    the result of its task. -/
structure Performance where
  events : List Event
  exchange : Exchange
  calls : Nat
  result : Except DeviceError (Option AckReport)

/-- The performance of a handler in the first dispatch of a session, when its task has ended. -/
def Session.performance? (r : Session × List Entry) (i : Nat) : Option Performance :=
  match r.1.task? 0 i with
  | some ⟨_, _, reg, .finished result⟩ => some ⟨eventsOf i r.2, reg.exchange, reg.calls, result⟩
  | _ => none

namespace Registration

/-- A device with one handler only, without pauses, and with the given replies to its calls of the reporter. -/
def device (reg : Registration) (c : Convention) (replies : List (Option String)) : Dispatcher :=
  ⟨c, ⟨0, fun call => replies[call]?.join, 0, []⟩, [{ reg with handler := reg.handler.eager }]⟩

/-- A set with nothing but a value for the property. -/
def ownSet (reg : Registration) (version : Int64) (raw : Option Json) : DesiredSet :=
  ⟨version, raw.elim .empty fun raw => Convention.singleEntry reg.handler.property raw reg.handler.component⟩

/-- The performance of a handler that is alone: four moves bring it to its end. -/
def solo (reg : Registration) (c : Convention) (version : Int64) (raw : Option Json) (replies : List (Option String)) :
    Option Performance :=
  Session.performance? (((reg.device c replies).begin [reg.ownSet version raw]).run c (List.replicate 4 (0, 0))) 0

end Registration

/-! ### Calls and replies -/

section Replies
variable (refusal : Nat → Option String) (i first : Nat)

theorem replies_append (entries rest : List Entry) :
    replies refusal i first (entries ++ rest) =
      replies refusal i first entries ++ replies refusal i (first + entries.countP Entry.isCall) rest := by
  simp [replies, List.filter_append, List.zipIdx_append, List.countP_eq_length_filter]

/-- Each call of a handler has a reply. -/
theorem length_replies (entries : List Entry) :
    (replies refusal i first entries).length = (eventsOf i entries).countP Event.isCall := by
  induction entries generalizing first with
  | nil => rfl
  | cons e entries ih =>
    have here : (replies refusal i first [e]).length = (eventsOf i [e]).countP Event.isCall := by
      by_cases call : e.event.isCall = true
      · by_cases own : e.handler = i
        · simp [replies, eventsOf, Entry.isCall, call, own]
        · simp [replies, eventsOf, Entry.isCall, call, own]
      · by_cases own : e.handler = i
        · simp [replies, eventsOf, Entry.isCall, call, own]
        · simp [replies, eventsOf, Entry.isCall, call, own]
    rw [← List.singleton_append, replies_append, List.length_append, eventsOf_append, List.countP_append, here, ih]

/-- The reply to a call that comes next. -/
theorem replies_next {events : List Event} (calls : events.any Event.isCall = true) (k : Nat) (rest : List Entry) :
    (replies refusal i first (events.map (fun e => ⟨k, i, e⟩) ++ rest))[0]? = some (refusal first) := by
  induction events with
  | nil => cases calls
  | cons e events ih =>
    by_cases call : e.isCall = true
    · simp [replies, Entry.isCall, call]
    · simp only [List.any_cons, call, Bool.false_or] at calls
      have later := ih calls
      simpa [replies, Entry.isCall, call] using later

end Replies

namespace Task
variable {c : Convention} {ticket ticket' : Nat} {desired desired' : DesiredSet} {rep rep' : Reporter}
  {reg reg' : Registration} {phase phase' : Phase}

theorem calls_act (act : Act) (rep : Reporter) (reg : Registration) :
    (act.move rep reg).reporter.calls = rep.calls + (calling (act.move rep reg).phase).countP Event.isCall := by
  cases act <;> rfl

/-- The calls that a move shows are those that the reporter counts. -/
theorem step_calls : (step c ticket desired rep reg phase).reporter.calls =
    rep.calls + (shows c ticket desired rep reg phase).countP Event.isCall := by
  have opens (reg' : Registration) (raw : Json) : (open_ c rep reg' desired.version raw).reporter.calls =
      rep.calls + (calling (open_ c rep reg' desired.version raw).phase).countP Event.isCall := by
    obtain ⟨act, acts⟩ := open_act c reg' desired.version raw
    rw [acts rep reg' (.refl reg')]
    exact calls_act act rep reg'
  cases phase with
  | entering =>
    cases wants : desired.property reg.handler.property reg.handler.component with
    | none => simp [step, shows, Handler.wanted, wants]
    | some raw =>
      cases owner : reg.owner with
      | none => simpa [step, shows, Handler.wanted, wants, owner, Event.isCall] using opens _ raw
      | some holder => simp [step, shows, wants, owner]
  | queued =>
    by_cases owner : reg.owner = some ticket
    · cases wants : desired.property reg.handler.property reg.handler.component with
      | none => simp [step, shows, Handler.wanted, wants, owner, finish]
      | some raw => simpa [step, shows, Handler.wanted, wants, owner, Event.isCall] using opens _ raw
    · simp [step, shows, owner]
  | reporting n index patch next =>
    cases n with
    | succ n => rfl
    | zero => cases refusal : rep.refusal index <;> cases next <;>
        simp [step, shows, Reporter.settle, refusal, finish, proceed, Event.isCall]
  | applying n o =>
    cases n with
    | succ n => rfl
    | zero =>
      obtain ⟨act, _, acts⟩ := close_act c reg desired.version o
      simp only [step, shows, acts rep reg (.refl reg)]
      exact calls_act act rep reg
  | finished r => rfl

/-! ### Tasks that are alike -/

/-- Both tasks stand at the same point, the second one without pauses, and calls of the reporter that are under way
    have the same reply. -/
inductive SamePhase (refusal refusal' : Nat → Option String) : Phase → Phase → Prop where
  | entering : SamePhase refusal refusal' .entering .entering
  | reporting (pauses : Nat) {index index' : Nat} (patch : Patch) (next : Next)
      (reply : refusal index = refusal' index') :
      SamePhase refusal refusal' (.reporting pauses index patch next) (.reporting 0 index' patch next)
  | applying (pauses : Nat) (o : Outcome) : SamePhase refusal refusal' (.applying pauses o) (.applying 0 o)
  | finished (result : Except DeviceError (Option AckReport)) :
      SamePhase refusal refusal' (.finished result) (.finished result)

/-- A task and one that is alone have the same work before them. -/
structure Alike (refusal refusal' : Nat → Option String) (reg : Registration) (phase : Phase) (reg' : Registration)
    (phase' : Phase) : Prop where
  work : SameWork reg reg'
  quick : reg'.handler.pauses = 0
  stands : SamePhase refusal refusal' phase phase'
  unlocked : phase = .entering → reg.owner = none ∧ reg'.owner = none

/-- The next move of the task is a pause. -/
def pauses : Phase → Bool
  | .reporting (_ + 1) _ _ _ => true
  | .applying (_ + 1) _ => true
  | _ => false

/-- A task that pauses stays alike to one that does not move. -/
theorem alike_pause (c : Convention) (ticket : Nat) (desired : DesiredSet)
    (alike : Alike rep.refusal rep'.refusal reg phase reg' phase') (pausing : pauses phase = true) :
    Alike rep.refusal rep'.refusal (step c ticket desired rep reg phase).registration
        (step c ticket desired rep reg phase).phase reg' phase' ∧
      shows c ticket desired rep reg phase = [] := by
  obtain ⟨work, quick, same, unlocked⟩ := alike
  cases same with
  | entering => cases pausing
  | reporting n patch next reply =>
    cases n with
    | zero => cases pausing
    | succ n => exact ⟨⟨work, quick, .reporting n patch next reply, nofun⟩, rfl⟩
  | applying n o =>
    cases n with
    | zero => cases pausing
    | succ n => exact ⟨⟨work, quick, .applying n o, nofun⟩, rfl⟩
  | finished => cases pausing

theorem alike_finished {refusal refusal' : Nat → Option String} (result : Except DeviceError (Option AckReport))
    (work : SameWork reg reg') (quick : reg'.handler.pauses = 0) :
    Alike refusal refusal' reg (.finished result) reg' (.finished result) :=
  ⟨work, quick, .finished result, nofun⟩

/-- The same act keeps tasks alike, if a call that it makes gets the same reply. -/
theorem alike_act (act : Act) (reg reg' : Registration) (work : SameWork reg reg') (quick : reg'.handler.pauses = 0)
    (unpaused : rep'.pauses = 0)
    (reply : (calling (act.move rep reg).phase).any Event.isCall = true →
      rep.refusal rep.calls = rep'.refusal rep'.calls) :
    Alike rep.refusal rep'.refusal (act.move rep reg).registration (act.move rep reg).phase
        (act.move rep' reg').registration (act.move rep' reg').phase ∧
      calling (act.move rep reg).phase = calling (act.move rep' reg').phase := by
  cases act with
  | ends exchange result =>
    exact ⟨alike_finished result ⟨work.handler, rfl, work.calls⟩ quick, rfl⟩
  | reports exchange patch next =>
    refine ⟨⟨⟨work.handler, rfl, work.calls⟩, quick, ?_, nofun⟩, rfl⟩
    simp only [Act.move, report, unpaused]
    exact .reporting _ patch next (reply rfl)

/-- A task that does not pause stays alike to one that moves with it, and shows the same. -/
theorem alike_step (c : Convention) (ticket ticket' : Nat)
    (alike : Alike rep.refusal rep'.refusal reg phase reg' phase') (moving : pauses phase = false)
    (unpaused : rep'.pauses = 0) (version : desired.version = desired'.version)
    (wanted : reg.handler.wanted desired = reg'.handler.wanted desired')
    (reply : (shows c ticket desired rep reg phase).any Event.isCall = true →
      rep.refusal rep.calls = rep'.refusal rep'.calls) :
    Alike rep.refusal rep'.refusal (step c ticket desired rep reg phase).registration
        (step c ticket desired rep reg phase).phase (step c ticket' desired' rep' reg' phase').registration
        (step c ticket' desired' rep' reg' phase').phase ∧
      shows c ticket desired rep reg phase = shows c ticket' desired' rep' reg' phase' := by
  obtain ⟨work, quick, same, unlocked⟩ := alike
  cases same with
  | entering =>
    obtain ⟨owner, owner'⟩ := unlocked rfl
    cases wants : reg.handler.wanted desired with
    | none =>
      have wants' := wanted.symm.trans wants
      simp only [Handler.wanted] at wants wants'
      simp only [step, shows, Handler.wanted, wants, wants']
      exact ⟨alike_finished _ work quick, rfl⟩
    | some raw =>
      have wants' := wanted.symm.trans wants
      obtain ⟨act, acts⟩ := open_act c reg desired.version raw
      have acts₁ := acts rep { reg with owner := some ticket } ⟨rfl, rfl, rfl⟩
      have acts₂ := acts rep' { reg' with owner := some ticket' } ⟨work.handler, work.exchange, work.calls⟩
      rw [version] at acts₂
      simp only [Handler.wanted] at wants wants'
      simp only [step, shows, Handler.wanted, wants, wants', owner, owner', acts₁, acts₂, Option.isSome_some, and_self,
        if_true] at reply ⊢
      obtain ⟨alike, same⟩ := alike_act act { reg with owner := some ticket }
        { reg' with owner := some ticket' } ⟨work.handler, work.exchange, work.calls⟩ quick unpaused
        (by simpa [Event.isCall] using reply)
      exact ⟨alike, by rw [same, version, work.exchange]⟩
  | @reporting n index index' patch next answer =>
    cases n with
    | succ n => cases moving
    | zero =>
      have handlers : reg.handler.eager.respond = reg'.handler.eager.respond := by rw [work.handler]
      cases refusal : rep.refusal index with
      | some reason =>
        have refusal' := answer.symm.trans refusal
        simp only [step, shows, Reporter.settle, refusal, refusal']
        exact ⟨alike_finished _ ⟨work.handler, work.exchange, work.calls⟩ quick, trivial⟩
      | none =>
        have refusal' := answer.symm.trans refusal
        cases next with
        | apply value =>
          have responds : reg.handler.respond = reg'.handler.respond := handlers
          simp only [step, shows, Reporter.settle, refusal, refusal', proceed, version, work.calls, responds, quick]
          exact ⟨⟨⟨work.handler, work.exchange, rfl⟩, quick, .applying _ _, fun entering => by cases entering⟩, trivial⟩
        | finish r =>
          simp only [step, shows, Reporter.settle, refusal, refusal', proceed]
          exact ⟨alike_finished _ ⟨work.handler, work.exchange, work.calls⟩ quick, trivial⟩
  | applying n o =>
    cases n with
    | succ n => cases moving
    | zero =>
      obtain ⟨act, _, acts⟩ := close_act c reg desired.version o
      have acts' := acts rep' reg' work
      rw [version] at acts'
      simp only [step, shows, acts rep reg (.refl reg), acts'] at reply ⊢
      exact alike_act act reg reg' work quick unpaused reply
  | finished result => exact ⟨alike_finished result work quick, rfl⟩

end Task

/-! ### Runs that are alike -/

namespace Session
variable {c : Convention} {s alone : Session} {entries entries' : List Entry} {i j k first : Nat} {t : Standing}

theorem single_run (schedule : List (Nat × Nat)) (single : s.Single) : (s.run c schedule).1.Single := by
  induction schedule generalizing s with
  | nil => exact single
  | cons move schedule ih =>
    obtain ⟨k, j⟩ := move
    exact ih (single_next single k j)

theorem run_refusal (schedule : List (Nat × Nat)) :
    (s.run c schedule).1.reporter.refusal = s.reporter.refusal := by
  induction schedule generalizing s with
  | nil => rfl
  | cons move schedule ih =>
    obtain ⟨k, j⟩ := move
    exact ih.trans (next_reporter c s k j).2

theorem next_calls (c : Convention) (s : Session) (k j : Nat) :
    (s.next c k j).1.reporter.calls = s.reporter.calls + (s.next c k j).2.countP Entry.isCall := by
  cases found : s.task? k j with
  | none => simp [next, found]
  | some t =>
    rw [next_of_task c found, List.countP_map]
    exact Task.step_calls

/-- A task of a session is alike to the task of a handler that is alone, and has been seen to do the same. -/
structure Tracks (s : Session) (entries : List Entry) (i : Nat) (alone : Session) (entries' : List Entry) : Prop where
  alike : ∃ t t', s.task? 0 i = some t ∧ alone.task? 0 0 = some t' ∧
    Task.Alike s.reporter.refusal alone.reporter.refusal t.registration t.phase t'.registration t'.phase ∧
    t.desired.version = t'.desired.version ∧
    t.registration.handler.wanted t.desired = t'.registration.handler.wanted t'.desired
  events : eventsOf i entries = eventsOf 0 entries'
  calls : alone.reporter.calls = (eventsOf i entries).countP Event.isCall
  unpaused : alone.reporter.pauses = 0

/-- The move of another task changes nothing for a task. -/
theorem tracks_other (tracks : Tracks s entries i alone entries') (single : s.Single)
    (other : ¬ (k = 0 ∧ j = i)) :
    Tracks (s.next c k j).1 (entries ++ (s.next c k j).2) i alone entries' := by
  obtain ⟨⟨t, t', found, found', alike⟩, events, calls, unpaused⟩ := tracks
  have quiet : eventsOf i (s.next c k j).2 = [] := by
    cases moved : s.task? k j with
    | none => simp [next, moved, eventsOf]
    | some u =>
      obtain rfl := single.first moved
      rw [next_of_task c moved]
      exact eventsOf_foreign (fun same => other ⟨rfl, same⟩) 0 _
  refine ⟨⟨t, t', (task?_next_other c single other).trans found, found', ?_⟩, ?_, ?_, unpaused⟩
  · rwa [(next_reporter c s k j).2]
  · rwa [eventsOf_append, quiet, List.append_nil]
  · rwa [eventsOf_append, quiet, List.append_nil]

/-- When a task moves, the one that is alone stays where it is or moves with it. -/
theorem tracks_own (tracks : Tracks s entries i alone entries')
    (reply : ∀ t, s.task? 0 i = some t →
      (Task.shows c t.ticket t.desired s.reporter t.registration t.phase).any Event.isCall = true →
      s.reporter.refusal s.reporter.calls = alone.reporter.refusal alone.reporter.calls) :
    Tracks (s.next c 0 i).1 (entries ++ (s.next c 0 i).2) i alone entries' ∨
      Tracks (s.next c 0 i).1 (entries ++ (s.next c 0 i).2) i (alone.next c 0 0).1
        (entries' ++ (alone.next c 0 0).2) := by
  obtain ⟨⟨t, t', found, found', alike, version, wanted⟩, events, calls, unpaused⟩ := tracks
  have intact : Task.Intact s.reporter t.registration.handler (s.move c t) := Task.step_intact
  have intact' : Task.Intact alone.reporter t'.registration.handler (alone.move c t') := Task.step_intact
  cases pausing : Task.pauses t.phase with
  | true =>
    obtain ⟨alike, quiet⟩ := Task.alike_pause c t.ticket t.desired alike pausing
    rw [next_of_task c found, quiet, List.map_nil, List.append_nil]
    refine .inl ⟨⟨_, t', task?_advance_self found _, found', ?_, version, ?_⟩, events, calls, unpaused⟩
    · rw [show (s.advance 0 i (s.move c t)).reporter.refusal = s.reporter.refusal from intact.refusal]
      exact alike
    · rwa [← intact.handler] at wanted
  | false =>
    obtain ⟨alike, same⟩ := Task.alike_step c t.ticket t'.ticket alike pausing unpaused version
      wanted (reply t found)
    have numbered := next_calls c alone 0 0
    rw [next_of_task c found, next_of_task c found'] at *
    refine .inr ⟨⟨_, _, task?_advance_self found _, task?_advance_self found' _, ?_, version, ?_⟩, ?_, ?_, ?_⟩
    · rw [show (s.advance 0 i (s.move c t)).reporter.refusal = s.reporter.refusal from intact.refusal,
        show (alone.advance 0 0 (alone.move c t')).reporter.refusal = alone.reporter.refusal from intact'.refusal]
      exact alike
    · rwa [← intact.handler, ← intact'.handler] at wanted
    · rw [eventsOf_append, eventsOf_append, eventsOf_own, eventsOf_own, events, same]
    · rw [eventsOf_append, List.countP_append, eventsOf_own, ← calls, same, numbered, List.countP_map]
      rfl
    · exact intact'.pauses.trans unpaused

/-- A run of a session keeps a task alike to the one that is alone and gets the same replies. -/
theorem tracks_run (first : Nat) (schedule : List (Nat × Nat)) (single : s.Single)
    (numbered : s.reporter.calls = first + entries.countP Entry.isCall) {n : Nat}
    (tracks : Tracks s entries i (alone.run c (List.replicate n (0, 0))).1 (alone.run c (List.replicate n (0, 0))).2)
    (agrees : ∀ index reply,
      (replies s.reporter.refusal i first (entries ++ (s.run c schedule).2))[index]? = some reply →
      alone.reporter.refusal index = reply) :
    ∃ n, Tracks (s.run c schedule).1 (entries ++ (s.run c schedule).2) i (alone.run c (List.replicate n (0, 0))).1
      (alone.run c (List.replicate n (0, 0))).2 := by
  -- The lone handler lags behind: it moves only with those moves of its task that are no pauses.
  induction schedule generalizing s entries n with
  | nil => exact ⟨n, by simpa [run] using tracks⟩
  | cons move schedule ih =>
    obtain ⟨k, j⟩ := move
    have numbered' : (s.next c k j).1.reporter.calls =
        first + (entries ++ (s.next c k j).2).countP Entry.isCall := by
      rw [next_calls, numbered, List.countP_append, Nat.add_assoc]
    simp only [run, ← List.append_assoc] at agrees ⊢
    have agrees' := agrees
    rw [← (next_reporter c s k j).2] at agrees'
    by_cases own : k = 0 ∧ j = i
    · obtain ⟨rfl, rfl⟩ := own
      have reply (t : Standing) (found : s.task? 0 j = some t)
          (calls : (Task.shows c t.ticket t.desired s.reporter t.registration t.phase).any Event.isCall = true) :
          s.reporter.refusal s.reporter.calls =
            (alone.run c (List.replicate n (0, 0))).1.reporter.refusal
              (alone.run c (List.replicate n (0, 0))).1.reporter.calls := by
        -- It has called the reporter as often as the task, so its call gets the next of the replies.
        rw [run_refusal, tracks.calls]
        refine (agrees _ _ ?_).symm
        rw [next_of_task c found, List.append_assoc, replies_append, List.getElem?_append_right, length_replies,
          Nat.sub_self, ← numbered]
        · exact replies_next _ _ _ calls _ _
        · rw [length_replies]
      rcases tracks_own tracks reply with stays | moves
      · exact ih (single_next single 0 j) numbered' stays agrees'
      · have further : alone.run c (List.replicate (n + 1) (0, 0)) =
            (((alone.run c (List.replicate n (0, 0))).1.next c 0 0).1,
              (alone.run c (List.replicate n (0, 0))).2 ++
                ((alone.run c (List.replicate n (0, 0))).1.next c 0 0).2) := by
          rw [List.replicate_succ', run_append]
          simp [run]
        exact ih (n := n + 1) (single_next single 0 j) numbered' (by rw [further]; exact moves) agrees'
    · exact ih (single_next single k j) numbered' (tracks_other tracks single own) agrees'

/-! ### Performances -/

theorem performance?_eq_some {r : Session × List Entry} {p : Performance} (ended : performance? r i = some p) :
    ∃ t, r.1.task? 0 i = some t ∧ t.phase = .finished p.result ∧
      p = ⟨eventsOf i r.2, t.registration.exchange, t.registration.calls, p.result⟩ := by
  unfold performance? at ended
  split at ended
  · rename_i found
    cases ended
    exact ⟨_, found, rfl, rfl⟩
  · cases ended

theorem performance?_finished {r : Session × List Entry} {result : Except DeviceError (Option AckReport)}
    (found : r.1.task? 0 i = some t) (finished : t.phase = .finished result) :
    performance? r i = some ⟨eventsOf i r.2, t.registration.exchange, t.registration.calls, result⟩ := by
  obtain ⟨ticket, desired, reg, phase⟩ := t
  subst finished
  simp [performance?, found]

/-- Tasks that are alike perform alike. -/
theorem Tracks.performance? {p : Performance} (tracks : Tracks s entries i alone entries')
    (ended : Session.performance? (s, entries) i = some p) : Session.performance? (alone, entries') 0 = some p := by
  obtain ⟨t, found, finished, same⟩ := performance?_eq_some ended
  obtain ⟨⟨u, t', found₁, found', alike, _⟩, events, _⟩ := tracks
  obtain rfl := Option.some.inj (found₁.symm.trans found)
  have stands := alike.stands
  rw [finished] at stands
  generalize phase' : t'.phase = last at stands
  cases stands
  rw [performance?_finished found' phase', same, ← alike.work.exchange, ← alike.work.calls, ← events]

/-- A task that has ended moves no more. -/
theorem run_ended {result : Except DeviceError (Option AckReport)} (found : s.task? 0 i = some t)
    (finished : t.phase = .finished result) (n : Nat) : s.run c (List.replicate n (0, i)) = (s, []) := by
  have still : s.next c 0 i = (s, []) := by
    have rests := advance_same found false
    rw [next_of_task c found]
    simp only [move, finished, Task.step, Task.shows, List.map_nil] at rests ⊢
    rw [rests]
  induction n with
  | zero => rfl
  | succ n ih => simp [List.replicate_succ, run, still, ih]

theorem performance?_later {p : Performance} {n : Nat} (more : Nat)
    (ended : performance? (s.run c (List.replicate n (0, i))) i = some p) :
    performance? (s.run c (List.replicate (n + more) (0, i))) i = some p := by
  obtain ⟨t, found, finished, _⟩ := performance?_eq_some ended
  rwa [List.replicate_add, run_append, run_ended found finished, List.append_nil]

end Session

/-! ### Results -/

/-- The error of a task, if it has failed. -/
def failure? : Except DeviceError (Option AckReport) → Option DeviceError
  | .error e => some e
  | .ok _ => none

/-- The report of a task, if it has closed an exchange. -/
def report? : Except DeviceError (Option AckReport) → Option AckReport
  | .error _ => none
  | .ok r => r

namespace Dispatch

/-- The first error among the results of the handlers, and if there is none, all their reports. -/
def outcome (results : List (Except DeviceError (Option AckReport))) : Except DeviceError (List AckReport) :=
  match results.findSome? failure? with
  | some e => .error e
  | none => .ok (results.filterMap report?)

theorem collect_finished (results : List (Except DeviceError (Option AckReport))) :
    collect (results.map Phase.finished) = outcome results := by
  induction results with
  | nil => rfl
  | cons result results ih =>
    cases result with
    | error e => rfl
    | ok report =>
      cases failed : results.findSome? failure? <;> cases report <;>
        simp [collect, ih, outcome, List.findSome?_cons, List.filterMap_cons, failure?, report?, failed, bind,
          Except.bind, pure, Except.pure]

theorem exists_results {d : Dispatch} (finished : d.isFinished = true) :
    ∃ results : List (Except DeviceError (Option AckReport)), d.phases = results.map .finished := by
  obtain ⟨ticket, desired, phases⟩ := d
  induction phases with
  | nil => exact ⟨[], rfl⟩
  | cons phase phases ih =>
    simp only [isFinished, List.all_cons, Bool.and_eq_true] at finished ih
    obtain ⟨results, rfl⟩ := ih finished.2
    cases phase with
    | finished result => exact ⟨result :: results, rfl⟩
    | _ => cases finished.1

end Dispatch

namespace Session
variable {s : Session}

/-- When a dispatch has ended, every handler has a result, and the dispatch has the outcome of these. -/
theorem results_of_over (entries : List Entry) (single : s.Single) (full : s.Full) (finished : s.isOver = true) :
    ∃ results, results.length = s.registrations.length ∧
      (∀ i, results[i]? = (performance? (s, entries) i).map (·.result)) ∧
      s.dispatches.map (fun d => Dispatch.collect d.phases) = [Dispatch.outcome results] := by
  obtain ⟨d, only⟩ := List.length_eq_one_iff.mp single
  have member : d ∈ s.dispatches := by simp [only]
  obtain ⟨results, phases⟩ := Dispatch.exists_results (List.all_eq_true.mp finished d member)
  have first : s.dispatches[0]? = some d := by simp [only]
  have length := full d member
  rw [phases, List.length_map] at length
  refine ⟨results, length, fun i => ?_, by rw [only, List.map_singleton, phases, Dispatch.collect_finished]⟩
  cases here : results[i]? with
  | some result =>
    have phased : d.phases[i]? = some (.finished result) := by rw [phases, List.getElem?_map, here, Option.map_some]
    obtain ⟨reg, _, found⟩ := task?_of_phase full first phased
    rw [performance?_finished found rfl, Option.map_some]
  | none =>
    cases ended : performance? (s, entries) i with
    | none => rfl
    | some p =>
      obtain ⟨t, found, _⟩ := performance?_eq_some ended
      obtain ⟨d', there, _, phased, _⟩ := task?_eq_some found
      obtain rfl := Option.some.inj (there.symm.trans first)
      rw [phases, List.getElem?_map, here] at phased
      cases phased

end Session

/-! ### Dispatches -/

namespace Dispatcher
variable {d : Dispatcher} {entries : List Entry} {desired : DesiredSet} {i : Nat} {reg : Registration}

theorem task?_entering (there : d.registrations[i]? = some reg) :
    (d.begin [desired]).task? 0 i = some ⟨0, desired, reg, .entering⟩ := by
  obtain ⟨inside, here⟩ := List.getElem?_eq_some_iff.mp there
  simp [Session.task?, begin, inside, here]

theorem single_begin (d : Dispatcher) (desired : DesiredSet) : (d.begin [desired]).Single := rfl

/-- A handler comes to its end when it moves often enough, whatever else happens. -/
theorem performance?_of_count (idle : reg.Idle) (there : d.registrations[i]? = some reg) {schedule : List (Nat × Nat)}
    (enough : Task.left d.reporter.pauses reg.handler .entering ≤ schedule.count (0, i)) :
    (Session.performance? ((d.begin [desired]).run d.convention schedule) i).isSome := by
  obtain ⟨t, found, few⟩ := Session.left_run (c := d.convention) schedule (single_begin d desired)
    (task?_entering there) ⟨nofun, fun _ => idle.owner⟩
  obtain ⟨result, finished⟩ := Task.ended_of_left (Nat.le_zero.mp (few.trans (Nat.sub_eq_zero_of_le enough).le))
  rw [Session.performance?_finished found finished]
  rfl

theorem wanted_ownSet (reg : Registration) (desired : DesiredSet) :
    reg.handler.eager.wanted (reg.ownSet desired.version (reg.handler.wanted desired)) =
      reg.handler.wanted desired := by
  cases wants : reg.handler.wanted desired with
  | none =>
    simp only [Handler.wanted, DesiredSet.property, Registration.ownSet, Option.elim_none, Patch.property]
    split
    · rfl
    · split <;> rfl
  | some raw =>
    have unreserved : reg.handler.property ≠ markerKey := by
      intro reserved
      simp [Handler.wanted, DesiredSet.property, Patch.property, reserved] at wants
    exact property_singleEntry unreserved raw rfl

/-- Each handler of a dispatch performs as it does alone. -/
theorem solo_of_performance? (idle : reg.Idle) (there : d.registrations[i]? = some reg)
    (schedule : List (Nat × Nat)) {p : Performance}
    (ended : Session.performance? ((d.begin [desired]).run d.convention schedule) i = some p) :
    reg.solo d.convention desired.version (reg.handler.wanted desired)
      (replies d.reporter.refusal i d.reporter.calls ((d.begin [desired]).run d.convention schedule).2) = some p := by
  generalize replied : replies d.reporter.refusal i d.reporter.calls _ = given
  let own := reg.ownSet desired.version (reg.handler.wanted desired)
  let alone := (reg.device d.convention given).begin [own]
  have starts : Session.Tracks (d.begin [desired]) [] i (alone.run d.convention (List.replicate 0 (0, 0))).1
      (alone.run d.convention (List.replicate 0 (0, 0))).2 := by
    refine ⟨⟨_, _, task?_entering there, task?_entering (d := reg.device d.convention given) rfl, ?_, rfl,
      (wanted_ownSet reg desired).symm⟩, rfl, rfl, rfl⟩
    exact ⟨⟨rfl, rfl, rfl⟩, rfl, .entering, fun _ => ⟨idle.owner, idle.owner⟩⟩
  obtain ⟨n, tracks⟩ := Session.tracks_run d.reporter.calls schedule (single_begin d desired) rfl starts
    (by
      intro index reply here
      rw [List.nil_append] at here
      have same : given[index]? = some reply := by
        rw [← replied]
        exact here
      exact congrArg Option.join same)
  have performed : Session.performance? (alone.run d.convention (List.replicate n (0, 0))) 0 = some p :=
    tracks.performance? ended
  -- Without pauses four moves are enough, and further ones change nothing: the number of moves does not matter.
  have idleAlone : ({ reg with handler := reg.handler.eager } : Registration).Idle :=
    ⟨idle.sound, idle.owner, idle.waiting⟩
  obtain ⟨q, soon⟩ : ∃ q, Session.performance? (alone.run d.convention (List.replicate 4 (0, 0))) 0 = some q :=
    Option.isSome_iff_exists.mp
      (performance?_of_count (d := reg.device d.convention given) idleAlone rfl (Nat.le_refl 4))
  have late := Session.performance?_later 4 performed
  have late' := Session.performance?_later n soon
  rw [Nat.add_comm, late] at late'
  cases late'
  exact soon

/-- In a dispatch on a device, whatever the device has come to: in any order of moves, each handler whose task has ended
    has performed as it does alone, with the replies it has got; its task ends when it moves often enough, whatever the
    others do; and the dispatch has the first error among the results, in the order of registration, or else all the
    reports. The dispatch of the device itself is over in one of these orders. -/
theorem independent_handlers (reached : Reachable d entries) (desired : DesiredSet) :
    (∀ schedule i reg p, d.registrations[i]? = some reg →
      Session.performance? ((d.begin [desired]).run d.convention schedule) i = some p →
      reg.solo d.convention desired.version (reg.handler.wanted desired)
        (replies d.reporter.refusal i d.reporter.calls ((d.begin [desired]).run d.convention schedule).2) = some p) ∧
    (∀ schedule i reg, d.registrations[i]? = some reg →
      2 * d.reporter.pauses + reg.handler.pauses + 4 ≤ schedule.count (0, i) →
      (Session.performance? ((d.begin [desired]).run d.convention schedule) i).isSome) ∧
    (∀ schedule, ((d.begin [desired]).run d.convention schedule).1.isOver = true →
      ∃ results, results.length = d.registrations.length ∧
        (∀ i, results[i]? =
          (Session.performance? ((d.begin [desired]).run d.convention schedule) i).map (·.result)) ∧
        ((d.begin [desired]).run d.convention schedule).1.dispatches.map (fun d => Dispatch.collect d.phases) =
          [Dispatch.outcome results]) ∧
    ∃ schedule results, ((d.begin [desired]).run d.convention schedule).1.isOver = true ∧
      results.length = d.registrations.length ∧
      (∀ i, results[i]? =
        (Session.performance? ((d.begin [desired]).run d.convention schedule) i).map (·.result)) ∧
      d.dispatch desired none =
        (some (Dispatch.outcome results), d.resume ((d.begin [desired]).run d.convention schedule).1) := by
  have idle := idle_of_reachable reached
  have outcome (schedule : List (Nat × Nat))
      (finished : ((d.begin [desired]).run d.convention schedule).1.isOver = true) :
      ∃ results, results.length = d.registrations.length ∧
        (∀ i, results[i]? =
          (Session.performance? ((d.begin [desired]).run d.convention schedule) i).map (·.result)) ∧
        ((d.begin [desired]).run d.convention schedule).1.dispatches.map (fun d => Dispatch.collect d.phases) =
          [Dispatch.outcome results] := by
    have results := Session.results_of_over ((d.begin [desired]).run d.convention schedule).2
      (Session.single_run schedule (single_begin d desired)) (Session.full_run schedule full_begin) finished
    rwa [Session.length_run] at results
  refine ⟨fun schedule i reg p there ended => ?_, fun schedule i reg there enough => ?_, outcome, ?_⟩
  · exact solo_of_performance? (idle reg (List.mem_of_getElem? there)) there schedule ended
  · exact performance?_of_count (idle reg (List.mem_of_getElem? there)) there enough
  · obtain ⟨schedule, finished, ends⟩ := dispatch_ends idle desired
    obtain ⟨results, length, performed, collected⟩ := outcome schedule finished
    refine ⟨schedule, results, finished, length, performed, ?_⟩
    simp only [dispatch, ends, collected, Option.bind_some, List.head?_cons]

/-- A handler that accepts numbers of 8 bits. -/
def gauge (name : String) (pauses : Nat) : Handler :=
  ⟨name, none, ⟨.u8, true⟩, pauses, fun _ value => ⟨.completed, value, none⟩⟩

/-- A device with two handlers, of which the second one pauses. Its reporter pauses too, and loses the first call. -/
def pair : Dispatcher :=
  ⟨.default, ⟨1, fun call => if call = 0 then some "lost" else none, 0, []⟩,
    [Registration.new (gauge "a" 0), Registration.new (gauge "b" 2)]⟩

theorem reachable_pair : Reachable pair [] :=
  .registered (h := gauge "b" 2) (.registered (h := gauge "a" 0) (.new .default pair.reporter) rfl) rfl

/-- A value for each of the handlers. -/
def values : DesiredSet :=
  ⟨3, (Patch.empty.insert "a" (.int 1)).insert "b" (.int 2)⟩

/-- A dispatch of these values, in which the handlers take turns. -/
def turns : Session × List Entry :=
  (pair.begin [values]).run .default (List.replicate 8 [(0, 0), (0, 1)]).flatten

theorem independent_handlers_pair :
    (Session.performance? turns 0).any (fun p => (failure? p.result).isSome) = true ∧
    ∃ p, Session.performance? turns 1 = some p ∧ (report? p.result).isSome = true ∧
      (Registration.new (gauge "b" 2)).solo .default 3 (some (.int 2)) [none, none] = some p := by
  obtain ⟨alone, ends, _⟩ := independent_handlers reachable_pair values
  obtain ⟨p, performed⟩ := Option.isSome_iff_exists.mp
    (ends (List.replicate 8 [(0, 0), (0, 1)]).flatten 1 (Registration.new (gauge "b" 2)) rfl (by decide))
  have same : (Registration.new (gauge "b" 2)).solo .default 3 (some (.int 2))
      (replies pair.reporter.refusal 1 0 turns.2) = some p := alone _ 1 _ p rfl performed
  have replied : replies pair.reporter.refusal 1 0 turns.2 = [none, none] := by decide +kernel
  have reported : (Session.performance? turns 1).any (fun p => (report? p.result).isSome) = true := by
    decide +kernel
  rw [show Session.performance? turns 1 = some p from performed] at reported
  exact ⟨by decide +kernel, p, performed, reported, replied ▸ same⟩

end Dispatcher
end DeviceTwin
