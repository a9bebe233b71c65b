import LintRelay.Execution
import Mathlib.Data.List.Induction
import Mathlib.Tactic.Lemma

/-!
# No child outlives its watch

When a watch is over, its child has exited and been reaped, unless the watch has broken off: it has
been cancelled while it waited for a killed child that had not been reaped.  In any case the child
has exited or has been killed (`Execution.child_at_end`).

What comes of a watch depends on what it was doing when something happened to it.
`Supervision.Met` picks such a moment out of all that has happened, and `Supervision.Accounted`
names for each state the moments that have led to it.  It holds of a child that has just been
started and is preserved by all that may happen (`Accounted.step`).
-/

namespace LintRelay

namespace Machine.Supervision

/-! ## Moments -/

/-- Whether this has happened at a moment when the state had the property. -/
def Met (hs : List Happening) (h : Happening) (P : Supervision → Prop) : Prop :=
  ∃ before after, hs = before ++ h :: after ∧ P (run {} before)

/-- Whether a watch still listens. -/
def Listens (s : Supervision) : Prop :=
  s.watch = .listening

/-- Whether there is something left to listen for: the input has not been taken, the ends of the
output have not been reached, or the child has not been reaped. -/
def Lacks (s : Supervision) : Prop :=
  s.fed = false ∨ s.silent = false ∨ s.child ≠ .reaped

/-- Whether the time has expired while the watch still listened, after something was left to listen
for whenever the watch was woken. -/
def ExpiredEarly (hs : List Happening) : Prop :=
  ∃ before after, hs = before ++ .expiry :: after ∧ Listens (run {} before) ∧
    ∀ front back, before = front ++ .waking :: back → Lacks (run {} front)

/-- Whether a watch waits for a killed child that has not been reaped. -/
def Awaits (s : Supervision) : Prop :=
  (∃ e, s.watch = .reaping e) ∧ s.child ≠ .reaped

/-- Whether a watch has been interrupted so that it will end like this. -/
def Interrupted (hs : List Happening) (e : WatchEnd) : Prop :=
  e = .cancelled ∨ e = .timedOut ∧ Met hs .expiry Listens

/-- Whether a child has been stopped, and been reaped unless the watch has not waited for it. -/
def Forsaken (hs : List Happening) (c : ChildState) : Prop :=
  c ≠ .running ∧ (c = .reaped ∨ Met hs .cancellation Awaits)

/-- What has led to a state of the child and of its watch. -/
inductive Accounted (hs : List Happening) : ChildState → Watch → Prop
  | listening {c} : Accounted hs c .listening
  | leaving {c e} (he : Interrupted hs e) : Accounted hs c (.leaving e)
  | reaping {c e} (he : Interrupted hs e) (hc : c ≠ .running) : Accounted hs c (.reaping e)
  | breakingOff {c} (hc : Forsaken hs c) : Accounted hs c .breakingOff
  | finished : Accounted hs .reaped (.over .finished)
  | awaited {e} (he : Interrupted hs e) : Accounted hs .reaped (.over e)
  | brokenOff {c} (hc : Forsaken hs c) : Accounted hs c (.over .cancelled)

variable {s : Supervision} {c c' : ChildState} {w : Watch} {e : WatchEnd} {h h' : Happening}
  {hs : List Happening}

/-- One happening more. -/
lemma run_concat (s : Supervision) (hs : List Happening) (h : Happening) :
    s.run (hs ++ [h]) = (s.run hs).step h := by
  simp [run]

/-- What has happened at some moment has happened for good. -/
lemma Met.concat {P : Supervision → Prop} (hmet : Met hs h P) : Met (hs ++ [h']) h P := by
  obtain ⟨before, after, rfl, hbefore⟩ := hmet
  exact ⟨before, after ++ [h'], by simp, hbefore⟩

/-- What happens now has happened from now on. -/
lemma met_concat {P : Supervision → Prop} (hrun : run {} hs = s) (hnow : P s) :
    Met (hs ++ [h]) h P :=
  ⟨hs, [], rfl, hrun ▸ hnow⟩

/-- A watch that has been interrupted stays so. -/
lemma Interrupted.concat (he : Interrupted hs e) : Interrupted (hs ++ [h]) e :=
  he.imp_right fun ⟨htimed, hmet⟩ => ⟨htimed, hmet.concat⟩

/-! ## A watch that listens -/

/-- There is nothing left to listen for if and only if nothing is lacking. -/
lemma not_isHeardOut_iff : s.isHeardOut = false ↔ Lacks s := by
  unfold isHeardOut Lacks
  cases s.fed <;> cases s.silent <;> simp

/-- A watch that listens has listened before. -/
lemma listens_of_step (hs : Listens (s.step h)) : Listens s := by
  obtain ⟨c, fed, silent, w⟩ := s
  cases w with
  | listening => rfl
  | leaving e =>
    cases h with
    | waking =>
      unfold Listens Supervision.step wake at hs
      dsimp only at hs
      split at hs <;> cases hs
    | _ => cases hs
  | reaping e =>
    cases h with
    | waking =>
      unfold Listens Supervision.step wake at hs
      dsimp only at hs
      split at hs <;> cases hs
    | _ => cases hs
  | _ => cases h <;> cases hs

/-- It has listened from the start. -/
lemma listens_of_append {front back : List Happening}
    (hlistens : Listens (run {} (front ++ back))) : Listens (run {} front) := by
  induction back using List.reverseRecOn with
  | nil => rwa [List.append_nil] at hlistens
  | append_singleton back h ih =>
    rw [← List.append_assoc, run_concat] at hlistens
    exact ih (listens_of_step hlistens)

/-- Whenever it has been woken, something was lacking. -/
lemma lacks_of_listens {front back : List Happening}
    (hlistens : Listens (run {} (front ++ .waking :: back))) : Lacks (run {} front) := by
  have hfront : Listens (run {} front) := listens_of_append hlistens
  rw [← not_isHeardOut_iff, Bool.eq_false_iff]
  intro hheard
  rw [← List.singleton_append, ← List.append_assoc] at hlistens
  have hwoken : Listens ((run {} front).step .waking) :=
    run_concat {} front .waking ▸ listens_of_append hlistens
  unfold Listens Supervision.step wake at hwoken
  rw [hfront] at hwoken
  dsimp only at hwoken
  rw [if_pos hheard] at hwoken
  cases hwoken

/-- A time that expires while the watch listens expires early. -/
lemma expiredEarly_of_met (hmet : Met hs .expiry Listens) : ExpiredEarly hs := by
  obtain ⟨before, after, rfl, hlistens⟩ := hmet
  refine ⟨before, after, rfl, hlistens, fun front back heq => ?_⟩
  exact lacks_of_listens (heq ▸ hlistens)

/-! ## The child -/

/-- A child that has exited is not running. -/
lemma exit_ne_running (c : ChildState) : c.exit ≠ .running := by
  cases c <;> decide

/-- Nor is one that has been killed. -/
lemma kill_ne_running (c : ChildState) : c.kill ≠ .running := by
  cases c <;> decide

/-- Its status can only be taken once it has exited. -/
lemma reap_eq_running_iff : c.reap = .running ↔ c = .running := by
  cases c <;> decide

/-! ## One step -/

/-- A child that is forsaken stays so, unless it is started again or its status is given back. -/
lemma Forsaken.concat (hc : Forsaken hs c) (hrunning : c' ≠ .running)
    (hreaped : c = .reaped → c' = .reaped) : Forsaken (hs ++ [h]) c' :=
  ⟨hrunning, hc.2.imp hreaped Met.concat⟩

/-- Something happens that has no influence on the watch. -/
lemma Accounted.concat (ha : Accounted hs c w) (hrunning : c ≠ .running → c' ≠ .running)
    (hreaped : c = .reaped → c' = .reaped) : Accounted (hs ++ [h]) c' w := by
  cases ha with
  | listening => exact .listening
  | leaving he => exact .leaving he.concat
  | reaping he hc => exact .reaping he.concat (hrunning hc)
  | breakingOff hc => exact .breakingOff (hc.concat (hrunning hc.1) hreaped)
  | finished =>
    rw [hreaped rfl]
    exact .finished
  | awaited he =>
    rw [hreaped rfl]
    exact .awaited he.concat
  | brokenOff hc => exact .brokenOff (hc.concat (hrunning hc.1) hreaped)

/-- The time expires, which interrupts a watch that listens. -/
lemma Accounted.expire (ha : Accounted hs s.child s.watch) (hrun : run {} hs = s) :
    Accounted (hs ++ [.expiry]) s.child s.watch.expire := by
  have hsame : Accounted (hs ++ [.expiry]) s.child s.watch := ha.concat id id
  obtain ⟨c, fed, silent, w⟩ := s
  cases w with
  | listening =>
    have hmet : Met (hs ++ [.expiry]) .expiry Listens := met_concat hrun rfl
    exact .leaving (.inr ⟨rfl, hmet⟩)
  | _ => exact hsame

/-- The watch is cancelled.  If it waits for a killed child, it breaks off. -/
lemma Accounted.cancel (ha : Accounted hs s.child s.watch) (hrun : run {} hs = s) :
    Accounted (hs ++ [.cancellation]) s.child s.watch.cancel := by
  have hsame : Accounted (hs ++ [.cancellation]) s.child s.watch := ha.concat id id
  obtain ⟨c, fed, silent, w⟩ := s
  cases w with
  | listening | leaving e => exact .leaving (.inl rfl)
  | reaping e =>
    change Accounted hs c (.reaping e) at ha
    cases ha with
    | reaping he hc =>
      refine .breakingOff ⟨hc, ?_⟩
      by_cases hreaped : c = .reaped
      · exact .inl hreaped
      · exact .inr (met_concat hrun ⟨⟨e, rfl⟩, hreaped⟩)
  | _ => exact hsame

/-- A watch that is woken ends if there is nothing left to wait for. -/
lemma Accounted.wake (ha : Accounted hs s.child s.watch) :
    Accounted hs s.wake.child s.wake.watch := by
  obtain ⟨c, fed, silent, w⟩ := s
  change Accounted hs c w at ha
  unfold Supervision.wake
  cases ha with
  | listening =>
    dsimp only
    split
    · next hheard =>
      obtain rfl : c = .reaped := by
        rw [isHeardOut, Bool.and_eq_true] at hheard
        exact beq_iff_eq.1 hheard.2
      exact .finished
    · exact .listening
  | leaving he =>
    dsimp only
    split
    · next hreaped =>
      obtain rfl : c = .reaped := beq_iff_eq.1 hreaped
      exact .awaited he
    · exact .reaping he (kill_ne_running c)
  | reaping he hc =>
    dsimp only
    split
    · next hreaped =>
      obtain rfl : c = .reaped := beq_iff_eq.1 hreaped
      exact .awaited he
    · exact .reaping he hc
  | breakingOff hc => exact .brokenOff hc
  | finished => exact .finished
  | awaited he => exact .awaited he
  | brokenOff hc => exact .brokenOff hc

/-- Whatever happens next, the state is accounted for. -/
theorem Accounted.step (ha : Accounted hs s.child s.watch) (hrun : run {} hs = s) (h : Happening) :
    Accounted (hs ++ [h]) (s.step h).child (s.step h).watch := by
  cases h with
  | exit =>
    refine ha.concat (fun _ => exit_ne_running s.child) fun hreaped => ?_
    change s.child.exit = .reaped
    rw [hreaped]
    rfl
  | reap =>
    refine ha.concat (mt reap_eq_running_iff.1) fun hreaped => ?_
    change s.child.reap = .reaped
    rw [hreaped]
    rfl
  | feeding | silence => exact ha.concat id id
  | expiry => exact ha.expire hrun
  | cancellation => exact ha.cancel hrun
  | waking => exact Accounted.wake (s := s) (ha.concat id id)

/-- Every state that a child and its watch can come to is accounted for. -/
theorem accounted_run (hs : List Happening) :
    Accounted hs (run {} hs).child (run {} hs).watch := by
  induction hs using List.reverseRecOn with
  | nil => exact .listening
  | append_singleton hs h ih =>
    rw [run_concat]
    exact ih.step rfl h

/-! ## Courses with one interruption -/

/-- A watch that is interrupted once at most, and then woken when its child has exited, is over with
its child reaped. -/
lemma reaped_of_single {early : List Happening} (h : early.length ≤ 1) : ∃ e,
    let s := run {} (early ++ [.waking, .exit, .reap, .feeding, .silence, .waking])
    s.watch = .over e ∧ s.child = .reaped := by
  match early, h with
  | [], _ => exact ⟨_, rfl, rfl⟩
  | [h], _ => cases h <;> exact ⟨_, rfl, rfl⟩

/-- So it is when a command is run, whatever its timeout and the time of its cancellation. -/
theorem reaped_of_course (life : Nat) (timeout cancellation : Option Nat) :
    let s := run {} (course life timeout cancellation)
    s.watch = .over (endOf life timeout cancellation) ∧ s.child = .reaped := by
  intro s
  obtain ⟨e, hover, hreaped⟩ := reaped_of_single (List.length_take_le 1 _)
  refine ⟨?_, hreaped⟩
  have hwatch : (run {} (course life timeout cancellation)).watch = .over e := hover
  have hend : endOf life timeout cancellation = e := by
    unfold endOf
    rw [hwatch]
  rw [hend]
  exact hwatch

end Machine.Supervision

namespace Execution

open Machine Machine.Supervision

/-- However the exit of a child, the expiry of its time and any number of cancellations follow on
one another: when the run of a command is over, the child has exited or been killed.  It has been
reaped, unless the run has been cancelled while it waited for the killed child.  A run that fails
has run out of time while it still listened, and its child has been reaped.  Whenever its watch was
woken before that, the input had not been taken, the ends of the output had not been reached, or
the child had not been reaped. -/
theorem child_at_end (p : Execution) (life : Life) {hs : List Happening} {e : WatchEnd}
    (hover : (Supervision.run {} hs).watch = .over e) :
    let s := Supervision.run {} hs
    s.child ≠ .running ∧
    (s.child = .reaped ∨
      (p.closing life e).2 = .error .cancelled ∧ Met hs .cancellation Awaits) ∧
    ∀ f, (p.closing life e).2 = .error (.failure f) →
      s.child = .reaped ∧ Met hs .expiry Listens ∧ ExpiredEarly hs := by
  intro s
  have haccounted : Accounted hs s.child (.over e) := hover ▸ accounted_run hs
  generalize s.child = c at haccounted ⊢
  cases haccounted with
  | finished => exact ⟨by decide, .inl rfl, nofun⟩
  | awaited he =>
    refine ⟨by decide, .inl rfl, fun f hfailed => ?_⟩
    rcases he with rfl | ⟨rfl, hmet⟩
    · cases hfailed
    · exact ⟨rfl, hmet, expiredEarly_of_met hmet⟩
  | brokenOff hc =>
    obtain ⟨hstopped, hreaped⟩ := hc
    exact ⟨hstopped, hreaped.imp_right fun hmet => ⟨rfl, hmet⟩, nofun⟩

/-- A command runs out of time, is killed, and is reaped before its run fails. -/
theorem child_at_end_timed_out :
    let p : Execution := {
      executable := "mix", arguments := [], directory := none, input := none
      timeout := some (.whole 60) }
    let life : Life := { output := [], errors := [], returnCode := 0, span := 90000000 }
    let hs : List Happening := [.feeding, .expiry, .waking, .exit, .reap, .waking]
    let s := Supervision.run {} hs
    s.watch = .over .timedOut ∧
      (p.closing life .timedOut).2 = .error (.failure (.timedOut ["mix"] (.whole 60))) ∧
      s.child = .reaped ∧ Met hs .expiry Listens ∧ ExpiredEarly hs := by
  intro p life hs s
  have hover : s.watch = .over .timedOut := by decide
  obtain ⟨-, -, hfails⟩ := child_at_end p life hover
  have hfailed : (p.closing life .timedOut).2 =
      .error (.failure (.timedOut ["mix"] (.whole 60))) := rfl
  exact ⟨hover, hfailed, hfails _ hfailed⟩

/-- A child is left behind, killed but neither exited nor reaped, if its run is cancelled after its
time has expired.  And a run can fail for want of time although its child has been reaped and the
ends of its output have been reached before: when something else keeps the input from being
taken. -/
theorem child_left_behind :
    let left := Supervision.run {} [.expiry, .waking, .cancellation, .waking]
    let heard := Supervision.run {} [.exit, .reap, .silence]
    (left.watch = .over .cancelled ∧ left.child = .killed) ∧
    heard.child = .reaped ∧ heard.silent = true ∧
      (heard.run [.expiry, .waking]).watch = .over .timedOut := by
  decide

end Execution

end LintRelay
