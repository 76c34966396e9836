import Miniduo.TimerTheorems

/-!
# One batch of timers

`handleRead` moves the due entries out of `timers_` before it calls any callback, and `reset` puts
the repeating ones back. The callbacks work on the entries in between: what they cancel is either
erased, or, when it has been moved out, does not repeat.
-/

namespace Miniduo
namespace TimerQueue

/-! ## What a batch is to do -/

/-- Each entry is keyed by the expiration of its timer, which has been made and added. -/
structure Keyed (q : TimerQueue) : Prop where
  key : ∀ e ∈ q.timers_, e.first = (q.heap e.second).expiration_
  made : ∀ e ∈ q.timers_, q.made e.second = true
  added : ∀ e ∈ q.timers_, q.added e.second = true

/-- The queue of every reachable state. -/
lemma TimerInv.keyed {q : TimerQueue} (h : q.TimerInv) : q.Keyed :=
  ⟨h.key, fun e he => h.made e.second (h.added e he), h.added⟩

/-- The entry whose callback an action calls. -/
def callback (q : TimerQueue) : Action → List TimerEntry
  | .run => q.stage.rest.head?.toList
  | _ => []

lemma callback_of_ne {q : TimerQueue} {a : Action} (h : a ≠ .run) : q.callback a = [] := by
  cases a with
  | run => exact absurd rfl h
  | _ => rfl

/-- The timers as they have been made. -/
def timersMade (heap : ℕ → Timer) : List Action → ℕ → Timer
  | [] => heap
  | .make timer value :: as => timersMade (Function.update heap timer value) as
  | _ :: as => timersMade heap as

/-- The timer is added, and not cancelled after that. -/
def Adds (as : List Action) (timer : ℕ) : Prop :=
  ∃ pre post, as = pre ++ .addTimer timer :: post ∧ .cancelTimer timer ∉ post

/-- The callbacks of the due timers are called, each once, in the order of the expirations. -/
structure CallsDue (q : TimerQueue) (calls : List TimerEntry) : Prop where
  due : ∀ e, e ∈ calls ↔ e ∈ q.timers_ ∧ e.first ≤ q.clock
  once : (calls.map TimerEntry.second).Nodup
  ordered : calls.Pairwise (·.first ≤ ·.first)

/-- The entries that a batch leaves in `timers_`, when its callbacks take the actions. -/
inductive Leaves (r : Rounding) (q : TimerQueue) (as : List Action) : TimerEntry → Prop
  | waiting {e : TimerEntry} (hentry : e ∈ q.timers_) (hlater : q.clock < e.first)
      (hkept : .cancelTimer e.second ∉ as) : Leaves r q as e
  | added {timer : ℕ} (hadds : Adds as timer) :
      Leaves r q as (.of (timersMade q.heap as timer).expiration_ timer)
  | restarted {e : TimerEntry} (hentry : e ∈ q.timers_) (hdue : e.first ≤ q.clock)
      (hrepeats : (q.heap e.second).repeats = true) (hkept : .cancelTimer e.second ∉ as) :
      Leaves r q as (q.restarted r q.clock e.second)

/-! ## One more action -/

lemma timersMade_snoc (as : List Action) (a : Action) : ∀ heap : ℕ → Timer,
    timersMade heap (as ++ [a]) = timersMade (timersMade heap as) [a] := by
  induction as with
  | nil => exact fun _ => rfl
  | cons a' as ih =>
    intro heap
    cases a' with
    | make timer value => exact ih _
    | _ => exact ih heap

lemma adds_snoc {as : List Action} {a : Action} {timer : ℕ} :
    Adds (as ++ [a]) timer ↔ a = .addTimer timer ∨ Adds as timer ∧ a ≠ .cancelTimer timer := by
  constructor
  · rintro ⟨pre, post, hsplit, hkept⟩
    rcases List.eq_nil_or_concat post with rfl | ⟨post, a', rfl⟩
    · exact Or.inl (List.cons.inj (List.append_inj' hsplit rfl).2).1
    · rw [List.concat_eq_append, ← List.cons_append, ← List.append_assoc] at hsplit
      obtain ⟨rfl, ha⟩ := List.append_inj' hsplit rfl
      obtain rfl := (List.cons.inj ha).1
      rw [List.concat_eq_append, List.mem_append, List.mem_singleton, not_or] at hkept
      exact Or.inr ⟨⟨pre, post, rfl, hkept.1⟩, Ne.symm hkept.2⟩
  · rintro (rfl | ⟨⟨pre, post, rfl, hkept⟩, hne⟩)
    · exact ⟨as, [], rfl, List.not_mem_nil⟩
    · refine ⟨pre, post ++ [a], by simp, ?_⟩
      rw [List.mem_append, List.mem_singleton, not_or]
      exact ⟨hkept, Ne.symm hne⟩

/-! ## Where a batch stands -/

variable {r : Rounding} {q₀ q q' : TimerQueue} {as : List Action} {calls : List TimerEntry}

/-- The state `q` of a batch of `q₀` whose callbacks have taken the actions. -/
structure Batch (q₀ : TimerQueue) (as : List Action) (calls : List TimerEntry) (q : TimerQueue) :
    Prop where
  stage : ∃ rest, q.stage = .firing q₀.clock q₀.dueEntries rest ∧ calls ++ rest = q₀.dueEntries
  restartable : q.Restartable q₀.dueEntries
  made : ∀ e, e ∈ q.timers_ ∨ e ∈ q₀.dueEntries → q.made e.second = true
  entries : ∀ e, e ∈ q.timers_ ↔
    e ∈ q₀.timers_ ∧ q₀.clock < e.first ∧ .cancelTimer e.second ∉ as ∨
      Adds as e.second ∧ e.first = (timersMade q₀.heap as e.second).expiration_
  expiration : ∀ timer,
    (q.heap timer).expiration_ = (timersMade q₀.heap as timer).expiration_
  cancelled : ∀ e ∈ q₀.dueEntries, .cancelTimer e.second ∈ as →
    (q.heap e.second).repeats = false
  kept : ∀ e ∈ q₀.dueEntries, .cancelTimer e.second ∉ as → q.heap e.second = q₀.heap e.second

/-- `handleRead` begins a batch. -/
lemma batch_handleRead (h : q₀.Keyed) (hread : q₀.handleRead = .ok q) : Batch q₀ [] [] q := by
  obtain rfl := handleRead_ok hread
  have hq := restartable_dueEntries h.key h.added
  constructor
  · exact ⟨q₀.dueEntries, rfl, rfl⟩
  · exact ⟨hq.key, hq.added, hq.expired_added, hq.expired_out, hq.expired_distinct⟩
  · rintro e (he | he)
    · exact h.made e (OrderedSet.mem_onwards.mp he).1
    · exact h.made e (mem_dueEntries.mp he).1
  · intro e
    have hnot : ¬Adds [] e.second := by
      rintro ⟨pre, post, hsplit, _⟩
      cases pre <;> cases hsplit
    show e ∈ q₀.timers_.onwards _ ↔ _
    rw [OrderedSet.mem_onwards, TimerEntry.sentry_le_iff, or_iff_left fun h => hnot h.1]
    simp
  · exact fun timer => rfl
  · exact fun e _ hcancelled => absurd hcancelled List.not_mem_nil
  · exact fun e _ _ => rfl

/-- The timer of an action that makes or adds one is not in the batch. -/
lemma Batch.make {timer : ℕ} {value : Timer} (h : Batch q₀ as calls q)
    (hnew : q.made timer = false) :
    Batch q₀ (as ++ [.make timer value]) calls
      { q.setTimer timer value with made := Function.update q.made timer true } := by
  have hne : ∀ e, e ∈ q.timers_ ∨ e ∈ q₀.dueEntries → e.second ≠ timer := by
    rintro e he rfl
    rw [h.made e he] at hnew
    cases hnew
  -- a timer that the callbacks have added is not new
  have hadds : ∀ e : TimerEntry, Adds as e.second → e.second ≠ timer := fun e hadds =>
    hne (.of (timersMade q₀.heap as e.second).expiration_ e.second)
      (Or.inl ((h.entries _).mpr (Or.inr ⟨hadds, rfl⟩)))
  constructor
  · exact h.stage
  · exact h.restartable.setTimer (fun e he => hne e (Or.inl he)) value _
  · intro e he
    simp only [Function.update_of_ne (hne e he)]
    exact h.made e he
  · intro e
    show e ∈ q.timers_ ↔ _
    rw [h.entries e, adds_snoc, timersMade_snoc]
    simp only [List.mem_append, List.mem_singleton, reduceCtorEq, or_false, false_or, ne_eq,
      not_false_iff, and_true, timersMade]
    refine or_congr Iff.rfl (and_congr_right fun hadd => ?_)
    rw [Function.update_of_ne (hadds e hadd)]
  · intro timer'
    rw [timersMade_snoc]
    by_cases heq : timer' = timer
    · simp [setTimer, timersMade, heq]
    · simp only [setTimer, timersMade, Function.update_of_ne heq]
      exact h.expiration timer'
  · intro e he hcancelled
    simp only [setTimer, Function.update_of_ne (hne e (Or.inr he))]
    exact h.cancelled e he (by simpa using hcancelled)
  · intro e he hkept
    simp only [setTimer, Function.update_of_ne (hne e (Or.inr he))]
    exact h.kept e he (by simpa using hkept)

lemma Batch.addTimer {timer : ℕ} (h : Batch q₀ as calls q) (hmade : q.made timer = true)
    (hnew : q.added timer = false) (hadd : q.addTimer timer = .ok q') :
    Batch q₀ (as ++ [.addTimer timer]) calls
      { q' with added := Function.update q'.added timer true } := by
  obtain ⟨_, timerfd, rfl, -, -⟩ := addTimer_ok hadd
  constructor
  · exact h.stage
  · exact h.restartable.addTimer hnew timerfd
  · rintro e (he | he)
    · rcases OrderedSet.mem_insert.mp he with rfl | he
      · exact hmade
      · exact h.made e (Or.inl he)
    · exact h.made e (Or.inr he)
  · intro e
    show e ∈ q.timers_.insert _ ↔ _
    rw [OrderedSet.mem_insert, h.entries e, adds_snoc, timersMade_snoc]
    simp only [List.mem_append, List.mem_singleton, reduceCtorEq, or_false, ne_eq, not_false_iff,
      and_true, timersMade, Action.addTimer.injEq, or_and_right]
    rw [or_left_comm]
    refine or_congr Iff.rfl (or_congr ?_ Iff.rfl)
    rw [h.expiration timer]
    constructor
    · rintro rfl
      exact ⟨rfl, rfl⟩
    · rintro ⟨rfl, hfirst⟩
      rw [← hfirst]
      exact (TimerEntry.of_first_second e).symm
  · intro timer'
    rw [timersMade_snoc]
    exact h.expiration timer'
  · exact fun e he hcancelled => h.cancelled e he (by simpa using hcancelled)
  · exact fun e he hkept => h.kept e he (by simpa using hkept)

/-- Behind `cancelTimer` no entry of the timer is left. -/
lemma mem_cancelTimer {timer : ℕ}
    (hkey : ∀ e ∈ q.timers_, e.first = (q.heap e.second).expiration_) {e : TimerEntry} :
    e ∈ (q.cancelTimer timer).timers_ ↔ e ∈ q.timers_ ∧ e.second ≠ timer := by
  rw [cancelTimer]
  split
  · rename_i hfound
    rw [OrderedSet.mem_erase, and_comm]
    refine and_congr_right fun he => not_congr ⟨?_, fun hsecond => ?_⟩
    · rintro rfl
      rfl
    · exact eq_of_second hkey he hfound hsecond
  · rename_i hnot
    -- an entry of the timer would have been found
    refine (and_iff_left_of_imp ?_).symm
    rintro he rfl
    rw [← hkey e he] at hnot
    exact hnot he

lemma cancelTimer_expiration (q : TimerQueue) (timer timer' : ℕ) :
    ((q.cancelTimer timer).heap timer').expiration_ = (q.heap timer').expiration_ := by
  rw [cancelTimer]
  split
  · rfl
  · by_cases hne : timer' = timer
    · simp [setTimer, hne, Timer.setUnrepeat]
    · simp only [setTimer, Function.update_of_ne hne]

lemma cancelTimer_heap_of_ne (q : TimerQueue) {timer timer' : ℕ} (hne : timer' ≠ timer) :
    (q.cancelTimer timer).heap timer' = q.heap timer' := by
  rw [cancelTimer]
  split
  · rfl
  · exact Function.update_of_ne hne _ _

/-- A timer without an entry does not repeat behind `cancelTimer`. -/
lemma cancelTimer_repeats {timer : ℕ} (hout : ∀ e ∈ q.timers_, e.second ≠ timer) :
    ((q.cancelTimer timer).heap timer).repeats = false := by
  rw [cancelTimer, if_neg fun hfound => hout _ hfound rfl]
  simp [setTimer, Timer.setUnrepeat, Timer.repeats]

lemma cancelTimer_frame (q : TimerQueue) (timer : ℕ) :
    (q.cancelTimer timer).stage = q.stage ∧ (q.cancelTimer timer).made = q.made := by
  rw [cancelTimer]
  split <;> exact ⟨rfl, rfl⟩

lemma Batch.cancelTimer {timer : ℕ} (h : Batch q₀ as calls q) :
    Batch q₀ (as ++ [.cancelTimer timer]) calls (q.cancelTimer timer) := by
  obtain ⟨hstage, hmade⟩ := cancelTimer_frame q timer
  have hkey := h.restartable.key
  have hmem : ∀ {timer' : ℕ}, .cancelTimer timer' ∈ as ++ [.cancelTimer timer] ↔
      .cancelTimer timer' ∈ as ∨ timer' = timer := by
    intro timer'
    rw [List.mem_append, List.mem_singleton, Action.cancelTimer.injEq]
  constructor
  · rw [hstage]
    exact h.stage
  · exact h.restartable.cancelTimer
  · intro e he
    rw [hmade]
    exact h.made e (he.imp_left fun he => ((mem_cancelTimer hkey).mp he).1)
  · intro e
    rw [mem_cancelTimer hkey, h.entries e, adds_snoc, timersMade_snoc, hmem]
    simp only [reduceCtorEq, false_or, ne_eq, Action.cancelTimer.injEq, eq_comm, timersMade]
    tauto
  · intro timer'
    rw [cancelTimer_expiration, timersMade_snoc]
    exact h.expiration timer'
  · intro e he hcancelled
    by_cases hsecond : e.second = timer
    · subst hsecond
      exact cancelTimer_repeats fun e' he' => h.restartable.expired_out e he e' he'
    · rw [cancelTimer_heap_of_ne q hsecond]
      exact h.cancelled e he ((hmem.mp hcancelled).resolve_right hsecond)
  · intro e he hkept
    rw [hmem, not_or] at hkept
    rw [cancelTimer_heap_of_ne q hkept.2]
    exact h.kept e he hkept.1

/-- An action that works on no timer. -/
lemma Batch.other {a : Action} {calls' : List TimerEntry} (h : Batch q₀ as calls q)
    (hmake : ∀ heap, timersMade heap [a] = heap) (hadd : ∀ timer, a ≠ .addTimer timer)
    (hcancel : ∀ timer, a ≠ .cancelTimer timer) {stage : TimerStage} {clock : ℤ}
    (hstage : ∃ rest, stage = .firing q₀.clock q₀.dueEntries rest ∧
      calls' ++ rest = q₀.dueEntries) :
    Batch q₀ (as ++ [a]) calls' { q with stage := stage, clock := clock } := by
  have hmem : ∀ timer, .cancelTimer timer ∈ as ++ [a] ↔ .cancelTimer timer ∈ as := by
    intro timer
    rw [List.mem_append, List.mem_singleton, or_iff_left (hcancel timer).symm]
  constructor
  · exact hstage
  · exact { h.restartable with }
  · exact h.made
  · intro e
    rw [hmem, timersMade_snoc, hmake, adds_snoc, or_iff_right (hadd _),
      and_iff_left (hcancel _)]
    exact h.entries e
  · intro timer
    rw [timersMade_snoc, hmake]
    exact h.expiration timer
  · intro e he hcancelled
    exact h.cancelled e he ((hmem _).mp hcancelled)
  · intro e he hkept
    exact h.kept e he fun hcancelled => hkept ((hmem _).mpr hcancelled)

lemma batch_step {a : Action} (h : Batch q₀ as calls q) (hreset : a ≠ .reset)
    (hallowed : allowed q a) (hexec : exec r q a = .ok q') :
    Batch q₀ (as ++ [a]) (calls ++ callback q a) q' := by
  obtain ⟨rest, hstage, hcalls⟩ := h.stage
  cases a with
  | make timer value =>
    obtain rfl := Except.ok.inj hexec
    rw [callback_of_ne (by simp), List.append_nil]
    exact h.make hallowed
  | addTimer timer =>
    obtain ⟨q₁, hadd, hexec⟩ := except_bind_eq_ok.mp hexec
    obtain rfl := Except.ok.inj hexec
    rw [callback_of_ne (by simp), List.append_nil]
    exact h.addTimer hallowed.1 hallowed.2 hadd
  | cancelTimer timer =>
    obtain rfl := Except.ok.inj hexec
    rw [callback_of_ne (by simp), List.append_nil]
    exact h.cancelTimer
  | handleRead =>
    -- the batch is in progress
    rw [show q.stage = .idle from hallowed] at hstage
    cases hstage
  | run =>
    cases rest with
    | nil =>
      refine absurd ?_ hallowed
      rw [hstage]
      rfl
    | cons e rest =>
      simp only [exec, hstage, Except.ok.injEq] at hexec
      subst hexec
      refine h.other (fun _ => rfl) (by simp) (by simp) ⟨rest, rfl, ?_⟩
      rw [← hcalls, callback, hstage, List.append_assoc]
      rfl
  | reset => exact absurd rfl hreset
  | tick microseconds =>
    obtain rfl := Except.ok.inj hexec
    rw [callback_of_ne (by simp), List.append_nil]
    exact h.other (fun _ => rfl) (by simp) (by simp) ⟨rest, hstage, hcalls⟩

/-- **A batch in progress.** -/
lemma batch_of_run (hkeyed : q₀.Keyed) (hbatch : .reset ∉ as)
    (hrun : (machine r).Run q₀ (.handleRead :: as) q) :
    Batch q₀ as ((machine r).outputs callback q₀ (.handleRead :: as)) q := by
  obtain _ | ⟨_, hread, hrest⟩ := hrun
  have hhistory := hrest.history
    (R := fun as calls q => .reset ∉ as → Batch q₀ as calls q) callback
    (fun _ => batch_handleRead hkeyed hread) ?_ hbatch
  · rwa [Machine.outputs_cons hread]
  · intro as calls q a q' h hallowed hexec hbatch
    rw [List.mem_append, List.mem_singleton, not_or] at hbatch
    exact batch_step (h hbatch.1) (Ne.symm hbatch.2) hallowed hexec

/-! ## No assert fails, and the batch ends -/

lemma Batch.addTimer_returns {timer : ℕ} (h : Batch q₀ as calls q)
    (hnew : q.added timer = false) : ∃ q', q.addTimer timer = .ok q' := by
  refine addTimer_of_notMem fun hmem => ?_
  have hadded : q.added timer = true := h.restartable.added _ hmem
  rw [hnew] at hadded
  cases hadded

lemma Batch.reset_returns (h : Batch q₀ as calls q) :
    ∃ q', q.reset r q₀.dueEntries q₀.clock = .ok q' := by
  obtain ⟨q₁, hloop, -, -⟩ := resetLoop_spec r q₀.clock h.restartable
  rw [TimerQueue.reset, hloop]
  exact ⟨_, rfl⟩

lemma Batch.returns {a : Action} (h : Batch q₀ as calls q) (hallowed : allowed q a) :
    ∃ q', exec r q a = .ok q' := by
  obtain ⟨rest, hstage, -⟩ := h.stage
  cases a with
  | addTimer timer =>
    obtain ⟨q', hadd⟩ := h.addTimer_returns hallowed.2
    rw [exec, hadd]
    exact ⟨_, rfl⟩
  | reset =>
    obtain ⟨q', hreset⟩ := h.reset_returns (r := r)
    simp only [exec, hstage, hreset]
    exact ⟨_, rfl⟩
  | handleRead => exact ⟨_, handleRead_eq q⟩
  | run =>
    simp only [exec]
    split <;> exact ⟨_, rfl⟩
  | _ => exact ⟨_, rfl⟩

/-- The callbacks that are left can be called one after the other. -/
lemma runs_rest {now : ℤ} {expired rest : List TimerEntry} :
    ∀ {q : TimerQueue}, q.stage = .firing now expired rest →
      (machine r).Run q (List.replicate rest.length .run)
        { q with stage := .firing now expired [] } := by
  induction rest with
  | nil =>
    intro q hstage
    rw [← hstage]
    exact .nil q
  | cons e rest ih =>
    intro q hstage
    have hallowed : allowed q .run := by
      show q.stage.rest ≠ []
      rw [hstage]
      exact List.cons_ne_nil e rest
    have hexec : exec r q .run = .ok { q with stage := .firing now expired rest } := by
      simp only [exec, hstage]
    exact .cons hallowed hexec (ih rfl)

lemma Batch.ends (h : Batch q₀ as calls q) :
    ∃ q', (machine r).Run q (List.replicate q.stage.rest.length .run ++ [.reset]) q' := by
  obtain ⟨rest, hstage, -⟩ := h.stage
  have hlast : Batch q₀ as q₀.dueEntries
      { q with stage := .firing q₀.clock q₀.dueEntries [] } :=
    { h with
      stage := ⟨[], rfl, List.append_nil _⟩
      restartable := { h.restartable with } }
  obtain ⟨q', hreset⟩ := hlast.reset_returns (r := r)
  have hruns : (machine r).Run q (List.replicate q.stage.rest.length .run)
      { q with stage := .firing q₀.clock q₀.dueEntries [] } := by
    rw [hstage]
    exact runs_rest hstage
  refine ⟨{ q' with stage := .idle }, hruns.append ?_⟩
  refine Machine.run_singleton_iff.mpr ⟨⟨by simp, rfl⟩, ?_⟩
  simp only [machine, exec, hreset]
  rfl

/-! ## What a batch has done -/

lemma Batch.leaves_iff (h : Batch q₀ as calls q) (e : TimerEntry) :
    Leaves r q₀ as e ↔ e ∈ q.timers_ ∨ ∃ e' ∈ q₀.dueEntries,
      (q.heap e'.second).repeats = true ∧ e = q.restarted r q₀.clock e'.second := by
  rw [h.entries e]
  constructor
  · rintro (⟨hentry, hlater, hkept⟩ | hadds | ⟨hentry, hdue, hrepeats, hkept⟩)
    · exact Or.inl (Or.inl ⟨hentry, hlater, hkept⟩)
    · exact Or.inl (Or.inr ⟨hadds, rfl⟩)
    · have hmem := mem_dueEntries.mpr ⟨hentry, hdue⟩
      refine Or.inr ⟨_, hmem, ?_, ?_⟩
      · rwa [h.kept _ hmem hkept]
      · rw [restarted, restarted, h.kept _ hmem hkept]
  · rintro ((⟨hentry, hlater, hkept⟩ | ⟨hadds, hfirst⟩) | ⟨e', hmem, hrepeats, rfl⟩)
    · exact .waiting hentry hlater hkept
    · rw [← TimerEntry.of_first_second e, hfirst]
      exact .added hadds
    · have hkept : .cancelTimer e'.second ∉ as := by
        intro hcancelled
        rw [h.cancelled e' hmem hcancelled] at hrepeats
        cases hrepeats
      obtain ⟨hentry, hdue⟩ := mem_dueEntries.mp hmem
      rw [h.kept e' hmem hkept] at hrepeats
      rw [restarted, h.kept e' hmem hkept]
      exact .restarted hentry hdue hrepeats hkept

lemma Batch.reset_leaves (h : Batch q₀ as calls q) (hexec : exec r q .reset = .ok q') :
    (∀ e, e ∈ q'.timers_ ↔ Leaves r q₀ as e) ∧ q'.Keyed := by
  obtain ⟨rest, hstage, -⟩ := h.stage
  simp only [exec, hstage] at hexec
  obtain ⟨q₁, hreset, hexec⟩ := except_bind_eq_ok.mp hexec
  obtain rfl := Except.ok.inj hexec
  obtain ⟨q₂, hloop, timerfd, rfl, -⟩ := reset_ok hreset
  obtain ⟨q₃, hloop', hq₃, hmem⟩ := resetLoop_spec r q₀.clock h.restartable
  obtain rfl := Except.ok.inj (hloop.symm.trans hloop')
  obtain ⟨timers_, heap, rfl⟩ := resetLoop_frame hloop
  refine ⟨fun e => (hmem e).trans (h.leaves_iff e).symm, hq₃.key, fun e he => ?_, hq₃.added⟩
  rcases (hmem e).mp he with he | ⟨e', he', -, rfl⟩
  · exact h.made e (Or.inl he)
  · exact h.made e' (Or.inr he')

lemma Batch.callsDue (h : Batch q₀ as calls q) (hrest : q.stage.rest = []) : CallsDue q₀ calls := by
  obtain ⟨rest, hstage, hcalls⟩ := h.stage
  rw [hstage] at hrest
  obtain rfl : rest = [] := hrest
  rw [List.append_nil] at hcalls
  subst hcalls
  constructor
  · exact fun e => mem_dueEntries
  · exact List.pairwise_map.mpr h.restartable.expired_distinct
  · exact (OrderedSet.below_sorted _ _).imp fun hlt => TimerEntry.first_le_of_le (le_of_lt hlt)

/-- A one-shot timer that was due is not left. -/
lemma Batch.oneShot_gone (h : Batch q₀ as calls q) {e e' : TimerEntry} (he : e ∈ q₀.dueEntries)
    (honce : (q₀.heap e.second).repeats = false) (he' : Leaves r q₀ as e') :
    e'.second ≠ e.second := by
  rcases (h.leaves_iff e').mp he' with he' | ⟨e₁, he₁, hrepeats, rfl⟩
  · exact h.restartable.expired_out e he e' he'
  · -- neither the batch nor a cancellation makes a timer repeat
    intro hsecond
    have hsecond : e₁.second = e.second := hsecond
    rw [hsecond] at hrepeats
    by_cases hkept : .cancelTimer e.second ∈ as
    · rw [h.cancelled e he hkept] at hrepeats
      cases hrepeats
    · rw [h.kept e he hkept, honce] at hrepeats
      cases hrepeats

/-- **One batch.** Whatever the callbacks do, no assert fails and the batch can be brought to its
end; the callbacks called are those of the due timers, each once, in order; what is left is what
was not due and has not been cancelled, what has been added and not cancelled, and what was due,
repeats and has not been cancelled, restarted; a one-shot timer that was due is gone. -/
theorem batch_exact (hkeyed : q₀.Keyed) (hbatch : .reset ∉ as) :
    (∃ q, exec r q₀ .handleRead = .ok q) ∧
    (∀ q, (machine r).Run q₀ (.handleRead :: as) q →
      (∀ a, allowed q a → ∃ q', exec r q a = .ok q') ∧
      ∃ q', (machine r).Run q (List.replicate q.stage.rest.length .run ++ [.reset]) q') ∧
    ∀ q', (machine r).Run q₀ (.handleRead :: as ++ [.reset]) q' →
      CallsDue q₀ ((machine r).outputs callback q₀ (.handleRead :: as ++ [.reset])) ∧
      (∀ e, e ∈ q'.timers_ ↔ Leaves r q₀ as e) ∧
      (∀ e ∈ q₀.timers_, e.first ≤ q₀.clock → (q₀.heap e.second).repeats = false →
        ∀ e' ∈ q'.timers_, e'.second ≠ e.second) ∧
      q'.Keyed := by
  refine ⟨⟨_, handleRead_eq q₀⟩, fun q hrun => ?_, fun q' hrun => ?_⟩
  · have h := batch_of_run hkeyed hbatch hrun
    exact ⟨fun a hallowed => h.returns hallowed, h.ends⟩
  · obtain ⟨q, hrun, hreset⟩ := Machine.run_append_iff.mp hrun
    have h := batch_of_run hkeyed hbatch hrun
    obtain ⟨⟨_, hrest⟩, hexec⟩ := Machine.run_singleton_iff.mp hreset
    obtain ⟨hleaves, hkeyed'⟩ := h.reset_leaves hexec
    have hcalls : (machine r).outputs callback q₀ (.handleRead :: as ++ [.reset])
        = (machine r).outputs callback q₀ (.handleRead :: as) := by
      rw [hrun.outputs_append, Machine.outputs_cons hexec]
      simp [Machine.outputs, callback]
    rw [hcalls]
    refine ⟨h.callsDue hrest, hleaves, fun e he hdue honce e' he' => ?_, hkeyed'⟩
    exact h.oneShot_gone (mem_dueEntries.mpr ⟨he, hdue⟩) honce ((hleaves e').mp he')

/-- Three timers that are due after a millisecond, two of them repeating, and one that is not. -/
def addFour : List Action :=
  [.make 1 ⟨500, 1⟩, .addTimer 1, .make 2 ⟨600, 0⟩, .addTimer 2, .make 3 ⟨700, 2⟩, .addTimer 3,
    .make 4 ⟨5000, 0⟩, .addTimer 4, .tick 1000]

/-- The first callback cancels a timer that is due and one that is not, and adds another. -/
def cancelAndAdd : List Action :=
  [.run, .cancelTimer 3, .cancelTimer 4, .make 5 ⟨1400, 0⟩, .addTimer 5, .run, .tick 3, .run]

theorem batch_exact_four :
    ∃ q q', (machine .exact).Run (start 0) addFour q ∧
      (machine .exact).Run q (.handleRead :: cancelAndAdd ++ [.reset]) q' ∧
      q'.timers_.toList = [.of 1400 5, .of 1001001 1] ∧
      CallsDue q ((machine .exact).outputs callback q (.handleRead :: cancelAndAdd ++ [.reset])) ∧
      ∀ e, e ∈ q'.timers_ ↔ Leaves .exact q cancelAndAdd e := by
  obtain ⟨q, hrun, hreplay⟩ := Machine.Run.of_replay_map (machine .exact) (start 0) addFour
    (fun q => ((machine .exact).replay q (.handleRead :: cancelAndAdd ++ [.reset])).map
      (fun q' => decide (q'.timers_.toList = [.of 1400 5, .of 1001001 1])) = some true)
    (by decide +kernel)
  obtain ⟨q', hbatch, htimers⟩ := Machine.Run.of_replay_map (machine .exact) q _ _
    (of_decide_eq_true hreplay)
  obtain ⟨hcalls, hleaves, -⟩ :=
    (batch_exact (r := .exact) (timerInv_of_run hrun).keyed
      (by simp [cancelAndAdd])).2.2 q' hbatch
  exact ⟨q, q', hrun, hbatch, of_decide_eq_true htimers, hcalls, hleaves⟩

end TimerQueue
end Miniduo
