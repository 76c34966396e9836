import Miniduo.Timer

/-!
# A pending timer has its timerfd

`addTimer` sets the timerfd when the new entry is the earliest, `handleRead` reads it and `reset`
sets it again, except when the earliest expiration is not positive: such an entry was added by a
callback, and `addTimer` has set the timerfd for it.
-/

namespace Miniduo

/-! ## Entries -/

namespace TimerEntry

/-- The key of an entry, and its timer. -/
@[simp] lemma first_of (when : ℤ) (timer : ℕ) : (of when timer).first = when := rfl

@[simp] lemma second_of (when : ℤ) (timer : ℕ) : (of when timer).second = timer := rfl

lemma of_first_second (e : TimerEntry) : of e.first e.second = e := rfl

/-- Entries are ordered by expiration first. -/
lemma first_le_of_le {e e' : TimerEntry} (h : e ≤ e') : e.first ≤ e'.first := by
  rcases Prod.Lex.le_iff.mp h with hlt | heq
  · exact le_of_lt hlt
  · exact le_of_eq heq.1

/-- The sentry stands behind the entries that are due. -/
lemma lt_sentry_iff {e : TimerEntry} {now : ℤ} : e < of (now + 1) 0 ↔ e.first ≤ now := by
  rw [Prod.Lex.lt_iff]
  show e.first < now + 1 ∨ e.first = now + 1 ∧ e.second < 0 ↔ _
  omega

/-- The entries behind the sentry are those that are later than `now`. -/
lemma sentry_le_iff {e : TimerEntry} {now : ℤ} : of (now + 1) 0 ≤ e ↔ now < e.first := by
  rw [← not_lt, lt_sentry_iff, not_le]

end TimerEntry

namespace Timer

/-- A repeating timer is restarted past the epoch. -/
lemma restart_pos (r : Rounding) {now : ℤ} {timer : Timer} (hnow : 0 < now)
    (hrepeats : timer.repeats = true) : 0 < (timer.restart r now).expiration_ := by
  have hinterval : 0 < timer.interval_ := of_decide_eq_true hrepeats
  have hround_now : 1 ≤ r.round now := by
    rw [← r.one]
    exact r.mono (by exact_mod_cast hnow)
  have hround_delay : 0 ≤ r.round (timer.interval_ * 1000000) := by
    rw [← r.zero]
    exact r.mono (by positivity)
  have hsum : 1 ≤ r.round (r.round now + r.round (timer.interval_ * 1000000)) := by
    conv_lhs => rw [← r.one]
    exact r.mono (by linarith)
  have hfloor : 1 ≤ ⌊r.round (r.round now + r.round (timer.interval_ * 1000000))⌋ := by
    rw [Int.le_floor]
    exact_mod_cast hsum
  rw [restart, if_pos hrepeats, truncate, if_pos (by linarith)]
  exact lt_of_lt_of_le one_pos hfloor

end Timer

def TimerStage.expired : TimerStage → List TimerEntry
  | .idle => []
  | .firing _ expired _ => expired

namespace TimerQueue

/-! ## What the operations compute -/

/-- The timerfd is never disarmed: the deadline is the expiration, or 100 microseconds away. -/
lemma resetTimerfd_eq (q : TimerQueue) (expiration : ℤ) :
    q.resetTimerfd expiration
      = { q with timerfd := some ⟨q.clock, max expiration (q.clock + 100)⟩ } := by
  have hmicroseconds : (if expiration - q.clock < 100 then 100 else expiration - q.clock)
      = max expiration (q.clock + 100) - q.clock := by
    split <;> omega
  rw [resetTimerfd]
  simp only [hmicroseconds, settime]
  generalize hm : max expiration (q.clock + 100) - q.clock = m
  have hnonzero : (⟨m / 1000000, m % 1000000 * 1000⟩ : ItimerSpec) ≠ ⟨0, 0⟩ := by
    intro h
    rw [ItimerSpec.mk.injEq] at h
    omega
  have hdeadline : q.clock + m / 1000000 * 1000000 + m % 1000000 * 1000 / 1000
      = max expiration (q.clock + 100) := by
    omega
  rw [if_neg hnonzero, hdeadline]

/-- The new entry is earlier than all others. -/
def Earliest (q : TimerQueue) (when : ℤ) : Prop := ∀ e ∈ q.timers_, when < e.first

/-- What an `insert` that returns has done, and what it says of the earliest entry. -/
lemma insert_ok {q q' : TimerQueue} {timer : ℕ} {earliestChanged : Bool}
    (h : q.insert timer = .ok (earliestChanged, q')) :
    .of (q.heap timer).expiration_ timer ∉ q.timers_ ∧
      q' = { q with timers_ := q.timers_.insert (.of (q.heap timer).expiration_ timer) } ∧
      (earliestChanged = true ↔ q.Earliest (q.heap timer).expiration_) := by
  obtain ⟨_, hassert, h⟩ := except_bind_eq_ok.mp h
  obtain ⟨hearliest, rfl⟩ := Prod.mk.inj (Except.ok.inj h)
  refine ⟨assertThat_eq_ok.mp hassert, rfl, ?_⟩
  rw [← hearliest]
  cases hfirst : q.timers_.first? with
  | none =>
    have hnone := OrderedSet.first?_eq_none.mp hfirst
    exact iff_of_true rfl fun e he => absurd he (hnone e)
  | some e =>
    -- the entries are sorted, so the comparison with the first one decides
    obtain ⟨he, hle⟩ := OrderedSet.first?_eq_some hfirst
    simp only [decide_eq_true_eq]
    constructor
    · exact fun hlt e' he' => lt_of_lt_of_le hlt (TimerEntry.first_le_of_le (hle e' he'))
    · exact fun hall => hall e he

/-- The assert of `insert` holds for a timer that has no entry at its expiration. -/
lemma insert_of_notMem {q : TimerQueue} {timer : ℕ}
    (h : .of (q.heap timer).expiration_ timer ∉ q.timers_) :
    ∃ earliestChanged, q.insert timer = .ok (earliestChanged,
      { q with timers_ := q.timers_.insert (.of (q.heap timer).expiration_ timer) }) := by
  rw [insert, assertThat_pos h]
  exact ⟨_, rfl⟩

/-- `addTimer` returns when the entry is new. -/
lemma addTimer_of_notMem {q : TimerQueue} {timer : ℕ}
    (h : .of (q.heap timer).expiration_ timer ∉ q.timers_) : ∃ q', q.addTimer timer = .ok q' := by
  obtain ⟨earliestChanged, hinsert⟩ := insert_of_notMem h
  rw [addTimer, hinsert]
  exact ⟨_, rfl⟩

/-- What an `addTimer` that returns has done: the entry is in the queue, and the timerfd is set for
it if it is the earliest. -/
lemma addTimer_ok {q q' : TimerQueue} {timer : ℕ} (h : q.addTimer timer = .ok q') :
    .of (q.heap timer).expiration_ timer ∉ q.timers_ ∧
      ∃ timerfd, q' = { q with
          timers_ := q.timers_.insert (.of (q.heap timer).expiration_ timer)
          timerfd := timerfd } ∧
        (q.Earliest (q.heap timer).expiration_ →
          timerfd = some ⟨q.clock, max (q.heap timer).expiration_ (q.clock + 100)⟩) ∧
        (¬q.Earliest (q.heap timer).expiration_ → timerfd = q.timerfd) := by
  obtain ⟨⟨earliestChanged, q₁⟩, hinsert, h⟩ := except_bind_eq_ok.mp h
  obtain ⟨hnew, rfl, hearliest⟩ := insert_ok hinsert
  obtain rfl := Except.ok.inj h
  refine ⟨hnew, ?_⟩
  cases earliestChanged with
  | true =>
    simp only [if_true, resetTimerfd_eq]
    exact ⟨_, rfl, fun _ => rfl, fun hnot => absurd (hearliest.mp rfl) hnot⟩
  | false =>
    simp only [Bool.false_eq_true, if_false]
    exact ⟨_, rfl, fun hall => absurd (hearliest.mpr hall) (by simp), fun _ => rfl⟩

/-- The entries that are due. -/
def dueEntries (q : TimerQueue) : List TimerEntry := q.timers_.below (.of (q.clock + 1) 0)

/-- The entries that are due are those with `expiration <= now`. -/
lemma mem_dueEntries {q : TimerQueue} {e : TimerEntry} :
    e ∈ q.dueEntries ↔ e ∈ q.timers_ ∧ e.first ≤ q.clock := by
  rw [dueEntries, OrderedSet.mem_below, TimerEntry.lt_sentry_iff]

/-- The assert of `getExpired` holds: what is not in front of the sentry is later than `now`. -/
lemma getExpired_eq (q : TimerQueue) (now : ℤ) :
    q.getExpired now = .ok (q.timers_.below (.of (now + 1) 0),
      { q with timers_ := q.timers_.onwards (.of (now + 1) 0) }) := by
  have hassert : (q.timers_.onwards (.of (now + 1) 0)).first?.all (now < ·.first) = true := by
    rw [Option.all_eq_true]
    intro e hfirst
    obtain ⟨_, hle⟩ := OrderedSet.mem_onwards.mp (OrderedSet.first?_eq_some hfirst).1
    exact decide_eq_true (TimerEntry.sentry_le_iff.mp hle)
  rw [getExpired, assertThat_pos hassert]
  rfl

/-- What `handleRead` does before the callbacks run. -/
lemma handleRead_eq (q : TimerQueue) :
    q.handleRead = .ok { q.readTimerfd with
      timers_ := q.timers_.onwards (.of (q.clock + 1) 0)
      stage := .firing q.clock q.dueEntries q.dueEntries } := by
  rw [handleRead, getExpired_eq]
  rfl

/-- What a `handleRead` that returns has done. -/
lemma handleRead_ok {q q' : TimerQueue} (h : q.handleRead = .ok q') :
    q' = { q.readTimerfd with
      timers_ := q.timers_.onwards (.of (q.clock + 1) 0)
      stage := .firing q.clock q.dueEntries q.dueEntries } := by
  rw [handleRead_eq] at h
  exact (Except.ok.inj h).symm

/-! ## The invariant -/

/-- The timerfd goes off in time for the entry. -/
def Covered (q : TimerQueue) (e : TimerEntry) : Prop :=
  ∃ arming, q.timerfd = some arming ∧ arming.deadline ≤ max e.first (arming.armedAt + 100)

/-- A new entry is covered when `addTimer` finds it the earliest, and else like the earliest. -/
lemma covered_addTimer {q q' : TimerQueue} {timer : ℕ} (h : q.addTimer timer = .ok q')
    {P : TimerEntry → Prop} (hdown : ∀ e e', e.first ≤ e'.first → P e' → P e)
    (hcovered : ∀ e ∈ q.timers_, P e → q.Covered e) : ∀ e ∈ q'.timers_, P e → q'.Covered e := by
  obtain ⟨_, timerfd, rfl, hset, hkept⟩ := addTimer_ok h
  intro e he hP
  by_cases hearliest : q.Earliest (q.heap timer).expiration_
  · refine ⟨_, hset hearliest, ?_⟩
    have hle : (q.heap timer).expiration_ ≤ e.first := by
      rcases OrderedSet.mem_insert.mp he with rfl | he
      · exact le_rfl
      · exact le_of_lt (hearliest e he)
    show max (q.heap timer).expiration_ (q.clock + 100) ≤ max e.first (q.clock + 100)
    omega
  · -- some entry is as early as the new one, and the timerfd is set for it
    have hcovered' : ∀ e ∈ q.timers_, P e → ∃ arming, timerfd = some arming ∧
        arming.deadline ≤ max e.first (arming.armedAt + 100) := by
      rw [hkept hearliest]
      exact hcovered
    rcases OrderedSet.mem_insert.mp he with rfl | he
    · simp only [Earliest, not_forall, not_lt] at hearliest
      obtain ⟨e', he', hle⟩ := hearliest
      obtain ⟨arming, harming, hdeadline⟩ := hcovered' e' he' (hdown e' (.of _ timer) hle hP)
      refine ⟨arming, harming, ?_⟩
      rw [TimerEntry.first_of]
      omega
    · exact hcovered' e he hP

/-- What holds of a queue between two steps. -/
structure TimerInv (q : TimerQueue) : Prop where
  clock : 0 < q.clock
  key : ∀ e ∈ q.timers_, e.first = (q.heap e.second).expiration_
  added : ∀ e ∈ q.timers_, q.added e.second = true
  made : ∀ timer, q.added timer = true → q.made timer = true
  now_pos : ∀ now expired rest, q.stage = .firing now expired rest → 0 < now
  expired_added : ∀ e ∈ q.stage.expired, q.added e.second = true
  expired_out : ∀ e ∈ q.stage.expired, ∀ e' ∈ q.timers_, e'.second ≠ e.second
  expired_distinct : q.stage.expired.Pairwise (·.second ≠ ·.second)
  rest_suffix : q.stage.rest <:+ q.stage.expired
  covered : ∀ e ∈ q.timers_, (q.stage = .idle ∨ e.first ≤ 0) → q.Covered e

/-- Two entries of one timer are one. -/
lemma eq_of_second {q : TimerQueue} (hkey : ∀ e ∈ q.timers_, e.first = (q.heap e.second).expiration_)
    {e e' : TimerEntry} (he : e ∈ q.timers_) (he' : e' ∈ q.timers_)
    (hsecond : e.second = e'.second) : e = e' := by
  rw [← TimerEntry.of_first_second e, ← TimerEntry.of_first_second e', hkey e he, hkey e' he',
    hsecond]

/-! ## `reset` -/

/-- What the loop of `reset` needs of the entries before it. -/
structure Restartable (q : TimerQueue) (expired : List TimerEntry) : Prop where
  key : ∀ e ∈ q.timers_, e.first = (q.heap e.second).expiration_
  added : ∀ e ∈ q.timers_, q.added e.second = true
  expired_added : ∀ e ∈ expired, q.added e.second = true
  expired_out : ∀ e ∈ expired, ∀ e' ∈ q.timers_, e'.second ≠ e.second
  expired_distinct : expired.Pairwise (·.second ≠ ·.second)

/-- `getExpired` moves the due entries out of the queue. -/
lemma restartable_dueEntries {q : TimerQueue}
    (hkey : ∀ e ∈ q.timers_, e.first = (q.heap e.second).expiration_)
    (hadded : ∀ e ∈ q.timers_, q.added e.second = true) :
    Restartable { q with timers_ := q.timers_.onwards (.of (q.clock + 1) 0) } q.dueEntries := by
  constructor
  · exact fun e he => hkey e (OrderedSet.mem_onwards.mp he).1
  · exact fun e he => hadded e (OrderedSet.mem_onwards.mp he).1
  · exact fun e he => hadded e (mem_dueEntries.mp he).1
  · intro e he e' he' hsecond
    obtain ⟨he', hle⟩ := OrderedSet.mem_onwards.mp he'
    obtain ⟨he, hdue⟩ := mem_dueEntries.mp he
    obtain rfl := eq_of_second hkey he' he hsecond
    exact absurd hdue (not_le.mpr (TimerEntry.sentry_le_iff.mp hle))
  · refine (OrderedSet.below_sorted _ _).imp_of_mem fun he he' hlt hsecond => ?_
    have heq := eq_of_second hkey (mem_dueEntries.mp he).1 (mem_dueEntries.mp he').1 hsecond
    exact absurd heq (ne_of_lt hlt)

/-- A timer that is restarted moves from the expired entries to the queue. -/
lemma Restartable.restart {q : TimerQueue} {e : TimerEntry} {expired : List TimerEntry}
    (h : q.Restartable (e :: expired)) (value : Timer) :
    Restartable { q.setTimer e.second value with
      timers_ := q.timers_.insert (.of value.expiration_ e.second) } expired := by
  have hdistinct := List.pairwise_cons.mp h.expired_distinct
  -- no entry of the queue is about the timer, so none loses its key
  have hout := h.expired_out e List.mem_cons_self
  constructor
  · intro e' he'
    rcases OrderedSet.mem_insert.mp he' with rfl | he'
    · simp [setTimer]
    · simp only [setTimer, Function.update_of_ne (hout e' he')]
      exact h.key e' he'
  · intro e' he'
    rcases OrderedSet.mem_insert.mp he' with rfl | he'
    · exact h.expired_added e List.mem_cons_self
    · exact h.added e' he'
  · exact fun e' he' => h.expired_added e' (List.mem_cons_of_mem _ he')
  · intro e' he' e'' he''
    rcases OrderedSet.mem_insert.mp he'' with rfl | he''
    · exact hdistinct.1 e' he'
    · exact h.expired_out e' (List.mem_cons_of_mem _ he') e'' he''
  · exact hdistinct.2

/-- The first of the expired entries can be left out. -/
lemma Restartable.skip {q : TimerQueue} {e : TimerEntry} {expired : List TimerEntry}
    (h : q.Restartable (e :: expired)) : q.Restartable expired where
  key := h.key
  added := h.added
  expired_added e' he' := h.expired_added e' (List.mem_cons_of_mem _ he')
  expired_out e' he' := h.expired_out e' (List.mem_cons_of_mem _ he')
  expired_distinct := (List.pairwise_cons.mp h.expired_distinct).2

/-- A timer without an entry may change. -/
lemma Restartable.setTimer {q : TimerQueue} {expired : List TimerEntry} {timer : ℕ}
    (h : q.Restartable expired) (hne : ∀ e ∈ q.timers_, e.second ≠ timer) (value : Timer)
    (made : ℕ → Bool) : Restartable { q.setTimer timer value with made := made } expired :=
  { h with
    key := fun e he => by
      simp only [TimerQueue.setTimer, Function.update_of_ne (hne e he)]
      exact h.key e he }

/-- A callback can add a timer that has not been added before. -/
lemma Restartable.addTimer {q : TimerQueue} {expired : List TimerEntry} {timer : ℕ}
    (h : q.Restartable expired) (hnew : q.added timer = false) (timerfd : Option Arming) :
    Restartable { q with
      timers_ := q.timers_.insert (.of (q.heap timer).expiration_ timer)
      timerfd := timerfd
      added := Function.update q.added timer true } expired := by
  have hadded : ∀ timer', q.added timer' = true → Function.update q.added timer true timer' := by
    intro timer' h'
    by_cases hne : timer' = timer
    · rw [hne, Function.update_self]
    · rw [Function.update_of_ne hne, h']
  constructor
  · intro e he
    rcases OrderedSet.mem_insert.mp he with rfl | he
    · rfl
    · exact h.key e he
  · intro e he
    rcases OrderedSet.mem_insert.mp he with rfl | he
    · exact Function.update_self ..
    · exact hadded _ (h.added e he)
  · exact fun e he => hadded _ (h.expired_added e he)
  · intro e he e' he'
    rcases OrderedSet.mem_insert.mp he' with rfl | he'
    · -- the expired timers have been added before
      rintro rfl
      have hexpired := h.expired_added e he
      rw [hnew] at hexpired
      cases hexpired
    · exact h.expired_out e he e' he'
  · exact h.expired_distinct

/-- A callback can cancel a timer. -/
lemma Restartable.cancelTimer {q : TimerQueue} {expired : List TimerEntry} {timer : ℕ}
    (h : q.Restartable expired) : (q.cancelTimer timer).Restartable expired := by
  rw [TimerQueue.cancelTimer]
  split
  · exact { h with
      key := fun e he => h.key e (OrderedSet.mem_erase.mp he).2
      added := fun e he => h.added e (OrderedSet.mem_erase.mp he).2
      expired_out := fun e he e' he' => h.expired_out e he e' (OrderedSet.mem_erase.mp he').2 }
  · exact { h with
      key := fun e he => by
        rw [h.key e he]
        -- the interval changes, the expiration does not
        by_cases hne : e.second = timer
        · simp only [TimerQueue.setTimer, hne, Function.update_self]
          rfl
        · simp only [TimerQueue.setTimer, Function.update_of_ne hne] }

/-- The loop of `reset` changes nothing but entries and timers. -/
lemma resetLoop_frame {r : Rounding} {now : ℤ} {expired : List TimerEntry} :
    ∀ {q q' : TimerQueue}, resetLoop r now expired q = .ok q' →
      ∃ timers_ heap, q' = { q with timers_ := timers_, heap := heap } := by
  induction expired with
  | nil =>
    intro q q' h
    obtain rfl := Except.ok.inj h
    exact ⟨_, _, rfl⟩
  | cons e expired ih =>
    intro q q' h
    rw [resetLoop] at h
    split at h
    · obtain ⟨⟨earliestChanged, q₁⟩, hinsert, h⟩ := except_bind_eq_ok.mp h
      obtain ⟨_, rfl, _⟩ := insert_ok hinsert
      obtain ⟨timers_, heap, rfl⟩ := ih h
      exact ⟨timers_, heap, rfl⟩
    · exact ih h

/-- The entry that a timer gets when it is restarted. -/
def restarted (r : Rounding) (now : ℤ) (q : TimerQueue) (timer : ℕ) : TimerEntry :=
  .of ((q.heap timer).restart r now).expiration_ timer

/-- The loop of `reset` inserts the entries of the repeating timers, restarted, and the assert of
`insert` holds each time. -/
lemma resetLoop_spec (r : Rounding) (now : ℤ) {expired : List TimerEntry} :
    ∀ {q : TimerQueue}, q.Restartable expired →
      ∃ q', resetLoop r now expired q = .ok q' ∧ q'.Restartable [] ∧
        ∀ e, e ∈ q'.timers_ ↔ e ∈ q.timers_ ∨ ∃ e' ∈ expired,
          (q.heap e'.second).repeats = true ∧ e = q.restarted r now e'.second := by
  induction expired with
  | nil =>
    intro q hq
    refine ⟨q, rfl, hq, fun e => ?_⟩
    simp
  | cons e₀ expired ih =>
    intro q hq
    by_cases hrepeats : (q.heap e₀.second).repeats = true
    · -- no entry of the queue is about the timer
      have hnew : .of ((q.heap e₀.second).restart r now).expiration_ e₀.second ∉ q.timers_ :=
        fun hmem => hq.expired_out e₀ List.mem_cons_self _ hmem rfl
      obtain ⟨q', hloop, hq', hmem⟩ := ih (hq.restart ((q.heap e₀.second).restart r now))
      refine ⟨q', ?_, hq', fun e => ?_⟩
      · have hnew' : .of ((q.setTimer e₀.second ((q.heap e₀.second).restart r now)).heap
            e₀.second).expiration_ e₀.second ∉ q.timers_ := by
          simpa [setTimer] using hnew
        obtain ⟨earliestChanged, hinsert⟩ := insert_of_notMem
          (q := q.setTimer e₀.second ((q.heap e₀.second).restart r now)) hnew'
        simp only [setTimer, Function.update_self] at hinsert
        rw [resetLoop, if_pos hrepeats]
        simp only [setTimer, hinsert]
        exact hloop
      · -- the loop has not come to the other timers
        have hlater : ∀ e' ∈ expired,
            (q.setTimer e₀.second ((q.heap e₀.second).restart r now)).heap e'.second
              = q.heap e'.second := fun e' he' =>
          Function.update_of_ne ((List.pairwise_cons.mp hq.expired_distinct).1 e' he').symm _ _
        rw [hmem, OrderedSet.mem_insert, List.exists_mem_cons_iff, or_assoc, or_left_comm]
        refine or_congr Iff.rfl (or_congr ?_ (exists_congr fun e' => and_congr_right fun he' => ?_))
        · exact (and_iff_right hrepeats).symm
        · simp only [restarted, hlater e' he']
    · obtain ⟨q', hloop, hq', hmem⟩ := ih hq.skip
      refine ⟨q', ?_, hq', fun e => ?_⟩
      · rw [resetLoop, if_neg hrepeats]
        exact hloop
      · rw [hmem, List.exists_mem_cons_iff]
        exact or_congr Iff.rfl (or_iff_right fun h => hrepeats h.1).symm

/-- The loop of `reset` adds entries of repeating timers, past the epoch. -/
lemma resetLoop_ok {r : Rounding} {now : ℤ} (hnow : 0 < now) {expired : List TimerEntry}
    {q q' : TimerQueue} (hq : q.Restartable expired) (h : resetLoop r now expired q = .ok q') :
    q'.Restartable [] ∧ ∀ e ∈ q'.timers_, e ∈ q.timers_ ∨
      0 < e.first ∧ ∃ e' ∈ expired, e.second = e'.second ∧ (q.heap e'.second).repeats = true := by
  obtain ⟨q₁, hloop, hq₁, hmem⟩ := resetLoop_spec r now hq
  obtain rfl := Except.ok.inj (h.symm.trans hloop)
  refine ⟨hq₁, fun e he => ((hmem e).mp he).imp_right ?_⟩
  rintro ⟨e', he', hrepeats, rfl⟩
  exact ⟨Timer.restart_pos r hnow hrepeats, e', he', rfl, hrepeats⟩

/-- `reset` sets the timerfd for the earliest entry, unless that entry is not positive. -/
lemma reset_ok {r : Rounding} {now : ℤ} {expired : List TimerEntry} {q q' : TimerQueue}
    (h : q.reset r expired now = .ok q') :
    ∃ q₁, resetLoop r now expired q = .ok q₁ ∧
      ∃ timerfd, q' = { q₁ with timerfd := timerfd } ∧
        ∀ e, q₁.timers_.first? = some e →
          if 0 < (q₁.heap e.second).expiration_ then
            timerfd = some ⟨q₁.clock, max (q₁.heap e.second).expiration_ (q₁.clock + 100)⟩
          else timerfd = q₁.timerfd := by
  obtain ⟨q₁, hloop, h⟩ := except_bind_eq_ok.mp h
  refine ⟨q₁, hloop, ?_⟩
  obtain rfl := Except.ok.inj h
  cases hfirst : q₁.timers_.first? with
  | none => exact ⟨q₁.timerfd, by simp, fun e he => nomatch he⟩
  | some e =>
    -- the test `nextExpire > 0`
    by_cases hpos : 0 < (q₁.heap e.second).expiration_
    · refine ⟨some ⟨q₁.clock, max (q₁.heap e.second).expiration_ (q₁.clock + 100)⟩,
        by simp only [gt_iff_lt, hpos, if_true, resetTimerfd_eq], ?_⟩
      intro e' he'
      obtain rfl := Option.some.inj he'
      rw [if_pos hpos]
    · refine ⟨q₁.timerfd, by simp only [gt_iff_lt, hpos, if_false], ?_⟩
      intro e' he'
      obtain rfl := Option.some.inj he'
      rw [if_neg hpos]

/-- Behind `reset` every entry is covered: by the new setting, or because the earliest was covered
already. -/
lemma covered_reset {r : Rounding} {now : ℤ} {expired : List TimerEntry} {q q' : TimerQueue}
    (hnow : 0 < now) (hq : q.Restartable expired)
    (hcovered : ∀ e ∈ q.timers_, e.first ≤ 0 → q.Covered e) (h : q.reset r expired now = .ok q') :
    ∀ e ∈ q'.timers_, q'.Covered e := by
  obtain ⟨q₁, hloop, timerfd, rfl, htimerfd⟩ := reset_ok h
  obtain ⟨hq₁, hentries⟩ := resetLoop_ok hnow hq hloop
  obtain ⟨timers_, heap, rfl⟩ := resetLoop_frame hloop
  intro e he
  cases hfirst : timers_.first? with
  | none => exact absurd he (OrderedSet.first?_eq_none.mp hfirst e)
  | some e₀ =>
    obtain ⟨he₀, hle⟩ := OrderedSet.first?_eq_some hfirst
    have hmin := TimerEntry.first_le_of_le (hle e he)
    have hset := htimerfd e₀ hfirst
    have hkey : e₀.first = (heap e₀.second).expiration_ := hq₁.key e₀ he₀
    simp only [← hkey] at hset
    split at hset
    · refine ⟨_, hset, ?_⟩
      show max e₀.first (q.clock + 100) ≤ max e.first (q.clock + 100)
      omega
    · rename_i hpos
      -- a restarted entry is positive, so this one was there before
      rcases hentries e₀ he₀ with he₀ | ⟨hpos', _⟩
      · obtain ⟨arming, harming, hdeadline⟩ := hcovered e₀ he₀ (by omega)
        refine ⟨arming, hset.trans harming, ?_⟩
        omega
      · exact absurd hpos' hpos

/-! ## Steps -/

variable {r : Rounding} {q q' : TimerQueue}

lemma TimerInv.restartable (h : q.TimerInv) : q.Restartable q.stage.expired :=
  ⟨h.key, h.added, h.expired_added, h.expired_out, h.expired_distinct⟩

/-- The program can make a timer. -/
lemma timerInv_make {timer : ℕ} {value : Timer} (h : q.TimerInv) (hnew : q.made timer = false) :
    TimerInv { q.setTimer timer value with made := Function.update q.made timer true } := by
  have hne : ∀ timer', q.added timer' = true → timer' ≠ timer := by
    rintro timer' hadded rfl
    rw [h.made timer' hadded] at hnew
    cases hnew
  have hq := h.restartable.setTimer (fun e he => hne _ (h.added e he)) value
    (Function.update q.made timer true)
  exact { h with
    key := hq.key
    made := fun timer' hadded => by
      simp only [Function.update_of_ne (hne _ hadded)]
      exact h.made timer' hadded }

/-- A timer that has been made can be added once. -/
lemma timerInv_addTimer {timer : ℕ} (h : q.TimerInv) (hmade : q.made timer = true)
    (hnew : q.added timer = false) (hadd : q.addTimer timer = .ok q') :
    TimerInv { q' with added := Function.update q'.added timer true } := by
  have hcovered := covered_addTimer hadd (P := fun e => q.stage = .idle ∨ e.first ≤ 0)
    (fun e e' hle hP => hP.imp_right fun hpos => hle.trans hpos) h.covered
  obtain ⟨_, timerfd, rfl, -, -⟩ := addTimer_ok hadd
  have hq := h.restartable.addTimer hnew timerfd
  exact { hq with
    clock := h.clock
    made := fun timer' h' => by
      by_cases hne : timer' = timer
      · rw [hne]
        exact hmade
      · simp only [Function.update_of_ne hne] at h'
        exact h.made timer' h'
    now_pos := h.now_pos
    rest_suffix := h.rest_suffix
    covered := hcovered }

/-- A timer can be cancelled at any time. -/
lemma timerInv_cancelTimer {timer : ℕ} (h : q.TimerInv) : (q.cancelTimer timer).TimerInv := by
  have hq : (q.cancelTimer timer).Restartable q.stage.expired := h.restartable.cancelTimer
  rw [cancelTimer] at hq ⊢
  split
  · rw [if_pos ‹_›] at hq
    exact { h with
      key := hq.key
      added := hq.added
      expired_out := hq.expired_out
      covered := fun e he hstage => h.covered e (OrderedSet.mem_erase.mp he).2 hstage }
  · rw [if_neg ‹_›] at hq
    exact { h with key := hq.key }

/-- `handleRead` moves the due entries to the expired ones. -/
lemma timerInv_handleRead (h : q.TimerInv) (hread : q.handleRead = .ok q') : q'.TimerInv := by
  obtain rfl := handleRead_ok hread
  have hq := restartable_dueEntries h.key h.added
  constructor
  · exact h.clock
  · exact hq.key
  · exact hq.added
  · exact h.made
  · intro now expired rest hstage
    obtain ⟨rfl, -, -⟩ := TimerStage.firing.inj hstage
    exact h.clock
  · exact hq.expired_added
  · exact hq.expired_out
  · exact hq.expired_distinct
  · exact List.suffix_rfl
  · rintro e he (hstage | hpos)
    · cases hstage
    · -- what is left is later than the clock
      have hlater := TimerEntry.sentry_le_iff.mp (OrderedSet.mem_onwards.mp he).2
      have hclock := h.clock
      omega

/-- While callbacks run, the expired entries are those of `handleRead`. -/
lemma TimerInv.restartable_of_firing {now : ℤ} {expired rest : List TimerEntry} (h : q.TimerInv)
    (hstage : q.stage = .firing now expired rest) : q.Restartable expired := by
  have hq := h.restartable
  rw [hstage] at hq
  exact hq

/-- `reset` inserts the restarted entries again. -/
lemma timerInv_reset {now : ℤ} {expired rest : List TimerEntry} (h : q.TimerInv)
    (hstage : q.stage = .firing now expired rest) (hreset : q.reset r expired now = .ok q') :
    TimerInv { q' with stage := .idle } := by
  have hnow := h.now_pos now expired rest hstage
  have hcovered := covered_reset hnow (h.restartable_of_firing hstage)
    (fun e he hpos => h.covered e he (Or.inr hpos)) hreset
  obtain ⟨q₁, hloop, timerfd, rfl, -⟩ := reset_ok hreset
  obtain ⟨hq₁, -⟩ := resetLoop_ok hnow (h.restartable_of_firing hstage) hloop
  obtain ⟨timers_, heap, rfl⟩ := resetLoop_frame hloop
  constructor
  · exact h.clock
  · exact hq₁.key
  · exact hq₁.added
  · exact h.made
  · exact fun _ _ _ hidle => nomatch hidle
  · exact fun e he => absurd he List.not_mem_nil
  · exact fun e he => absurd he List.not_mem_nil
  · exact List.Pairwise.nil
  · exact List.suffix_rfl
  · exact fun e he _ => hcovered e he

/-- A callback runs, and the next one is to come. -/
lemma timerInv_run {now : ℤ} {expired rest : List TimerEntry} {e : TimerEntry} (h : q.TimerInv)
    (hstage : q.stage = .firing now expired (e :: rest)) :
    TimerInv { q with stage := .firing now expired rest } := by
  have hexpired : q.stage.expired = expired := by rw [hstage]; rfl
  have hadded := h.expired_added
  have hout := h.expired_out
  have hdistinct := h.expired_distinct
  have hsuffix := h.rest_suffix
  rw [hexpired] at hadded hout hdistinct hsuffix
  -- the entries of the batch stay, one more callback is behind us
  rw [hstage] at hsuffix
  constructor
  · exact h.clock
  · exact h.key
  · exact h.added
  · exact h.made
  · intro now' expired' rest' hstage'
    obtain ⟨rfl, rfl, rfl⟩ := TimerStage.firing.inj hstage'
    exact h.now_pos _ _ _ hstage
  · exact hadded
  · exact hout
  · exact hdistinct
  · exact (List.suffix_cons e rest).trans hsuffix
  · rintro e' he' (hidle | hpos)
    · cases hidle
    · exact h.covered e' he' (Or.inr hpos)

/-- Every step keeps the invariant. -/
lemma timerInv_step {a : Action} (h : q.TimerInv) (hallowed : allowed q a)
    (hexec : exec r q a = .ok q') : q'.TimerInv := by
  cases a with
  | make timer value =>
    obtain rfl := Except.ok.inj hexec
    exact timerInv_make h hallowed
  | addTimer timer =>
    obtain ⟨q₁, hadd, hexec⟩ := except_bind_eq_ok.mp hexec
    obtain rfl := Except.ok.inj hexec
    exact timerInv_addTimer h hallowed.1 hallowed.2 hadd
  | cancelTimer timer =>
    obtain rfl := Except.ok.inj hexec
    exact timerInv_cancelTimer h
  | handleRead => exact timerInv_handleRead h hexec
  | run =>
    simp only [exec] at hexec
    split at hexec
    · rename_i hstage
      obtain rfl := Except.ok.inj hexec
      exact timerInv_run h hstage
    · obtain rfl := Except.ok.inj hexec
      exact h
  | reset =>
    simp only [exec] at hexec
    split at hexec
    · rename_i hstage
      obtain ⟨q₁, hreset, hexec⟩ := except_bind_eq_ok.mp hexec
      obtain rfl := Except.ok.inj hexec
      exact timerInv_reset h hstage hreset
    · obtain rfl := Except.ok.inj hexec
      exact h
  | tick microseconds =>
    obtain rfl := Except.ok.inj hexec
    have hclock := h.clock
    exact { h with
      clock := by
        show 0 < q.clock + microseconds
        omega }

lemma timerInv_start (boot : ℕ) : (start boot).TimerInv where
  clock := by
    show (0 : ℤ) < boot + 1
    omega
  key e he := absurd he (OrderedSet.notMem_empty e)
  added e he := absurd he (OrderedSet.notMem_empty e)
  made _ h := nomatch h
  now_pos _ _ _ hidle := nomatch hidle
  expired_added e he := absurd he List.not_mem_nil
  expired_out e he := absurd he List.not_mem_nil
  expired_distinct := List.Pairwise.nil
  rest_suffix := List.suffix_rfl
  covered e he := absurd he (OrderedSet.notMem_empty e)

/-- The invariant holds in every state of a run. -/
lemma timerInv_of_run {boot : ℕ} {as : List Action} {q : TimerQueue}
    (hrun : (machine r).Run (start boot) as q) : q.TimerInv :=
  hrun.preserves (timerInv_start boot)
    fun _ _ _ h hallowed hexec => timerInv_step h hallowed hexec

/-- **The timerfd backs the timers.** In every reachable state the entries are keyed by the
expirations of their timers, and outside `handleRead` a pending entry has the timerfd set, with a
deadline no later than the earliest expiration or 100 microseconds after the setting; `resetTimerfd`
never leaves it disarmed. -/
theorem backed_of_run {boot : ℕ} {as : List Action} {q : TimerQueue}
    (hrun : (machine r).Run (start boot) as q) :
    (∀ e ∈ q.timers_, e.first = (q.heap e.second).expiration_) ∧
      (q.stage = .idle → ∀ e, q.timers_.first? = some e → q.Covered e) ∧
      ∀ expiration, (q.resetTimerfd expiration).timerfd ≠ none := by
  have hinv := timerInv_of_run hrun
  refine ⟨hinv.key, fun hidle e hfirst => ?_, fun expiration => ?_⟩
  · exact hinv.covered e (OrderedSet.first?_eq_some hfirst).1 (Or.inl hidle)
  · rw [resetTimerfd_eq]
    exact Option.some_ne_none _

/-- A repeating timer fires; its callback adds a timer that is due before the epoch, a second one,
and cancels the first. -/
def addInCallback : List Action :=
  [.make 1 ⟨500, 1⟩, .addTimer 1, .tick 1000, .handleRead, .run, .make 2 ⟨-7, 0⟩, .addTimer 2,
    .make 3 ⟨-5, 0⟩, .addTimer 3, .cancelTimer 2, .tick 40, .reset]

/-- The run ends with an entry in the queue. -/
theorem backed_addInCallback :
    ∃ q, (machine .exact).Run (start 0) addInCallback q ∧ q.stage = .idle ∧
      ∃ e, q.timers_.first? = some e ∧ q.Covered e := by
  obtain ⟨q, hrun, hstage⟩ := Machine.Run.of_replay_map (machine .exact) (start 0) addInCallback
    (fun q => decide (q.stage = .idle ∧ q.timers_.first? = some (.of (-5) 3))) (by decide +kernel)
  obtain ⟨hidle, hfirst⟩ := of_decide_eq_true hstage
  exact ⟨q, hrun, hidle, _, hfirst, (backed_of_run hrun).2.1 hidle _ hfirst⟩

end TimerQueue
end Miniduo
