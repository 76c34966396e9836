import Miniduo.EventPoll
import Miniduo.PollPollerTheorems

/-!
# What the two pollers deliver

A `PollPoller` and an `EPollPoller` that take the same calls wait at the same descriptors. From what
their system calls are documented to report, `poll` puts down every ready channel in the one and as
many of them as the array has room for in the other (`delivers_of_run`). The array is doubled when
it was full, so few waits of a run leave a ready channel out (`leftOut_of_run`).
-/

namespace Miniduo

/-! ## What the kernel reports -/

/-- What is ready on each descriptor, in the bits that `poll(2)` and `epoll(7)` share. -/
abbrev Readiness := ℕ → BitVec 32

/-- The two conditions that are reported without being asked for. -/
def POLLALWAYS : BitVec 16 := POLLERR ||| POLLHUP

/-- The part of what is ready that a mask asks for. -/
def reported (mask ready : BitVec 32) : BitVec 32 := ready &&& (mask ||| POLLALWAYS.setWidth 32)

/-- What `poll(2)` makes of an element; all descriptors are open. -/
def Pollfd.answered (ready : Readiness) (pfd : Pollfd) : Pollfd :=
  { pfd with revents :=
      if pfd.fd < 0 then 0 else PollPoller.short (ready pfd.owner) &&& (pfd.events ||| POLLALWAYS) }

@[simp] lemma Pollfd.request_answered (ready : Readiness) (pfd : Pollfd) :
    (pfd.answered ready).request = pfd.request := rfl

lemma Pollfd.reported_answered (ready : Readiness) (pfd : Pollfd) :
    (pfd.answered ready).Reported := by
  unfold Pollfd.Reported
  by_cases hfd : pfd.fd < 0
  · rw [if_pos (show (pfd.answered ready).fd < 0 from hfd), answered, if_pos hfd]
  · rw [if_neg (show ¬ (pfd.answered ready).fd < 0 from hfd), answered, if_neg hfd]
    show (PollPoller.short (ready pfd.owner) &&& (pfd.events ||| POLLALWAYS)) &&&
      ~~~(pfd.events ||| POLLERR ||| POLLHUP ||| POLLNVAL) = 0
    ext k hk
    simp only [POLLALWAYS, BitVec.getElem_and, BitVec.getElem_or, BitVec.getElem_not]
    cases (PollPoller.short (ready pfd.owner))[k] <;> cases pfd.events[k] <;>
      cases POLLERR[k] <;> cases POLLHUP[k] <;> simp

/-- The `short` that `poll(2)` stores holds what is reported. -/
lemma Channel.Made.signExtend_short {ch : Channel} (h : ch.Made) (x : BitVec 32) :
    (PollPoller.short x &&& (PollPoller.short ch.events_ ||| POLLALWAYS)).signExtend 32 =
      reported ch.events_ x := by
  have hmsb : (PollPoller.short x &&& (PollPoller.short ch.events_ ||| POLLALWAYS)).msb = false := by
    rw [BitVec.msb_and]
    have hmask : (PollPoller.short ch.events_ ||| POLLALWAYS).msb = false := by
      rcases h.events_mem with h | h | h | h <;> rw [h] <;> decide
    rw [hmask, Bool.and_false]
  rw [BitVec.signExtend_eq_setWidth_of_msb_false hmsb, BitVec.setWidth_and, reported]
  -- a mask of 16 bits masks the higher bits out
  have hlow : ∀ (y : BitVec 32) (m : BitVec 16),
      (PollPoller.short y).setWidth 32 &&& m.setWidth 32 = y &&& m.setWidth 32 := by
    intro y m
    ext k hk
    rw [BitVec.getElem_and, BitVec.getElem_and, BitVec.getElem_setWidth, BitVec.getElem_setWidth]
    by_cases hk' : k < 16
    · rw [PollPoller.short, BitVec.truncate_eq_setWidth, BitVec.getLsbD_setWidth, decide_eq_true hk',
        Bool.true_and, BitVec.getLsbD_eq_getElem hk]
    · rw [BitVec.getLsbD_of_ge m k (not_lt.mp hk'), Bool.and_false, Bool.and_false]
  rw [hlow]
  congr 1
  rcases h.events_mem with h | h | h | h <;> rw [h] <;> decide

lemma signExtend_eq_zero_iff (x : BitVec 16) : x.signExtend 32 = 0 ↔ x = 0 := by
  rw [← BitVec.toInt_inj, BitVec.toInt_signExtend_of_le (by decide), ← BitVec.toInt_inj]
  rfl

/-- The registered channels that are ready, each with what is reported of it. -/
def Registry.reports {κ : Type} (r : Registry κ) (ready : Readiness) : Set (κ × BitVec 32) :=
  {x | ∃ d mask, r d = some (x.1, mask) ∧ mask ≠ 0 ∧ x.2 = reported mask (ready d) ∧ x.2 ≠ 0}

/-- The descriptors of the registered channels with an interest. -/
def Registry.interested {κ : Type} (r : Registry κ) : Set ℕ :=
  {d | ∃ channel mask, r d = some (channel, mask) ∧ mask ≠ 0}

namespace EPollPoller

variable {κ : Type}

/-- The event that `epoll_wait` has for a descriptor of its list. -/
def eventOf (p : EPollPoller κ) (ready : Readiness) (d : ℕ) : Option (EpollEvent κ) :=
  (p.epoll d).bind fun x =>
    if reported x.2 (ready d) = 0 then none else some ⟨reported x.2 (ready d), x.1⟩

/-- `epoll_wait` may report these descriptors, in this order: ready ones, as many as there are or as
the array has room for. -/
structure Answers (p : EPollPoller κ) (events_ : ℕ) (ready : Readiness) (fds : List ℕ) : Prop where
  nodup : fds.Nodup
  found : ∀ d ∈ fds, p.eventOf ready d ≠ none
  room : fds.length ≤ events_
  all : fds.length < events_ → ∀ d, p.eventOf ready d ≠ none → d ∈ fds

/-! ## `EPollPoller` -/

section
variable {p : EPollPoller κ} {r : Registry κ} {ready : Readiness} {fd : κ → ℕ}

lemma eventOf_eq_some_iff {d : ℕ} {e : EpollEvent κ} :
    p.eventOf ready d = some e ↔ ∃ mask, p.epoll d = some (e.ptr, mask) ∧
      e.events = reported mask (ready d) ∧ e.events ≠ 0 := by
  unfold eventOf
  rw [Option.bind_eq_some_iff]
  constructor
  · rintro ⟨⟨ptr, mask⟩, hepoll, he⟩
    simp only at he
    split at he
    · cases he
    · cases he
      exact ⟨mask, hepoll, rfl, ‹_›⟩
  · rintro ⟨mask, hepoll, hevents, hne⟩
    refine ⟨(e.ptr, mask), hepoll, ?_⟩
    simp only
    rw [← hevents, if_neg hne]

/-- The kernel has the registered channels with an interest. -/
lemma Keeps.epoll_eq_some_iff (h : p.Keeps r) {d : ℕ} {ptr : κ} {mask : BitVec 32} :
    p.epoll d = some (ptr, mask) ↔ r d = some (ptr, mask) ∧ mask ≠ 0 := by
  constructor
  · intro hepoll
    cases hr : r d with
    | none =>
      have hnone := congrArg Prod.snd ((h d).1 hr)
      rw [entry, hepoll] at hnone
      cases hnone
    | some y =>
      obtain ⟨ptr', mask'⟩ := y
      rcases (h d).2 ptr' mask' hr with ⟨-, state, -, hentry⟩ | ⟨hmask, hentry⟩
      · have hnone := congrArg Prod.snd hentry
        rw [entry, hepoll] at hnone
        cases hnone
      · have hsome := congrArg Prod.snd hentry
        rw [entry, hepoll] at hsome
        cases hsome
        exact ⟨rfl, hmask⟩
  · rintro ⟨hr, hmask⟩
    rcases (h d).2 _ _ hr with ⟨hzero, -⟩ | ⟨-, hentry⟩
    · exact absurd hzero hmask
    · exact congrArg Prod.snd hentry

/-- The kernel has an event for the registered channels that are ready. -/
lemma Keeps.eventOf_iff (h : p.Keeps r) {d : ℕ} {e : EpollEvent κ} :
    p.eventOf ready d = some e ↔ ∃ mask, r d = some (e.ptr, mask) ∧ mask ≠ 0 ∧
      e.events = reported mask (ready d) ∧ e.events ≠ 0 := by
  rw [eventOf_eq_some_iff]
  simp only [h.epoll_eq_some_iff, and_assoc]

/-- A channel that the kernel has is the one that the table has for the descriptor. -/
def Finds (fd : κ → ℕ) (p : EPollPoller κ) : Prop :=
  ∀ d ptr mask, p.epoll d = some (ptr, mask) →
    fd ptr = d ∧ ∃ state, p.channels_ d = some (ptr, state)

lemma Keeps.finds (h : p.Keeps r) (hknown : r.Known fd) : p.Finds fd := by
  intro d ptr mask hepoll
  obtain ⟨hr, -⟩ := h.epoll_eq_some_iff.mp hepoll
  refine ⟨(hknown _ _ _ hr).1, ?_⟩
  rcases (h d).2 _ _ hr with ⟨-, state, -, hentry⟩ | ⟨-, hentry⟩
  · exact ⟨state, congrArg Prod.fst hentry⟩
  · exact ⟨_, congrArg Prod.fst hentry⟩

lemma Finds.fd_of_event (h : p.Finds fd) {d : ℕ} {e : EpollEvent κ}
    (he : p.eventOf ready d = some e) : fd e.ptr = d := by
  obtain ⟨mask, hepoll, -⟩ := eventOf_eq_some_iff.mp he
  exact (h d _ _ hepoll).1

/-- No channel is put down twice. -/
lemma Finds.nodup (h : p.Finds fd) {fds : List ℕ} (hnodup : fds.Nodup) :
    ((fds.filterMap (p.eventOf ready)).map EpollEvent.ptr).Nodup := by
  rw [List.map_filterMap]
  refine hnodup.filterMap fun d d' c hc hc' => ?_
  obtain ⟨e, he, rfl⟩ := Option.map_eq_some_iff.mp hc
  obtain ⟨e', he', heq⟩ := Option.map_eq_some_iff.mp hc'
  rw [← h.fd_of_event he, ← h.fd_of_event he', heq]

variable [DecidableEq κ]

/-- The loop puts down every event whose channel the table has. -/
lemma fillFrom_eq {events : List (EpollEvent κ)}
    (h : ∀ e ∈ events, ∃ state, p.channels_ (fd e.ptr) = some (e.ptr, state))
    (activeChannels : List (κ × BitVec 32)) :
    p.fillFrom fd events activeChannels =
      .ok (activeChannels ++ events.map fun e => (e.ptr, e.events)) := by
  induction events generalizing activeChannels with
  | nil =>
    rw [List.map_nil, List.append_nil]
    rfl
  | cons e events ih =>
    obtain ⟨state, hchannel⟩ := h e List.mem_cons_self
    simp only [fillFrom, hchannel, assertThat_pos, except_ok_bind]
    rw [ih (fun e' he' => h e' (List.mem_cons_of_mem e he')), List.append_assoc, List.map_cons,
      List.singleton_append]

/-- `poll` returns what `epoll_wait` has reported, and doubles the array when it was full. -/
lemma Finds.poll_eq (h : p.Finds fd) {events_ : ℕ} {fds : List ℕ}
    (hanswers : p.Answers events_ ready fds) (hpos : 0 < events_)
    (activeChannels : List (κ × BitVec 32)) :
    p.poll fd events_ (some (fds.filterMap (p.eventOf ready))) activeChannels =
      .ok (if fds.length = events_ then events_ * 2 else events_,
        activeChannels ++ (fds.filterMap (p.eventOf ready)).map fun e => (e.ptr, e.events)) := by
  have hlength : (fds.filterMap (p.eventOf ready)).length = fds.length := by
    rw [List.filterMap_length_eq_length]
    exact fun d hd => Option.isSome_iff_ne_none.mpr (hanswers.found d hd)
  have hfound : ∀ e ∈ fds.filterMap (p.eventOf ready),
      ∃ state, p.channels_ (fd e.ptr) = some (e.ptr, state) := by
    intro e he
    obtain ⟨d, -, hd⟩ := List.mem_filterMap.mp he
    obtain ⟨mask, hepoll, -⟩ := eventOf_eq_some_iff.mp hd
    obtain ⟨hfd, hchannel⟩ := h d _ _ hepoll
    rwa [hfd]
  unfold poll
  simp only [hlength]
  split
  · rw [fillActiveChannels, assertThat_pos (by rw [hlength]; exact hanswers.room)]
    simp only [except_ok_bind, fillFrom_eq hfound]
    rfl
  · have hnil : fds = [] := List.eq_nil_of_length_eq_zero (by omega)
    rw [hnil, List.length_nil, if_neg (by omega), List.filterMap_nil, List.map_nil, List.append_nil]
    rfl

end

end EPollPoller

/-- The loop of the `PollPoller` stops when no event is left. -/
lemma PollPoller.fillFrom_stop {κ : Type} {fd : κ → ℕ} {p : PollPoller κ} {pfds : List Pollfd}
    {n : ℤ} {activeChannels : List (κ × BitVec 32)} (h : ¬ n > 0) :
    p.fillFrom fd pfds n activeChannels = .ok activeChannels := by
  cases pfds with
  | nil => rfl
  | cons pfd pfds =>
    rw [fillFrom, if_neg h]
    rfl

/-! ## Both pollers wait -/

/-- Both pollers, the size of the array behind `epoll_wait`, and the channels registered. -/
structure Waiting (κ : Type) where
  poll : PollPoller κ := {}
  epoll : EPollPoller κ := {}
  events_ : ℕ := EPollPoller.kInitEventListSize
  registered : Registry κ := fun _ => none

namespace Waiting

inductive Action (κ : Type)
  | call (c : PollerCall κ)
  /-- Both wait at the same descriptors; `epoll_wait` reports `fds`. -/
  | wait (ready : Readiness) (fds : List ℕ)
  /-- Both system calls fail; `poll(2)` leaves `pollfds` in the array. -/
  | fail (pollfds : List Pollfd)

variable {κ : Type} [DecidableEq κ] [Inhabited κ]

def Allowed (fd : κ → ℕ) (s : Waiting κ) : Action κ → Prop
  | .call c => s.registered.Pre c ∧ fd c.ptr = c.ch.fd_ ∧ c.ch.fd_ < 2 ^ 31 ∧ c.ch.Made
  | .wait ready fds => s.epoll.Answers s.events_ ready fds
  | .fail pollfds => pollfds.map Pollfd.request = s.poll.pollfds_.map Pollfd.request

omit [DecidableEq κ] [Inhabited κ] in
/-- What the `PollPoller` makes of a wait. -/
def pollAt (fd : κ → ℕ) (s : Waiting κ) (ready : Readiness) :
    Except Fault (PollPoller κ × List (κ × BitVec 32)) :=
  let pollfds := s.poll.pollfds_.map (Pollfd.answered ready)
  s.poll.poll fd pollfds (numEvents pollfds) []

omit [Inhabited κ] in
/-- What the `EPollPoller` makes of a wait. -/
def epollAt (fd : κ → ℕ) (s : Waiting κ) (ready : Readiness) (fds : List ℕ) :
    Except Fault (ℕ × List (κ × BitVec 32)) :=
  s.epoll.poll fd s.events_ (some (fds.filterMap (s.epoll.eventOf ready))) []

def exec (fd : κ → ℕ) (s : Waiting κ) : Action κ → Except Fault (Waiting κ)
  | .call c => do
    let poll ← s.poll.call c
    let epoll ← s.epoll.call c
    return { s with poll := poll, epoll := epoll, registered := s.registered.apply c }
  | .wait ready fds => do
    let (poll, _) ← s.pollAt fd ready
    let (events_, _) ← s.epollAt fd ready fds
    return { s with poll := poll, events_ := events_ }
  | .fail pollfds => do
    let (poll, _) ← s.poll.poll fd pollfds (-1) []
    let (events_, _) ← s.epoll.poll fd s.events_ none []
    return { s with poll := poll, events_ := events_ }

def machine (fd : κ → ℕ) : Machine (Waiting κ) (Action κ) Fault where
  allowed := Allowed fd
  exec := exec fd

omit [Inhabited κ] in
/-- **Delivery.** The `PollPoller` puts down exactly the ready channels, each once and with what is
reported of it, and the `EPollPoller` as many of these as its array has room for. -/
def Delivers (fd : κ → ℕ) (s : Waiting κ) : Prop :=
  ∀ ready fds, s.epoll.Answers s.events_ ready fds →
    ∃ poll found events_ found', s.pollAt fd ready = .ok (poll, found) ∧
      s.epollAt fd ready fds = .ok (events_, found') ∧ (found.map Prod.fst).Nodup ∧
      (∀ x, x ∈ found ↔ x ∈ s.registered.reports ready) ∧ found'.Subperm found ∧
      found'.length = min s.events_ found.length

omit [DecidableEq κ] [Inhabited κ] in
/-- The invariant of the runs. -/
structure Inv (fd : κ → ℕ) (s : Waiting κ) : Prop where
  poll : s.poll.Keeps s.registered
  epoll : s.epoll.Keeps s.registered
  known : s.registered.Known fd
  room : 0 < s.events_

section
variable {fd : κ → ℕ} {s s' : Waiting κ} {a : Action κ} {ready : Readiness} {fds : List ℕ}

omit [DecidableEq κ] [Inhabited κ] in
lemma request_answered_map (ready : Readiness) (pollfds : List Pollfd) :
    (pollfds.map (Pollfd.answered ready)).map Pollfd.request = pollfds.map Pollfd.request := by
  rw [List.map_map]
  exact List.map_congr_left fun pfd _ => pfd.request_answered ready

omit [DecidableEq κ] [Inhabited κ] in
/-- An element of the array is answered as the mask of its channel asks. -/
lemma Inv.answered (h : s.Inv fd) {pfd : Pollfd} (hpfd : pfd ∈ s.poll.pollfds_)
    (ready : Readiness) : ∃ channel mask, s.registered pfd.owner = some (channel, mask) ∧
      (pfd.answered ready).revents.signExtend 32 =
        if mask = 0 then 0 else reported mask (ready pfd.owner) := by
  obtain ⟨channel, ch, hr, -, hfd, hevents⟩ := h.poll.shown pfd hpfd
  have howner := PollPoller.owner_of_shown hfd
  have hmade := (h.known _ _ _ hr).2.2
  refine ⟨channel, ch.events_, howner ▸ hr, ?_⟩
  by_cases hmask : ch.events_ = 0
  · rw [if_pos hmask, signExtend_eq_zero_iff, Pollfd.answered]
    refine if_pos ?_
    rw [hfd, PollPoller.pollfdOf, if_pos ((Channel.isNoneEvent_iff ch).mpr hmask)]
    show -(ch.fd_ : ℤ) - 1 < 0
    omega
  · have hsome : ¬ ch.isNoneEvent = true := fun hnone => hmask ((Channel.isNoneEvent_iff ch).mp hnone)
    have hnonneg : ¬ pfd.fd < 0 := by
      rw [hfd, PollPoller.pollfdOf, if_neg hsome]
      exact not_lt.mpr (Int.natCast_nonneg ch.fd_)
    rw [if_neg hmask, Pollfd.answered, if_neg hnonneg, hevents]
    exact hmade.signExtend_short _

omit [DecidableEq κ] [Inhabited κ] in
lemma Inv.mem_reports_iff (h : s.Inv fd) {channel : κ} {revents : BitVec 32} :
    (channel, revents) ∈ s.registered.reports ready ↔ ∃ pfd ∈ s.poll.pollfds_,
      (s.registered pfd.owner).map Prod.fst = some channel ∧
      (pfd.answered ready).revents ≠ 0 ∧
      revents = (pfd.answered ready).revents.signExtend 32 := by
  constructor
  · rintro ⟨d, mask, hr, hmask, hrevents, hne⟩
    simp only at hr hrevents hne
    have hchannel : (s.registered d).map Prod.fst = some channel := by rw [hr]; rfl
    obtain ⟨i, hi⟩ := h.poll.channels_eq_some hchannel
    obtain ⟨-, pfd, hpfd, rfl⟩ := h.poll.entry_iff.mp hi
    have hmem := List.mem_of_getElem? hpfd
    obtain ⟨channel', mask', hr', hanswer⟩ := h.answered hmem ready
    obtain ⟨rfl, rfl⟩ := Prod.mk.inj (Option.some.inj (hr.symm.trans hr'))
    rw [if_neg hmask, ← hrevents] at hanswer
    refine ⟨pfd, hmem, hchannel, fun hzero => hne ?_, hanswer.symm⟩
    rw [← hanswer, hzero]
    rfl
  · rintro ⟨pfd, hpfd, hchannel, hne, hrevents⟩
    obtain ⟨channel', mask, hr, hanswer⟩ := h.answered hpfd ready
    rw [hr, Option.map_some, Option.some.injEq] at hchannel
    simp only at hchannel
    subst hchannel
    have hne' : revents ≠ 0 := by
      rw [hrevents, ne_eq, signExtend_eq_zero_iff]
      exact hne
    rw [← hrevents] at hanswer
    have hmask : mask ≠ 0 := by
      intro hzero
      rw [if_pos hzero] at hanswer
      exact hne' hanswer
    rw [if_neg hmask] at hanswer
    exact ⟨pfd.owner, mask, hr, hmask, hanswer, hne'⟩

omit [DecidableEq κ] [Inhabited κ] in
/-- The `PollPoller` finds the ready channels. -/
lemma Inv.pollAt (h : s.Inv fd) (ready : Readiness) :
    ∃ found, s.pollAt fd ready =
        .ok ({ s.poll with pollfds_ := s.poll.pollfds_.map (Pollfd.answered ready) }, found) ∧
      (found.map Prod.fst).Nodup ∧ ∀ x, x ∈ found ↔ x ∈ s.registered.reports ready := by
  have hkeeps := h.poll.polled (request_answered_map ready s.poll.pollfds_)
  have hreported : ∀ pfd ∈ s.poll.pollfds_.map (Pollfd.answered ready), pfd.Reported := by
    intro pfd hpfd
    obtain ⟨pfd', -, rfl⟩ := List.mem_map.mp hpfd
    exact pfd'.reported_answered ready
  obtain ⟨found, hfill, hnodup, hmem⟩ := hkeeps.fills h.known hreported []
  refine ⟨found, ?_, hnodup, fun x => ?_⟩
  · rw [Waiting.pollAt, PollPoller.poll]
    split
    · simp only [hfill]
      rfl
    · -- nothing is reported, so nothing would be put down
      rw [PollPoller.fillActiveChannels, PollPoller.fillFrom_stop ‹_›, List.nil_append] at hfill
      rw [← Except.ok.inj hfill]
      rfl
  · obtain ⟨channel, revents⟩ := x
    rw [hmem, h.mem_reports_iff]
    constructor
    · rintro ⟨d, pfd, hlookup, hne, hrevents⟩
      obtain ⟨hchannel, hpfd, rfl⟩ := hkeeps.lookup_iff.mp hlookup
      obtain ⟨pfd', hpfd', rfl⟩ := List.mem_map.mp hpfd
      exact ⟨pfd', hpfd', hchannel, hne, hrevents⟩
    · rintro ⟨pfd, hpfd, hchannel, hne, hrevents⟩
      exact ⟨pfd.owner, pfd.answered ready,
        hkeeps.lookup_iff.mpr ⟨hchannel, List.mem_map_of_mem hpfd, rfl⟩, hne, hrevents⟩

omit [Inhabited κ] in
/-- The `EPollPoller` finds those that the kernel has reported. -/
lemma Inv.epollAt (h : s.Inv fd) (hanswers : s.epoll.Answers s.events_ ready fds) :
    ∃ found, s.epollAt fd ready fds =
        .ok (if fds.length = s.events_ then s.events_ * 2 else s.events_, found) ∧
      found.Nodup ∧ found.length = fds.length ∧ (∀ x ∈ found, x ∈ s.registered.reports ready) ∧
      (fds.length < s.events_ → ∀ x ∈ s.registered.reports ready, x ∈ found) := by
  have hfinds := h.epoll.finds h.known
  refine ⟨_, hfinds.poll_eq hanswers h.room [], ?_, ?_, fun x hx => ?_, fun hlt x hx => ?_⟩
  · refine List.Nodup.of_map Prod.fst ?_
    rw [List.nil_append, List.map_map]
    exact hfinds.nodup hanswers.nodup
  · rw [List.nil_append, List.length_map, List.filterMap_length_eq_length]
    exact fun d hd => Option.isSome_iff_ne_none.mpr (hanswers.found d hd)
  · obtain ⟨e, he, rfl⟩ := List.mem_map.mp hx
    obtain ⟨d, -, hd⟩ := List.mem_filterMap.mp he
    obtain ⟨mask, hr, hmask, hevents, hne⟩ := h.epoll.eventOf_iff.mp hd
    exact ⟨d, mask, hr, hmask, hevents, hne⟩
  · obtain ⟨d, mask, hr, hmask, hevents, hne⟩ := hx
    have he : s.epoll.eventOf ready d = some ⟨x.2, x.1⟩ :=
      h.epoll.eventOf_iff.mpr ⟨mask, hr, hmask, hevents, hne⟩
    have hmem : d ∈ fds := hanswers.all hlt d (by rw [he]; exact Option.some_ne_none _)
    exact List.mem_map.mpr ⟨_, List.mem_filterMap.mpr ⟨d, hmem, he⟩, rfl⟩

omit [Inhabited κ] in
lemma Inv.delivers (h : s.Inv fd) : s.Delivers fd := by
  intro ready fds hanswers
  obtain ⟨found, hpoll, hnodup, hmem⟩ := h.pollAt ready
  obtain ⟨found', hepoll, hnodup', hlength, hsub, hall⟩ := h.epollAt hanswers
  have hsubperm : found'.Subperm found :=
    List.subperm_of_subset hnodup' fun x hx => (hmem x).mpr (hsub x hx)
  refine ⟨_, found, _, found', hpoll, hepoll, hnodup, hmem, hsubperm, ?_⟩
  have hle := hsubperm.length_le
  have hroom := hanswers.room
  by_cases hlt : fds.length < s.events_
  · -- the array is not full, so no ready channel is left out
    have hperm : found.Subperm found' :=
      List.subperm_of_subset hnodup.of_map fun x hx => hall hlt x ((hmem x).mp hx)
    have hge := hperm.length_le
    omega
  · omega

lemma Inv.step (h : s.Inv fd) (hallowed : Allowed fd s a) (hexec : exec fd s a = .ok s') :
    s'.Inv fd := by
  cases a with
  | call c =>
    obtain ⟨hpre, hfd, hlt, hmade⟩ := hallowed
    obtain ⟨p, hp, hkeeps, -⟩ := h.poll.call hpre hmade.pollable
    obtain ⟨q, hq, hkeeps', -⟩ := h.epoll.call hpre
    rw [exec, hp, except_ok_bind, hq, except_ok_bind] at hexec
    cases hexec
    exact ⟨hkeeps, hkeeps', h.known.apply hfd hlt hmade, h.room⟩
  | wait ready fds =>
    obtain ⟨found, hpoll, -⟩ := h.pollAt ready
    obtain ⟨found', hepoll, -⟩ := h.epollAt hallowed
    rw [exec, hpoll, except_ok_bind, hepoll] at hexec
    cases hexec
    refine ⟨h.poll.polled (request_answered_map ready _), h.epoll, h.known, ?_⟩
    have hroom := h.room
    show 0 < if fds.length = s.events_ then s.events_ * 2 else s.events_
    split <;> omega
  | fail pollfds =>
    cases hexec
    exact ⟨h.poll.polled hallowed, h.epoll, h.known, h.room⟩

/-! ## Every run -/

omit [DecidableEq κ] [Inhabited κ] in
lemma inv_initial (fd : κ → ℕ) : ({} : Waiting κ).Inv fd where
  poll := ⟨DenseTable.indexes_nil, fun _ => rfl, fun _ hpfd => absurd hpfd List.not_mem_nil⟩
  epoll := fun _ => ⟨fun _ => rfl, fun _ _ hr => by cases hr⟩
  known := fun _ _ _ hr => by cases hr
  room := Nat.succ_pos 15

lemma inv_of_run {as : List (Action κ)} (hrun : (machine fd).Run {} as s) : s.Inv fd :=
  hrun.preserves (inv_initial fd) fun _ _ _ h => h.step

/-- **The two pollers deliver the same events** in every run of calls and waits, up to the size of
the array behind `epoll_wait`. -/
theorem delivers_of_run {as : List (Action κ)} (hrun : (machine fd).Run {} as s) :
    s.Delivers fd := (inv_of_run hrun).delivers

open Classical in
/-- A wait after which the `EPollPoller` leaves a ready channel out. -/
noncomputable def leftOut (s : Waiting κ) : Action κ → List Unit
  | .wait ready fds => if fds.length < (s.registered.reports ready).encard then [()] else []
  | _ => []

omit [Inhabited κ] in
lemma Inv.full_of_leftOut (h : s.Inv fd) (hanswers : s.epoll.Answers s.events_ ready fds)
    (hleft : fds.length < (s.registered.reports ready).encard) : fds.length = s.events_ := by
  obtain ⟨found, -, -, hlength, -, hall⟩ := h.epollAt hanswers
  refine hanswers.room.antisymm (not_lt.mp fun hlt => hleft.not_ge ?_)
  have hsub : s.registered.reports ready ⊆ (found.toFinset : Set (κ × BitVec 32)) :=
    fun x hx => List.mem_toFinset.mpr (hall hlt x hx)
  refine (Set.encard_le_encard hsub).trans ?_
  rw [Set.encard_coe_eq_coe_finsetCard, ← hlength, Nat.cast_le]
  exact found.toFinset_card_le

omit [DecidableEq κ] [Inhabited κ] in
lemma Inv.room_le (h : s.Inv fd) (hanswers : s.epoll.Answers s.events_ ready fds) :
    (fds.length : ℕ∞) ≤ s.registered.interested.encard := by
  have hsub : (fds.toFinset : Set ℕ) ⊆ s.registered.interested := by
    intro d hd
    obtain ⟨e, he⟩ := Option.ne_none_iff_exists'.mp (hanswers.found d (List.mem_toFinset.mp hd))
    obtain ⟨mask, hr, hmask, -⟩ := h.epoll.eventOf_iff.mp he
    exact ⟨e.ptr, mask, hr, hmask⟩
  refine le_of_eq_of_le ?_ (Set.encard_le_encard hsub)
  rw [Set.encard_coe_eq_coe_finsetCard, List.toFinset_card_of_nodup hanswers.nodup]

/-- The array is doubled when it was full, and never else. -/
lemma Inv.events_step (h : s.Inv fd) (hallowed : Allowed fd s a) (hexec : exec fd s a = .ok s') :
    s'.events_ = match a with
      | .wait _ fds => if fds.length = s.events_ then s.events_ * 2 else s.events_
      | _ => s.events_ := by
  cases a with
  | call c =>
    obtain ⟨p, -, hexec⟩ := except_bind_eq_ok.mp hexec
    obtain ⟨q, -, hexec⟩ := except_bind_eq_ok.mp hexec
    cases hexec
    rfl
  | wait ready fds =>
    obtain ⟨found, hpoll, -⟩ := h.pollAt ready
    obtain ⟨found', hepoll, -⟩ := h.epollAt hallowed
    rw [exec, hpoll, except_ok_bind, hepoll] at hexec
    cases hexec
    rfl
  | fail pollfds =>
    cases hexec
    rfl

/-- A wait that leaves a channel out doubles the array. -/
lemma Inv.leftOut_step (h : s.Inv fd) (hallowed : Allowed fd s a) (hexec : exec fd s a = .ok s') :
    s.leftOut a = [] ∧ s.events_ ≤ s'.events_ ∨ s.leftOut a = [()] ∧ s'.events_ = s.events_ * 2 := by
  have hevents := h.events_step hallowed hexec
  cases a with
  | call c => exact Or.inl ⟨rfl, hevents.ge⟩
  | fail pollfds => exact Or.inl ⟨rfl, hevents.ge⟩
  | wait ready fds =>
    simp only at hevents
    by_cases hleft : fds.length < (s.registered.reports ready).encard
    · rw [if_pos (h.full_of_leftOut hallowed hleft)] at hevents
      exact Or.inr ⟨if_pos hleft, hevents⟩
    · refine Or.inl ⟨if_neg hleft, ?_⟩
      rw [hevents]
      split <;> omega

/-- The array is full of channels with an interest when it is doubled. -/
lemma Inv.events_le_step {n : ℕ} (h : s.Inv fd) (hallowed : Allowed fd s a)
    (hexec : exec fd s a = .ok s') (hn : s.registered.interested.encard ≤ n)
    (hle : s.events_ ≤ max 16 (2 * n)) : s'.events_ ≤ max 16 (2 * n) := by
  rw [h.events_step hallowed hexec]
  cases a with
  | call c => exact hle
  | fail pollfds => exact hle
  | wait ready fds =>
    have hroom : fds.length ≤ n := by exact_mod_cast (h.room_le hallowed).trans hn
    simp only
    split <;> omega

/-- **Few waits leave a ready channel out**, since the array is doubled whenever it was full: in a
run in which no more than `n` channels have an interest, `k` waits leave one out only if
`8 * 2 ^ k ≤ n`. -/
theorem leftOut_of_run {as : List (Action κ)} {n : ℕ} (hrun : (machine fd).Run {} as s)
    (hfew : (machine fd).AllSteps (fun s _ => s.registered.interested.encard ≤ n) {} as) :
    let k := ((machine fd).outputs leftOut {} as).length
    k = 0 ∨ 8 * 2 ^ k ≤ n := by
  intro k
  have hlow : s.Inv fd ∧ 16 * 2 ^ k ≤ s.events_ := by
    refine hrun.history (R := fun _ os s => s.Inv fd ∧ 16 * 2 ^ os.length ≤ s.events_) leftOut
      ⟨inv_initial fd, le_refl 16⟩ fun _ os s a s' hI hallowed hexec => ?_
    obtain ⟨hinv, hos⟩ := hI
    refine ⟨hinv.step hallowed hexec, ?_⟩
    rcases hinv.leftOut_step hallowed hexec with ⟨hout, hevents⟩ | ⟨hout, hevents⟩
    · rw [hout, List.append_nil]
      exact hos.trans hevents
    · rw [hout, List.length_append, List.length_singleton, pow_succ, hevents]
      omega
  have hhigh : s.Inv fd ∧ s.events_ ≤ max 16 (2 * n) := by
    refine hrun.invariant (I := fun s => s.Inv fd ∧ s.events_ ≤ max 16 (2 * n)) hfew
      ⟨inv_initial fd, le_max_left 16 _⟩ fun s a s' hI hn hallowed hexec => ?_
    exact ⟨hI.1.step hallowed hexec, hI.1.events_le_step hallowed hexec hn hI.2⟩
  have hbound := hlow.2.trans hhigh.2
  rcases Nat.eq_zero_or_pos k with hk | hk
  · exact Or.inl hk
  · have htwo : 2 ^ 1 ≤ 2 ^ k := Nat.pow_le_pow_right (by decide) hk
    right
    omega

end

/-! ## More channels than the array has room for -/

/-- Channels that want to read, for the first `n` descriptors. -/
def firstOnes (n : ℕ) : Registry ℕ := fun d => if d < n then some (d, 3) else none

/-- Each of them has an interest. -/
lemma interested_firstOnes (n : ℕ) : (firstOnes n).interested.encard = n := by
  have heq : (firstOnes n).interested = (Finset.range n : Set ℕ) := by
    ext d
    by_cases hd : d < n <;> simp [Registry.interested, firstOnes, hd]
  rw [heq, Set.encard_coe_eq_coe_finsetCard, Finset.card_range]

/-- Each of them is reported when all are ready to read. -/
lemma reports_firstOnes (n : ℕ) : ((firstOnes n).reports fun _ => 1).encard = n := by
  have heq : (firstOnes n).reports (fun _ => 1) =
      ((Finset.range n).image (fun d => (d, (1 : BitVec 32))) : Finset (ℕ × BitVec 32)) := by
    ext ⟨d, revents⟩
    simp only [Registry.reports, Set.mem_ofPred_eq, Finset.coe_image, Finset.coe_range, Set.mem_image,
      Set.mem_Iio, Prod.mk.injEq]
    constructor
    · rintro ⟨d', mask, hr, -, rfl, -⟩
      obtain ⟨hd, hr⟩ := Option.ite_none_right_eq_some.mp hr
      cases hr
      exact ⟨d, hd, rfl, by decide⟩
    · rintro ⟨d, hd, rfl, rfl⟩
      exact ⟨d, 3, if_pos hd, by decide, by decide, by decide⟩
  rw [heq, Set.encard_coe_eq_coe_finsetCard, Finset.card_image_of_injective, Finset.card_range]
  exact fun d d' h => congrArg Prod.fst h

/-- One more channel is registered. -/
lemma firstOnes_succ (n : ℕ) :
    (firstOnes n).apply (.addChannel n ⟨n, 3⟩) = firstOnes (n + 1) := by
  funext d
  show Function.update (firstOnes n) n (some (n, 3)) d = _
  by_cases hd : d = n
  · subst hd
    simp [firstOnes]
  · rw [Function.update_of_ne hd]
    simp only [firstOnes]
    congr 1
    simp only [eq_iff_iff]
    omega

/-- The channels are registered one after the other. -/
def addAll (n : ℕ) : List (Action ℕ) := (List.range n).map fun d => .call (.addChannel d ⟨d, 3⟩)

/-- The run registers them in both pollers, and no more than `n` ever have an interest. -/
lemma run_addAll (n : ℕ) (hn : n < 2 ^ 31) :
    ∃ s, (machine id).Run {} (addAll n) s ∧ s.registered = firstOnes n ∧ s.events_ = 16 ∧
      ∀ m, n ≤ m →
        (machine id).AllSteps (fun s _ => s.registered.interested.encard ≤ m) {} (addAll n) := by
  induction n with
  | zero => exact ⟨{}, .nil _, by funext d; simp [firstOnes], rfl, fun _ _ => trivial⟩
  | succ n ih =>
    obtain ⟨s, hrun, hregistered, hevents, hsteps⟩ := ih (by omega)
    have hinv := inv_of_run hrun
    have hpre : s.registered.Pre (.addChannel n ⟨n, 3⟩) := by
      rw [hregistered]
      exact if_neg (lt_irrefl n)
    have hallowed : (machine id).allowed s (.call (.addChannel n ⟨n, 3⟩)) :=
      ⟨hpre, rfl, (Nat.lt_succ_self n).trans hn, (Channel.made_iff _).mpr (Or.inr (Or.inl rfl))⟩
    obtain ⟨p, hp, -⟩ := hinv.poll.call hpre hallowed.2.2.2.pollable
    obtain ⟨q, hq, -⟩ := hinv.epoll.call hpre
    have hexec : (machine id).exec s (.call (.addChannel n ⟨n, 3⟩)) =
        .ok { s with poll := p, epoll := q, registered := firstOnes (n + 1) } := by
      show exec id s (.call (.addChannel n ⟨n, 3⟩)) = _
      rw [exec, hp, except_ok_bind, hq, except_ok_bind, hregistered, firstOnes_succ]
      rfl
    have hrun' := hrun.append (Machine.run_singleton_iff.mpr ⟨hallowed, hexec⟩)
    have hadd : addAll (n + 1) = addAll n ++ [.call (.addChannel n ⟨n, 3⟩)] := by
      rw [addAll, List.range_succ, List.map_append]
      rfl
    rw [hadd]
    refine ⟨_, hrun', rfl, hevents, fun m hm => ?_⟩
    refine (Machine.allSteps_append_iff hrun).mpr ⟨hsteps m (by omega), ?_, fun _ _ => trivial⟩
    show s.registered.interested.encard ≤ m
    rw [hregistered, interested_firstOnes]
    exact_mod_cast (show n ≤ m by omega)

/-- More channels than the array has room for are ready at once. -/
def waitFull : List (Action ℕ) := addAll 17 ++ [.wait (fun _ => 1) (List.range 16)]

/-- Seventeen channels are ready behind an array of sixteen. -/
theorem delivers_addAll : ∃ s, (machine id).Run {} (addAll 17) s ∧ s.events_ = 16 ∧
    (s.registered.reports fun _ => 1).encard = 17 ∧ s.Delivers id := by
  obtain ⟨s, hrun, hregistered, hevents, -⟩ := run_addAll 17 (by decide)
  refine ⟨s, hrun, hevents, ?_, delivers_of_run hrun⟩
  rw [hregistered, reports_firstOnes]
  rfl

/-- The one wait of the run leaves a channel out, and the array has 32 elements behind it. -/
theorem leftOut_waitFull : ∃ s, (machine id).Run {} waitFull s ∧ s.events_ = 32 ∧
    let k := ((machine id).outputs leftOut {} waitFull).length
    k = 1 ∧ (k = 0 ∨ 8 * 2 ^ k ≤ 17) := by
  obtain ⟨s, hrun, hregistered, hevents, hsteps⟩ := run_addAll 17 (by decide)
  have hinv := inv_of_run hrun
  have hfound : ∀ d < 17, s.epoll.eventOf (fun _ => 1) d ≠ none := by
    intro d hd
    have he : s.epoll.eventOf (fun _ => 1) d = some ⟨1, d⟩ := by
      refine hinv.epoll.eventOf_iff.mpr
        ⟨3, ?_, by decide, show 1 = reported 3 1 by decide, show (1 : BitVec 32) ≠ 0 by decide⟩
      rw [hregistered]
      exact if_pos hd
    rw [he]
    exact Option.some_ne_none _
  have hallowed : (machine id).allowed s (.wait (fun _ => 1) (List.range 16)) := by
    refine ⟨List.nodup_range, fun d hd => hfound d ?_, ?_, fun hlt => ?_⟩
    · have := List.mem_range.mp hd
      omega
    · rw [hevents, List.length_range]
    · rw [hevents, List.length_range] at hlt
      exact absurd hlt (lt_irrefl 16)
  obtain ⟨found, hpoll, -⟩ := hinv.pollAt fun _ => 1
  obtain ⟨found', hepoll, -⟩ := hinv.epollAt hallowed
  rw [hevents, List.length_range, if_pos rfl] at hepoll
  have hexec : (machine id).exec s (.wait (fun _ => 1) (List.range 16)) =
      .ok { s with
        poll := { s.poll with pollfds_ := s.poll.pollfds_.map (Pollfd.answered fun _ => 1) }
        events_ := 32 } := by
    show exec id s (.wait (fun _ => 1) (List.range 16)) = _
    rw [exec, hpoll, except_ok_bind, hepoll]
    rfl
  have hrun' := hrun.append (Machine.run_singleton_iff.mpr ⟨hallowed, hexec⟩)
  have hleft : s.leftOut (.wait (fun _ => 1) (List.range 16)) = [()] := by
    refine if_pos ?_
    rw [hregistered, reports_firstOnes, List.length_range]
    decide
  have hk : (machine id).outputs leftOut {} waitFull = [()] := by
    have hcalls : (machine id).outputs leftOut {} (addAll 17) = [] := by
      refine Machine.outputs_eq_nil (fun a ha s => ?_) _
      obtain ⟨d, -, rfl⟩ := List.mem_map.mp ha
      rfl
    rw [waitFull, hrun.outputs_append, hcalls, Machine.outputs_cons hexec, hleft]
    rfl
  refine ⟨_, hrun', rfl, by rw [hk]; rfl, leftOut_of_run hrun' ?_⟩
  refine (Machine.allSteps_append_iff hrun).mpr ⟨hsteps 17 le_rfl, ?_, fun _ _ => trivial⟩
  show s.registered.interested.encard ≤ _
  rw [hregistered, interested_firstOnes]

end Waiting
end Miniduo
