import Miniduo.PollerTheorems

/-!
# The table and the array of `PollPoller`

`channels_` and `pollfds_` of a `PollPoller` that takes calls and polls in any order. After each of
them the table has one entry for each element of the array and finds it under the descriptor that
the element belongs to, and `fillActiveChannels` puts down each channel that `poll(2)` reports.
-/

namespace Miniduo

lemma Channel.made_iff (ch : Channel) :
    ch.Made ↔ ch.events_ = 0 ∨ ch.events_ = kReadEvent ∨ ch.events_ = kWriteEvent ∨
      ch.events_ = kReadEvent ||| kWriteEvent := by
  refine ⟨Made.events_mem, fun h => ?_⟩
  obtain ⟨fd, events⟩ := ch
  have hread : Made ⟨fd, kReadEvent⟩ := by
    simpa [enableReading] using (Made.new fd).enableReading true
  rcases h with h | h | h | h <;> simp only at h <;> subst h
  · exact .new fd
  · exact hread
  · simpa [enableWriting] using (Made.new fd).enableWriting true
  · exact hread.enableWriting true

lemma Channel.Made.sign {ch : Channel} (h : ch.Made) :
    (PollPoller.short ch.events_).getLsbD 15 = false := by
  rcases h.events_mem with h | h | h | h <;> rw [h] <;> decide

instance (ch : Channel) : Decidable ch.Made := decidable_of_iff _ ch.made_iff.symm

/-! ## `poll(2)` -/

/-- The `revents` that `poll(2)` may store: those asked for and the three that always count, none in
an element that it passes over. -/
def Pollfd.Reported (pfd : Pollfd) : Prop :=
  if pfd.fd < 0 then pfd.revents = 0
  else pfd.revents &&& ~~~(pfd.events ||| POLLERR ||| POLLHUP ||| POLLNVAL) = 0

instance (pfd : Pollfd) : Decidable pfd.Reported :=
  inferInstanceAs (Decidable (if pfd.fd < 0 then _ else _))

/-- The part of an element that `poll(2)` reads. -/
def Pollfd.request (pfd : Pollfd) : ℤ × BitVec 16 := (pfd.fd, pfd.events)

/-- What `poll(2)` returns when it succeeds: how many elements have non-zero `revents`. -/
def numEvents (pollfds : List Pollfd) : ℤ := pollfds.countP fun pfd => pfd.revents ≠ 0

/-- Without the sign bit in the mask that was asked for there is none in the one reported. -/
lemma Pollfd.Reported.pos_iff {pfd : Pollfd} (h : pfd.Reported)
    (hevents : pfd.events.getLsbD 15 = false) : 0 < pfd.revents.toInt ↔ pfd.revents ≠ 0 := by
  have hmsb : pfd.revents.msb = false := by
    rw [BitVec.msb_eq_getLsbD_last]
    show pfd.revents.getLsbD 15 = false
    unfold Reported at h
    split at h
    · rw [h]
      rfl
    · have hbit := congrArg (fun mask => mask.getLsbD 15) h
      simp only [BitVec.getLsbD_and, BitVec.getLsbD_not, BitVec.getLsbD_or, hevents] at hbit
      simpa [POLLERR, POLLHUP, POLLNVAL] using hbit
  rw [BitVec.toInt_eq_toNat_of_msb hmsb, Nat.cast_pos, Nat.pos_iff_ne_zero, ne_eq, ne_eq,
    ← BitVec.toNat_inj]
  rfl

/-- An element that `poll(2)` passes over is not reported. -/
lemma Pollfd.Reported.fd_nonneg {pfd : Pollfd} (h : pfd.Reported) (hrevents : pfd.revents ≠ 0) :
    0 ≤ pfd.fd := by
  by_contra hneg
  rw [Reported, if_pos (not_le.mp hneg)] at h
  exact hrevents h

lemma Pollfd.fd_eq_owner {pfd : Pollfd} (h : 0 ≤ pfd.fd) : pfd.fd = pfd.owner := by
  rw [owner, if_neg (not_lt.mpr h), Int.toNat_of_nonneg h]

namespace PollPoller

variable {κ : Type} {fd : κ → ℕ} {p : PollPoller κ} {r : Registry κ}

/-! ## `fillActiveChannels` -/

/-- What `fillActiveChannels` puts down for an element. -/
def activeOf (p : PollPoller κ) (pfd : Pollfd) : Option (κ × BitVec 32) :=
  if pfd.revents = 0 then none
  else (p.find pfd.fd).map fun entry => (entry.1, pfd.revents.signExtend 32)

/-- The element is one that the loop of `fillActiveChannels` can deal with. -/
def Fillable (fd : κ → ℕ) (p : PollPoller κ) (pfd : Pollfd) : Prop :=
  (0 < pfd.revents.toInt ↔ pfd.revents ≠ 0) ∧
    (pfd.revents ≠ 0 → ∃ channel i, p.find pfd.fd = some (channel, i) ∧ (fd channel : ℤ) = pfd.fd)

/-- The loop puts down every reported channel, and stops no earlier than behind the last one. -/
lemma fillFrom_eq {pfds : List Pollfd} (h : ∀ pfd ∈ pfds, p.Fillable fd pfd)
    (activeChannels : List (κ × BitVec 32)) :
    p.fillFrom fd pfds (numEvents pfds) activeChannels =
      .ok (activeChannels ++ pfds.filterMap p.activeOf) := by
  induction pfds generalizing activeChannels with
  | nil =>
    rw [List.filterMap_nil, List.append_nil]
    rfl
  | cons pfd pfds ih =>
    obtain ⟨hpos, hfound⟩ := h pfd List.mem_cons_self
    have ih := ih fun pfd' hpfd' => h pfd' (List.mem_cons_of_mem pfd hpfd')
    rw [fillFrom]
    by_cases hrevents : pfd.revents = 0
    · have hcount : numEvents (pfd :: pfds) = numEvents pfds := by
        rw [numEvents, List.countP_cons_of_neg (by simp [hrevents])]
        rfl
      have hskip : ¬ pfd.revents.toInt > 0 := fun hgt => hpos.mp hgt hrevents
      rw [hcount, if_neg hskip, List.filterMap_cons_none (by rw [activeOf, if_pos hrevents]), ih,
        ite_eq_left_iff]
      intro hnone
      -- no element is left to report
      have hall : ∀ pfd' ∈ pfds, pfd'.revents = 0 := by
        have hzero : pfds.countP (fun pfd => pfd.revents ≠ 0) = 0 := by
          unfold numEvents at hnone
          omega
        simpa using List.countP_eq_zero.mp hzero
      have hnil : pfds.filterMap p.activeOf = [] := by
        rw [List.filterMap_eq_nil_iff]
        exact fun pfd' hpfd' => by rw [activeOf, if_pos (hall pfd' hpfd')]
      rw [hnil, List.append_nil]
      rfl
    · obtain ⟨channel, i, hfind, hfd⟩ := hfound hrevents
      have hcount : numEvents (pfd :: pfds) = numEvents pfds + 1 := by
        rw [numEvents, List.countP_cons_of_pos (by simpa using hrevents), Nat.cast_succ]
        rfl
      have hnonneg : 0 ≤ numEvents pfds := Int.natCast_nonneg _
      have hactive : p.activeOf pfd = some (channel, pfd.revents.signExtend 32) := by
        rw [activeOf, if_neg hrevents, hfind]
        rfl
      rw [hcount, if_pos (by omega), if_pos (hpos.mpr hrevents), hfind,
        List.filterMap_cons_some hactive, add_sub_cancel_right]
      simp only [assertThat_pos hfd, except_ok_bind]
      rw [ih, List.append_assoc, List.singleton_append]

/-! ## Registered channels -/

/-- The channel that the table has for a descriptor, with its element of the array. -/
def lookup (p : PollPoller κ) (d : ℕ) : Option (κ × Pollfd) :=
  (p.channels_ d).bind fun entry => p.pollfds_[entry.2]?.map fun pfd => (entry.1, pfd)

lemma lookup_eq_some_iff {d : ℕ} {channel : κ} {pfd : Pollfd} :
    p.lookup d = some (channel, pfd) ↔
      ∃ i, p.channels_ d = some (channel, i) ∧ p.pollfds_[i]? = some pfd := by
  unfold lookup
  rw [Option.bind_eq_some_iff]
  constructor
  · rintro ⟨⟨channel', i⟩, hentry, hpfd⟩
    obtain ⟨pfd', hpfd', heq⟩ := Option.map_eq_some_iff.mp hpfd
    obtain ⟨rfl, rfl⟩ := Prod.mk.inj heq
    exact ⟨i, hentry, hpfd'⟩
  · rintro ⟨i, hentry, hpfd⟩
    exact ⟨(channel, i), hentry, by rw [hpfd]; rfl⟩

/-- The table finds a registered channel at the element of its descriptor. -/
lemma Keeps.entry_iff (h : p.Keeps r) {d i : ℕ} {channel : κ} :
    p.channels_ d = some (channel, i) ↔
      (r d).map Prod.fst = some channel ∧ ∃ pfd, p.pollfds_[i]? = some pfd ∧ pfd.owner = d := by
  constructor
  · intro hentry
    refine ⟨?_, h.dense.get (by rw [hentry]; rfl)⟩
    rw [← h.channels, hentry]
    rfl
  · rintro ⟨hr, hpfd⟩
    obtain ⟨j, hj⟩ := h.channels_eq_some hr
    have hi : (p.channels_ d).map Prod.snd = some i := (h.dense d i).mpr hpfd
    rw [hj, Option.map_some, Option.some.injEq] at hi
    rw [hj, ← hi]

lemma Keeps.lookup_iff (h : p.Keeps r) {d : ℕ} {channel : κ} {pfd : Pollfd} :
    p.lookup d = some (channel, pfd) ↔
      (r d).map Prod.fst = some channel ∧ pfd ∈ p.pollfds_ ∧ pfd.owner = d := by
  rw [lookup_eq_some_iff]
  constructor
  · rintro ⟨i, hentry, hpfd⟩
    obtain ⟨hr, pfd', hpfd', howner⟩ := h.entry_iff.mp hentry
    rw [hpfd, Option.some.injEq] at hpfd'
    exact ⟨hr, List.mem_of_getElem? hpfd, hpfd' ▸ howner⟩
  · rintro ⟨hr, hmem, howner⟩
    obtain ⟨i, hi⟩ := List.mem_iff_getElem?.mp hmem
    exact ⟨i, h.entry_iff.mpr ⟨hr, pfd, hi, howner⟩, hi⟩

/-- A call leaves what the table has for other descriptors, whatever becomes of positions. -/
lemma lookup_beside {p' : PollPoller κ} {r' : Registry κ} {a d : ℕ} (h : p.Keeps r)
    (h' : p'.Keeps r') (hbeside : SameBeside a p p') (hr : r' d = r d) (hd : d ≠ a) :
    p'.lookup d = p.lookup d := by
  ext ⟨channel, pfd⟩
  show p'.lookup d = some (channel, pfd) ↔ p.lookup d = some (channel, pfd)
  rw [h.lookup_iff, h'.lookup_iff, hr]
  refine and_congr_right fun _ => and_congr_left fun howner => hbeside pfd ?_
  rwa [howner]

/-- What `poll(2)` writes changes nothing that is kept. -/
lemma Keeps.polled (h : p.Keeps r) {pollfds : List Pollfd}
    (hrequest : pollfds.map Pollfd.request = p.pollfds_.map Pollfd.request) :
    Keeps { p with pollfds_ := pollfds } r := by
  have howner : pollfds.map Pollfd.owner = p.pollfds_.map Pollfd.owner := by
    have := congrArg (List.map fun request : ℤ × BitVec 16 =>
      (Pollfd.mk request.1 request.2 0).owner) hrequest
    rwa [List.map_map, List.map_map] at this
  refine ⟨h.dense.of_map_eq howner, h.channels, fun pfd hpfd => ?_⟩
  have hmem : pfd.request ∈ p.pollfds_.map Pollfd.request :=
    hrequest ▸ List.mem_map_of_mem hpfd
  obtain ⟨pfd', hpfd', heq⟩ := List.mem_map.mp hmem
  obtain ⟨hfd, hevents⟩ := Prod.mk.inj heq
  obtain ⟨ptr, ch, hr, hpollable, hfd', hevents'⟩ := h.shown pfd' hpfd'
  exact ⟨ptr, ch, hr, hpollable, hfd.symm.trans hfd', hevents.symm.trans hevents'⟩

end PollPoller

/-- What is known of the registered channels: the descriptors are their own, and the masks are made
by their members. -/
def Registry.Known {κ : Type} (fd : κ → ℕ) (r : Registry κ) : Prop :=
  ∀ d channel mask, r d = some (channel, mask) →
    fd channel = d ∧ d < 2 ^ 31 ∧ (Channel.mk d mask).Made

lemma Registry.Known.apply {κ : Type} {fd : κ → ℕ} {r : Registry κ} (h : r.Known fd)
    {c : PollerCall κ} (hfd : fd c.ptr = c.ch.fd_) (hlt : c.ch.fd_ < 2 ^ 31) (hmade : c.ch.Made) :
    (r.apply c).Known fd := by
  have hput : ∀ (ptr : κ) (ch : Channel), fd ptr = ch.fd_ → ch.fd_ < 2 ^ 31 → ch.Made →
      Registry.Known fd (Function.update r ch.fd_ (some (ptr, ch.events_))) := by
    intro ptr ch hfd hlt hmade d channel mask hr
    by_cases hd : d = ch.fd_
    · rw [hd, Function.update_self, Option.some.injEq, Prod.mk.injEq] at hr
      obtain ⟨rfl, rfl⟩ := hr
      exact hd ▸ ⟨hfd, hlt, hmade⟩
    · rw [Function.update_of_ne hd] at hr
      exact h d channel mask hr
  cases c with
  | addChannel ptr ch => exact hput ptr ch hfd hlt hmade
  | updateChannel ptr ch => exact hput ptr ch hfd hlt hmade
  | removeChannel ptr ch =>
    intro d channel mask hr
    refine h d channel mask ?_
    by_cases hd : d = ch.fd_
    · rw [hd] at hr
      cases (Function.update_self ..).symm.trans hr
    · rw [← hr]
      exact (Function.update_of_ne hd ..).symm

lemma Registry.apply_of_ne {κ : Type} (r : Registry κ) {c : PollerCall κ} {d : ℕ}
    (hd : d ≠ c.ch.fd_) : r.apply c d = r d := by
  cases c <;> exact Function.update_of_ne hd ..

namespace PollPoller

variable {κ : Type} {fd : κ → ℕ} {p : PollPoller κ} {r : Registry κ}

/-! ## What is put down -/

/-- An element with a report has a descriptor, and the table finds its channel. -/
lemma Keeps.fillable (h : p.Keeps r) (hknown : r.Known fd) {pfd : Pollfd} (hpfd : pfd ∈ p.pollfds_)
    (hreported : pfd.Reported) : p.Fillable fd pfd := by
  obtain ⟨ptr, ch, hr, -, hfd, hevents⟩ := h.shown pfd hpfd
  obtain ⟨hown, -, hmade⟩ := hknown _ _ _ hr
  refine ⟨hreported.pos_iff ?_, fun hrevents => ?_⟩
  · rw [hevents]
    exact hmade.sign
  · have hfield := Pollfd.fd_eq_owner (hreported.fd_nonneg hrevents)
    have howner := owner_of_shown hfd
    obtain ⟨i, hi⟩ := h.channels_eq_some (show (r ch.fd_).map Prod.fst = some ptr by rw [hr]; rfl)
    refine ⟨ptr, i, ?_, by rw [hfield, howner, hown]⟩
    rw [find, hfield, if_neg (by omega), Int.toNat_natCast, howner, hi]

/-- `fillActiveChannels` appends exactly the channels with a report, each once and with what was
reported. -/
def Fills (fd : κ → ℕ) (p : PollPoller κ) (activeChannels : List (κ × BitVec 32)) : Prop :=
  ∃ new, p.fillActiveChannels fd (numEvents p.pollfds_) activeChannels =
      .ok (activeChannels ++ new) ∧ (new.map Prod.fst).Nodup ∧
    ∀ channel revents, (channel, revents) ∈ new ↔
      ∃ d pfd, p.lookup d = some (channel, pfd) ∧ pfd.revents ≠ 0 ∧
        revents = pfd.revents.signExtend 32

lemma activeOf_eq_some_iff {pfd : Pollfd} {channel : κ} {revents : BitVec 32} :
    p.activeOf pfd = some (channel, revents) ↔
      pfd.revents ≠ 0 ∧ revents = pfd.revents.signExtend 32 ∧
        ∃ i, p.find pfd.fd = some (channel, i) := by
  unfold activeOf
  split
  · simp [*]
  · rw [Option.map_eq_some_iff]
    constructor
    · rintro ⟨⟨channel', i⟩, hfind, heq⟩
      obtain ⟨rfl, rfl⟩ := Prod.mk.inj heq
      exact ⟨‹_›, rfl, i, hfind⟩
    · rintro ⟨-, rfl, i, hfind⟩
      exact ⟨(channel, i), hfind, rfl⟩

/-- The channels put down for some elements have the descriptors of these elements. -/
lemma nodup_activeOf {pfds : List Pollfd} (hfillable : ∀ pfd ∈ pfds, p.Fillable fd pfd)
    (hnodup : (pfds.map Pollfd.fd).Nodup) :
    ((pfds.filterMap p.activeOf).map Prod.fst).Nodup := by
  refine List.Nodup.of_map (fun channel => (fd channel : ℤ)) (hnodup.sublist ?_)
  induction pfds with
  | nil => exact List.Sublist.slnil
  | cons pfd pfds ih =>
    have ih := ih (fun pfd' hpfd' => hfillable pfd' (List.mem_cons_of_mem pfd hpfd'))
      (List.nodup_cons.mp hnodup).2
    cases hactive : p.activeOf pfd with
    | none =>
      rw [List.filterMap_cons_none hactive]
      exact ih.cons pfd.fd
    | some entry =>
      obtain ⟨channel, revents⟩ := entry
      obtain ⟨hrevents, -, i, hfind⟩ := activeOf_eq_some_iff.mp hactive
      obtain ⟨channel', j, hfind', hfd⟩ := (hfillable pfd List.mem_cons_self).2 hrevents
      rw [hfind, Option.some.injEq, Prod.mk.injEq] at hfind'
      rw [List.filterMap_cons_some hactive, List.map_cons, List.map_cons, hfind'.1, hfd,
        List.map_cons]
      exact ih.cons_cons pfd.fd

lemma Keeps.fills (h : p.Keeps r) (hknown : r.Known fd)
    (hreported : ∀ pfd ∈ p.pollfds_, pfd.Reported) (activeChannels : List (κ × BitVec 32)) :
    p.Fills fd activeChannels := by
  have hfillable : ∀ pfd ∈ p.pollfds_, p.Fillable fd pfd :=
    fun pfd hpfd => h.fillable hknown hpfd (hreported pfd hpfd)
  have hnodup : (p.pollfds_.map Pollfd.fd).Nodup := by
    refine List.Nodup.of_map (fun field => (Pollfd.mk field 0 0).owner) ?_
    rw [List.map_map]
    exact h.dense.nodup
  refine ⟨p.pollfds_.filterMap p.activeOf, fillFrom_eq hfillable activeChannels,
    nodup_activeOf hfillable hnodup, fun channel revents => ?_⟩
  rw [List.mem_filterMap]
  constructor
  · rintro ⟨pfd, hpfd, hactive⟩
    obtain ⟨hrevents, hvalue, i, hfind⟩ := activeOf_eq_some_iff.mp hactive
    have hnonneg := (hreported pfd hpfd).fd_nonneg hrevents
    refine ⟨pfd.owner, pfd, ?_, hrevents, hvalue⟩
    rw [find, if_neg (not_lt.mpr hnonneg), Pollfd.fd_eq_owner hnonneg, Int.toNat_natCast] at hfind
    exact h.lookup_iff.mpr ⟨(h.entry_iff.mp hfind).1, hpfd, rfl⟩
  · rintro ⟨d, pfd, hlookup, hrevents, hvalue⟩
    obtain ⟨i, hentry, hi⟩ := lookup_eq_some_iff.mp hlookup
    obtain ⟨-, hpfd, howner⟩ := h.lookup_iff.mp hlookup
    have hfield := Pollfd.fd_eq_owner ((hreported pfd hpfd).fd_nonneg hrevents)
    refine ⟨pfd, hpfd, activeOf_eq_some_iff.mpr ⟨hrevents, hvalue, i, ?_⟩⟩
    rw [find, hfield, if_neg (by omega), Int.toNat_natCast, howner, hentry]

end PollPoller

/-! ## Calls and polls in any order -/

/-- A `PollPoller` and the channels registered with it. -/
structure Polling (κ : Type) where
  poller : PollPoller κ := {}
  registered : Registry κ := fun _ => none

namespace Polling

inductive Action (κ : Type)
  | call (c : PollerCall κ)
  /-- `poll(2)` leaves `pollfds` in the array and returns `numEvents`. -/
  | poll (pollfds : List Pollfd) (numEvents : ℤ) (activeChannels : List (κ × BitVec 32))

variable {κ : Type} [DecidableEq κ] [Inhabited κ]

/-- Calls respect the asserted preconditions and come from members of `Channel`, whose descriptor is
an `int` and never changes; a `poll(2)` that fails may leave any `revents`. -/
def Allowed (fd : κ → ℕ) (s : Polling κ) : Action κ → Prop
  | .call c => s.registered.Pre c ∧ fd c.ptr = c.ch.fd_ ∧ c.ch.fd_ < 2 ^ 31 ∧ c.ch.Made
  | .poll pollfds n _ =>
    pollfds.map Pollfd.request = s.poller.pollfds_.map Pollfd.request ∧
      (n = -1 ∨ n = numEvents pollfds ∧ ∀ pfd ∈ pollfds, pfd.Reported)

def exec (fd : κ → ℕ) (s : Polling κ) : Action κ → Except Fault (Polling κ)
  | .call c => do
    let poller ← s.poller.call c
    return ⟨poller, s.registered.apply c⟩
  | .poll pollfds n activeChannels => do
    let (poller, _) ← s.poller.poll fd pollfds n activeChannels
    return { s with poller := poller }

def machine (fd : κ → ℕ) : Machine (Polling κ) (Action κ) Fault where
  allowed := Allowed fd
  exec := exec fd

omit [DecidableEq κ] [Inhabited κ] in
/-- **The bijection.** The table and the array have the same size, and the table has a channel and a
position for a descriptor exactly when the element at the position belongs to the descriptor and the
channel is the registered one, which has this descriptor. The position is an `int`. -/
structure Bijective (fd : κ → ℕ) (s : Polling κ) : Prop where
  size : {d | s.poller.channels_ d ≠ none}.encard = s.poller.pollfds_.length
  entry : ∀ d channel i, s.poller.channels_ d = some (channel, i) ↔
    fd channel = d ∧ ∃ mask pfd, s.registered d = some (channel, mask) ∧
      s.poller.pollfds_[i]? = some pfd ∧
      pfd.fd = (if mask = 0 then Pollfd.ignored d else d) ∧ pfd.events = PollPoller.short mask
  position : ∀ d channel i, s.poller.channels_ d = some (channel, i) → i < 2 ^ 31

/-- The call returns and leaves every other descriptor its channel and its element. -/
def Contained (s : Polling κ) (c : PollerCall κ) : Prop :=
  ∃ p, s.poller.call c = .ok p ∧ ∀ d, d ≠ c.ch.fd_ → p.lookup d = s.poller.lookup d

/-- Whatever `poll(2)` reports, exactly the reported channels are put down. -/
def FillsAll (fd : κ → ℕ) (s : Polling κ) : Prop :=
  ∀ pollfds, pollfds.map Pollfd.request = s.poller.pollfds_.map Pollfd.request →
    (∀ pfd ∈ pollfds, pfd.Reported) →
      ∀ activeChannels, { s.poller with pollfds_ := pollfds }.Fills fd activeChannels

/-- The invariant of the runs. -/
structure Inv (fd : κ → ℕ) (s : Polling κ) : Prop where
  keeps : s.poller.Keeps s.registered
  known : s.registered.Known fd

variable {fd : κ → ℕ} {s s' : Polling κ} {a : Action κ}

lemma Inv.contained (h : s.Inv fd) {c : PollerCall κ} (hallowed : Allowed fd s (.call c)) :
    s.Contained c := by
  obtain ⟨hpre, -, -, hmade⟩ := hallowed
  obtain ⟨p, hcall, hkeeps, hbeside⟩ := h.keeps.call hpre hmade.pollable
  exact ⟨p, hcall, fun d hd => PollPoller.lookup_beside h.keeps hkeeps hbeside
    (s.registered.apply_of_ne hd) hd⟩

lemma Inv.step (h : s.Inv fd) (hallowed : Allowed fd s a) (hexec : exec fd s a = .ok s') :
    s'.Inv fd := by
  cases a with
  | call c =>
    obtain ⟨hpre, hfd, hlt, hmade⟩ := hallowed
    obtain ⟨p, hcall, hkeeps, -⟩ := h.keeps.call hpre hmade.pollable
    rw [exec, hcall, except_ok_bind] at hexec
    cases hexec
    exact ⟨hkeeps, h.known.apply hfd hlt hmade⟩
  | poll pollfds n activeChannels =>
    have hkeeps := h.keeps.polled hallowed.1
    rw [exec, PollPoller.poll] at hexec
    split at hexec
    · cases hfill : PollPoller.fillActiveChannels fd { s.poller with pollfds_ := pollfds } n
        activeChannels with
      | error e =>
        rw [hfill] at hexec
        cases hexec
      | ok new =>
        rw [hfill] at hexec
        cases hexec
        exact ⟨hkeeps, h.known⟩
    · cases hexec
      exact ⟨hkeeps, h.known⟩

omit [DecidableEq κ] [Inhabited κ] in
lemma Inv.fillsAll (h : s.Inv fd) : s.FillsAll fd :=
  fun _ hrequest hreported => (h.keeps.polled hrequest).fills h.known hreported

omit [DecidableEq κ] [Inhabited κ] in
/-- There are no more elements than descriptors. -/
lemma Inv.length_le (h : s.Inv fd) : s.poller.pollfds_.length ≤ 2 ^ 31 := by
  have hsub : (s.poller.pollfds_.map Pollfd.owner).toFinset ⊆ Finset.range (2 ^ 31) := by
    intro d hd
    obtain ⟨pfd, hpfd, rfl⟩ := List.mem_map.mp (List.mem_toFinset.mp hd)
    obtain ⟨ptr, ch, hr, -, hfd, -⟩ := h.keeps.shown pfd hpfd
    rw [PollPoller.owner_of_shown hfd, Finset.mem_range]
    exact (h.known _ _ _ hr).2.1
  have hcard := Finset.card_le_card hsub
  rwa [List.toFinset_card_of_nodup h.keeps.dense.nodup, List.length_map, Finset.card_range] at hcard

omit [DecidableEq κ] [Inhabited κ] in
lemma Inv.bijective (h : s.Inv fd) : s.Bijective fd where
  size := by
    rw [← h.keeps.dense.encard_keys]
    congr 1
    ext d
    simp
  entry := by
    intro d channel i
    rw [h.keeps.entry_iff]
    constructor
    · rintro ⟨hr, pfd, hpfd, rfl⟩
      obtain ⟨ptr, ch, hch, -, hfd, hevents⟩ := h.keeps.shown pfd (List.mem_of_getElem? hpfd)
      have howner := PollPoller.owner_of_shown hfd
      rw [howner, hch, Option.map_some, Option.some.injEq] at hr
      subst hr
      refine ⟨howner ▸ (h.known _ _ _ hch).1, ch.events_, pfd, howner ▸ hch, hpfd, ?_, hevents⟩
      rw [hfd, howner, PollPoller.pollfdOf]
      simp only [Channel.isNoneEvent_iff]
    · rintro ⟨-, mask, pfd, hr, hpfd, hfd, -⟩
      refine ⟨by rw [hr]; rfl, pfd, hpfd, ?_⟩
      rw [Pollfd.owner, hfd]
      unfold Pollfd.ignored
      split <;> split <;> omega
  position := by
    intro d channel i hentry
    have hlt := h.keeps.dense.lt_length (a := d) (i := i) (by rw [hentry]; rfl)
    exact hlt.trans_le h.length_le

/-- **The table and the array stay in bijection** in every run of calls and polls; every call leaves
the other descriptors alone, and whatever `poll(2)` reports is put down, each channel once. -/
theorem bijective_of_run {as : List (Action κ)} (hrun : (machine fd).Run {} as s) :
    s.Bijective fd ∧ (∀ c, (machine fd).allowed s (.call c) → s.Contained c) ∧ s.FillsAll fd := by
  have hinv : s.Inv fd := by
    refine hrun.preserves (I := Inv fd) ⟨⟨DenseTable.indexes_nil, fun d => rfl, ?_⟩, ?_⟩
      fun s a s' hI => hI.step
    · exact fun pfd hpfd => absurd hpfd List.not_mem_nil
    · intro d channel mask hr
      cases hr
  exact ⟨hinv.bijective, fun c => hinv.contained, hinv.fillsAll⟩

instance (fd : κ → ℕ) (s : Polling κ) : ∀ a, Decidable ((machine fd).allowed s a)
  | .call (.addChannel _ _) => inferInstanceAs (Decidable ((_ = none) ∧ _ ∧ _ ∧ Channel.Made _))
  | .call (.updateChannel _ _) => inferInstanceAs (Decidable ((_ = some _) ∧ _ ∧ _ ∧ Channel.Made _))
  | .call (.removeChannel _ _) =>
    inferInstanceAs (Decidable ((_ = some _ ∧ _ = true) ∧ _ ∧ _ ∧ Channel.Made _))
  | .poll _ _ _ => inferInstanceAs (Decidable (_ = _ ∧ (_ ∨ _ = _ ∧ ∀ pfd ∈ _, Pollfd.Reported pfd)))

/-- Channels for the descriptors 0, 7 and 9, of which the last one has no interest: its element is
the last of the array, and it moves when the first channel is removed. -/
def removedFirst : List (Action ℕ) :=
  [.call (.addChannel 0 ⟨0, 0⟩), .call (.updateChannel 0 ⟨0, 3⟩), .call (.addChannel 7 ⟨7, 0⟩),
    .call (.updateChannel 7 ⟨7, 7⟩), .call (.addChannel 9 ⟨9, 0⟩),
    .poll [⟨0, 3, 0x011⟩, ⟨7, 7, 4⟩, ⟨-10, 0, 0⟩] 2 [], .call (.updateChannel 0 ⟨0, 0⟩),
    .call (.removeChannel 0 ⟨0, 0⟩)]

theorem bijective_removedFirst : ∃ s, (machine id).Run {} removedFirst s ∧
    s.poller.channels_ 9 = some (9, 0) ∧ s.Bijective id ∧
    (∀ c, (machine id).allowed s (.call c) → s.Contained c) ∧ s.FillsAll id := by
  obtain ⟨s, hrun, hs⟩ := Machine.Run.of_replay_map (machine id) {} removedFirst
    (fun s => decide (s.poller.channels_ 9 = some (9, 0))) (by decide +kernel)
  exact ⟨s, hrun, of_decide_eq_true hs, bijective_of_run hrun⟩

end Polling
end Miniduo
