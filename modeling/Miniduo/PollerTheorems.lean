import Miniduo.Lib.Machine
import Miniduo.PollPoller

/-!
# The two pollers agree

`PollPoller` and `EPollPoller` run side by side on the same calls. Both keep the interests of the
registered channels: one in the array that it passes to `poll(2)`, where a channel without interest
is passed over, the other in the kernel's list, where such a channel has no place.
-/

namespace Miniduo

/-- The mask fits into the `short` of a `struct pollfd`. -/
def Channel.Pollable (ch : Channel) : Prop :=
  (PollPoller.short ch.events_).signExtend 32 = ch.events_

/-- The masks that the members of `Channel` make. -/
inductive Channel.Made : Channel → Prop
  | new (fd : ℕ) : Channel.Made ⟨fd, 0⟩
  | enableReading {ch : Channel} (enable : Bool) (h : Channel.Made ch) :
    Channel.Made (ch.enableReading enable)
  | enableWriting {ch : Channel} (enable : Bool) (h : Channel.Made ch) :
    Channel.Made (ch.enableWriting enable)
  | disableAll {ch : Channel} (h : Channel.Made ch) : Channel.Made ch.disableAll

/-- No member of `Channel` makes a mask with other bits than those of `poll(2)`. -/
lemma Channel.Made.events_mem {ch : Channel} (h : ch.Made) :
    ch.events_ = 0 ∨ ch.events_ = kReadEvent ∨ ch.events_ = kWriteEvent ∨
      ch.events_ = kReadEvent ||| kWriteEvent := by
  induction h with
  | new fd => exact Or.inl rfl
  | @enableReading ch enable h ih =>
    cases enable <;> simp only [Channel.enableReading, if_true, if_false, Bool.false_eq_true] <;>
      rcases ih with h | h | h | h <;> rw [h] <;> decide
  | @enableWriting ch enable h ih =>
    cases enable <;> simp only [Channel.enableWriting, if_true, if_false, Bool.false_eq_true] <;>
      rcases ih with h | h | h | h <;> rw [h] <;> decide
  | disableAll h ih => exact Or.inl rfl

/-- The bits of `POLLIN`, `POLLPRI` and `POLLOUT` fit into a `short`. -/
lemma Channel.Made.pollable {ch : Channel} (h : ch.Made) : ch.Pollable := by
  unfold Channel.Pollable
  rcases h.events_mem with h | h | h | h <;> rw [h] <;> decide

/-! ## Calls -/

/-- A call of one of the three members. -/
inductive PollerCall (κ : Type)
  | addChannel (ptr : κ) (ch : Channel)
  | updateChannel (ptr : κ) (ch : Channel)
  | removeChannel (ptr : κ) (ch : Channel)

namespace PollerCall

variable {κ : Type}

def ptr : PollerCall κ → κ
  | .addChannel ptr _ | .updateChannel ptr _ | .removeChannel ptr _ => ptr

def ch : PollerCall κ → Channel
  | .addChannel _ ch | .updateChannel _ ch | .removeChannel _ ch => ch

end PollerCall

/-! ## The kernel -/

/-- `EPOLL_CTL_ADD` is for a descriptor that the list does not have, `EPOLL_CTL_MOD` and
`EPOLL_CTL_DEL` are for one that it has. -/
def EpollCtl.Valid {κ : Type} (list : InterestList κ) (ctl : EpollCtl κ) : Prop :=
  match ctl.operation with
  | .ADD => list ctl.fd = none
  | .MOD | .DEL => list ctl.fd ≠ none

/-- The interest list of an epoll instance under valid calls of `epoll_ctl`. -/
def EpollCtl.kernel (κ : Type) : Machine (InterestList κ) (EpollCtl κ) Fault where
  allowed := EpollCtl.Valid
  exec list ctl := .ok (ctl.apply list)

namespace EpollCtl

variable {κ : Type} {list : InterestList κ} {fd : ℕ} {ptr : κ} {events : BitVec 32}

/-- `ADD` of a descriptor that is not in the list. -/
lemma run_add (h : list fd = none) : (kernel κ).Run list [⟨.ADD, fd, ptr, events⟩]
    (Function.update list fd (some (ptr, events))) := by
  refine Machine.run_singleton_iff.mpr ⟨h, congrArg Except.ok ?_⟩
  simp only [apply, h]

/-- `MOD` of a descriptor that is in the list. -/
lemma run_mod {x : κ × BitVec 32} (h : list fd = some x) :
    (kernel κ).Run list [⟨.MOD, fd, ptr, events⟩]
      (Function.update list fd (some (ptr, events))) := by
  refine Machine.run_singleton_iff.mpr ⟨by simp [kernel, Valid, h], congrArg Except.ok ?_⟩
  simp only [apply, h]

/-- `DEL` of a descriptor that is in the list. -/
lemma run_del {x : κ × BitVec 32} (h : list fd = some x) :
    (kernel κ).Run list [⟨.DEL, fd, ptr, events⟩] (Function.update list fd none) := by
  refine Machine.run_singleton_iff.mpr ⟨by simp [kernel, Valid, h], congrArg Except.ok ?_⟩
  simp only [apply, h]

end EpollCtl

/-! ## The registered channels -/

/-- The registered channels: for each descriptor the channel and its mask. -/
abbrev Registry (κ : Type) := ℕ → Option (κ × BitVec 32)

namespace Registry

variable {κ : Type}

/-- What a call makes of the registered channels. -/
def apply (r : Registry κ) : PollerCall κ → Registry κ
  | .addChannel ptr ch | .updateChannel ptr ch => Function.update r ch.fd_ (some (ptr, ch.events_))
  | .removeChannel _ ch => Function.update r ch.fd_ none

/-- The asserted preconditions. -/
def Pre (r : Registry κ) : PollerCall κ → Prop
  | .addChannel _ ch => r ch.fd_ = none
  | .updateChannel ptr ch => (r ch.fd_).map Prod.fst = some ptr
  | .removeChannel ptr ch => (r ch.fd_).map Prod.fst = some ptr ∧ ch.isNoneEvent = true

/-- The registered channels with an interest, as pairs of descriptor and mask. -/
def interests (r : Registry κ) : Set (ℤ × BitVec 32) :=
  {x | ∃ fd : ℕ, ∃ ptr, r fd = some (ptr, x.2) ∧ x.2 ≠ 0 ∧ x.1 = fd}

end Registry

namespace PollPoller

variable {κ : Type} [DecidableEq κ] [Inhabited κ]

def call (p : PollPoller κ) : PollerCall κ → Except Fault (PollPoller κ)
  | .addChannel ptr ch => p.addChannel ptr ch
  | .updateChannel ptr ch => p.updateChannel ptr ch
  | .removeChannel ptr ch => p.removeChannel ptr ch

omit [DecidableEq κ] [Inhabited κ] in
/-- What `poll(2)` is asked for: the entries of `pollfds_` with a descriptor. -/
def interests (p : PollPoller κ) : Set (ℤ × BitVec 32) :=
  {x | ∃ pfd ∈ p.pollfds_, 0 ≤ pfd.fd ∧ x = (pfd.fd, pfd.events.signExtend 32)}

end PollPoller

namespace EPollPoller

variable {κ : Type} [DecidableEq κ]

def call (p : EPollPoller κ) : PollerCall κ → Except Fault (EPollPoller κ)
  | .addChannel ptr ch => p.addChannel ptr ch
  | .updateChannel ptr ch => p.updateChannel ptr ch
  | .removeChannel ptr ch => p.removeChannel ptr ch

/-- Every `epoll_ctl` that `update` has issued was valid when it was issued, and together they have
built the kernel's list from the empty one. -/
def Accepted (p : EPollPoller κ) : Prop := (EpollCtl.kernel κ).Run (fun _ => none) p.issued p.epoll

/-- The kernel's interest list. -/
def interests (p : EPollPoller κ) : Set (ℤ × BitVec 32) :=
  {x | ∃ fd : ℕ, ∃ ptr, p.epoll fd = some (ptr, x.2) ∧ x.1 = fd}

end EPollPoller

/-- A channel without interest has the empty mask. -/
lemma Channel.isNoneEvent_iff (ch : Channel) : ch.isNoneEvent = true ↔ ch.events_ = 0 := by
  unfold Channel.isNoneEvent Channel.kNoneEvent
  exact beq_iff_eq

/-! ## `EPollPoller` and the registry -/

namespace EPollPoller

variable {κ : Type}

/-- The entry of a registered channel. -/
def EntryOf (ptr : κ) (mask : BitVec 32) (e : Option (κ × ChannelState) × Option (κ × BitVec 32)) :
    Prop :=
  (mask = 0 ∧ ∃ state, state ≠ .ADDED ∧ e = (some (ptr, state), none)) ∨
    (mask ≠ 0 ∧ e = (some (ptr, .ADDED), some (ptr, mask)))

/-- The table and the kernel's list are those of the registered channels. -/
def Keeps (p : EPollPoller κ) (r : Registry κ) : Prop :=
  ∀ fd, (r fd = none → p.entry fd = (none, none)) ∧
    ∀ ptr mask, r fd = some (ptr, mask) → EntryOf ptr mask (p.entry fd)

section
variable {p : EPollPoller κ} {r : Registry κ} {ptr : κ} {ch : Channel} {mask : BitVec 32}

/-- Registering a channel, or another mask, is a change of one entry on both sides. -/
lemma Keeps.update (h : p.Keeps r) {e : Option (κ × ChannelState) × Option (κ × BitVec 32)}
    (he : EntryOf ptr mask e) (fd : ℕ) (ctls : List (EpollCtl κ)) :
    (p.setEntry fd e ctls).Keeps (Function.update r fd (some (ptr, mask))) := by
  intro fd'
  by_cases hfd : fd' = fd
  · rw [hfd, Function.update_self, entry_setEntry_self]
    refine ⟨(fun hn => nomatch hn), fun ptr' mask' heq => ?_⟩
    cases heq
    exact he
  · rw [Function.update_of_ne hfd, entry_setEntry_ne _ _ _ hfd]
    exact h fd'

/-- Taking a channel out is a change of one entry on both sides. -/
lemma Keeps.erase (h : p.Keeps r) (fd : ℕ) (ctls : List (EpollCtl κ)) :
    (p.setEntry fd (none, none) ctls).Keeps (Function.update r fd none) := by
  intro fd'
  by_cases hfd : fd' = fd
  · rw [hfd, Function.update_self, entry_setEntry_self]
    exact ⟨fun _ => rfl, fun ptr' mask' heq => by cases heq⟩
  · rw [Function.update_of_ne hfd, entry_setEntry_ne _ _ _ hfd]
    exact h fd'

/-- The entry of a descriptor becomes `e`, and the kernel carries out what is issued for that. -/
def Becomes (p : EPollPoller κ) (fd : ℕ) (e : Option (κ × ChannelState) × Option (κ × BitVec 32))
    (p' : EPollPoller κ) : Prop :=
  ∃ ctls, p' = p.setEntry fd e ctls ∧
    (EpollCtl.kernel κ).Run p.epoll ctls (Function.update p.epoll fd e.2)

/-- What is issued for a change of one entry is valid behind what was issued before. -/
lemma Becomes.accepted {fd : ℕ} {e : Option (κ × ChannelState) × Option (κ × BitVec 32)}
    {p' : EPollPoller κ} (h : p.Becomes fd e p') (haccepted : p.Accepted) : p'.Accepted := by
  obtain ⟨ctls, rfl, hrun⟩ := h
  exact haccepted.append hrun

variable [DecidableEq κ]

/-- What is issued depends on the state in the table, which agrees with the kernel's list. -/
lemma updateChannel_total (h : EntryOf ptr mask (p.entry ch.fd_)) :
    ∃ e p', p.updateChannel ptr ch = .ok p' ∧ p.Becomes ch.fd_ e p' ∧
      EntryOf ptr ch.events_ e := by
  by_cases hnone : ch.isNoneEvent = true
  · have hzero := (Channel.isNoneEvent_iff ch).mp hnone
    rcases h with ⟨-, state, hstate, hentry⟩ | ⟨-, hentry⟩
    · -- the kernel does not have the channel and need not
      obtain ⟨hchannel, hepoll⟩ := Prod.mk.inj hentry
      refine ⟨p.entry ch.fd_, p, ?_, ⟨[], (setEntry_entry p _).symm, ?_⟩,
        Or.inl ⟨hzero, state, hstate, hentry⟩⟩
      · have hnew : state = .NEW ∨ state = .DELETED := by cases state <;> simp_all
        simp only [updateChannel, hchannel, except_ok_bind, assertThat_pos, hnew, if_true, hnone,
          Bool.not_true, Bool.false_eq_true, if_false]
        rfl
      · rw [entry, Function.update_eq_self]
        exact .nil _
    · exact ⟨_, _, updateChannel_del hentry hnone,
        ⟨_, rfl, EpollCtl.run_del (Prod.mk.inj hentry).2⟩, Or.inl ⟨hzero, .DELETED, by decide, rfl⟩⟩
  · have hsome : ch.events_ ≠ 0 := fun hz => hnone ((Channel.isNoneEvent_iff ch).mpr hz)
    rw [Bool.not_eq_true] at hnone
    rcases h with ⟨-, state, hstate, hentry⟩ | ⟨-, hentry⟩
    · exact ⟨_, _, updateChannel_add hstate hentry hnone,
        ⟨_, rfl, EpollCtl.run_add (Prod.mk.inj hentry).2⟩, Or.inr ⟨hsome, rfl⟩⟩
    · exact ⟨_, _, updateChannel_mod hentry hnone,
        ⟨_, rfl, EpollCtl.run_mod (Prod.mk.inj hentry).2⟩, Or.inr ⟨hsome, rfl⟩⟩

/-- `addChannel` issues an `ADD` when the channel has an interest, and nothing otherwise. -/
lemma addChannel_total (h : p.entry ch.fd_ = (none, none)) :
    ∃ e p', p.addChannel ptr ch = .ok p' ∧ p.Becomes ch.fd_ e p' ∧ EntryOf ptr ch.events_ e := by
  obtain ⟨hchannel, hepoll⟩ := Prod.mk.inj h
  have hset : p.setState ch.fd_ ptr .NEW = p.setEntry ch.fd_ (some (ptr, .NEW), none) [] :=
    setState_eq hepoll
  have hnew : EntryOf ptr 0 ((p.setState ch.fd_ ptr .NEW).entry ch.fd_) := by
    rw [hset, entry_setEntry_self]
    exact Or.inl ⟨rfl, .NEW, by decide, rfl⟩
  obtain ⟨e, p', hupdate, ⟨ctls, hp', hrun⟩, he⟩ := updateChannel_total hnew
  refine ⟨e, p', ?_, ⟨ctls, ?_, hrun⟩, he⟩
  · rw [addChannel, assertThat_pos hchannel, except_ok_bind, hupdate]
  · rw [hp', hset, setEntry_setEntry, List.nil_append]

/-- A channel without interest is not in the kernel's list, so nothing is issued for its removal. -/
lemma removeChannel_total (h : EntryOf ptr mask (p.entry ch.fd_)) (hnone : ch.isNoneEvent = true) :
    ∃ p', p.removeChannel ptr ch = .ok p' ∧ p.Becomes ch.fd_ (none, none) p' := by
  rcases h with ⟨-, state, hstate, hentry⟩ | ⟨-, hentry⟩
  · obtain ⟨hchannel, hepoll⟩ := Prod.mk.inj hentry
    refine ⟨{ p with channels_ := Function.update p.channels_ ch.fd_ none }, ?_, [], ?_, ?_⟩
    · simp only [removeChannel, hchannel, except_ok_bind, assertThat_pos hnone, assertThat_pos,
        if_neg hstate]
      rfl
    · unfold setEntry
      simp only [← hepoll, Function.update_eq_self, List.append_nil]
    · rw [← hepoll, Function.update_eq_self]
      exact .nil _
  · -- a channel that the kernel still has is taken from it first
    obtain ⟨hchannel, hepoll⟩ := Prod.mk.inj hentry
    refine ⟨_, ?_, [⟨.DEL, ch.fd_, ptr, ch.events_⟩], rfl, EpollCtl.run_del hepoll⟩
    simp only [removeChannel, hchannel, except_ok_bind, assertThat_pos hnone, assertThat_pos,
      if_true, EPollPoller.update, EpollCtl.apply, hepoll]
    rfl

/-- Every call that respects the preconditions returns and keeps the agreement, and the kernel
carries out what it issues. -/
lemma Keeps.call (h : p.Keeps r) {c : PollerCall κ} (hpre : r.Pre c) :
    ∃ p', p.call c = .ok p' ∧ p'.Keeps (r.apply c) ∧ (p.Accepted → p'.Accepted) := by
  have hentry : ∀ {ptr : κ} {fd : ℕ}, (r fd).map Prod.fst = some ptr →
      ∃ mask, EntryOf ptr mask (p.entry fd) := by
    intro ptr fd hmap
    obtain ⟨⟨ptr', mask⟩, hr, hptr⟩ := Option.map_eq_some_iff.mp hmap
    exact ⟨mask, hptr ▸ (h fd).2 ptr' mask hr⟩
  cases c with
  | addChannel ptr ch =>
    obtain ⟨e, p', hadd, hbecomes, he⟩ := addChannel_total ((h ch.fd_).1 hpre)
    refine ⟨p', hadd, ?_, hbecomes.accepted⟩
    obtain ⟨ctls, rfl, -⟩ := hbecomes
    exact h.update he ch.fd_ ctls
  | updateChannel ptr ch =>
    obtain ⟨mask, hmask⟩ := hentry hpre
    obtain ⟨e, p', hupdate, hbecomes, he⟩ := updateChannel_total hmask
    refine ⟨p', hupdate, ?_, hbecomes.accepted⟩
    obtain ⟨ctls, rfl, -⟩ := hbecomes
    exact h.update he ch.fd_ ctls
  | removeChannel ptr ch =>
    obtain ⟨mask, hmask⟩ := hentry hpre.1
    obtain ⟨p', hremove, hbecomes⟩ := removeChannel_total hmask hpre.2
    refine ⟨p', hremove, ?_, hbecomes.accepted⟩
    obtain ⟨ctls, rfl, -⟩ := hbecomes
    exact h.erase ch.fd_ ctls

omit [DecidableEq κ] in
/-- The kernel's list has the interests of the registered channels. -/
lemma Keeps.interests_eq (h : p.Keeps r) : p.interests = r.interests := by
  ext ⟨x, mask⟩
  constructor
  · intro hx
    obtain ⟨fd, ptr, hepoll, hfd⟩ := hx
    have hne : p.entry fd ≠ (none, none) := fun heq => by
      rw [(Prod.mk.inj heq).2] at hepoll
      cases hepoll
    cases hr : r fd with
    | none => exact absurd ((h fd).1 hr) hne
    | some y =>
      obtain ⟨ptr', mask'⟩ := y
      rcases (h fd).2 ptr' mask' hr with ⟨-, state, -, hentry⟩ | ⟨hmask, hentry⟩
      · rw [(Prod.mk.inj hentry).2] at hepoll
        cases hepoll
      · rw [(Prod.mk.inj hentry).2] at hepoll
        cases hepoll
        exact ⟨fd, ptr, hr, hmask, hfd⟩
  · intro hx
    obtain ⟨fd, ptr, hr, hmask, hfd⟩ := hx
    rcases (h fd).2 ptr mask hr with ⟨hzero, -⟩ | ⟨-, hentry⟩
    · exact absurd hzero hmask
    · exact ⟨fd, ptr, (Prod.mk.inj hentry).2, hfd⟩

end

end EPollPoller

/-! ## `PollPoller` and the registry -/

/-- The descriptor that an entry of the array belongs to. -/
def Pollfd.owner (pfd : Pollfd) : ℕ := (if pfd.fd < 0 then Pollfd.ignored pfd.fd else pfd.fd).toNat

/-- The descriptor is there as it is, or negated. -/
lemma Pollfd.fd_of_owner (pfd : Pollfd) :
    pfd.fd = pfd.owner ∨ pfd.fd = Pollfd.ignored pfd.owner := by
  unfold Pollfd.owner Pollfd.ignored
  split <;> omega

namespace PollPoller

variable {κ : Type}

/-- An update seen through a projection. -/
lemma map_update {α β : Type} (π : α → β) (g : ℕ → Option α) (a : ℕ) (v : Option α) (b : ℕ) :
    (Function.update g a v b).map π = Function.update (fun b => (g b).map π) a (v.map π) b :=
  Function.apply_update (fun _ => Option.map π) g a v b

/-- The position of a channel can be told from its entry, whatever its interest. -/
lemma owner_pollfdOf (ch : Channel) : (pollfdOf ch).owner = ch.fd_ := by
  unfold Pollfd.owner pollfdOf Pollfd.ignored
  simp only
  split <;> split <;> omega

/-- Swapping with the last entry and dropping it is a removal. -/
lemma dropLast_iterSwap {pollfds : List Pollfd} {i : ℕ} (hlt : i < pollfds.length - 1) :
    (iterSwap pollfds i (pollfds.length - 1)).dropLast = DenseTable.swapRemove pollfds i := by
  have hi : i < pollfds.length := by omega
  have hlast : pollfds.length - 1 < pollfds.length := by omega
  unfold iterSwap DenseTable.swapRemove
  rw [List.getLast?_eq_getElem?, List.getElem?_eq_getElem hi, List.getElem?_eq_getElem hlast]
  simp only
  rw [List.dropLast_eq_take, List.dropLast_eq_take, List.length_set, List.length_set,
    List.take_set_of_le (le_refl _)]

/-- To remove the last entry is to drop it. -/
lemma dropLast_of_last {pollfds : List Pollfd} {back : Pollfd} {i : ℕ}
    (hback : pollfds.getLast? = some back) (hi : i = pollfds.length - 1) :
    pollfds.dropLast = DenseTable.swapRemove pollfds i := by
  unfold DenseTable.swapRemove
  rw [hback, hi]
  simp only
  rw [List.dropLast_eq_take, List.dropLast_eq_take, List.length_set,
    List.take_set_of_le (le_refl _)]

/-- The array has an entry for each registered channel, with its mask, and the map finds it. -/
structure Keeps (p : PollPoller κ) (r : Registry κ) : Prop where
  dense : DenseTable.Indexes (fun fd => (p.channels_ fd).map Prod.snd) p.pollfds_ Pollfd.owner
  channels : ∀ fd, (p.channels_ fd).map Prod.fst = (r fd).map Prod.fst
  shown : ∀ pfd ∈ p.pollfds_, ∃ ptr ch, r ch.fd_ = some (ptr, ch.events_) ∧ ch.Pollable ∧
    pfd.fd = (pollfdOf ch).fd ∧ pfd.events = (pollfdOf ch).events

/-- The entries of other descriptors are the same before and after. -/
def SameBeside (fd : ℕ) (p p' : PollPoller κ) : Prop :=
  ∀ pfd : Pollfd, pfd.owner ≠ fd → (pfd ∈ p'.pollfds_ ↔ pfd ∈ p.pollfds_)

section
variable {p : PollPoller κ} {r : Registry κ} {ptr : κ} {ch : Channel}

/-- A channel that is not registered is not in the table. -/
lemma Keeps.channels_eq_none (h : p.Keeps r) {fd : ℕ} (hr : r fd = none) : p.channels_ fd = none := by
  have := h.channels fd
  rw [hr] at this
  simpa using this

/-- A registered channel is in the table, with a position. -/
lemma Keeps.channels_eq_some (h : p.Keeps r) {fd : ℕ} (hr : (r fd).map Prod.fst = some ptr) :
    ∃ i, p.channels_ fd = some (ptr, i) := by
  have := h.channels fd
  rw [hr] at this
  obtain ⟨⟨ptr', i⟩, hi, hptr⟩ := Option.map_eq_some_iff.mp this
  exact ⟨i, by rw [hi]; exact congrArg (fun q => some (q, i)) hptr⟩

/-- An entry that is shown belongs to the registered channel of its descriptor. -/
lemma owner_of_shown {pfd : Pollfd} (h : pfd.fd = (pollfdOf ch).fd) : pfd.owner = ch.fd_ := by
  rw [← owner_pollfdOf ch, Pollfd.owner, h]
  rfl

/-- A channel is registered, or its mask changed, beside entries of other descriptors. -/
lemma shown_update {pfd : Pollfd} (hpollable : ch.Pollable)
    (hpfd : pfd = pollfdOf ch ∨ ((∃ ptr' ch', r ch'.fd_ = some (ptr', ch'.events_) ∧ ch'.Pollable ∧
      pfd.fd = (pollfdOf ch').fd ∧ pfd.events = (pollfdOf ch').events) ∧ pfd.owner ≠ ch.fd_)) :
    ∃ ptr' ch', Function.update r ch.fd_ (some (ptr, ch.events_)) ch'.fd_ =
      some (ptr', ch'.events_) ∧ ch'.Pollable ∧ pfd.fd = (pollfdOf ch').fd ∧
      pfd.events = (pollfdOf ch').events := by
  rcases hpfd with heq | ⟨⟨ptr', ch', hr, hp, hfd, hevents⟩, hne⟩
  · exact ⟨ptr, ch, Function.update_self .., hpollable, by rw [heq], by rw [heq]⟩
  · rw [owner_of_shown hfd] at hne
    exact ⟨ptr', ch', by rw [Function.update_of_ne hne]; exact hr, hp, hfd, hevents⟩

/-- `addChannel` puts the new entry at the end of the array. -/
lemma Keeps.addChannel (h : p.Keeps r) (hr : r ch.fd_ = none) (hpollable : ch.Pollable) :
    ∃ p', p.addChannel ptr ch = .ok p' ∧
      p'.Keeps (Function.update r ch.fd_ (some (ptr, ch.events_))) ∧ SameBeside ch.fd_ p p' := by
  have hnone := h.channels_eq_none hr
  refine ⟨_, by rw [PollPoller.addChannel, assertThat_pos hnone, except_ok_bind]; rfl,
    ⟨?_, ?_, ?_⟩, ?_⟩
  · have hdense := h.dense.push (x := pollfdOf ch) (a := ch.fd_) (by simp [hnone])
      (owner_pollfdOf ch)
    convert hdense using 1
    funext fd
    exact map_update ..
  · intro fd
    show (Function.update p.channels_ ch.fd_ _ fd).map Prod.fst = _
    rw [map_update, map_update]
    simp only [h.channels, Option.map_some]
  · intro pfd hpfd
    apply shown_update hpollable
    rcases List.mem_append.mp hpfd with hold | hnew
    · exact Or.inr ⟨h.shown pfd hold, h.dense.key_ne (by simp [hnone]) hold⟩
    · exact Or.inl (List.mem_singleton.mp hnew)
  · intro pfd hne
    show pfd ∈ p.pollfds_ ++ [pollfdOf ch] ↔ pfd ∈ p.pollfds_
    rw [List.mem_append, List.mem_singleton]
    refine or_iff_left fun heq => hne ?_
    rw [heq, owner_pollfdOf]

variable [DecidableEq κ]

/-- `updateChannel` changes the entry in its position. -/
lemma Keeps.updateChannel (h : p.Keeps r) (hr : (r ch.fd_).map Prod.fst = some ptr)
    (hpollable : ch.Pollable) : ∃ p', p.updateChannel ptr ch = .ok p' ∧
      p'.Keeps (Function.update r ch.fd_ (some (ptr, ch.events_))) ∧ SameBeside ch.fd_ p p' := by
  obtain ⟨i, hi⟩ := h.channels_eq_some hr
  have hindex : (p.channels_ ch.fd_).map Prod.snd = some i := by rw [hi]; rfl
  obtain ⟨pfd, hpfd, howner⟩ := h.dense.get hindex
  have hfd : pfd.fd = ch.fd_ ∨ pfd.fd = Pollfd.ignored ch.fd_ := by
    have := pfd.fd_of_owner
    rw [howner] at this
    exact this
  refine ⟨{ p with pollfds_ := p.pollfds_.set i (pollfdOf ch) }, ?_,
    ⟨h.dense.set hindex (owner_pollfdOf ch), ?_, ?_⟩, ?_⟩
  · simp only [PollPoller.updateChannel, hi, assertThat_pos, except_ok_bind, hpfd,
      assertThat_pos hfd]
    rfl
  · intro fd
    by_cases hfd' : fd = ch.fd_
    · rw [hfd', Function.update_self]
      show (p.channels_ ch.fd_).map Prod.fst = some ptr
      rw [hi]
      rfl
    · rw [Function.update_of_ne hfd']
      exact h.channels fd
  · intro pfd' hpfd'
    apply shown_update hpollable
    rcases (h.dense.mem_set hindex).mp hpfd' with hnew | ⟨hold, hne⟩
    · exact Or.inl hnew
    · exact Or.inr ⟨h.shown pfd' hold, hne⟩
  · intro pfd' hne
    rw [h.dense.mem_set hindex, and_iff_left hne]
    refine or_iff_right fun heq => hne ?_
    rw [heq, owner_pollfdOf]

variable [Inhabited κ]

/-- `removeChannel` puts the last entry in the place of the one removed. -/
lemma Keeps.removeChannel (h : p.Keeps r) (hr : (r ch.fd_).map Prod.fst = some ptr)
    (hnone : ch.isNoneEvent = true) : ∃ p', p.removeChannel ptr ch = .ok p' ∧
      p'.Keeps (Function.update r ch.fd_ none) ∧ SameBeside ch.fd_ p p' := by
  obtain ⟨i, hi⟩ := h.channels_eq_some hr
  have hindex : (p.channels_ ch.fd_).map Prod.snd = some i := by rw [hi]; rfl
  have hlt := h.dense.lt_length hindex
  obtain ⟨back, hback⟩ : ∃ back, p.pollfds_.getLast? = some back := by
    rw [← Option.isSome_iff_exists, List.getLast?_isSome]
    intro hnil
    rw [hnil] at hlt
    exact absurd hlt (Nat.not_lt_zero i)
  have hend : p.pollfds_[p.pollfds_.length - 1]? = some back := by
    rw [← List.getLast?_eq_getElem?]
    exact hback
  have hbackIndex : (p.channels_ back.owner).map Prod.snd = some (p.pollfds_.length - 1) :=
    h.dense.index_key hend
  have hdense := h.dense.swapRemove hindex hback
  have hshown : ∀ pfd ∈ DenseTable.swapRemove p.pollfds_ i, ∃ ptr' ch',
      Function.update r ch.fd_ none ch'.fd_ = some (ptr', ch'.events_) ∧ ch'.Pollable ∧
      pfd.fd = (pollfdOf ch').fd ∧ pfd.events = (pollfdOf ch').events := by
    intro pfd hpfd
    obtain ⟨hold, hne⟩ := (h.dense.mem_swapRemove hindex).mp hpfd
    obtain ⟨ptr', ch', hr', hp, hfd, hevents⟩ := h.shown pfd hold
    rw [owner_of_shown hfd] at hne
    exact ⟨ptr', ch', by rw [Function.update_of_ne hne]; exact hr', hp, hfd, hevents⟩
  have hbeside : ∀ pfd : Pollfd, pfd.owner ≠ ch.fd_ →
      (pfd ∈ DenseTable.swapRemove p.pollfds_ i ↔ pfd ∈ p.pollfds_) :=
    fun pfd hne => (h.dense.mem_swapRemove hindex).trans (and_iff_left hne)
  simp only [PollPoller.removeChannel, hi, assertThat_pos, except_ok_bind, assertThat_pos hnone,
    assertThat_pos hlt, hback]
  by_cases hmove : i < p.pollfds_.length - 1
  · rw [if_pos hmove, dropLast_iterSwap hmove]
    -- the last entry belongs to another channel
    have hne : back.owner ≠ ch.fd_ := by
      intro heq
      rw [heq, hindex, Option.some.injEq] at hbackIndex
      omega
    obtain ⟨⟨ptr', j⟩, hptr', -⟩ := Option.map_eq_some_iff.mp hbackIndex
    refine ⟨_, rfl, ⟨?_, ?_, hshown⟩, hbeside⟩
    · convert hdense using 1
      funext fd
      show (Function.update (Function.update p.channels_ ch.fd_ none) back.owner _ fd).map _ = _
      by_cases hfd : fd = back.owner
      · rw [hfd, Function.update_self, if_neg hne, if_pos rfl]
        rfl
      · rw [Function.update_of_ne hfd, if_neg hfd]
        by_cases hfd' : fd = ch.fd_
        · rw [hfd', Function.update_self, if_pos rfl]
          rfl
        · rw [Function.update_of_ne hfd', if_neg hfd']
    · intro fd
      show (Function.update (Function.update p.channels_ ch.fd_ none) back.owner _ fd).map _ = _
      by_cases hfd : fd = back.owner
      · rw [hfd, Function.update_self, Function.update_of_ne hne, ← h.channels]
        show some ((Function.update p.channels_ ch.fd_ none back.owner).getD (default, 0)).1 = _
        rw [Function.update_of_ne hne, hptr']
        rfl
      · rw [Function.update_of_ne hfd]
        by_cases hfd' : fd = ch.fd_
        · rw [hfd', Function.update_self, Function.update_self]
          rfl
        · rw [Function.update_of_ne hfd', Function.update_of_ne hfd']
          exact h.channels fd
  · have hlast : i = p.pollfds_.length - 1 := by omega
    have howner : back.owner = ch.fd_ := by
      obtain ⟨z, hz, hza⟩ := h.dense.get hindex
      rw [hlast, hend, Option.some.injEq] at hz
      rw [hz, hza]
    rw [if_neg hmove, dropLast_of_last hback hlast]
    refine ⟨_, rfl, ⟨?_, ?_, hshown⟩, hbeside⟩
    · convert hdense using 1
      funext fd
      show (Function.update p.channels_ ch.fd_ none fd).map _ = _
      by_cases hfd : fd = ch.fd_
      · rw [hfd, Function.update_self, if_pos rfl]
        rfl
      · rw [Function.update_of_ne hfd, if_neg hfd, howner, if_neg hfd]
    · intro fd
      show (Function.update p.channels_ ch.fd_ none fd).map Prod.fst = _
      rw [map_update, map_update]
      simp only [h.channels, Option.map_none]

/-- Every call that respects the preconditions returns and keeps the agreement, and it leaves the
entries of other descriptors. -/
lemma Keeps.call (h : p.Keeps r) {c : PollerCall κ} (hpre : r.Pre c) (hpollable : c.ch.Pollable) :
    ∃ p', p.call c = .ok p' ∧ p'.Keeps (r.apply c) ∧ SameBeside c.ch.fd_ p p' := by
  cases c with
  | addChannel ptr ch => exact h.addChannel hpre hpollable
  | updateChannel ptr ch => exact h.updateChannel hpre hpollable
  | removeChannel ptr ch => exact h.removeChannel hpre.1 hpre.2

omit [DecidableEq κ] [Inhabited κ] in
/-- The entries that `poll(2)` does not pass over are the interests of the registered channels. -/
lemma Keeps.interests_eq (h : p.Keeps r) : p.interests = r.interests := by
  ext ⟨x, mask⟩
  constructor
  · intro hx
    obtain ⟨pfd, hpfd, hpos, heq⟩ := hx
    obtain ⟨ptr, ch, hr, hpollable, hfd, hevents⟩ := h.shown pfd hpfd
    rw [Prod.mk.injEq, hevents, hfd] at heq
    obtain ⟨hx, hmask⟩ := heq
    have hmask : mask = ch.events_ := hmask.trans hpollable
    rw [hfd] at hpos
    simp only [pollfdOf] at hpos hx
    cases hnone : ch.isNoneEvent with
    | true =>
      -- the field would be negative
      exfalso
      simp only [hnone, if_true, Pollfd.ignored] at hpos
      omega
    | false =>
      simp only [hnone, Bool.false_eq_true, if_false] at hx
      refine ⟨ch.fd_, ptr, by rw [hmask]; exact hr, ?_, hx⟩
      intro hzero
      rw [(Channel.isNoneEvent_iff ch).mpr (hmask.symm.trans hzero)] at hnone
      cases hnone
  · intro hx
    obtain ⟨fd, ptr, hr, hmask, hx⟩ := hx
    obtain ⟨i, hi⟩ := h.channels_eq_some (show (r fd).map Prod.fst = some ptr by rw [hr]; rfl)
    obtain ⟨pfd, hpfd, howner⟩ := h.dense.get (show (p.channels_ fd).map Prod.snd = some i by
      rw [hi]; rfl)
    obtain ⟨ptr', ch, hr', hpollable, hfd, hevents⟩ := h.shown pfd (List.mem_of_getElem? hpfd)
    rw [← owner_of_shown hfd, howner, hr, Option.some.injEq, Prod.mk.injEq] at hr'
    have hsome : ch.isNoneEvent = false := by
      rw [Bool.eq_false_iff]
      intro hnone
      exact hmask (hr'.2.trans ((Channel.isNoneEvent_iff ch).mp hnone))
    have hfd' : pfd.fd = fd := by
      rw [hfd, ← howner, owner_of_shown hfd]
      simp only [pollfdOf, hsome, Bool.false_eq_true, if_false]
    refine ⟨pfd, List.mem_of_getElem? hpfd, by rw [hfd']; exact Int.natCast_nonneg fd, ?_⟩
    rw [hfd', hevents, Prod.mk.injEq]
    exact ⟨hx, hr'.2.trans hpollable.symm⟩

end

end PollPoller

/-! ## Side by side -/

/-- Both pollers, and the channels registered with them. -/
structure Pollers (κ : Type) where
  poll : PollPoller κ := {}
  epoll : EPollPoller κ := {}
  registered : Registry κ := fun _ => none

namespace Pollers

variable {κ : Type} [DecidableEq κ] [Inhabited κ]

/-- Every call goes to both. The mask fits a `struct pollfd`, as every mask that a `Channel` has does
(`Channel.Made.pollable`). -/
def machine (κ : Type) [DecidableEq κ] [Inhabited κ] :
    Machine (Pollers κ) (PollerCall κ) Fault where
  allowed s c := s.registered.Pre c ∧ c.ch.Pollable
  exec s c := do
    let poll ← s.poll.call c
    let epoll ← s.epoll.call c
    return ⟨poll, epoll, s.registered.apply c⟩

/-- Both pollers keep the interests of the registered channels. -/
def Agree (s : Pollers κ) : Prop :=
  s.poll.interests = s.epoll.interests ∧ s.epoll.interests = s.registered.interests

/-- A call that respects its precondition returns on both sides and keeps both. -/
lemma keeps_step {s : Pollers κ} {c : PollerCall κ} (hpoll : s.poll.Keeps s.registered)
    (hepoll : s.epoll.Keeps s.registered) (hallowed : (machine κ).allowed s c) :
    ∃ s', (machine κ).exec s c = .ok s' ∧ s'.poll.Keeps s'.registered ∧
      s'.epoll.Keeps s'.registered ∧ (s.epoll.Accepted → s'.epoll.Accepted) := by
  obtain ⟨hpre, hpollable⟩ := hallowed
  obtain ⟨p, hp, hkeeps, -⟩ := hpoll.call hpre hpollable
  obtain ⟨q, hq, hkeeps', haccepted⟩ := hepoll.call hpre
  refine ⟨⟨p, q, s.registered.apply c⟩, ?_, hkeeps, hkeeps', haccepted⟩
  show (do
    let poll ← s.poll.call c
    let epoll ← s.epoll.call c
    return ⟨poll, epoll, s.registered.apply c⟩ : Except Fault (Pollers κ)) = _
  rw [hp, except_ok_bind, hq, except_ok_bind]
  rfl

/-- **The two pollers agree** after every sequence of calls that respects the preconditions, the
kernel's list has been built by the calls of `epoll_ctl` that were issued, each of them valid, and
every next call of a member returns. -/
theorem agree_of_run {s : Pollers κ} {cs : List (PollerCall κ)}
    (hrun : (machine κ).Run {} cs s) :
    s.Agree ∧ s.epoll.Accepted ∧
      ∀ c, (machine κ).allowed s c → ∃ s', (machine κ).exec s c = .ok s' := by
  have hkeeps : s.poll.Keeps s.registered ∧ s.epoll.Keeps s.registered ∧ s.epoll.Accepted := by
    refine hrun.preserves (I := fun s => s.poll.Keeps s.registered ∧
      s.epoll.Keeps s.registered ∧ s.epoll.Accepted) ?_ ?_
    · refine ⟨⟨DenseTable.indexes_nil, fun fd => rfl, fun pfd hpfd => absurd hpfd ?_⟩, fun fd => ?_,
        .nil _⟩
      · exact List.not_mem_nil
      · exact ⟨fun _ => rfl, fun ptr mask heq => nomatch heq⟩
    · intro s c s' hI hallowed hexec
      obtain ⟨s₁, hexec₁, hpoll, hepoll, haccepted⟩ := keeps_step hI.1 hI.2.1 hallowed
      rw [hexec, Except.ok.injEq] at hexec₁
      subst hexec₁
      exact ⟨hpoll, hepoll, haccepted hI.2.2⟩
  obtain ⟨hpoll, hepoll, haccepted⟩ := hkeeps
  refine ⟨⟨hpoll.interests_eq.trans hepoll.interests_eq.symm, hepoll.interests_eq⟩, haccepted, ?_⟩
  intro c hallowed
  obtain ⟨s', hexec, -⟩ := keeps_step hpoll hepoll hallowed
  exact ⟨s', hexec⟩

instance (s : Pollers κ) (c : PollerCall κ) : Decidable ((machine κ).allowed s c) := by
  show Decidable (s.registered.Pre c ∧ (PollPoller.short c.ch.events_).signExtend 32 = c.ch.events_)
  cases c <;> unfold Registry.Pre <;> infer_instance

/-- Two channels come and go, and the first of them is removed while the second has the last
position of the array. -/
def comeAndGo : List (PollerCall ℕ) :=
  [.addChannel 1 ⟨7, 0⟩, .updateChannel 1 ⟨7, 3⟩, .addChannel 2 ⟨9, 0⟩, .updateChannel 2 ⟨9, 7⟩,
    .updateChannel 1 ⟨7, 0⟩, .updateChannel 1 ⟨7, 4⟩, .updateChannel 1 ⟨7, 0⟩,
    .removeChannel 1 ⟨7, 0⟩]

/-- The second channel is still registered, and five operations have been issued. -/
theorem agree_comeAndGo : ∃ s, (machine ℕ).Run {} comeAndGo s ∧ s.registered 9 = some (2, 7) ∧
    s.epoll.issued.map (fun ctl => (ctl.operation, ctl.fd)) =
      [(.ADD, 7), (.ADD, 9), (.DEL, 7), (.ADD, 7), (.DEL, 7)] ∧
    s.Agree ∧ s.epoll.Accepted ∧
      ∀ c, (machine ℕ).allowed s c → ∃ s', (machine ℕ).exec s c = .ok s' := by
  obtain ⟨s, hrun, hs⟩ := Machine.Run.of_replay_map (machine ℕ) {} comeAndGo
    (fun s => decide (s.registered 9 = some (2, 7) ∧
      s.epoll.issued.map (fun ctl => (ctl.operation, ctl.fd)) =
        [(.ADD, 7), (.ADD, 9), (.DEL, 7), (.ADD, 7), (.DEL, 7)])) (by decide +kernel)
  obtain ⟨hregistered, hissued⟩ := of_decide_eq_true hs
  exact ⟨s, hrun, hregistered, hissued, agree_of_run hrun⟩

end Pollers
end Miniduo
