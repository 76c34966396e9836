import Miniduo.Basic

/-!
# `Channel` and `EPollPoller`

The interest of a channel (`channel.h`, `channel.cpp`) and the epoll poller of `poller.h` and
`poller.cpp`, with the interest list that the kernel keeps for it. A channel is named by an
arbitrary type `κ`, which stands for its address.
-/

namespace Miniduo

/-! ## `Channel` -/

def POLLIN : BitVec 32 := 0x001
def POLLPRI : BitVec 32 := 0x002
def POLLOUT : BitVec 32 := 0x004

structure Channel where
  fd_ : ℕ
  events_ : BitVec 32 := 0
deriving Repr, DecidableEq

namespace Channel

def kNoneEvent : BitVec 32 := 0
def kReadEvent : BitVec 32 := POLLIN ||| POLLPRI
def kWriteEvent : BitVec 32 := POLLOUT

def isNoneEvent (ch : Channel) : Bool := ch.events_ == kNoneEvent
def isWriting (ch : Channel) : Bool := ch.events_ &&& kWriteEvent != 0

/-- The mask after `enableReading(enable)`; the caller passes it on with `update()`. -/
def enableReading (ch : Channel) (enable : Bool) : Channel :=
  if enable then { ch with events_ := ch.events_ ||| kReadEvent }
  else { ch with events_ := ch.events_ &&& ~~~kReadEvent }

def enableWriting (ch : Channel) (enable : Bool) : Channel :=
  if enable then { ch with events_ := ch.events_ ||| kWriteEvent }
  else { ch with events_ := ch.events_ &&& ~~~kWriteEvent }

def disableAll (ch : Channel) : Channel := { ch with events_ := kNoneEvent }

@[simp] lemma enableReading_fd (ch : Channel) (enable : Bool) :
    (ch.enableReading enable).fd_ = ch.fd_ := by
  unfold enableReading
  split <;> rfl

@[simp] lemma enableWriting_fd (ch : Channel) (enable : Bool) :
    (ch.enableWriting enable).fd_ = ch.fd_ := by
  unfold enableWriting
  split <;> rfl

@[simp] lemma disableAll_fd (ch : Channel) : ch.disableAll.fd_ = ch.fd_ := rfl

@[simp] lemma isWriting_enableWriting_true (ch : Channel) :
    (ch.enableWriting true).isWriting = true := by
  simp only [isWriting, enableWriting, if_true, bne_iff_ne, ne_eq]
  intro h
  -- the bit of `POLLOUT`
  have hbit := congrArg (fun x => x.getLsbD 2) h
  simp [kWriteEvent, POLLOUT] at hbit

end Channel

/-! ## `EPollPoller` -/

inductive ChannelState
  | NEW | ADDED | DELETED
deriving Repr, DecidableEq

inductive EpollOp
  | ADD | MOD | DEL
deriving Repr, DecidableEq

/-- A call of `epoll_ctl`: the operation, the descriptor and the event. -/
structure EpollCtl (κ : Type) where
  operation : EpollOp
  fd : ℕ
  ptr : κ
  events : BitVec 32
deriving DecidableEq

/-- For each descriptor of an epoll instance `data.ptr` and `events`. -/
abbrev InterestList (κ : Type) := ℕ → Option (κ × BitVec 32)

/-- `epoll_ctl(2)`. A call that the kernel refuses (`EEXIST`, `ENOENT`) changes nothing. -/
def EpollCtl.apply {κ : Type} (ctl : EpollCtl κ) (list : InterestList κ) : InterestList κ :=
  match ctl.operation, list ctl.fd with
  | .ADD, none => Function.update list ctl.fd (some (ctl.ptr, ctl.events))
  | .MOD, some _ => Function.update list ctl.fd (some (ctl.ptr, ctl.events))
  | .DEL, some _ => Function.update list ctl.fd none
  | _, _ => list

/-- `epoll_ctl` is about the given descriptor and channel only. -/
lemma EpollCtl.apply_cases {κ : Type} (ctl : EpollCtl κ) (list : InterestList κ) (fd : ℕ) :
    ctl.apply list fd = list fd ∨ ctl.apply list fd = none ∨
      ctl.apply list fd = some (ctl.ptr, ctl.events) := by
  have happly : ctl.apply list = list ∨ ∃ x, ctl.apply list = Function.update list ctl.fd x ∧
      (x = none ∨ x = some (ctl.ptr, ctl.events)) := by
    unfold apply
    split
    · exact Or.inr ⟨_, rfl, Or.inr rfl⟩
    · exact Or.inr ⟨_, rfl, Or.inr rfl⟩
    · exact Or.inr ⟨_, rfl, Or.inl rfl⟩
    · exact Or.inl rfl
  rcases happly with hrefused | ⟨x, hx, hcases⟩
  · exact Or.inl (congrFun hrefused fd)
  · by_cases hfd : fd = ctl.fd
    · rw [hx, hfd, Function.update_self]
      exact Or.inr hcases
    · rw [hx, Function.update_of_ne hfd]
      exact Or.inl rfl

structure EPollPoller (κ : Type) where
  channels_ : ℕ → Option (κ × ChannelState) := fun _ => none
  /-- The interest list behind `epollfd_`. -/
  epoll : InterestList κ := fun _ => none
  /-- The calls of `epoll_ctl` that `update` has made so far. -/
  issued : List (EpollCtl κ) := []

namespace EPollPoller

variable {κ : Type}

/-- `update`: one `epoll_ctl`, whose failure is logged and nothing else. -/
def update (p : EPollPoller κ) (operation : EpollOp) (ptr : κ) (ch : Channel) : EPollPoller κ :=
  let ctl : EpollCtl κ := ⟨operation, ch.fd_, ptr, ch.events_⟩
  { p with epoll := ctl.apply p.epoll, issued := p.issued ++ [ctl] }

def setState (p : EPollPoller κ) (fd : ℕ) (ptr : κ) (state : ChannelState) : EPollPoller κ :=
  { p with channels_ := Function.update p.channels_ fd (some (ptr, state)) }

variable [DecidableEq κ]

def updateChannel (p : EPollPoller κ) (ptr : κ) (ch : Channel) : Except Fault (EPollPoller κ) :=
  match p.channels_ ch.fd_ with
  | none => .error .assertFailed
  | some (ptr', state) => do
    assertThat (ptr' = ptr)
    if state = .NEW ∨ state = .DELETED then
      if !ch.isNoneEvent then return (p.setState ch.fd_ ptr .ADDED).update .ADD ptr ch
      else return p
    else
      if !ch.isNoneEvent then return p.update .MOD ptr ch
      else return (p.setState ch.fd_ ptr .DELETED).update .DEL ptr ch

def addChannel (p : EPollPoller κ) (ptr : κ) (ch : Channel) : Except Fault (EPollPoller κ) := do
  assertThat (p.channels_ ch.fd_ = none)
  (p.setState ch.fd_ ptr .NEW).updateChannel ptr ch

def removeChannel (p : EPollPoller κ) (ptr : κ) (ch : Channel) : Except Fault (EPollPoller κ) :=
  match p.channels_ ch.fd_ with
  | none => .error .assertFailed
  | some (ptr', state) => do
    assertThat (ptr' = ptr)
    assertThat (ch.isNoneEvent = true)
    let p := if state = .ADDED then p.update .DEL ptr ch else p
    return { p with channels_ := Function.update p.channels_ ch.fd_ none }

/-! ## What a call does to the entry of its descriptor -/

/-- What the poller and the kernel know about a descriptor. -/
def entry (p : EPollPoller κ) (fd : ℕ) : Option (κ × ChannelState) × Option (κ × BitVec 32) :=
  (p.channels_ fd, p.epoll fd)

/-- The poller with another entry for a descriptor, and the calls of `epoll_ctl` made for it. -/
def setEntry (p : EPollPoller κ) (fd : ℕ)
    (e : Option (κ × ChannelState) × Option (κ × BitVec 32)) (ctls : List (EpollCtl κ)) :
    EPollPoller κ :=
  ⟨Function.update p.channels_ fd e.1, Function.update p.epoll fd e.2, p.issued ++ ctls⟩

section
variable (p : EPollPoller κ) (e e' : Option (κ × ChannelState) × Option (κ × BitVec 32))
  (ctls ctls' : List (EpollCtl κ))
omit [DecidableEq κ]

@[simp] lemma entry_setEntry_self (fd : ℕ) : (p.setEntry fd e ctls).entry fd = e := by
  simp [entry, setEntry]

lemma entry_setEntry_ne {fd fd' : ℕ} (h : fd' ≠ fd) :
    (p.setEntry fd e ctls).entry fd' = p.entry fd' := by
  simp [entry, setEntry, h]

lemma setEntry_entry (fd : ℕ) : p.setEntry fd (p.entry fd) [] = p := by
  simp [setEntry, entry]

lemma setEntry_setEntry (fd : ℕ) :
    (p.setEntry fd e ctls).setEntry fd e' ctls' = p.setEntry fd e' (ctls ++ ctls') := by
  simp [setEntry]

end

section
variable {p : EPollPoller κ} {ptr : κ} {ch : Channel}

/-- A channel that is new or was taken out is given to the kernel once it has an interest. -/
lemma updateChannel_add {state : ChannelState} (hne : state ≠ .ADDED)
    (hentry : p.entry ch.fd_ = (some (ptr, state), none)) (hsome : ch.isNoneEvent = false) :
    p.updateChannel ptr ch =
      .ok (p.setEntry ch.fd_ (some (ptr, .ADDED), some (ptr, ch.events_))
        [⟨.ADD, ch.fd_, ptr, ch.events_⟩]) := by
  obtain ⟨hchannel, hepoll⟩ := Prod.mk.inj hentry
  have hstate : state = .NEW ∨ state = .DELETED := by
    cases state with
    | NEW => exact Or.inl rfl
    | ADDED => exact absurd rfl hne
    | DELETED => exact Or.inr rfl
  simp only [updateChannel, hchannel, if_pos hstate, hsome, Bool.not_false, if_true]
  have hupdate : ((p.setState ch.fd_ ptr .ADDED).update .ADD ptr ch) =
      p.setEntry ch.fd_ (some (ptr, .ADDED), some (ptr, ch.events_))
        [⟨.ADD, ch.fd_, ptr, ch.events_⟩] := by
    unfold update EpollCtl.apply setState setEntry
    simp only [hepoll]
  rw [hupdate]
  rfl

/-- The kernel follows the interest of a channel it has. -/
lemma updateChannel_mod {events : BitVec 32}
    (hentry : p.entry ch.fd_ = (some (ptr, .ADDED), some (ptr, events)))
    (hsome : ch.isNoneEvent = false) :
    p.updateChannel ptr ch =
      .ok (p.setEntry ch.fd_ (some (ptr, .ADDED), some (ptr, ch.events_))
        [⟨.MOD, ch.fd_, ptr, ch.events_⟩]) := by
  obtain ⟨hchannel, hepoll⟩ := Prod.mk.inj hentry
  simp only [updateChannel, hchannel, reduceCtorEq, or_self, if_false, hsome, Bool.not_false,
    if_true]
  have hupdate : p.update .MOD ptr ch =
      p.setEntry ch.fd_ (some (ptr, .ADDED), some (ptr, ch.events_))
        [⟨.MOD, ch.fd_, ptr, ch.events_⟩] := by
    unfold update EpollCtl.apply setEntry
    simp only [hepoll, ← hchannel, Function.update_eq_self]
  rw [hupdate]
  rfl

/-- A channel without interest is taken from the kernel and stays in the table. -/
lemma updateChannel_del {events : BitVec 32}
    (hentry : p.entry ch.fd_ = (some (ptr, .ADDED), some (ptr, events)))
    (hnone : ch.isNoneEvent = true) :
    p.updateChannel ptr ch = .ok (p.setEntry ch.fd_ (some (ptr, .DELETED), none)
      [⟨.DEL, ch.fd_, ptr, ch.events_⟩]) := by
  obtain ⟨hchannel, hepoll⟩ := Prod.mk.inj hentry
  simp only [updateChannel, hchannel, reduceCtorEq, or_self, if_false, hnone, Bool.not_true,
    Bool.false_eq_true]
  have hupdate : (p.setState ch.fd_ ptr .DELETED).update .DEL ptr ch =
      p.setEntry ch.fd_ (some (ptr, .DELETED), none) [⟨.DEL, ch.fd_, ptr, ch.events_⟩] := by
    unfold update EpollCtl.apply setState setEntry
    simp only [hepoll]
  rw [hupdate]
  rfl

omit [DecidableEq κ] in
/-- `setState` is about the table only. -/
lemma setState_eq {fd : ℕ} {state : ChannelState} (hepoll : p.epoll fd = none) :
    p.setState fd ptr state = p.setEntry fd (some (ptr, state), none) [] := by
  unfold setState setEntry
  simp only [← hepoll, Function.update_eq_self, List.append_nil]

/-- A descriptor that is not in the table gets an entry, and a channel without interest stays out
of the kernel's list. -/
lemma addChannel_none (hentry : p.entry ch.fd_ = (none, none)) (hnone : ch.isNoneEvent = true) :
    p.addChannel ptr ch = .ok (p.setEntry ch.fd_ (some (ptr, .NEW), none) []) := by
  obtain ⟨hchannel, hepoll⟩ := Prod.mk.inj hentry
  have hnew : (p.setState ch.fd_ ptr .NEW).channels_ ch.fd_ = some (ptr, .NEW) :=
    Function.update_self ..
  simp only [addChannel, assertThat_pos hchannel, except_ok_bind, updateChannel, hnew, hnone,
    Bool.not_true, Bool.false_eq_true, if_false, true_or, if_true]
  rw [setState_eq hepoll]
  rfl

/-- A channel that was taken from the kernel is erased. -/
lemma removeChannel_deleted (hentry : p.entry ch.fd_ = (some (ptr, .DELETED), none))
    (hnone : ch.isNoneEvent = true) :
    p.removeChannel ptr ch = .ok (p.setEntry ch.fd_ (none, none) []) := by
  obtain ⟨hchannel, hepoll⟩ := Prod.mk.inj hentry
  simp only [removeChannel, hchannel, except_ok_bind, assertThat_pos hnone, reduceCtorEq, if_false]
  have hset : ({ p with channels_ := Function.update p.channels_ ch.fd_ none } : EPollPoller κ) =
      p.setEntry ch.fd_ (none, none) [] := by
    unfold setEntry
    simp only [← hepoll, Function.update_eq_self, List.append_nil]
  rw [← hset]
  rfl

/-- Between the two pollers the kernel has learnt of no other channel than `ptr`. -/
def Learns (p : EPollPoller κ) (ptr : κ) (p' : EPollPoller κ) : Prop :=
  ∀ fd x, p'.epoll fd = some x → p.epoll fd = some x ∨ x.1 = ptr

omit [DecidableEq κ] in
lemma Learns.refl (p : EPollPoller κ) (ptr : κ) : p.Learns ptr p := fun _ _ h => Or.inl h

omit [DecidableEq κ] in
lemma Learns.trans {p' p'' : EPollPoller κ} (h : p.Learns ptr p') (h' : p'.Learns ptr p'') :
    p.Learns ptr p'' := by
  intro fd x hx
  rcases h' fd x hx with hx | hx
  · exact h fd x hx
  · exact Or.inr hx

omit [DecidableEq κ] in
lemma update_learns (operation : EpollOp) : p.Learns ptr (p.update operation ptr ch) := by
  intro fd x hx
  rcases EpollCtl.apply_cases ⟨operation, ch.fd_, ptr, ch.events_⟩ p.epoll fd with
    hsame | hnone | hgiven
  · exact Or.inl (hsame.symm.trans hx)
  · exact nomatch hnone.symm.trans hx
  · rw [Option.some.inj (hx.symm.trans hgiven)]
    exact Or.inr rfl

lemma updateChannel_learns {p' : EPollPoller κ} (h : p.updateChannel ptr ch = .ok p') :
    p.Learns ptr p' := by
  have hset : ∀ state, p.Learns ptr (p.setState ch.fd_ ptr state) := fun _ _ _ hx => Or.inl hx
  unfold updateChannel at h
  split at h
  · cases h
  · obtain ⟨-, -, h⟩ := except_bind_eq_ok.mp h
    split at h <;> split at h <;> rw [← Except.ok.inj h]
    · exact (hset _).trans (update_learns _)
    · exact .refl p ptr
    · exact update_learns _
    · exact (hset _).trans (update_learns _)

lemma addChannel_learns {p' : EPollPoller κ} (h : p.addChannel ptr ch = .ok p') :
    p.Learns ptr p' := by
  obtain ⟨-, -, h⟩ := except_bind_eq_ok.mp h
  have hset : p.Learns ptr (p.setState ch.fd_ ptr .NEW) := fun _ _ hx => Or.inl hx
  exact hset.trans (updateChannel_learns h)

lemma removeChannel_learns {p' : EPollPoller κ} (h : p.removeChannel ptr ch = .ok p') :
    p.Learns ptr p' := by
  unfold removeChannel at h
  split at h
  · cases h
  · obtain ⟨-, -, h⟩ := except_bind_eq_ok.mp h
    obtain ⟨-, -, h⟩ := except_bind_eq_ok.mp h
    rw [← Except.ok.inj h]
    split
    · exact update_learns _
    · exact .refl p ptr

end

end EPollPoller
end Miniduo
