import Miniduo.ChannelTheorems
import Miniduo.EventPollTheorems
import Miniduo.LifecycleTheorems

/-!
# From the kernel's events to handlers

The server's machine takes from `poll` which connections can be read and written. This file runs
`EPollPoller::poll` and `Channel::handleEvent` on what the kernel reports for a loop of the server,
and finds that they do what the machine's step says (`dispatches_of_run`).
-/

namespace Miniduo

/-- The callbacks that `TcpConnection` sets on its channel. -/
def TcpConnection.callbacks : ChannelCallback → Bool
  | .readCallback_ | .writeCallback_ => true
  | .closeCallback_ | .errorCallback_ => false

/-- What a callback of a connection's channel leads to. -/
def ChannelCallback.work (c : ConnId) : ChannelCallback → List Work
  | .readCallback_ => [.handleRead c]
  | .writeCallback_ => [.handleWrite c]
  | .closeCallback_ | .errorCallback_ => []

/-- The masks of a connection's channel. -/
lemma Stage.Fits.made {st : Stage} {conn : TcpConnection} (h : st.Fits conn) :
    conn.connChannel_.Made := by
  rw [Channel.made_iff]
  have hmask := h.mask
  cases st <;> simp only [Stage.masks, List.mem_cons, List.not_mem_nil, or_false] at hmask
  case up reading =>
    rcases hmask with hmask | hmask
    · exact Or.inr (Or.inl hmask)
    · exact Or.inr (Or.inr (Or.inr hmask))
  all_goals exact Or.inl hmask

namespace TcpServer

/-- What the machine is told of an active channel. -/
def readyOf (x : ConnId × BitVec 32) : Ready :=
  .conn x.1 (x.2 &&& (POLLIN ||| POLLPRI ||| POLLRDHUP) != 0) (x.2 &&& POLLOUT != 0)

/-- `Channel::fd()` of a connection's channel. -/
def channelFd (s : TcpServer) (c : ConnId) : ℕ := (s.conn c).connChannel_.fd_

/-- Whatever the kernel reports to loop `i`, `poll` returns, the machine may take what it finds, and
the machine's step leaves to be done what `handleEvent` calls. -/
def Dispatches (s : TcpServer) (i : ℕ) : Prop :=
  ∀ events_ ready fds, 0 < events_ → (s.poller i).Answers events_ ready fds →
    ∃ active s', (s.poller i).poll s.channelFd events_
        (some (fds.filterMap ((s.poller i).eventOf ready))) [] =
        .ok (if fds.length = events_ then events_ * 2 else events_, active) ∧
      machine.allowed s (.poll i (active.map readyOf)) ∧
      machine.exec s (.poll i (active.map readyOf)) = .ok s' ∧
      (s'.thread i).todo = active.flatMap fun x =>
        (Channel.handleEvent TcpConnection.callbacks x.2).flatMap (ChannelCallback.work x.1)

/-! ## `handleEvent` -/

lemma flatMap_handleEvent (c : ConnId) (revents : BitVec 32) :
    (Channel.handleEvent TcpConnection.callbacks revents).flatMap (ChannelCallback.work c) =
      (readyOf (c, revents)).work := by
  simp only [Channel.handleEvent, Channel.callIf, TcpConnection.callbacks, Bool.and_true,
    Bool.and_false, Bool.false_eq_true, if_false, List.nil_append, readyOf, Ready.work,
    List.flatMap_append]
  congr 1 <;> split <;> rfl

/-- A report that leads to a read or a write was asked for. -/
lemma reported_asked {ch : Channel} (h : ch.Made) (x : BitVec 32) :
    (reported ch.events_ x &&& (POLLIN ||| POLLPRI ||| POLLRDHUP) ≠ 0 →
      ch.events_ &&& Channel.kReadEvent ≠ 0) ∧
    (reported ch.events_ x &&& POLLOUT ≠ 0 → ch.events_ &&& Channel.kWriteEvent ≠ 0) := by
  have hmask : ∀ y : BitVec 32, reported ch.events_ x &&& y =
      x &&& ((ch.events_ ||| POLLALWAYS.setWidth 32) &&& y) := by
    intro y
    rw [reported, BitVec.and_assoc]
  rw [hmask, hmask]
  rcases h.events_mem with h | h | h | h <;> rw [h] <;> refine ⟨fun hne => ?_, fun hne => ?_⟩ <;>
    first
    | decide
    | exact absurd (BitVec.and_zero) hne

/-! ## `poll` of a loop -/

section
variable {s : TcpServer} {stage : ConnId → Stage} {i : ℕ} {ready : Readiness}

lemma Lifecycle.finds (h : s.Lifecycle stage) (hplaced : s.Placed) (i : ℕ) :
    (s.poller i).Finds s.channelFd := by
  intro fd c events hepoll
  obtain ⟨-, -, hchannel⟩ := h.kernel_live hplaced hepoll
  have hfd : (s.conn c).connChannel_.fd_ = fd := by rw [hchannel]
  refine ⟨hfd, .ADDED, ?_⟩
  have hepoll : (s.poller i).epoll (s.conn c).connChannel_.fd_ = some (c, events) := hfd ▸ hepoll
  obtain ⟨reading, hst⟩ := h.up_of_epoll hplaced hepoll
  obtain ⟨hc, rfl⟩ := hplaced.kernel i _ _ events hepoll
  have hentry := congrArg Prod.fst (h.entry c hc (by rw [hst]; simp))
  rw [hst, hfd] at hentry
  exact hentry

/-- A channel with an event may be read and written as the event says. -/
lemma Lifecycle.readyIn (h : s.Lifecycle stage) (hplaced : s.Placed) {fd : ℕ}
    {e : EpollEvent ConnId} (he : (s.poller i).eventOf ready fd = some e) :
    s.ReadyIn i (readyOf (e.ptr, e.events)) := by
  obtain ⟨mask, hepoll, hevents, -⟩ := EPollPoller.eventOf_eq_some_iff.mp he
  obtain ⟨-, -, hchannel⟩ := h.kernel_live hplaced hepoll
  have hfd : (s.conn e.ptr).connChannel_.fd_ = fd := by rw [hchannel]
  have hmask : (s.conn e.ptr).connChannel_.events_ = mask := by rw [hchannel]
  have hc := (hplaced.kernel i fd _ mask hepoll).1
  obtain ⟨hread, hwrite⟩ := reported_asked (h.fits _ hc).made (ready fd)
  rw [hmask, ← hevents] at hread hwrite
  unfold ReadyIn readyOf
  simp only [hfd, hepoll]
  exact ⟨trivial, fun hr => hread (by simpa using hr), fun hw => hwrite (by simpa using hw)⟩

lemma Lifecycle.dispatches (h : s.Lifecycle stage) (hplaced : s.Placed)
    (hphase : (s.thread i).phase = .polling) : s.Dispatches i := by
  intro events_ ready fds hpos hanswers
  have hfinds := h.finds hplaced i
  set active := (fds.filterMap ((s.poller i).eventOf ready)).map fun e => (e.ptr, e.events)
    with hactive
  have hready : ∀ r ∈ active.map readyOf, s.ReadyIn i r := by
    intro r hr
    obtain ⟨x, hx, rfl⟩ := List.mem_map.mp hr
    obtain ⟨e, he, rfl⟩ := List.mem_map.mp hx
    obtain ⟨fd, -, hfd⟩ := List.mem_filterMap.mp he
    exact h.readyIn hplaced hfd
  have hnodup : (active.map Prod.fst).Nodup := by
    rw [hactive, List.map_map]
    exact hfinds.nodup hanswers.nodup
  have hconns : ∀ f : Ready → Option ConnId, (∀ x, f (readyOf x) = some x.1) →
      (active.map readyOf).filterMap f = active.map Prod.fst := by
    intro f hf
    rw [List.filterMap_map, ← List.filterMap_eq_map]
    exact List.filterMap_congr fun x _ => hf x
  have hregistered : ∀ r ∈ active.map readyOf, s.Registered i r :=
    fun r hr => h.toStaged.registered hplaced (hready r hr)
  have hexec : machine.exec s (.poll i (active.map readyOf)) = .ok (s.setThread i
      { s.thread i with phase := .handlers, todo := (active.map readyOf).flatMap Ready.work }) := by
    show s.poll i _ = _
    rw [TcpServer.poll, assertThat_pos hregistered]
    rfl
  refine ⟨active, _, hfinds.poll_eq hanswers hpos [], ⟨hphase, ?_, ?_, hready⟩, hexec, ?_⟩
  · refine hnodup.of_map.map_on fun x hx y hy heq => ?_
    exact List.inj_on_of_nodup_map hnodup hx hy (Ready.conn.inj heq).1
  · rw [hconns _ fun _ => rfl]
    exact hnodup
  · rw [setThread_thread_self, List.flatMap_map]
    exact List.flatMap_congr fun x _ => (flatMap_handleEvent x.1 x.2).symm

end

variable {s : TcpServer} {size_ : ℕ} {name_ : Bytes} {callback : Bool} {as : List Action}

/-- **The step of the machine is what the poller and the channels do**, in every run in which fewer
than `2 ^ 31` connections are accepted: when a loop polls, no assertion of `poll` fails, and the
handlers that `handleEvent` calls are the work that the machine's step leaves. The poller holds the
channels of connections; those of the acceptor, the eventfd and the timerfd are not in it. -/
theorem dispatches_of_run (hrun : machine.Run (initial size_ name_ callback) as s)
    (hfew : machine.AllSteps Few (initial size_ name_ callback) as) {i : ℕ}
    (hphase : (s.thread i).phase = .polling) : s.Dispatches i := by
  obtain ⟨-, ⟨hplaced, -, stage, hlifecycle⟩, -⟩ := attended_of_run hrun hfew
  exact hlifecycle.dispatches hplaced hphase

/-- A loop with a connection comes back to `poll`. -/
def pollsAgain : List Action :=
  acceptOne ++ [.userReturns 0, .acceptorRead 0 none, .endHandlers 0, .swap 0, .endTasks 0]

theorem dispatches_pollsAgain : ∃ s, machine.Run (initial 0 [] false) pollsAgain s ∧
    (s.poller 0).epoll 7 = some (0, 3) ∧ s.Dispatches 0 := by
  obtain ⟨s, hrun, hs⟩ := Machine.Run.of_replay_map machine (initial 0 [] false) pollsAgain
    (fun s => decide ((s.poller 0).epoll 7 = some (0, 3) ∧ (s.thread 0).phase = .polling))
    (by decide +kernel)
  obtain ⟨hepoll, hphase⟩ := of_decide_eq_true hs
  exact ⟨s, hrun, hepoll, dispatches_of_run hrun (by decide +kernel) hphase⟩

end TcpServer
end Miniduo
