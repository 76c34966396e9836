import Miniduo.PollPoller

/-!
# Polling and dispatch

`EPollPoller::poll` and `fillActiveChannels` of `poller.cpp`, and `Channel::handleEvent` of
`channel.cpp`, which works off what a poller has found. What the kernel returns is a parameter.
-/

namespace Miniduo

/-! ## `Channel::handleEvent` -/

def POLLRDHUP : BitVec 32 := 0x2000

inductive ChannelCallback
  | closeCallback_ | errorCallback_ | readCallback_ | writeCallback_
deriving Repr, DecidableEq

namespace Channel

/-- `if(event) { if(callback) callback(); }`, where `set` says which callbacks are set. -/
def callIf (set : ChannelCallback → Bool) (event : Bool) (callback : ChannelCallback) :
    List ChannelCallback :=
  if event && set callback then [callback] else []

/-- The callbacks that `handleEvent` calls, in their order. -/
def handleEvent (set : ChannelCallback → Bool) (revents_ : BitVec 32) : List ChannelCallback :=
  callIf set (revents_ &&& POLLHUP.setWidth 32 != 0 && revents_ &&& POLLIN == 0) .closeCallback_ ++
  callIf set (revents_ &&& (POLLERR ||| POLLNVAL).setWidth 32 != 0) .errorCallback_ ++
  callIf set (revents_ &&& (POLLIN ||| POLLPRI ||| POLLRDHUP) != 0) .readCallback_ ++
  callIf set (revents_ &&& POLLOUT != 0) .writeCallback_

end Channel

/-! ## `EPollPoller::poll` -/

/-- `struct epoll_event`. -/
structure EpollEvent (κ : Type) where
  events : BitVec 32
  ptr : κ
deriving DecidableEq

namespace EPollPoller

def kInitEventListSize : ℕ := 16

variable {κ : Type} [DecidableEq κ]

/-- The loop of `fillActiveChannels`. An active channel is put down with its `revents_`; `fd` is
`Channel::fd()`. -/
def fillFrom (fd : κ → ℕ) (p : EPollPoller κ) :
    List (EpollEvent κ) → List (κ × BitVec 32) → Except Fault (List (κ × BitVec 32))
  | [], activeChannels => return activeChannels
  | e :: events, activeChannels =>
    match p.channels_ (fd e.ptr) with
    | none => .error .assertFailed
    | some (channel, _) => do
      assertThat (channel = e.ptr)
      p.fillFrom fd events (activeChannels ++ [(e.ptr, e.events)])

/-- `fillActiveChannels`, where the first elements of the array are `events`; `events_` is the size
of the array. -/
def fillActiveChannels (fd : κ → ℕ) (p : EPollPoller κ) (events_ : ℕ)
    (events : List (EpollEvent κ)) (activeChannels : List (κ × BitVec 32)) :
    Except Fault (List (κ × BitVec 32)) := do
  assertThat (events.length ≤ events_)
  p.fillFrom fd events activeChannels

/-- `poll`, where `epoll_wait` has stored `events` in the array, or failed: the size of the array
behind it, which doubles when it was full, and the active channels. -/
def poll (fd : κ → ℕ) (p : EPollPoller κ) (events_ : ℕ) (result : Option (List (EpollEvent κ)))
    (activeChannels : List (κ × BitVec 32)) : Except Fault (ℕ × List (κ × BitVec 32)) :=
  match result with
  | none => return (events_, activeChannels)
  | some events =>
    if events.length > 0 then do
      let activeChannels ← p.fillActiveChannels fd events_ events activeChannels
      return (if events.length = events_ then events_ * 2 else events_, activeChannels)
    else return (events_, activeChannels)

end EPollPoller
end Miniduo
