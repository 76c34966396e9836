import Miniduo.Poller
import Miniduo.Lib.DenseTable

/-!
# `PollPoller`

The poll poller of `poller.h` and `poller.cpp`: an array of `struct pollfd` for `poll(2)` and a map
from descriptors to positions in it.
-/

namespace Miniduo

/-- `struct pollfd`; its masks are `short`. -/
structure Pollfd where
  fd : ℤ
  events : BitVec 16
  revents : BitVec 16 := 0
deriving Repr, DecidableEq

def POLLERR : BitVec 16 := 0x008
def POLLHUP : BitVec 16 := 0x010
def POLLNVAL : BitVec 16 := 0x020

/-- `-fd-1`, which takes a descriptor to a negative number and back. -/
def Pollfd.ignored (fd : ℤ) : ℤ := -fd - 1

structure PollPoller (κ : Type) where
  pollfds_ : List Pollfd := []
  /-- For each descriptor the channel and its position in `pollfds_`. -/
  channels_ : ℕ → Option (κ × ℕ) := fun _ => none

namespace PollPoller

variable {κ : Type}

/-- `static_cast<short>(channel->events())`. -/
def short (events : BitVec 32) : BitVec 16 := events.truncate 16

/-- The `fd` field for a channel: `poll(2)` passes over a negative one. -/
def pollfdOf (ch : Channel) : Pollfd where
  fd := if ch.isNoneEvent then Pollfd.ignored ch.fd_ else ch.fd_
  events := short ch.events_

/-- `std::iter_swap`. -/
def iterSwap (pollfds : List Pollfd) (i j : ℕ) : List Pollfd :=
  match pollfds[i]?, pollfds[j]? with
  | some x, some y => (pollfds.set i y).set j x
  | _, _ => pollfds

def addChannel (p : PollPoller κ) (ptr : κ) (ch : Channel) : Except Fault (PollPoller κ) := do
  assertThat (p.channels_ ch.fd_ = none)
  return {
    pollfds_ := p.pollfds_ ++ [pollfdOf ch]
    channels_ := Function.update p.channels_ ch.fd_ (some (ptr, p.pollfds_.length)) }

variable [DecidableEq κ]

def updateChannel (p : PollPoller κ) (ptr : κ) (ch : Channel) : Except Fault (PollPoller κ) :=
  match p.channels_ ch.fd_ with
  | none => .error .assertFailed
  | some (ptr', idx) => do
    assertThat (ptr' = ptr)
    match p.pollfds_[idx]? with
    | none => .error .assertFailed
    | some pfd =>
      assertThat (pfd.fd = ch.fd_ ∨ pfd.fd = Pollfd.ignored ch.fd_)
      return { p with pollfds_ := p.pollfds_.set idx (pollfdOf ch) }

/-- A removed channel leaves its position to the last one. `channels_[endfd]` makes an entry with a
null pointer, `default`, where there is none. -/
def removeChannel [Inhabited κ] (p : PollPoller κ) (ptr : κ) (ch : Channel) :
    Except Fault (PollPoller κ) :=
  match p.channels_ ch.fd_ with
  | none => .error .assertFailed
  | some (ptr', idx) => do
    assertThat (ptr' = ptr)
    assertThat (ch.isNoneEvent = true)
    assertThat (idx < p.pollfds_.length)
    let channels_ := Function.update p.channels_ ch.fd_ none
    let size := p.pollfds_.length
    match p.pollfds_.getLast? with
    | none => .error .outOfBounds
    | some back =>
      if idx < size - 1 then
        let endfd := (if back.fd < 0 then Pollfd.ignored back.fd else back.fd).toNat
        let entry := (channels_ endfd).getD (default, 0)
        return {
          pollfds_ := (iterSwap p.pollfds_ idx (size - 1)).dropLast
          channels_ := Function.update channels_ endfd (some (entry.1, idx)) }
      else return { pollfds_ := p.pollfds_.dropLast, channels_ := channels_ }

/-! ## `poll` -/

omit [DecidableEq κ] in
/-- `channels_.find(fd)`; no key is negative. -/
def find (p : PollPoller κ) (fd : ℤ) : Option (κ × ℕ) :=
  if fd < 0 then none else p.channels_ fd.toNat

omit [DecidableEq κ] in
/-- The loop of `fillActiveChannels` from an entry on. An active channel is put down with its
`revents_`; `fd` is `Channel::fd()`. -/
def fillFrom (fd : κ → ℕ) (p : PollPoller κ) :
    List Pollfd → ℤ → List (κ × BitVec 32) → Except Fault (List (κ × BitVec 32))
  | [], _, activeChannels => return activeChannels
  | pfd :: pfds, numEvents, activeChannels =>
    if numEvents > 0 then
      if pfd.revents.toInt > 0 then
        match p.find pfd.fd with
        | none => .error .assertFailed
        | some (channel, _) => do
          assertThat ((fd channel : ℤ) = pfd.fd)
          p.fillFrom fd pfds (numEvents - 1)
            (activeChannels ++ [(channel, pfd.revents.signExtend 32)])
      else p.fillFrom fd pfds numEvents activeChannels
    else return activeChannels

omit [DecidableEq κ] in
def fillActiveChannels (fd : κ → ℕ) (p : PollPoller κ) (numEvents : ℤ)
    (activeChannels : List (κ × BitVec 32)) : Except Fault (List (κ × BitVec 32)) :=
  p.fillFrom fd p.pollfds_ numEvents activeChannels

omit [DecidableEq κ] in
/-- `poll`, where `poll(2)` returns `numEvents` and leaves `pollfds` in the array. -/
def poll (fd : κ → ℕ) (p : PollPoller κ) (pollfds : List Pollfd) (numEvents : ℤ)
    (activeChannels : List (κ × BitVec 32)) :
    Except Fault (PollPoller κ × List (κ × BitVec 32)) := do
  let p := { p with pollfds_ := pollfds }
  if numEvents > 0 then
    let activeChannels ← p.fillActiveChannels fd numEvents activeChannels
    return (p, activeChannels)
  else return (p, activeChannels)

end PollPoller
end Miniduo
