import Miniduo.Basic

/-!
# `Buffer`

The byte buffer of `buffer.h` and `buffer.cpp`: a vector with two indices. A pointer into
the vector is its offset from `begin()`. Every copy checks that its target lies inside the
vector and faults with `outOfBounds` where it does not.
-/

namespace Miniduo

/-! ## Copies and `resize` -/

/-- The bytes `[first, last)` of a vector. -/
def copyOut (v : Bytes) (first last : ℕ) : Except Fault Bytes :=
  if first ≤ last ∧ last ≤ v.length then .ok ((v.drop first).take (last - first))
  else .error .outOfBounds

/-- `std::copy` of `data` to offset `at_` of a vector. The source may overlap the target: it is
read before anything is written, as `memmove` does for `char`. -/
def copyIn (v : Bytes) (at_ : ℕ) (data : Bytes) : Except Fault Bytes :=
  if at_ + data.length ≤ v.length then
    .ok (v.take at_ ++ data ++ v.drop (at_ + data.length))
  else .error .outOfBounds

/-- `vector::resize`: cut, or filled up with zeros. -/
def resize (v : Bytes) (n : ℕ) : Except Fault Bytes :=
  if n ≤ maxSize then .ok (v.take n ++ List.replicate (n - v.length) 0)
  else .error .lengthError

/-! ## The class -/

structure Buffer where
  buffer_ : Bytes
  readerIndex_ : ℕ
  writerIndex_ : ℕ
deriving Repr, DecidableEq

namespace Buffer

def kCheapPrepend : ℕ := 8
def kInitialSize : ℕ := 1024

/-- `Buffer::Buffer`. -/
def fresh : Buffer :=
  ⟨List.replicate (kCheapPrepend + kInitialSize) 0, kCheapPrepend, kCheapPrepend⟩

/-- `swap(rhs)`: the three members are exchanged one after the other. -/
def swap (b rhs : Buffer) : Buffer × Buffer :=
  (⟨rhs.buffer_, rhs.readerIndex_, rhs.writerIndex_⟩, ⟨b.buffer_, b.readerIndex_, b.writerIndex_⟩)

def readableBytes (b : Buffer) : ℕ := SizeT.sub b.writerIndex_ b.readerIndex_
def writableBytes (b : Buffer) : ℕ := SizeT.sub b.buffer_.length b.writerIndex_
def prependableBytes (b : Buffer) : ℕ := SizeT.sub b.readerIndex_ 0

/-- The readable bytes, from `beginRead()` up to `beginWrite()`. -/
def readable (b : Buffer) : Bytes :=
  (b.buffer_.drop b.readerIndex_).take (b.writerIndex_ - b.readerIndex_)

def retrieveAll (b : Buffer) : Buffer :=
  { b with readerIndex_ := kCheapPrepend, writerIndex_ := kCheapPrepend }

/-- The tail that `retrieve` and `retrieveUntil` share. -/
def resetIfEmpty (b : Buffer) : Buffer :=
  if b.readerIndex_ = b.writerIndex_ then b.retrieveAll else b

def retrieve (b : Buffer) (len : ℕ) : Except Fault Buffer := do
  assertThat (b.readableBytes ≥ len)
  return resetIfEmpty { b with readerIndex_ := SizeT.add b.readerIndex_ len }

def retrieveUntil (b : Buffer) (end_ : ℕ) : Except Fault Buffer := do
  assertThat (end_ ≥ b.readerIndex_ ∧ end_ ≤ b.writerIndex_)
  return resetIfEmpty
    { b with readerIndex_ := SizeT.add b.readerIndex_ (SizeT.sub end_ b.readerIndex_) }

def retrieveAsString (b : Buffer) : Except Fault (Bytes × Buffer) := do
  let str ← copyOut b.buffer_ b.readerIndex_ b.writerIndex_
  return (str, b.retrieveAll)

/-- The test of the second branch of `makeSpace`: the room in front and at the end together. -/
def roomInAll (b : Buffer) : ℕ :=
  SizeT.add (SizeT.sub b.prependableBytes kCheapPrepend) b.writableBytes

def makeSpace (b : Buffer) (len : ℕ) : Except Fault Buffer :=
  if b.writableBytes ≥ len then
    return b
  else do
    let b' ← if b.roomInAll ≥ len then do
        let readable := b.readableBytes
        -- `std::copy(begin(), beginWrite(), buffer_.begin() + kCheapPrepend)`
        let data ← copyOut b.buffer_ 0 b.writerIndex_
        let buffer_ ← copyIn b.buffer_ kCheapPrepend data
        pure (Buffer.mk buffer_ kCheapPrepend (SizeT.add kCheapPrepend readable))
      else do
        let buffer_ ← resize b.buffer_ (SizeT.add b.writerIndex_ len)
        pure { b with buffer_ := buffer_ }
    assertThat (b'.writableBytes ≥ len)
    return b'

/-- `append(data, len)`; the other two overloads call it. -/
def append (b : Buffer) (data : Bytes) : Except Fault Buffer := do
  let b ← b.makeSpace data.length
  assertThat (b.writableBytes ≥ data.length)
  let buffer_ ← copyIn b.buffer_ b.writerIndex_ data
  return { b with buffer_ := buffer_, writerIndex_ := SizeT.add b.writerIndex_ data.length }

def prepend (b : Buffer) (data : Bytes) : Except Fault Buffer := do
  assertThat (b.prependableBytes ≥ data.length)
  let readerIndex_ := SizeT.sub b.readerIndex_ data.length
  let buffer_ ← copyIn b.buffer_ readerIndex_ data
  return { b with buffer_ := buffer_, readerIndex_ := readerIndex_ }

/-- `shrink(reserve)`. Only the vector is replaced; both indices stay as they are. -/
def shrink (b : Buffer) (reserve : ℕ) : Except Fault Buffer := do
  -- `std::vector<char> buf(n)` holds `n` zeros
  let buf ← resize [] (SizeT.add (SizeT.add kCheapPrepend b.readableBytes) reserve)
  let data ← copyOut b.buffer_ b.readerIndex_ (b.readerIndex_ + b.readableBytes)
  let buf ← copyIn buf kCheapPrepend data
  let b := { b with buffer_ := buf }
  assertThat (b.writableBytes = reserve)
  return b

/-- `sizeof(extrabuf)` in `readFd`. -/
def extraSize : ℕ := 65536

/-- `readFd`, for a `readv(2)` that returns `-1` (`none`) or stores the bytes `data`, the first
iovec (the writable part of the vector) filled before the second (`extrabuf`). -/
def readFd (b : Buffer) : Option Bytes → Except Fault Buffer
  | none => return b
  | some data => do
    let writable := b.writableBytes
    let buffer_ ← copyIn b.buffer_ b.writerIndex_ (data.take writable)
    if data.length ≤ writable then
      return { b with buffer_ := buffer_, writerIndex_ := SizeT.add b.writerIndex_ data.length }
    else
      append { b with buffer_ := buffer_, writerIndex_ := buffer_.length } (data.drop writable)

def hasWritten (b : Buffer) (len : ℕ) : Except Fault Buffer := do
  assertThat (len ≤ b.writableBytes)
  return { b with writerIndex_ := SizeT.add b.writerIndex_ len }

end Buffer
end Miniduo
