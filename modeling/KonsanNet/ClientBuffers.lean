import KonsanNet.Ledger
import KonsanNet.TcpClient

/-!
# The six buffers of a client (`SetSendBufferSize`, `SetRecvBufferSize`, `~CXTcpClient`)

The buffers come from `new[]` or from a cache, by the flag at that time, and a buffer that is replaced goes back
with `delete[]` in both cases. The destructor deletes nothing while the flag is set. An exception of `new[]` leaves
what the call has got before. So a run gives back what it got only if no call gets its buffers from a cache
(`released_iff`).
-/

namespace KonsanNet

open Ledger

/-- `new[]` and `delete[]`, or `GetBuffer` and `FreeBuffer` of a cache. -/
inductive BufferSource
  | new
  | pool (cache : Nat)
deriving DecidableEq, Repr

/-- `new[]` may also throw; `GetBuffer` answers a buffer or `NULL`. -/
inductive BufferAnswer
  | ok
  | null
  | thrown
deriving DecidableEq, Repr

/-- The answers to the three requests of a call. -/
structure SizeAnswers where
  pData : BufferAnswer
  pDataReal : BufferAnswer
  pCacheData : BufferAnswer
deriving DecidableEq, Repr

/-- `m_pbySendBuffer`, `m_pbyRealSendBuffer` and `m_pbyCacheSendBuffer`, or `m_pbyRecvBuffer`, `m_pbyParserBuffer`
and `m_pbyCacheRecvBuffer`, by the number of the request that gave them. -/
structure BufferSet where
  data : Option Nat
  dwDataLen : Nat
  real : Option Nat
  dwRealLen : Nat
  cache : Option Nat
  dwCacheLen : Nat
deriving DecidableEq, Repr

def BufferSet.empty : BufferSet := ⟨none, 0, none, 0, none, 0⟩

/-- The buffers that are not `NULL`. -/
def BufferSet.held (b : BufferSet) : List Nat := [b.data, b.real, b.cache].reduceOption

structure ClientBuffers where
  send : BufferSet
  recv : BufferSet
  lpCacheObj : Option Nat
  bUsedMemoryCachePool : Bool
  next : Nat
  events : List (Event Nat BufferSource)

namespace ClientBuffers

def construct : ClientBuffers := ⟨.empty, .empty, none, false, 0, []⟩

def held (s : ClientBuffers) : List Nat := s.send.held ++ s.recv.held

def release (a : BufferSource) (ids : List Nat) (s : ClientBuffers) : ClientBuffers :=
  { s with events := s.events ++ releaseAll a ids }

def get (a : BufferSource) (s : ClientBuffers) : ClientBuffers × Nat :=
  ({ s with next := s.next + 1, events := s.events ++ [.got s.next a] }, s.next)

/-- `m_lpCacheObj->GetBuffer` -/
def getBuffer (cache : Nat) (answer : BufferAnswer) (s : ClientBuffers) : ClientBuffers × Option Nat :=
  if answer = .ok then ((s.get (.pool cache)).1, some (s.get (.pool cache)).2) else (s, none)

def poolBuffers (cache : Nat) (a : SizeAnswers) (s : ClientBuffers) : ClientBuffers × Option (Nat × Nat × Nat) :=
  let (s, pData) := s.getBuffer cache a.pData
  let (s, pDataReal) := s.getBuffer cache a.pDataReal
  let (s, pCacheData) := s.getBuffer cache a.pCacheData
  match pData, pDataReal, pCacheData with
  | some pData, some pDataReal, some pCacheData => (s, some (pData, pDataReal, pCacheData))
  | _, _, _ => (s.release (.pool cache) [pData, pDataReal, pCacheData].reduceOption, none)

/-- An exception leaves what came before; the test for `NULL` deletes it. -/
def newBuffers (a : SizeAnswers) (s : ClientBuffers) : ClientBuffers × Option (Nat × Nat × Nat) :=
  match a.pData with
  | .thrown => (s, none)
  | .null => (s, none)
  | .ok =>
    let (s, pData) := s.get .new
    match a.pDataReal with
    | .thrown => (s, none)
    | .null => (s.release .new [pData], none)
    | .ok =>
      let (s, pDataReal) := s.get .new
      match a.pCacheData with
      | .thrown => (s, none)
      | .null => (s.release .new [pData, pDataReal], none)
      | .ok =>
        let (s, pCacheData) := s.get .new
        (s, some (pData, pDataReal, pCacheData))

/-- `m_lpCacheObj && m_bUsedMemoryCachePool` -/
def pool (s : ClientBuffers) : Option Nat := if s.bUsedMemoryCachePool then s.lpCacheObj else none

def getBuffers (a : SizeAnswers) (s : ClientBuffers) : ClientBuffers × Option (Nat × Nat × Nat) :=
  match s.pool with
  | some cache => s.poolBuffers cache a
  | none => s.newBuffers a

def replaced (pData pDataReal pCacheData dwBufSize : Nat) : BufferSet :=
  ⟨some pData, dwBufSize, some pDataReal, dwBufSize * 2 % 2 ^ 32, some pCacheData, dwBufSize * 2 % 2 ^ 32⟩

/-- `SetSendBufferSize` and `SetRecvBufferSize` differ in the set `b`, which `put` writes. -/
def setBufferSize (b : BufferSet) (put : BufferSet → ClientBuffers → ClientBuffers) (dwBufSize : Nat)
    (a : SizeAnswers)
    (s : ClientBuffers) : ClientBuffers × Bool :=
  if 0 < dwBufSize ∧ dwBufSize ≤ b.dwDataLen then (s, true)
  else
    match s.getBuffers a with
    | (s, none) => (s, false)
    | (s, some (pData, pDataReal, pCacheData)) =>
      -- `delete[]`, whatever the old buffers came from
      (put (replaced pData pDataReal pCacheData dwBufSize) (s.release .new b.held), true)

def putSend (b : BufferSet) (s : ClientBuffers) : ClientBuffers := { s with send := b }

def putRecv (b : BufferSet) (s : ClientBuffers) : ClientBuffers := { s with recv := b }

def setSendBufferSize (dwBufSize : Nat) (a : SizeAnswers) (s : ClientBuffers) : ClientBuffers × Bool :=
  s.setBufferSize s.send putSend ((dwBufSize + packetDataLen) % 2 ^ 32) a

def setRecvBufferSize (dwBufSize : Nat) (a : SizeAnswers) (s : ClientBuffers) : ClientBuffers × Bool :=
  s.setBufferSize s.recv putRecv ((dwBufSize + bodyDataLen) % 2 ^ 32) a

/-- `~CXTcpClient` -/
def destroy (s : ClientBuffers) : ClientBuffers :=
  let s' := if s.bUsedMemoryCachePool then s else s.release .new s.held
  { s' with send := .empty, recv := .empty }

end ClientBuffers

/-! ### Runs -/

inductive ClientCall
  | setUsedMemoryCachePool (bSet : Bool) (pCacheObj : Option Nat)
  | setSendBufferSize (dwBufSize : Nat) (a : SizeAnswers)
  | setRecvBufferSize (dwBufSize : Nat) (a : SizeAnswers)

def ClientCall.run (s : ClientBuffers) : ClientCall → ClientBuffers × Bool
  | .setUsedMemoryCachePool bSet pCacheObj =>
    ({ s with lpCacheObj := pCacheObj, bUsedMemoryCachePool := bSet }, true)
  | .setSendBufferSize dwBufSize a => s.setSendBufferSize dwBufSize a
  | .setRecvBufferSize dwBufSize a => s.setRecvBufferSize dwBufSize a

inductive ClientOp
  | call (c : ClientCall)
  /-- `Create`; `bInvalid` is `bAccepted && sock <= 0` -/
  | create (bInvalid : Bool) (send recv : SizeAnswers)

namespace ClientBuffers

def run (s : ClientBuffers) (cs : List ClientCall) : ClientBuffers := cs.foldl (fun s c => (c.run s).1) s

/-- `CLIENT_BUF_SIZE` -/
def clientBufSize : Nat := 4096

/-- What an operation calls; `Create` goes on to the second size if the first is there. -/
def opCalls (s : ClientBuffers) : ClientOp → List ClientCall
  | .call c => [c]
  | .create bInvalid send recv =>
    if bInvalid then []
    else .setSendBufferSize clientBufSize send ::
      if (s.setSendBufferSize clientBufSize send).2 then [.setRecvBufferSize clientBufSize recv] else []

def calls : ClientBuffers → List ClientOp → List ClientCall
  | _, [] => []
  | s, op :: ops => s.opCalls op ++ calls (s.run (s.opCalls op)) ops

/-- `P` holds of every call, with the state before it. -/
def Along (P : ClientBuffers → ClientCall → Prop) : ClientBuffers → List ClientCall → Prop
  | _, [] => True
  | s, c :: cs => P s c ∧ Along P (c.run s).1 cs

/-- A call that fails leaves the buffers and their lengths, and gives back what it got. -/
def FailKeeps (s : ClientBuffers) (c : ClientCall) : Prop :=
  (c.run s).2 = false → (c.run s).1.send = s.send ∧ (c.run s).1.recv = s.recv ∧
    ∀ id, s.next ≤ id → releases id (c.run s).1.events = gots id (c.run s).1.events

/-- Over the life of a client. -/
def Released (ops : List ClientOp) : Prop :=
  Along FailKeeps construct (calls construct ops) ∧
    Settled (destroy (construct.run (calls construct ops))).events

/-- No exception after the first buffer. -/
def NoLeak (a : SizeAnswers) : Prop :=
  a.pData = .ok → a.pDataReal ≠ .thrown ∧ (a.pDataReal = .ok → a.pCacheData ≠ .thrown)

/-- The buffers are large enough, or the call gets no buffers from a cache and leaves none behind. -/
def SoundSize (s : ClientBuffers) (dwBufSize dwDataLen : Nat) (a : SizeAnswers) : Prop :=
  0 < dwBufSize ∧ dwBufSize ≤ dwDataLen ∨
    if s.pool.isSome then ¬ (a.pData = .ok ∧ a.pDataReal = .ok ∧ a.pCacheData = .ok)
    else NoLeak a

def Sound (s : ClientBuffers) : ClientCall → Prop
  | .setUsedMemoryCachePool _ _ => True
  | .setSendBufferSize dwBufSize a => s.SoundSize ((dwBufSize + packetDataLen) % 2 ^ 32) s.send.dwDataLen a
  | .setRecvBufferSize dwBufSize a => s.SoundSize ((dwBufSize + bodyDataLen) % 2 ^ 32) s.recv.dwDataLen a

end ClientBuffers

end KonsanNet
