import KonsanNet.Run
import KonsanNet.RecvBytes

/-!
# Receiving by several threads (`CXConnectionObject::RecvPacket`)

Each buffer of a connection is handed over in a call of its own, by the thread that has read it; the call `n`
gets the buffer number `n + 1`. A call holds `m_lock` while it works on the read list and has released it while
it verifies and pushes a message. Over that time it keeps `pCurBuf`, and it goes on from there. A step is a
section between two operations on `m_lock`.

`m_lock` is a spin lock, whose `Unlock` does not ask who holds it. While two calls are in a section at once each
section is still one step here, so that the code has more such runs.

`freed`, `faults` and `taken` record the buffers that were freed, the reads of a freed buffer (the call and the
buffer), and the packets in the order in which they were numbered. A call that has read a freed buffer goes no
further.
-/

namespace KonsanNet

/-- Where a call stands. `pCurBuf` is the number of the buffer it points to. -/
inductive RecvCall
  /-- at the first `m_lock.Lock()`, or not made yet -/
  | lock
  /-- at `PushReceivedBuffer`, with `m_lock` -/
  | push
  /-- with a complete packet, without `m_lock` -/
  | deliver (packetHeader : CXPacketHeader) (pMessageData : CXMessageData) (pCurBuf : Option Nat)
  /-- at the `m_lock.Lock()` behind a packet -/
  | relock (pCurBuf : Option Nat)
  /-- at the next round of the loop, with `m_lock` -/
  | scan (pCurBuf : Option Nat)
  /-- There is no task object: at the `m_lock.Unlock()` behind the loop, without `m_lock`. -/
  | unlock
  | fault
  | ret (iRet : Int)
deriving DecidableEq, Repr

namespace RecvCall

/-- The buffer that the call is going to read. -/
def cursor : RecvCall → Option Nat
  | deliver _ _ pCurBuf | relock pCurBuf | scan pCurBuf => pCurBuf
  | lock | push | unlock | fault | ret _ => none

/-- The call has taken `m_lock`. -/
def Holds : RecvCall → Prop
  | push | scan _ => True
  | lock | deliver _ _ _ | relock _ | unlock | fault | ret _ => False

/-- The buffer of the call is not in the read list yet. -/
def Before : RecvCall → Prop
  | lock | push => True
  | deliver _ _ _ | relock _ | scan _ | unlock | fault | ret _ => False

/-- The call returns an error. -/
def Fails : RecvCall → Prop
  | unlock => True
  | ret iRet => iRet ≠ 0
  | lock | push | deliver _ _ _ | relock _ | scan _ | fault => False

end RecvCall

structure RecvThreads where
  recv : RecvState
  /-- `m_lock` -/
  bLocked : Bool
  call : Nat → RecvCall
  freed : List Nat
  faults : List (Nat × Nat)
  taken : List (CXPacketHeader × CXMessageData)

namespace RecvThreads

def start (pDataParserHandle pTaskPool bAsyncParseData : Bool) : RecvThreads where
  recv := .built pDataParserHandle pTaskPool bAsyncParseData
  bLocked := false
  call _ := .lock
  freed := []
  faults := []
  taken := []

def setCall (s : RecvThreads) (n : Nat) (c : RecvCall) : RecvThreads :=
  { s with call := Function.update s.call n c }

/-- `m_lock.Lock()` -/
def lock (s : RecvThreads) (n : Nat) (c : RecvCall) : Option RecvThreads :=
  if s.bLocked then none else some ({ s with bLocked := true }.setCall n c)

/-- `m_lock.Unlock()` -/
def unlock (s : RecvThreads) (n : Nat) (c : RecvCall) : RecvThreads := { s with bLocked := false }.setCall n c

/-- The loop of `RecvPacket` from `pCurBuf` on, up to the release of `m_lock`. The buffers that are freed are
those from the head of the list up to the new `pCurBuf`. -/
def scan (env : RecvEnv) (s : RecvThreads) (n : Nat) : Option Nat → RecvThreads
  | none => s.unlock n (.ret 0)
  | some pCurBuf =>
    if pCurBuf ∈ s.freed then { s with faults := (n, pCurBuf) :: s.faults }.setCall n .fault
    else
      let front := s.recv.listRead.head.takeWhile fun b => b.nSequenceNum ≠ pCurBuf
      let chain := s.recv.listRead.head.dropWhile fun b => b.nSequenceNum ≠ pCurBuf
      match RecvState.scan env chain 0 (.start s.recv.uiLastProcessBufferIndex) s.recv with
      | (r, .drained m) => { s with recv := r.freeMessage m }.unlock n (.ret 0)
      | (r, .errorPacket m) => { s with recv := r.freeMessage m }.unlock n (.ret (-4))
      | (r, .noBuffer) => { s with recv := r }.unlock n (.ret (-3))
      | (r, .packet h m freed left) =>
        let m := { m with iSequenceNum := r.iLastUnpackedMessageSequenceNum + 1 }
        { s with
          recv := r.takePacket h (front.length + freed) left
          freed := s.freed ++ (front ++ chain.take freed).map CXBufferObj.nSequenceNum
          taken := s.taken ++ [(h, m)] }.unlock n (.deliver h m (left.head?.map CXBufferObj.nSequenceNum))

/-- `PushReceivedBuffer` and the loop from the head of the list on. -/
def push (env : RecvEnv) (s : RecvThreads) (n : Nat) (bytes : List UInt8) : Option RecvThreads :=
  match s.recv.pushReceivedBuffer (.received (n + 1) bytes) with
  | none => none
  | some (r, false) => some ({ s with recv := r }.unlock n (.ret (-2)))
  | some (r, true) => some ({ s with recv := r }.scan env n (r.listRead.head.head?.map CXBufferObj.nSequenceNum))

/-- Without `m_lock`: the packet is verified, parsed and pushed. The log line for a packet that fails the check
reads `pCurBuf`; without a task object the loop is left by a `break`. -/
def deliver (env : RecvEnv) (s : RecvThreads) (n : Nat) (h : CXPacketHeader) (m : CXMessageData)
    (pCurBuf : Option Nat) : Option RecvThreads :=
  match pCurBuf.filter fun p => !RecvState.verifyPacketBodyData h m && decide (p ∈ s.freed) with
  | some p => some ({ s with faults := (n, p) :: s.faults }.setCall n .fault)
  | none =>
    match s.recv.deliver env h m pCurBuf.isSome with
    | none => none
    | some (r, none) => some ({ s with recv := r }.setCall n (.relock pCurBuf))
    | some (r, some iRet) => some ({ s with recv := r }.setCall n (if iRet = -3 then .unlock else .ret iRet))

/-- The call `n`, with the buffer `bufs[n]`, goes on. -/
def step (env : RecvEnv) (bufs : List (List UInt8)) (s : RecvThreads) (n : Nat) : Option RecvThreads :=
  match bufs[n]? with
  | none => none
  | some bytes =>
    match s.call n with
    | .lock => if s.recv.lpServer then s.lock n .push else some (s.setCall n (.ret (-1)))
    | .push => s.push env n bytes
    | .deliver h m pCurBuf => s.deliver env n h m pCurBuf
    | .relock pCurBuf => s.lock n (.scan pCurBuf)
    | .scan pCurBuf => some (s.scan env n pCurBuf)
    | .unlock => some (s.unlock n (.ret (-3)))
    | .fault | .ret _ => none

/-! ### What is promised -/

/-- The bytes of a packet: its header and what its message holds. -/
def packetBytes (e : CXPacketHeader × CXMessageData) : List UInt8 :=
  e.1.toBytes ++ e.2.bodyData.take e.1.dwDataLen

/-- The used bytes of the buffers: all of those that were freed, and what has been read of the others. -/
def usedBytes (bufs : List (List UInt8)) (s : RecvThreads) : List UInt8 :=
  s.freed.flatMap (fun i => bufs.getD (i - 1) []) ++
    s.recv.listRead.head.flatMap fun b => b.buf.take b.nCurDataPointer

/-- Every call that was made has returned `RETURN_SUCCEED`. -/
def AtRest (s : RecvThreads) : Prop := ∀ n, s.call n = .lock ∨ s.call n = .ret 0

/-- `faults` and `freed`: no call reads or frees a buffer that was freed, and the buffers are freed in the order
of their numbers. A buffer that was handed over is in the read list or was freed. The packets are the bytes
used, in the order of the stream, and are numbered so; a message carries the number of its packet, no two
messages carry the same. When all calls have returned, no whole packet is left. -/
structure Consistent (bufs : List (List UInt8)) (s : RecvThreads) : Prop where
  exclusive : ∀ n n', (s.call n).Holds → (s.call n').Holds → n = n'
  faults : s.faults = []
  freed : s.freed = List.range' 1 s.freed.length
  handed : ∀ n, ¬ (s.call n).Before ↔
    n + 1 ∈ s.freed ++ s.recv.listRead.head.map CXBufferObj.nSequenceNum
  once : (s.freed ++ s.recv.listRead.head.map CXBufferObj.nSequenceNum).Nodup
  source : ∀ b ∈ s.recv.listRead.head, bufs[b.nSequenceNum - 1]? = some b.buf
  stream : s.usedBytes bufs = s.taken.flatMap packetBytes
  numbered : s.taken.map (fun e => e.2.iSequenceNum) = List.range' 1 s.taken.length
  messages : ∀ m ∈ s.recv.mesQueue, ∃ e ∈ s.taken, e.2.iSequenceNum = m.iSequenceNum ∧
    (e.1.byEncryptFlag = 0 → e.1.byCompressFlag = 0 → m = e.2)
  tasks : ∀ t ∈ s.recv.tasks, (t.2, t.1) ∈ s.taken
  delivered : (s.recv.mesQueue.map CXMessageData.iSequenceNum ++ s.recv.tasks.map fun t => t.1.iSequenceNum).Nodup
  rest : s.AtRest → ¬ RecvState.Complete (RecvState.contig s.recv.uiLastProcessBufferIndex s.recv.listRead.head)

/-! ### When it holds -/

/-- How many of the buffers `n` bytes use up. -/
def usedUp : Nat → List CXBufferObj → Nat
  | _, [] => 0
  | n, b :: l => if n = 0 ∨ n < b.len then 0 else usedUp (n - b.len) l + 1

instance (env : RecvEnv) (k : Nat) (h : CXPacketHeader) : Decidable (RecvState.Accepted env k h) :=
  decidable_of_iff (h.wFlag = cxPacketHeaderFlag ∧ h.dwDataLen ≤ cxMaxCacheSize ∧
    (env.getBuffer k (messageDataLen + h.dwDataLen)).isSome)
    ⟨fun ⟨h₁, h₂, h₃⟩ => ⟨h₁, h₂, h₃⟩, fun ⟨h₁, h₂, h₃⟩ => ⟨h₁, h₂, h₃⟩⟩

/-- The number of the last buffer that the packet in front of the read list uses up. -/
def packetEnd (env : RecvEnv) (r : RecvState) : Nat :=
  let v := RecvState.contig r.uiLastProcessBufferIndex r.listRead.head
  if RecvState.Complete v ∧ RecvState.Accepted env r.calls (RecvState.frontHeader v) then
    r.uiLastProcessBufferIndex + usedUp (RecvState.frontLen v) r.listRead.head
  else r.uiLastProcessBufferIndex

/-- The same for the read list as the section of the call `n` finds it. -/
def sectionEnd (env : RecvEnv) (bufs : List (List UInt8)) (s : RecvThreads) (n : Nat) : Nat :=
  match s.call n with
  | .push =>
    match s.recv.pushReceivedBuffer (.received (n + 1) (bufs.getD n [])) with
    | some (r, true) => packetEnd env r
    | _ => 0
  | .scan (some pCurBuf) => if pCurBuf = s.recv.uiLastProcessBufferIndex + 1 then packetEnd env s.recv else 0
  | _ => 0

/-- The buffers that other calls point to are not used up; no call unlocks `m_lock` for another one. -/
def Keeps (env : RecvEnv) (bufs : List (List UInt8)) (s : RecvThreads) (n : Nat) : Prop :=
  (∀ n' < bufs.length, n' ≠ n → (s.call n').cursor.all (fun p => s.sectionEnd env bufs n < p) = true) ∧
    (s.call n = .unlock → s.bLocked = false)

instance (env : RecvEnv) (bufs : List (List UInt8)) (s : RecvThreads) : DecidablePred (s.Keeps env bufs) :=
  fun _ => inferInstanceAs (Decidable (_ ∧ _))

end RecvThreads

end KonsanNet
