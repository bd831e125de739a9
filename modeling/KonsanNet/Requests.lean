import Mathlib.Tactic
import KonsanNet.CloseInv

/-!
# From the bytes of a stream to the handlers

A run of one connection from `RecvData` to the handlers, over the steps of `Connection`: any number of threads
receive and any number of threads process messages. Besides the connection a run keeps two histories: `bufs`, what
each `RecvData` has returned, in the order of the buffers' numbers, and `handled`, what the handlers were called
with.

`allows` is what the runs are restricted to: the socket delivers a stream of plain packets, a thread enters
`RecvPacket` only when no other one is inside (`RecvThreads` is about the others), and nobody closes the connection.
The message queue is a list here; `RequestsQueue` has the runs over the queue in memory.
-/

namespace KonsanNet

/-- The message in the thread's handler. -/
def Worker.handling : Worker → List CXMessageData
  | .handler pCurMes => [pCurMes]
  | .idle | .input _ | .asyncEnd _ | .resume | .loop => []

/-- In `RecvPacket`, behind `PushReceivedBuffer`. -/
def RecvStage.inside : RecvStage → Bool
  | .deliver .. | .scan _ => true
  | .read _ | .ret _ => false

structure RequestRun where
  conn : Connection
  bufs : List (List UInt8)
  handled : List (Nat × Nat × List UInt8)

namespace RequestRun

def start (pDataParserHandle pTaskPool bAsyncParseData : Bool) : RequestRun :=
  ⟨.start pDataParserHandle pTaskPool bAsyncParseData, [], []⟩

/-- What `RecvData` returns is recorded. -/
def receivedBy : ConnectionAct → List (List UInt8)
  | .recvData bytes => [bytes]
  | .thread _ | .task _ | .close | .post _ | .run _ => []

/-- A thread that has just entered a handler. -/
def handledBy (d : Dispatch) : ConnectionAct → List CXMessageData
  | .run w => (d.worker w).handling
  | .recvData _ | .thread _ | .task _ | .close | .post _ => []

def step (env : RecvEnv) (bAsync : Nat → Bool) (r : RequestRun) (a : ConnectionAct) : Option RequestRun :=
  (r.conn.step env bAsync a).map fun s =>
    ⟨s, r.bufs ++ receivedBy a, r.handled ++ (handledBy s.dispatch a).map CXMessageData.content⟩

def allows (packets : List PlainPacket) (r : RequestRun) : ConnectionAct → Bool
  | .recvData bytes => (r.bufs ++ [bytes]).flatten.isPrefixOf (packets.flatMap PlainPacket.encode)
  | .thread i =>
    match r.conn.threads[i]? with
    | some (.read _) => r.conn.threads.all fun t => !t.inside
    | _ => true
  | .close => false
  | .task _ | .post _ | .run _ => true

end RequestRun

end KonsanNet
