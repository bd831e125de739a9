import Mathlib.Tactic
import Mathlib.Data.List.AList
import KonsanNet.Run
import KonsanNet.Send

/-!
# The pools of proxy connections (`GetFreeProxyClient`, `AttachProxyConnection`, `DetachProxyConnection`)

An RPC object gets a proxy connection to a remote address from the detached pool, or a new one that a task
connects and enters in the attached pool. When the object is done, its connection goes back to the detached
pool. Both pools are keyed by the text of the address: the attached pool has a map of connections by their
indices there, the detached pool a list.

`DetachProxyConnection` erases the whole entry of the address, a connection that is used again is not attached
again, and `ReleaseConnection` looks in the attached pool only. The runs in which this does no harm are those
of `Keeps` (`consistent_of_keeps`).

Connections and RPC objects are numbered. A call is one step: that `GetFreeProxyClient` holds `m_lockFreeConnections`
and `DetachProxyConnection` `m_lockUsingConnections`, so that the two may overlap, is left out. That a session is at
hand, and what becomes of a connection two seconds after its release, is left out too.
-/

namespace KonsanNet

/-- A map by connection index, or by RPC object. -/
abbrev NatMap (α : Type) := AList fun _ : Nat => α

structure ProxyPools where
  created : Nat
  nState : Nat → ConnectionState
  /-- `"%s:%d"` of `m_strRemoteIP` and `m_wRemotePort` -/
  szBuf : Nat → String
  uiConnectionIndex : Nat → Nat
  uiCurrentConnectionIndex : Nat
  mapAttachProxyConnectionsPool : AList fun _ : String => NatMap Nat
  mapDetachedProxyConnectionsPool : AList fun _ : String => List Nat
  listReleasedConnections : List Nat
  queueFreeConnections : List Nat
  /-- `m_pAttachedConnection` of the RPC objects -/
  pAttachedConnection : NatMap Nat
  /-- `m_pConnection` of the tasks that connect -/
  tasks : List Nat

namespace ProxyPools

def start : ProxyPools where
  created := 0
  nState _ := .initialized
  szBuf _ := ""
  uiConnectionIndex _ := 0
  uiCurrentConnectionIndex := 0
  mapAttachProxyConnectionsPool := ∅
  mapDetachedProxyConnectionsPool := ∅
  listReleasedConnections := []
  queueFreeConnections := []
  pAttachedConnection := ∅
  tasks := []

def setState (s : ProxyPools) (c : Nat) (st : ConnectionState) : ProxyPools :=
  { s with nState := Function.update s.nState c st }

/-- The entry of the connection in the attached pool. -/
def findAttached (s : ProxyPools) (c : Nat) : Option Nat :=
  (s.mapAttachProxyConnectionsPool.lookup (s.szBuf c)).bind fun m => m.lookup (s.uiConnectionIndex c)

def releaseConnection (s : ProxyPools) (c : Nat) : ProxyPools :=
  match s.mapAttachProxyConnectionsPool.lookup (s.szBuf c) with
  | none => s
  | some m =>
    match m.lookup (s.uiConnectionIndex c) with
    | none => s
    | some _ =>
      { s with
        mapAttachProxyConnectionsPool :=
          s.mapAttachProxyConnectionsPool.insert (s.szBuf c) (m.erase (s.uiConnectionIndex c))
        listReleasedConnections := s.listReleasedConnections ++ [c] }

/-- `CloseConnection`; `bZero` tells whether the four counters are zero. -/
def closeConnection (s : ProxyPools) (c : Nat) (bZero : Bool) : ProxyPools :=
  if s.nState c = .closed then s
  else if bZero then (s.setState c .closed).releaseConnection c
  else s.setState c .closing

/-- The loop of `GetFreeProxyClient` over what is left of the list of the address; `pCon` is the connection
taken last. -/
def popDetached (szBuf : String) (bZero : Nat → Bool) :
    (lst : List Nat) → (pCon : Option Nat) → ProxyPools → ProxyPools × Option Nat
  | [], pCon, s => (s, pCon)
  | c :: lst, _, s =>
    let s := { s with mapDetachedProxyConnectionsPool := s.mapDetachedProxyConnectionsPool.insert szBuf lst }
    if s.nState c ≠ .established then popDetached szBuf bZero lst (some c) (s.closeConnection c (bZero c))
    else (s, some c)

def getFreeProxyClient (s : ProxyPools) (szBuf : String) (bZero : Nat → Bool) (bNew : Bool) :
    ProxyPools × Option Nat :=
  let r := match s.mapDetachedProxyConnectionsPool.lookup szBuf with
    | none => (s, none)
    | some lst => popDetached szBuf bZero lst none s
  match r with
  | (s, some c) => (s, some c)
  | (s, none) => if bNew then ({ s with created := s.created + 1 }.setState s.created .creating, some s.created)
    else (s, none)

/-- `GetProxyConnection`, from `Create` of the object `o`. -/
def getProxyConnection (s : ProxyPools) (o : Nat) (szBuf : String) (bZero : Nat → Bool) (bNew : Bool) :
    ProxyPools :=
  match s.getFreeProxyClient szBuf bZero bNew with
  | (s, none) => s
  | (s, some c) =>
    let s := if s.nState c = .established then s
      else { s with
        uiCurrentConnectionIndex := s.uiCurrentConnectionIndex + 1
        uiConnectionIndex := Function.update s.uiConnectionIndex c (s.uiCurrentConnectionIndex + 1)
        szBuf := Function.update s.szBuf c szBuf }.setState c .creating
    { s with pAttachedConnection := s.pAttachedConnection.insert o c }

/-- `insert` keeps an entry that is there. -/
def attachProxyConnection (s : ProxyPools) (c : Nat) : ProxyPools :=
  let m := (s.mapAttachProxyConnectionsPool.lookup (s.szBuf c)).getD ∅
  let m := if s.uiConnectionIndex c ∈ m then m else m.insert (s.uiConnectionIndex c) c
  { s with mapAttachProxyConnectionsPool := s.mapAttachProxyConnectionsPool.insert (s.szBuf c) m }

def detachProxyConnection (s : ProxyPools) (c : Nat) : ProxyPools :=
  match s.mapAttachProxyConnectionsPool.lookup (s.szBuf c) with
  | none => s
  | some _ =>
    { s with
      mapAttachProxyConnectionsPool := s.mapAttachProxyConnectionsPool.erase (s.szBuf c)
      mapDetachedProxyConnectionsPool := s.mapDetachedProxyConnectionsPool.insert (s.szBuf c)
        ((s.mapDetachedProxyConnectionsPool.lookup (s.szBuf c)).getD [] ++ [c]) }

/-- `OnCreated` and `OnProxyConnectionCreated`; `bAttached` tells whether epoll takes the socket. -/
def onProxyConnectionCreated (s : ProxyPools) (c : Nat) (bAttached : Bool) : ProxyPools :=
  let s := s.setState c .established
  if bAttached then s.attachProxyConnection c
  else { s.setState c .closed with queueFreeConnections := s.queueFreeConnections ++ [c] }

inductive Action
  /-- `Create` -/
  | getProxyConnection (o : Nat) (szBuf : String) (bZero : Nat → Bool) (bNew : Bool)
  /-- `AsyncConnect` -/
  | asyncConnect (o : Nat)
  | onProxyConnectionCreated (c : Nat) (bAttached : Bool)
  /-- The task could not connect. -/
  | onCreateConnectionError (c : Nat)
  /-- by an event thread -/
  | closeConnection (c : Nat) (bZero : Bool)
  /-- `bIdle` tells whether the three counters that `UnCreate` reads are zero -/
  | unCreate (o : Nat) (bIdle bZero : Bool)
  /-- `CXCommunicationServer::DetachProxyConnection` -/
  | detachProxyConnection (o : Nat)

def step (s : ProxyPools) : Action → Option ProxyPools
  | .getProxyConnection o szBuf bZero bNew =>
    if o ∈ s.pAttachedConnection then none else some (s.getProxyConnection o szBuf bZero bNew)
  | .asyncConnect o =>
    (s.pAttachedConnection.lookup o).bind fun c =>
      if s.nState c = .creating then some { s with tasks := s.tasks ++ [c] } else none
  | .onProxyConnectionCreated c bAttached =>
    if c ∈ s.tasks then some ({ s with tasks := s.tasks.erase c }.onProxyConnectionCreated c bAttached) else none
  | .onCreateConnectionError c => if c ∈ s.tasks then some { s with tasks := s.tasks.erase c } else none
  | .closeConnection c bZero => if c < s.created then some (s.closeConnection c bZero) else none
  | .unCreate o bIdle bZero =>
    (s.pAttachedConnection.lookup o).map fun c =>
      let s := if bIdle then s.detachProxyConnection c else s.closeConnection c bZero
      { s with pAttachedConnection := s.pAttachedConnection.erase o }
  | .detachProxyConnection o => (s.pAttachedConnection.lookup o).map fun c => s.detachProxyConnection c

/-! ### What is promised -/

def Held (s : ProxyPools) (c : Nat) : Prop := ∃ o, s.pAttachedConnection.lookup o = some c

def Attached (s : ProxyPools) (c : Nat) : Prop :=
  ∃ a m i, s.mapAttachProxyConnectionsPool.lookup a = some m ∧ m.lookup i = some c

def Detached (s : ProxyPools) (c : Nat) : Prop :=
  ∃ a lst, s.mapDetachedProxyConnectionsPool.lookup a = some lst ∧ c ∈ lst

/-- No connection is held twice, none is in both pools or twice in one, and one that is not `CLOSED` is held or in
a pool; the `CLOSED` ones have been put on the released list once. -/
structure Consistent (s : ProxyPools) : Prop where
  held : ∀ c o o', s.pAttachedConnection.lookup o = some c → s.pAttachedConnection.lookup o' = some c → o = o'
  attached : ∀ a a' m m' i i' c, s.mapAttachProxyConnectionsPool.lookup a = some m → m.lookup i = some c →
    s.mapAttachProxyConnectionsPool.lookup a' = some m' → m'.lookup i' = some c → a = a' ∧ i = i'
  detached : ∀ a a' lst lst' c, s.mapDetachedProxyConnectionsPool.lookup a = some lst → c ∈ lst →
    s.mapDetachedProxyConnectionsPool.lookup a' = some lst' → c ∈ lst' → a = a' ∧ lst.count c = 1
  onePool : ∀ c, ¬ (s.Attached c ∧ s.Detached c)
  place : ∀ c < s.created, s.nState c ≠ .closed → s.Held c ∨ s.Attached c ∨ s.Detached c
  released : ∀ c < s.created, s.listReleasedConnections.count c = if s.nState c = .closed then 1 else 0

/-- What a step does: detaching a connection leaves the others where they are; an object gets a connection that is
`ESTABLISHED` and that no object holds, or a new one. -/
def StepOk (s : ProxyPools) (a : Action) (s' : ProxyPools) : Prop :=
  match a with
  | .getProxyConnection o _ _ _ => ∀ c, s'.pAttachedConnection.lookup o = some c →
    s.nState c = .established ∧ ¬ s.Held c ∨ s.created ≤ c
  | .unCreate o _ _ | .detachProxyConnection o => ∀ c, s.pAttachedConnection.lookup o ≠ some c →
    (s'.Attached c ↔ s.Attached c) ∧ (s'.Detached c ↔ s.Detached c)
  | _ => True

/-! ### When it holds -/

/-- Becoming `CLOSED`, the connection is found in the attached pool. -/
def KeepsClose (s : ProxyPools) (c : Nat) (bZero : Bool) : Prop :=
  s.nState c = .closed ∨ bZero = false ∨ s.findAttached c = some c

/-- The entry of the address, if there is one, is that of the connection alone. -/
def KeepsDetach (s : ProxyPools) (c : Nat) : Prop :=
  ∀ m ∈ s.mapAttachProxyConnectionsPool.lookup (s.szBuf c), m.entries = [⟨s.uiConnectionIndex c, c⟩]

/-- The connection is in the attached pool, in the detached pool or `CLOSED`. -/
def KeepsPlace (s : ProxyPools) (c : Nat) : Prop :=
  s.findAttached c = some c ∨ (∃ lst ∈ s.mapDetachedProxyConnectionsPool.lookup (s.szBuf c), c ∈ lst) ∨
    s.nState c = .closed

def Keeps (s : ProxyPools) : Action → Prop
  -- the first connection of the list is good
  | .getProxyConnection _ szBuf _ _ => ∀ lst ∈ s.mapDetachedProxyConnectionsPool.lookup szBuf, ∀ c ∈ lst.head?,
    s.nState c = .established ∧ ∀ e ∈ s.pAttachedConnection.entries, e.2 ≠ c
  -- the socket is taken, and the connection has been waiting for it
  | .onProxyConnectionCreated c bAttached => bAttached = true ∧ s.nState c = .creating
  | .closeConnection c bZero => s.KeepsClose c bZero
  | .unCreate o bIdle bZero => ∀ c ∈ s.pAttachedConnection.lookup o, s.KeepsPlace c ∧
    if bIdle then s.KeepsDetach c else s.KeepsClose c bZero
  | .detachProxyConnection o => ∀ c ∈ s.pAttachedConnection.lookup o, s.KeepsDetach c
  | .asyncConnect _ | .onCreateConnectionError _ => True

instance (s : ProxyPools) (c : Nat) (bZero : Bool) : Decidable (s.KeepsClose c bZero) :=
  inferInstanceAs (Decidable (_ ∨ _ ∨ _))

instance (s : ProxyPools) (c : Nat) : Decidable (s.KeepsDetach c) :=
  inferInstanceAs (Decidable (∀ m ∈ s.mapAttachProxyConnectionsPool.lookup (s.szBuf c), m.entries = [⟨_, _⟩]))

instance (s : ProxyPools) (c : Nat) : Decidable (s.KeepsPlace c) :=
  inferInstanceAs (Decidable (_ ∨ (∃ lst ∈ s.mapDetachedProxyConnectionsPool.lookup (s.szBuf c), c ∈ lst) ∨ _))

instance (s : ProxyPools) : DecidablePred s.Keeps
  | .getProxyConnection _ szBuf _ _ =>
    inferInstanceAs (Decidable (∀ lst ∈ s.mapDetachedProxyConnectionsPool.lookup szBuf, ∀ c ∈ lst.head?,
      s.nState c = .established ∧ ∀ e ∈ s.pAttachedConnection.entries, e.2 ≠ c))
  | .onProxyConnectionCreated c bAttached => inferInstanceAs (Decidable (bAttached = true ∧ s.nState c = .creating))
  | .closeConnection c bZero => inferInstanceAs (Decidable (s.KeepsClose c bZero))
  | .unCreate o bIdle bZero =>
    inferInstanceAs (Decidable (∀ c ∈ s.pAttachedConnection.lookup o, s.KeepsPlace c ∧
      if bIdle then s.KeepsDetach c else s.KeepsClose c bZero))
  | .detachProxyConnection o => inferInstanceAs (Decidable (∀ c ∈ s.pAttachedConnection.lookup o, s.KeepsDetach c))
  | .asyncConnect _ => inferInstanceAs (Decidable True)
  | .onCreateConnectionError _ => inferInstanceAs (Decidable True)

end ProxyPools

end KonsanNet
