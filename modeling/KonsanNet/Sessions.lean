import Mathlib.Tactic
import Mathlib.Data.List.AList
import KonsanNet.Run
import KonsanNet.Send
import KonsanNet.RPCObjects

/-!
# Sessions and their connections (`SessionLogin`, `CloseConnection`, `CXSessionsManager`)

A login of type 1 takes a session from the free queue and makes the connection its main connection. A login of
another type looks a session up by the guid and attaches the connection to it. When a connection is closed it
leaves the lists of its session, and with the last one the session goes back to the free queue.

A step is a section under the lock of the manager or of a session, or a write outside them. The worker that
runs a login counts as a received message of its connection, so that the connection is not closed meanwhile;
the threads of other connections may run. Sessions and connections are numbered, a rebuilt connection keeps
its number. What a login sends back is left out, and the objects of a session are those of `RPCPool`.
-/

namespace KonsanNet

structure ConnectionSession where
  pMmainConnetion : Option Nat
  lstMessageConnections : List Nat
  lstDataConnections : List Nat
  lstObjectConnections : List Nat
  strSessionGuid : String
  strVerificationCode : String

namespace ConnectionSession

def construct : ConnectionSession := ⟨none, [], [], [], "", ""⟩

def addMainConnection (x : ConnectionSession) (con : Nat) : ConnectionSession :=
  { x with pMmainConnetion := some con }

def addMessageConnection (x : ConnectionSession) (con : Nat) : ConnectionSession :=
  { x with lstMessageConnections := x.lstMessageConnections ++ [con] }

def addDataConnection (x : ConnectionSession) (con : Nat) : ConnectionSession :=
  { x with lstDataConnections := x.lstDataConnections ++ [con] }

def removeConnection (x : ConnectionSession) (con : Nat) : ConnectionSession :=
  if x.pMmainConnetion = some con then { x with pMmainConnetion := none }
  else if con ∈ x.lstMessageConnections then
    { x with lstMessageConnections := x.lstMessageConnections.erase con }
  else if con ∈ x.lstDataConnections then { x with lstDataConnections := x.lstDataConnections.erase con }
  else { x with lstObjectConnections := x.lstObjectConnections.erase con }

def getConnectionNumber (x : ConnectionSession) : Nat :=
  (if x.pMmainConnetion.isSome then 1 else 0) + x.lstMessageConnections.length + x.lstDataConnections.length

/-- `bTimeOut` tells whether the verification code is too old. -/
def verifyCode (x : ConnectionSession) (strCode : String) (bTimeOut : Bool) : Int :=
  if strCode ≠ x.strVerificationCode then -1
  else if bTimeOut then -2
  else 0

/-- The lists are not cleared. -/
def destroy (x : ConnectionSession) : ConnectionSession :=
  { x with pMmainConnetion := none, strSessionGuid := "", strVerificationCode := "" }

end ConnectionSession

/-- Where the login of a connection stands. -/
inductive Login
  | none
  /-- at `AddMainConnection` -/
  | gotFree (pSession : Nat) (strGuid : String)
  /-- at `SetSesssionGuid` and `ResetVerificationInfo` -/
  | mainAdded (pSession : Nat) (strGuid : String)
  /-- at `AddUsingSession` -/
  | guidSet (pSession : Nat) (strGuid : String)
  /-- at `SetSession` -/
  | inUse (pSession : Nat)
  /-- at `VerifyCode` -/
  | found (pSession : Nat) (byConnectionType : UInt8) (strVerifyCode : String)
  /-- at `SetSession` -/
  | verified (pSession : Nat) (byConnectionType : UInt8)
  /-- at the `switch` -/
  | attached (pSession : Nat) (byConnectionType : UInt8)
  | loggedIn (pSession : Nat) (byConnectionType : UInt8)

namespace Login

/-- The login has not returned yet. -/
def InProgress : Login → Prop
  | none | loggedIn _ _ => False
  | _ => True

/-- The session that the login has taken or found. -/
def session : Login → Option Nat
  | none => .none
  | gotFree ss _ | mainAdded ss _ | guidSet ss _ | inUse ss => some ss
  | found ss _ _ | verified ss _ | attached ss _ | loggedIn ss _ => some ss

/-- The login has the session and is in none of the lists that are counted: it is on its way there, or its type
has no such list. -/
def Unlisted (ss : Nat) : Login → Prop
  | none | mainAdded _ _ | guidSet _ _ | inUse _ => False
  | gotFree ss' _ | found ss' _ _ | verified ss' _ | attached ss' _ => ss' = ss
  | loggedIn ss' byConnectionType => ss' = ss ∧ byConnectionType ∉ [1, 2, 3]

instance : DecidablePred InProgress
  | none | loggedIn _ _ => inferInstanceAs (Decidable False)
  | gotFree _ _ | mainAdded _ _ | guidSet _ _ | inUse _ => inferInstanceAs (Decidable True)
  | found _ _ _ | verified _ _ | attached _ _ => inferInstanceAs (Decidable True)

instance (ss : Nat) : DecidablePred (Unlisted ss)
  | none | mainAdded _ _ | guidSet _ _ | inUse _ => inferInstanceAs (Decidable False)
  | gotFree _ _ | found _ _ _ | verified _ _ | attached _ _ => inferInstanceAs (Decidable (_ = _))
  | loggedIn _ byConnectionType => inferInstanceAs (Decidable (_ ∧ byConnectionType ∉ [1, 2, 3]))

end Login

/-- Where the `CloseConnection` of a connection stands. -/
inductive Closing
  | idle
  /-- `GetSession` has been read. -/
  | gotSession (pSession : Option Nat)
  /-- `CLOSED`, at `RemoveConnection` -/
  | remove (pSession : Nat)
  /-- at `GetConnectionNumber` -/
  | count (pSession : Nat)
  /-- at `CloseSession` -/
  | closeSession (pSession : Nat)
deriving DecidableEq

structure Sessions where
  created : Nat
  session : Nat → ConnectionSession
  mapUsingSessions : StrMap Nat
  queueFreeSessions : List Nat
  /-- what `BuildSessionGuid` has returned -/
  guids : List String
  /-- the number of connection objects -/
  connections : Nat
  nState : Nat → ConnectionState
  pSession : Nat → Option Nat
  login : Nat → Login
  closing : Nat → Closing

namespace Sessions

def start : Sessions where
  created := 0
  session _ := .construct
  mapUsingSessions := ∅
  queueFreeSessions := []
  guids := []
  connections := 0
  nState _ := .initialized
  pSession _ := none
  login _ := .none
  closing _ := .idle

def setSession (s : Sessions) (ss : Nat) (x : ConnectionSession) : Sessions :=
  { s with session := Function.update s.session ss x }

def setLogin (s : Sessions) (con : Nat) (l : Login) : Sessions :=
  { s with login := Function.update s.login con l }

def setClosing (s : Sessions) (con : Nat) (c : Closing) : Sessions :=
  { s with closing := Function.update s.closing con c }

/-! ### `CXSessionsManager` -/

/-- An empty queue is filled with a thousand sessions. -/
def fill (s : Sessions) : Sessions :=
  match s.queueFreeSessions with
  | [] => { s with created := s.created + 1000, queueFreeSessions := List.range' s.created 1000 }
  | _ => s

def getFreeSession (s : Sessions) : Sessions × Option Nat :=
  match s.fill.queueFreeSessions with
  | [] => (s.fill, none)
  | ss :: queue => ({ s.fill with queueFreeSessions := queue }, some ss)

def addUsingSession (s : Sessions) (ss : Nat) : Sessions :=
  if (s.session ss).strSessionGuid ∈ s.mapUsingSessions then s
  else { s with mapUsingSessions := s.mapUsingSessions.insert (s.session ss).strSessionGuid ss }

def findUsingSession (s : Sessions) (strSessionGuid : String) : Option Nat :=
  s.mapUsingSessions.lookup strSessionGuid

def closeSession (s : Sessions) (ss : Nat) : Sessions :=
  if (s.session ss).strSessionGuid ∈ s.mapUsingSessions then
    { s with
      mapUsingSessions := s.mapUsingSessions.erase (s.session ss).strSessionGuid
      queueFreeSessions := s.queueFreeSessions ++ [ss] }.setSession ss (s.session ss).destroy
  else s

/-! ### The steps -/

/-- `SessionLogin` up to the end of its first section. The user data are `strValue1` and `strValue2`, `strGuid` is
what `BuildSessionGuid` returns. -/
def sessionLogin (s : Sessions) (con : Nat) (byConnectionType : UInt8) (strValue1 strValue2 strGuid : String) :
    Option Sessions :=
  if (s.pSession con).isSome then some s
  else if byConnectionType = 1 then
    if strGuid ≠ "" ∧ strGuid ∉ s.guids then
      match { s with guids := strGuid :: s.guids }.getFreeSession with
      | (s, none) => some s
      | (s, some ss) => some (s.setLogin con (.gotFree ss strGuid))
    else none
  else
    match s.findUsingSession strValue1 with
    | none => some s
    | some ss => some (s.setLogin con (.found ss byConnectionType strValue2))

/-- The next section of the login. `strCode` is the new verification code, `bTimeOut` tells whether the old one
has timed out. -/
def runLogin (s : Sessions) (con : Nat) (strCode : String) (bTimeOut : Bool) : Option Sessions :=
  match s.login con with
  | .none | .loggedIn _ _ => none
  | .gotFree ss strGuid =>
    some ((s.setSession ss ((s.session ss).addMainConnection con)).setLogin con (.mainAdded ss strGuid))
  | .mainAdded ss strGuid =>
    some ((s.setSession ss { s.session ss with strSessionGuid := strGuid, strVerificationCode := strCode }).setLogin
      con (.guidSet ss strGuid))
  | .guidSet ss _ => some ((s.addUsingSession ss).setLogin con (.inUse ss))
  | .inUse ss => some ({ s with pSession := Function.update s.pSession con (some ss) }.setLogin con (.loggedIn ss 1))
  | .found ss byConnectionType strVerifyCode =>
    some (s.setLogin con
      (if (s.session ss).verifyCode strVerifyCode bTimeOut = 0 then .verified ss byConnectionType else .none))
  | .verified ss byConnectionType =>
    some ({ s with pSession := Function.update s.pSession con (some ss) }.setLogin con (.attached ss byConnectionType))
  | .attached ss byConnectionType =>
    let s := match byConnectionType with
      | 2 => s.setSession ss ((s.session ss).addMessageConnection con)
      | 3 => s.setSession ss ((s.session ss).addDataConnection con)
      | _ => s
    some (s.setLogin con (.loggedIn ss byConnectionType))

/-- The next section of `CloseConnection` once the connection is `CLOSED`. -/
def runClose (s : Sessions) (con : Nat) : Option Sessions :=
  match s.closing con with
  | .idle | .gotSession _ => none
  | .remove ss => some ((s.setSession ss ((s.session ss).removeConnection con)).setClosing con (.count ss))
  | .count ss =>
    some (s.setClosing con (if (s.session ss).getConnectionNumber = 0 then .closeSession ss else .idle))
  | .closeSession ss => some ((s.closeSession ss).setClosing con .idle)

inductive Action
  /-- `OnAccept`, with a new connection object or one that is used again -/
  | accept (con : Nat)
  | sessionLogin (con : Nat) (byConnectionType : UInt8) (strValue1 strValue2 strGuid : String)
  | runLogin (con : Nat) (strCode : String) (bTimeOut : Bool)
  /-- `CloseConnection` reads the session. -/
  | closeConnection (con : Nat)
  /-- `bZero` tells whether the other three counters are zero -/
  | close (con : Nat) (bZero : Bool)
  | runClose (con : Nat)

def step (s : Sessions) : Action → Option Sessions
  | .accept con =>
    if con = s.connections ∨ con < s.connections ∧ s.nState con = .closed ∧ s.closing con = .idle then
      some { s with
        connections := max s.connections (con + 1)
        nState := Function.update s.nState con .established
        pSession := Function.update s.pSession con none
        login := Function.update s.login con .none }
    else none
  | .sessionLogin con byConnectionType strValue1 strValue2 strGuid =>
    if con < s.connections ∧ s.nState con ≠ .closed ∧ ¬ (s.login con).InProgress then
      s.sessionLogin con byConnectionType strValue1 strValue2 strGuid
    else none
  | .runLogin con strCode bTimeOut => s.runLogin con strCode bTimeOut
  | .closeConnection con =>
    if con < s.connections ∧ s.nState con ≠ .closed ∧ s.closing con = .idle then
      some (s.setClosing con (.gotSession (s.pSession con)))
    else none
  | .close con bZero =>
    match s.closing con with
    | .gotSession pSession =>
      -- the message of a login is still counted
      if bZero ∧ ¬ (s.login con).InProgress then
        some ({ s with nState := Function.update s.nState con .closed }.setClosing con
          (match pSession with
            | none => .idle
            | some ss => .remove ss))
      else some ({ s with nState := Function.update s.nState con .closing }.setClosing con .idle)
    | _ => none
  | .runClose con => s.runClose con

/-! ### What is promised -/

def Using (s : Sessions) (ss : Nat) : Prop := ∃ strGuid, s.mapUsingSessions.lookup strGuid = some ss

/-- A session in the free queue is there once, in no use and of no open connection; the session of an open
connection is in use, under one guid. -/
structure Consistent (s : Sessions) : Prop where
  free : ∀ ss ∈ s.queueFreeSessions, ∀ con, s.nState con ≠ .closed → s.pSession con ≠ some ss
  member : ∀ con ss, s.nState con ≠ .closed → s.pSession con = some ss → s.Using ss
  nodup : s.queueFreeSessions.Nodup
  disjoint : ∀ ss ∈ s.queueFreeSessions, ¬ s.Using ss
  guid : ∀ ss g g', s.mapUsingSessions.lookup g = some ss → s.mapUsingSessions.lookup g' = some ss → g = g'

/-! ### When it holds -/

/-- A close has counted no connection of the session and has not closed it yet. -/
def Emptied (s : Sessions) (ss : Nat) : Prop := ∃ con < s.connections, s.closing con = .closeSession ss

/-- The session that `SessionLogin` is going to take or find. -/
def wanted (s : Sessions) (con : Nat) (byConnectionType : UInt8) (strValue1 : String) : Option Nat :=
  if (s.pSession con).isSome then none
  else if byConnectionType = 1 then s.queueFreeSessions.head?
  else s.findUsingSession strValue1

def Keeps (s : Sessions) : Action → Prop
  | .sessionLogin con byConnectionType strValue1 _ _ =>
    ∀ ss ∈ s.wanted con byConnectionType strValue1, ¬ s.Emptied ss
  | .runClose con =>
    match s.closing con with
    | .count ss => (s.session ss).getConnectionNumber = 0 →
      ∀ con' < s.connections, s.nState con' ≠ .closed → ¬ (s.login con').Unlisted ss
    | _ => True
  | _ => True

instance (s : Sessions) (ss : Nat) : Decidable (s.Emptied ss) :=
  inferInstanceAs (Decidable (∃ con < s.connections, s.closing con = .closeSession ss))

instance (s : Sessions) : DecidablePred s.Keeps
  | .sessionLogin con byConnectionType strValue1 _ _ =>
    inferInstanceAs (Decidable (∀ ss ∈ s.wanted con byConnectionType strValue1, ¬ s.Emptied ss))
  | .runClose con =>
    match h : s.closing con with
    | .count ss =>
      decidable_of_iff ((s.session ss).getConnectionNumber = 0 →
        ∀ con' < s.connections, s.nState con' ≠ .closed → ¬ (s.login con').Unlisted ss) (by simp [Keeps, h])
    | .idle | .gotSession _ | .remove _ | .closeSession _ => .isTrue (by simp [Keeps, h])
  | .accept _ | .runLogin _ _ _ | .closeConnection _ | .close _ _ => inferInstanceAs (Decidable True)

end Sessions

end KonsanNet
