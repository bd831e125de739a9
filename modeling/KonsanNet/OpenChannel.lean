import KonsanNet.Recycle

/-!
# Opening, closing and opening again (`CXClientSocketChannel`, `CXClientConnectionSession`)

`CXTcpClient::Close` is called by the user, by the session and where a send or a receive fails. It leaves
`m_bIsOpened`, a member of the derived class, and `m_byRPCObjectGuid`, into which an object id may have been
copied, as they are. So a channel that was closed while it was open is still reported open, and the next
`OpenChannel` does nothing and succeeds (`not_sound_reopened`). Where no open channel is closed, the channels
are as they should be (`channels_sound`).

`SendHeartPacket` is a send, a receive and on failure a `Close`; each of them is a step here.
-/

namespace KonsanNet

namespace OpenChannel

inductive ChannelType
  | majorMes
  | minorMes
  | data
  | object
deriving DecidableEq

/-- How a `SendPacket` goes; `newGuid` is the new request id. -/
inductive SendAnswer
  | invalidParameter
  /-- `SetSendBufferSize` fails -/
  | noMemory (newGuid : List Nat)
  /-- `PrepareData` fails -/
  | notPrepared (newGuid : List Nat)
  /-- `Send` sends less than the packet -/
  | failed (newGuid : List Nat)
  | sent (newGuid : List Nat)

/-- A packet that was received, with a `CXCommonMessageReply` in it; `bFits` says that the data fits the buffer
of the caller, and `szData` has the bytes before the first `NUL`. -/
structure Received where
  byObjectGuid : List Nat
  byRequestID : List Nat
  dwMesCode : Nat
  bFits : Bool
  dwReplyCode : Nat
  dwDataLen : Nat
  szData : List Nat

/-- How a `RecvPacket` goes. -/
inductive RecvAnswer
  /-- `Recv` fails for the header, or the peer has closed -/
  | noHeader
  | tooLong
  | badFlag
  /-- `SetRecvBufferSize` fails -/
  | noMemory
  /-- `Recv` fails for the body -/
  | noBody
  /-- `dwDataLen` is 0, which `Recv` refuses -/
  | emptyBody
  /-- no parser handle, or `ParseData` fails -/
  | notParsed
  | packet (p : Received)

/-- What happens during an `OpenChannel`: whether there is memory, a socket and a server, and how the login goes. -/
structure OpenAnswer where
  bBuffers : Bool
  bSocket : Bool
  bConnect : Bool
  send : SendAnswer
  recv : RecvAnswer

/-- The members of `CXTcpClient` and `CXClientSocketChannel` that these functions use. From `sock` to `logged`:
`m_sock` is valid, `connect` has succeeded on it, a login has succeeded on it. The last four are for the
statements: the guid of the last `SetRPCObjectGuid` of the user, whether no request was sent since the channel
was opened, the guid of each first request with that of the user, and whether each `OpenChannel` that succeeded
left a channel that is connected and logged in. -/
structure ClientSocketChannel where
  channelType : ChannelType
  strSessionID : List Nat
  strVerifyCode : List Nat
  strRemoteUser : List Nat
  strRemotePassword : List Nat
  bIsOpened : Bool
  bCreated : Bool
  bConnected : Bool
  bGetRealObjectID : Bool
  byRPCObjectGuid : List Nat
  byRequestID : List Nat
  sock : Bool
  linked : Bool
  logged : Bool
  userGuid : List Nat
  bFirst : Bool
  firsts : List (List Nat × List Nat)
  opens : List Bool

namespace ClientSocketChannel

/-- `CXClientSocketChannel()` -/
def construct : ClientSocketChannel where
  channelType := .majorMes
  strSessionID := []
  strVerifyCode := []
  strRemoteUser := []
  strRemotePassword := []
  bIsOpened := false
  bCreated := false
  bConnected := false
  bGetRealObjectID := false
  byRPCObjectGuid := Recycle.noGuid
  byRequestID := Recycle.noGuid
  sock := false
  linked := false
  logged := false
  userGuid := Recycle.noGuid
  bFirst := false
  firsts := []
  opens := []

def byLoginObjGuid : List Nat :=
  match Recycle.g_mapRPCObjectGuid.find? fun e => e.1 = "CXConnectionLoginV1" with
  | some e => Recycle.convertGuid e.2
  | none => Recycle.noGuid

def setRPCObjectGuid (pbyGuid : List Nat) (c : ClientSocketChannel) : ClientSocketChannel :=
  { c with byRPCObjectGuid := pbyGuid }

/-! ### `CXTcpClient` -/

def close (c : ClientSocketChannel) : ClientSocketChannel :=
  { c with
    -- both branches close the socket; without either flag there is none
    sock := if c.bConnected ∨ c.bCreated then false else c.sock
    linked := false
    logged := false
    bConnected := false
    bGetRealObjectID := false }

/-- `Create(false)`: the old value of `m_sock` is overwritten, `m_bCreated` stays set if there is no new socket. -/
def create (a : OpenAnswer) (c : ClientSocketChannel) : ClientSocketChannel × Int :=
  if a.bBuffers = false then (c, -3)
  else
    let c := { c with sock := a.bSocket, linked := false, logged := false, bCreated := c.bCreated || a.bSocket }
    (c, if c.bCreated then 0 else -2)

def connect (a : OpenAnswer) (c : ClientSocketChannel) : ClientSocketChannel × Int :=
  if c.bConnected then (c, 0)
  else if c.bCreated = false then (c, -2)
  else if c.sock ∧ a.bConnect then ({ c with linked := true, bConnected := true }, 0)
  else (c.close, -3)

/-- The socket takes nothing unless it is connected. -/
def sendPacket : SendAnswer → ClientSocketChannel → ClientSocketChannel × Int
  | .invalidParameter, c => (c, -1)
  | .noMemory newGuid, c => ({ c with byRequestID := newGuid }, -2)
  | .notPrepared newGuid, c => ({ c with byRequestID := newGuid }, -3)
  | .failed newGuid, c => (close { c with byRequestID := newGuid }, -6)
  | .sent newGuid, c =>
    let c := { c with byRequestID := newGuid }
    if c.bConnected ∧ c.bCreated ∧ c.linked then (c, 0) else (c.close, -6)

/-- "if the object id had been changed by the server, also change it in here" -/
def learns (p : Received) (c : ClientSocketChannel) : Bool :=
  !c.bGetRealObjectID && p.byObjectGuid != c.byRPCObjectGuid && p.byRequestID == c.byRequestID

/-- `RecvPacket` into a buffer of the caller. -/
def recvPacket (a : RecvAnswer) (c : ClientSocketChannel) : ClientSocketChannel × Except Int Received :=
  if c.bConnected = false ∨ c.bCreated = false then (c, .error (-2))
  else if c.linked = false then (c.close, .error (-3))
  else
    match a with
    | .noHeader => (c.close, .error (-3))
    | .tooLong => (c.close, .error (-4))
    | .badFlag => (c.close, .error (-5))
    | .noMemory => (c, .error (-6))
    | .noBody => (c.close, .error (-7))
    | .emptyBody => (c, .error (-7))
    | .notParsed => (c, .error (-3))
    | .packet p =>
      let c := if c.learns p then { c with byRPCObjectGuid := p.byObjectGuid, bGetRealObjectID := true } else c
      (c, if p.bFits then .ok p else .error (-8))

/-! ### `CXClientSocketChannel` -/

/-- The session id and the verify code before and behind the `'\r'` of `szData`. -/
def parseIDs (p : Received) : List Nat × List Nat :=
  match p.szData.findIdx? (· = 13) with
  | none => ([], [])
  | some pos =>
    if (p.dwDataLen + 2 ^ 32 - 1) % 2 ^ 32 < pos then ([], []) else (p.szData.take pos, p.szData.drop (pos + 1))

/-- What `Login` does with the reply. -/
def loginReply (p : Received) (c : ClientSocketChannel) : ClientSocketChannel × Int :=
  -- `CX_SESSION_LOGIN_REPLY_CODE`
  if p.dwMesCode ≠ 2 then (c.close, -5)
  else if p.dwReplyCode ≠ 200 then (c.close, -6)
  else
    let c := { c with logged := true }
    if c.channelType = .majorMes then
      ({ c with strSessionID := (parseIDs p).1, strVerifyCode := (parseIDs p).2 }, 0)
    else (c, 0)

/-- The packet goes to the object of the login; the guid that was there before is put back in every case. -/
def login (strUserName strPassword : List Nat) (a : OpenAnswer) (c : ClientSocketChannel) :
    ClientSocketChannel × Int :=
  if strUserName = [] ∨ 128 < strUserName.length ∨ strPassword = [] ∨ 256 < strPassword.length then (c, -1)
  else
    let byOldGuid := c.byRPCObjectGuid
    match (c.setRPCObjectGuid byLoginObjGuid).sendPacket a.send with
    | (c, iTransRet) =>
      if iTransRet ≠ 0 then (c.close.setRPCObjectGuid byOldGuid, -3)
      else
        match c.recvPacket a.recv with
        | (c, .error _) => ((c.setRPCObjectGuid byOldGuid).close, -4)
        | (c, .ok p) => (c.setRPCObjectGuid byOldGuid).loginReply p

/-- `m_strSessionID == "" || m_strVerifyCode == ""` -/
def noIDs (c : ClientSocketChannel) : Bool := c.strSessionID = [] || c.strVerifyCode = []

/-- The part of `OpenChannel` behind the connection. -/
def loginChannel (a : OpenAnswer) (c : ClientSocketChannel) : ClientSocketChannel × Int :=
  match if c.channelType = .majorMes then c.login c.strRemoteUser c.strRemotePassword a
    else c.login c.strSessionID c.strVerifyCode a with
  | (c, iRet) =>
    if iRet ≠ 0 then (c, -3) else if c.noIDs then (c, -1) else ({ c with bIsOpened := true }, 0)

def openChannel (a : OpenAnswer) (c : ClientSocketChannel) : ClientSocketChannel × Int :=
  if c.channelType ≠ .majorMes ∧ c.noIDs then (c, -1)
  else if c.bIsOpened then (c, 0)
  else
    match c.create a with
    | (c, iRet) =>
      if iRet ≠ 0 then (c, -2)
      else
        match c.connect a with
        | (c, iRet) => if iRet ≠ 0 then (c, -2) else c.loginChannel a

/-! ### What the statements speak of -/

/-- `OpenChannel` with its success written down; where the channel was not open and connected before, the next
request is the first one. -/
def opening (a : OpenAnswer) (c : ClientSocketChannel) : ClientSocketChannel × Int :=
  match c.openChannel a with
  | (c', iRet) =>
    if iRet = 0 then
      ({ c' with
        opens := c'.opens ++ [c'.bConnected && c'.linked && c'.logged]
        bFirst := c'.bFirst || !(c.bIsOpened && c.bConnected) }, iRet)
    else (c', iRet)

/-- A `SendPacket` of the user, with its guid written down if it is the first one that was sent. -/
def request (a : SendAnswer) (c : ClientSocketChannel) : ClientSocketChannel :=
  match c.sendPacket a with
  | (c', iRet) =>
    if iRet = 0 ∧ c.bFirst then
      { c' with firsts := c'.firsts ++ [(c.byRPCObjectGuid, c.userGuid)], bFirst := false }
    else c'

/-- Open is connected, `OpenChannel` has succeeded on connected and logged in sockets only, and each first
request had the guid of the user. -/
structure Sound (c : ClientSocketChannel) : Prop where
  isOpen : c.bIsOpened = true → c.bConnected = true
  opens : ∀ b ∈ c.opens, b = true
  firsts : ∀ p ∈ c.firsts, p.1 = p.2

end ClientSocketChannel

/-! ### `CXClientConnectionSession` -/

/-- The channels are named by numbers; some belong to the session, the user has all of them. -/
structure ClientConnectionSession where
  channels : Nat → ClientSocketChannel
  pMmainConnetion : Option Nat
  lstMessageConnections : List Nat
  lstDataConnections : List Nat
  lstObjectConnections : List Nat
  strSessionID : List Nat
  strVerifyCode : List Nat
  strRemoteUser : List Nat
  strRemotePassword : List Nat
  /-- `m_addressRemote.IsHaveAddress()` -/
  bHaveAddress : Bool

namespace ClientConnectionSession

/-- `CXClientConnectionSession()`, before any channel is used -/
def construct : ClientConnectionSession where
  channels := fun _ => ClientSocketChannel.construct
  pMmainConnetion := none
  lstMessageConnections := []
  lstDataConnections := []
  lstObjectConnections := []
  strSessionID := []
  strVerifyCode := []
  strRemoteUser := []
  strRemotePassword := []
  bHaveAddress := false

def setChannel (ch : Nat) (c : ClientSocketChannel) (s : ClientConnectionSession) : ClientConnectionSession :=
  { s with channels := Function.update s.channels ch c }

def closeAll : List Nat → ClientConnectionSession → ClientConnectionSession
  | [], s => s
  | ch :: chs, s => closeAll chs (s.setChannel ch (s.channels ch).close)

/-- The channels that `Close` closes: not those of `m_lstObjectConnections`. -/
def listed (s : ClientConnectionSession) : List Nat :=
  s.pMmainConnetion.toList ++ s.lstMessageConnections ++ s.lstDataConnections

def close (s : ClientConnectionSession) : ClientConnectionSession :=
  { s.closeAll s.listed with
    pMmainConnetion := none
    lstMessageConnections := []
    lstDataConnections := []
    strSessionID := []
    strVerifyCode := [] }

def removeConnection (ch : Nat) (s : ClientConnectionSession) : ClientConnectionSession :=
  if s.pMmainConnetion = some ch then { s with pMmainConnetion := none }
  else if ch ∈ s.lstMessageConnections then
    { s with lstMessageConnections := s.lstMessageConnections.erase ch }
  else { s with lstDataConnections := s.lstDataConnections.erase ch }

/-- "the major channel exists" -/
def majorExists (chanelType : ChannelType) (s : ClientConnectionSession) : Bool :=
  chanelType = .majorMes && s.pMmainConnetion.any fun ch => (s.channels ch).bIsOpened

/-- The channel with the type, the user and the ids of the session. -/
def prepared (ch : Nat) (chanelType : ChannelType) (s : ClientConnectionSession) : ClientSocketChannel :=
  { s.channels ch with
    channelType := chanelType
    strRemoteUser := s.strRemoteUser
    strRemotePassword := s.strRemotePassword
    strSessionID := s.strSessionID
    strVerifyCode := s.strVerifyCode }

/-- The session holds the channel `c`, which is open. -/
def addOpened (ch : Nat) (chanelType : ChannelType) (c : ClientSocketChannel) (s : ClientConnectionSession) :
    ClientConnectionSession :=
  match chanelType with
  | .majorMes =>
    { s with pMmainConnetion := some ch, strSessionID := c.strSessionID, strVerifyCode := c.strVerifyCode }
  | .minorMes => { s with lstMessageConnections := s.lstMessageConnections ++ [ch] }
  | .data => { s with lstDataConnections := s.lstDataConnections ++ [ch] }
  | .object => { s with lstObjectConnections := s.lstObjectConnections ++ [ch] }

def openChannel (ch : Nat) (chanelType : ChannelType) (a : OpenAnswer) (s : ClientConnectionSession) :
    ClientConnectionSession × Int :=
  if s.bHaveAddress = false then (s, -1)
  else if s.majorExists chanelType then (s, -4)
  else
    match (s.prepared ch chanelType).opening a with
    | (c, iOperationRet) =>
      if iOperationRet = 0 then ((s.setChannel ch c).addOpened ch chanelType c, 0)
      else (s.setChannel ch c.close, iOperationRet)

/-! ### Runs -/

inductive Op
  /-- the session -/
  | setRemoteAddress
  | setUserInfo (strRemoteUser strRemotePassword : List Nat)
  | openChannel (ch : Nat) (chanelType : ChannelType) (a : OpenAnswer)
  | addMainConnection (ch : Nat)
  | addMessageConnection (ch : Nat)
  | addDataConnection (ch : Nat)
  | removeConnection (ch : Nat)
  | close
  /-- a channel -/
  | channelOpen (ch : Nat) (a : OpenAnswer)
  | channelClose (ch : Nat)
  | channelRequest (ch : Nat) (a : SendAnswer)
  | channelRecv (ch : Nat) (a : RecvAnswer)
  | channelSetGuid (ch : Nat) (pbyGuid : List Nat)
  | channelSetType (ch : Nat) (cType : ChannelType)
  | channelSetIDs (ch : Nat) (strSessionID strVerifyCode : List Nat)
  | channelSetUserInfo (ch : Nat) (strRemoteUser strRemotePassword : List Nat)

def apply (s : ClientConnectionSession) : Op → ClientConnectionSession
  | .setRemoteAddress => { s with bHaveAddress := true }
  | .setUserInfo strRemoteUser strRemotePassword =>
    { s with strRemoteUser := strRemoteUser, strRemotePassword := strRemotePassword }
  | .openChannel ch chanelType a => (s.openChannel ch chanelType a).1
  | .addMainConnection ch => { s with pMmainConnetion := some ch }
  | .addMessageConnection ch => { s with lstMessageConnections := s.lstMessageConnections ++ [ch] }
  | .addDataConnection ch => { s with lstDataConnections := s.lstDataConnections ++ [ch] }
  | .removeConnection ch => s.removeConnection ch
  | .close => s.close
  | .channelOpen ch a => s.setChannel ch ((s.channels ch).opening a).1
  | .channelClose ch => s.setChannel ch (s.channels ch).close
  | .channelRequest ch a => s.setChannel ch ((s.channels ch).request a)
  | .channelRecv ch a => s.setChannel ch ((s.channels ch).recvPacket a).1
  | .channelSetGuid ch pbyGuid =>
    s.setChannel ch { (s.channels ch).setRPCObjectGuid pbyGuid with userGuid := pbyGuid }
  | .channelSetType ch cType => s.setChannel ch { s.channels ch with channelType := cType }
  | .channelSetIDs ch strSessionID strVerifyCode =>
    s.setChannel ch { s.channels ch with strSessionID := strSessionID, strVerifyCode := strVerifyCode }
  | .channelSetUserInfo ch strRemoteUser strRemotePassword =>
    s.setChannel ch { s.channels ch with strRemoteUser := strRemoteUser, strRemotePassword := strRemotePassword }

def step (s : ClientConnectionSession) (op : Op) : Option ClientConnectionSession := some (s.apply op)

/-- Every channel is as it should be. -/
def Sound (s : ClientConnectionSession) : Prop := ∀ ch, (s.channels ch).Sound

end ClientConnectionSession

/-! ### The condition on the steps -/

/-- The answers after which `SendPacket` calls `Close`, on a channel that is connected. -/
def SendAnswer.closes : SendAnswer → Bool
  | .failed _ => true
  | _ => false

/-- The answers after which `RecvPacket` calls `Close`. -/
def RecvAnswer.closes : RecvAnswer → Bool
  | .noHeader | .tooLong | .badFlag | .noBody => true
  | _ => false

/-- The receive does not close an open channel, and an object id is learned only on an open channel on which a
request was sent. -/
structure RecvOk (c : ClientSocketChannel) (a : RecvAnswer) : Prop where
  closes : c.bIsOpened = true → a.closes = false
  learns : ∀ p, a = .packet p → c.bConnected = true → c.linked = true → c.learns p = true →
    c.bIsOpened = true ∧ c.bFirst = false

namespace ClientConnectionSession

/-- The step does not close a channel that is open. -/
def StepOk (s : ClientConnectionSession) : Op → Prop
  | .openChannel ch chanelType _ => (s.channels ch).bIsOpened = true → s.bHaveAddress = true →
    s.majorExists chanelType = false → chanelType = .majorMes ∨ (s.prepared ch chanelType).noIDs = false
  | .close => ∀ ch ∈ s.listed, (s.channels ch).bIsOpened = false
  | .channelClose ch => (s.channels ch).bIsOpened = false
  | .channelRequest ch a => (s.channels ch).bIsOpened = true → a.closes = false
  | .channelRecv ch a => RecvOk (s.channels ch) a
  | _ => True

end ClientConnectionSession

/-! ### One channel -/

namespace ClientSocketChannel

/-- An open channel is connected and logged in, and until the first request the guid is that of the user. -/
structure Inv (c : ClientSocketChannel) : Prop where
  created : c.bIsOpened = true → c.bCreated = true
  connected : c.bIsOpened = true → c.bConnected = true
  linked : c.bIsOpened = true → c.linked = true
  logged : c.bIsOpened = true → c.logged = true
  guid : c.bIsOpened = false ∨ c.bFirst = true → c.byRPCObjectGuid = c.userGuid
  opens : ∀ b ∈ c.opens, b = true
  firsts : ∀ p ∈ c.firsts, p.1 = p.2

theorem Inv.sound {c : ClientSocketChannel} (h : Inv c) : c.Sound := ⟨h.connected, h.opens, h.firsts⟩

theorem inv_construct : Inv construct :=
  ⟨nofun, nofun, nofun, nofun, fun _ => rfl, nofun, nofun⟩

/-- What the functions of the socket leave alone. -/
structure Kept (c c' : ClientSocketChannel) : Prop where
  bIsOpened : c'.bIsOpened = c.bIsOpened
  userGuid : c'.userGuid = c.userGuid
  bFirst : c'.bFirst = c.bFirst
  firsts : c'.firsts = c.firsts
  opens : c'.opens = c.opens

namespace Kept

variable {c c' c'' : ClientSocketChannel}

theorem refl (c : ClientSocketChannel) : Kept c c := ⟨rfl, rfl, rfl, rfl, rfl⟩

theorem trans (h : Kept c c') (h' : Kept c' c'') : Kept c c'' :=
  ⟨h'.bIsOpened.trans h.bIsOpened, h'.userGuid.trans h.userGuid, h'.bFirst.trans h.bFirst,
    h'.firsts.trans h.firsts, h'.opens.trans h.opens⟩

/-- Such a step on a channel that is not open keeps the invariant if the guid is kept too. -/
theorem inv (h : Kept c c') (hc : Inv c) (ho : c.bIsOpened = false)
    (hg : c'.byRPCObjectGuid = c.byRPCObjectGuid) : Inv c' where
  created := fun h' => absurd (h.bIsOpened.symm.trans h') (by simp [ho])
  connected := fun h' => absurd (h.bIsOpened.symm.trans h') (by simp [ho])
  linked := fun h' => absurd (h.bIsOpened.symm.trans h') (by simp [ho])
  logged := fun h' => absurd (h.bIsOpened.symm.trans h') (by simp [ho])
  guid := fun _ => by rw [hg, h.userGuid, hc.guid (Or.inl ho)]
  opens := h.opens ▸ hc.opens
  firsts := h.firsts ▸ hc.firsts

end Kept

variable {c : ClientSocketChannel}

theorem kept_close (c : ClientSocketChannel) : Kept c c.close := ⟨rfl, rfl, rfl, rfl, rfl⟩

theorem kept_setRPCObjectGuid (g : List Nat) (c : ClientSocketChannel) : Kept c (c.setRPCObjectGuid g) :=
  ⟨rfl, rfl, rfl, rfl, rfl⟩

theorem inv_close (h : Inv c) (ho : c.bIsOpened = false) : Inv c.close := (kept_close c).inv h ho rfl

theorem kept_create (a : OpenAnswer) (c : ClientSocketChannel) :
    Kept c (c.create a).1 ∧ (c.create a).1.byRPCObjectGuid = c.byRPCObjectGuid := by
  unfold create
  split
  · exact ⟨Kept.refl c, rfl⟩
  · exact ⟨⟨rfl, rfl, rfl, rfl, rfl⟩, rfl⟩

theorem kept_connect (a : OpenAnswer) (c : ClientSocketChannel) :
    Kept c (c.connect a).1 ∧ (c.connect a).1.byRPCObjectGuid = c.byRPCObjectGuid := by
  unfold connect
  split
  · exact ⟨Kept.refl c, rfl⟩
  · split
    · exact ⟨Kept.refl c, rfl⟩
    · split
      · exact ⟨⟨rfl, rfl, rfl, rfl, rfl⟩, rfl⟩
      · exact ⟨kept_close c, rfl⟩

theorem kept_sendPacket (a : SendAnswer) (c : ClientSocketChannel) :
    Kept c (c.sendPacket a).1 ∧ (c.sendPacket a).1.byRPCObjectGuid = c.byRPCObjectGuid := by
  cases a with
  | sent newGuid =>
    simp only [sendPacket]
    split
    · exact ⟨⟨rfl, rfl, rfl, rfl, rfl⟩, rfl⟩
    · exact ⟨⟨rfl, rfl, rfl, rfl, rfl⟩, rfl⟩
  | _ => exact ⟨⟨rfl, rfl, rfl, rfl, rfl⟩, rfl⟩

theorem kept_recvPacket (a : RecvAnswer) (c : ClientSocketChannel) : Kept c (c.recvPacket a).1 := by
  unfold recvPacket
  split
  · exact Kept.refl c
  · split
    · exact kept_close c
    · cases a with
      | packet p =>
        simp only
        split
        · exact ⟨rfl, rfl, rfl, rfl, rfl⟩
        · exact Kept.refl c
      | noHeader | tooLong | badFlag | noBody => exact kept_close c
      | noMemory | emptyBody | notParsed => exact Kept.refl c

/-- A packet is received on a connected socket only, and the socket is as it was. -/
theorem recvPacket_eq_ok {a : RecvAnswer} {p : Received} (h : (c.recvPacket a).2 = .ok p) :
    c.bConnected = true ∧ c.bCreated = true ∧ c.linked = true ∧
      (c.recvPacket a).1.bConnected = true ∧ (c.recvPacket a).1.bCreated = true ∧
      (c.recvPacket a).1.linked = true := by
  unfold recvPacket at h ⊢
  by_cases h₁ : c.bConnected = false ∨ c.bCreated = false
  · rw [if_pos h₁] at h
    cases h
  · by_cases h₂ : c.linked = false
    · rw [if_neg h₁, if_pos h₂] at h
      cases h
    · rw [if_neg h₁, if_neg h₂] at h ⊢
      simp only [not_or, Bool.not_eq_false] at h₁ h₂
      refine ⟨h₁.1, h₁.2, h₂, ?_⟩
      cases a with
      | packet p =>
        simp only
        split
        · exact ⟨h₁.1, h₁.2, h₂⟩
        · exact ⟨h₁.1, h₁.2, h₂⟩
      | _ => cases h

theorem kept_loginReply (p : Received) (c : ClientSocketChannel) :
    Kept c (c.loginReply p).1 ∧ (c.loginReply p).1.byRPCObjectGuid = c.byRPCObjectGuid := by
  unfold loginReply
  split
  · exact ⟨kept_close c, rfl⟩
  · split
    · exact ⟨kept_close c, rfl⟩
    · dsimp only
      split
      · exact ⟨⟨rfl, rfl, rfl, rfl, rfl⟩, rfl⟩
      · exact ⟨⟨rfl, rfl, rfl, rfl, rfl⟩, rfl⟩

theorem loginReply_eq_zero {p : Received} (h : (c.loginReply p).2 = 0) :
    (c.loginReply p).1.bConnected = c.bConnected ∧ (c.loginReply p).1.bCreated = c.bCreated ∧
      (c.loginReply p).1.linked = c.linked ∧ (c.loginReply p).1.logged = true := by
  unfold loginReply at h ⊢
  split
  · next h₁ =>
    rw [if_pos h₁] at h
    cases h
  · next h₁ =>
    rw [if_neg h₁] at h
    split
    · next h₂ =>
      rw [if_pos h₂] at h
      cases h
    · dsimp only
      split
      · exact ⟨rfl, rfl, rfl, rfl⟩
      · exact ⟨rfl, rfl, rfl, rfl⟩

theorem kept_login (strUserName strPassword : List Nat) (a : OpenAnswer) (c : ClientSocketChannel) :
    Kept c (c.login strUserName strPassword a).1 ∧
      (c.login strUserName strPassword a).1.byRPCObjectGuid = c.byRPCObjectGuid := by
  unfold login
  split
  · exact ⟨Kept.refl c, rfl⟩
  · have hsend := ((kept_setRPCObjectGuid byLoginObjGuid c).trans (kept_sendPacket a.send _).1)
    generalize (c.setRPCObjectGuid byLoginObjGuid).sendPacket a.send = r at hsend ⊢
    obtain ⟨c₁, iTransRet⟩ := r
    dsimp only at hsend ⊢
    split
    · exact ⟨(hsend.trans (kept_close c₁)).trans (kept_setRPCObjectGuid _ _), rfl⟩
    · have hrecv := hsend.trans (kept_recvPacket a.recv c₁)
      generalize c₁.recvPacket a.recv = r at hrecv ⊢
      obtain ⟨c₂, _ | p⟩ := r
      · exact ⟨(hrecv.trans (kept_setRPCObjectGuid _ c₂)).trans (kept_close _), rfl⟩
      · exact ⟨(hrecv.trans (kept_setRPCObjectGuid _ c₂)).trans (kept_loginReply p _).1, (kept_loginReply p _).2⟩

theorem login_eq_zero {strUserName strPassword : List Nat} {a : OpenAnswer}
    (h : (c.login strUserName strPassword a).2 = 0) :
    (c.login strUserName strPassword a).1.bConnected = true ∧
      (c.login strUserName strPassword a).1.bCreated = true ∧
      (c.login strUserName strPassword a).1.linked = true ∧
      (c.login strUserName strPassword a).1.logged = true := by
  unfold login at h ⊢
  split
  · next h₁ =>
    rw [if_pos h₁] at h
    cases h
  · next h₁ =>
    rw [if_neg h₁] at h
    generalize (c.setRPCObjectGuid byLoginObjGuid).sendPacket a.send = r at h ⊢
    obtain ⟨c₁, iTransRet⟩ := r
    dsimp only at h ⊢
    split
    · next h₂ =>
      rw [if_pos h₂] at h
      cases h
    · next h₂ =>
      rw [if_neg h₂] at h
      rcases hr : c₁.recvPacket a.recv with ⟨c₂, _ | p⟩
      · simp only [hr] at h
        cases h
      · simp only [hr] at h ⊢
        have hok := recvPacket_eq_ok (congrArg Prod.snd hr)
        rw [hr] at hok
        obtain ⟨hcon, hcre, hlink, hlog⟩ := loginReply_eq_zero h
        exact ⟨hcon.trans hok.2.2.2.1, hcre.trans hok.2.2.2.2.1, hlink.trans hok.2.2.2.2.2, hlog⟩

/-- What `OpenChannel` does to a channel that is not open: it stays so, or it is open on a socket that is
connected and logged in. -/
inductive Opened (c : ClientSocketChannel) : ClientSocketChannel × Int → Prop
  | failed {c' : ClientSocketChannel} {iRet : Int} (hret : iRet ≠ 0) (hk : Kept c c')
    (hg : c'.byRPCObjectGuid = c.byRPCObjectGuid) : Opened c (c', iRet)
  | opened {c' : ClientSocketChannel} (hk : Kept c c') (hg : c'.byRPCObjectGuid = c.byRPCObjectGuid)
    (hcre : c'.bCreated = true) (hcon : c'.bConnected = true) (hlink : c'.linked = true) (hlog : c'.logged = true) :
    Opened c ({ c' with bIsOpened := true }, 0)

theorem Opened.of_kept {c c₁ : ClientSocketChannel} {r : ClientSocketChannel × Int} (hk : Kept c c₁)
    (hg : c₁.byRPCObjectGuid = c.byRPCObjectGuid) : Opened c₁ r → Opened c r
  | .failed hret hk' hg' => .failed hret (hk.trans hk') (hg'.trans hg)
  | .opened hk' hg' hcre hcon hlink hlog => .opened (hk.trans hk') (hg'.trans hg) hcre hcon hlink hlog

theorem opened_loginChannel (a : OpenAnswer) (c : ClientSocketChannel) : Opened c (c.loginChannel a) := by
  have hlogin : ∀ u p, Opened c (match c.login u p a with
      | (c, iRet) =>
        if iRet ≠ 0 then (c, -3) else if c.noIDs then (c, -1) else ({ c with bIsOpened := true }, 0)) := by
    intro u p
    have hk := kept_login u p a c
    have hz := @login_eq_zero c u p a
    generalize c.login u p a = r at hk hz ⊢
    obtain ⟨c₁, iRet⟩ := r
    dsimp only at hk hz ⊢
    split
    · exact .failed (by decide) hk.1 hk.2
    · next hret =>
      obtain ⟨hcon, hcre, hlink, hlog⟩ := hz (not_not.mp hret)
      split
      · exact .failed (by decide) hk.1 hk.2
      · exact .opened hk.1 hk.2 hcre hcon hlink hlog
  unfold loginChannel
  by_cases ht : c.channelType = .majorMes
  · rw [if_pos ht]
    exact hlogin _ _
  · rw [if_neg ht]
    exact hlogin _ _

theorem opened_openChannel (a : OpenAnswer) (ho : c.bIsOpened = false) : Opened c (c.openChannel a) := by
  unfold openChannel
  split
  · exact .failed (by decide) (Kept.refl c) rfl
  · rw [if_neg (by simp [ho])]
    have hcreate := kept_create a c
    generalize c.create a = r at hcreate ⊢
    obtain ⟨c₁, iRet⟩ := r
    dsimp only at hcreate ⊢
    split
    · exact .failed (by decide) hcreate.1 hcreate.2
    · have hconnect := kept_connect a c₁
      generalize c₁.connect a = r at hconnect ⊢
      obtain ⟨c₂, iRet⟩ := r
      dsimp only at hconnect ⊢
      split
      · exact .failed (by decide) (hcreate.1.trans hconnect.1) (hconnect.2.trans hcreate.2)
      · exact ((opened_loginChannel a c₂).of_kept hconnect.1 hconnect.2).of_kept hcreate.1 hcreate.2

theorem openChannel_of_open (a : OpenAnswer) (ho : c.bIsOpened = true) :
    c.openChannel a = (c, if c.channelType ≠ .majorMes ∧ c.noIDs then -1 else 0) := by
  unfold openChannel
  rw [if_pos ho]
  split
  · rfl
  · rfl

/-- The success of an `OpenChannel` is written down rightly on a channel that is connected and logged in. -/
theorem inv_succeeded {b b' : Bool} (h : Inv c) (hlog : b = true)
    (hg : c.byRPCObjectGuid = c.userGuid ∨ b' = c.bFirst) :
    Inv { c with opens := c.opens ++ [b], bFirst := b' } where
  created := h.created
  connected := h.connected
  linked := h.linked
  logged := h.logged
  guid := fun h' => hg.elim id fun hb => h.guid (hb ▸ h')
  opens := fun x hx => (List.mem_append.mp hx).elim (h.opens x) fun hx => (List.mem_singleton.mp hx).trans hlog
  firsts := h.firsts

theorem inv_opening (a : OpenAnswer) (h : Inv c) : Inv (c.opening a).1 := by
  unfold opening
  by_cases ho : c.bIsOpened = true
  · rw [openChannel_of_open a ho]
    by_cases hno : c.channelType ≠ .majorMes ∧ c.noIDs = true
    · rw [if_pos hno]
      exact h
    · rw [if_neg hno]
      exact inv_succeeded h (by simp [h.connected ho, h.linked ho, h.logged ho])
        (Or.inr (by simp [ho, h.connected ho]))
  · have ho' : c.bIsOpened = false := by simpa using ho
    have hopened := opened_openChannel a ho'
    generalize c.openChannel a = r at hopened ⊢
    cases hopened with
    | failed hret hk hg =>
      dsimp only
      rw [if_neg hret]
      exact hk.inv h ho' hg
    | @opened c' hk hg hcre hcon hlink hlog =>
      have hinv := hk.inv h ho' hg
      have hguid : c'.byRPCObjectGuid = c'.userGuid := hinv.guid (Or.inl (hk.bIsOpened.trans ho'))
      have hopen : Inv { c' with bIsOpened := true } :=
        ⟨fun _ => hcre, fun _ => hcon, fun _ => hlink, fun _ => hlog, fun _ => hguid, hinv.opens, hinv.firsts⟩
      exact inv_succeeded hopen (by simp [hcon, hlink, hlog]) (Or.inl hguid)

/-- Only an open channel comes out of an `OpenChannel` that succeeds. -/
theorem bIsOpened_of_opening {a : OpenAnswer} (hret : (c.opening a).2 ≠ 0) (ho : c.bIsOpened = false) :
    (c.opening a).1.bIsOpened = false := by
  unfold opening at hret ⊢
  have hopened := opened_openChannel a ho
  generalize c.openChannel a = r at hopened hret ⊢
  cases hopened with
  | failed hret' hk =>
    dsimp only
    rw [if_neg hret']
    exact hk.bIsOpened.trans ho
  | opened => exact absurd rfl hret

/-- The type, the ids and the user of a channel are not the socket's. -/
theorem inv_prepare (h : Inv c) (cType : ChannelType) (strSessionID strVerifyCode strRemoteUser
    strRemotePassword : List Nat) :
    Inv { c with
      channelType := cType
      strSessionID := strSessionID
      strVerifyCode := strVerifyCode
      strRemoteUser := strRemoteUser
      strRemotePassword := strRemotePassword } :=
  ⟨h.created, h.connected, h.linked, h.logged, h.guid, h.opens, h.firsts⟩

theorem inv_setUserGuid (h : Inv c) (pbyGuid : List Nat) :
    Inv { c.setRPCObjectGuid pbyGuid with userGuid := pbyGuid } :=
  ⟨h.created, h.connected, h.linked, h.logged, fun _ => rfl, h.opens, h.firsts⟩

/-! ### Requests and receives -/

/-- What is sent with neither a new guid nor a `Close` keeps the invariant. -/
theorem inv_setRequestID (newGuid : List Nat) (h : Inv c) : Inv { c with byRequestID := newGuid } :=
  ⟨h.created, h.connected, h.linked, h.logged, h.guid, h.opens, h.firsts⟩

theorem inv_sendPacket {a : SendAnswer} (h : Inv c) (hok : c.bIsOpened = true → a.closes = false) :
    Inv (c.sendPacket a).1 := by
  cases ho : c.bIsOpened with
  | false => exact (kept_sendPacket a c).1.inv h ho (kept_sendPacket a c).2
  | true =>
    cases a with
    | invalidParameter => exact h
    | noMemory newGuid | notPrepared newGuid => exact inv_setRequestID newGuid h
    | failed => exact absurd (hok ho) nofun
    | sent newGuid =>
      simp only [sendPacket]
      rw [if_pos ⟨h.connected ho, h.created ho, h.linked ho⟩]
      exact inv_setRequestID newGuid h

theorem inv_request {a : SendAnswer} (h : Inv c) (hok : c.bIsOpened = true → a.closes = false) :
    Inv (c.request a) := by
  have hs := inv_sendPacket h hok
  have hk := kept_sendPacket a c
  unfold request
  generalize c.sendPacket a = r at hs hk ⊢
  obtain ⟨c₁, iRet⟩ := r
  dsimp only at hs hk ⊢
  split
  · next hfirst =>
    refine { hs with guid := fun hg => ?_, firsts := fun p hp => ?_ }
    · exact hs.guid (hg.imp_right nofun)
    · rcases List.mem_append.mp hp with hp | hp
      · exact hs.firsts p hp
      · rw [List.mem_singleton.mp hp]
        exact h.guid (Or.inr hfirst.2)
  · exact hs

theorem inv_recvPacket {a : RecvAnswer} (h : Inv c) (hok : RecvOk c a) : Inv (c.recvPacket a).1 := by
  unfold recvPacket
  split
  · exact h
  · next hcon =>
    simp only [not_or, Bool.not_eq_false] at hcon
    split
    · next hlink =>
      -- an open channel is linked
      refine inv_close h (Bool.eq_false_iff.mpr fun ho => ?_)
      exact absurd (h.linked ho) (by simp [hlink])
    · next hlink =>
      cases a with
      | packet p =>
        dsimp only
        split
        · next hl =>
          obtain ⟨ho, hfirst⟩ := hok.learns p rfl hcon.1 (by simpa using hlink) hl
          exact { h with guid := fun hg => absurd hg (by simp [ho, hfirst]) }
        · exact h
      | noHeader | tooLong | badFlag | noBody =>
        exact inv_close h (Bool.eq_false_iff.mpr fun ho => absurd (hok.closes ho) nofun)
      | noMemory | emptyBody | notParsed => exact h

end ClientSocketChannel

/-! ### The session -/

namespace ClientConnectionSession

open ClientSocketChannel (Inv)

variable {s s' : ClientConnectionSession}

theorem inv_setChannel (h : ∀ i, Inv (s.channels i)) {ch : Nat} {c : ClientSocketChannel} (hc : Inv c) (i : Nat) :
    Inv ((s.setChannel ch c).channels i) := by
  by_cases hi : i = ch
  · subst hi
    simpa [setChannel] using hc
  · simpa [setChannel, hi] using h i

theorem inv_closeAll {chs : List Nat} (h : ∀ i, Inv (s.channels i))
    (hok : ∀ ch ∈ chs, (s.channels ch).bIsOpened = false) (i : Nat) : Inv ((s.closeAll chs).channels i) := by
  induction chs generalizing s with
  | nil => exact h i
  | cons ch chs ih =>
    have hch := hok ch (List.mem_cons_self ..)
    refine ih (inv_setChannel h (ClientSocketChannel.inv_close (h ch) hch)) fun j hj => ?_
    by_cases hij : j = ch
    · subst hij
      simpa [setChannel, ClientSocketChannel.close] using hch
    · simpa [setChannel, hij] using hok j (List.mem_cons_of_mem _ hj)

@[simp] theorem channels_addOpened (ch : Nat) (chanelType : ChannelType) (c : ClientSocketChannel) :
    (s.addOpened ch chanelType c).channels = s.channels := by
  cases chanelType with
  | _ => rfl

theorem inv_openChannel (h : ∀ i, Inv (s.channels i)) {ch : Nat} {chanelType : ChannelType} {a : OpenAnswer}
    (hok : s.StepOk (.openChannel ch chanelType a)) (i : Nat) :
    Inv ((s.openChannel ch chanelType a).1.channels i) := by
  unfold openChannel
  split
  · exact h i
  · next haddr =>
    split
    · exact h i
    · next hmajor =>
      have hinv := ClientSocketChannel.inv_opening (c := s.prepared ch chanelType) a
        (ClientSocketChannel.inv_prepare (h ch) chanelType _ _ _ _)
      have hopen : ((s.prepared ch chanelType).opening a).2 ≠ 0 →
          ((s.prepared ch chanelType).opening a).1.bIsOpened = false := by
        intro hret
        refine ClientSocketChannel.bIsOpened_of_opening hret (Bool.eq_false_iff.mpr fun ho => hret ?_)
        -- an open channel is refused without the ids only
        have hids := hok ho (by simpa using haddr) (by simpa using hmajor)
        unfold ClientSocketChannel.opening
        rw [ClientSocketChannel.openChannel_of_open a ho, if_neg]
        · rfl
        · rintro ⟨ht, hno⟩
          exact hids.elim ht fun hid => absurd hno (by simp [hid])
      generalize (s.prepared ch chanelType).opening a = r at hinv hopen ⊢
      obtain ⟨c, iRet⟩ := r
      dsimp only at hinv hopen ⊢
      split
      · rw [channels_addOpened]
        exact inv_setChannel h hinv i
      · next hret => exact inv_setChannel h (ClientSocketChannel.inv_close hinv (hopen hret)) i

theorem channels_removeConnection (ch : Nat) : (s.removeConnection ch).channels = s.channels := by
  unfold removeConnection
  split
  · rfl
  · split
    · rfl
    · rfl

theorem inv_apply (h : ∀ i, Inv (s.channels i)) {op : Op} (hok : s.StepOk op) (i : Nat) :
    Inv ((s.apply op).channels i) := by
  cases op with
  | openChannel ch chanelType a => exact inv_openChannel h hok i
  | close => exact inv_closeAll h hok i
  | removeConnection ch =>
    show Inv ((s.removeConnection ch).channels i)
    rw [channels_removeConnection]
    exact h i
  | channelOpen ch a => exact inv_setChannel h (ClientSocketChannel.inv_opening a (h ch)) i
  | channelClose ch => exact inv_setChannel h (ClientSocketChannel.inv_close (h ch) hok) i
  | channelRequest ch a => exact inv_setChannel h (ClientSocketChannel.inv_request (h ch) hok) i
  | channelRecv ch a => exact inv_setChannel h (ClientSocketChannel.inv_recvPacket (h ch) hok) i
  | channelSetGuid ch pbyGuid => exact inv_setChannel h (ClientSocketChannel.inv_setUserGuid (h ch) pbyGuid) i
  | channelSetType ch cType => exact inv_setChannel h (ClientSocketChannel.inv_prepare (h ch) cType _ _ _ _) i
  | channelSetIDs ch strSessionID strVerifyCode =>
    exact inv_setChannel h (ClientSocketChannel.inv_prepare (h ch) _ strSessionID strVerifyCode _ _) i
  | channelSetUserInfo ch strRemoteUser strRemotePassword =>
    exact inv_setChannel h (ClientSocketChannel.inv_prepare (h ch) _ _ _ strRemoteUser strRemotePassword) i
  | setRemoteAddress | setUserInfo | addMainConnection | addMessageConnection | addDataConnection => exact h i

/-- In every run in which no open channel is closed, and in which an object id is learned only on an open
channel after a request, every channel is as it should be. -/
theorem channels_sound {ops : List Op} (hok : EachStep step StepOk construct ops)
    (hr : runSteps step construct ops = some s) : s.Sound := by
  have hstep : ∀ (s : ClientConnectionSession) op s', (∀ i, Inv (s.channels i)) → s.StepOk op →
      step s op = some s' → ∀ i, Inv (s'.channels i) := by
    intro s op s' h hok hs
    cases hs
    exact inv_apply h hok
  have hinv := hok.invariant hstep (fun _ => ClientSocketChannel.inv_construct) hr
  exact fun ch => (hinv ch).sound

/-- A reply to a request with the id `noGuid`, from the object `byObjectGuid`. -/
def replyOf (byObjectGuid szData : List Nat) : Received where
  byObjectGuid := byObjectGuid
  byRequestID := Recycle.noGuid
  dwMesCode := 2
  bFits := true
  dwReplyCode := 200
  dwDataLen := szData.length + 1
  szData := szData

/-- There is a server, which answers the login with `szData`. -/
def welcomed (szData : List Nat) : OpenAnswer where
  bBuffers := true
  bSocket := true
  bConnect := true
  send := .sent Recycle.noGuid
  recv := .packet (replyOf ClientSocketChannel.byLoginObjGuid szData)

/-- The main channel and a data channel are opened; a request of the main channel is answered by an object with
an id of its own. -/
def openedRun : List Op :=
  [.setRemoteAddress, .setUserInfo [116] [49], .openChannel 0 .majorMes (welcomed [65, 13, 66]),
    .openChannel 1 .data (welcomed []), .channelRequest 0 (.sent Recycle.noGuid),
    .channelRecv 0 (.packet (replyOf [7] [])), .channelOpen 0 (welcomed [])]

theorem channels_sound_opened : ∃ s, runSteps step construct openedRun = some s ∧ s.Sound := by
  refine ⟨_, rfl, @channels_sound _ openedRun ?_ rfl⟩
  refine (eachStep_cons rfl).mpr ⟨trivial, (eachStep_cons rfl).mpr ⟨trivial, ?_⟩⟩
  refine (eachStep_cons rfl).mpr ⟨nofun, (eachStep_cons rfl).mpr ⟨nofun, ?_⟩⟩
  refine (eachStep_cons rfl).mpr ⟨fun _ => rfl, (eachStep_cons rfl).mpr ⟨⟨fun _ => rfl, ?_⟩, ?_⟩⟩
  · exact fun _ _ _ _ _ => ⟨by decide, by decide⟩
  · exact (eachStep_cons rfl).mpr ⟨trivial, trivial⟩

/-- The main channel is opened, the user closes it and opens it again. -/
def reopenedRun : List Op :=
  [.setRemoteAddress, .setUserInfo [116] [49], .openChannel 0 .majorMes (welcomed [65, 13, 66]), .channelClose 0,
    .channelOpen 0 (welcomed [65, 13, 66])]

/-- `m_bIsOpened` has survived the `Close`: the second `OpenChannel` succeeds and no socket is connected. -/
theorem not_sound_reopened : ∃ s, runSteps step construct reopenedRun = some s ∧
    (s.channels 0).bIsOpened = true ∧ (s.channels 0).bConnected = false ∧ (s.channels 0).opens = [true, false] ∧
    ¬ s.Sound := by
  refine ⟨_, rfl, by decide, by decide, by decide, fun hs => ?_⟩
  exact absurd ((hs 0).isOpen (by decide)) (by decide)

/-- A login without ids leaves the channel connected but not open; the object id that is then learned survives the
`Close` and is in the first request of the next connection. -/
def learnedRun : List Op :=
  [.channelSetGuid 0 [5], .channelSetUserInfo 0 [116] [49], .channelOpen 0 (welcomed []),
    .channelRecv 0 (.packet (replyOf [7] [])), .channelClose 0, .channelOpen 0 (welcomed [65, 13, 66]),
    .channelRequest 0 (.sent Recycle.noGuid)]

example : (runSteps step construct learnedRun).map (fun s => (s.channels 0).firsts) = some [([7], [5])] := by decide

end ClientConnectionSession

end OpenChannel

end KonsanNet
