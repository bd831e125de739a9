import KonsanNet.Blocks
import KonsanNet.Packet
import KonsanNet.TcpClient

/-!
# Login packets (`CXSessionLevelBase::SessionLogin`, `MessageToString`)

A login is the structure `CXSessionLogin` at the start of `buf`, and `dwUserDataLen` in it, which the client has
written, says where the string in `szUserData` ends. `SessionLogin` and the logging after it put the end there.
`outside` counts the accesses that were not within the memory of the message. The parts of the log text that are
made from the fixed part of the message are left out.
-/

namespace KonsanNet

/-- A message as `RecvPacket` passes it on. -/
structure ReceivedMessage extends CXMessageData where
  isDWORD : dwDataLen < 2 ^ 32
  allocated : bodyData.length = bodyDataLen + dwDataLen

/-- The object that `RecvPacket` makes of the buffer that it has asked for. -/
def ReceivedMessage.ofBuffer (id dwDataLen : Nat) (mem : List UInt8) (hlen : dwDataLen < 2 ^ 32)
    (hmem : mem.length = messageDataLen + dwDataLen) : ReceivedMessage where
  toCXMessageData := ⟨id, 1, dwDataLen, 0, mem.drop bodyOffset⟩
  isDWORD := hlen
  allocated := by simp only [List.length_drop, hmem, messageDataLen, bodyOffset, bodyDataLen]; omega

/-- `CX_SESSION_LOGIN_CODE` -/
def cxSessionLoginCode : Nat := 1

/-- `sizeof(CXSessionLogin) - 1` -/
def sessionLoginLen : Nat := 12

/-- `sizeof(CXCommonMessageReply)` -/
def commonMessageReplyLen : Nat := 17

/-! The offsets in `bodyData`. -/

def mesCodeOff : Nat := 32

def connectionTypeOff : Nat := bodyDataLen + 5

def userDataLenOff : Nat := bodyDataLen + 8

def userDataOff : Nat := bodyDataLen + sessionLoginLen

/-- `%d` -/
def formatInt (n : Nat) : List UInt8 := ascii (toString (Int.bmod n (2 ^ 32)))

/-- `snprintf` into `n` bytes. -/
def sprintf (n : Nat) (text : List UInt8) : List UInt8 := text.take (n - 1)

/-- What is before the first `\r` and what is behind it. -/
def splitAtCR (strData : List UInt8) : Option (List UInt8 × List UInt8) :=
  if 13 ∈ strData then some (strData.takeWhile (· ≠ 13), (strData.dropWhile (· ≠ 13)).drop 1) else none

/-- `CXCommonMessageReply` without the members that `SessionLogin` leaves 0, and the length to send. -/
structure LoginReply where
  dwReplyCode : Nat
  szData : List UInt8
  dwDataLen : Nat
  dwSendMesLen : Nat
deriving DecidableEq

namespace LoginReply

def code (dwReplyCode : Nat) : LoginReply := ⟨dwReplyCode, [], 0, commonMessageReplyLen⟩

/-- The length to send does not count the text. -/
def wrong (dwReplyCode : Nat) (text : List UInt8) : LoginReply :=
  let szData := sprintf (1024 - commonMessageReplyLen - 1) text
  ⟨dwReplyCode, szData, szData.length + 1, commonMessageReplyLen⟩

def session (strGuid strCode : List UInt8) : LoginReply :=
  let szData := strGuid ++ [13] ++ strCode
  ⟨200, szData, szData.length + 1, commonMessageReplyLen + (szData.length + 1)⟩

end LoginReply

/-- What the objects around a login answer. -/
structure LoginEnv where
  pManager : Bool
  /-- the connection has a session -/
  pSession : Bool
  strGuid : List UInt8
  /-- the verification code of the free session, if there is one -/
  getFreeSession : Option (List UInt8)
  findUsingSession : List UInt8 → Bool
  verifyCode : List UInt8 → List UInt8 → Int
  sendPacket : Bool
  /-- `SendPacket` has given the reply to a task. -/
  isThisMesAsynchronous : Bool
  /-- `ProcessAsyncMessageEnd` finds the object. -/
  pObjectServer : Bool
  /-- what the other messages are answered -/
  dispatchOther : Int
  /-- what a string that does not end in the message goes on with -/
  behind : List UInt8

/-- `OutputResult` is called. -/
def LoginEnv.Logs (env : LoginEnv) : Prop := ¬ (env.isThisMesAsynchronous ∧ !env.pObjectServer)

instance : DecidablePred LoginEnv.Logs := fun _ => inferInstanceAs (Decidable (¬ _))

/-- The memory of `bodyData`, and how often an unsigned difference was negative. -/
structure LoginRun where
  mem : Blocks Unit
  underflows : Nat

namespace LoginRun

/-- Every access was within the message, and every difference was right. -/
structure Sound (s : LoginRun) : Prop where
  inside : s.mem.outside = 0
  noUnderflow : s.underflows = 0

instance (s : LoginRun) : Decidable s.Sound :=
  decidable_of_iff (s.mem.outside = 0 ∧ s.underflows = 0) ⟨fun h => ⟨h.1, h.2⟩, fun h => ⟨h.1, h.2⟩⟩

def start (m : ReceivedMessage) (beyond : Nat → UInt8) : LoginRun where
  mem := ⟨fun _ => m.bodyData, fun _ => beyond, 0⟩
  underflows := 0

def load (s : LoginRun) (off n : Nat) : LoginRun × List UInt8 :=
  ({ s with mem := (s.mem.load () off n).1 }, (s.mem.load () off n).2)

def dword (s : LoginRun) (off : Nat) : LoginRun × Nat := ((s.load off 4).1, leValue (s.load off 4).2)

def byte (s : LoginRun) (off : Nat) : LoginRun × UInt8 := ((s.load off 1).1, (s.load off 1).2.headD 0)

/-- `szUserData[dwUserDataLen] = '\0'` -/
def endUserData (s : LoginRun) (dwUserDataLen : Nat) : LoginRun :=
  { s with mem := s.mem.store () (userDataOff + dwUserDataLen) [0] }

/-- `strData = szUserData` -/
def userData (s : LoginRun) (behind : List UInt8) : LoginRun × List UInt8 :=
  ({ s with mem := (s.mem.loadString () userDataOff behind).1 }, (s.mem.loadString () userDataOff behind).2)

/-- `n - k` of 64 bits. -/
def sub (s : LoginRun) (n k : Nat) : LoginRun × Nat :=
  (if k ≤ n then s else { s with underflows := s.underflows + 1 }, (n + 2 ^ 64 - k) % 2 ^ 64)

/-! ### `SessionLogin` -/

/-- The login with what the client has written before and behind the `\r`. -/
def login (env : LoginEnv) (strValue1 strValue2 : List UInt8) (s : LoginRun) : LoginRun × Int × LoginReply :=
  let (s, byConnectionType) := s.byte connectionTypeOff
  if byConnectionType = 1 then
    match env.getFreeSession with
    | none => (s, -7, .code 207)
    | some strCode => (s, 0, .session env.strGuid strCode)
  else if !env.findUsingSession strValue1 then (s, -2, .code 204)
  else if env.verifyCode strValue1 strValue2 = 0 then
    -- the `switch` reads the type again
    ((s.byte connectionTypeOff).1, 0, .code 200)
  else (s, -6, .code (if env.verifyCode strValue1 strValue2 = -1 then 205 else 206))

/-- The loop's body, which reads `dwUserDataLen` each time that it needs it. -/
def loginReply (env : LoginEnv) (dwDataLen : Nat) (s : LoginRun) : LoginRun × Int × LoginReply :=
  let (s, dwUserDataLen) := s.dword userDataLenOff
  if dwUserDataLen = 0 ∨ dwDataLen ≤ dwUserDataLen then (s, -3, .code 201)
  else if !env.pManager then (s, -4, .code 202)
  else if env.pSession then (s, -4, .code 205)
  else
    let (s, room) := s.sub dwDataLen sessionLoginLen
    if room < dwUserDataLen then
      (s, -5, .wrong 203 (ascii "The login content length " ++ formatInt dwUserDataLen ++
        ascii " is wrong, has exceeded allowable size " ++ formatInt room ++ ascii "!"))
    else
      let (s, strData) := (s.endUserData dwUserDataLen).userData env.behind
      match splitAtCR strData with
      | none => (s, -5, .wrong 203 (ascii "The format of login content is wrong!"))
      | some (strValue1, strValue2) => s.login env strValue1 strValue2

def sessionLogin (env : LoginEnv) (dwDataLen : Nat) (s : LoginRun) : LoginRun × Int × LoginReply :=
  let (s, iRet, reply) := s.loginReply env dwDataLen
  (s, if !env.sendPacket ∨ iRet = -2 then -2 else iRet, reply)

def dispatchMes (env : LoginEnv) (dwDataLen : Nat) (s : LoginRun) : LoginRun × Int :=
  let (s, dwMesCode) := s.dword mesCodeOff
  if dwMesCode = cxSessionLoginCode then
    ((s.sessionLogin env dwDataLen).1, (s.sessionLogin env dwDataLen).2.1)
  else (s, env.dispatchOther)

/-! ### The logging -/

/-- What a login adds to the text. -/
def loginToString (byConnectionType : UInt8) (strData : List UInt8) : List UInt8 :=
  let (strValue1, strValue2) := (splitAtCR strData).getD ([], [])
  sprintf 1024 (if byConnectionType = 1 then ascii ",user_name:" ++ strValue1
    else ascii ",session_guid:" ++ strValue1 ++ ascii ", verification_code:" ++ strValue2)

def messageToString (env : LoginEnv) (s : LoginRun) : LoginRun × List UInt8 :=
  let (s, dwMesCode) := s.dword mesCodeOff
  if dwMesCode = cxSessionLoginCode then
    let (s, dwUserDataLen) := s.dword userDataLenOff
    let (s, strData) := (s.endUserData dwUserDataLen).userData env.behind
    let (s, byConnectionType) := s.byte connectionTypeOff
    (s, loginToString byConnectionType strData)
  else (s, if dwMesCode = 3 ∨ dwMesCode = 5 then [] else ascii ",unknown packet")

/-- `ProcessMessage`, and for a message whose reply went to a task `ProcessAsyncMessageEnd` later: the code, and the
text if there is one. -/
def processMessage (env : LoginEnv) (dwDataLen : Nat) (s : LoginRun) : LoginRun × Int × Option (List UInt8) :=
  let (s, iRet) := s.dispatchMes env dwDataLen
  if env.Logs then ((s.messageToString env).1, iRet, some (s.messageToString env).2) else (s, iRet, none)

/-! ### Where the accesses are -/

/-- What a function leaves of a run: the count only grows, and the message changes at most in the user data. -/
structure After (s s' : LoginRun) : Prop where
  outside : s.mem.outside ≤ s'.mem.outside
  underflows : s.underflows ≤ s'.underflows
  length : (s'.mem.bytes ()).length = (s.mem.bytes ()).length
  fixed : (s'.mem.bytes ()).take userDataOff = (s.mem.bytes ()).take userDataOff

variable {s s' s'' : LoginRun} {env : LoginEnv} {d off n : Nat}

theorem After.refl (s : LoginRun) : After s s := ⟨le_rfl, le_rfl, rfl, rfl⟩

theorem After.trans (h : After s s') (h' : After s' s'') : After s s'' where
  outside := h.outside.trans h'.outside
  underflows := h.underflows.trans h'.underflows
  length := h'.length.trans h.length
  fixed := h'.fixed.trans h.fixed

theorem After.sound (h : After s s') (hs : s'.Sound) : s.Sound where
  inside := Nat.eq_zero_of_le_zero (h.outside.trans_eq hs.inside)
  noUnderflow := Nat.eq_zero_of_le_zero (h.underflows.trans_eq hs.noUnderflow)

theorem after_load (s : LoginRun) (off n : Nat) : After s (s.load off n).1 where
  outside := Blocks.outside_load_le ..
  underflows := le_rfl
  length := by rw [load, Blocks.bytes_load]
  fixed := by rw [load, Blocks.bytes_load]

theorem after_dword (s : LoginRun) (off : Nat) : After s (s.dword off).1 := after_load ..

theorem after_byte (s : LoginRun) (off : Nat) : After s (s.byte off).1 := after_load ..

theorem after_sub (s : LoginRun) (n k : Nat) : After s (s.sub n k).1 := by
  unfold sub
  split
  · exact .refl s
  · exact ⟨le_rfl, Nat.le_succ _, rfl, rfl⟩

theorem after_endUserData (s : LoginRun) (n : Nat) : After s (s.endUserData n) where
  outside := Blocks.outside_store_le ..
  underflows := le_rfl
  length := by
    unfold endUserData
    by_cases h : s.mem.Inside () (userDataOff + n) [(0 : UInt8)].length
    · exact Blocks.length_bytes_store h
    · rw [Blocks.store, if_neg h]
  fixed := by
    unfold endUserData
    by_cases h : s.mem.Inside () (userDataOff + n) [(0 : UInt8)].length
    · have hin : userDataOff + n + 1 ≤ (s.mem.bytes ()).length := h
      rw [Blocks.bytes_store_self h, patched, List.append_assoc,
        List.take_append_of_le_length (by rw [List.length_take]; omega), List.take_take, min_eq_left (by omega)]
    · rw [Blocks.store, if_neg h]

theorem after_userData (s : LoginRun) (behind : List UInt8) : After s (s.userData behind).1 where
  outside := Blocks.outside_loadString_le ..
  underflows := le_rfl
  length := by rw [userData, Blocks.bytes_loadString]
  fixed := by rw [userData, Blocks.bytes_loadString]

theorem after_strData (s : LoginRun) (n : Nat) (behind : List UInt8) :
    After s ((s.endUserData n).userData behind).1 :=
  (after_endUserData s n).trans (after_userData ..)

theorem after_login (v₁ v₂ : List UInt8) (s : LoginRun) : After s (s.login env v₁ v₂).1 := by
  have hbyte := after_byte s connectionTypeOff
  unfold login
  dsimp only
  split_ifs
  · split <;> exact hbyte
  · exact hbyte
  · exact hbyte.trans (after_byte ..)
  · exact hbyte
  · exact hbyte

theorem after_loginReply (s : LoginRun) : After (s.dword userDataLenOff).1 (s.loginReply env d).1 := by
  unfold loginReply
  dsimp only
  split_ifs
  · exact .refl _
  · exact .refl _
  · exact .refl _
  · dsimp only
    exact after_sub ..
  · have hdata := (after_sub (s.dword userDataLenOff).1 d sessionLoginLen).trans
      (after_strData _ (s.dword userDataLenOff).2 env.behind)
    split
    · exact hdata
    · exact hdata.trans (after_login ..)

theorem after_messageToString (s : LoginRun) : After s (s.messageToString env).1 := by
  have hcode := after_dword s mesCodeOff
  have hlen := hcode.trans (after_dword _ userDataLenOff)
  have hdata := hlen.trans (after_strData _ ((s.dword mesCodeOff).1.dword userDataLenOff).2 env.behind)
  unfold messageToString
  by_cases hlogin : (s.dword mesCodeOff).2 = cxSessionLoginCode
  · simp only [hlogin, if_true]
    exact hdata.trans (after_byte ..)
  · simp only [hlogin, if_false]
    exact hcode

/-! ### Accesses within the message -/

theorem load_inside (h : off + n ≤ (s.mem.bytes ()).length) :
    s.load off n = (s, ((s.mem.bytes ()).drop off).take n) := by
  unfold load
  rw [Blocks.load_inside h]

theorem dword_inside (h : off + 4 ≤ (s.mem.bytes ()).length) :
    s.dword off = (s, leValue (((s.mem.bytes ()).drop off).take 4)) := by
  unfold dword
  rw [load_inside h]

theorem not_sound_load (h : ¬ off + n ≤ (s.mem.bytes ()).length) : ¬ (s.load off n).1.Sound := fun hs =>
  absurd hs.inside (Blocks.outside_load h).ne'

theorem byte_inside (h : off + 1 ≤ (s.mem.bytes ()).length) : (s.byte off).1 = s := by
  unfold byte
  rw [load_inside h]

theorem After.dword (h : After s s') (hoff : off + 4 ≤ userDataOff) :
    ((s'.mem.bytes ()).drop off).take 4 = ((s.mem.bytes ()).drop off).take 4 := by
  have hfixed := congrArg (fun l => (l.drop off).take 4) h.fixed
  simpa only [List.drop_take, List.take_take, min_eq_left (Nat.le_sub_of_add_le' hoff)] using hfixed

theorem sound_userData (hin : userDataOff + n < (s.mem.bytes ()).length) (behind : List UInt8) :
    ((s.endUserData n).userData behind).1 = s.endUserData n := by
  have hstore : s.mem.Inside () (userDataOff + n) [(0 : UInt8)].length := hin
  have hmem : 0 ∈ ((s.endUserData n).mem.bytes ()).drop userDataOff := by
    refine List.mem_iff_getElem?.mpr ⟨n, ?_⟩
    rw [List.getElem?_drop, endUserData, Blocks.bytes_store_self hstore, getElem?_patched hstore, if_neg (by omega),
      if_pos (by simp), Nat.sub_self]
    rfl
  unfold userData
  rw [Blocks.loadString_inside hmem]

theorem sound_endUserData_iff :
    (s.endUserData n).Sound ↔ s.Sound ∧ userDataOff + n < (s.mem.bytes ()).length := by
  by_cases hin : s.mem.Inside () (userDataOff + n) [(0 : UInt8)].length
  · have hmem : (s.endUserData n).mem.outside = s.mem.outside := Blocks.outside_store hin
    exact ⟨fun h => ⟨⟨hmem ▸ h.inside, h.noUnderflow⟩, hin⟩, fun h => ⟨hmem ▸ h.1.inside, h.1.noUnderflow⟩⟩
  · exact ⟨fun h => absurd h.inside (Blocks.outside_store_outside hin).ne', fun h => absurd h.2 hin⟩

theorem login_inside (h : connectionTypeOff + 1 ≤ (s.mem.bytes ()).length) (v₁ v₂ : List UInt8) :
    (s.login env v₁ v₂).1 = s := by
  have hbyte := byte_inside h
  unfold login
  dsimp only
  rw [hbyte]
  split_ifs
  · split <;> rfl
  · rfl
  · exact hbyte
  · rfl
  · rfl

theorem sub_of_le {k : Nat} (h : k ≤ n) (hn : n < 2 ^ 64) : s.sub n k = (s, n - k) := by
  unfold sub
  rw [if_pos h, Nat.sub_add_comm h, Nat.add_mod_right, Nat.mod_eq_of_lt (by omega)]

/-! ### The messages of which every access is within them -/

def mesCode (s : LoginRun) : Nat := leValue (((s.mem.bytes ()).drop mesCodeOff).take 4)

def userDataLen (s : LoginRun) : Nat := leValue (((s.mem.bytes ()).drop userDataLenOff).take 4)

theorem After.mesCode (h : After s s') : s'.mesCode = s.mesCode := by
  unfold LoginRun.mesCode
  rw [h.dword (by decide)]

theorem After.userDataLen (h : After s s') : s'.userDataLen = s.userDataLen := by
  unfold LoginRun.userDataLen
  rw [h.dword (by decide)]

theorem dword_mesCode (hlen : (s.mem.bytes ()).length = bodyDataLen + d) : s.dword mesCodeOff = (s, s.mesCode) :=
  dword_inside (by rw [hlen, mesCodeOff, bodyDataLen]; omega)

theorem dword_userDataLen (hlen : (s.mem.bytes ()).length = bodyDataLen + d) (hd : sessionLoginLen ≤ d) :
    s.dword userDataLenOff = (s, s.userDataLen) :=
  dword_inside (by rw [hlen, userDataLenOff]; simp only [sessionLoginLen] at hd; omega)

theorem connectionType_inside (hlen : (s.mem.bytes ()).length = bodyDataLen + d) (hd : sessionLoginLen ≤ d) :
    connectionTypeOff + 1 ≤ (s.mem.bytes ()).length := by
  rw [hlen, connectionTypeOff]
  simp only [sessionLoginLen] at hd
  omega

theorem sessionLogin_run : (s.sessionLogin env d).1 = (s.loginReply env d).1 := by
  unfold sessionLogin
  rfl

theorem not_sound_sessionLogin (hlen : (s.mem.bytes ()).length = bodyDataLen + d) (hd : ¬ sessionLoginLen ≤ d) :
    ¬ (s.sessionLogin env d).1.Sound := fun hs => by
  rw [sessionLogin_run] at hs
  have hread : (s.load userDataLenOff 4).1.Sound := (after_loginReply s).sound hs
  refine not_sound_load ?_ hread
  rw [hlen, userDataLenOff]
  simp only [sessionLoginLen] at hd
  omega

theorem sound_sessionLogin_iff (hlen : (s.mem.bytes ()).length = bodyDataLen + d) (hdword : d < 2 ^ 32)
    (hs : s.Sound)
    (hd : sessionLoginLen ≤ d) :
    (s.sessionLogin env d).1.Sound ↔
      (env.pManager = true → env.pSession = false → s.userDataLen ≠ 0 → s.userDataLen + sessionLoginLen ≠ d) := by
  have hoff : userDataOff = bodyDataLen + sessionLoginLen := rfl
  have hpos : 0 < sessionLoginLen := by decide
  have htype := connectionType_inside hlen hd
  rw [sessionLogin_run]
  unfold loginReply
  rw [dword_userDataLen hlen hd]
  dsimp only
  rw [sub_of_le hd (hdword.trans (by norm_num))]
  by_cases hearly : s.userDataLen = 0 ∨ d ≤ s.userDataLen
  · rw [if_pos hearly]
    exact iff_of_true hs fun _ _ h0 => by omega
  rw [if_neg hearly]
  by_cases hmanager : env.pManager = true
  swap
  · rw [if_pos (by simp [hmanager])]
    exact iff_of_true hs fun h => absurd h hmanager
  rw [if_neg (by simp [hmanager])]
  by_cases hsession : env.pSession = true
  · rw [if_pos hsession]
    exact iff_of_true hs fun _ h => by simp [hsession] at h
  rw [if_neg hsession]
  by_cases hroom : d - sessionLoginLen < s.userDataLen
  · rw [if_pos hroom]
    exact iff_of_true hs fun _ _ _ => by omega
  rw [if_neg hroom]
  by_cases hlast : s.userDataLen + sessionLoginLen = d
  · -- the end is written to the byte behind the message
    have hout : ¬ (s.endUserData s.userDataLen).Sound := fun h => by
      have := (sound_endUserData_iff.mp h).2
      omega
    refine iff_of_false (fun h => hout ?_) (fun h => h hmanager (by simpa using hsession) (by omega) hlast)
    split at h
    · exact (after_userData _ env.behind).sound h
    · exact ((after_userData _ env.behind).trans (after_login ..)).sound h
  · have hin : userDataOff + s.userDataLen < (s.mem.bytes ()).length := by omega
    have hend : (s.endUserData s.userDataLen).Sound := sound_endUserData_iff.mpr ⟨hs, hin⟩
    refine iff_of_true ?_ fun _ _ _ => hlast
    rw [sound_userData hin]
    split
    · exact hend
    · rw [login_inside (by rw [(after_endUserData ..).length]; exact htype)]
      exact hend

/-- The logging tests nothing. -/
theorem sound_messageToString_iff (hlen : (s.mem.bytes ()).length = bodyDataLen + d) (hd : sessionLoginLen ≤ d)
    (hlogin : s.mesCode = cxSessionLoginCode) :
    (s.messageToString env).1.Sound ↔ s.Sound ∧ s.userDataLen + sessionLoginLen < d := by
  have hoff : userDataOff = bodyDataLen + sessionLoginLen := rfl
  have hend : (s.endUserData s.userDataLen).Sound ↔ s.Sound ∧ s.userDataLen + sessionLoginLen < d := by
    rw [sound_endUserData_iff, hlen]
    exact and_congr_right fun _ => by omega
  unfold messageToString
  rw [dword_mesCode hlen]
  dsimp only
  rw [if_pos hlogin, dword_userDataLen hlen hd]
  dsimp only
  rw [← hend]
  refine ⟨fun h => ((after_userData _ env.behind).trans (after_byte ..)).sound h, fun h => ?_⟩
  rw [sound_userData (sound_endUserData_iff.mp h).2,
    byte_inside (by rw [(after_endUserData ..).length]; exact connectionType_inside hlen hd)]
  exact h

theorem sound_messageToString_other (hlen : (s.mem.bytes ()).length = bodyDataLen + d) (hs : s.Sound)
    (hother : s.mesCode ≠ cxSessionLoginCode) : (s.messageToString env).1.Sound := by
  unfold messageToString
  rw [dword_mesCode hlen]
  dsimp only
  rwa [if_neg hother]

theorem after_sessionLogin (s : LoginRun) : After s (s.sessionLogin env d).1 := by
  rw [sessionLogin_run]
  exact (after_dword s userDataLenOff).trans (after_loginReply s)

theorem dispatchMes_login (hlen : (s.mem.bytes ()).length = bodyDataLen + d)
    (hlogin : s.mesCode = cxSessionLoginCode) :
    (s.dispatchMes env d).1 = (s.sessionLogin env d).1 := by
  unfold dispatchMes
  rw [dword_mesCode hlen]
  dsimp only
  rw [if_pos hlogin]

theorem dispatchMes_other (hlen : (s.mem.bytes ()).length = bodyDataLen + d)
    (hother : s.mesCode ≠ cxSessionLoginCode) :
    (s.dispatchMes env d).1 = s := by
  unfold dispatchMes
  rw [dword_mesCode hlen]
  dsimp only
  rw [if_neg hother]

theorem processMessage_logs (h : env.Logs) :
    (s.processMessage env d).1 = ((s.dispatchMes env d).1.messageToString env).1 := by
  unfold processMessage
  dsimp only
  rw [if_pos h]

theorem processMessage_silent (h : ¬ env.Logs) : (s.processMessage env d).1 = (s.dispatchMes env d).1 := by
  unfold processMessage
  dsimp only
  rw [if_neg h]

theorem processMessage_other (hlen : (s.mem.bytes ()).length = bodyDataLen + d) (hs : s.Sound)
    (hother : s.mesCode ≠ cxSessionLoginCode) : (s.processMessage env d).1.Sound := by
  by_cases hL : env.Logs
  · rw [processMessage_logs hL, dispatchMes_other hlen hother]
    exact sound_messageToString_other hlen hs hother
  · rw [processMessage_silent hL, dispatchMes_other hlen hother]
    exact hs

/-- What a sound login needs of `SessionLogin`, and of the logging if there is any. -/
theorem processMessage_login_iff (hlen : (s.mem.bytes ()).length = bodyDataLen + d)
    (hlogin : s.mesCode = cxSessionLoginCode) :
    (s.processMessage env d).1.Sound ↔ (s.sessionLogin env d).1.Sound ∧
      (env.Logs → ((s.sessionLogin env d).1.messageToString env).1.Sound) := by
  by_cases hL : env.Logs
  · rw [processMessage_logs hL, dispatchMes_login hlen hlogin]
    exact ⟨fun h => ⟨(after_messageToString _).sound h, fun _ => h⟩, fun h => h.2 hL⟩
  · rw [processMessage_silent hL, dispatchMes_login hlen hlogin]
    exact (and_iff_left fun h => absurd h hL).symm

end LoginRun

namespace ReceivedMessage

def IsLogin (m : ReceivedMessage) : Prop := leValue ((m.bodyData.drop mesCodeOff).take 4) = cxSessionLoginCode

def dwUserDataLen (m : ReceivedMessage) : Nat := leValue ((m.bodyData.drop userDataLenOff).take 4)

/-- The body holds the structure, and the end of the user data is within the message where it is written: by the
logging with every length, by `SessionLogin` with those that pass its tests, which miss one. -/
structure LoginFits (env : LoginEnv) (m : ReceivedMessage) : Prop where
  header : sessionLoginLen ≤ m.dwDataLen
  logged : env.Logs → m.dwUserDataLen + sessionLoginLen < m.dwDataLen
  login : env.pManager = true → env.pSession = false → m.dwUserDataLen ≠ 0 →
    m.dwUserDataLen + sessionLoginLen ≠ m.dwDataLen

/-- Login packets stay in bounds exactly with the lengths that fit. -/
theorem processMessage_sound_iff (env : LoginEnv) (m : ReceivedMessage) (beyond : Nat → UInt8) :
    ((LoginRun.start m beyond).processMessage env m.dwDataLen).1.Sound ↔ (m.IsLogin → m.LoginFits env) := by
  have hlen : ((LoginRun.start m beyond).mem.bytes ()).length = bodyDataLen + m.dwDataLen := m.allocated
  have hs : (LoginRun.start m beyond).Sound := ⟨rfl, rfl⟩
  have hcode : (LoginRun.start m beyond).mesCode = leValue ((m.bodyData.drop mesCodeOff).take 4) := rfl
  have huser : (LoginRun.start m beyond).userDataLen = m.dwUserDataLen := rfl
  generalize LoginRun.start m beyond = s at hlen hs hcode huser
  by_cases hlogin : m.IsLogin
  swap
  · exact iff_of_true (LoginRun.processMessage_other hlen hs (by rwa [hcode])) fun h => absurd h hlogin
  have hafter : s.After (s.sessionLogin env m.dwDataLen).1 := LoginRun.after_sessionLogin s
  have hlogin' : s.mesCode = cxSessionLoginCode := hcode.trans hlogin
  rw [LoginRun.processMessage_login_iff hlen hlogin']
  by_cases hd : sessionLoginLen ≤ m.dwDataLen
  swap
  · exact iff_of_false (fun h => LoginRun.not_sound_sessionLogin hlen hd h.1) fun h => hd (h hlogin).header
  have hreply : (s.sessionLogin env m.dwDataLen).1.Sound ↔ _ := LoginRun.sound_sessionLogin_iff hlen m.isDWORD hs hd
  rw [LoginRun.sound_messageToString_iff (hafter.length.trans hlen) hd (hafter.mesCode.trans hlogin'),
    hafter.userDataLen, huser]
  rw [huser] at hreply
  constructor
  · exact fun h _ => ⟨hd, fun hL => (h.2 hL).2, hreply.mp h.1⟩
  · intro h
    have hr := hreply.mpr (h hlogin).login
    exact ⟨hr, fun hL => ⟨hr, (h hlogin).logged hL⟩⟩

/-- A login of a main connection without user data that announces `n` bytes of them. -/
def emptyLogin (n : Nat) : ReceivedMessage where
  toCXMessageData := ⟨0, 1, bodyDataLen + sessionLoginLen, 0,
    List.replicate 32 0 ++ leBytes 4 cxSessionLoginCode ++ List.replicate 4 0 ++
      (List.replicate 5 0 ++ [1, 0, 0] ++ leBytes 4 n) ++ List.replicate 40 0⟩
  isDWORD := by decide
  allocated := by simp [bodyDataLen, sessionLoginLen]

/-- 40 is allowed and is one too many: the end is written behind the message. -/
theorem not_processMessage_sound_emptyLogin :
    ¬ ∀ (env : LoginEnv) (m : ReceivedMessage) (beyond : Nat → UInt8),
      ((LoginRun.start m beyond).processMessage env m.dwDataLen).1.Sound := by
  intro h
  let env : LoginEnv := ⟨true, false, [], none, fun _ => false, fun _ _ => 0, true, false, true, 0, []⟩
  have hlen : ((LoginRun.start (emptyLogin 40) fun _ => 0).mem.bytes ()).length = bodyDataLen + 52 := by decide
  have hlogin := (LoginRun.processMessage_login_iff hlen (by decide)).mp (h env (emptyLogin 40) fun _ => 0)
  exact (LoginRun.sound_sessionLogin_iff hlen (by decide) ⟨rfl, rfl⟩ (by decide)).mp hlogin.1 rfl rfl (by decide)
    (by decide)

end ReceivedMessage

end KonsanNet
