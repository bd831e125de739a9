import Mathlib.Tactic
import KonsanNet.LoginPacket
import KonsanNet.OpenChannel

/-!
# The two ends of a login (`CXClientSocketChannel::Login`, `SessionLogin`)

A channel logs in with two texts and a `\r` between them: the major channel with the user and the password, the
others with the session id and the verify code that the reply to the major channel has given. The server cuts the
text at the first `\r`, and so does the client with the reply.

`exchange` goes through both logins: the session that the second channel is verified for is the one of the first
channel, by the guid and the code as the server has them. The client counts the 0 behind its text in `dwUserDataLen`,
and so the server writes its own 0 behind the packet, into the 40 bytes that `RecvPacket` allocates too many.
-/

namespace KonsanNet

namespace LoginExchange

open OpenChannel (ClientSocketChannel)

/-- A text that `c_str` gives completely. -/
def IsText (bs : List UInt8) : Prop := 0 ∉ bs

instance : DecidablePred IsText := fun bs => inferInstanceAs (Decidable (0 ∉ bs))

/-! ### The client -/

/-- `Login` up to `SendPacket`: the `CXSessionLogin` and the text behind it. -/
def loginData (iUserType iSessionType : Nat) (byConnectionType : UInt8) (strUserName strPassword : List UInt8) :
    Option (List UInt8) :=
  if strUserName = [] ∨ 128 < strUserName.length ∨ strPassword = [] ∨ 256 < strPassword.length then none
  else
    let strUserData := strUserName ++ [13] ++ strPassword
    some (leBytes 4 iSessionType ++ [UInt8.ofNat iUserType, byConnectionType, 0, 0] ++
      leBytes 4 (strUserData.length + 1) ++ (strUserData ++ [0]))

/-- The reply in the buffer of `Login`, `CLIENT_BUF_SIZE` bytes that were 0. -/
def received (byObjectGuid byRequestID : List Nat) (payload : List UInt8) : OpenChannel.Received :=
  let buf := payload ++ List.replicate (4096 - payload.length) 0
  { byObjectGuid := byObjectGuid
    byRequestID := byRequestID
    dwMesCode := 2
    bFits := payload.length ≤ 4096
    dwReplyCode := leValue (buf.take 4)
    dwDataLen := leValue ((buf.drop 12).take 4)
    szData := ((buf.drop 16).takeWhile (· ≠ 0)).map UInt8.toNat }

/-! ### The server -/

/-- What `SessionLogin` sends: the first bytes of its buffer of 1024 bytes. -/
def replyData (r : LoginReply) : List UInt8 :=
  (leBytes 4 r.dwReplyCode ++ List.replicate 8 0 ++ leBytes 4 r.dwDataLen ++
    (r.szData ++ List.replicate (1024 - 16 - r.szData.length) 0)).take r.dwSendMesLen

/-- What a login is answered that the server has understood: `strValue1` and `strValue2` are the two texts. -/
def answer (env : LoginEnv) (byConnectionType : UInt8) (strValue1 strValue2 : List UInt8) : Int × LoginReply :=
  if byConnectionType = 1 then
    match env.getFreeSession with
    | none => (-7, .code 207)
    | some strCode => (0, .session env.strGuid strCode)
  else if !env.findUsingSession strValue1 then (-2, .code 204)
  else if env.verifyCode strValue1 strValue2 = 0 then (0, .code 200)
  else (-6, .code (if env.verifyCode strValue1 strValue2 = -1 then 205 else 206))

/-- The message carries the login of a channel of this type with these texts: `dwDataLen` counts the fixed part of
the body too, and there is as much memory behind the packet. -/
structure Carries (m : ReceivedMessage) (byConnectionType : UInt8) (strUserName strPassword : List UInt8) : Prop where
  data : ∃ iUserType iSessionType fixed data spare, fixed.length = bodyDataLen ∧
    loginData iUserType iSessionType byConnectionType strUserName strPassword = some data ∧
    m.dwDataLen = (fixed ++ data).length ∧ m.bodyData = fixed ++ data ++ spare

/-- The connection has no session yet, and the reply can be sent. -/
structure Ready (env : LoginEnv) : Prop where
  manager : env.pManager = true
  session : env.pSession = false
  send : env.sendPacket = true

variable {m : ReceivedMessage} {byConnectionType : UInt8} {strUserName strPassword : List UInt8} {env : LoginEnv}

theorem splitAtCR_text {v₁ : List UInt8} (v₂ : List UInt8) (hcr : 13 ∉ v₁) :
    splitAtCR (v₁ ++ [13] ++ v₂) = some (v₁, v₂) := by
  have hne : ∀ b ∈ v₁, decide (b ≠ 13) = true := fun b hb => decide_eq_true fun h => hcr (h ▸ hb)
  unfold splitAtCR
  rw [if_pos (by simp), List.append_assoc, List.takeWhile_append_of_pos hne, List.dropWhile_append_of_pos hne]
  simp

theorem Carries.parts (h : Carries m byConnectionType strUserName strPassword) :
    (strUserName.length ≤ 128 ∧ strPassword.length ≤ 256) ∧
    m.dwDataLen = userDataOff + (strUserName.length + strPassword.length + 2) ∧
    leValue ((m.bodyData.drop userDataLenOff).take 4) = strUserName.length + strPassword.length + 2 ∧
    (m.bodyData.drop connectionTypeOff).take 1 = [byConnectionType] ∧
    ∃ spare, m.bodyData.drop userDataOff = strUserName ++ [13] ++ strPassword ++ [0] ++ spare := by
  obtain ⟨u, t, fixed, data, spare, hfixed, hdata, hall, hbody⟩ := h.data
  unfold loginData at hdata
  split at hdata
  case isTrue => cases hdata
  case isFalse hlen =>
  push Not at hlen
  obtain ⟨-, h128, -, h256⟩ := hlen
  have hn : (strUserName ++ [13] ++ strPassword).length + 1 = strUserName.length + strPassword.length + 2 := by
    rw [List.length_append, List.length_append, List.length_singleton]
    omega
  have hlt : strUserName.length + strPassword.length + 2 < 256 ^ 4 := by omega
  have heq := Option.some.inj hdata
  rw [hn] at heq
  generalize strUserName.length + strPassword.length + 2 = n at heq hn hlt ⊢
  generalize htext : strUserName ++ [13] ++ strPassword = text at heq hn ⊢
  -- the members before `byUserType`
  obtain ⟨pre, hpre, hbody⟩ : ∃ pre, pre.length = 44 ∧ m.bodyData =
      pre ++ (UInt8.ofNat u :: byConnectionType :: 0 :: 0 :: (leBytes 4 n ++ (text ++ [0] ++ spare))) := by
    refine ⟨fixed ++ leBytes 4 t, ?_, ?_⟩
    · rw [List.length_append, hfixed, length_leBytes]
      rfl
    · rw [hbody, ← heq]
      simp
  have hdrop : ∀ k, m.bodyData.drop (44 + k) =
      (UInt8.ofNat u :: byConnectionType :: 0 :: 0 :: (leBytes 4 n ++ (text ++ [0] ++ spare))).drop k := by
    intro k
    rw [hbody, ← List.drop_drop, ← hpre, List.drop_left]
  refine ⟨⟨h128, h256⟩, ?_, ?_, ?_, spare, ?_⟩
  · rw [hall, ← heq]
    simp only [List.length_append, List.length_cons, length_leBytes, List.length_nil, hfixed, bodyDataLen,
      userDataOff, sessionLoginLen]
    omega
  · rw [show userDataLenOff = 44 + 4 from rfl, hdrop]
    exact (congrArg leValue (List.take_left' (length_leBytes ..))).trans (leValue_leBytes hlt)
  · rw [show connectionTypeOff = 44 + 1 from rfl, hdrop]
    rfl
  · rw [show userDataOff = 44 + 8 from rfl, hdrop]
    exact List.drop_left' (length_leBytes ..)

theorem userData_text (hu : IsText strUserName) (hp : IsText strPassword) {s : LoginRun} {rest : List UInt8}
    (hs : (s.mem.bytes ()).drop userDataOff = strUserName ++ [13] ++ strPassword ++ [0] ++ rest)
    (behind : List UInt8) : s.userData behind = (s, strUserName ++ [13] ++ strPassword) := by
  have hzero : 0 ∉ strUserName ++ [13] ++ strPassword := by
    simp only [List.mem_append, List.mem_singleton, not_or]
    exact ⟨⟨hu, by decide⟩, hp⟩
  have hne : ∀ b ∈ strUserName ++ [13] ++ strPassword, decide (b ≠ 0) = true :=
    fun b hb => decide_eq_true fun h0 => hzero (h0 ▸ hb)
  have hmem : 0 ∈ (s.mem.bytes ()).drop userDataOff := by
    rw [hs]
    simp
  unfold LoginRun.userData
  rw [Blocks.loadString_inside hmem, hs, List.append_assoc, List.takeWhile_append_of_pos hne]
  simp

/-- The 0 of the server is written behind the one of the client. -/
theorem endUserData_text {s : LoginRun} {n : Nat} {text spare : List UInt8} (hn : (text ++ [0]).length = n)
    (hin : userDataOff + n < (s.mem.bytes ()).length)
    (hs : (s.mem.bytes ()).drop userDataOff = text ++ [0] ++ spare) :
    (s.endUserData n).mem.outside = s.mem.outside ∧
      ∃ rest, ((s.endUserData n).mem.bytes ()).drop userDataOff = text ++ [0] ++ rest := by
  have hstore : s.mem.Inside () (userDataOff + n) [(0 : UInt8)].length := hin
  refine ⟨Blocks.outside_store hstore, [0] ++ (s.mem.bytes ()).drop (userDataOff + n + 1), ?_⟩
  unfold LoginRun.endUserData
  rw [Blocks.bytes_store_self hstore, patched, List.append_assoc,
    List.drop_append_of_le_length (by rw [List.length_take]; omega), List.drop_take, Nat.add_sub_cancel_left, hs,
    List.take_left' hn]
  rfl

theorem login_answer {s : LoginRun} (hs : ((s.mem.bytes ()).drop connectionTypeOff).take 1 = [byConnectionType])
    (hlen : connectionTypeOff + 1 ≤ (s.mem.bytes ()).length) (v₁ v₂ : List UInt8) :
    s.login env v₁ v₂ = (s, answer env byConnectionType v₁ v₂) := by
  have hbyte : s.byte connectionTypeOff = (s, byConnectionType) := by
    unfold LoginRun.byte
    rw [LoginRun.load_inside hlen, hs]
    rfl
  unfold LoginRun.login answer
  dsimp only
  rw [hbyte]
  split_ifs
  · cases env.getFreeSession <;> rfl
  · rfl
  · dsimp only
    rw [hbyte]
  · rfl
  · rfl

/-- The texts get to the server as the channel had them, and the server stays within the memory of the message. -/
theorem sessionLogin_carries (h : Carries m byConnectionType strUserName strPassword) (hu : IsText strUserName)
    (hcr : 13 ∉ strUserName) (hp : IsText strPassword) (hready : Ready env) (beyond : Nat → UInt8) :
    ((LoginRun.start m beyond).sessionLogin env m.dwDataLen).2 = answer env byConnectionType strUserName strPassword ∧
      ((LoginRun.start m beyond).sessionLogin env m.dwDataLen).1.mem.outside = 0 := by
  obtain ⟨-, hdata, hlen, htype, spare, htext⟩ := h.parts
  have hall := m.allocated
  have hbytes : (LoginRun.start m beyond).mem.bytes () = m.bodyData := rfl
  have houtside : (LoginRun.start m beyond).mem.outside = 0 := rfl
  generalize LoginRun.start m beyond = s at hbytes houtside
  have hoff : userDataOff = bodyDataLen + sessionLoginLen := rfl
  have hbody : bodyDataLen = 40 := rfl
  have hfit : sessionLoginLen ≤ m.dwDataLen := by omega
  have hdword := LoginRun.dword_userDataLen (s := s) (d := m.dwDataLen) (by rw [hbytes, hall]) hfit
  have hn : s.userDataLen = strUserName.length + strPassword.length + 2 := by
    unfold LoginRun.userDataLen
    rw [hbytes, hlen]
  rw [hn] at hdword
  -- the byte behind the packet
  have hcount : (strUserName ++ [13] ++ strPassword ++ [0]).length = strUserName.length + strPassword.length + 2 := by
    simp only [List.length_append, List.length_singleton]
    omega
  obtain ⟨hout, rest, hend⟩ :=
    endUserData_text (s := s) hcount (by rw [hbytes, hall]; omega) ((congrArg _ hbytes).trans htext)
  have hafter := LoginRun.after_endUserData s (strUserName.length + strPassword.length + 2)
  have htype' : (((s.endUserData (strUserName.length + strPassword.length + 2)).mem.bytes ()).drop
      connectionTypeOff).take 1 = [byConnectionType] := by
    have hfixed := congrArg (fun l => (l.drop connectionTypeOff).take 1) hafter.fixed
    simp only [List.drop_take, List.take_take, hbytes,
      show min 1 (userDataOff - connectionTypeOff) = 1 from rfl] at hfixed
    exact hfixed.trans htype
  have hreply : s.loginReply env m.dwDataLen =
      (s.endUserData (strUserName.length + strPassword.length + 2),
        answer env byConnectionType strUserName strPassword) := by
    have hroom : s.sub m.dwDataLen sessionLoginLen =
        (s, bodyDataLen + (strUserName.length + strPassword.length + 2)) := by
      rw [LoginRun.sub_of_le hfit (m.isDWORD.trans (by norm_num))]
      exact congrArg (Prod.mk s) (by omega)
    unfold LoginRun.loginReply
    rw [hdword]
    dsimp only
    rw [if_neg (by omega), if_neg (by simp [hready.manager]), if_neg (by simp [hready.session]), hroom]
    dsimp only
    rw [if_neg (by omega), userData_text hu hp hend env.behind]
    dsimp only
    rw [splitAtCR_text strPassword hcr]
    exact login_answer htype'
      (LoginRun.connectionType_inside (hafter.length.trans ((congrArg List.length hbytes).trans hall)) hfit) _ _
  unfold LoginRun.sessionLogin
  rw [hreply]
  refine ⟨Prod.ext ?_ rfl, hout.trans houtside⟩
  show (if (!env.sendPacket) = true ∨ _ then _ else _) = _
  split_ifs with hret
  · exact (hret.resolve_left (by simp [hready.send])).symm
  · rfl

/-! ### The reply -/

/-- A guid and a code that `szData` has room for. -/
structure Fits (strGuid strCode : List UInt8) : Prop where
  guid : IsText strGuid
  code : IsText strCode
  noCR : 13 ∉ strGuid
  room : strGuid.length + 1 + strCode.length + 1 ≤ 1024 - commonMessageReplyLen

/-- The bytes of a reply that gives a session, in the client's buffer. -/
theorem buffer_session {strGuid strCode : List UInt8} (h : Fits strGuid strCode) :
    ∃ k, replyData (.session strGuid strCode) ++
        List.replicate (4096 - (replyData (.session strGuid strCode)).length) 0 =
      leBytes 4 200 ++ List.replicate 8 0 ++ leBytes 4 ((strGuid ++ [13] ++ strCode).length + 1) ++
        ((strGuid ++ [13] ++ strCode) ++ List.replicate (k + 1) 0) := by
  have hroom := h.room
  have hlen : (strGuid ++ [13] ++ strCode).length + 2 ≤ 1008 := by
    rw [List.length_append, List.length_append, List.length_singleton]
    unfold commonMessageReplyLen at hroom
    omega
  have hdata : replyData (.session strGuid strCode) =
      leBytes 4 200 ++ List.replicate 8 0 ++ leBytes 4 ((strGuid ++ [13] ++ strCode).length + 1) ++
        ((strGuid ++ [13] ++ strCode) ++ List.replicate 2 0) := by
    unfold replyData LoginReply.session
    dsimp only
    generalize strGuid ++ [13] ++ strCode = text at hlen
    generalize hhead : leBytes 4 200 ++ List.replicate 8 0 ++ leBytes 4 (text.length + 1) = head
    have h16 : head.length = 16 := by
      rw [← hhead]
      simp
    rw [show commonMessageReplyLen + (text.length + 1) = head.length + (text.length + 2) by
      rw [h16]; unfold commonMessageReplyLen; omega, List.take_length_add_append, List.take_length_add_append,
      List.take_replicate, min_eq_left (by omega)]
  rw [hdata]
  generalize 4096 - (_ : List UInt8).length = j
  refine ⟨j + 1, ?_⟩
  rw [List.append_assoc _ (_ ++ _), List.append_assoc _ (List.replicate 2 0), List.replicate_append_replicate,
    Nat.add_comm 2 j]

/-- The client finds the guid and the code where the server has put them. -/
theorem parseIDs_session {strGuid strCode : List UInt8} (h : Fits strGuid strCode)
    (byObjectGuid byRequestID : List Nat) :
    (received byObjectGuid byRequestID (replyData (.session strGuid strCode))).dwReplyCode = 200 ∧
    ClientSocketChannel.parseIDs (received byObjectGuid byRequestID (replyData (.session strGuid strCode))) =
      (strGuid.map UInt8.toNat, strCode.map UInt8.toNat) := by
  obtain ⟨k, hbuf⟩ := buffer_session h
  have hroom := h.room
  have hlen : (strGuid ++ [13] ++ strCode).length = strGuid.length + 1 + strCode.length := by
    rw [List.length_append, List.length_append, List.length_singleton]
  have hne : ∀ b ∈ strGuid ++ [13] ++ strCode, decide (b ≠ 0) = true := by
    intro b hb
    refine decide_eq_true fun h0 => ?_
    subst h0
    simp only [List.mem_append, List.mem_singleton] at hb
    rcases hb with (hb | hb) | hb
    · exact h.guid hb
    · cases hb
    · exact h.code hb
  have hcode : (received byObjectGuid byRequestID (replyData (.session strGuid strCode))).dwReplyCode = 200 := by
    unfold received
    dsimp only
    rw [hbuf, List.append_assoc, List.append_assoc, List.take_left' (length_leBytes ..)]
    exact leValue_leBytes (by decide)
  have hdata : (received byObjectGuid byRequestID (replyData (.session strGuid strCode))).dwDataLen =
      strGuid.length + 1 + strCode.length + 1 := by
    unfold received
    dsimp only
    rw [hbuf, List.append_assoc, List.drop_left' (by simp), List.take_left' (length_leBytes ..), hlen]
    exact leValue_leBytes (by unfold commonMessageReplyLen at hroom; omega)
  have htext : (received byObjectGuid byRequestID (replyData (.session strGuid strCode))).szData =
      strGuid.map UInt8.toNat ++ ([13] ++ strCode.map UInt8.toNat) := by
    unfold received
    dsimp only
    rw [hbuf, List.drop_left' (by simp), List.takeWhile_append_of_pos hne]
    simp [List.replicate_succ]
  refine ⟨hcode, ?_⟩
  have hfind : (strGuid.map UInt8.toNat ++ ([13] ++ strCode.map UInt8.toNat)).findIdx? (· = 13) =
      some strGuid.length := by
    have hnone : (strGuid.map UInt8.toNat).findIdx? (fun n => decide (n = 13)) = none := by
      refine List.findIdx?_eq_none_iff.mpr fun n hn => decide_eq_false fun h13 => ?_
      obtain ⟨b, hb, rfl⟩ := List.mem_map.mp hn
      exact h.noCR (by rwa [show b = 13 from UInt8.toNat_inj.mp h13] at hb)
    rw [List.findIdx?_append, hnone]
    simp [List.findIdx?_cons]
  unfold ClientSocketChannel.parseIDs
  rw [htext, hfind, hdata]
  dsimp only
  unfold commonMessageReplyLen at hroom
  rw [if_neg (by omega), List.take_left' (List.length_map ..), ← List.drop_drop, List.drop_left' (List.length_map ..)]
  rfl

theorem loginReply_session {strGuid strCode : List UInt8} {c : ClientSocketChannel} (h : Fits strGuid strCode)
    (hmajor : c.channelType = .majorMes) (byObjectGuid byRequestID : List Nat) :
    (c.loginReply (received byObjectGuid byRequestID (replyData (.session strGuid strCode)))).2 = 0 ∧
    (c.loginReply (received byObjectGuid byRequestID (replyData (.session strGuid strCode)))).1.strSessionID =
      strGuid.map UInt8.toNat ∧
    (c.loginReply (received byObjectGuid byRequestID (replyData (.session strGuid strCode)))).1.strVerifyCode =
      strCode.map UInt8.toNat := by
  obtain ⟨hcode, hids⟩ := parseIDs_session h byObjectGuid byRequestID
  have hmes : (received byObjectGuid byRequestID (replyData (.session strGuid strCode))).dwMesCode = 2 := rfl
  unfold ClientSocketChannel.loginReply
  rw [if_neg (not_not_intro hmes), if_neg (not_not_intro hcode)]
  dsimp only
  rw [if_pos hmajor, hids]
  exact ⟨rfl, rfl, rfl⟩

/-! ### Both logins -/

/-- A channel that logs in with what the login of the major channel was answered is looked up by the guid of that
session and verified by its code. In both logins the server stays within the memory of the message. -/
theorem exchange {m₁ : ReceivedMessage} {env₁ env₂ : LoginEnv} {user password strCode : List UInt8}
    {c : ClientSocketChannel} (m₂ : ReceivedMessage) (channelType : UInt8) (hmain : Carries m₁ 1 user password)
    (huser : IsText user) (hcr : 13 ∉ user) (hpassword : IsText password) (hready₁ : Ready env₁)
    (hfree : env₁.getFreeSession = some strCode) (hfits : Fits env₁.strGuid strCode)
    (hmajor : c.channelType = .majorMes) (hready₂ : Ready env₂) (byObjectGuid byRequestID : List Nat)
    (beyond₁ beyond₂ : Nat → UInt8) :
    let first := (LoginRun.start m₁ beyond₁).sessionLogin env₁ m₁.dwDataLen
    let client := c.loginReply (received byObjectGuid byRequestID (replyData first.2.2))
    let second := (LoginRun.start m₂ beyond₂).sessionLogin env₂ m₂.dwDataLen
    first.2.1 = 0 ∧ first.1.mem.outside = 0 ∧ client.2 = 0 ∧
    (Carries m₂ channelType (client.1.strSessionID.map UInt8.ofNat) (client.1.strVerifyCode.map UInt8.ofNat) →
      second.2 = answer env₂ channelType env₁.strGuid strCode ∧ second.1.mem.outside = 0) := by
  obtain ⟨hreply, hout⟩ := sessionLogin_carries hmain huser hcr hpassword hready₁ beyond₁
  have hanswer : answer env₁ 1 user password = (0, .session env₁.strGuid strCode) := by
    unfold answer
    rw [if_pos rfl, hfree]
  rw [hanswer] at hreply
  intro first client second
  have hclient :
      client = c.loginReply (received byObjectGuid byRequestID (replyData (.session env₁.strGuid strCode))) := by
    show c.loginReply (received byObjectGuid byRequestID (replyData first.2.2)) = _
    rw [show first.2 = _ from hreply]
  obtain ⟨hret, hid, hcode⟩ := loginReply_session hfits hmajor byObjectGuid byRequestID
  have hback : ∀ bs : List UInt8, (bs.map UInt8.toNat).map UInt8.ofNat = bs := by
    intro bs
    rw [List.map_map]
    exact (List.map_congr_left fun b _ => UInt8.ofNat_toNat).trans (List.map_id bs)
  refine ⟨by rw [show first.2 = _ from hreply], hout, hclient ▸ hret, fun hsecond => ?_⟩
  rw [hclient, hid, hcode, hback, hback] at hsecond
  exact sessionLogin_carries hsecond hfits.guid hfits.noCR hfits.code hready₂ beyond₂

/-- A user `u` with the password `p`, and what is built of the answer to its login. -/
def mainLogin : ReceivedMessage where
  toCXMessageData := ⟨0, 1, 56, 1, List.replicate 40 0 ++ [1, 0, 0, 0, 1, 1, 0, 0, 4, 0, 0, 0, 117, 13, 112, 0] ++
    List.replicate 40 9⟩
  isDWORD := by norm_num
  allocated := rfl

def dataLogin : ReceivedMessage where
  toCXMessageData := ⟨0, 1, 57, 1, List.replicate 40 0 ++ [1, 0, 0, 0, 1, 3, 0, 0, 5, 0, 0, 0, 71, 13, 49, 50, 0] ++
    List.replicate 40 9⟩
  isDWORD := by norm_num
  allocated := rfl

/-- A server with one session, `G` with the code `12`. -/
def oneSession : LoginEnv where
  pManager := true
  pSession := false
  strGuid := [71]
  getFreeSession := some [49, 50]
  findUsingSession strGuid := strGuid = [71]
  verifyCode _ strCode := if strCode = [49, 50] then 0 else -1
  sendPacket := true
  isThisMesAsynchronous := false
  pObjectServer := true
  dispatchOther := 0
  behind := []

theorem exchange_oneSession :
    ((LoginRun.start mainLogin fun _ => 0).sessionLogin oneSession 56).2.1 = 0 ∧
    ((LoginRun.start dataLogin fun _ => 0).sessionLogin oneSession 57).2 = (0, .code 200) := by
  have hready : Ready oneSession := ⟨rfl, rfl, rfl⟩
  have hmain : Carries mainLogin 1 [117] [112] :=
    ⟨1, 1, List.replicate 40 0, _, List.replicate 40 9, by decide, rfl, rfl, rfl⟩
  have hdata : Carries dataLogin 3 [71] [49, 50] :=
    ⟨1, 1, List.replicate 40 0, _, List.replicate 40 9, by decide, rfl, rfl, rfl⟩
  have h := exchange (c := .construct) dataLogin 3 hmain (by decide) (by decide) (by decide) hready rfl
    ⟨by decide, by decide, by decide, by decide⟩ rfl hready [] [] (fun _ => 0) (fun _ => 0)
  exact ⟨h.1, (h.2.2.2 hdata).1⟩

end LoginExchange

end KonsanNet
