import Mathlib.Tactic
import KonsanNet.ClientRecvInv
import KonsanNet.Wire

/-!
# The replies, from the server's send list to the client's calls

The client receives from a socket that gives the bytes of a stream in pieces of any size. `ReplyReader` says what
its calls of `RecvPacket` and `ReadLeftData` are for: each `RecvPacket` gives the payload of the next packet, as
much of it as the caller's buffer holds, `ReadLeftData` the rest of it, and behind the last complete packet there
is no reply any more. `Exact.outs_eq` is that this is what they do. With a stream that `SendDataList` has written the
packets are the ones that were pushed, in the order of their numbers (`replies_in_order`).
-/

namespace KonsanNet

namespace PlainPacket

/-- What `RecvPacket` gives to its caller. -/
def payload (q : PlainPacket) : Bytes := q.body.drop bodyDataLen

def mesCode (q : PlainPacket) : Nat := (CXPacketBodyData.ofBytes q.body).dwMesCode

/-- A packet as `PostSend` builds it, within what the client accepts. -/
structure IsReply (q : PlainPacket) : Prop where
  fixed : bodyDataLen ≤ q.body.length
  le : q.body.length ≤ 1024 * 1024 * 1024

end PlainPacket

/-! ### What the calls are for -/

structure ReplyReader where
  replies : List PlainPacket
  left : Bytes

inductive ReplyOp
  | recvPacket (room : Nat)
  | readLeftData (room : Nat)
  /-- `SendPacket` -/
  | request

inductive ReplyOut
  | reply (iRet : Int) (iReadBytes : Int) (dwMesCode : Nat) (bytes : Bytes)
  | noReply
  | left (iReadBytes : Int) (bytes : Bytes)
  | tooShort
  | requested
  /-- A call that does not return. -/
  | waits
deriving DecidableEq

namespace ReplyReader

def step (rd : ReplyReader) : ReplyOp → ReplyReader × ReplyOut
  | .recvPacket room =>
    match rd.replies with
    | [] => (⟨[], []⟩, .noReply)
    | q :: qs =>
      (⟨qs, q.payload.drop room⟩,
        .reply (if q.payload.length ≤ room then 0 else -8) (min q.payload.length room : Nat) q.mesCode
          (q.payload.take room))
  | .readLeftData room =>
    if rd.left.length ≤ room then (⟨rd.replies, []⟩, .left rd.left.length rd.left) else (rd, .tooShort)
  | .request => (rd, .requested)

def outs : ReplyReader → List ReplyOp → List ReplyOut
  | _, [] => []
  | rd, op :: ops => (rd.step op).2 :: (rd.step op).1.outs ops

end ReplyReader

/-! ### The socket -/

/-- The answers to a `Recv` of so many bytes on a socket with this stream, in pieces of any size, and what is left of
the stream. Behind its end the peer has closed. -/
inductive RecvAnswers : Nat → Bytes → List RecvBytesAnswer → Bytes → Prop
  | full {stream : Bytes} : RecvAnswers 0 stream [] stream
  | piece {iWantRecvLen : Nat} {bytes stream rest : Bytes} {answers : List RecvBytesAnswer} (hne : bytes ≠ [])
    (hle : bytes.length ≤ iWantRecvLen) (h : RecvAnswers (iWantRecvLen - bytes.length) stream answers rest) :
    RecvAnswers iWantRecvLen (bytes ++ stream) (.received bytes :: answers) rest
  | closed {iWantRecvLen : Nat} (hpos : 0 < iWantRecvLen) : RecvAnswers iWantRecvLen [] [.received []] []

/-- The answers to the two `Recv` of a `RecvPacket`, the second one for as many bytes as the header says. -/
def TakesPacket (stream : Bytes) (answers : List RecvBytesAnswer) (rest : Bytes) : Prop :=
  ∃ hs bs mid, answers = hs ++ bs ∧ RecvAnswers headerLen stream hs mid ∧
    RecvAnswers (CXPacketHeader.ofBytes (stream.take headerLen)).dwDataLen mid bs rest

inductive StreamOp
  | recvPacket (c : PacketCall) (data : Bytes)
  | readLeftData (data : Bytes)
  | request (byRequestID : Bytes)

def StreamOp.room : StreamOp → ReplyOp
  | .recvPacket _ data => .recvPacket data.length
  | .readLeftData data => .readLeftData data.length
  | .request _ => .request

namespace ClientRecv

section

variable {Pub Priv Rand : Type} (p : Primitives Pub Priv Rand)

def replyOut (r : RecvResult) (data : Bytes) : ReplyOut :=
  if r.iRet = 0 ∨ r.iRet = -8 then .reply r.iRet r.iReadBytes r.dwMesCode (data.take r.iReadBytes.toNat)
  else .noReply

/-- Callers begin with a length of 0. -/
def streamStep (s : ClientRecv) : StreamOp → ClientRecv × ReplyOut
  | .recvPacket c data =>
    match s.recvPacketInto p { c with iReadBytes := 0, isInt := zero_isInt } (some data) with
    | none => (s, .waits)
    | some (s', r, data') => (s', replyOut r data')
  | .readLeftData data =>
    match s.readLeftData data 0 with
    | (s', true, iReadBytes, data') => (s', .left iReadBytes (data'.take iReadBytes.toNat))
    | (s', false, _, _) => (s', .tooShort)
  | .request byRequestID => ({ s with byRequestID := byRequestID }, .requested)

def outs (s : ClientRecv) : List StreamOp → List ReplyOut
  | [] => []
  | op :: ops => (s.streamStep p op).2 :: outs (s.streamStep p op).1 ops

/-- The bytes that the calls of the run receive are those of the stream, and there is memory for the buffers. -/
inductive StreamRun : ClientRecv → Bytes → List StreamOp → Prop
  | nil {s : ClientRecv} {stream : Bytes} : StreamRun s stream []
  | recvPacket {s : ClientRecv} {stream rest : Bytes} {c : PacketCall} {data : Bytes} {ops : List StreamOp}
    (hmem : c.buffers.isSome) (htakes : s.bConnected = true → TakesPacket stream c.answers rest)
    (h : StreamRun (s.streamStep p (.recvPacket c data)).1 rest ops) :
    StreamRun s stream (.recvPacket c data :: ops)
  | readLeftData {s : ClientRecv} {stream data : Bytes} {ops : List StreamOp}
    (h : StreamRun (s.streamStep p (.readLeftData data)).1 stream ops) :
    StreamRun s stream (.readLeftData data :: ops)
  | request {s : ClientRecv} {stream byRequestID : Bytes} {ops : List StreamOp}
    (h : StreamRun (s.streamStep p (.request byRequestID)).1 stream ops) :
    StreamRun s stream (.request byRequestID :: ops)

end

variable {s s' : ClientRecv} {c : PacketCall} {q : PlainPacket} {stream mid rest : Bytes}
  {hs bs answers more : List RecvBytesAnswer} {iWantRecvLen : Nat}

/-! ### `Recv` on a stream -/

theorem recvLoop_received {total : Nat} {bytes got : Bytes} (hne : bytes ≠ []) :
    recvLoop total (.received bytes :: answers) got =
      if (got ++ bytes.take (total - got.length)).length < total then
        recvLoop total answers (got ++ bytes.take (total - got.length))
      else
        some (got ++ bytes.take (total - got.length), ((got ++ bytes.take (total - got.length)).length : Int),
          answers) := by
  cases bytes with
  | nil => exact absurd rfl hne
  | cons b bytes => rfl

/-- The loop takes what it wants off the stream, or comes to its end. -/
theorem recvLoop_answers (h : RecvAnswers iWantRecvLen stream answers rest) (more : List RecvBytesAnswer) :
    ∀ {got : Bytes} {total : Nat},
    got.length + iWantRecvLen = total → 0 < iWantRecvLen →
    (iWantRecvLen ≤ stream.length → rest = stream.drop iWantRecvLen ∧
      recvLoop total (answers ++ more) got = some (got ++ stream.take iWantRecvLen, (total : Int), more)) ∧
    (stream.length < iWantRecvLen → ∃ out, recvLoop total (answers ++ more) got = some (out, 0, more)) := by
  induction h with
  | full => exact fun _ h => absurd h (lt_irrefl 0)
  | closed hpos =>
    refine fun _ _ => ⟨fun hle => ?_, fun _ => ⟨_, rfl⟩⟩
    rw [List.length_nil] at hle
    omega
  | @piece want bytes stream rest answers hne hle h ih =>
    intro got total htotal hpos
    have hroom : total - got.length = want := by omega
    have hgot : (got ++ bytes).length = got.length + bytes.length := List.length_append
    have hlen : 0 < bytes.length := List.length_pos_of_ne_nil hne
    rw [List.cons_append, recvLoop_received hne, hroom, List.take_of_length_le hle]
    by_cases hlast : bytes.length = want
    · -- the last piece
      have hnot : ¬ (got ++ bytes).length < total := by omega
      have hrest : answers = [] ∧ rest = stream := by
        rw [hlast, Nat.sub_self] at h
        generalize hz : (0 : Nat) = z at h
        cases h with
        | full => exact ⟨rfl, rfl⟩
        | piece hne hle => exact absurd (List.length_eq_zero_iff.mp (by omega)) hne
        | closed hpos => omega
      obtain ⟨rfl, rfl⟩ := hrest
      rw [if_neg hnot]
      refine ⟨fun _ => ⟨?_, ?_⟩, fun hlt => ?_⟩
      · rw [← hlast, List.drop_left]
      · rw [← hlast, List.take_left, hgot, List.nil_append]
        simp only [Option.some.injEq, Prod.mk.injEq, true_and, and_true]
        omega
      · rw [List.length_append] at hlt
        omega
    · have hmore : (got ++ bytes).length < total := by omega
      obtain ⟨ihfull, ihend⟩ := ih (by omega : (got ++ bytes).length + _ = total) (by omega)
      rw [if_pos hmore, List.length_append]
      refine ⟨fun hle' => ?_, fun hlt => ihend (by omega)⟩
      obtain ⟨hrest, hloop⟩ := ihfull (by omega)
      refine ⟨?_, ?_⟩
      · rw [hrest, List.drop_append, List.drop_eq_nil_of_le hle, List.nil_append]
      · rw [hloop, List.append_assoc, List.take_append, List.take_of_length_le hle]

/-- A connected client. -/
structure Ready (s : ClientRecv) : Prop where
  created : s.bCreated = true
  connected : s.bConnected = true
  closing : s.bClosing = false

theorem Ready.recv (hr : s.Ready) (h : RecvAnswers iWantRecvLen stream answers rest) (hpos : 0 < iWantRecvLen)
    (more : List RecvBytesAnswer) :
    (iWantRecvLen ≤ stream.length → rest = stream.drop iWantRecvLen ∧
      s.recv iWantRecvLen (answers ++ more) = some (s, stream.take iWantRecvLen, (iWantRecvLen : Int), more)) ∧
    (stream.length < iWantRecvLen → ∃ out, s.recv iWantRecvLen (answers ++ more) = some (s.close, out, 0, more)) := by
  have hconn : ¬ ((!s.bConnected) = true ∨ (!s.bCreated) = true ∨ s.bClosing = true) := by
    simp [hr.created, hr.connected, hr.closing]
  obtain ⟨hfull, hend⟩ := recvLoop_answers h more (show ([] : Bytes).length + iWantRecvLen = iWantRecvLen from
    Nat.zero_add _) hpos
  unfold ClientRecv.recv
  rw [if_neg hpos.ne', if_neg hconn]
  refine ⟨fun hle => ?_, fun hlt => ?_⟩
  · obtain ⟨hrest, hloop⟩ := hfull hle
    refine ⟨hrest, ?_⟩
    rw [hloop, List.nil_append, Option.map_some, if_neg (by dsimp only; omega)]
  · obtain ⟨out, hloop⟩ := hend hlt
    exact ⟨out, by rw [hloop]; rfl⟩

/-! ### `RecvPacket` on a stream -/

theorem Ready.setRecvBufferSize (hr : s.Ready) (n : Nat) {buffers : Option (Nat → UInt8)} (hmem : buffers.isSome) :
    (s.setRecvBufferSize n buffers).1.Ready ∧ (s.setRecvBufferSize n buffers).2 = true := by
  unfold ClientRecv.setRecvBufferSize
  dsimp only
  split
  · exact ⟨hr, rfl⟩
  · obtain ⟨junk, rfl⟩ := Option.isSome_iff_exists.mp hmem
    exact ⟨⟨hr.created, hr.connected, hr.closing⟩, rfl⟩

theorem Ready.check (hr : s.Ready) (inside : Prop) [Decidable inside] : (s.check inside).Ready := by
  unfold ClientRecv.check
  split
  · exact hr
  · exact ⟨hr.created, hr.connected, hr.closing⟩

theorem Ready.putRecv (hr : s.Ready) (data : Bytes) : (s.putRecv data).Ready :=
  ⟨hr.created, hr.connected, hr.closing⟩

theorem setRecvBufferSize_room {n : Nat} {buffers : Option (Nat → UInt8)} (hle : n ≤ 1024 * 1024 * 1024)
    (hok : (s.setRecvBufferSize n buffers).2 = true) :
    n + bodyDataLen ≤ (s.setRecvBufferSize n buffers).1.pbyRecvBuffer.length := by
  have hmod : (n + bodyDataLen) % 2 ^ 32 = n + bodyDataLen := Nat.mod_eq_of_lt (by simp only [bodyDataLen]; omega)
  have hsize := setRecvBufferSize_length n buffers s
  rw [hmod] at hsize
  rcases hsize with ⟨heq, hle⟩ | ⟨-, -, heq⟩
  · exact (hle hok).trans (congrArg List.length heq).ge
  · exact heq.ge

/-- The header of a packet as `RecvPacket` sees it. -/
def headerOf (q : PlainPacket) : CXPacketHeader :=
  ⟨cxPacketHeaderFlag, 0, 0, q.body.length, byteSum q.body, q.dwOrignDataLen.toNat⟩

theorem not_encoded_headerOf (q : PlainPacket) : ¬ Encoded (headerOf q) := by
  rintro (h | h)
  · exact h rfl
  · exact h rfl

theorem ofBytes_take (hq : q.IsReply) (htake : stream.take headerLen = q.header) :
    CXPacketHeader.ofBytes (stream.take headerLen) = headerOf q := by
  have hle := hq.le
  rw [htake]
  exact q.ofBytes_header_of_lt (by norm_num; omega)

theorem Ready.receive (hr : s.Ready) (hq : q.IsReply)
    (hmem : c.buffers.isSome) (htakes : TakesPacket (q.encode ++ stream) c.answers rest) :
    rest = stream ∧ ∃ s₁, s.receive c = some (s₁, .ok (headerOf q, q.body)) ∧ s₁.Ready ∧
      s₁.pbyRecvBuffer.take q.body.length = q.body ∧ s₁.dwLeftRecvDataLen = 0 := by
  obtain ⟨hs, bs, mid, hc, hhs, hbs⟩ := htakes
  have hfixed := hq.fixed
  have hle := hq.le
  simp only [bodyDataLen] at hfixed
  have hlen : (q.encode ++ stream).length = headerLen + q.body.length + stream.length := by
    rw [List.length_append, PlainPacket.length_encode, PlainPacket.size]
  have htake : (q.encode ++ stream).take headerLen = q.header := by
    rw [PlainPacket.encode, List.append_assoc, ← q.length_header, List.take_left]
  have hdrop : (q.encode ++ stream).drop headerLen = q.body ++ stream := by
    rw [PlainPacket.encode, List.append_assoc, ← q.length_header, List.drop_left]
  have hready : s.noLeft.Ready := ⟨hr.created, hr.connected, hr.closing⟩
  obtain ⟨hmid, hhead⟩ := (hready.recv hhs (by decide) bs).1 (by omega)
  rw [hdrop] at hmid
  subst hmid
  rw [ofBytes_take hq htake] at hbs
  obtain ⟨hready₂, hok⟩ := hready.setRecvBufferSize (headerOf q).dwDataLen hmem
  have hroom := setRecvBufferSize_room (n := (headerOf q).dwDataLen) hle hok
  obtain ⟨-, -, hleft⟩ := setRecvBufferSize_outside (headerOf q).dwDataLen c.buffers s.noLeft
  generalize hset : s.noLeft.setRecvBufferSize (headerOf q).dwDataLen c.buffers = u at hready₂ hok hroom hleft
  obtain ⟨t, ok⟩ := u
  obtain rfl : ok = true := hok
  have hroom : q.body.length + bodyDataLen ≤ t.pbyRecvBuffer.length := hroom
  have hflag : (headerOf q).wFlag = cxPacketHeaderFlag := rfl
  have hmax : ¬ (headerOf q).dwDataLen > 1024 * 1024 * 1024 := not_lt.mpr hle
  have hpos : 0 < (headerOf q).dwDataLen := by
    show 0 < q.body.length
    omega
  obtain ⟨hrest, hbody⟩ := (hready₂.recv hbs hpos []).1 (by
    rw [List.length_append]
    exact Nat.le_add_right _ _)
  have hall : (q.body ++ stream).take (headerOf q).dwDataLen = q.body := List.take_left
  rw [List.append_nil, hall] at hbody
  refine ⟨hrest.trans List.drop_left, _, ?_, (hready₂.check (q.body.length ≤ t.pbyRecvBuffer.length)).putRecv q.body,
    ?_, (check_dwLeftRecvDataLen _ t).trans hleft⟩
  · unfold ClientRecv.receive
    rw [hc, hhead]
    dsimp only
    rw [ofBytes_take hq htake, if_neg (by decide), if_neg hmax, if_neg (not_not_intro hflag), hset]
    dsimp only
    rw [hbody, Option.map_some]
    dsimp only
    rw [if_neg (not_not_intro rfl)]
  · show ((overlay q.body _).take _) = _
    rw [check_pbyRecvBuffer, overlay, List.take_of_length_le (le_trans (Nat.le_add_right _ _) hroom), List.take_left]

theorem Ready.receive_end (hr : s.Ready) (hq : q.IsReply) (hmem : c.buffers.isSome) (hpre : stream <+: q.encode)
    (hcut : stream.length < q.size) (htakes : TakesPacket stream c.answers rest) :
    ∃ s₁ iRet, s.receive c = some (s₁, .error iRet) ∧ s₁.bConnected = false ∧
      s₁.dwLeftRecvDataLen = 0 ∧ -8 < iRet ∧ iRet < 0 := by
  obtain ⟨hs, bs, mid, hc, hhs, hbs⟩ := htakes
  have hready : s.noLeft.Ready := ⟨hr.created, hr.connected, hr.closing⟩
  by_cases hhead : stream.length < headerLen
  · obtain ⟨out, hrecv⟩ := (hready.recv hhs (by decide) bs).2 hhead
    refine ⟨s.noLeft.close, -3, ?_, rfl, rfl, by decide, by decide⟩
    unfold ClientRecv.receive
    rw [hc, hrecv]
    rfl
  · obtain ⟨hmid, hrecv⟩ := (hready.recv hhs (by decide) bs).1 (not_lt.mp hhead)
    have hle := hq.le
    have htake : stream.take headerLen = q.header := by
      obtain ⟨tail, htail⟩ := hpre
      have hhdr : q.encode.take headerLen = q.header := by
        rw [PlainPacket.encode, ← q.length_header, List.take_left]
      rw [← hhdr, ← htail, List.take_append_of_le_length (not_lt.mp hhead)]
    rw [ofBytes_take hq htake] at hbs
    obtain ⟨hready₂, hok⟩ := hready.setRecvBufferSize (headerOf q).dwDataLen hmem
    generalize hset : s.noLeft.setRecvBufferSize (headerOf q).dwDataLen c.buffers = u at hready₂ hok
    obtain ⟨t, ok⟩ := u
    obtain rfl : ok = true := hok
    have hshort : mid.length < (headerOf q).dwDataLen := by
      show mid.length < q.body.length
      rw [hmid, List.length_drop]
      simp only [PlainPacket.size] at hcut
      omega
    obtain ⟨out, hbody⟩ := (hready₂.recv hbs (by omega) []).2 hshort
    rw [List.append_nil] at hbody
    have hflag : (headerOf q).wFlag = cxPacketHeaderFlag := rfl
    have hmax : ¬ (headerOf q).dwDataLen > 1024 * 1024 * 1024 := not_lt.mpr hle
    refine ⟨((t.close.check (out.length ≤ t.close.pbyRecvBuffer.length)).putRecv out), -7, ?_, ?_,
      check_dwLeftRecvDataLen _ t.close, by decide, by decide⟩
    · unfold ClientRecv.receive
      rw [hc, hrecv]
      dsimp only
      rw [ofBytes_take hq htake, if_neg (by decide), if_neg hmax, if_neg (not_not_intro hflag), hset]
      dsimp only
      rw [hbody, Option.map_some]
      dsimp only
      rw [if_pos (by omega)]
    · show (t.close.check _).bConnected = false
      unfold ClientRecv.check
      split <;> rfl

/-! ### The calls -/

/-- The client with the stream before it is where the reader is. -/
structure Reading (s : ClientRecv) (stream : Bytes) (rd : ReplyReader) : Prop where
  leftLen : s.dwLeftRecvDataLen = rd.left.length
  left : (s.pbyRecvBuffer.drop (bodyDataLen + s.dwLeftDataBeginPos)).take s.dwLeftRecvDataLen = rd.left
  source : (s.Ready ∧ (∀ q ∈ rd.replies, q.IsReply) ∧
      ∃ (tail : Bytes) (q : PlainPacket),
        stream = rd.replies.flatMap PlainPacket.encode ++ tail ∧ q.IsReply ∧ tail <+: q.encode ∧
        tail.length < q.size) ∨
    s.bConnected = false ∧ rd.replies = []

variable {Pub Priv Rand : Type} {p : Primitives Pub Priv Rand} {rd : ReplyReader}

theorem Reading.readLeftData (h : Reading s stream rd) (data : Bytes) :
    (s.streamStep p (.readLeftData data)).2 = (rd.step (.readLeftData data.length)).2 ∧
      Reading (s.streamStep p (.readLeftData data)).1 stream (rd.step (.readLeftData data.length)).1 := by
  have hlen := h.leftLen
  have hleft := h.left
  by_cases hzero : s.dwLeftRecvDataLen = 0
  · have hnil : rd.left = [] := List.length_eq_zero_iff.mp (hlen ▸ hzero)
    have hcall : s.readLeftData data 0 = (s, true, 0, data) := if_pos hzero
    have hstep : rd.step (.readLeftData data.length) = (rd, .left 0 []) := by
      obtain ⟨replies, left⟩ := rd
      obtain rfl : left = [] := hnil
      simp [ReplyReader.step]
    rw [streamStep, hcall, hstep]
    exact ⟨rfl, h⟩
  by_cases hshort : data.length < s.dwLeftRecvDataLen
  · have hcall : s.readLeftData data 0 = (s, false, 0, data) := by
      unfold ClientRecv.readLeftData
      rw [if_neg hzero, if_pos hshort]
    have hstep : rd.step (.readLeftData data.length) = (rd, .tooShort) := if_neg (by omega)
    rw [streamStep, hcall, hstep]
    exact ⟨rfl, h⟩
  · have hcall : s.readLeftData data 0 =
        ((s.check (bodyDataLen + s.dwLeftDataBeginPos + s.dwLeftRecvDataLen ≤ s.pbyRecvBuffer.length)).noLeft, true,
          (rd.left.length : Int), rd.left ++ data.drop rd.left.length) := by
      unfold ClientRecv.readLeftData
      rw [if_neg hzero, if_neg hshort]
      simp only [hleft, memcpy, List.take_zero, List.nil_append, Nat.zero_add]
      rw [hlen]
    have hstep : rd.step (.readLeftData data.length) = (⟨rd.replies, []⟩, .left rd.left.length rd.left) :=
      if_pos (by omega)
    rw [streamStep, hcall, hstep]
    refine ⟨?_, rfl, rfl, ?_⟩
    · dsimp only
      rw [Int.toNat_natCast, List.take_left]
    · rcases h.source with hsource | hsource
      · have hc := hsource.1.check
          (bodyDataLen + s.dwLeftDataBeginPos + s.dwLeftRecvDataLen ≤ s.pbyRecvBuffer.length)
        exact .inl ⟨⟨hc.created, hc.connected, hc.closing⟩, hsource.2⟩
      · refine .inr ⟨?_, hsource.2⟩
        show (s.check _).bConnected = false
        unfold ClientRecv.check
        split <;> exact hsource.1

theorem Ready.takeObjectGuid (hr : s.Ready) (body : CXPacketBodyData) : (s.takeObjectGuid body).Ready := by
  unfold ClientRecv.takeObjectGuid
  split
  · exact ⟨hr.created, hr.connected, hr.closing⟩
  · exact hr

/-- The end of a `RecvPacket` that has the packet in the receive buffer. -/
structure Got (q : PlainPacket) (r : ClientRecv × RecvResult) : Prop where
  ready : r.1.Ready
  payload : (r.1.pbyRecvBuffer.drop bodyDataLen).take q.payload.length = q.payload
  left : r.1.dwLeftRecvDataLen = 0
  iRet : r.2.iRet = 0
  iReadBytes : r.2.iReadBytes = (q.payload.length : Int)
  mesCode : r.2.dwMesCode = q.mesCode

theorem Ready.finish (hr : s.Ready) (hq : q.IsReply) (hbuf : s.pbyRecvBuffer.take q.body.length = q.body)
    (hleft : s.dwLeftRecvDataLen = 0) : Got q (s.finish q.body.length) := by
  have hfixed := hq.fixed
  have hle := hq.le
  have hlen : q.body.length ≤ s.pbyRecvBuffer.length := by
    rw [← hbuf, List.length_take]
    exact min_le_right _ _
  obtain ⟨-, hsame, hleft', -, hbytes⟩ := finish_spec (s := s) q.body.length (hfixed.trans hlen)
  refine ⟨(hr.check _).takeObjectGuid _, ?_, hleft'.trans hleft, rfl, ?_, ?_⟩
  · have hpay : q.payload.length = q.body.length - bodyDataLen := List.length_drop
    rw [hsame, hpay, ← List.drop_take, hbuf]
    rfl
  · rw [hbytes, (payload_eq le_rfl (by omega)).mpr ⟨rfl, hfixed, by omega⟩]
    exact congrArg Nat.cast List.length_drop.symm
  · show (CXPacketBodyData.ofBytes (s.check _).pbyRecvBuffer).dwMesCode = _
    have htake : ∀ bs : Bytes, (bs.take q.body.length).drop 32 = (bs.drop 32).take (q.body.length - 32) :=
      fun bs => List.drop_take
    simp only [bodyDataLen] at hfixed
    have hcode : ((s.pbyRecvBuffer.drop 32).take 4) = ((q.body.drop 32).take 4) := by
      rw [← hbuf, htake, List.take_take, min_eq_left (by omega)]
    rw [check_pbyRecvBuffer]
    exact congrArg leValue hcode

theorem Got.giveData {r : ClientRecv × RecvResult} (h : Got q r) (data : Bytes) :
    replyOut (giveData data 0 r).2.1 (giveData data 0 r).2.2 =
        .reply (if q.payload.length ≤ data.length then 0 else -8) (min q.payload.length data.length : Nat) q.mesCode
          (q.payload.take data.length) ∧
      (giveData data 0 r).1.Ready ∧
      (giveData data 0 r).1.dwLeftRecvDataLen = (q.payload.drop data.length).length ∧
      ((giveData data 0 r).1.pbyRecvBuffer.drop (bodyDataLen + (giveData data 0 r).1.dwLeftDataBeginPos)).take
        (giveData data 0 r).1.dwLeftRecvDataLen = q.payload.drop data.length := by
  have hpay := h.payload
  have hiRet := h.iRet
  have hcode := h.mesCode
  have hready := fun inside [Decidable inside] => h.ready.check inside
  have hbytes' := h.iReadBytes
  unfold ClientRecv.giveData
  rw [h.iReadBytes]
  by_cases hzero : q.payload.length = 0
  · have hnil : q.payload = [] := List.length_eq_zero_iff.mp hzero
    rw [if_neg (by omega), hnil]
    refine ⟨by simp [replyOut, hiRet, hcode], h.ready, ?_, ?_⟩
    · rw [List.drop_nil]
      exact h.left
    · rw [List.drop_nil]
      show List.take r.1.dwLeftRecvDataLen _ = _
      rw [h.left, List.take_zero]
  rw [if_pos ⟨hiRet, by omega⟩]
  dsimp only
  rw [Int.toNat_natCast]
  by_cases hshort : data.length < q.payload.length
  · rw [if_pos hshort, if_neg (not_le.mpr hshort), min_eq_right hshort.le]
    have hbytes : (r.1.pbyRecvBuffer.drop bodyDataLen).take data.length = q.payload.take data.length := by
      rw [← hpay, List.take_take, min_eq_left hshort.le]
    refine ⟨?_, ⟨(hready _).created, (hready _).connected, (hready _).closing⟩, List.length_drop.symm, ?_⟩
    · rw [replyOut, if_pos (Or.inr rfl), Int.toNat_natCast, hbytes, List.take_take, min_self, hcode]
    · show ((r.1.check _).pbyRecvBuffer.drop (bodyDataLen + data.length)).take (q.payload.length - data.length) = _
      rw [check_pbyRecvBuffer, ← List.drop_drop, ← List.drop_take, hpay]
  · have hle := not_lt.mp hshort
    rw [if_neg hshort, if_pos hle, min_eq_left hle]
    refine ⟨?_, h.ready.check _, ?_, ?_⟩
    · have hmem : ∀ dst : Bytes, (memcpy dst 0 q.payload).take q.payload.length = q.payload := by
        intro dst
        rw [memcpy, List.take_zero, List.nil_append, List.take_left]
      rw [replyOut, if_pos (Or.inl hiRet), hbytes', Int.toNat_natCast, hpay, hmem, hcode, hiRet,
        List.take_of_length_le hle]
    · rw [List.drop_eq_nil_of_le hle]
      exact (check_dwLeftRecvDataLen _ r.1).trans h.left
    · rw [List.drop_eq_nil_of_le hle, check_dwLeftRecvDataLen, h.left]
      rfl

theorem streamStep_error {data : Bytes} {r : RecvResult} (hret : r.iRet < 0 ∧ r.iRet ≠ -8)
    (h : s.noLeft.recvPacket p { c with iReadBytes := 0, isInt := zero_isInt } = some (s', r)) :
    s.streamStep p (.recvPacket c data) = (s', .noReply) := by
  have hinto : s.recvPacketInto p { c with iReadBytes := 0, isInt := zero_isInt } (some data) =
      some (s', { r with iReadBytes := 0 }, List.replicate data.length 0) := by
    unfold ClientRecv.recvPacketInto
    dsimp only
    rw [h, Option.map_some, ClientRecv.giveData, if_neg (show ¬ (r.iRet = 0 ∧ 0 < r.iReadBytes) by omega)]
  have hout : ¬ (r.iRet = 0 ∨ r.iRet = -8) := by omega
  rw [streamStep, hinto]
  exact congrArg (Prod.mk s') (if_neg hout)

theorem Reading.recvPacket (h : Reading s stream rd) (hmem : c.buffers.isSome)
    (htakes : s.bConnected = true → TakesPacket stream c.answers rest) (data : Bytes) :
    (s.streamStep p (.recvPacket c data)).2 = (rd.step (.recvPacket data.length)).2 ∧
      Reading (s.streamStep p (.recvPacket c data)).1 rest (rd.step (.recvPacket data.length)).1 := by
  obtain ⟨replies, left⟩ := rd
  rcases h.source with ⟨hr, hreplies, tail, q', hstream, hq', hpre, hcut⟩ | ⟨hconn, hnil⟩
  · have hready : s.noLeft.Ready := ⟨hr.created, hr.connected, hr.closing⟩
    have htakes := htakes hr.connected
    cases replies with
    | nil =>
      rw [List.flatMap_nil, List.nil_append] at hstream
      subst hstream
      obtain ⟨s₁, iRet, hrecv, hclosed, hleft, hret, hneg⟩ := hready.receive_end
        (c := { c with iReadBytes := 0, isInt := zero_isInt }) hq' hmem hpre hcut htakes
      have hcall : s.noLeft.recvPacket p { c with iReadBytes := 0, isInt := zero_isInt } =
          some (s₁, ⟨iRet, 0, c.dwMesCode⟩) := by
        have hconn : ¬ ((!s.noLeft.bConnected) = true ∨ (!s.noLeft.bCreated) = true ∨ s.noLeft.bClosing = true) := by
          simp [hready.created, hready.connected, hready.closing]
        unfold ClientRecv.recvPacket
        rw [if_neg hconn, hrecv]
      rw [streamStep_error ⟨hneg, hret.ne'⟩ hcall]
      refine ⟨rfl, hleft, ?_, .inr ⟨hclosed, rfl⟩⟩
      rw [hleft, List.take_zero]
      rfl
    | cons q qs =>
      obtain ⟨hq, hqs⟩ := List.forall_mem_cons.mp hreplies
      rw [List.flatMap_cons, List.append_assoc] at hstream
      subst hstream
      obtain ⟨rfl, s₁, hrecv, hr₁, hbuf, hleft⟩ := hready.receive
        (c := { c with iReadBytes := 0, isInt := zero_isInt }) hq hmem htakes
      obtain ⟨hout, hr₂, hlen, hrest⟩ := (hr₁.finish hq hbuf hleft).giveData (List.replicate data.length 0)
      have hcall : s.recvPacketInto p { c with iReadBytes := 0, isInt := zero_isInt } (some data) = _ :=
        recvPacketInto_of_receive hrecv
      rw [decode_plain _ (not_encoded_headerOf q)] at hcall
      rw [List.length_replicate] at hout hlen hrest
      generalize hgive : ClientRecv.giveData (List.replicate data.length 0) 0 (s₁.finish q.body.length) = g
        at hout hr₂ hlen hrest hcall
      obtain ⟨t, r, data'⟩ := g
      rw [streamStep, hcall]
      exact ⟨hout, hlen, hrest, .inl ⟨hr₂, hqs, tail, q', rfl, hq', hpre, hcut⟩⟩
  · obtain rfl : replies = [] := hnil
    have hcall : s.noLeft.recvPacket p { c with iReadBytes := 0, isInt := zero_isInt } =
        some (s.noLeft, ⟨-2, 0, c.dwMesCode⟩) := by
      unfold ClientRecv.recvPacket
      exact if_pos (Or.inl (by rw [show s.noLeft.bConnected = false from hconn]; rfl))
    have hret : (-2 : Int) < 0 ∧ (-2 : Int) ≠ -8 := by decide
    rw [streamStep_error hret hcall]
    exact ⟨rfl, rfl, rfl, .inr ⟨hconn, rfl⟩⟩

theorem Reading.outs {ops : List StreamOp} (h : Reading s stream rd) (hrun : StreamRun p s stream ops) :
    s.outs p ops = rd.outs (ops.map StreamOp.room) := by
  induction hrun generalizing rd with
  | nil => rfl
  | recvPacket hmem htakes _ ih =>
    obtain ⟨hout, hread⟩ := h.recvPacket hmem htakes _
    exact List.cons_eq_cons.mpr ⟨hout, ih hread⟩
  | readLeftData _ ih =>
    obtain ⟨hout, hread⟩ := h.readLeftData _
    exact List.cons_eq_cons.mpr ⟨hout, ih hread⟩
  | request _ ih =>
    refine List.cons_eq_cons.mpr ⟨rfl, ih ⟨h.leftLen, h.left, ?_⟩⟩
    exact h.source.imp (fun ⟨hr, hrest⟩ => ⟨⟨hr.created, hr.connected, hr.closing⟩, hrest⟩) id

end ClientRecv

/-! ### What the server has sent -/

namespace WireRun

variable {r : WireRun} {reply : Nat → PlainPacket} {Pub Priv Rand : Type} {p : Primitives Pub Priv Rand}

/-- The stream on the wire is that of the sent packets and a part of the next one. -/
theorem Exact.wire_eq (h : r.Exact)
    (hreply : ∀ b ∈ r.pushed, b.rest = (reply b.nSequenceNum).encode ∧ (reply b.nSequenceNum).IsReply) :
    ∃ (tail : Bytes) (q : PlainPacket),
      r.conn.wire = ((List.range' 1 r.conn.uiLastSentPacketSequenceNum).map reply).flatMap PlainPacket.encode ++ tail ∧
        q.IsReply ∧ tail <+: q.encode ∧ tail.length < q.size := by
  obtain ⟨hp, k, hsent⟩ := h
  have hpacket : ∀ b ∈ r.pushed, packet r.pushed b.nSequenceNum = (reply b.nSequenceNum).encode :=
    fun b hb => (hp.packet_eq hb).trans (hreply b hb).1
  have hstream : stream r.pushed r.conn.uiLastSentPacketSequenceNum =
      ((List.range' 1 r.conn.uiLastSentPacketSequenceNum).map reply).flatMap PlainPacket.encode := by
    rw [List.flatMap_map]
    refine List.flatMap_congr fun i hi => ?_
    have hi := List.mem_range'_1.mp hi
    obtain ⟨b, hb, rfl⟩ := hsent.num_mem hi.1 (by omega)
    exact hpacket b hb
  rw [← hstream]
  rcases hsent.partly with hk | hk
  · refine ⟨[], ⟨List.replicate 40 0, 0⟩, ?_, ⟨by decide, by decide⟩, List.nil_prefix, Nat.succ_pos _⟩
    rw [hsent.wire, hk, List.take_zero]
  · obtain ⟨b, hb, hnum⟩ : ∃ b ∈ r.pushed, b.nSequenceNum = r.conn.uiLastSentPacketSequenceNum + 1 := by
      by_contra hno
      rw [packet_eq_nil fun b hb hnum => hno ⟨b, hb, hnum⟩] at hk
      cases hk
    have hnext : packet r.pushed (r.conn.uiLastSentPacketSequenceNum + 1) = (reply b.nSequenceNum).encode := by
      rw [← hnum]
      exact hpacket b hb
    rw [hnext] at hk
    refine ⟨_, reply b.nSequenceNum, hsent.wire, (hreply b hb).2, ?_, ?_⟩
    · rw [hnext]
      exact List.take_prefix _ _
    · rw [hnext, List.length_take, min_eq_left hk.le, ← PlainPacket.length_encode]
      exact hk

theorem Exact.outs_eq (h : r.Exact) (reply : Nat → PlainPacket)
    (hreply : ∀ b ∈ r.pushed, b.rest = (reply b.nSequenceNum).encode ∧ (reply b.nSequenceNum).IsReply)
    {client : ClientRecv} (hready : client.Ready) (hleft : client.dwLeftRecvDataLen = 0) {ops : List StreamOp}
    (hrun : client.StreamRun p r.conn.wire ops) :
    client.outs p ops =
      ReplyReader.outs ⟨(List.range' 1 r.conn.uiLastSentPacketSequenceNum).map reply, []⟩ (ops.map StreamOp.room) := by
  refine ClientRecv.Reading.outs ⟨hleft, ?_, .inl ⟨hready, ?_, h.wire_eq hreply⟩⟩ hrun
  · rw [hleft, List.take_zero]
  · intro q hq
    obtain ⟨i, hi, rfl⟩ := List.mem_map.mp hq
    have hi := List.mem_range'_1.mp hi
    obtain ⟨k, hsent⟩ := h.sent
    obtain ⟨b, hb, rfl⟩ := hsent.num_mem hi.1 (by omega)
    exact (hreply b hb).2

/-- A payload of `i` bytes. -/
def sevens (i : Nat) : PlainPacket := ⟨List.replicate 40 0 ++ List.replicate i 7, 1⟩

def sevensBuffer (i : Nat) : CXBufferObj := ⟨i, (sevens i).encode, (sevens i).encode.length, 0⟩

/-- The second reply is pushed first, and the first one is sent in two pieces. -/
def sevensRun : List Act :=
  [.push (sevensBuffer 2), .drain (answering []), .push (sevensBuffer 1), .drain (answering [.written 30, .eagain]),
    .drain (answering [.written 27, .written 58])]

/-- Both packets in pieces that do not end where a header ends. -/
def sevensCall (i : Nat) : PacketCall where
  iReadBytes := 0
  isInt := ClientRecv.zero_isInt
  dwMesCode := 0
  answers := [.received ((sevens i).header.take 3), .received ((sevens i).header.drop 3),
    .received (List.replicate 40 0), .received (List.replicate i 7)]
  buffers := some fun _ => 0

theorem takesPacket_sevens {i : Nat} (hpos : 0 < i) (hle : i < 100) (rest : Bytes) :
    TakesPacket ((sevens i).encode ++ rest) (sevensCall i).answers rest := by
  have hbody : (sevens i).body.length = 40 + i := by rw [sevens, List.length_append, List.length_replicate,
    List.length_replicate]
  have hlen : (sevens i).header.length = 16 := PlainPacket.length_header _
  have hreply : (sevens i).IsReply := ⟨by simp only [bodyDataLen]; omega, by omega⟩
  have htake : ((sevens i).encode ++ rest).take headerLen = (sevens i).header := by
    rw [PlainPacket.encode, List.append_assoc, ← (sevens i).length_header, List.take_left]
  refine ⟨[.received ((sevens i).header.take 3), .received ((sevens i).header.drop 3)],
    [.received (List.replicate 40 0), .received (List.replicate i 7)], (sevens i).body ++ rest, rfl, ?_, ?_⟩
  · have hcut : (sevens i).encode ++ rest =
        (sevens i).header.take 3 ++ ((sevens i).header.drop 3 ++ ((sevens i).body ++ rest)) := by
      rw [← List.append_assoc, List.take_append_drop, PlainPacket.encode, List.append_assoc]
    have htake3 : ((sevens i).header.take 3).length = 3 := by rw [List.length_take]; omega
    have hdrop3 : ((sevens i).header.drop 3).length = 13 := by rw [List.length_drop]; omega
    have hfull : RecvAnswers (headerLen - 3 - 13) ((sevens i).body ++ rest) [] ((sevens i).body ++ rest) := .full
    rw [hcut]
    refine .piece (List.ne_nil_of_length_pos (by omega)) (by rw [htake3]; decide) ?_
    refine .piece (List.ne_nil_of_length_pos (by omega)) (by rw [htake3, hdrop3]; decide) ?_
    rwa [htake3, hdrop3]
  · rw [ClientRecv.ofBytes_take hreply htake]
    show RecvAnswers (sevens i).body.length _ _ _
    have hfull : RecvAnswers (40 + i - 40 - i) rest [] rest := by
      rw [Nat.add_sub_cancel_left, Nat.sub_self]
      exact .full
    rw [hbody, sevens, List.append_assoc]
    refine .piece (by simp) (by simp) ?_
    refine .piece (List.ne_nil_of_length_pos (by simpa using hpos)) (by simp) ?_
    rwa [List.length_replicate, List.length_replicate]

/-- The caller has no room for the first payload and reads it with `ReadLeftData`; there is no third reply. -/
def sevensOps : List StreamOp :=
  [.recvPacket (sevensCall 1) [], .readLeftData [0], .recvPacket (sevensCall 2) [0, 0, 0],
    .recvPacket { sevensCall 3 with answers := [.received []] } [0]]

theorem streamRun_sevens : ClientRecv.connected.StreamRun Primitives.library96
    ((sevens 1).encode ++ ((sevens 2).encode ++ [])) sevensOps := by
  refine .recvPacket rfl (fun _ => takesPacket_sevens (by decide) (by decide) _) (.readLeftData ?_)
  refine .recvPacket rfl (fun _ => takesPacket_sevens (by decide) (by decide) _) ?_
  exact .recvPacket rfl (fun _ => ⟨[.received []], [], [], rfl, .closed (by decide), .full⟩) .nil

end WireRun

end KonsanNet
