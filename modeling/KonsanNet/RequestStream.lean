import Mathlib.Tactic
import KonsanNet.TcpClientInv
import KonsanNet.RequestsQueue

/-!
# The requests, from the client's calls to the server's handlers

A client makes calls of `SendPacket`, and its socket takes each packet in pieces of any size, or stops in the middle
of one. `Streamed` says what is on the wire: the packets of the calls that have returned 0, and maybe a part of the
next one, behind which nothing is sent any more. `requests_handled`: the server's handlers get the requests of the
calls that have returned 0, each once and in the order of the calls, and never one of a call that has failed.

The calls are those that `roundTrip_iff` is about: the payload is copied or in its place, and no buffer is replaced.
-/

namespace KonsanNet

/-- The packet that a client without encryption and compression makes of the body. -/
def CXPacketBodyData.packet (b : CXPacketBodyData) : PlainPacket := CXTcpClient.plainPacket (b.fixedBytes ++ b.buf)

namespace CXTcpClient

variable {s s' s₀ s₁ : CXTcpClient} {c : SendCall} {iRet : Int}

/-- What a call asks of the server. -/
def request (s : CXTcpClient) (c : SendCall) : CXPacketBodyData :=
  ⟨s.byRPCObjectGuid, c.newGuid, c.dwMesCode.toNat, (s.iPacketNumber + 1).toNat, s.mem.bytes c.pbData c.dwLen⟩

/-- The calls of a client on one connection, with what each has asked and returned. Between them the caller uses its
memory and sets the object's guid. -/
inductive Calls (s₀ : CXTcpClient) : CXTcpClient → List (CXPacketBodyData × Int) → Prop
  | nil : Calls s₀ s₀ []
  | caller {s : CXTcpClient} {l : List (CXPacketBodyData × Int)} (m : Memory BufKind) (h : Calls s₀ s l)
    (hm : CallerOk s m) : Calls s₀ { s with mem := m } l
  | setRPCObjectGuid {s : CXTcpClient} {l : List (CXPacketBodyData × Int)} (pbyGuid : List UInt8) (h : Calls s₀ s l)
    (hg : pbyGuid.length = 16) : Calls s₀ { s with byRPCObjectGuid := pbyGuid } l
  | send {s s' : CXTcpClient} {l : List (CXPacketBodyData × Int)} {iRet : Int} (c : SendCall) (h : Calls s₀ s l)
    (hc : CallOk s c) (hno : ¬ Replaces s c) (hplace : InPlace s c) (hs : s.sendPacket c = some (s', iRet)) :
    Calls s₀ s' (l ++ [(s.request c, iRet)])

/-- The requests of the calls that have succeeded. -/
def succeeded (l : List (CXPacketBodyData × Int)) : List CXPacketBodyData :=
  (l.filter fun p => p.2 = 0).map Prod.fst

/-- The requests of the calls that have come to `Send`. -/
def attempted (l : List (CXPacketBodyData × Int)) : List CXPacketBodyData :=
  (l.filter fun p => p.2 = 0 ∨ p.2 = -6).map Prod.fst

/-! ### One call -/

/-- The loop of `Send` has put everything on the wire, or less and says so. -/
theorem sendLoop_cases {n : Nat} : ∀ {answers : List SendBytesAnswer} {off o : Nat} {r : Int}, off < n →
    sendLoop n answers off = some (o, r) → (r = n ∧ o = n) ∨ (r ≠ n ∧ o < n)
  | [], _, _, _, _, h => nomatch h
  | .socketError :: _, _, _, _, hoff, h => by
    cases h
    omega
  | .sent 0 :: _, _, _, _, hoff, h => by
    cases h
    omega
  | .sent (k + 1) :: answers, off, o, r, hoff, h => by
    unfold sendLoop at h
    by_cases hlt : off + min (k + 1) (n - off) < n
    · simp only [hlt, if_true] at h
      exact sendLoop_cases hlt h
    · simp only [hlt, if_false] at h
      cases h
      omega

/-- The socket is given the packet. -/
def Sends (s : CXTcpClient) (bpBuf : Nat) : Prop :=
  bpBuf ≠ 0 ∧ s.bConnected = true ∧ s.bCreated = true ∧ s.bClosing = false

theorem send_cases {answers : List SendBytesAnswer} {a n : Nat} {r : Int} (hn : 0 < n)
    (h : s.send answers a n = some (s', r)) : s'.bConnected = s.bConnected ∧
      ∃ o, s'.wire = s.wire ++ (s.mem.bytes a n).take o ∧ (0 < o → s.Sends a) ∧
        ((r = n ∧ o = n) ∨ (r ≠ n ∧ o < n)) := by
  unfold send at h
  by_cases h0 : a = 0 ∨ n = 0
  · rw [if_pos h0] at h
    cases h
    exact ⟨rfl, 0, by simp, fun h => absurd h (lt_irrefl 0), by omega⟩
  rw [if_neg h0] at h
  by_cases hc : (!s.bConnected) = true ∨ (!s.bCreated) = true ∨ s.bClosing = true
  · rw [if_pos hc] at h
    cases h
    exact ⟨rfl, 0, by simp, fun h => absurd h (lt_irrefl 0), by omega⟩
  rw [if_neg hc] at h
  obtain ⟨⟨o, r'⟩, hloop, hq⟩ := Option.map_eq_some_iff.mp h
  cases hq
  exact ⟨rfl, o, rfl, fun _ => ⟨fun ha => h0 (Or.inl ha), by simpa using hc⟩, sendLoop_cases hn hloop⟩

theorem Sends.all {a n : Nat} (h : s.Sends a) (hn : 0 < n) : s.send [.sent n] a n =
    some ({ s with mem := (s.mem.load a n).1, wire := s.wire ++ (s.mem.bytes a n).take n }, (n : Int)) := by
  have hconn : ¬ ((!s.bConnected) = true ∨ (!s.bCreated) = true ∨ s.bClosing = true) := by
    simp [h.2.1, h.2.2.1, h.2.2.2]
  unfold send
  rw [if_neg (not_or.mpr ⟨h.1, hn.ne'⟩), if_neg hconn]
  obtain ⟨k, rfl⟩ := Nat.exists_eq_add_one.mpr hn
  have hloop : sendLoop (k + 1) [.sent (k + 1)] 0 = some (k + 1, ((k + 1 : Nat) : Int)) := by
    unfold sendLoop
    simp
  dsimp only
  rw [hloop]
  rfl

/-- A call that comes to the socket has put its packet together without a look at the answers of the socket. -/
theorem sendPacket_answers (hplain : s₁.encryptType = 0 ∧ s₁.compressType = 0)
    (hplain₀ : s.encryptType = 0 ∧ s.compressType = 0) (hnull : c.pbData ≠ 0) (hle : c.dwLen ≤ 1024 * 1024 * 1024)
    (hset : (s.pbySendBuffer ≤ c.pbData ∧ c.pbData < s.pbySendBuffer + s.dwSendBufferLen) ∧ s₁ = s.withRequest c ∨
      ¬ (s.pbySendBuffer ≤ c.pbData ∧ c.pbData < s.pbySendBuffer + s.dwSendBufferLen) ∧
        (s.withRequest c).setSendBufferSize c.buffers c.dwLen = some (s₁, true))
    (answers : List SendBytesAnswer) :
    s.sendPacket { c with sendBytes := answers } =
      (s₁.putBody c (s₁.pbyRealSendBuffer + headerLen)
        (inBuffer c.pbData s₁.pbyRealSendBuffer s₁.dwRealSendBufferLen)).sendBuilt { c with sendBytes := answers }
          (s.pbyRealSendBuffer + headerLen) (c.dwLen + packetDataLen) (c.dwLen + bodyDataLen) := by
  have hnone : ¬ (s.encryptType ≠ 0 ∨ s.compressType ≠ 0) := by
    rw [hplain₀.1, hplain₀.2]
    simp
  have hbuild : s₁.buildBody { c with sendBytes := answers } (s.pbyRealSendBuffer + headerLen) =
      (s₁.putBody c (s₁.pbyRealSendBuffer + headerLen)
        (inBuffer c.pbData s₁.pbyRealSendBuffer s₁.dwRealSendBufferLen), some (c.dwLen + packetDataLen)) := by
    unfold buildBody
    rw [if_neg (by rw [hplain.1, hplain.2]; simp)]
    rfl
  unfold sendPacket
  rw [if_neg (not_or.mpr ⟨hnull, not_lt.mpr hle⟩), if_neg (fun hc => hnone hc.1)]
  dsimp only
  rcases hset with ⟨hin, rfl⟩ | ⟨hin, hset⟩
  · simp only [hin, and_self, decide_true, if_true]
    unfold withRequest at hbuild ⊢
    rw [hbuild]
  · simp only [hin, decide_false, Bool.false_eq_true, if_false]
    unfold withRequest at hset
    rw [hset]
    dsimp only
    rw [hbuild]

/-- What is on the wire behind a call: nothing of a packet that did not come to `Send`, all of one whose call has
succeeded, and less of one whose call has failed, which is the last one on this connection. -/
inductive Put (s s' : CXTcpClient) (c : SendCall) : Int → Prop
  | refused {iRet : Int} (hret : iRet ≠ 0 ∧ iRet ≠ -6) (hwire : s'.wire = s.wire)
      (hconn : s'.bConnected = s.bConnected) :
    Put s s' c iRet
  | sent (hwire : s'.wire = s.wire ++ (s.request c).packet.encode) (hconn : s.bConnected = true)
    (hconn' : s'.bConnected = true) : Put s s' c 0
  | cut (o : Nat) (hwire : s'.wire = s.wire ++ (s.request c).packet.encode.take o)
    (hlt : o < (s.request c).packet.size) (hzero : s.bConnected = false → o = 0) (hconn' : s'.bConnected = false) :
    Put s s' c (-6)

/-- The fields that a call changes only in `Send`. -/
structure SameConn (s s' : CXTcpClient) : Prop where
  wire : s'.wire = s.wire
  created : s'.bCreated = s.bCreated
  connected : s'.bConnected = s.bConnected
  closing : s'.bClosing = s.bClosing
  real : s'.pbyRealSendBuffer = s.pbyRealSendBuffer

theorem putBody_sameConn (c : SendCall) (p : Nat) (there : Bool) (s : CXTcpClient) :
    SameConn s (s.putBody c p there) := by
  unfold putBody
  dsimp only
  split <;> exact ⟨rfl, rfl, rfl, rfl, rfl⟩

/-- From the checksum on: so many bytes of the buffer are on the wire. -/
theorem sendBuilt_wire {p o k : Nat} (hk : 0 < k) (h : s.sendBuilt c p k o = some (s', iRet)) :
    ∃ n, s'.wire = s.wire ++ ((s.putHeader p (k - headerLen) o).mem.bytes s.pbyRealSendBuffer k).take n ∧
      (0 < n → s.Sends s.pbyRealSendBuffer) ∧
      ((iRet = 0 ∧ n = k ∧ s'.bConnected = s.bConnected) ∨ (iRet = -6 ∧ n < k ∧ s'.bConnected = false)) := by
  unfold sendBuilt at h
  cases hs : (s.putHeader p (k - headerLen) o).send c.sendBytes s.pbyRealSendBuffer k with
  | none =>
    rw [hs] at h
    cases h
  | some q =>
    obtain ⟨s₁, r⟩ := q
    rw [hs] at h
    obtain ⟨hconn, n, hwire, hsends, hret⟩ := send_cases hk hs
    have heq := Option.some.inj h
    by_cases hr : r ≠ k
    · rw [if_pos hr] at heq
      cases heq
      exact ⟨n, hwire, hsends, Or.inr ⟨rfl, (hret.resolve_left fun h => hr h.1).2, rfl⟩⟩
    · rw [if_neg hr] at heq
      cases heq
      exact ⟨n, hwire, hsends, Or.inl ⟨rfl, (hret.resolve_right fun h => hr h.1).2, hconn⟩⟩

theorem sendBuilt_all {p o k : Nat} (hk : 0 < k) (h : s.Sends s.pbyRealSendBuffer) :
    ∃ s', s.sendBuilt { c with sendBytes := [.sent k] } p k o = some (s', 0) ∧
      s'.wire = s.wire ++ ((s.putHeader p (k - headerLen) o).mem.bytes s.pbyRealSendBuffer k).take k := by
  have hsend : (s.putHeader p (k - headerLen) o).Sends s.pbyRealSendBuffer := h
  unfold sendBuilt
  dsimp only
  rw [show (s.putHeader p (k - headerLen) o).send [.sent k] s.pbyRealSendBuffer k = _ from hsend.all hk]
  dsimp only
  rw [if_neg (not_not_intro rfl)]
  exact ⟨_, rfl, rfl⟩

theorem length_sentBody (hg : s.byRPCObjectGuid.length = 16) (hr : c.newGuid.length = 16) :
    (s.request c).packet.encode.length = c.dwLen + packetDataLen := by
  have hfixed := length_fixedOf (s := s) (c := c) hg hr
  rw [PlainPacket.length_encode]
  show headerLen + (fixedOf s c ++ s.mem.bytes c.pbData c.dwLen).length = _
  rw [List.length_append, hfixed, Memory.length_bytes]
  unfold headerLen bodyDataLen packetDataLen
  omega

theorem Inv.sendPacket_put (h : Inv s) (hc : CallOk s c) (hno : ¬ Replaces s c) (hplace : InPlace s c)
    (hs : s.sendPacket c = some (s', iRet)) : Put s s' c iRet := by
  have hreq : Inv (s.withRequest c) := h.filled (withRequest_filled s c)
  have hlen := length_sentBody h.guid hc.newGuid
  have hpos : 0 < c.dwLen + packetDataLen := Nat.add_pos_right _ (by decide)
  rcases sendPacket_cases h.plain hs with ⟨-, rfl, rfl⟩ | ⟨hnull, hle, hcase⟩
  · exact .refused (by decide) rfl rfl
  rcases hcase with ⟨hin, hset, rfl⟩ | ⟨s₁, hset, -⟩
  · obtain ⟨-, hres, -⟩ := setSendBufferSize_spec hreq hle hc.buffers hset
    exact .refused (by decide) (by rw [hres]; rfl) (by rw [hres]; rfl)
  -- the buffers are those the call began with
  have hs₁ : s₁ = s.withRequest c := by
    rcases hset with ⟨-, heq⟩ | ⟨hin, hset⟩
    · exact heq
    · obtain ⟨-, -, -, hres⟩ := setSendBufferSize_spec hreq hle hc.buffers hset
      rcases hres with ⟨-, heq, -⟩ | ⟨hf, -⟩ | ⟨-, hgrown⟩
      · exact heq
      · cases hf
      · exact absurd ⟨hnull, hle, hin, hgrown.small, hgrown.given⟩ hno
  have hplain₁ : s₁.encryptType = 0 ∧ s₁.compressType = 0 := by
    rw [hs₁]
    exact h.plain
  have hanswers := sendPacket_answers hplain₁ h.plain hnull hle hset
  have hsame := (putBody_sameConn c (s₁.pbyRealSendBuffer + headerLen)
    (inBuffer c.pbData s₁.pbyRealSendBuffer s₁.dwRealSendBufferLen) s₁)
  generalize s₁.putBody c (s₁.pbyRealSendBuffer + headerLen)
    (inBuffer c.pbData s₁.pbyRealSendBuffer s₁.dwRealSendBufferLen) = t at hanswers hsame
  have hwire : t.wire = s.wire := hsame.wire.trans (by rw [hs₁]; rfl)
  have hconn : t.bConnected = s.bConnected := hsame.connected.trans (by rw [hs₁]; rfl)
  obtain ⟨n, hput, hsends, hret⟩ := sendBuilt_wire hpos ((hanswers c.sendBytes).symm.trans hs)
  have hzero : s.bConnected = false → n = 0 := by
    intro hd
    by_contra hne
    have := (hsends (Nat.pos_of_ne_zero hne)).2.1
    rw [hconn, hd] at this
    cases this
  -- the buffer holds the packet, as a call shows whose socket takes everything
  have hbuf : 0 < n → t.wire ++ ((t.putHeader (s.pbyRealSendBuffer + headerLen) (c.dwLen + packetDataLen - headerLen)
      (c.dwLen + bodyDataLen)).mem.bytes t.pbyRealSendBuffer (c.dwLen + packetDataLen)).take
        (c.dwLen + packetDataLen) = s.wire ++ (s.request c).packet.encode := by
    intro hn
    obtain ⟨u, hu, huw⟩ := sendBuilt_all (c := c) (p := s.pbyRealSendBuffer + headerLen) (o := c.dwLen + bodyDataLen)
      hpos (hsends hn)
    rw [← huw]
    have hc' : CallOk s { c with sendBytes := [.sent (c.dwLen + packetDataLen)] } :=
      ⟨hc.payload, hc.newGuid, hc.buffers⟩
    obtain ⟨-, -, hkept⟩ := sendPacket_spec h hc' ((hanswers [.sent (c.dwLen + packetDataLen)]).trans hu)
    rw [((hkept hno).2 rfl).2, show (s.request c).packet = plainPacket (fixedOf s c ++ s.mem.bytes c.pbData c.dwLen)
      from rfl, ← sentPayload_eq_iff.mpr hplace]
    rfl
  generalize (t.putHeader (s.pbyRealSendBuffer + headerLen) (c.dwLen + packetDataLen - headerLen)
    (c.dwLen + bodyDataLen)).mem.bytes t.pbyRealSendBuffer (c.dwLen + packetDataLen) = B at hput hbuf
  rw [hwire] at hput hbuf
  rcases hret with ⟨rfl, rfl, hconn'⟩ | ⟨rfl, hlt, hconn'⟩
  · have hc' : s.bConnected = true := by
      by_contra hd
      exact absurd (hzero (Bool.eq_false_of_not_eq_true hd)) hpos.ne'
    exact .sent (hput.trans (hbuf hpos)) hc' (hconn'.trans (hconn.trans hc'))
  · refine .cut n ?_ (by rw [← PlainPacket.length_encode, hlen]; exact hlt) hzero hconn'
    rw [hput]
    rcases Nat.eq_zero_or_pos n with rfl | hn
    · rw [List.take_zero, List.take_zero]
    · have hB := List.append_cancel_left (hbuf hn)
      rw [← hB, List.take_take, min_eq_left hlt.le]

/-! ### All calls on a connection -/

variable {l : List (CXPacketBodyData × Int)} {tail : List UInt8} {rest : List CXPacketBodyData}

/-- The stream of the calls `l`: behind the packets of the calls that have succeeded there is at most a part of the
first one that has failed, and then the connection is closed. -/
structure Streamed (s₀ s : CXTcpClient) (l : List (CXPacketBodyData × Int)) (tail : List UInt8)
    (rest : List CXPacketBodyData) : Prop where
  wire : s.wire = s₀.wire ++ (((succeeded l).map CXPacketBodyData.packet).flatMap PlainPacket.encode ++ tail)
  attempted : attempted l = succeeded l ++ rest
  partly : tail <+: (rest.map CXPacketBodyData.packet).flatMap PlainPacket.encode
  short : ∀ p ∈ (rest.map CXPacketBodyData.packet).head?, tail.length < p.size
  connected : s.bConnected = true → rest = []
  decodes : ∀ b ∈ CXTcpClient.attempted l, CXPacketBodyData.ofBytes b.packet.body = b

theorem Streamed.tail_nil (h : Streamed s₀ s l tail rest) (hrest : rest = []) : tail = [] := by
  have hpartly := h.partly
  rw [hrest] at hpartly
  exact List.prefix_nil.mp hpartly

theorem Streamed.send (h : Streamed s₀ s l tail rest) (hinv : Inv s) (hc : CallOk s c) (hno : ¬ Replaces s c)
    (hplace : InPlace s c)
    (hs : s.sendPacket c = some (s', iRet)) :
    ∃ tail' rest', Streamed s₀ s' (l ++ [(s.request c, iRet)]) tail' rest' := by
  have hdecode : CXPacketBodyData.ofBytes (s.request c).packet.body = s.request c :=
    ofBytes_fixedOf hinv.guid hc.newGuid _
  have hdecodes : ∀ b ∈ CXTcpClient.attempted l ++ [s.request c], CXPacketBodyData.ofBytes b.packet.body = b := by
    intro b hb
    rcases List.mem_append.mp hb with hb | hb
    · exact h.decodes b hb
    · rw [List.mem_singleton.mp hb, hdecode]
  cases hinv.sendPacket_put hc hno hplace hs with
  | refused hret hwire hconn =>
    have hsucc : succeeded (l ++ [(s.request c, iRet)]) = succeeded l := by simp [succeeded, hret.1]
    have hatt : CXTcpClient.attempted (l ++ [(s.request c, iRet)]) = CXTcpClient.attempted l := by
      simp [CXTcpClient.attempted, hret.1, hret.2]
    refine ⟨tail, rest, ?_, ?_, h.partly, h.short, fun hd => h.connected (hconn ▸ hd), ?_⟩
    · rw [hwire, h.wire, hsucc]
    · rw [hatt, hsucc, h.attempted]
    · rw [hatt]
      exact h.decodes
  | sent hwire hconn hconn' =>
    have hsucc : succeeded (l ++ [(s.request c, 0)]) = succeeded l ++ [s.request c] := by simp [succeeded]
    have hatt : CXTcpClient.attempted (l ++ [(s.request c, 0)]) = CXTcpClient.attempted l ++ [s.request c] := by
      simp [CXTcpClient.attempted]
    have hrest := h.connected hconn
    refine ⟨[], [], ?_, ?_, List.nil_prefix, nofun, fun _ => rfl, hatt ▸ hdecodes⟩
    · rw [hwire, h.wire, h.tail_nil hrest, hsucc, List.map_append, List.flatMap_append]
      simp
    · rw [hatt, hsucc, h.attempted, hrest]
      simp
  | cut o hwire hlt hzero hconn' =>
    have hsucc : succeeded (l ++ [(s.request c, -6)]) = succeeded l := by simp [succeeded]
    have hatt : CXTcpClient.attempted (l ++ [(s.request c, -6)]) = CXTcpClient.attempted l ++ [s.request c] := by
      simp [CXTcpClient.attempted]
    refine ⟨tail ++ (s.request c).packet.encode.take o, rest ++ [s.request c], ?_, ?_, ?_, ?_,
      fun hd => absurd (hconn'.symm.trans hd) nofun, hatt ▸ hdecodes⟩
    · rw [hwire, h.wire, hsucc]
      simp only [List.append_assoc]
    · rw [hatt, hsucc, h.attempted, List.append_assoc]
    · rw [List.map_append, List.flatMap_append]
      cases hrest : rest with
      | nil =>
        rw [h.tail_nil hrest]
        simpa using List.take_prefix o _
      | cons b bs =>
        -- nothing is sent on a closed connection
        have hd : s.bConnected = false := by
          by_contra hd
          have := h.connected (Bool.eq_true_of_not_eq_false hd)
          rw [hrest] at this
          cases this
        rw [hzero hd, List.take_zero, List.append_nil, ← hrest]
        exact h.partly.trans (List.prefix_append _ _)
    · intro p hp
      cases hrest : rest with
      | nil =>
        rw [hrest] at hp
        cases Option.some.inj hp
        rw [h.tail_nil hrest, List.nil_append, List.length_take]
        exact lt_of_le_of_lt (min_le_left _ _) hlt
      | cons b bs =>
        have hd : s.bConnected = false := by
          by_contra hd
          have := h.connected (Bool.eq_true_of_not_eq_false hd)
          rw [hrest] at this
          cases this
        rw [hzero hd, List.take_zero, List.append_nil]
        refine h.short p ?_
        rw [hrest] at hp ⊢
        exact hp

theorem Calls.reached (h₀ : Reached s₀) (h : Calls s₀ s l) : Reached s := by
  induction h with
  | nil => exact h₀
  | caller m _ hm ih => exact .caller m ih hm
  | setRPCObjectGuid pbyGuid _ hg ih => exact .setRPCObjectGuid pbyGuid ih hg
  | send c _ hc _ _ hs ih => exact .send c ih hc hs

theorem Calls.streamed (h₀ : Reached s₀) (h : Calls s₀ s l) : ∃ tail rest, Streamed s₀ s l tail rest := by
  induction h with
  | nil => exact ⟨[], [], by simp [succeeded], rfl, List.nil_prefix, nofun, fun _ => rfl, nofun⟩
  | caller m _ hm ih =>
    obtain ⟨tail, rest, hi⟩ := ih
    exact ⟨tail, rest, hi.wire, hi.attempted, hi.partly, hi.short, hi.connected, hi.decodes⟩
  | setRPCObjectGuid pbyGuid _ hg ih =>
    obtain ⟨tail, rest, hi⟩ := ih
    exact ⟨tail, rest, hi.wire, hi.attempted, hi.partly, hi.short, hi.connected, hi.decodes⟩
  | send c h hc hno hplace hs ih =>
    obtain ⟨tail, rest, hi⟩ := ih
    exact hi.send (h.reached h₀).inv hc hno hplace hs

end CXTcpClient

/-! ### The server -/

theorem completeIn_mono : ∀ {ps : List PlainPacket} {m n : Nat}, m ≤ n → completeIn ps m <+: completeIn ps n
  | [], _, _, _ => List.prefix_rfl
  | p :: ps, m, n, h => by
    unfold completeIn
    split_ifs with hm hn
    · exact (List.prefix_cons_inj p).mpr (completeIn_mono (by omega))
    · omega
    · exact List.nil_prefix
    · exact List.prefix_rfl

namespace RequestRun

/-- The requests that the handlers were called with. -/
def requests (r : RequestRun) : List CXPacketBodyData := r.handled.map fun c => CXPacketBodyData.ofBytes c.2.2

theorem bodies_messagesOf (ps : List PlainPacket) : ((messagesOf ps).map fun c => CXPacketBodyData.ofBytes c.2.2) =
    ps.map fun p => CXPacketBodyData.ofBytes p.body := by
  refine List.ext_getElem? fun i => ?_
  rw [List.getElem?_map, getElem?_messagesOf, List.getElem?_map, Option.map_map]
  rfl

open CXTcpClient in
/-- The packets that lie completely in the stream are those of the calls that have succeeded. -/
theorem completeIn_streamed {s₀ s : CXTcpClient} {l : List (CXPacketBodyData × Int)} {tail : List UInt8}
    {rest : List CXPacketBodyData} (h : Streamed s₀ s l tail rest) {sent : List UInt8}
    (hwire : s.wire = s₀.wire ++ sent) :
    (completeIn ((attempted l).map CXPacketBodyData.packet) sent.length).map
      (fun p => CXPacketBodyData.ofBytes p.body) = succeeded l := by
  have hsent := List.append_cancel_left (hwire.symm.trans h.wire)
  have hps : (attempted l).map CXPacketBodyData.packet =
      (succeeded l).map CXPacketBodyData.packet ++ rest.map CXPacketBodyData.packet := by
    rw [h.attempted, List.map_append]
  have hlen : sent.length = (((succeeded l).map CXPacketBodyData.packet).map PlainPacket.size).sum + tail.length := by
    rw [hsent, List.length_append, List.length_flatMap]
    simp only [PlainPacket.length_encode]
  rw [completeIn_append hps hlen h.short, List.map_map]
  refine (List.map_congr_left fun b hb => h.decodes b ?_).trans (List.map_id _)
  rw [h.attempted]
  exact List.mem_append_left _ hb

/-- Whatever the pieces in which the stream is sent and received and whatever the order of the server's threads: the
handlers get the requests of the first calls that have succeeded, in their order and each once, and at rest, with
the whole stream received, those of all of them. -/
theorem requests_handled {env : RecvEnv} {bAsync : Nat → Bool} {f g a : Bool}
    {r : RequestRun × NodeQueue CXMessageData} {s₀ s : CXTcpClient} {l : List (CXPacketBodyData × Int)}
    {sent : List UInt8} (h₀ : CXTcpClient.Reached s₀) (hcalls : CXTcpClient.Calls s₀ s l)
    (hwire : s.wire = s₀.wire ++ sent) (hserve : ∀ b ∈ CXTcpClient.attempted l, env.Serves b.packet)
    (h : Reachable (guarded ((overQueue env bAsync).StepOk
      fun r a => r.allows ((CXTcpClient.attempted l).map CXPacketBodyData.packet) a = true)
      (overQueue env bAsync).nodeStep) (start f g a, .construct) r)
    (hbufs : r.1.bufs.flatten <+: sent) :
    r.1.requests <+: CXTcpClient.succeeded l ∧
      ((nodeConn r).AtRest → r.1.bufs.flatten = sent → r.1.requests = CXTcpClient.succeeded l) := by
  obtain ⟨tail, rest, hs⟩ := hcalls.streamed h₀
  obtain ⟨t, href, ht⟩ := exists_of_queueOk h
  obtain ⟨ms, R, hi⟩ := inv_of_reachable (List.forall_mem_map.mpr hserve) ht
  have heq : r.1 = t.putQueue [] := href.rest
  rw [heq] at hbufs ⊢
  rw [atRest_iff heq href.size, ← completeIn_streamed hs hwire, ← bodies_messagesOf, requests]
  refine ⟨?_, fun hrest hall => ?_⟩
  · exact (hi.handled_prefix.trans ( messagesOf_prefix (completeIn_mono hbufs.length_le))).map _
  · show t.handled.map _ = _
    rw [hi.handled_of_rest hrest, ← hall]
    rfl

/-- The call of `sendFirst 3`. -/
def sentThree : CXPacketBodyData := ⟨List.replicate 16 0, List.replicate 16 7, 4001, 1, [0, 1, 2]⟩

/-- The packet comes in two pieces, and the second one gets to `RecvPacket` first. -/
def sentThreeRun : List ConnectionAct :=
  [.recvData (sentThree.packet.encode.take 20), .recvData (sentThree.packet.encode.drop 20), .thread 1, .thread 1] ++
    List.replicate 4 (.thread 0) ++ List.replicate 5 (.run 0)

theorem le_of_wideBuffer {size : Nat} {mem : List UInt8}
    (h : (if size ≤ cxMaxCacheSize then some (List.replicate 256 (0 : UInt8)) else none) = some mem) :
    size ≤ cxMaxCacheSize := by
  by_contra hlt
  rw [if_neg hlt] at h
  cases h

/-- A server whose buffers have 256 bytes. -/
def wideEnv : RecvEnv where
  getBuffer _ size := if size ≤ cxMaxCacheSize then some (List.replicate 256 0) else none
  getBuffer_le := le_of_wideBuffer
  getFreeTaskObject _ := true
  getFirstThreadCache _ _ := true
  parseData _ := ⟨false, 0, []⟩

theorem serves_sentThree : wideEnv.Serves sentThree.packet := by
  intro n
  have hlen : messageDataLen + sentThree.packet.body.length ≤ 256 := by decide
  have hmax : 256 ≤ cxMaxCacheSize := by decide
  generalize messageDataLen + sentThree.packet.body.length = size at hlen ⊢
  exact ⟨List.replicate 256 0, if_pos (hlen.trans hmax), by rwa [List.length_replicate]⟩

theorem requests_handled_three : ∃ s r, CXTcpClient.Calls .connectedClient s [(sentThree, 0)] ∧
    Reachable (guarded ((overQueue wideEnv fun _ => false).StepOk fun r a => r.allows [sentThree.packet] a = true)
      (overQueue wideEnv fun _ => false).nodeStep) (start false false false, .construct) r ∧
    (nodeConn r).AtRest ∧ r.1.requests = [sentThree] := by
  have hcall : (CXTcpClient.connectedClient.sendPacket (CXTcpClient.sendFirst 3)).any
      (fun q => decide (q.2 = 0 ∧ q.1.wire = sentThree.packet.encode)) = true := by
    decide +kernel
  obtain ⟨⟨s, iRet⟩, hs, hq⟩ := (Option.any_eq_true _ _).mp hcall
  obtain ⟨rfl, hwire⟩ := of_decide_eq_true hq
  have hcalls : CXTcpClient.Calls .connectedClient s [(sentThree, 0)] := by
    have h := CXTcpClient.Calls.send (CXTcpClient.sendFirst 3) .nil (CXTcpClient.sendFirst_ok (by decide))
      (fun h => absurd h.2.2.2.1 (by decide)) (Or.inl (by decide)) hs
    rwa [show CXTcpClient.connectedClient.request (CXTcpClient.sendFirst 3) = sentThree by decide] at h
  obtain ⟨t, hrun⟩ : ∃ t, runSteps (guarded
      (fun r a => r.allows [sentThree.packet] a = true ∧ (overQueue wideEnv fun _ => false).Short r a)
      (overQueue wideEnv fun _ => false).step) (start false false false) sentThreeRun = some t := ⟨_, rfl⟩
  obtain ⟨r, hr, hsize, hreach⟩ := exists_of_short (Reachable.of_runSteps hrun)
  have hlog : t.conn.dispatch.log = [.entered 1, .completed 1] := by
    cases hrun
    rfl
  have hrest : (nodeConn r).AtRest := by
    refine (atRest_iff hr hsize).mpr ⟨?_, ?_, ?_, fun w => ?_, fun k hk => by simpa [hlog] using hk⟩
    · cases hrun
      rfl
    · cases hrun
      rfl
    · cases hrun
      rfl
    · cases hrun
      match w with
      | 0 => rfl
      | _ + 1 => rfl
  have hbufs : r.1.bufs.flatten = sentThree.packet.encode := by
    rw [hr]
    cases hrun
    rfl
  have h := requests_handled CXTcpClient.connectedClient_reached hcalls hwire
    (fun b hb => by rw [List.mem_singleton.mp hb]; exact serves_sentThree) hreach (hbufs ▸ List.prefix_rfl)
  exact ⟨s, r, hcalls, hreach, hrest, h.2 hrest hbufs⟩

end RequestRun

end KonsanNet
