import KonsanNet.TcpClient
import KonsanNet.RecvInv

/-!
# What the client sends is what the server delivers

`SendPacket` computes the address of the body before `SetSendBufferSize` may replace the buffer it points
into, and sums the bytes found there afterwards. `roundTrip_iff`: in every state a sequence of calls can
reach, the next packet goes over in one piece exactly when no buffer is replaced by this call (and the
copy of the payload is not left out for a pointer right behind the buffer).
-/

namespace KonsanNet

namespace Memory

variable {κ : Type} {m : Memory κ} {a n : Nat}

theorem touch_fields (m : Memory κ) (a n : Nat) : (m.touch a n).live = m.live ∧ (m.touch a n).byte = m.byte ∧
    m.dead ≤ (m.touch a n).dead := by
  unfold touch
  by_cases h : m.Live a n
  · simp [h]
  · simp [h]

theorem dead_le_store (m : Memory κ) (a : Nat) (bs : List UInt8) : m.dead ≤ (m.store a bs).dead :=
  (touch_fields m a bs.length).2.2

theorem dead_lt_touch (h : ¬ m.Live a n) : m.dead < (m.touch a n).dead := by
  unfold touch
  rw [if_neg h]
  exact Nat.lt_succ_self _

end Memory

open Memory

namespace CXTcpClient

variable {s s' : CXTcpClient} {c : SendCall}

/-! ### The buffers -/

/-- The three buffers are allocated, in one way. -/
structure HasBuffers (s : CXTcpClient) (kind : BufKind) : Prop where
  own : kind ≠ .caller
  data : ⟨s.pbySendBuffer, s.dwSendBufferLen, kind⟩ ∈ s.mem.live
  real : ⟨s.pbyRealSendBuffer, s.dwRealSendBufferLen, kind⟩ ∈ s.mem.live
  cache : ⟨s.pbyCacheSendBuffer, s.dwCacheSendBufferLen, kind⟩ ∈ s.mem.live
  realLen : s.dwRealSendBufferLen = 2 * s.dwSendBufferLen
  len : packetDataLen ≤ s.dwSendBufferLen

/-- No buffer was allocated yet. -/
structure NoBuffers (s : CXTcpClient) : Prop where
  data : s.pbySendBuffer = 0 ∧ s.dwSendBufferLen = 0
  real : s.pbyRealSendBuffer = 0 ∧ s.dwRealSendBufferLen = 0
  cache : s.pbyCacheSendBuffer = 0

/-- Regions do not overlap, and none lies in the first page. -/
structure MemOk (m : Memory BufKind) : Prop where
  separate : m.Separate
  low : ∀ r ∈ m.live, 4096 ≤ r.base

structure Inv (s : CXTcpClient) : Prop where
  mem : MemOk s.mem
  plain : s.encryptType = 0 ∧ s.compressType = 0
  guid : s.byRPCObjectGuid.length = 16
  buffers : NoBuffers s ∨ ∃ kind, HasBuffers s kind

namespace MemOk

variable {m m' : Memory BufKind}

theorem of_live (h : MemOk m) (hl : m'.live = m.live) : MemOk m' :=
  ⟨⟨by rw [hl]; exact h.separate.disjoint, by rw [hl]; exact h.separate.pos⟩, by rw [hl]; exact h.low⟩

theorem alloc (h : MemOk m) {r : Region BufKind} (hr : m.Fresh r) (hpos : 0 < r.len) (hlow : 4096 ≤ r.base) :
    MemOk (m.alloc r) := by
  refine ⟨h.separate.alloc hr hpos, fun r' hr' => ?_⟩
  rcases List.mem_append.mp hr' with hr' | hr'
  · exact h.low r' hr'
  · rw [List.mem_singleton.mp hr']
    exact hlow

theorem not_live (h : MemOk m) {a n : Nat} (ha : a < 4096) : ¬ m.Live a n := by
  rintro ⟨r, hr, hle, -⟩
  have := h.low r hr
  omega

end MemOk

/-- What `SetSendBufferSize` leaves alone. -/
def Resized (s s' : CXTcpClient) : Prop :=
  s' = { s with
    mem := s'.mem
    pbySendBuffer := s'.pbySendBuffer
    dwSendBufferLen := s'.dwSendBufferLen
    pbyRealSendBuffer := s'.pbyRealSendBuffer
    dwRealSendBufferLen := s'.dwRealSendBufferLen
    pbyCacheSendBuffer := s'.pbyCacheSendBuffer
    dwCacheSendBufferLen := s'.dwCacheSendBufferLen }

/-- The buffers and what they depend on are left alone; the memory stays allocated. -/
def Filled (s s' : CXTcpClient) : Prop :=
  s'.mem.live = s.mem.live ∧ s.mem.dead ≤ s'.mem.dead ∧
    s' = { s with
      mem := s'.mem
      iPacketNumber := s'.iPacketNumber
      byRequestID := s'.byRequestID
      bUsedMemoryCachePool := s'.bUsedMemoryCachePool
      bCreated := s'.bCreated
      bConnected := s'.bConnected
      bClosing := s'.bClosing
      wire := s'.wire }

theorem Filled.refl (s : CXTcpClient) : Filled s s := ⟨rfl, le_refl _, rfl⟩

theorem Filled.trans {s'' : CXTcpClient} (h : Filled s s') (h' : Filled s' s'') : Filled s s'' := by
  obtain ⟨hl, hd, he⟩ := h
  obtain ⟨hl', hd', he'⟩ := h'
  refine ⟨hl'.trans hl, le_trans hd hd', ?_⟩
  rw [he', he]

theorem Inv.filled (hs : Inv s) (h : Filled s s') : Inv s' := by
  obtain ⟨hl, -, he⟩ := h
  refine ⟨hs.mem.of_live hl, by rw [he]; exact hs.plain, by rw [he]; exact hs.guid, ?_⟩
  rcases hs.buffers with hb | ⟨kind, hb⟩
  · left
    rw [he]
    exact ⟨hb.data, hb.real, hb.cache⟩
  · right
    refine ⟨kind, hb.own, ?_, ?_, ?_, by rw [he]; exact hb.realLen, by rw [he]; exact hb.len⟩
    · rw [hl, he]
      exact hb.data
    · rw [hl, he]
      exact hb.real
    · rw [hl, he]
      exact hb.cache

theorem Inv.of_kept (h : Inv s) {m : Memory BufKind} (hm : MemOk m)
    (hkept : ∀ r ∈ s.mem.live, r.kind ≠ .caller → r ∈ m.live) : Inv { s with mem := m } := by
  refine ⟨hm, h.plain, h.guid, ?_⟩
  rcases h.buffers with hb | ⟨kind, hb⟩
  · exact Or.inl ⟨hb.data, hb.real, hb.cache⟩
  · exact Or.inr ⟨kind, hb.own, hkept _ hb.data hb.own, hkept _ hb.real hb.own, hkept _ hb.cache hb.own,
      hb.realLen, hb.len⟩

/-! ### `SetSendBufferSize` -/

/-- `delete[]` of a buffer: nothing of it can be accessed any more, and nothing else is released. -/
theorem deleteArray_spec {junk : Nat → UInt8} {p : Nat} {m m' : Memory BufKind} (hm : m.Separate)
    (h : deleteArray junk p m = some m') : m'.Separate ∧ m'.dead = m.dead ∧ m'.live ⊆ m.live ∧
      (∀ r ∈ m.live, r.base ≠ p → r ∈ m'.live) ∧
      ∀ r ∈ m.live, r.base = p → p ≠ 0 → ∀ a n, r.base ≤ a → a < r.base + r.len → 0 < n → ¬ m'.Live a n := by
  unfold deleteArray at h
  by_cases hp : p = 0
  · rw [if_pos hp] at h
    cases h
    exact ⟨hm, rfl, fun _ h => h, fun _ h _ => h, fun _ _ _ hne => absurd hp hne⟩
  · rw [if_neg hp] at h
    obtain ⟨r₀, hr₀, hbase, -, hlive, hdead, -⟩ := release_spec h
    refine ⟨hm.release h, hdead, ?_, fun r hr hne => ?_, fun r hr hb _ a n ha hlt hn => ?_⟩
    · rw [hlive]
      exact List.erase_subset
    · rw [hlive]
      refine (List.mem_erase_of_ne ?_).mpr hr
      rintro rfl
      exact hne hbase
    · -- the region found by its base is the buffer's
      have heq : r = r₀ := by
        have hpos := hm.pos r hr
        have hpos₀ := hm.pos r₀ hr₀
        exact hm.eq_of_mem (a := p) hr hr₀ ⟨by omega, by omega⟩ ⟨by omega, by omega⟩
      subst heq
      exact not_live_of_erase hm hr (by rw [hlive]; exact fun _ h => h) ha hlt hn

theorem Inv.ne_of_fresh (h : Inv s) {r : Region BufKind} (hr : s.mem.Fresh r) (hpos : 0 < r.len)
    (hlow : 4096 ≤ r.base) :
    r.base ≠ s.pbySendBuffer ∧ r.base ≠ s.pbyRealSendBuffer ∧ r.base ≠ s.pbyCacheSendBuffer := by
  have hne : ∀ r' ∈ s.mem.live, r.base ≠ r'.base := by
    intro r' hr' heq
    have hd := hr r' hr'
    have hpos' := h.mem.separate.pos r' hr'
    unfold Region.Disjoint at hd
    omega
  rcases h.buffers with hb | ⟨kind, hb⟩
  · rw [hb.data.1, hb.real.1, hb.cache]
    omega
  · exact ⟨hne _ hb.data, hne _ hb.real, hne _ hb.cache⟩

theorem HasBuffers.real_ne {kind : BufKind} (h : HasBuffers s kind) (hm : MemOk s.mem) :
    s.pbyRealSendBuffer ≠ s.pbySendBuffer := by
  intro heq
  have hlen := h.realLen
  have hpos : 0 < s.dwSendBufferLen := lt_of_lt_of_le (by decide) h.len
  have hr := hm.separate.eq_of_mem (a := s.pbySendBuffer) h.real h.data
    ⟨by show s.pbyRealSendBuffer ≤ _; omega, by show _ < s.pbyRealSendBuffer + s.dwRealSendBufferLen; omega⟩
    ⟨le_refl _, by show _ < s.pbySendBuffer + s.dwSendBufferLen; omega⟩
  have := congrArg Region.len hr
  change s.dwRealSendBufferLen = s.dwSendBufferLen at this
  omega

/-- What the allocator gave for the three buffers: nothing in use is lost, and all three are there or
one of the requests has failed. -/
structure Obtained (s : CXTcpClient) (a : BufferAnswers) (k : Nat) (s₁ : CXTcpClient)
    (o : Option (Nat × Nat × Nat)) : Prop where
  eq : s₁ = { s with mem := s₁.mem }
  dead : s₁.mem.dead = s.mem.dead
  kept : s.mem.live ⊆ s₁.mem.live
  mem : MemOk s₁.mem
  failed : o = none → ¬ (a.pData.isSome ∧ a.pDataReal.isSome ∧ a.pCacheData.isSome)
  given : ∀ d r c, o = some (d, r, c) → a.pData = some d ∧ a.pDataReal = some r ∧ a.pCacheData = some c ∧
    ∃ kind, kind ≠ BufKind.caller ∧ ⟨d, k, kind⟩ ∈ s₁.mem.live ∧ ⟨r, k * 2, kind⟩ ∈ s₁.mem.live ∧
      ⟨c, k * 2, kind⟩ ∈ s₁.mem.live

theorem getBuffers_spec (hm : MemOk s.mem) {a : BufferAnswers} {k : Nat} (ha : AnswersOk s.mem a k)
    (hk : 0 < k) (hk2 : k * 2 < 2 ^ 32) {s₁ : CXTcpClient} {o : Option (Nat × Nat × Nat)}
    (h : s.getBuffers a k = (s₁, o)) : Obtained s a k s₁ o := by
  have hmod : k * 2 % 2 ^ 32 = k * 2 := Nat.mod_eq_of_lt hk2
  have h1 : ∀ kind d, a.pData = some d → MemOk (s.mem.alloc ⟨d, k, kind⟩) := fun kind d hd =>
    hm.alloc (ha.data d hd).2 hk (ha.data d hd).1
  have h2 : ∀ kind d r, a.pData = some d → a.pDataReal = some r →
      MemOk ((s.mem.alloc ⟨d, k, kind⟩).alloc ⟨r, k * 2, kind⟩) := fun kind d r hd hr => by
    obtain ⟨hlow, hfresh, hdis⟩ := ha.real r hr
    exact (h1 kind d hd).alloc (Fresh.alloc hfresh (hdis d hd)) (Nat.mul_pos hk (by decide)) hlow
  have h3 : ∀ kind d r c, a.pData = some d → a.pDataReal = some r → a.pCacheData = some c →
      MemOk (((s.mem.alloc ⟨d, k, kind⟩).alloc ⟨r, k * 2, kind⟩).alloc ⟨c, k * 2, kind⟩) :=
    fun kind d r c hd hr hc => by
      obtain ⟨hlow, hfresh, hdis, hdis'⟩ := ha.cache c hc
      exact (h2 kind d r hd hr).alloc (Fresh.alloc (Fresh.alloc hfresh (hdis d hd)) (hdis' r hr))
        (Nat.mul_pos hk (by decide)) hlow
  have hall : ∀ kind, kind ≠ BufKind.caller → ∀ d r c, a.pData = some d → a.pDataReal = some r →
      a.pCacheData = some c → Obtained s a k
        { s with mem := ((s.mem.alloc ⟨d, k, kind⟩).alloc ⟨r, k * 2, kind⟩).alloc ⟨c, k * 2, kind⟩ }
        (some (d, r, c)) := fun kind hkind d r c hd hr hc => by
    refine ⟨rfl, rfl, ?_, h3 kind d r c hd hr hc, nofun, ?_⟩
    · exact fun _ h => List.mem_append_left _ (List.mem_append_left _ (List.mem_append_left _ h))
    · rintro d' r' c' ⟨⟩
      exact ⟨hd, hr, hc, kind, hkind, by simp [Memory.alloc], by simp [Memory.alloc],
        by simp [Memory.alloc]⟩
  unfold getBuffers at h
  simp only [hmod, allocate] at h
  by_cases hp : s.bUsedMemoryCachePool = true
  · rw [if_pos hp] at h
    cases hd : a.pData with
    | none =>
      rw [hd] at h
      cases h
      exact ⟨rfl, rfl, fun _ h => h, hm, fun _ hn => by simp [hd] at hn, nofun⟩
    | some d =>
      cases hr : a.pDataReal with
      | none =>
        rw [hd, hr] at h
        cases h
        exact ⟨rfl, rfl, fun _ h => h, hm, fun _ hn => by simp [hr] at hn, nofun⟩
      | some r =>
        cases hc : a.pCacheData with
        | none =>
          rw [hd, hr, hc] at h
          cases h
          exact ⟨rfl, rfl, fun _ h => h, hm, fun _ hn => by simp [hc] at hn, nofun⟩
        | some c =>
          rw [hd, hr, hc] at h
          cases h
          exact hall .pool (by decide) d r c hd hr hc
  · rw [if_neg hp] at h
    cases hd : a.pData with
    | none =>
      rw [hd] at h
      cases h
      exact ⟨rfl, rfl, fun _ h => h, hm, fun _ hn => by simp [hd] at hn, nofun⟩
    | some d =>
      cases hr : a.pDataReal with
      | none =>
        rw [hd, hr] at h
        cases h
        exact ⟨rfl, rfl, List.subset_append_left _ _, h1 _ d hd, fun _ hn => by simp [hr] at hn, nofun⟩
      | some r =>
        cases hc : a.pCacheData with
        | none =>
          rw [hd, hr, hc] at h
          cases h
          refine ⟨rfl, rfl, ?_, h2 _ d r hd hr, fun _ hn => by simp [hc] at hn, nofun⟩
          exact fun _ h => List.mem_append_left _ (List.mem_append_left _ h)
        | some c =>
          rw [hd, hr, hc] at h
          cases h
          exact hall .new (by decide) d r c hd hr hc

theorem replaceBuffers_spec (h : Inv s) {a : BufferAnswers} {k : Nat} (hk : packetDataLen ≤ k)
    (hk2 : k * 2 < 2 ^ 32) (ha : AnswersOk s.mem a k) {s₁ : CXTcpClient} {d r c : Nat}
    (hob : Obtained s a k s₁ (some (d, r, c))) (hs : s₁.replaceBuffers a.junk d r c k = some s') :
    Inv s' ∧ Resized s s' ∧ s'.mem.dead = s.mem.dead ∧
      ∀ n, 0 < n → ¬ s'.mem.Live (s.pbyRealSendBuffer + headerLen) n := by
  have hpos : 0 < k := lt_of_lt_of_le (by decide) hk
  obtain ⟨hd, hr, hc, kind, hkind, hd₁, hr₁, hc₁⟩ := hob.given d r c rfl
  unfold replaceBuffers at hs
  rw [hob.eq] at hs
  obtain ⟨m₁, hm₁, hs⟩ := Option.bind_eq_some_iff.mp hs
  obtain ⟨m₂, hm₂, hs⟩ := Option.bind_eq_some_iff.mp hs
  obtain ⟨m₃, hm₃, hs⟩ := Option.bind_eq_some_iff.mp hs
  cases hs
  obtain ⟨hsep₁, hdead₁, hsub₁, hkept₁, -⟩ := deleteArray_spec hob.mem.separate hm₁
  obtain ⟨hsep₂, hdead₂, hsub₂, hkept₂, hgone₂⟩ := deleteArray_spec hsep₁ hm₂
  obtain ⟨hsep₃, hdead₃, hsub₃, hkept₃, -⟩ := deleteArray_spec hsep₂ hm₃
  have hok : MemOk m₃ := ⟨hsep₃, fun r' hr' => hob.mem.low r' (hsub₁ (hsub₂ (hsub₃ hr')))⟩
  -- the new regions begin at none of the three pointers that are deleted
  have hnew : ∀ r', s.mem.Fresh r' → 0 < r'.len → 4096 ≤ r'.base → ∀ r'' ∈ s₁.mem.live, r''.base = r'.base →
      r'' ∈ m₃.live := by
    intro r' hfresh hpos' hlow r'' hr'' hbase
    obtain ⟨h1, h2, h3⟩ := h.ne_of_fresh hfresh hpos' hlow
    rw [← hbase] at h1 h2 h3
    exact hkept₃ _ (hkept₂ _ (hkept₁ _ hr'' h1) h2) h3
  have hk2pos : 0 < k * 2 := Nat.mul_pos hpos (by decide)
  refine ⟨⟨hok, h.plain, h.guid, Or.inr ⟨kind, hkind, ?_, ?_, ?_, ?_, hk⟩⟩, rfl,
    (hdead₃.trans (hdead₂.trans hdead₁)).trans hob.dead, fun n hn => ?_⟩
  · exact hnew _ (ha.data d hd).2 hpos (ha.data d hd).1 _ hd₁ rfl
  · show (⟨r, k * 2 % 2 ^ 32, kind⟩ : Region BufKind) ∈ m₃.live
    rw [Nat.mod_eq_of_lt hk2]
    exact hnew _ (ha.real r hr).2.1 hk2pos (ha.real r hr).1 _ hr₁ rfl
  · show (⟨c, k * 2 % 2 ^ 32, kind⟩ : Region BufKind) ∈ m₃.live
    rw [Nat.mod_eq_of_lt hk2]
    exact hnew _ (ha.cache c hc).2.1 hk2pos (ha.cache c hc).1 _ hc₁ rfl
  · show k * 2 % 2 ^ 32 = 2 * k
    rw [Nat.mod_eq_of_lt hk2, Nat.mul_comm]
  · rcases h.buffers with hb | ⟨kind', hb⟩
    · rw [hb.real.1]
      exact hok.not_live (by decide)
    · have hlen := hb.realLen
      have h56 := hb.len
      unfold packetDataLen at h56
      have hne := hb.real_ne h.mem
      have hlow := h.mem.low _ hb.real
      have hnull : s.pbyRealSendBuffer ≠ 0 := by
        change 4096 ≤ s.pbyRealSendBuffer at hlow
        omega
      have hin : s.pbyRealSendBuffer + headerLen < s.pbyRealSendBuffer + s.dwRealSendBufferLen := by
        unfold headerLen
        omega
      rintro ⟨r', hr', hle, hle'⟩
      exact hgone₂ _ (hkept₁ _ (hob.kept hb.real) hne) rfl hnull _ n (Nat.le_add_right _ _) hin hn ⟨r', hsub₃ hr', hle, hle'⟩

/-- A larger buffer in place of the old one, which is gone. -/
structure Grown (s s' : CXTcpClient) (a : BufferAnswers) (n : Nat) : Prop where
  small : s.dwSendBufferLen < n + packetDataLen
  given : a.pData.isSome ∧ a.pDataReal.isSome ∧ a.pCacheData.isSome
  gone : ∀ k, 0 < k → ¬ s'.mem.Live (s.pbyRealSendBuffer + headerLen) k

theorem setSendBufferSize_spec (h : Inv s) {a : BufferAnswers} {n : Nat} (hn : n ≤ 1024 * 1024 * 1024)
    (ha : AnswersOk s.mem a (n + packetDataLen)) {ok : Bool}
    (hs : s.setSendBufferSize a n = some (s', ok)) :
    Inv s' ∧ Resized s s' ∧ s'.mem.dead = s.mem.dead ∧
      ((ok = true ∧ s' = s ∧ n + packetDataLen ≤ s.dwSendBufferLen) ∨
        (ok = false ∧ ¬ (a.pData.isSome ∧ a.pDataReal.isSome ∧ a.pCacheData.isSome)) ∨
        (ok = true ∧ Grown s s' a n)) := by
  have hmod : (n + packetDataLen) % 2 ^ 32 = n + packetDataLen :=
    Nat.mod_eq_of_lt (by unfold packetDataLen; omega)
  have hpos : 0 < n + packetDataLen := Nat.add_pos_right _ (by decide)
  have hlt : (n + packetDataLen) * 2 < 2 ^ 32 := by
    unfold packetDataLen
    omega
  unfold setSendBufferSize at hs
  rw [hmod] at hs
  by_cases hfit : 0 < n + packetDataLen ∧ n + packetDataLen ≤ s.dwSendBufferLen
  · simp only [hfit, and_self, if_true] at hs
    cases hs
    exact ⟨h, rfl, rfl, Or.inl ⟨rfl, rfl, hfit.2⟩⟩
  · simp only [hfit, if_false] at hs
    have hsmall : s.dwSendBufferLen < n + packetDataLen := by
      by_contra hc
      exact hfit ⟨hpos, by omega⟩
    cases hget : s.getBuffers a (n + packetDataLen) with
    | mk s₁ o =>
      have hob := getBuffers_spec h.mem ha hpos hlt hget
      rw [hget] at hs
      cases o with
      | none =>
        cases hs
        refine ⟨?_, ?_, hob.dead, Or.inr (Or.inl ⟨rfl, hob.failed rfl⟩)⟩
        · rw [hob.eq]
          exact h.of_kept hob.mem fun r hr _ => hob.kept hr
        · unfold Resized
          rw [hob.eq]
      | some t =>
        obtain ⟨d, r, c⟩ := t
        obtain ⟨s₂, hs₂, hp⟩ := Option.map_eq_some_iff.mp hs
        cases hp
        obtain ⟨hinv, hsize, hdead, hgone⟩ := replaceBuffers_spec h (Nat.le_add_left _ _) hlt ha hob hs₂
        obtain ⟨hd, hr, hc, -⟩ := hob.given d r c rfl
        exact ⟨hinv, hsize, hdead, Or.inr (Or.inr ⟨rfl, hsmall, by simp [hd, hr, hc], hgone⟩)⟩

/-! ### `SendPacket` -/

theorem sendLoop_all {n : Nat} (hn : 0 < n) : ∀ {answers : List SendBytesAnswer} {off o : Nat} {r : Int},
    off ≤ n → sendLoop n answers off = some (o, r) → r = n → o = n
  | [], _, _, _, _, h, _ => nomatch h
  | .socketError :: _, _, _, _, _, h, hr => by
    cases h
    omega
  | .sent 0 :: _, _, _, _, _, h, hr => by
    cases h
    omega
  | .sent (k + 1) :: answers, off, o, r, hoff, h, hr => by
    unfold sendLoop at h
    by_cases hlt : off + min (k + 1) (n - off) < n
    · simp only [hlt, if_true] at h
      exact sendLoop_all hn hlt.le h hr
    · simp only [hlt, if_false] at h
      cases h
      omega

theorem filled_mem (m : Memory BufKind) (hl : m.live = s.mem.live) (hd : s.mem.dead ≤ m.dead) :
    Filled s { s with mem := m } :=
  ⟨hl, hd, rfl⟩

theorem putBody_filled (c : SendCall) (p : Nat) (there : Bool) (s : CXTcpClient) :
    Filled s (s.putBody c p there) := by
  unfold putBody
  dsimp only
  by_cases hc : (!there) = true ∧ 0 < c.dwLen
  · rw [if_pos hc]
    refine ⟨?_, ?_, rfl⟩
    · show (Memory.store (Memory.touch _ _ _) _ _).live = s.mem.live
      rw [store_live, (touch_fields _ _ _).1, store_live]
    · exact le_trans (dead_le_store _ _ _) (le_trans (touch_fields _ _ _).2.2 (dead_le_store _ _ _))
  · rw [if_neg hc]
    exact ⟨store_live _ _, dead_le_store _ _ _, rfl⟩

theorem send_filled {answers : List SendBytesAnswer} {a n : Nat} {r : Int}
    (h : s.send answers a n = some (s', r)) : Filled s s' := by
  unfold send at h
  by_cases h0 : a = 0 ∨ n = 0
  · rw [if_pos h0] at h
    cases h
    exact Filled.refl s
  rw [if_neg h0] at h
  by_cases hc : (!s.bConnected) = true ∨ (!s.bCreated) = true ∨ s.bClosing = true
  · rw [if_pos hc] at h
    cases h
    exact Filled.refl s
  rw [if_neg hc] at h
  obtain ⟨q, -, hq⟩ := Option.map_eq_some_iff.mp h
  cases hq
  exact ⟨(touch_fields _ _ _).1, (touch_fields _ _ _).2.2, rfl⟩

/-- `Send` of memory that may be read puts all of it on the wire when it says so. -/
theorem send_spec {answers : List SendBytesAnswer} {a n : Nat} {r : Int} (hlive : s.mem.Live a n)
    (h : s.send answers a n = some (s', r)) :
    s'.mem.dead = s.mem.dead ∧ (r = n → 0 < n → s'.wire = s.wire ++ s.mem.bytes a n) := by
  unfold send at h
  by_cases h0 : a = 0 ∨ n = 0
  · rw [if_pos h0] at h
    cases h
    exact ⟨rfl, fun hr hn => absurd hr (by omega)⟩
  rw [if_neg h0] at h
  by_cases hc : (!s.bConnected) = true ∨ (!s.bCreated) = true ∨ s.bClosing = true
  · rw [if_pos hc] at h
    cases h
    exact ⟨rfl, fun hr hn => absurd hr (by omega)⟩
  rw [if_neg hc] at h
  obtain ⟨⟨o, r'⟩, hloop, hq⟩ := Option.map_eq_some_iff.mp h
  cases hq
  constructor
  · show (s.mem.touch a n).dead = s.mem.dead
    rw [touch_live hlive]
  · intro hr hn
    show s.wire ++ (s.mem.bytes a n).take o = _
    rw [sendLoop_all hn (Nat.zero_le n) hloop hr, List.take_of_length_le (by simp)]

theorem putHeader_filled (p k o : Nat) (s : CXTcpClient) : Filled s (s.putHeader p k o) :=
  filled_mem _ ((store_live _ _).trans (touch_fields _ _ _).1)
    (le_trans (touch_fields _ _ _).2.2 (dead_le_store _ _ _))

theorem sendBuilt_cases {p k o : Nat} {iRet : Int} (h : s.sendBuilt c p k o = some (s', iRet)) :
    ∃ s₁ r, (s.putHeader p (k - headerLen) o).send c.sendBytes s.pbyRealSendBuffer k = some (s₁, r) ∧
      s'.mem = s₁.mem ∧ s'.wire = s₁.wire ∧ Filled s s' ∧ (iRet = 0 → r = k) := by
  unfold sendBuilt at h
  cases hs : (s.putHeader p (k - headerLen) o).send c.sendBytes s.pbyRealSendBuffer k with
  | none =>
    rw [hs] at h
    cases h
  | some q =>
    obtain ⟨s₁, r⟩ := q
    rw [hs] at h
    have hf : Filled s s₁ := (putHeader_filled _ _ _ s).trans (send_filled hs)
    have heq := Option.some.inj h
    by_cases hr : r ≠ k
    · rw [if_pos hr] at heq
      cases heq
      exact ⟨s₁, r, rfl, rfl, rfl, hf.trans ⟨rfl, le_refl _, rfl⟩, nofun⟩
    · rw [if_neg hr] at heq
      cases heq
      exact ⟨_, r, rfl, rfl, rfl, hf, fun _ => not_not.mp hr⟩

/-- The packet with the body `body`, as a client without encryption or compression frames it. -/
def plainPacket (body : List UInt8) : PlainPacket := ⟨body, UInt32.ofNat body.length⟩

theorem encode_plainPacket {body : List UInt8} (h : body.length < 2 ^ 32) :
    (plainPacket body).encode =
      CXPacketHeader.toBytes ⟨cxPacketHeaderFlag, 0, 0, body.length, byteSum body, body.length⟩ ++ body := by
  unfold plainPacket PlainPacket.encode PlainPacket.header CXPacketHeader.toBytes
  rw [UInt32.toNat_ofNat_of_lt' h]

/-- The checksum is that of the bytes sent when the body is where the header is put in front of it. -/
theorem sendBuilt_spec {body : List UInt8} {iRet : Int} (hplain : s.encryptType = 0 ∧ s.compressType = 0)
    (hlive : s.mem.Live s.pbyRealSendBuffer (body.length + headerLen)) (hlen : body.length < 2 ^ 32)
    (hbody : s.mem.bytes (s.pbyRealSendBuffer + headerLen) body.length = body)
    (h : s.sendBuilt c (s.pbyRealSendBuffer + headerLen) (body.length + headerLen) body.length =
      some (s', iRet)) :
    s'.mem.dead = s.mem.dead ∧ (iRet = 0 → s'.wire = s.wire ++ (plainPacket body).encode) := by
  obtain ⟨s₁, r, hs, hmem, hwire, -, hret⟩ := sendBuilt_cases h
  have hlive' : s.mem.Live (s.pbyRealSendBuffer + headerLen) body.length := hlive.mono (by omega) (by omega)
  rw [Nat.add_sub_cancel] at hs
  have hheader : (s.putHeader (s.pbyRealSendBuffer + headerLen) body.length body.length).mem =
      s.mem.store s.pbyRealSendBuffer (CXPacketHeader.toBytes
        ⟨cxPacketHeaderFlag, 0, 0, body.length, byteSum body, body.length⟩) := by
    unfold putHeader load
    dsimp only
    rw [touch_live hlive', hbody, hplain.1, hplain.2]
  generalize hH : CXPacketHeader.toBytes ⟨cxPacketHeaderFlag, 0, 0, body.length, byteSum body, body.length⟩ = H
    at hheader
  have hHlen : H.length = headerLen := by
    rw [← hH]
    simp [CXPacketHeader.toBytes, headerLen]
  have hput : (s.putHeader (s.pbyRealSendBuffer + headerLen) body.length body.length).mem.Live
      s.pbyRealSendBuffer (body.length + headerLen) := by
    rw [hheader]
    exact live_store.mpr hlive
  obtain ⟨hdead, hw⟩ := send_spec hput hs
  constructor
  · rw [hmem, hdead, hheader]
    exact store_dead (hlive.mono (le_refl _) (by omega))
  · intro hr
    have hw' := hw (hret hr) (by unfold headerLen; omega)
    have hfirst : (s.mem.store s.pbyRealSendBuffer H).bytes s.pbyRealSendBuffer headerLen = H := by
      rw [← hHlen]
      exact bytes_store _ _ _
    have hrest : (s.mem.store s.pbyRealSendBuffer H).bytes (s.pbyRealSendBuffer + headerLen) body.length =
        body :=
      (bytes_store_of_disjoint (Or.inr (by omega))).trans hbody
    rw [hheader, Nat.add_comm body.length, bytes_add, hfirst, hrest] at hw'
    rw [hwire, hw', encode_plainPacket hlen, hH]
    rfl

/-- `SendPacket` of the client with its new request id. -/
def withRequest (s : CXTcpClient) (c : SendCall) : CXTcpClient := { s with byRequestID := c.newGuid }

theorem withRequest_filled (s : CXTcpClient) (c : SendCall) : Filled s (s.withRequest c) :=
  ⟨rfl, le_refl _, rfl⟩

/-- The fields before the payload. -/
def fixedOf (s : CXTcpClient) (c : SendCall) : List UInt8 :=
  CXPacketBodyData.fixedBytes
    ⟨s.byRPCObjectGuid, c.newGuid, c.dwMesCode.toNat, (s.iPacketNumber + 1).toNat, []⟩

/-- The bytes that are sent as the payload: copied there, or left there. -/
def sentPayload (s : CXTcpClient) (c : SendCall) : List UInt8 :=
  if !inBuffer c.pbData s.pbyRealSendBuffer s.dwRealSendBufferLen ∧ 0 < c.dwLen then
    s.mem.bytes c.pbData c.dwLen
  else s.mem.bytes (s.pbyRealSendBuffer + packetDataLen) c.dwLen

theorem sentPayload_eq_iff : sentPayload s c = s.mem.bytes c.pbData c.dwLen ↔ InPlace s c := by
  unfold sentPayload InPlace
  by_cases hc : (!inBuffer c.pbData s.pbyRealSendBuffer s.dwRealSendBufferLen) = true ∧ 0 < c.dwLen
  · rw [if_pos hc]
    exact ⟨fun _ => Or.inl (by simpa using hc.1), fun _ => rfl⟩
  · rw [if_neg hc]
    constructor
    · exact Or.inr
    · rintro (hin | heq)
      · have h0 : c.dwLen = 0 := by
          by_contra hne
          exact hc ⟨by simp [hin], Nat.pos_of_ne_zero hne⟩
        rw [h0]
        rfl
      · exact heq

theorem length_fixedOf (hg : s.byRPCObjectGuid.length = 16) (hr : c.newGuid.length = 16) :
    (fixedOf s c).length = bodyDataLen := by
  simp [fixedOf, CXPacketBodyData.fixedBytes, hg, hr, bodyDataLen]

/-- The region a readable byte outside the real send buffer lies in does not meet that buffer. -/
theorem HasBuffers.disjoint {kind : BufKind} (h : HasBuffers s kind) (hm : MemOk s.mem) {p n : Nat}
    (hlive : s.mem.Live p n) (hn : 0 < n) (hout : inBuffer p s.pbyRealSendBuffer s.dwRealSendBufferLen = false) :
    p + n ≤ s.pbyRealSendBuffer ∨ s.pbyRealSendBuffer + s.dwRealSendBufferLen ≤ p := by
  obtain ⟨r, hr, hle, hlt⟩ := hlive
  have hout' : ¬ (s.pbyRealSendBuffer ≤ p ∧ p ≤ s.pbyRealSendBuffer + s.dwRealSendBufferLen) := by
    intro hc
    simp [inBuffer, hc.1, hc.2] at hout
  have hd : r.Disjoint ⟨s.pbyRealSendBuffer, s.dwRealSendBufferLen, kind⟩ := by
    refine hm.separate.of_ne hr h.real ?_
    rintro rfl
    refine hout' ⟨hle, ?_⟩
    change p + n ≤ s.pbyRealSendBuffer + s.dwRealSendBufferLen at hlt
    omega
  unfold Region.Disjoint at hd
  dsimp only at hd
  omega

theorem putBody_spec {kind : BufKind} (hb : HasBuffers s kind) (hm : MemOk s.mem)
    (hg : s.byRPCObjectGuid.length = 16) (hc : CallOk s c)
    (hfit : c.dwLen + packetDataLen ≤ s.dwRealSendBufferLen) :
    ((s.withRequest c).putBody c (s.pbyRealSendBuffer + headerLen)
        (inBuffer c.pbData s.pbyRealSendBuffer s.dwRealSendBufferLen)).mem.dead = s.mem.dead ∧
      ((s.withRequest c).putBody c (s.pbyRealSendBuffer + headerLen)
        (inBuffer c.pbData s.pbyRealSendBuffer s.dwRealSendBufferLen)).mem.bytes
          (s.pbyRealSendBuffer + headerLen) (bodyDataLen + c.dwLen) = fixedOf s c ++ sentPayload s c := by
  have hlen := length_fixedOf hg hc.newGuid
  have hreal : s.mem.Live s.pbyRealSendBuffer s.dwRealSendBufferLen := live_of_mem hb.real
  have hfit' : c.dwLen + 56 ≤ s.dwRealSendBufferLen := hfit
  -- after the fixed fields
  generalize hm₁ : s.mem.store (s.pbyRealSendBuffer + headerLen) (fixedOf s c) = m₁
  have hdead₁ : m₁.dead = s.mem.dead := by
    rw [← hm₁]
    refine store_dead (hreal.mono (Nat.le_add_right _ _) ?_)
    rw [hlen]
    unfold headerLen bodyDataLen
    omega
  have hfixed : m₁.bytes (s.pbyRealSendBuffer + headerLen) bodyDataLen = fixedOf s c := by
    rw [← hm₁, ← hlen]
    exact bytes_store _ _ _
  have h56 : s.pbyRealSendBuffer + headerLen + bodyDataLen = s.pbyRealSendBuffer + packetDataLen := rfl
  have hlive₁ : ∀ a n, m₁.Live a n ↔ s.mem.Live a n := fun a n => by
    rw [← hm₁]
    exact live_store
  unfold putBody sentPayload withRequest
  dsimp only
  by_cases hcopy : (!inBuffer c.pbData s.pbyRealSendBuffer s.dwRealSendBufferLen) = true ∧ 0 < c.dwLen
  · rw [if_pos hcopy, if_pos hcopy]
    have hout : inBuffer c.pbData s.pbyRealSendBuffer s.dwRealSendBufferLen = false := by
      simpa using hcopy.1
    have hdis := hb.disjoint hm hc.payload hcopy.2 hout
    have hpay : m₁.bytes c.pbData c.dwLen = s.mem.bytes c.pbData c.dwLen := by
      rw [← hm₁]
      refine bytes_store_of_disjoint ?_
      rw [hlen]
      unfold headerLen bodyDataLen
      omega
    have htouch : m₁.touch c.pbData c.dwLen = m₁ := touch_live ((hlive₁ _ _).mpr hc.payload)
    have hrun : ∀ bs, s.mem.bytes c.pbData c.dwLen = bs →
        (m₁.store (s.pbyRealSendBuffer + headerLen + bodyDataLen) bs).dead = s.mem.dead ∧
        (m₁.store (s.pbyRealSendBuffer + headerLen + bodyDataLen) bs).bytes (s.pbyRealSendBuffer + headerLen)
          (bodyDataLen + c.dwLen) = fixedOf s c ++ bs := by
      intro bs hbs
      have hbslen : bs.length = c.dwLen := by
        rw [← hbs]
        exact length_bytes _ _ _
      constructor
      · rw [store_dead, hdead₁]
        refine (hlive₁ _ _).mpr (hreal.mono (by omega) ?_)
        rw [hbslen]
        unfold headerLen bodyDataLen
        omega
      · rw [bytes_add, bytes_store_of_disjoint (Or.inl (le_refl _)), hfixed, ← hbslen]
        congr 1
        exact bytes_store _ _ _
    show (Memory.store (Memory.touch (s.mem.store _ (fixedOf s c)) _ _) _
        (Memory.bytes (s.mem.store _ (fixedOf s c)) _ _)).dead = _ ∧
      (Memory.store (Memory.touch (s.mem.store _ (fixedOf s c)) _ _) _
        (Memory.bytes (s.mem.store _ (fixedOf s c)) _ _)).bytes _ _ = _
    rw [hm₁, htouch, hpay]
    exact hrun _ rfl
  · rw [if_neg hcopy, if_neg hcopy]
    show (s.mem.store _ (fixedOf s c)).dead = _ ∧ (s.mem.store _ (fixedOf s c)).bytes _ _ = _
    rw [hm₁]
    refine ⟨hdead₁, ?_⟩
    rw [bytes_add, hfixed, h56, ← hm₁]
    congr 1
    refine bytes_store_of_disjoint (Or.inr ?_)
    rw [hlen]
    exact le_refl _

/-- How a call of `SendPacket` goes when neither encryption nor compression is set. -/
theorem sendPacket_cases (hplain : s.encryptType = 0 ∧ s.compressType = 0) {iRet : Int}
    (h : s.sendPacket c = some (s', iRet)) :
    ((c.pbData = 0 ∨ 1024 * 1024 * 1024 < c.dwLen) ∧ s' = s ∧ iRet = -1) ∨
    (c.pbData ≠ 0 ∧ c.dwLen ≤ 1024 * 1024 * 1024 ∧
      (¬ (s.pbySendBuffer ≤ c.pbData ∧ c.pbData < s.pbySendBuffer + s.dwSendBufferLen) ∧
        (s.withRequest c).setSendBufferSize c.buffers c.dwLen = some (s', false) ∧ iRet = -2 ∨
      ∃ s₁, ((s.pbySendBuffer ≤ c.pbData ∧ c.pbData < s.pbySendBuffer + s.dwSendBufferLen) ∧
          s₁ = s.withRequest c ∨
        ¬ (s.pbySendBuffer ≤ c.pbData ∧ c.pbData < s.pbySendBuffer + s.dwSendBufferLen) ∧
          (s.withRequest c).setSendBufferSize c.buffers c.dwLen = some (s₁, true)) ∧
        (s₁.encryptType = 0 ∧ s₁.compressType = 0 →
          (s₁.putBody c (s₁.pbyRealSendBuffer + headerLen)
            (inBuffer c.pbData s₁.pbyRealSendBuffer s₁.dwRealSendBufferLen)).sendBuilt c
              (s.pbyRealSendBuffer + headerLen) (c.dwLen + packetDataLen) (c.dwLen + bodyDataLen) =
                some (s', iRet)))) := by
  have hnone : ¬ (s.encryptType ≠ 0 ∨ s.compressType ≠ 0) := by
    rw [hplain.1, hplain.2]
    simp
  have hbuild : ∀ s₁ : CXTcpClient, s₁.encryptType = 0 ∧ s₁.compressType = 0 →
      s₁.buildBody c (s.pbyRealSendBuffer + headerLen) =
        (s₁.putBody c (s₁.pbyRealSendBuffer + headerLen)
          (inBuffer c.pbData s₁.pbyRealSendBuffer s₁.dwRealSendBufferLen), some (c.dwLen + packetDataLen)) := by
    intro s₁ h₁
    unfold buildBody
    rw [if_neg (by rw [h₁.1, h₁.2]; simp)]
  unfold sendPacket at h
  by_cases harg : c.pbData = 0 ∨ 1024 * 1024 * 1024 < c.dwLen
  · rw [if_pos harg] at h
    cases h
    exact Or.inl ⟨harg, rfl, rfl⟩
  rw [if_neg harg, if_neg (fun hc => hnone hc.1)] at h
  obtain ⟨hnull, hle⟩ := not_or.mp harg
  refine Or.inr ⟨hnull, Nat.le_of_not_lt hle, ?_⟩
  dsimp only at h
  by_cases hin : s.pbySendBuffer ≤ c.pbData ∧ c.pbData < s.pbySendBuffer + s.dwSendBufferLen
  · simp only [hin, and_self, decide_true, if_true] at h
    refine Or.inr ⟨s.withRequest c, Or.inl ⟨hin, rfl⟩, fun h₁ => ?_⟩
    have hb := hbuild (s.withRequest c) h₁
    unfold withRequest at hb ⊢
    rw [hb] at h
    exact h
  · simp only [hin, decide_false, Bool.false_eq_true, if_false] at h
    cases hset : (s.withRequest c).setSendBufferSize c.buffers c.dwLen with
    | none =>
      unfold withRequest at hset
      rw [hset] at h
      cases h
    | some q =>
      obtain ⟨s₁, ok⟩ := q
      cases ok with
      | false =>
        refine Or.inl ⟨hin, ?_⟩
        unfold withRequest at hset
        rw [hset] at h
        cases h
        exact ⟨rfl, rfl⟩
      | true =>
        refine Or.inr ⟨s₁, Or.inr ⟨hin, rfl⟩, fun h₁ => ?_⟩
        unfold withRequest at hset
        rw [hset] at h
        dsimp only at h
        rw [hbuild s₁ h₁] at h
        exact h

/-- What a call leaves: with the buffers replaced it has read the old one, otherwise it has sent the
packet from memory that is still allocated. -/
structure Outcome (s s' : CXTcpClient) (c : SendCall) (iRet : Int) : Prop where
  inv : Inv s'
  replaced : Replaces s c → s.mem.dead < s'.mem.dead
  kept : ¬ Replaces s c → s'.mem.dead = s.mem.dead ∧
    (iRet = 0 → c.dwLen ≤ 1024 * 1024 * 1024 ∧
      s'.wire = s.wire ++ (plainPacket (fixedOf s c ++ sentPayload s c)).encode)

theorem Outcome.of_kept {kind : BufKind} (h : Inv s) (hb : HasBuffers s kind) (hc : CallOk s c)
    (hle : c.dwLen ≤ 1024 * 1024 * 1024) (hfit : c.dwLen + packetDataLen ≤ s.dwRealSendBufferLen)
    (hrep : ¬ Replaces s c) {iRet : Int}
    (hs : ((s.withRequest c).putBody c (s.pbyRealSendBuffer + headerLen)
        (inBuffer c.pbData s.pbyRealSendBuffer s.dwRealSendBufferLen)).sendBuilt c
          (s.pbyRealSendBuffer + headerLen) (c.dwLen + packetDataLen) (c.dwLen + bodyDataLen) =
            some (s', iRet)) : Outcome s s' c iRet := by
  obtain ⟨hdead, hbytes⟩ := putBody_spec hb h.mem h.guid hc hfit
  have hfill := putBody_filled c (s.pbyRealSendBuffer + headerLen)
    (inBuffer c.pbData s.pbyRealSendBuffer s.dwRealSendBufferLen) (s.withRequest c)
  generalize hs₁ : (s.withRequest c).putBody c (s.pbyRealSendBuffer + headerLen)
    (inBuffer c.pbData s.pbyRealSendBuffer s.dwRealSendBufferLen) = s₁ at hs hdead hbytes hfill
  have hinv₁ : Inv s₁ := (h.filled (withRequest_filled s c)).filled hfill
  obtain ⟨hlive, -, heq⟩ := hfill
  have hreal : s₁.pbyRealSendBuffer = s.pbyRealSendBuffer := by
    rw [heq]
    rfl
  have hwire : s₁.wire = s.wire := by
    rw [← hs₁]
    unfold putBody
    dsimp only
    split <;> rfl
  have hlen : (fixedOf s c ++ sentPayload s c).length = c.dwLen + bodyDataLen := by
    rw [← hbytes, length_bytes, Nat.add_comm]
  have hfit' : c.dwLen + 56 ≤ s.dwRealSendBufferLen := hfit
  have h56 : c.dwLen + packetDataLen = c.dwLen + bodyDataLen + headerLen := rfl
  have hlive₁ : s₁.mem.Live s₁.pbyRealSendBuffer ((fixedOf s c ++ sentPayload s c).length + headerLen) := by
    rw [hlen, hreal]
    have hall : s₁.mem.Live s.pbyRealSendBuffer s.dwRealSendBufferLen := by
      unfold Memory.Live
      rw [hlive]
      exact live_of_mem hb.real
    exact hall.mono (le_refl _) (by omega)
  rw [← hreal, h56, ← hlen] at hs
  obtain ⟨hd, hw⟩ := sendBuilt_spec hinv₁.plain hlive₁ (by rw [hlen]; unfold bodyDataLen; omega)
    (by rw [hreal, hlen, Nat.add_comm c.dwLen]; exact hbytes) hs
  obtain ⟨-, -, -, -, -, hfill', -⟩ := sendBuilt_cases hs
  refine ⟨hinv₁.filled hfill', fun hr => absurd hr hrep, fun _ => ⟨hd.trans hdead, fun hr => ⟨hle, ?_⟩⟩⟩
  rw [hw hr, hwire]

theorem sendPacket_spec (h : Inv s) (hc : CallOk s c) {iRet : Int} (hs : s.sendPacket c = some (s', iRet)) :
    Outcome s s' c iRet := by
  have hreq : Inv (s.withRequest c) := h.filled (withRequest_filled s c)
  -- a buffer of positive length is a buffer
  have hhas : 0 < s.dwSendBufferLen → ∃ kind, HasBuffers s kind := by
    intro hpos
    rcases h.buffers with hb | hb
    · rw [hb.data.2] at hpos
      exact absurd hpos (lt_irrefl 0)
    · exact hb
  rcases sendPacket_cases h.plain hs with ⟨harg, rfl, rfl⟩ | ⟨hnull, hle, hcase⟩
  · refine ⟨h, fun hr => ?_, fun _ => ⟨rfl, nofun⟩⟩
    rcases harg with h0 | hlt
    · exact absurd h0 hr.1
    · exact absurd hr.2.1 (Nat.not_le_of_lt hlt)
  rcases hcase with ⟨hin, hset, rfl⟩ | ⟨s₁, hset, hbuilt⟩
  · obtain ⟨hinv, -, hdead, hres⟩ := setSendBufferSize_spec hreq hle hc.buffers hset
    refine ⟨hinv, fun hr => ?_, fun _ => ⟨hdead, nofun⟩⟩
    rcases hres with ⟨hf, -, -⟩ | ⟨-, hfail⟩ | ⟨hf, -⟩
    · cases hf
    · exact absurd hr.2.2.2.2 hfail
    · cases hf
  · rcases hset with ⟨hin, rfl⟩ | ⟨hin, hset⟩
    · obtain ⟨kind, hb⟩ := hhas (by omega)
      refine Outcome.of_kept h hb hc hle ?_ (fun hr => hr.2.2.1 hin) (hbuilt h.plain)
      -- the payload lies in the send buffer, half as long as the real one
      have h2 := hb.realLen
      have h56 := hb.len
      rcases Nat.eq_zero_or_pos c.dwLen with h0 | hpos
      · rw [h0, Nat.zero_add, h2]
        omega
      · obtain ⟨r, hr, hrle, hrlt⟩ := hc.payload
        have heq := h.mem.separate.eq_of_mem (a := c.pbData) hr hb.data ⟨hrle, by omega⟩ hin
        subst heq
        change c.pbData + c.dwLen ≤ s.pbySendBuffer + s.dwSendBufferLen at hrlt
        omega
    · obtain ⟨hinv, -, hdead, hres⟩ := setSendBufferSize_spec hreq hle hc.buffers hset
      rcases hres with ⟨-, rfl, hfit⟩ | ⟨hf, -⟩ | ⟨-, hgrown⟩
      · change c.dwLen + packetDataLen ≤ s.dwSendBufferLen at hfit
        obtain ⟨kind, hb⟩ := hhas (lt_of_lt_of_le (by decide) (le_trans (Nat.le_add_left packetDataLen _) hfit))
        have h2 := hb.realLen
        refine Outcome.of_kept h hb hc hle (by omega) (fun hr => ?_) (hbuilt h.plain)
        exact absurd hr.2.2.2.1 (Nat.not_lt_of_le hfit)
      · cases hf
      · have hbuilt := hbuilt hinv.plain
        have hfill := putBody_filled c (s₁.pbyRealSendBuffer + headerLen)
          (inBuffer c.pbData s₁.pbyRealSendBuffer s₁.dwRealSendBufferLen) s₁
        obtain ⟨s₂, r, hsend, hmem, -, hfill', -⟩ := sendBuilt_cases hbuilt
        refine ⟨(hinv.filled hfill).filled hfill', fun _ => ?_, fun hr => ?_⟩
        · have hgone := hgrown.gone (c.dwLen + packetDataLen - headerLen)
            (by unfold packetDataLen headerLen; omega)
          have hlt := dead_lt_touch (m := (s₁.putBody c (s₁.pbyRealSendBuffer + headerLen)
            (inBuffer c.pbData s₁.pbyRealSendBuffer s₁.dwRealSendBufferLen)).mem) (a := s.pbyRealSendBuffer + headerLen)
            (n := c.dwLen + packetDataLen - headerLen) (by
              unfold Memory.Live
              rw [hfill.1]
              exact hgone)
          have hle₁ := hfill.2.1
          have hle₂ := (send_filled hsend).2.1
          rw [hmem]
          change s₁.mem.dead = s.mem.dead at hdead
          refine lt_of_lt_of_le (lt_of_le_of_lt ?_ hlt) (le_trans (dead_le_store _ _ _) hle₂)
          rw [← hdead]
          exact hle₁
        · refine absurd ⟨hnull, hle, hin, hgrown.small, hgrown.given⟩ hr

/-! ### Every sequence of calls -/

theorem Reached.inv (h : Reached s) : Inv s := by
  induction h with
  | construct mem hsep hlow =>
    exact ⟨⟨hsep, hlow⟩, ⟨rfl, rfl⟩, rfl, Or.inl ⟨⟨rfl, rfl⟩, ⟨rfl, rfl⟩, rfl⟩⟩
  | create a _ ha hs ih =>
    unfold CXTcpClient.create at hs
    cases hset : CXTcpClient.setSendBufferSize a 4096 _ with
    | none =>
      rw [hset] at hs
      cases hs
    | some q =>
      obtain ⟨s₁, ok⟩ := q
      rw [hset] at hs
      have hinv := (setSendBufferSize_spec ih (by decide) ha hset).1
      cases ok with
      | false =>
        cases hs
        exact hinv
      | true =>
        cases hs
        exact hinv.filled ⟨rfl, le_refl _, rfl⟩
  | connect _ ih => exact ih.filled ⟨rfl, le_refl _, rfl⟩
  | close _ ih => exact ih.filled ⟨rfl, le_refl _, rfl⟩
  | setRPCObjectGuid pbyGuid _ hg ih =>
    refine ⟨ih.mem, ih.plain, hg, ?_⟩
    rcases ih.buffers with hb | ⟨kind, hb⟩
    · exact Or.inl ⟨hb.data, hb.real, hb.cache⟩
    · exact Or.inr ⟨kind, hb.own, hb.data, hb.real, hb.cache, hb.realLen, hb.len⟩
  | setUsedMemoryCachePool bSet _ ih => exact ih.filled ⟨rfl, le_refl _, rfl⟩
  | setSendBufferSize a n _ hn ha hs ih => exact (setSendBufferSize_spec ih hn ha hs).1
  | caller m _ hm ih => exact ih.of_kept ⟨hm.separate, hm.low⟩ hm.kept
  | send c _ hc hs ih => exact (sendPacket_spec ih hc hs).inv

/-! ### The round trip -/

/-- However the stream is cut and in whatever order its buffers come, a server that has memory for the
messages delivers the packet behind those sent before it. -/
def Delivered (p : PlainPacket) : Prop :=
  ∀ (env : RecvEnv) (before : List PlainPacket) (bufs : List (List UInt8)) (order : List Nat) (f g a : Bool),
    (∀ q ∈ before ++ [p], env.Serves q) → bufs.flatten = (before ++ [p]).flatMap PlainPacket.encode →
    order.Perm (List.range' 1 bufs.length) →
    ∃ r, RecvState.recvAll env bufs order (.built f g a) = some r ∧ r.overrun = false ∧
      r.mesQueue.map CXMessageData.content = messagesOf (before ++ [p])

/-- The packet is sent from memory that is allocated, its header tells the length and the checksum of the
body behind it, and the message the server delivers carries what was sent. -/
structure RoundTrip (s s' : CXTcpClient) (c : SendCall) (iRet : Int) : Prop where
  allocated : s'.mem.dead = s.mem.dead
  sent : iRet = 0 → ∃ p : PlainPacket, s'.wire = s.wire ++ p.encode ∧
    p.dwOrignDataLen.toNat = p.body.length ∧ Delivered p ∧
    CXPacketBodyData.ofBytes p.body = ⟨s.byRPCObjectGuid, c.newGuid, c.dwMesCode.toNat,
      (s.iPacketNumber + 1).toNat, s.mem.bytes c.pbData c.dwLen⟩

theorem delivered (p : PlainPacket) : Delivered p := by
  intro env before bufs order f g a hserve hcut horder
  obtain ⟨r, hr, hover, hcontent⟩ := RecvState.recvAll_content (f := f) (g := g) (a := a) hserve
    (by rw [hcut]) horder
  refine ⟨r, hr, hover, ?_⟩
  rw [hcontent, completeIn_append (List.append_nil _).symm (r := 0) ?_ nofun]
  rw [hcut, List.length_flatMap]
  simp only [PlainPacket.length_encode, Nat.add_zero]

theorem ofBytes_fixedOf (hg : s.byRPCObjectGuid.length = 16) (hr : c.newGuid.length = 16)
    (payload : List UInt8) :
    CXPacketBodyData.ofBytes (fixedOf s c ++ payload) =
      ⟨s.byRPCObjectGuid, c.newGuid, c.dwMesCode.toNat, (s.iPacketNumber + 1).toNat, payload⟩ := by
  have hcode : leValue (leBytes 4 c.dwMesCode.toNat) = c.dwMesCode.toNat :=
    leValue_leBytes c.dwMesCode.toNat_lt
  unfold CXPacketBodyData.ofBytes fixedOf CXPacketBodyData.fixedBytes bodyDataLen
  generalize s.iPacketNumber + 1 = k
  have hnum : leValue (leBytes 4 k.toNat) = k.toNat := leValue_leBytes k.toNat_lt
  simp [List.drop_append, hg, hr, hcode, hnum, List.drop_of_length_le]

/-- After any sequence of calls: the next packet makes the round trip exactly when it does not replace the
buffers it is built in, and its payload gets there. -/
theorem roundTrip_iff (h : Reached s) (hc : CallOk s c) {iRet : Int} (hs : s.sendPacket c = some (s', iRet)) :
    RoundTrip s s' c iRet ↔ ¬ Replaces s c ∧ (iRet = 0 → InPlace s c) := by
  have hinv := h.inv
  obtain ⟨-, hrep, hkept⟩ := sendPacket_spec hinv hc hs
  have hbody := ofBytes_fixedOf (s := s) (c := c) hinv.guid hc.newGuid
  have hfixed := length_fixedOf (s := s) (c := c) hinv.guid hc.newGuid
  constructor
  · rintro ⟨halloc, hsent⟩
    have hno : ¬ Replaces s c := fun hr => absurd halloc (hrep hr).ne'
    refine ⟨hno, fun hret => sentPayload_eq_iff.mp ?_⟩
    obtain ⟨p, hwire, -, -, hp⟩ := hsent hret
    rw [((hkept hno).2 hret).2] at hwire
    -- the bodies of two packets of the same bytes are the same
    have hp' : p.body = fixedOf s c ++ sentPayload s c := by
      have henc := List.append_cancel_left hwire
      unfold PlainPacket.encode at henc
      exact (List.append_inj henc (by simp)).2.symm
    rw [hp', hbody] at hp
    exact congrArg CXPacketBodyData.buf hp
  · rintro ⟨hno, hplace⟩
    refine ⟨(hkept hno).1, fun hret => ?_⟩
    obtain ⟨hle, hwire⟩ := (hkept hno).2 hret
    refine ⟨_, hwire, ?_, delivered _, ?_⟩
    · refine UInt32.toNat_ofNat_of_lt' ?_
      show (fixedOf s c ++ sentPayload s c).length < 2 ^ 32
      have hpay : (sentPayload s c).length = c.dwLen := by
        unfold sentPayload
        split <;> exact length_bytes _ _ _
      rw [List.length_append, hfixed, hpay]
      unfold bodyDataLen
      omega
    · show CXPacketBodyData.ofBytes (fixedOf s c ++ sentPayload s c) = _
      rw [hbody, sentPayload_eq_iff.mpr (hplace hret)]

/-- A connected client in a memory where the caller has the two pages from 4096 on. -/
def connectedClient : CXTcpClient :=
  { construct ⟨[⟨4096, 8192, .caller⟩, ⟨16384, 4152, .new⟩, ⟨24576, 8304, .new⟩, ⟨36864, 8304, .new⟩],
      UInt8.ofNat, 0⟩ with
    pbySendBuffer := 16384
    dwSendBufferLen := 4152
    pbyRealSendBuffer := 24576
    dwRealSendBufferLen := 8304
    pbyCacheSendBuffer := 36864
    dwCacheSendBufferLen := 8304
    bCreated := true
    bConnected := true }

/-- The caller's first `dwLen` bytes. -/
def sendFirst (dwLen : Nat) : SendCall :=
  ⟨4096, dwLen, 4001, List.replicate 16 7, ⟨some 49152, some 57344, some 73728, fun _ => 0⟩, fun _ => none,
    [.sent 20, .sent 10000]⟩

theorem connectedClient_reached : Reached connectedClient := by
  have hmem : Reached (construct ⟨[⟨4096, 8192, .caller⟩], UInt8.ofNat, 0⟩) :=
    .construct _ ⟨by decide, by decide⟩ (by decide)
  refine .connect (.create ⟨some 16384, some 24576, some 36864, fun _ => 0⟩ hmem ?_ (show _ = some (_, (0 : Int)) from rfl))
  refine ⟨?_, ?_, ?_⟩
  · rintro _ ⟨⟩
    exact ⟨by decide, by decide⟩
  · rintro _ ⟨⟩
    refine ⟨by decide, by decide, ?_⟩
    rintro _ ⟨⟩
    decide
  · rintro _ ⟨⟩
    refine ⟨by decide, by decide, ?_, ?_⟩
    · rintro _ ⟨⟩
      decide
    · rintro _ ⟨⟩
      decide

theorem sendFirst_ok {dwLen : Nat} (h : dwLen ≤ 4097) : CallOk connectedClient (sendFirst dwLen) := by
  have hfresh : ∀ p n, 45168 ≤ p → connectedClient.mem.Fresh ⟨p, n, .new⟩ := by
    intro p n hp r' hr'
    have hend : r'.base + r'.len ≤ 45168 :=
      (by decide : ∀ r ∈ connectedClient.mem.live, r.base + r.len ≤ 45168) r' hr'
    exact Or.inr (le_trans hend hp)
  refine ⟨⟨⟨4096, 8192, .caller⟩, by decide, le_refl _, ?_⟩, rfl, ⟨?_, ?_, ?_⟩⟩
  · show 4096 + dwLen ≤ 4096 + 8192
    omega
  · rintro _ ⟨⟩
    exact ⟨by decide, hfresh _ _ (by decide)⟩
  · rintro _ ⟨⟩
    refine ⟨by decide, hfresh _ _ (by decide), ?_⟩
    rintro _ ⟨⟩
    refine Or.inr ?_
    show 49152 + (dwLen + 56) ≤ 57344
    omega
  · rintro _ ⟨⟩
    refine ⟨by decide, hfresh _ _ (by decide), ?_, ?_⟩
    · rintro _ ⟨⟩
      refine Or.inr ?_
      show 49152 + (dwLen + 56) ≤ 73728
      omega
    · rintro _ ⟨⟩
      refine Or.inr ?_
      show 57344 + (dwLen + 56) * 2 ≤ 73728
      omega

/-- Three bytes go over. -/
theorem roundTrip_iff_three : ∃ s', connectedClient.sendPacket (sendFirst 3) = some (s', 0) ∧
    (RoundTrip connectedClient s' (sendFirst 3) 0 ↔
      ¬ Replaces connectedClient (sendFirst 3) ∧ ((0 : Int) = 0 → InPlace connectedClient (sendFirst 3))) := by
  have hrun : (connectedClient.sendPacket (sendFirst 3)).any (fun r => decide (r.2 = 0)) = true := by
    decide +kernel
  obtain ⟨⟨s', r⟩, hs, hr⟩ := (Option.any_eq_true _ _).mp hrun
  obtain rfl : r = 0 := of_decide_eq_true hr
  exact ⟨s', hs, roundTrip_iff connectedClient_reached (sendFirst_ok (by decide)) hs⟩

/-- One byte more than the buffer holds: the checksum is taken of a buffer that was deleted. -/
theorem not_roundTrip_grown : Reached connectedClient ∧ CallOk connectedClient (sendFirst 4097) ∧
    ∃ s', connectedClient.sendPacket (sendFirst 4097) = some (s', 0) ∧
      ¬ RoundTrip connectedClient s' (sendFirst 4097) 0 := by
  refine ⟨connectedClient_reached, sendFirst_ok (le_refl _), ?_⟩
  have hrun : (connectedClient.sendPacket (sendFirst 4097)).any
      (fun r => decide (r.2 = 0 ∧ connectedClient.mem.dead < r.1.mem.dead)) = true := by
    decide +kernel
  obtain ⟨⟨s', r⟩, hs, hr⟩ := (Option.any_eq_true _ _).mp hrun
  obtain ⟨rfl, hdead⟩ := of_decide_eq_true hr
  exact ⟨s', hs, fun h => absurd h.allocated hdead.ne'⟩

end CXTcpClient

end KonsanNet
