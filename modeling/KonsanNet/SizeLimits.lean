import KonsanNet.PacketRoom

/-!
# The size limits along the receive path

`RecvPacket` admits a packet whose body has up to `CX_MAX_CHACHE_SIZE` bytes, and then asks the cache manager for
the body and the 92 bytes in front of it; `ParseMessage` asks for the decoded body with 92 and 256 bytes more. The
manager refuses what is above its `m_dwMaxObjectSize`, and that is at most `CX_MAX_CHACHE_SIZE` too. So the bodies
that end within 92 bytes of the limit, and the decoded ones within 348, are admitted and then refused
(`sizesAgree_iff`).
-/

namespace KonsanNet

/-- Every cache has an object. -/
def GetOutcome.roomy (rand : Nat) : GetOutcome := ⟨rand, true, fun _ => true, fun _ => true⟩

namespace CXMemoryCacheManager

/-- With memory available, `GetBuffer` refuses a size that is too large, and no other. -/
theorem getBuffer_roomy_isSome_iff {o : InitOutcome} {m m' : CXMemoryCacheManager} {config : List (Nat × Nat)}
    (hm : Constructed m) (h : init o m config = (m', 0)) (hn : m'.dwInitCacheNumber ≠ 0) (rand s : Nat) :
    (getBuffer (.roomy rand) m' s).isSome ↔ s ≤ m'.dwMaxObjectSize := by
  obtain ⟨hmax, hrows⟩ := init_spec hm h
  constructor
  · intro hs
    by_contra hgt
    simp [getBuffer, Nat.lt_of_not_le hgt] at hs
  · intro hle
    obtain ⟨row, hrow, hok⟩ := hrows _ (calculateIndex_lt (hle.trans hmax))
    obtain ⟨c, hc⟩ := hok.full (rand % m'.dwInitCacheNumber) (Nat.mod_lt _ (Nat.pos_of_ne_zero hn))
    have hget : getBuffer (.roomy rand) m' s = some c := by
      simp [getBuffer, GetOutcome.roomy, Nat.not_lt.mpr hle, hrow, hc]
    rw [hget]
    rfl

theorem getBuffer_eq_none {o : InitOutcome} {m m' : CXMemoryCacheManager} {config : List (Nat × Nat)}
    (hm : Constructed m) (h : init o m config = (m', 0)) (hn : m'.dwInitCacheNumber = 0) (out : GetOutcome)
    {s : Nat} : getBuffer out m' s = none := by
  obtain ⟨hmax, hrows⟩ := init_spec hm h
  by_contra hne
  obtain ⟨c, hc⟩ := Option.ne_none_iff_exists'.mp hne
  have hle : s ≤ m'.dwMaxObjectSize := by
    by_contra hgt
    simp [getBuffer, Nat.lt_of_not_le hgt] at hc
  obtain ⟨row, hrow, hok⟩ := hrows _ (calculateIndex_lt (hle.trans hmax))
  obtain ⟨row', hrow', hmem⟩ := getBuffer_mem hc
  rw [hrow] at hrow'
  cases hrow'
  exact hok.null hn c hmem

end CXMemoryCacheManager

namespace RecvState

open CXMemoryCacheManager

/-- The packet is decoded: the test of `RecvPacket` in front of `ParseMessage`. -/
def Decoded (hd : CXPacketHeader) : Prop := hd.byEncryptFlag ≠ 0 ∨ hd.byCompressFlag ≠ 0

instance (hd : CXPacketHeader) : Decidable (Decoded hd) := inferInstanceAs (Decidable (_ ∨ _))

/-- The sizes of the messages that the path asks for: `iBufferLen` in `RecvPacket` and `dwOutputBufLen` in
`ParseMessage`. -/
def requestedLens (hd : CXPacketHeader) : List Nat :=
  (messageDataLen + hd.dwDataLen) :: if Decoded hd then [outputBufLen hd] else []

/-- The connection with the manager `m`: memory is available, in its caches and for the thread cache, and the parser
decodes what it is given. -/
def roomyEnv (m : CXMemoryCacheManager) (hm : m.dwMaxObjectSize ≤ cxMaxCacheSize) (rand : Nat → Nat)
    (output : Nat → List UInt8) (hd : CXPacketHeader) : RecvEnv :=
  .ofManager m hm (fun n => .roomy (rand n)) (fun _ => true) (fun _ _ => true)
    fun n => ⟨true, hd.dwOrignDataLen, output n⟩

/-- The limits agree for a header: the sizes that the path asks for are within the limit and the table of the
manager, and with memory available `RecvPacket` gets its message and `ParseMessage` succeeds. -/
structure SizesAgree (m : CXMemoryCacheManager) (hd : CXPacketHeader) : Prop where
  limit : ∀ n ∈ requestedLens hd, n ≤ m.dwMaxObjectSize
  index : ∀ n ∈ requestedLens hd, calculateIndex n < cacheArraySize
  message : ∀ hm rand output s, (getMessage (roomyEnv m hm rand output hd) hd none s).2.isSome
  output : Decoded hd → ∀ hm rand output (s : RecvState) mes, s.lpServer = true →
    (s.parseMessage (roomyEnv m hm rand output hd) mes hd).2 = true

variable {m : CXMemoryCacheManager} {hd : CXPacketHeader}

theorem getBuffer_ofManager {hm : m.dwMaxObjectSize ≤ cxMaxCacheSize} {rand : Nat → Nat}
    {output : Nat → List UInt8} {size : Nat} (s : RecvState) :
    (s.getBuffer (roomyEnv m hm rand output hd) size).2.isSome =
      (CXMemoryCacheManager.getBuffer (.roomy (rand s.calls)) m size).isSome := by
  have henv : (roomyEnv m hm rand output hd).getBuffer s.calls size =
      (CXMemoryCacheManager.getBuffer (.roomy (rand s.calls)) m size).map fun c =>
        List.replicate c.dwObjectSize 0 := rfl
  unfold RecvState.getBuffer
  rw [henv]
  cases CXMemoryCacheManager.getBuffer (.roomy (rand s.calls)) m size with
  | none => rfl
  | some c => rfl

theorem getMessage_isSome {env : RecvEnv} (s : RecvState) :
    (getMessage env hd none s).2.isSome = (s.getBuffer env (messageDataLen + hd.dwDataLen)).2.isSome := by
  unfold getMessage
  rcases hget : s.getBuffer env (messageDataLen + hd.dwDataLen) with ⟨s', _ | ⟨id, mem⟩⟩
  · rfl
  · rfl

/-- `ParseMessage` then depends on its second buffer alone. -/
theorem parseMessage_roomy {hm : m.dwMaxObjectSize ≤ cxMaxCacheSize} {rand : Nat → Nat}
    {output : Nat → List UInt8} {s : RecvState} {mes : CXMessageData} (hs : s.lpServer = true) :
    (s.parseMessage (roomyEnv m hm rand output hd) mes hd).2 =
      ({ s with calls := s.calls + 1 }.getBuffer (roomyEnv m hm rand output hd) (outputBufLen hd)).2.isSome := by
  have hscratch : s.getScratch (roomyEnv m hm rand output hd) (newBufferLen hd) =
      ({ s with calls := s.calls + 1 }, some none) := rfl
  have hparse (n : Nat) : (roomyEnv m hm rand output hd).parseData n = ⟨true, hd.dwOrignDataLen, output n⟩ := rfl
  obtain ⟨s₁, hs₁⟩ : ∃ s₁, { s with calls := s.calls + 1 } = s₁ := ⟨_, rfl⟩
  rw [hs₁] at hscratch ⊢
  unfold parseMessage
  simp only [hs, hscratch, Bool.not_true, Bool.false_eq_true, if_false]
  rcases s₁.getBuffer (roomyEnv m hm rand output hd) (outputBufLen hd) with ⟨s', _ | ⟨id, mem⟩⟩
  · rfl
  · simp [hparse]

/-- `dwOutputBufLen` against a limit, for a decoded body of admissible length. -/
theorem outputBufLen_le_iff (hO : hd.dwOrignDataLen ≤ cxMaxCacheSize) (limit : Nat) :
    outputBufLen hd ≤ limit ↔
      512 ≤ limit ∧ (420 ≤ hd.dwOrignDataLen → hd.dwOrignDataLen + messageDataLen + 256 ≤ limit) := by
  simp only [cxMaxCacheSize] at hO
  have hlt : hd.dwOrignDataLen < 2 ^ 32 := by omega
  have hlen := outputBufLen_cases hlt
  simp only [messageDataLen]
  omega

theorem SizesAgree.of_limit {o : InitOutcome} {m₀ : CXMemoryCacheManager} {config : List (Nat × Nat)}
    (hm : Constructed m₀) (h : init o m₀ config = (m, 0)) (hn : m.dwInitCacheNumber ≠ 0)
    (hlimit : ∀ n ∈ requestedLens hd, n ≤ m.dwMaxObjectSize) : SizesAgree m hd where
  limit := hlimit
  index n hn := calculateIndex_lt ((hlimit n hn).trans (init_spec hm h).1)
  message _ rand _ s := by
    rw [getMessage_isSome, getBuffer_ofManager]
    exact (getBuffer_roomy_isSome_iff hm h hn _ _).mpr (hlimit _ (List.mem_cons_self ..))
  output hdec _ rand _ s mes hs := by
    rw [parseMessage_roomy hs, getBuffer_ofManager]
    refine (getBuffer_roomy_isSome_iff hm h hn _ _).mpr (hlimit _ ?_)
    simp [requestedLens, hdec]

/-- For every manager and every header with admissible lengths: the limits agree exactly if the body fits behind the
92 bytes, and a decoded body behind them with 256 bytes left. -/
theorem sizesAgree_iff {o : InitOutcome} {m₀ : CXMemoryCacheManager} {config : List (Nat × Nat)}
    (hm : Constructed m₀) (h : init o m₀ config = (m, 0))
    (hO : hd.dwOrignDataLen ≤ cxMaxCacheSize) :
    SizesAgree m hd ↔ m.dwInitCacheNumber ≠ 0 ∧ messageDataLen + hd.dwDataLen ≤ m.dwMaxObjectSize ∧
      (Decoded hd → 512 ≤ m.dwMaxObjectSize ∧
        (420 ≤ hd.dwOrignDataLen → hd.dwOrignDataLen + messageDataLen + 256 ≤ m.dwMaxObjectSize)) := by
  have hlens : (∀ n ∈ requestedLens hd, n ≤ m.dwMaxObjectSize) ↔
      messageDataLen + hd.dwDataLen ≤ m.dwMaxObjectSize ∧ (Decoded hd → outputBufLen hd ≤ m.dwMaxObjectSize) := by
    by_cases hdec : Decoded hd
    · simp [requestedLens, hdec]
    · simp [requestedLens, hdec]
  rw [← outputBufLen_le_iff hO, ← hlens]
  constructor
  · intro hagree
    refine ⟨fun hn => ?_, hagree.limit⟩
    have hmax : m.dwMaxObjectSize ≤ cxMaxCacheSize := (init_spec hm h).1
    have hmes := hagree.message hmax (fun _ => 0) (fun _ => []) (built true true true)
    rw [getMessage_isSome, getBuffer_ofManager, getBuffer_eq_none hm h hn] at hmes
    cases hmes
  · rintro ⟨hn, hlimit⟩
    exact .of_limit hm h hn hlimit

/-- The manager of the server. -/
def serverManager : CXMemoryCacheManager := (init .allOk constructDefault serverConfig).1

/-- A body of 4096 bytes, compressed to 1000. -/
theorem sizesAgree_server : SizesAgree serverManager ⟨cxPacketHeaderFlag, 1, 0, 1000, 0, 4096⟩ :=
  (sizesAgree_iff (Or.inl rfl) server_init (by decide)).mpr
    ⟨by decide +kernel, by decide +kernel, fun _ => ⟨by decide +kernel, fun _ => by decide +kernel⟩⟩

/-- The server's manager refuses a plain packet of the largest admitted size. -/
theorem not_sizesAgree_server :
    (CXPacketHeader.mk cxPacketHeaderFlag 0 0 1048576 0 1048576).dwDataLen ≤ cxMaxCacheSize ∧
      ¬ SizesAgree serverManager ⟨cxPacketHeaderFlag, 0, 0, 1048576, 0, 1048576⟩ := by
  refine ⟨by decide, fun hagree => ?_⟩
  have hle : 92 + 1048576 ≤ serverManager.dwMaxObjectSize := hagree.limit _ (List.mem_cons_self ..)
  have hmax : serverManager.dwMaxObjectSize = 1048576 := by decide +kernel
  omega

end RecvState

end KonsanNet
