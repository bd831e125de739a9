import Mathlib.Tactic
import KonsanNet.ProxyRequests

/-!
# Proxied requests in the runs of `Keeps`

`ProxyRequests.Inv` is kept by every step of `Keeps`: a request id in use belongs to one message, and what is in
flight with that id is of the same message. The message is with the handler that sends its request, with the
request that waits, or with the answer that has popped it.
-/

namespace KonsanNet

namespace ProxyRequests

variable {s s' : ProxyRequests} {con : Nat} {m : ClientMes} {id : String} {bReply : Bool}

/-- A handler is in the middle of a request with the id. -/
def Requesting (s : ProxyRequests) (id : String) : Prop := ∃ con m, (s.requester con).request = some (m, id)

def Free (s : ProxyRequests) (id : String) : Prop := ∀ e ∈ s.inFlight, e.1 ≠ id

def NoAnswer (s : ProxyRequests) (id : String) : Prop := ∀ a ∈ s.answers, a.pPrevMes = none → a.strRequestID ≠ id

/-- An id that the remote server uses for its object once it has told it. -/
def RemoteGuid (s : ProxyRequests) (g : String) : Prop :=
  g ∈ s.mapObjects ∧ g ≠ s.strObjectGuid ∧ (g = s.strClassGuid → s.bUniqueInstance = true)

/-- The reply to the packet, or its error, finds the client object. -/
def Found (s : ProxyRequests) (p : ProxyPacket) : Prop :=
  s.RemoteGuid p.strObjectGuid ∨ p.strRequestID ∈ s.mapRPCObj

/-- The packet of the request is with the connection or with a task. -/
def Sent (s : ProxyRequests) (id : String) : Prop := ∃ p ∈ s.packets ++ s.prepareTasks, p.strRequestID = id

/-- A task has the request. -/
def InTask (s : ProxyRequests) (id : String) : Prop :=
  (∃ p ∈ s.prepareTasks, p.strRequestID = id) ∨ ∃ t ∈ s.connectTasks, t.strRequestID = id

structure Inv (s : ProxyRequests) : Prop where
  request : ∀ con m id, (s.requester con).request = some (m, id) →
    m.pConObj = con ∧ s.mapStateMachine.lookup id = some [m]
  pushedState : ∀ con m id, s.requester con = .pushedState m id → id ∉ s.mapRequests ∧ s.Free id ∧ s.NoAnswer id
  pushedRequest : ∀ con m id, s.requester con = .pushedRequest m id → id ∈ s.mapRequests ∧ s.Free id
  failed : ∀ con m id, s.requester con = .failed m id → id ∈ s.mapRequests
  popped : ∀ con m id, s.requester con = .poppedRequest m id → id ∉ s.mapRequests ∧ s.NoAnswer id
  states : ∀ id l, s.mapStateMachine.lookup id = some l → ∃ m, l = [m] ∧ m.iSequenceNum < s.uiReceived m.pConObj ∧
    m ∉ s.completed ∧ ∀ a ∈ s.answers, a.pMes = m → a.pPrevMes = none ∧ a.strRequestID = id
  inj : ∀ id id' m, s.mapStateMachine.lookup id = some [m] → s.mapStateMachine.lookup id' = some [m] → id = id'
  requests : ∀ id r, s.mapRequests.lookup id = some r →
    r.strRequestID = id ∧ s.mapStateMachine.lookup id = some [r.pMes]
  cover : ∀ id ∈ s.mapStateMachine, s.Requesting id ∨ id ∈ s.mapRequests ∨
    ∃ a ∈ s.answers, a.pPrevMes = none ∧ a.strRequestID = id
  waiting : ∀ id ∈ s.mapRequests, s.Requesting id ∨ s.Sent id
  closed : s.nState = .closed → ∀ id ∈ s.mapRequests, s.Requesting id ∨ s.InTask id
  flight : ∀ e ∈ s.inFlight, s.mapStateMachine.lookup e.1 = some [e.2] ∨ e.1 ∉ s.mapStateMachine ∧ s.Settled e.2
  found : ∀ p ∈ s.packets ++ s.prepareTasks, s.Found p ∨ p.strRequestID ∉ s.mapRequests ∨ s.Failing p.pMes
  answer : ∀ a ∈ s.answers, a.pMes ∉ s.completed ∧ a.pMes.iSequenceNum < s.uiReceived a.pMes.pConObj ∧
    (a.pPrevMes = none → s.mapStateMachine.lookup a.strRequestID = some [a.pMes] ∧ a.strRequestID ∉ s.mapRequests) ∧
    ∀ m, a.pPrevMes = some m → m = a.pMes
  answersOnce : (s.answers.map Answer.pMes).Nodup
  aligned : s.pAttachedConnection = true →
    if s.bAlignedIDWithServer then s.RemoteGuid s.byObjectID else s.byObjectID = s.strClassGuid
  detached : s.pAttachedConnection = false →
    (∀ id, id ∉ s.mapRequests) ∧ ∀ a ∈ s.answers, a.pPrevMes ≠ none
  delivered : ∀ e ∈ s.answered, ∀ m, e.2 = some m → m = e.1
  dropped : ∀ e ∈ s.answered, e.2 = none → s.Settled e.1
  once : s.completed.Nodup
  completedLt : ∀ m ∈ s.completed, m.iSequenceNum < s.uiReceived m.pConObj

theorem inv_start {strClassGuid strObjectGuid : String} {bUniqueInstance : Bool} :
    (start strClassGuid strObjectGuid bUniqueInstance).Inv where
  request _ _ _ h := by cases h
  pushedState _ _ _ h := by cases h
  pushedRequest _ _ _ h := by cases h
  failed _ _ _ h := by cases h
  popped _ _ _ h := by cases h
  states _ _ h := by cases h
  inj _ _ _ h := by cases h
  requests _ _ h := by cases h
  cover _ h := absurd h (AList.notMem_empty _)
  waiting _ h := absurd h (AList.notMem_empty _)
  closed h := by cases h
  flight _ h := absurd h List.not_mem_nil
  found _ h := absurd h List.not_mem_nil
  answer _ h := absurd h List.not_mem_nil
  answersOnce := List.nodup_nil
  aligned _ := rfl
  detached h := by cases h
  delivered _ h := absurd h List.not_mem_nil
  dropped _ h := absurd h List.not_mem_nil
  once := List.nodup_nil
  completedLt _ h := absurd h List.not_mem_nil

namespace Inv

theorem consistent (h : s.Inv) : s.Consistent where
  delivered := h.delivered
  dropped := h.dropped
  once := h.once
  closed hst htasks hprepare := by
    have hreq : ∀ id ∈ s.mapRequests, s.Requesting id := by
      intro id hid
      rcases h.closed hst id hid with hr | ⟨p, hp, -⟩ | ⟨t, ht, -⟩
      · exact hr
      · rw [hprepare] at hp
        exact absurd hp List.not_mem_nil
      · rw [htasks] at ht
        exact absurd ht List.not_mem_nil
    refine ⟨hreq, fun id hid => ?_⟩
    rcases h.cover id hid with hr | hid | ha
    · exact .inl hr
    · exact .inl (hreq id hid)
    · exact .inr ha

theorem noAnswer_of_mem (h : s.Inv) (hid : id ∈ s.mapRequests) : s.NoAnswer id := by
  rintro a ha hnone rfl
  exact ((h.answer a ha).2.2.1 hnone).2 hid

/-- A message in flight whose request is not waiting has been answered, or is being answered. -/
theorem settled_of_flight (h : s.Inv) (he : (id, m) ∈ s.inFlight) (hid : id ∉ s.mapRequests) : s.Settled m := by
  rcases h.flight _ he with hl | ⟨-, hs⟩
  · rcases h.cover id (AList.lookup_isSome.mp (by rw [hl]; rfl)) with ⟨con, m', hr⟩ | hid' | ⟨a, ha, hnone, rfl⟩
    · obtain ⟨rfl, hl'⟩ := h.request con m' id hr
      obtain rfl : m' = m := by
        rw [hl] at hl'
        exact (List.singleton_inj.mp (Option.some.inj hl')).symm
      cases hreq : s.requester m'.pConObj with
      | idle =>
        rw [hreq] at hr
        cases hr
      | pushedState m₁ id₁ =>
        rw [hreq] at hr
        cases hr
        exact absurd rfl ((h.pushedState _ _ _ hreq).2.1 _ he)
      | pushedRequest m₁ id₁ =>
        rw [hreq] at hr
        cases hr
        exact absurd (h.pushedRequest _ _ _ hreq).1 hid
      | failed m₁ id₁ =>
        rw [hreq] at hr
        cases hr
        exact absurd (h.failed _ _ _ hreq) hid
      | poppedRequest m₁ id₁ =>
        rw [hreq] at hr
        cases hr
        exact .inr (.inr ⟨id, hreq⟩)
    · exact absurd hid' hid
    · obtain ⟨hl', -⟩ := (h.answer a ha).2.2.1 hnone
      rw [hl] at hl'
      exact .inr (.inl ⟨a, ha, (List.singleton_inj.mp (Option.some.inj hl')).symm⟩)
  · exact hs

end Inv

/-! ### What is in flight -/

def setFlight (s : ProxyRequests) (packets prepareTasks : List ProxyPacket) (connectTasks : List ConnectTask)
    (st : ConnectionState) : ProxyRequests :=
  { s with packets := packets, prepareTasks := prepareTasks, connectTasks := connectTasks, nState := st }

theorem mem_inFlight {e : String × ClientMes} : e ∈ s.inFlight ↔
    (∃ p ∈ s.packets ++ s.prepareTasks, (p.strRequestID, p.pMes) = e) ∨
      ∃ t ∈ s.connectTasks, (t.strRequestID, t.pMes) = e := by
  simp only [inFlight, List.mem_append, List.mem_map]
  grind

theorem mem_inFlight_of_packet {p : ProxyPacket} (hp : p ∈ s.packets ++ s.prepareTasks) :
    (p.strRequestID, p.pMes) ∈ s.inFlight :=
  mem_inFlight.mpr (.inl ⟨p, hp, rfl⟩)

theorem mem_inFlight_of_task {t : ConnectTask} (ht : t ∈ s.connectTasks) :
    (t.strRequestID, t.pMes) ∈ s.inFlight :=
  mem_inFlight.mpr (.inr ⟨t, ht, rfl⟩)

/-- Something leaves the network, goes on to another place, or comes from a handler whose send has failed: what is
waited for stays, and with a `CLOSED` connection it has a task. -/
theorem Inv.setFlight (h : s.Inv) {packets prepareTasks : List ProxyPacket} {connectTasks : List ConnectTask}
    {st : ConnectionState}
    (hp : ∀ p ∈ packets ++ prepareTasks,
      p ∈ s.packets ++ s.prepareTasks ∨ s.requester p.pMes.pConObj = .failed p.pMes p.strRequestID)
    (ht : ∀ t ∈ connectTasks, t ∈ s.connectTasks ∨ s.requester t.pMes.pConObj = .failed t.pMes t.strRequestID)
    (hwait : ∀ id ∈ s.mapRequests, s.Sent id → ∃ p ∈ packets ++ prepareTasks, p.strRequestID = id)
    (hclosed : st = .closed → ∀ id ∈ s.mapRequests, s.Requesting id ∨
      (∃ p ∈ prepareTasks, p.strRequestID = id) ∨ ∃ t ∈ connectTasks, t.strRequestID = id) :
    (s.setFlight packets prepareTasks connectTasks st).Inv := by
  have hflight : ∀ e ∈ (s.setFlight packets prepareTasks connectTasks st).inFlight,
      e ∈ s.inFlight ∨ s.requester e.2.pConObj = .failed e.2 e.1 := by
    intro e he
    rcases mem_inFlight.mp he with ⟨p, hmem, rfl⟩ | ⟨t, hmem, rfl⟩
    · exact (hp p hmem).imp_left mem_inFlight_of_packet
    · exact (ht t hmem).imp_left mem_inFlight_of_task
  -- the id of a failing handler is not that of one that has not sent yet
  have hfree : ∀ con m id, (s.requester con).request = some (m, id) → s.Free id →
      (∀ m', s.requester con ≠ .failed m' id) →
      (s.setFlight packets prepareTasks connectTasks st).Free id := by
    rintro con m id hreq hfree hne e he rfl
    rcases hflight e he with he | hf
    · exact hfree e he rfl
    · obtain ⟨rfl, hl⟩ := h.request con m e.1 hreq
      obtain ⟨-, hl'⟩ := h.request _ _ _ (by rw [hf]; rfl)
      rw [hl] at hl'
      rw [← List.singleton_inj.mp (Option.some.inj hl')] at hf
      exact hne m hf
  exact { h with
    pushedState := fun con m id hreq => by
      obtain ⟨h₁, h₂, h₃⟩ := h.pushedState con m id hreq
      have hreq : s.requester con = .pushedState m id := hreq
      exact ⟨h₁, hfree con m id (by rw [hreq]; rfl) h₂ (by rw [hreq]; rintro m' ⟨⟩), h₃⟩
    pushedRequest := fun con m id hreq => by
      obtain ⟨h₁, h₂⟩ := h.pushedRequest con m id hreq
      have hreq : s.requester con = .pushedRequest m id := hreq
      exact ⟨h₁, hfree con m id (by rw [hreq]; rfl) h₂ (by rw [hreq]; rintro m' ⟨⟩)⟩
    waiting := fun id hid => (h.waiting id hid).imp_right (hwait id hid)
    closed := hclosed
    flight := fun e he => by
      rcases hflight e he with he | hf
      · exact h.flight e he
      · exact .inl (h.request _ _ _ (by rw [hf]; rfl)).2
    found := fun p hmem => by
      rcases hp p hmem with hmem | hf
      · exact h.found p hmem
      · exact .inr (.inr ⟨p.strRequestID, hf⟩) }

/-- The ways to find the client object: none is lost that is needed. -/
theorem Inv.setObjects (h : s.Inv) {byObjectID : String} {mapObjects : List String} (mapRPCObj : List String)
    {bAligned : Bool}
    (hobj : ∀ g ∈ s.mapObjects, g ≠ s.strObjectGuid → g ∈ mapObjects)
    (hrpc : ∀ p ∈ s.packets ++ s.prepareTasks, p.strRequestID ∈ s.mapRPCObj → p.strRequestID ∉ mapRPCObj →
      p.strRequestID ∉ s.mapRequests ∨ s.Failing p.pMes)
    (hal : s.pAttachedConnection = true → if bAligned then byObjectID ∈ mapObjects ∧ byObjectID ≠ s.strObjectGuid ∧
        (byObjectID = s.strClassGuid → s.bUniqueInstance = true)
      else byObjectID = s.strClassGuid) :
    ({ s with
      byObjectID := byObjectID
      mapObjects := mapObjects
      mapRPCObj := mapRPCObj
      bAlignedIDWithServer := bAligned } : ProxyRequests).Inv :=
  { h with
    found := fun p hmem => by
      rcases h.found p hmem with (⟨hg, hne, hu⟩ | hid) | hrest
      · exact .inl (.inl ⟨hobj _ hg hne, hne, hu⟩)
      · by_cases hid' : p.strRequestID ∈ mapRPCObj
        · exact .inl (.inr hid')
        · exact .inr (hrpc p hmem hid hid')
      · exact .inr hrest
    aligned := hal }

/-! ### Answers -/

theorem Settled.mono (h : s.Settled m) (hc : ∀ m ∈ s.completed, m ∈ s'.completed)
    (ha : ∀ a ∈ s.answers, a.pMes ∈ s'.completed ∨ ∃ a' ∈ s'.answers, a'.pMes = a.pMes)
    (hr : ∀ id, s.requester m.pConObj = .poppedRequest m id → s'.Settled m) : s'.Settled m := by
  rcases h with hm | ⟨a, hmem, rfl⟩ | ⟨id, hid⟩
  · exact .inl (hc m hm)
  · exact (ha a hmem).imp_right .inl
  · exact hr id hid

theorem lookup_of_mem {α : Type} {x : StrMap α} (hid : id ∈ x) : ∃ a, x.lookup id = some a :=
  Option.isSome_iff_exists.mp (AList.lookup_isSome.mpr hid)

theorem mem_of_lookup {α : Type} {x : StrMap α} {a : α} (hid : x.lookup id = some a) : id ∈ x :=
  AList.lookup_isSome.mp (Option.isSome_of_mem hid)

theorem lookup_of_erase {α : Type} {x : StrMap α} {id' : String} {a : α} (hl : (x.erase id).lookup id' = some a) :
    id' ≠ id ∧ x.lookup id' = some a := by
  have hne : id' ≠ id := by
    rintro rfl
    rw [AList.lookup_erase] at hl
    cases hl
  exact ⟨hne, by rw [← AList.lookup_erase_ne hne]; exact hl⟩

theorem Inv.popAnswer (h : s.Inv) (bReply : Bool) (he : (id, m) ∈ s.inFlight) (hf : ¬ s.Failing m)
    (hid : id ∈ s.mapRequests) :
    ({ s with
      mapRequests := s.mapRequests.erase id
      answers := ⟨bReply, id, m, none⟩ :: s.answers } : ProxyRequests).Inv := by
  obtain ⟨r, hr⟩ := lookup_of_mem hid
  have hl : s.mapStateMachine.lookup id = some [m] := by
    rcases h.flight _ he with hl | ⟨hl, -⟩
    · exact hl
    · exact absurd (mem_of_lookup (h.requests id r hr).2) hl
  obtain ⟨m', hm', hlt, hnc, hans⟩ := h.states id _ hl
  obtain rfl : m = m' := List.singleton_inj.mp hm'
  have hne : ∀ id', s.Free id' → id' ≠ id := by
    rintro id' hfree rfl
    exact hfree _ he rfl
  have hset : ∀ {m'}, s.Settled m' → ({ s with
      mapRequests := s.mapRequests.erase id
      answers := ⟨bReply, id, m, none⟩ :: s.answers } : ProxyRequests).Settled m' :=
    fun hs => hs.mono (fun _ hm => hm) (fun a ha => .inr ⟨a, List.mem_cons_of_mem _ ha, rfl⟩)
      fun id' hid' => .inr (.inr ⟨id', hid'⟩)
  exact { h with
    pushedState := fun con m' id' hreq => by
      obtain ⟨h₁, h₂, h₃⟩ := h.pushedState con m' id' hreq
      refine ⟨fun hmem => h₁ (AList.mem_erase.mp hmem).2, h₂, fun a ha hnone => ?_⟩
      rcases List.mem_cons.mp ha with rfl | ha
      · exact (hne id' h₂).symm
      · exact h₃ a ha hnone
    pushedRequest := fun con m' id' hreq => by
      obtain ⟨h₁, h₂⟩ := h.pushedRequest con m' id' hreq
      exact ⟨AList.mem_erase.mpr ⟨hne id' h₂, h₁⟩, h₂⟩
    failed := fun con m' id' hreq => by
      have hreq : s.requester con = .failed m' id' := hreq
      refine AList.mem_erase.mpr ⟨?_, h.failed con m' id' hreq⟩
      rintro rfl
      obtain ⟨rfl, hl'⟩ := h.request con m' id' (by rw [hreq]; rfl)
      rw [hl] at hl'
      obtain rfl := List.singleton_inj.mp (Option.some.inj hl')
      exact hf ⟨id', hreq⟩
    popped := fun con m' id' hreq => by
      obtain ⟨h₁, h₂⟩ := h.popped con m' id' hreq
      refine ⟨fun hmem => h₁ (AList.mem_erase.mp hmem).2, fun a ha hnone => ?_⟩
      rcases List.mem_cons.mp ha with rfl | ha
      · rintro rfl
        exact h₁ hid
      · exact h₂ a ha hnone
    states := fun id' l hl' => by
      obtain ⟨m', rfl, hlt', hnc', hans'⟩ := h.states id' l hl'
      refine ⟨m', rfl, hlt', hnc', fun a ha hm => ?_⟩
      rcases List.mem_cons.mp ha with rfl | ha
      · have hm : m = m' := hm
        rw [← hm] at hl'
        exact ⟨rfl, h.inj id id' m hl hl'⟩
      · exact hans' a ha hm
    requests := fun id' r' hr' => by
      have hr' : (s.mapRequests.erase id).lookup id' = some r' := hr'
      by_cases heq : id' = id
      · rw [heq, AList.lookup_erase] at hr'
        cases hr'
      · rw [AList.lookup_erase_ne heq] at hr'
        exact h.requests id' r' hr'
    cover := fun id' hid' => by
      by_cases heq : id' = id
      · exact .inr (.inr ⟨_, List.mem_cons_self, rfl, heq.symm⟩)
      · rcases h.cover id' hid' with hr | hr | ⟨a, ha, hnone, rfl⟩
        · exact .inl hr
        · exact .inr (.inl (AList.mem_erase.mpr ⟨heq, hr⟩))
        · exact .inr (.inr ⟨a, List.mem_cons_of_mem _ ha, hnone, rfl⟩)
    waiting := fun id' hid' => h.waiting id' (AList.mem_erase.mp hid').2
    closed := fun hst id' hid' => h.closed hst id' (AList.mem_erase.mp hid').2
    flight := fun e he => (h.flight e he).imp_right fun ⟨h₁, h₂⟩ => ⟨h₁, hset h₂⟩
    found := fun p hp => by
      rcases h.found p hp with hfd | hnr | hfl
      · exact .inl hfd
      · exact .inr (.inl fun hmem => hnr (AList.mem_erase.mp hmem).2)
      · exact .inr (.inr hfl)
    answer := fun a ha => by
      rcases List.mem_cons.mp ha with rfl | ha
      · refine ⟨hnc, hlt, fun _ => ⟨hl, fun hmem => (AList.mem_erase.mp hmem).1 rfl⟩, ?_⟩
        rintro m' ⟨⟩
      · obtain ⟨h₁, h₂, h₃, h₄⟩ := h.answer a ha
        exact ⟨h₁, h₂, fun hnone => ⟨(h₃ hnone).1, fun hmem => (h₃ hnone).2 (AList.mem_erase.mp hmem).2⟩, h₄⟩
    answersOnce := by
      refine List.nodup_cons.mpr ⟨fun hmem => ?_, h.answersOnce⟩
      obtain ⟨a, ha, hm⟩ := List.mem_map.mp hmem
      obtain ⟨hnone, rfl⟩ := hans a ha hm
      exact ((h.answer a ha).2.2.1 hnone).2 hid
    detached := fun hatt => absurd hid ((h.detached hatt).1 id)
    dropped := fun e he hnone => hset (h.dropped e he hnone) }

/-- What comes for a message that is answered otherwise is dropped. -/
theorem Inv.drop (h : s.Inv) (hs : s.Settled m) :
    ({ s with answered := (m, none) :: s.answered } : ProxyRequests).Inv :=
  { h with
    delivered := fun e he m' hm => by
      rcases List.mem_cons.mp he with rfl | he
      · cases hm
      · exact h.delivered e he m' hm
    dropped := fun e he hnone => by
      rcases List.mem_cons.mp he with rfl | he
      · exact hs
      · exact h.dropped e he hnone }

theorem answer_of_mem {r : RPCRequest} (hr : s.mapRequests.lookup id = some r) :
    s.answer bReply id m = { s with
      mapRequests := s.mapRequests.erase id
      answers := ⟨bReply, r.strRequestID, m, none⟩ :: s.answers } := by
  unfold ProxyRequests.answer popRequest
  rw [hr]

theorem erase_of_notMem {α : Type} {x : StrMap α} (hid : id ∉ x) : x.erase id = x :=
  AList.ext (List.kerase_of_notMem_keys hid)

theorem Inv.answerIt (h : s.Inv) (bReply : Bool) (he : (id, m) ∈ s.inFlight) (hf : ¬ s.Failing m) :
    (s.answer bReply id m).Inv ∧ id ∉ (s.answer bReply id m).mapRequests := by
  by_cases hid : id ∈ s.mapRequests
  · obtain ⟨r, hr⟩ := lookup_of_mem hid
    rw [answer_of_mem hr, (h.requests id r hr).1]
    exact ⟨h.popAnswer bReply he hf hid, fun hmem => (AList.mem_erase.mp hmem).1 rfl⟩
  · have hdrop : s.answer bReply id m = { s with answered := (m, none) :: s.answered } := by
      unfold ProxyRequests.answer popRequest
      rw [AList.lookup_eq_none.mpr hid, erase_of_notMem hid]
    rw [hdrop]
    exact ⟨h.drop (h.settled_of_flight he hid), hid⟩

/-! ### The handlers -/

theorem requester_self {r : Requester} : (s.setRequester con r).requester con = r :=
  Function.update_self ..

theorem requester_of_ne {r : Requester} {con' : Nat} (h : con' ≠ con) :
    (s.setRequester con r).requester con' = s.requester con' :=
  Function.update_of_ne h ..

theorem requester_cases {r r' : Requester} {con' : Nat} (h : (s.setRequester con r).requester con' = r')
    (hne : r' ≠ r) : con' ≠ con ∧ s.requester con' = r' := by
  by_cases heq : con' = con
  · rw [heq, requester_self] at h
    exact absurd h.symm hne
  · rw [requester_of_ne heq] at h
    exact ⟨heq, h⟩

theorem request_setRequester {r : Requester} (hr : r.request = (s.requester con).request) (con' : Nat) :
    ((s.setRequester con r).requester con').request = (s.requester con').request := by
  by_cases heq : con' = con
  · rw [heq, requester_self, hr]
  · rw [requester_of_ne heq]

/-! What the other handlers have is not touched by a step of one of them. -/

theorem Requesting.of_request (h : s.Requesting id)
    (hsame : ∀ con', (s'.requester con').request = (s.requester con').request) : s'.Requesting id := by
  obtain ⟨con', m', hr⟩ := h
  exact ⟨con', m', (hsame con').trans hr⟩

theorem Requesting.of_ne {id' : String} (h : s.Requesting id') (hne : id' ≠ id)
    (hr : ∀ m' id', (s.requester con).request = some (m', id') → id' = id)
    (hrest : ∀ con' ≠ con, s'.requester con' = s.requester con') : s'.Requesting id' := by
  obtain ⟨con', m', hr'⟩ := h
  refine ⟨con', m', ?_⟩
  rw [hrest con']
  · exact hr'
  · rintro rfl
    exact hne (hr _ _ hr')

theorem Settled.of_handler (h : s.Settled m) (hnot : ∀ id, s.requester con ≠ .poppedRequest m id)
    (hc : s'.completed = s.completed) (ha : s'.answers = s.answers)
    (hrest : ∀ con' ≠ con, s'.requester con' = s.requester con') : s'.Settled m := by
  refine h.mono (fun _ hm => hc ▸ hm) (fun a hm => .inr ⟨a, ha ▸ hm, rfl⟩) fun id hid => .inr (.inr ⟨id, ?_⟩)
  rw [hrest m.pConObj]
  · exact hid
  · rintro rfl
    exact hnot id hid

theorem Failing.of_handler (h : s.Failing m) (hnot : ∀ id, s.requester con ≠ .failed m id)
    (hrest : ∀ con' ≠ con, s'.requester con' = s.requester con') : s'.Failing m := by
  obtain ⟨id, hid⟩ := h
  refine ⟨id, ?_⟩
  rw [hrest m.pConObj]
  · exact hid
  · rintro rfl
    exact hnot id hid

namespace Inv

theorem request_inj (h : s.Inv) {con' : Nat} {m' : ClientMes} (hr : (s.requester con).request = some (m, id))
    (hr' : (s.requester con').request = some (m', id)) : con' = con ∧ m' = m := by
  obtain ⟨rfl, hl⟩ := h.request con m id hr
  obtain ⟨rfl, hl'⟩ := h.request con' m' id hr'
  rw [hl] at hl'
  obtain rfl := List.singleton_inj.mp (Option.some.inj hl')
  exact ⟨rfl, rfl⟩

theorem pushRequestStep (h : s.Inv) (hreq : s.requester con = .pushedState m id)
    (hatt : s.pAttachedConnection = true) :
    ({ s with mapRequests := s.mapRequests.insert id ⟨id, m⟩ }.setRequester con (.pushedRequest m id)).Inv := by
  have hr : (s.requester con).request = some (m, id) := by
    rw [hreq]
    rfl
  obtain ⟨hnid, hfree, hno⟩ := h.pushedState con m id hreq
  obtain ⟨rfl, hl⟩ := h.request con m id hr
  have hsame : ∀ con', ((s.setRequester m.pConObj (.pushedRequest m id)).requester con').request =
      (s.requester con').request := request_setRequester hr.symm
  have hrequesting : ∀ id', s.Requesting id' → ({ s with
      mapRequests := s.mapRequests.insert id ⟨id, m⟩ }.setRequester m.pConObj (.pushedRequest m id)).Requesting id' :=
    fun _ hr' => hr'.of_request hsame
  have hset : ∀ {m'}, s.Settled m' → ({ s with
      mapRequests := s.mapRequests.insert id ⟨id, m⟩ }.setRequester m.pConObj (.pushedRequest m id)).Settled m' :=
    fun hs => hs.of_handler (fun _ => by rw [hreq]; nofun) rfl rfl fun _ => requester_of_ne
  exact { h with
    request := fun con' m' id' hr' => h.request con' m' id' ((hsame con').symm.trans hr')
    pushedState := fun con' m' id' heq => by
      obtain ⟨hne, hold⟩ := requester_cases heq (by rintro ⟨⟩)
      obtain ⟨h₁, h₂, h₃⟩ := h.pushedState con' m' id' hold
      refine ⟨fun hmem => ?_, h₂, h₃⟩
      rcases (AList.mem_insert _).mp hmem with rfl | hmem
      · exact hne (h.request_inj hr (by rw [hold]; rfl)).1
      · exact h₁ hmem
    pushedRequest := fun con' m' id' heq => by
      by_cases hcon : con' = m.pConObj
      · have heq : Function.update s.requester m.pConObj (.pushedRequest m id) con' = .pushedRequest m' id' := heq
        rw [hcon, Function.update_self] at heq
        cases heq
        exact ⟨(AList.mem_insert _).mpr (.inl rfl), hfree⟩
      · rw [requester_of_ne hcon] at heq
        obtain ⟨h₁, h₂⟩ := h.pushedRequest con' m' id' heq
        exact ⟨(AList.mem_insert _).mpr (.inr h₁), h₂⟩
    failed := fun con' m' id' heq => by
      obtain ⟨-, hold⟩ := requester_cases heq (by rintro ⟨⟩)
      exact (AList.mem_insert _).mpr (.inr (h.failed con' m' id' hold))
    popped := fun con' m' id' heq => by
      obtain ⟨hne, hold⟩ := requester_cases heq (by rintro ⟨⟩)
      obtain ⟨h₁, h₂⟩ := h.popped con' m' id' hold
      refine ⟨fun hmem => ?_, h₂⟩
      rcases (AList.mem_insert _).mp hmem with rfl | hmem
      · exact hne (h.request_inj hr (by rw [hold]; rfl)).1
      · exact h₁ hmem
    requests := fun id' r hr' => by
      have hr' : (s.mapRequests.insert id ⟨id, m⟩).lookup id' = some r := hr'
      by_cases heq : id' = id
      · rw [heq, AList.lookup_insert] at hr'
        cases hr'
        exact ⟨heq.symm, by rw [heq]; exact hl⟩
      · rw [AList.lookup_insert_ne heq] at hr'
        exact h.requests id' r hr'
    cover := fun id' hid' => by
      rcases h.cover id' hid' with hr' | hid' | ha
      · exact .inl (hrequesting id' hr')
      · exact .inr (.inl ((AList.mem_insert _).mpr (.inr hid')))
      · exact .inr (.inr ha)
    waiting := fun id' hid' => by
      rcases (AList.mem_insert _).mp hid' with rfl | hid'
      · exact .inl (hrequesting _ ⟨_, m, hr⟩)
      · exact (h.waiting id' hid').imp_left (hrequesting id')
    closed := fun hst id' hid' => by
      rcases (AList.mem_insert _).mp hid' with rfl | hid'
      · exact .inl (hrequesting _ ⟨_, m, hr⟩)
      · exact (h.closed hst id' hid').imp_left (hrequesting id')
    flight := fun e he => (h.flight e he).imp_right fun ⟨h₁, h₂⟩ => ⟨h₁, hset h₂⟩
    found := fun p hp => by
      rcases h.found p hp with hfd | hnr | hfl
      · exact .inl hfd
      · refine .inr (.inl fun hmem => ?_)
        rcases (AList.mem_insert _).mp hmem with hmem | hmem
        · exact hfree _ (mem_inFlight_of_packet hp) hmem
        · exact hnr hmem
      · exact .inr (.inr (hfl.of_handler (fun _ => by rw [hreq]; nofun) fun _ => requester_of_ne))
    answer := fun a ha => by
      obtain ⟨h₁, h₂, h₃, h₄⟩ := h.answer a ha
      refine ⟨h₁, h₂, fun hnone => ⟨(h₃ hnone).1, fun hmem => ?_⟩, h₄⟩
      rcases (AList.mem_insert _).mp hmem with hmem | hmem
      · exact hno a ha hnone hmem
      · exact (h₃ hnone).2 hmem
    detached := fun hdet => absurd (hatt.symm.trans hdet) (by decide)
    dropped := fun e he hnone => hset (h.dropped e he hnone) }

theorem refusedStep (h : s.Inv) (hreq : s.requester con = .pushedState m id) :
    (s.setRequester con (.poppedRequest m id)).Inv := by
  have hr : (s.requester con).request = some (m, id) := by
    rw [hreq]
    rfl
  obtain ⟨hnid, -, hno⟩ := h.pushedState con m id hreq
  have hsame : ∀ con', ((s.setRequester con (.poppedRequest m id)).requester con').request =
      (s.requester con').request := request_setRequester hr.symm
  have hrequesting : ∀ id', s.Requesting id' → (s.setRequester con (.poppedRequest m id)).Requesting id' :=
    fun _ hr' => hr'.of_request hsame
  have hset : ∀ {m'}, s.Settled m' → (s.setRequester con (.poppedRequest m id)).Settled m' :=
    fun hs => hs.of_handler (fun _ => by rw [hreq]; nofun) rfl rfl fun _ => requester_of_ne
  exact { h with
    request := fun con' m' id' hr' => h.request con' m' id' ((hsame con').symm.trans hr')
    pushedState := fun con' m' id' heq => h.pushedState con' m' id' (requester_cases heq (by rintro ⟨⟩)).2
    pushedRequest := fun con' m' id' heq => h.pushedRequest con' m' id' (requester_cases heq (by rintro ⟨⟩)).2
    failed := fun con' m' id' heq => h.failed con' m' id' (requester_cases heq (by rintro ⟨⟩)).2
    popped := fun con' m' id' heq => by
      by_cases hcon : con' = con
      · rw [hcon, requester_self] at heq
        cases heq
        exact ⟨hnid, hno⟩
      · rw [requester_of_ne hcon] at heq
        exact h.popped con' m' id' heq
    cover := fun id' hid' => (h.cover id' hid').imp_left (hrequesting id')
    waiting := fun id' hid' => (h.waiting id' hid').imp_left (hrequesting id')
    closed := fun hst id' hid' => (h.closed hst id' hid').imp_left (hrequesting id')
    flight := fun e he => (h.flight e he).imp_right fun ⟨h₁, h₂⟩ => ⟨h₁, hset h₂⟩
    found := fun p hp => by
      rcases h.found p hp with hfd | hnr | hfl
      · exact .inl hfd
      · exact .inr (.inl hnr)
      · exact .inr (.inr (hfl.of_handler (fun _ => by rw [hreq]; nofun) fun _ => requester_of_ne))
    dropped := fun e he hnone => hset (h.dropped e he hnone) }

theorem popRequestStep (h : s.Inv) (hreq : s.requester con = .failed m id) :
    ({ s with mapRequests := s.mapRequests.erase id }.setRequester con (.poppedRequest m id)).Inv := by
  have hr : (s.requester con).request = some (m, id) := by
    rw [hreq]
    rfl
  have hmem := h.failed con m id hreq
  have hno := h.noAnswer_of_mem hmem
  obtain ⟨rfl, hl⟩ := h.request con m id hr
  have hsame : ∀ con', ((s.setRequester m.pConObj (.poppedRequest m id)).requester con').request =
      (s.requester con').request := request_setRequester hr.symm
  have hrequesting : ∀ id', s.Requesting id' → ({ s with
      mapRequests := s.mapRequests.erase id }.setRequester m.pConObj (.poppedRequest m id)).Requesting id' :=
    fun _ hr' => hr'.of_request hsame
  have hset : ∀ {m'}, s.Settled m' → ({ s with
      mapRequests := s.mapRequests.erase id }.setRequester m.pConObj (.poppedRequest m id)).Settled m' :=
    fun hs => hs.of_handler (fun _ => by rw [hreq]; nofun) rfl rfl fun _ => requester_of_ne
  exact { h with
    request := fun con' m' id' hr' => h.request con' m' id' ((hsame con').symm.trans hr')
    pushedState := fun con' m' id' heq => by
      obtain ⟨hne, hold⟩ := requester_cases heq (by rintro ⟨⟩)
      obtain ⟨h₁, h₂, h₃⟩ := h.pushedState con' m' id' hold
      exact ⟨fun hmem => h₁ (AList.mem_erase.mp hmem).2, h₂, h₃⟩
    pushedRequest := fun con' m' id' heq => by
      obtain ⟨hne, hold⟩ := requester_cases heq (by rintro ⟨⟩)
      obtain ⟨h₁, h₂⟩ := h.pushedRequest con' m' id' hold
      refine ⟨AList.mem_erase.mpr ⟨?_, h₁⟩, h₂⟩
      rintro rfl
      exact hne (h.request_inj hr (by rw [hold]; rfl)).1
    failed := fun con' m' id' heq => by
      obtain ⟨hne, hold⟩ := requester_cases heq (by rintro ⟨⟩)
      refine AList.mem_erase.mpr ⟨?_, h.failed con' m' id' hold⟩
      rintro rfl
      exact hne (h.request_inj hr (by rw [hold]; rfl)).1
    popped := fun con' m' id' heq => by
      by_cases hcon : con' = m.pConObj
      · rw [hcon, requester_self] at heq
        cases heq
        exact ⟨fun hmem => (AList.mem_erase.mp hmem).1 rfl, hno⟩
      · rw [requester_of_ne hcon] at heq
        obtain ⟨h₁, h₂⟩ := h.popped con' m' id' heq
        exact ⟨fun hmem => h₁ (AList.mem_erase.mp hmem).2, h₂⟩
    requests := fun id' r hr' => by
      have hr' : (s.mapRequests.erase id).lookup id' = some r := hr'
      by_cases heq : id' = id
      · rw [heq, AList.lookup_erase] at hr'
        cases hr'
      · rw [AList.lookup_erase_ne heq] at hr'
        exact h.requests id' r hr'
    cover := fun id' hid' => by
      by_cases heq : id' = id
      · exact .inl (hrequesting id' ⟨_, m, by rw [heq]; exact hr⟩)
      · rcases h.cover id' hid' with hr' | hid' | ha
        · exact .inl (hrequesting id' hr')
        · exact .inr (.inl (AList.mem_erase.mpr ⟨heq, hid'⟩))
        · exact .inr (.inr ha)
    waiting := fun id' hid' => (h.waiting id' (AList.mem_erase.mp hid').2).imp_left (hrequesting id')
    closed := fun hst id' hid' => (h.closed hst id' (AList.mem_erase.mp hid').2).imp_left (hrequesting id')
    flight := fun e he => (h.flight e he).imp_right fun ⟨h₁, h₂⟩ => ⟨h₁, hset h₂⟩
    found := fun p hp => by
      rcases h.found p hp with hfd | hnr | ⟨id', hfl⟩
      · exact .inl hfd
      · exact .inr (.inl fun hmem => hnr (AList.mem_erase.mp hmem).2)
      · by_cases heq : p.pMes.pConObj = m.pConObj
        · refine .inr (.inl fun hmem => ?_)
          -- the packet of the handler itself
          obtain ⟨hne, hmem⟩ := AList.mem_erase.mp hmem
          rw [heq, hreq] at hfl
          injection hfl with hpm
          obtain ⟨r, hr'⟩ := lookup_of_mem hmem
          rcases h.flight _ (mem_inFlight_of_packet hp) with hfl | ⟨hfl, -⟩
          · rw [← hpm] at hfl
            exact hne (h.inj _ _ _ hfl hl)
          · exact hfl (mem_of_lookup (h.requests _ r hr').2)
        · refine .inr (.inr ⟨id', ?_⟩)
          rw [requester_of_ne heq]
          exact hfl
    answer := fun a ha => by
      obtain ⟨h₁, h₂, h₃, h₄⟩ := h.answer a ha
      exact ⟨h₁, h₂, fun hnone => ⟨(h₃ hnone).1, fun hmem => (h₃ hnone).2 (AList.mem_erase.mp hmem).2⟩, h₄⟩
    detached := fun hatt => absurd hmem ((h.detached hatt).1 id)
    dropped := fun e he hnone => hset (h.dropped e he hnone) }

/-- `PopState` after a send that has failed: the handler completes the message itself. -/
theorem popStateStep (h : s.Inv) (hreq : s.requester con = .poppedRequest m id) :
    ({ s with
      mapStateMachine := s.mapStateMachine.erase id
      completed := m :: s.completed }.setRequester con .idle).Inv := by
  have hr : (s.requester con).request = some (m, id) := by
    rw [hreq]
    rfl
  obtain ⟨hnid, hno⟩ := h.popped con m id hreq
  obtain ⟨rfl, hl⟩ := h.request con m id hr
  obtain ⟨m', hm', hlt, hnc, hans⟩ := h.states id _ hl
  obtain rfl : m = m' := List.singleton_inj.mp hm'
  have hans : ∀ a ∈ s.answers, a.pMes ≠ m := by
    intro a ha hm
    obtain ⟨hnone, rfl⟩ := hans a ha hm
    exact hno a ha hnone rfl
  have hown : ∀ m' id', (s.requester m.pConObj).request = some (m', id') → id' = id := by
    intro m' id' hr'
    rw [hr] at hr'
    cases hr'
    rfl
  have hrequesting : ∀ id', id' ≠ id → s.Requesting id' → ({ s with
      mapStateMachine := s.mapStateMachine.erase id
      completed := m :: s.completed }.setRequester m.pConObj .idle).Requesting id' :=
    fun _ hne hr' => hr'.of_ne hne hown fun _ => requester_of_ne
  have hset : ∀ {m'}, s.Settled m' → ({ s with
      mapStateMachine := s.mapStateMachine.erase id
      completed := m :: s.completed }.setRequester m.pConObj .idle).Settled m' := by
    intro m' hs
    refine hs.mono (fun _ hm => List.mem_cons_of_mem _ hm) (fun a ha => .inr ⟨a, ha, rfl⟩) fun id' hid' => ?_
    by_cases heq : m'.pConObj = m.pConObj
    · rw [heq, hreq] at hid'
      cases hid'
      exact .inl List.mem_cons_self
    · refine .inr (.inr ⟨id', ?_⟩)
      rw [requester_of_ne heq]
      exact hid'
  exact { h with
    request := fun con' m' id' hr' => by
      have hcon : con' ≠ m.pConObj := by
        rintro rfl
        rw [requester_self] at hr'
        cases hr'
      rw [requester_of_ne hcon] at hr'
      obtain ⟨h₁, h₂⟩ := h.request con' m' id' hr'
      refine ⟨h₁, ?_⟩
      show (s.mapStateMachine.erase id).lookup id' = some [m']
      rw [AList.lookup_erase_ne]
      · exact h₂
      · rintro rfl
        exact hcon (h.request_inj hr hr').1
    pushedState := fun con' m' id' heq => h.pushedState con' m' id' (requester_cases heq (by rintro ⟨⟩)).2
    pushedRequest := fun con' m' id' heq => h.pushedRequest con' m' id' (requester_cases heq (by rintro ⟨⟩)).2
    failed := fun con' m' id' heq => h.failed con' m' id' (requester_cases heq (by rintro ⟨⟩)).2
    popped := fun con' m' id' heq => h.popped con' m' id' (requester_cases heq (by rintro ⟨⟩)).2
    states := fun id' l hl' => by
      obtain ⟨hne, hold⟩ := lookup_of_erase hl'
      obtain ⟨m', rfl, hlt', hnc', hans'⟩ := h.states id' l hold
      refine ⟨m', rfl, hlt', fun hmem => ?_, hans'⟩
      rcases List.mem_cons.mp hmem with rfl | hmem
      · exact hne (h.inj id' id _ hold hl)
      · exact hnc' hmem
    inj := fun id₁ id₂ m' hl₁ hl₂ => h.inj id₁ id₂ m' (lookup_of_erase hl₁).2 (lookup_of_erase hl₂).2
    requests := fun id' r hr' => by
      obtain ⟨h₁, h₂⟩ := h.requests id' r hr'
      refine ⟨h₁, ?_⟩
      show (s.mapStateMachine.erase id).lookup id' = some [r.pMes]
      rw [AList.lookup_erase_ne]
      · exact h₂
      · rintro rfl
        exact hnid (mem_of_lookup hr')
    cover := fun id' hid' => by
      obtain ⟨hne, hid'⟩ := AList.mem_erase.mp hid'
      exact (h.cover id' hid').imp_left (hrequesting id' hne)
    waiting := fun id' hid' => (h.waiting id' hid').imp_left
      (hrequesting id' (by rintro rfl; exact hnid hid'))
    closed := fun hst id' hid' => (h.closed hst id' hid').imp_left
      (hrequesting id' (by rintro rfl; exact hnid hid'))
    flight := fun e he => by
      by_cases heq : e.1 = id
      · refine .inr ⟨fun hmem => (AList.mem_erase.mp hmem).1 heq, ?_⟩
        rcases h.flight e he with hl' | ⟨hl', -⟩
        · rw [heq, hl] at hl'
          rw [← List.singleton_inj.mp (Option.some.inj hl')]
          exact .inl List.mem_cons_self
        · rw [heq] at hl'
          exact absurd (mem_of_lookup hl) hl'
      · rcases h.flight e he with hl' | ⟨hl', hs⟩
        · refine .inl ?_
          show (s.mapStateMachine.erase id).lookup e.1 = some [e.2]
          rw [AList.lookup_erase_ne heq]
          exact hl'
        · exact .inr ⟨fun hmem => hl' (AList.mem_erase.mp hmem).2, hset hs⟩
    found := fun p hp => by
      rcases h.found p hp with hfd | hnr | hfl
      · exact .inl hfd
      · exact .inr (.inl hnr)
      · exact .inr (.inr (hfl.of_handler (fun _ => by rw [hreq]; nofun) fun _ => requester_of_ne))
    answer := fun a ha => by
      obtain ⟨h₁, h₂, h₃, h₄⟩ := h.answer a ha
      refine ⟨fun hmem => ?_, h₂, fun hnone => ⟨?_, (h₃ hnone).2⟩, h₄⟩
      · rcases List.mem_cons.mp hmem with hm | hmem
        · exact hans a ha hm
        · exact h₁ hmem
      · show (s.mapStateMachine.erase id).lookup a.strRequestID = some [a.pMes]
        rw [AList.lookup_erase_ne (hno a ha hnone)]
        exact (h₃ hnone).1
    dropped := fun e he hnone => hset (h.dropped e he hnone)
    once := List.nodup_cons.mpr ⟨hnc, h.once⟩
    completedLt := fun m' hm' => by
      rcases List.mem_cons.mp hm' with rfl | hm'
      · exact hlt
      · exact h.completedLt m' hm' }

theorem idleStep (h : s.Inv) (hreq : s.requester con = .failed m id) (hsent : s.Sent id)
    (hfound : ∀ p ∈ s.packets ++ s.prepareTasks, p.strRequestID = id → s.Found p)
    (hclosed : s.nState = .closed → s.InTask id) : (s.setRequester con .idle).Inv := by
  have hr : (s.requester con).request = some (m, id) := by
    rw [hreq]
    rfl
  have hmem := h.failed con m id hreq
  obtain ⟨rfl, hl⟩ := h.request con m id hr
  have hown : ∀ m' id', (s.requester m.pConObj).request = some (m', id') → id' = id := by
    intro m' id' hr'
    rw [hr] at hr'
    cases hr'
    rfl
  have hrequesting : ∀ id', id' ≠ id → s.Requesting id' → (s.setRequester m.pConObj .idle).Requesting id' :=
    fun _ hne hr' => hr'.of_ne hne hown fun _ => requester_of_ne
  have hset : ∀ {m'}, s.Settled m' → (s.setRequester m.pConObj .idle).Settled m' :=
    fun hs => hs.of_handler (fun _ => by rw [hreq]; nofun) rfl rfl fun _ => requester_of_ne
  exact { h with
    request := fun con' m' id' hr' => by
      have hcon : con' ≠ m.pConObj := by
        rintro rfl
        rw [requester_self] at hr'
        cases hr'
      rw [requester_of_ne hcon] at hr'
      exact h.request con' m' id' hr'
    pushedState := fun con' m' id' heq => h.pushedState con' m' id' (requester_cases heq (by rintro ⟨⟩)).2
    pushedRequest := fun con' m' id' heq => h.pushedRequest con' m' id' (requester_cases heq (by rintro ⟨⟩)).2
    failed := fun con' m' id' heq => h.failed con' m' id' (requester_cases heq (by rintro ⟨⟩)).2
    popped := fun con' m' id' heq => h.popped con' m' id' (requester_cases heq (by rintro ⟨⟩)).2
    cover := fun id' hid' => by
      by_cases heq : id' = id
      · exact .inr (.inl (by rw [heq]; exact hmem))
      · exact (h.cover id' hid').imp_left (hrequesting id' heq)
    waiting := fun id' hid' => by
      by_cases heq : id' = id
      · exact .inr (by rw [heq]; exact hsent)
      · exact (h.waiting id' hid').imp_left (hrequesting id' heq)
    closed := fun hst id' hid' => by
      by_cases heq : id' = id
      · exact .inr (by rw [heq]; exact hclosed hst)
      · exact (h.closed hst id' hid').imp_left (hrequesting id' heq)
    flight := fun e he => (h.flight e he).imp_right fun ⟨h₁, h₂⟩ => ⟨h₁, hset h₂⟩
    found := fun p hp => by
      by_cases hid : p.strRequestID = id
      · exact .inl (hfound p hp hid)
      rcases h.found p hp with hfd | hnr | ⟨id', hfl⟩
      · exact .inl hfd
      · exact .inr (.inl hnr)
      · by_cases heq : p.pMes.pConObj = m.pConObj
        · refine .inr (.inl fun hmem' => ?_)
          rw [heq, hreq] at hfl
          injection hfl with hpm
          obtain ⟨r, hr'⟩ := lookup_of_mem hmem'
          rcases h.flight _ (mem_inFlight_of_packet hp) with hfl | ⟨hfl, -⟩
          · rw [← hpm] at hfl
            exact hid (h.inj _ _ _ hfl hl)
          · exact hfl (mem_of_lookup (h.requests _ r hr').2)
        · refine .inr (.inr ⟨id', ?_⟩)
          rw [requester_of_ne heq]
          exact hfl
    dropped := fun e he hnone => hset (h.dropped e he hnone) }

/-- The send fails, or the handler goes on as if it had, until the packet is in flight. -/
theorem failStep (h : s.Inv) (hreq : s.requester con = .pushedRequest m id) :
    (s.setRequester con (.failed m id)).Inv := by
  have hr : (s.requester con).request = some (m, id) := by
    rw [hreq]
    rfl
  obtain ⟨hmem, -⟩ := h.pushedRequest con m id hreq
  have hsame : ∀ con', ((s.setRequester con (.failed m id)).requester con').request =
      (s.requester con').request := request_setRequester hr.symm
  have hrequesting : ∀ id', s.Requesting id' → (s.setRequester con (.failed m id)).Requesting id' :=
    fun _ hr' => hr'.of_request hsame
  have hset : ∀ {m'}, s.Settled m' → (s.setRequester con (.failed m id)).Settled m' :=
    fun hs => hs.of_handler (fun _ => by rw [hreq]; nofun) rfl rfl fun _ => requester_of_ne
  exact { h with
    request := fun con' m' id' hr' => h.request con' m' id' ((hsame con').symm.trans hr')
    pushedState := fun con' m' id' heq => h.pushedState con' m' id' (requester_cases heq (by rintro ⟨⟩)).2
    pushedRequest := fun con' m' id' heq => h.pushedRequest con' m' id' (requester_cases heq (by rintro ⟨⟩)).2
    failed := fun con' m' id' heq => by
      by_cases hcon : con' = con
      · rw [hcon, requester_self] at heq
        cases heq
        exact hmem
      · rw [requester_of_ne hcon] at heq
        exact h.failed con' m' id' heq
    popped := fun con' m' id' heq => h.popped con' m' id' (requester_cases heq (by rintro ⟨⟩)).2
    cover := fun id' hid' => (h.cover id' hid').imp_left (hrequesting id')
    waiting := fun id' hid' => (h.waiting id' hid').imp_left (hrequesting id')
    closed := fun hst id' hid' => (h.closed hst id' hid').imp_left (hrequesting id')
    flight := fun e he => (h.flight e he).imp_right fun ⟨h₁, h₂⟩ => ⟨h₁, hset h₂⟩
    found := fun p hp => by
      rcases h.found p hp with hfd | hnr | hfl
      · exact .inl hfd
      · exact .inr (.inl hnr)
      · exact .inr (.inr (hfl.of_handler (fun _ => by rw [hreq]; nofun) fun _ => requester_of_ne))
    dropped := fun e he hnone => hset (h.dropped e he hnone) }

theorem requestStep (h : s.Inv) (hidle : s.requester con = .idle) (hstate : id ∉ s.mapStateMachine)
    (hreq : id ∉ s.mapRequests) (hfree : s.Free id) (hm : m = ⟨con, s.uiReceived con⟩) :
    ({ s with
      mapStateMachine := s.mapStateMachine.insert id [m]
      uiReceived := Function.update s.uiReceived con (s.uiReceived con + 1) }.setRequester con
        (.pushedState m id)).Inv := by
  have hle : ∀ m' : ClientMes, m'.iSequenceNum < s.uiReceived m'.pConObj → m'.iSequenceNum <
      Function.update s.uiReceived con (s.uiReceived con + 1) m'.pConObj := by
    intro m' hlt
    by_cases heq : m'.pConObj = con
    · rw [heq] at hlt ⊢
      rw [Function.update_self]
      omega
    · rw [Function.update_of_ne heq]
      exact hlt
  have hnew : ∀ m' : ClientMes, m'.iSequenceNum < s.uiReceived m'.pConObj → m' ≠ m := by
    rintro m' hlt rfl
    rw [hm] at hlt
    exact absurd hlt (Nat.lt_irrefl _)
  have hold : ∀ id' m', s.mapStateMachine.lookup id' = some [m'] → id' ≠ id ∧ m' ≠ m ∧
      (s.mapStateMachine.insert id [m]).lookup id' = some [m'] := by
    intro id' m' hl
    have hne : id' ≠ id := by
      rintro rfl
      exact hstate (mem_of_lookup hl)
    obtain ⟨m'', heq, hlt, -⟩ := h.states id' _ hl
    obtain rfl := List.singleton_inj.mp heq
    exact ⟨hne, hnew m' hlt, by rw [AList.lookup_insert_ne hne]; exact hl⟩
  have hcases : ∀ id' l, (s.mapStateMachine.insert id [m]).lookup id' = some l →
      id' = id ∧ l = [m] ∨ id' ≠ id ∧ s.mapStateMachine.lookup id' = some l := by
    intro id' l hl
    by_cases hne : id' = id
    · rw [hne, AList.lookup_insert] at hl
      exact .inl ⟨hne, (Option.some.inj hl).symm⟩
    · rw [AList.lookup_insert_ne hne] at hl
      exact .inr ⟨hne, hl⟩
  have hne : ∀ con', (s.requester con').request ≠ none → con' ≠ con := by
    rintro con' hr rfl
    rw [hidle] at hr
    exact hr rfl
  have hrequesting : ∀ id', s.Requesting id' → ({ s with
      mapStateMachine := s.mapStateMachine.insert id [m]
      uiReceived := Function.update s.uiReceived con (s.uiReceived con + 1) }.setRequester con
        (.pushedState m id)).Requesting id' := by
    rintro id' ⟨con', m', hr'⟩
    refine ⟨con', m', ?_⟩
    rw [requester_of_ne (hne con' (by rw [hr']; exact Option.some_ne_none _))]
    exact hr'
  have hset : ∀ {m'}, s.Settled m' → ({ s with
      mapStateMachine := s.mapStateMachine.insert id [m]
      uiReceived := Function.update s.uiReceived con (s.uiReceived con + 1) }.setRequester con
        (.pushedState m id)).Settled m' := by
    intro m' hs
    refine hs.mono (fun _ hm => hm) (fun a ha => .inr ⟨a, ha, rfl⟩) fun id' hid' => .inr (.inr ⟨id', ?_⟩)
    rw [requester_of_ne (hne _ (by rw [hid']; exact Option.some_ne_none _))]
    exact hid'
  have hno : s.NoAnswer id := by
    rintro a ha hnone rfl
    exact hstate (mem_of_lookup ((h.answer a ha).2.2.1 hnone).1)
  exact { h with
    request := fun con' m' id' hr' => by
      by_cases hcon : con' = con
      · rw [hcon, requester_self] at hr'
        cases hr'
        refine ⟨by rw [hcon, hm], ?_⟩
        exact AList.lookup_insert _
      · rw [requester_of_ne hcon] at hr'
        obtain ⟨h₁, h₂⟩ := h.request con' m' id' hr'
        exact ⟨h₁, (hold id' m' h₂).2.2⟩
    pushedState := fun con' m' id' heq => by
      by_cases hcon : con' = con
      · rw [hcon, requester_self] at heq
        cases heq
        exact ⟨hreq, hfree, hno⟩
      · rw [requester_of_ne hcon] at heq
        exact h.pushedState con' m' id' heq
    pushedRequest := fun con' m' id' heq => h.pushedRequest con' m' id' (requester_cases heq (by rintro ⟨⟩)).2
    failed := fun con' m' id' heq => h.failed con' m' id' (requester_cases heq (by rintro ⟨⟩)).2
    popped := fun con' m' id' heq => h.popped con' m' id' (requester_cases heq (by rintro ⟨⟩)).2
    states := fun id' l hl => by
      rcases hcases id' l hl with ⟨rfl, rfl⟩ | ⟨-, hl⟩
      · refine ⟨m, rfl, ?_, ?_, ?_⟩
        · rw [hm]
          show s.uiReceived con < Function.update s.uiReceived con (s.uiReceived con + 1) con
          rw [Function.update_self]
          omega
        · intro hmem
          exact hnew m (h.completedLt m hmem) rfl
        · intro a ha heq
          exact absurd heq (hnew _ (h.answer a ha).2.1)
      · obtain ⟨m', rfl, hlt, h₂, h₃⟩ := h.states id' l hl
        exact ⟨m', rfl, hle m' hlt, h₂, h₃⟩
    inj := fun id₁ id₂ m' hl₁ hl₂ => by
      rcases hcases id₁ _ hl₁ with ⟨rfl, heq₁⟩ | ⟨hne₁, hold₁⟩
      · rcases hcases id₂ _ hl₂ with ⟨rfl, -⟩ | ⟨-, hold₂⟩
        · rfl
        · exact absurd (List.singleton_inj.mp heq₁) (hold id₂ m' hold₂).2.1
      · rcases hcases id₂ _ hl₂ with ⟨rfl, heq₂⟩ | ⟨-, hold₂⟩
        · exact absurd (List.singleton_inj.mp heq₂) (hold id₁ m' hold₁).2.1
        · exact h.inj id₁ id₂ m' hold₁ hold₂
    requests := fun id' r hr' => by
      obtain ⟨h₁, h₂⟩ := h.requests id' r hr'
      exact ⟨h₁, (hold id' _ h₂).2.2⟩
    cover := fun id' hid' => by
      rcases (AList.mem_insert _).mp hid' with rfl | hid'
      · exact .inl ⟨con, m, by rw [requester_self]; rfl⟩
      · exact (h.cover id' hid').imp_left (hrequesting id')
    waiting := fun id' hid' => (h.waiting id' hid').imp_left (hrequesting id')
    closed := fun hst id' hid' => (h.closed hst id' hid').imp_left (hrequesting id')
    flight := fun e he => by
      rcases h.flight e he with hl | ⟨hl, hs⟩
      · exact .inl (hold e.1 e.2 hl).2.2
      · refine .inr ⟨fun hmem => ?_, hset hs⟩
        rcases (AList.mem_insert _).mp hmem with hmem | hmem
        · exact hfree e he hmem
        · exact hl hmem
    found := fun p hp => by
      rcases h.found p hp with hfd | hnr | ⟨id', hfl⟩
      · exact .inl hfd
      · exact .inr (.inl hnr)
      · refine .inr (.inr ⟨id', ?_⟩)
        rw [requester_of_ne (hne _ (by rw [hfl]; exact Option.some_ne_none _))]
        exact hfl
    answer := fun a ha => by
      obtain ⟨h₁, h₂, h₃, h₄⟩ := h.answer a ha
      exact ⟨h₁, hle _ h₂, fun hnone => ⟨(hold _ _ (h₃ hnone).1).2.2, (h₃ hnone).2⟩, h₄⟩
    dropped := fun e he hnone => hset (h.dropped e he hnone)
    completedLt := fun m' hm' => hle m' (h.completedLt m' hm') }

/-! ### `ReceiveInternalReplyData` -/

theorem answer_of_erase (h : s.Inv) {a : Answer} (ha : a ∈ s.answers) :
    ∀ a' ∈ s.answers.erase a, a' ∈ s.answers ∧ a'.pMes ≠ a.pMes := by
  intro a' ha'
  have hmem := List.mem_of_mem_erase ha'
  refine ⟨hmem, fun heq => ?_⟩
  have hself := List.inj_on_of_nodup_map h.answersOnce hmem ha heq
  rw [hself] at ha'
  exact (List.Nodup.of_map _ h.answersOnce).not_mem_erase ha'

theorem receiveStep (h : s.Inv) {a : Answer} (ha : a ∈ s.answers) (hnone : a.pPrevMes = none) :
    ({ s with
      mapStateMachine := s.mapStateMachine.erase a.strRequestID
      answered := (a.pMes, some a.pMes) :: s.answered
      answers := { a with pPrevMes := some a.pMes } :: s.answers.erase a } : ProxyRequests).Inv := by
  obtain ⟨hnc, hlt, hl, -⟩ := h.answer a ha
  obtain ⟨hl, hnid⟩ := hl hnone
  have hother := h.answer_of_erase ha
  have hset : ∀ {m'}, s.Settled m' → ({ s with
      mapStateMachine := s.mapStateMachine.erase a.strRequestID
      answered := (a.pMes, some a.pMes) :: s.answered
      answers := { a with pPrevMes := some a.pMes } :: s.answers.erase a } : ProxyRequests).Settled m' := by
    intro m' hs
    refine hs.mono (fun _ hm => hm) (fun a' ha' => ?_) fun id' hid' => .inr (.inr ⟨id', hid'⟩)
    by_cases heq : a' = a
    · rw [heq]
      exact .inr ⟨_, List.mem_cons_self, rfl⟩
    · exact .inr ⟨a', List.mem_cons_of_mem _ ((List.mem_erase_of_ne heq).mpr ha'), rfl⟩
  -- a handler with the id would have the request, or no answer
  have hreq : ∀ con' m' id', (s.requester con').request = some (m', id') →
      id' ≠ a.strRequestID := by
    rintro con' m' id' hr rfl
    cases hreq : s.requester con' with
    | idle =>
      rw [hreq] at hr
      cases hr
    | pushedState =>
      rw [hreq] at hr
      cases hr
      exact (h.pushedState _ _ _ hreq).2.2 a ha hnone rfl
    | pushedRequest =>
      rw [hreq] at hr
      cases hr
      exact hnid (h.pushedRequest _ _ _ hreq).1
    | failed =>
      rw [hreq] at hr
      cases hr
      exact hnid (h.failed _ _ _ hreq)
    | poppedRequest =>
      rw [hreq] at hr
      cases hr
      exact (h.popped _ _ _ hreq).2 a ha hnone rfl
  have hno : ∀ id', s.NoAnswer id' → ({ s with
      mapStateMachine := s.mapStateMachine.erase a.strRequestID
      answered := (a.pMes, some a.pMes) :: s.answered
      answers := { a with pPrevMes := some a.pMes } :: s.answers.erase a } : ProxyRequests).NoAnswer id' := by
    intro id' hno a' ha' hnone'
    rcases List.mem_cons.mp ha' with rfl | ha'
    · cases hnone'
    · exact hno a' (hother a' ha').1 hnone'
  exact { h with
    request := fun con' m' id' hr' => by
      obtain ⟨h₁, h₂⟩ := h.request con' m' id' hr'
      refine ⟨h₁, ?_⟩
      show (s.mapStateMachine.erase a.strRequestID).lookup id' = some [m']
      rw [AList.lookup_erase_ne (hreq con' m' id' hr')]
      exact h₂
    pushedState := fun con' m' id' heq => by
      obtain ⟨h₁, h₂, h₃⟩ := h.pushedState con' m' id' heq
      exact ⟨h₁, h₂, hno id' h₃⟩
    popped := fun con' m' id' heq => by
      obtain ⟨h₁, h₂⟩ := h.popped con' m' id' heq
      exact ⟨h₁, hno id' h₂⟩
    states := fun id' l hl' => by
      obtain ⟨hne, hold⟩ := lookup_of_erase hl'
      obtain ⟨m', rfl, h₁, h₂, h₃⟩ := h.states id' l hold
      refine ⟨m', rfl, h₁, h₂, fun a' ha' hm => ?_⟩
      rcases List.mem_cons.mp ha' with rfl | ha'
      · have hm : a.pMes = m' := hm
        rw [← hm] at hold
        exact absurd (h.inj _ _ _ hold hl) hne
      · exact h₃ a' (hother a' ha').1 hm
    inj := fun id₁ id₂ m' hl₁ hl₂ => h.inj id₁ id₂ m' (lookup_of_erase hl₁).2 (lookup_of_erase hl₂).2
    requests := fun id' r hr' => by
      obtain ⟨h₁, h₂⟩ := h.requests id' r hr'
      refine ⟨h₁, ?_⟩
      show (s.mapStateMachine.erase a.strRequestID).lookup id' = some [r.pMes]
      rw [AList.lookup_erase_ne]
      · exact h₂
      · rintro rfl
        exact hnid (mem_of_lookup hr')
    cover := fun id' hid' => by
      obtain ⟨hne, hid'⟩ := AList.mem_erase.mp hid'
      rcases h.cover id' hid' with hr' | hr' | ⟨a', ha', hnone', rfl⟩
      · exact .inl hr'
      · exact .inr (.inl hr')
      · refine .inr (.inr ⟨a', List.mem_cons_of_mem _ ((List.mem_erase_of_ne ?_).mpr ha'), hnone', rfl⟩)
        rintro rfl
        exact hne rfl
    flight := fun e he => by
      by_cases heq : e.1 = a.strRequestID
      · refine .inr ⟨fun hmem => (AList.mem_erase.mp hmem).1 heq, .inr (.inl ⟨_, List.mem_cons_self, ?_⟩)⟩
        rcases h.flight e he with hl' | ⟨hl', -⟩
        · rw [heq, hl] at hl'
          exact List.singleton_inj.mp (Option.some.inj hl')
        · rw [heq] at hl'
          exact absurd (mem_of_lookup hl) hl'
      · rcases h.flight e he with hl' | ⟨hl', hs⟩
        · refine .inl ?_
          show (s.mapStateMachine.erase a.strRequestID).lookup e.1 = some [e.2]
          rw [AList.lookup_erase_ne heq]
          exact hl'
        · exact .inr ⟨fun hmem => hl' (AList.mem_erase.mp hmem).2, hset hs⟩
    answer := fun a' ha' => by
      rcases List.mem_cons.mp ha' with rfl | ha'
      · refine ⟨hnc, hlt, ?_, fun m' hm => (Option.some.inj hm).symm⟩
        rintro ⟨⟩
      · obtain ⟨hmem, hne⟩ := hother a' ha'
        obtain ⟨h₁, h₂, h₃, h₄⟩ := h.answer a' hmem
        refine ⟨h₁, h₂, fun hnone' => ⟨?_, (h₃ hnone').2⟩, h₄⟩
        show (s.mapStateMachine.erase a.strRequestID).lookup a'.strRequestID = some [a'.pMes]
        rw [AList.lookup_erase_ne]
        · exact (h₃ hnone').1
        · intro heq
          have hl' := (h₃ hnone').1
          rw [heq, hl] at hl'
          exact hne (List.singleton_inj.mp (Option.some.inj hl')).symm
    answersOnce := by
      refine List.nodup_cons.mpr ⟨fun hmem => ?_, ?_⟩
      · obtain ⟨a', ha', heq⟩ := List.mem_map.mp hmem
        exact (hother a' ha').2 heq
      · exact h.answersOnce.sublist (List.Sublist.map _ List.erase_sublist)
    detached := fun hatt => absurd hnone ((h.detached hatt).2 a ha)
    delivered := fun e he m' hm => by
      rcases List.mem_cons.mp he with rfl | he
      · exact (Option.some.inj hm).symm
      · exact h.delivered e he m' hm
    dropped := fun e he hnone' => by
      rcases List.mem_cons.mp he with rfl | he
      · cases hnone'
      · exact hset (h.dropped e he hnone') }

theorem completeStep (h : s.Inv) {a : Answer} (ha : a ∈ s.answers) {pPrevMes : ClientMes}
    (hp : a.pPrevMes = some pPrevMes) :
    ({ s with answers := s.answers.erase a, completed := pPrevMes :: s.completed } : ProxyRequests).Inv := by
  obtain ⟨hnc, hlt, -, hm⟩ := h.answer a ha
  obtain rfl := hm pPrevMes hp
  have hother := h.answer_of_erase ha
  have hset : ∀ {m'}, s.Settled m' → ({ s with
      answers := s.answers.erase a
      completed := a.pMes :: s.completed } : ProxyRequests).Settled m' := by
    intro m' hs
    refine hs.mono (fun _ hm => List.mem_cons_of_mem _ hm) (fun a' ha' => ?_) fun id' hid' => .inr (.inr ⟨id', hid'⟩)
    by_cases heq : a' = a
    · rw [heq]
      exact .inl List.mem_cons_self
    · exact .inr ⟨a', (List.mem_erase_of_ne heq).mpr ha', rfl⟩
  have hno : ∀ id', s.NoAnswer id' → ({ s with
      answers := s.answers.erase a
      completed := a.pMes :: s.completed } : ProxyRequests).NoAnswer id' :=
    fun id' hno a' ha' => hno a' (hother a' ha').1
  exact { h with
    pushedState := fun con' m' id' heq => by
      obtain ⟨h₁, h₂, h₃⟩ := h.pushedState con' m' id' heq
      exact ⟨h₁, h₂, hno id' h₃⟩
    popped := fun con' m' id' heq => by
      obtain ⟨h₁, h₂⟩ := h.popped con' m' id' heq
      exact ⟨h₁, hno id' h₂⟩
    states := fun id' l hl' => by
      obtain ⟨m', rfl, h₁, h₂, h₃⟩ := h.states id' l hl'
      refine ⟨m', rfl, h₁, fun hmem => ?_, fun a' ha' => h₃ a' (hother a' ha').1⟩
      rcases List.mem_cons.mp hmem with rfl | hmem
      · rw [(h₃ a ha rfl).1] at hp
        cases hp
      · exact h₂ hmem
    cover := fun id' hid' => by
      rcases h.cover id' hid' with hr' | hr' | ⟨a', ha', hnone', rfl⟩
      · exact .inl hr'
      · exact .inr (.inl hr')
      · refine .inr (.inr ⟨a', (List.mem_erase_of_ne ?_).mpr ha', hnone', rfl⟩)
        rintro rfl
        rw [hnone'] at hp
        cases hp
    flight := fun e he => (h.flight e he).imp_right fun ⟨h₁, h₂⟩ => ⟨h₁, hset h₂⟩
    answer := fun a' ha' => by
      obtain ⟨hmem, hne⟩ := hother a' ha'
      obtain ⟨h₁, h₂, h₃, h₄⟩ := h.answer a' hmem
      refine ⟨fun hmem => ?_, h₂, h₃, h₄⟩
      rcases List.mem_cons.mp hmem with heq | hmem
      · exact hne heq
      · exact h₁ hmem
    answersOnce := h.answersOnce.sublist (List.Sublist.map _ List.erase_sublist)
    detached := fun hatt => ⟨(h.detached hatt).1, fun a' ha' => (h.detached hatt).2 a' (hother a' ha').1⟩
    dropped := fun e he hnone' => hset (h.dropped e he hnone')
    once := List.nodup_cons.mpr ⟨hnc, h.once⟩
    completedLt := fun m' hm' => by
      rcases List.mem_cons.mp hm' with rfl | hm'
      · exact hlt
      · exact h.completedLt m' hm' }

/-! ### `SendPacketData` -/

/-- The packet of the handler, and its task, are in flight; the handler counts as failing. -/
theorem launch (h : s.Inv) (hreq : s.requester con = .pushedRequest m id) (mapRPCObj : List String)
    {packets prepareTasks : List ProxyPacket} {connectTasks : List ConnectTask}
    (hrpc : ∀ id' ≠ id, id' ∈ s.mapRPCObj → id' ∈ mapRPCObj)
    (hp : ∀ p ∈ packets ++ prepareTasks, p ∈ s.packets ++ s.prepareTasks ∨ p = ⟨id, s.byObjectID, m⟩)
    (ht : ∀ t ∈ connectTasks, t ∈ s.connectTasks ∨ t = ⟨id, m⟩)
    (hpackets : s.packets ⊆ packets) (hprepare : s.prepareTasks ⊆ prepareTasks)
    (hconnect : s.connectTasks ⊆ connectTasks) :
    (({ s with mapRPCObj := mapRPCObj }.setFlight packets prepareTasks connectTasks s.nState).setRequester con
      (.failed m id)).Inv := by
  have hfree := (h.pushedRequest con m id hreq).2
  have h₀ := h.failStep hreq
  have h₁ := h₀.setObjects mapRPCObj (fun _ hg _ => hg) ?_ h₀.aligned
  · have hcon : m.pConObj = con := (h.request con m id (by rw [hreq]; rfl)).1
    have hself : (s.setRequester con (.failed m id)).requester m.pConObj = .failed m id := by
      rw [hcon]
      exact requester_self
    refine h₁.setFlight (fun p hmem => ?_) (fun t hmem => ?_) (fun id' _ hsent => ?_) fun hst id' hid' => ?_
    · refine (hp p hmem).imp_right ?_
      rintro rfl
      exact hself
    · refine (ht t hmem).imp_right ?_
      rintro rfl
      exact hself
    · obtain ⟨p, hmem, rfl⟩ := hsent
      refine ⟨p, ?_, rfl⟩
      rcases List.mem_append.mp hmem with hmem | hmem
      · exact List.mem_append_left _ (hpackets hmem)
      · exact List.mem_append_right _ (hprepare hmem)
    · refine (h₀.closed hst id' hid').imp_right ?_
      rintro (⟨p, hmem, rfl⟩ | ⟨t, hmem, rfl⟩)
      · exact .inl ⟨p, hprepare hmem, rfl⟩
      · exact .inr ⟨t, hconnect hmem, rfl⟩
  · intro p hmem hid hnot
    exact absurd (hrpc _ (hfree _ (mem_inFlight_of_packet hmem)) hid) hnot

/-- The packet is in flight and can be answered: the handler returns. -/
theorem launched (h : s.Inv) (hreq : s.requester con = .pushedRequest m id) (hatt : s.pAttachedConnection = true)
    {packets prepareTasks : List ProxyPacket}
    {connectTasks : List ConnectTask}
    (hp : ∀ p ∈ packets ++ prepareTasks, p ∈ s.packets ++ s.prepareTasks ∨ p = ⟨id, s.byObjectID, m⟩)
    (ht : ∀ t ∈ connectTasks, t ∈ s.connectTasks ∨ t = ⟨id, m⟩)
    (hpackets : s.packets ⊆ packets) (hprepare : s.prepareTasks ⊆ prepareTasks)
    (hconnect : s.connectTasks ⊆ connectTasks)
    (hmem : (⟨id, s.byObjectID, m⟩ : ProxyPacket) ∈ packets ++ prepareTasks)
    (hclosed : s.nState = .closed → (⟨id, s.byObjectID, m⟩ : ProxyPacket) ∈ prepareTasks) :
    (({ s with mapRPCObj := if s.bAlignedIDWithServer then s.mapRPCObj else s.mapRPCObj.insert id }.setFlight
      packets prepareTasks connectTasks s.nState).setRequester con .idle).Inv := by
  have hfree := (h.pushedRequest con m id hreq).2
  have h₁ := h.launch hreq (if s.bAlignedIDWithServer then s.mapRPCObj else s.mapRPCObj.insert id) (by
      intro id' _ hid'
      split
      · exact hid'
      · exact List.mem_insert_of_mem hid') hp ht hpackets hprepare hconnect
  have h₂ := h₁.idleStep requester_self ⟨_, hmem, rfl⟩ ?_ fun hst => .inl ⟨_, hclosed hst, rfl⟩
  · rw [show ∀ u : ProxyRequests, (u.setRequester con (.failed m id)).setRequester con .idle =
      u.setRequester con .idle from fun u => by simp only [setRequester, Function.update_idem]] at h₂
    exact h₂
  · intro p hmem' hid
    rcases hp p hmem' with hold | rfl
    · exact absurd hid (hfree _ (mem_inFlight_of_packet hold))
    · have hal := h.aligned hatt
      by_cases hb : s.bAlignedIDWithServer
      · rw [if_pos hb] at hal
        exact .inl hal
      · refine .inr ?_
        show id ∈ if s.bAlignedIDWithServer then s.mapRPCObj else s.mapRPCObj.insert id
        rw [if_neg hb]
        exact List.mem_insert_self

theorem sendStep (h : s.Inv) (hreq : s.requester con = .pushedRequest m id) {result : PacketResult} {bTask : Bool}
    (hatt : s.pAttachedConnection = true) (hsend : s.CanSend result) :
    (s.sendPacketData con m id result bTask).Inv := by
  have hpacket : ∀ p ∈ (⟨id, s.byObjectID, m⟩ :: s.packets) ++ s.prepareTasks,
      p ∈ s.packets ++ s.prepareTasks ∨ p = ⟨id, s.byObjectID, m⟩ := by
    intro p hp
    rcases List.mem_cons.mp hp with hp | hp
    · exact .inr hp
    · exact .inl hp
  have hprepare : ∀ p ∈ s.packets ++ (⟨id, s.byObjectID, m⟩ :: s.prepareTasks),
      p ∈ s.packets ++ s.prepareTasks ∨ p = ⟨id, s.byObjectID, m⟩ := by
    intro p hp
    rcases List.mem_append.mp hp with hp | hp
    · exact .inl (List.mem_append_left _ hp)
    · rcases List.mem_cons.mp hp with hp | hp
      · exact .inr hp
      · exact .inl (List.mem_append_right _ hp)
  have hconnect : ∀ t ∈ (⟨id, m⟩ : ConnectTask) :: s.connectTasks, t ∈ s.connectTasks ∨ t = ⟨id, m⟩ := by
    intro t ht
    rcases List.mem_cons.mp ht with ht | ht
    · exact .inr ht
    · exact .inl ht
  have herase : ∀ id' ≠ id, id' ∈ s.mapRPCObj →
      id' ∈ if s.bAlignedIDWithServer then s.mapRPCObj else (s.mapRPCObj.insert id).erase id := by
    intro id' hne hid'
    split
    · exact hid'
    · exact (List.mem_erase_of_ne hne).mpr (List.mem_insert_of_mem hid')
  -- the ways to fail
  have hfail : ∀ packets prepareTasks,
      (∀ p ∈ packets ++ prepareTasks, p ∈ s.packets ++ s.prepareTasks ∨ p = ⟨id, s.byObjectID, m⟩) →
      s.packets ⊆ packets → s.prepareTasks ⊆ prepareTasks →
      (({ s with mapRPCObj := if s.bAlignedIDWithServer then s.mapRPCObj else
        (s.mapRPCObj.insert id).erase id }.setFlight packets prepareTasks s.connectTasks s.nState).setRequester con
          (.failed m id)).Inv :=
    fun packets prepareTasks hp h₁ h₂ => h.launch hreq _ herase hp (fun t ht => .inl ht) h₁ h₂ (List.Subset.refl _)
  -- the packet is on its way, and only a task that is missing makes the call fail
  have hpushed : ∀ {packets prepareTasks},
      (∀ p ∈ packets ++ prepareTasks, p ∈ s.packets ++ s.prepareTasks ∨ p = ⟨id, s.byObjectID, m⟩) →
      s.packets ⊆ packets → s.prepareTasks ⊆ prepareTasks →
      (⟨id, s.byObjectID, m⟩ : ProxyPacket) ∈ packets ++ prepareTasks →
      (s.nState = .closed → (⟨id, s.byObjectID, m⟩ : ProxyPacket) ∈ prepareTasks) →
      ProxyRequests.Inv (if s.nState = .creating then
        if bTask then
          ({ s with mapRPCObj := if s.bAlignedIDWithServer then s.mapRPCObj else s.mapRPCObj.insert id }.setFlight
            packets prepareTasks (⟨id, m⟩ :: s.connectTasks) s.nState).setRequester con .idle
        else ({ s with mapRPCObj := if s.bAlignedIDWithServer then s.mapRPCObj else
          (s.mapRPCObj.insert id).erase id }.setFlight packets prepareTasks s.connectTasks s.nState).setRequester con
            (.failed m id)
      else ({ s with mapRPCObj := if s.bAlignedIDWithServer then s.mapRPCObj else s.mapRPCObj.insert id }.setFlight
        packets prepareTasks s.connectTasks s.nState).setRequester con .idle) := by
    intro packets prepareTasks hp h₁ h₂ hmem hclosed
    split
    · split
      · exact h.launched hreq hatt hp hconnect h₁ h₂ (List.subset_cons_self _ _) hmem hclosed
      · exact hfail _ _ hp h₁ h₂
    · exact h.launched hreq hatt hp (fun t ht => .inl ht) h₁ h₂ (List.Subset.refl _) hmem hclosed
  cases result with
  | failed bKept =>
    cases bKept with
    | true =>
      have h₁ := hfail _ _ hpacket (List.subset_cons_self _ _) (List.Subset.refl _)
      unfold sendPacketData
      by_cases hb : s.bAlignedIDWithServer
      · simp only [hb, if_true] at h₁ ⊢
        exact h₁
      · simp only [hb, Bool.false_eq_true, if_false] at h₁ ⊢
        exact h₁
    | false =>
      have h₁ := hfail s.packets s.prepareTasks (fun p hp => .inl hp) (List.Subset.refl _) (List.Subset.refl _)
      unfold sendPacketData
      by_cases hb : s.bAlignedIDWithServer
      · rw [if_pos hb] at h₁
        simp only [hb, if_true]
        exact h₁
      · simp only [hb, Bool.false_eq_true, if_false] at h₁ ⊢
        exact h₁
  | sent =>
    have hne : s.nState ≠ .closed := hsend.2
    have h₁ := hpushed hpacket (List.subset_cons_self _ _) (List.Subset.refl _)
      (List.mem_append_left _ List.mem_cons_self) fun hst => absurd hst hne
    unfold sendPacketData
    by_cases hb : s.bAlignedIDWithServer
    · simp only [hb, if_true] at h₁ ⊢
      exact h₁
    · simp only [hb, Bool.false_eq_true, if_false] at h₁ ⊢
      exact h₁
  | prepared =>
    have h₁ := hpushed hprepare (List.Subset.refl _) (List.subset_cons_self _ _)
      (List.mem_append_right _ List.mem_cons_self) fun _ => List.mem_cons_self
    unfold sendPacketData
    by_cases hb : s.bAlignedIDWithServer
    · simp only [hb, if_true] at h₁ ⊢
      exact h₁
    · simp only [hb, Bool.false_eq_true, if_false] at h₁ ⊢
      exact h₁

/-! ### Replies and errors -/

theorem answer_setFlight {packets prepareTasks : List ProxyPacket} {connectTasks : List ConnectTask}
    {st : ConnectionState} : (s.setFlight packets prepareTasks connectTasks st).answer bReply id m =
      (s.answer bReply id m).setFlight packets prepareTasks connectTasks st := by
  unfold ProxyRequests.answer popRequest ProxyRequests.setFlight
  cases s.mapRequests.lookup id <;> rfl

/-- An answer does not touch what the packets are looked up with. -/
theorem answer_setObjects {byObjectID : String} {mapObjects mapRPCObj : List String} {bAligned : Bool} :
    ({ s with
      byObjectID := byObjectID
      mapObjects := mapObjects
      mapRPCObj := mapRPCObj
      bAlignedIDWithServer := bAligned } : ProxyRequests).answer bReply id m =
    { s.answer bReply id m with
      byObjectID := byObjectID
      mapObjects := mapObjects
      mapRPCObj := mapRPCObj
      bAlignedIDWithServer := bAligned } := by
  unfold ProxyRequests.answer popRequest
  cases s.mapRequests.lookup id <;> rfl

theorem answer_frame (s : ProxyRequests) (bReply : Bool) (id : String) (m : ClientMes) :
    (s.answer bReply id m).packets = s.packets ∧
    (s.answer bReply id m).prepareTasks = s.prepareTasks ∧ (s.answer bReply id m).connectTasks = s.connectTasks ∧
    (s.answer bReply id m).nState = s.nState ∧ (s.answer bReply id m).mapRPCObj = s.mapRPCObj ∧
    (s.answer bReply id m).mapObjects = s.mapObjects ∧ (s.answer bReply id m).strObjectGuid = s.strObjectGuid ∧
    (s.answer bReply id m).strClassGuid = s.strClassGuid ∧
    (s.answer bReply id m).bUniqueInstance = s.bUniqueInstance ∧
    (s.answer bReply id m).pAttachedConnection = s.pAttachedConnection := by
  unfold ProxyRequests.answer popRequest
  cases s.mapRequests.lookup id <;> exact ⟨rfl, rfl, rfl, rfl, rfl, rfl, rfl, rfl, rfl, rfl⟩

/-- The packet or the task whose request is gone leaves, and may leave a packet behind. -/
theorem dropFlight (h : s.Inv) {p : ProxyPacket} (hp : p ∈ s.packets ++ s.prepareTasks)
    (hid : p.strRequestID ∉ s.mapRequests) (packets prepareTasks : List ProxyPacket)
    (hsub : ∀ q ∈ packets ++ prepareTasks, q ∈ s.packets ++ s.prepareTasks)
    (hpackets : ∀ q ∈ s.packets, q ≠ p → q ∈ packets) (hprepare : ∀ q ∈ s.prepareTasks, q ≠ p → q ∈ prepareTasks) :
    (s.setFlight packets prepareTasks s.connectTasks s.nState).Inv := by
  have hne : ∀ id ∈ s.mapRequests, ∀ q : ProxyPacket, q.strRequestID = id → q ≠ p := by
    rintro id hid' q rfl rfl
    exact hid hid'
  refine h.setFlight (fun q hq => .inl (hsub q hq)) (fun t ht => .inl ht) (fun id' hid' => ?_) fun hst id' hid' => ?_
  · rintro ⟨q, hq, hqid⟩
    refine ⟨q, ?_, hqid⟩
    rcases List.mem_append.mp hq with hq | hq
    · exact List.mem_append_left _ (hpackets q hq (hne id' hid' q hqid))
    · exact List.mem_append_right _ (hprepare q hq (hne id' hid' q hqid))
  · refine (h.closed hst id' hid').imp_right ?_
    rintro (⟨q, hq, hqid⟩ | ht)
    · exact .inl ⟨q, hprepare q hq (hne id' hid' q hqid), hqid⟩
    · exact .inr ht

theorem answerPacket (h : s.Inv) (bReply : Bool) {p : ProxyPacket} (hp : p ∈ s.packets ++ s.prepareTasks)
    (hk : ¬ s.Failing p.pMes) (packets prepareTasks : List ProxyPacket)
    (hsub : ∀ q ∈ packets ++ prepareTasks, q ∈ s.packets ++ s.prepareTasks)
    (hpackets : ∀ q ∈ s.packets, q ≠ p → q ∈ packets) (hprepare : ∀ q ∈ s.prepareTasks, q ≠ p → q ∈ prepareTasks) :
    ((s.setFlight packets prepareTasks s.connectTasks s.nState).answer bReply p.strRequestID p.pMes).Inv ∧
      p.strRequestID ∉
        ((s.setFlight packets prepareTasks s.connectTasks s.nState).answer bReply p.strRequestID p.pMes).mapRequests := by
  obtain ⟨h₁, hid⟩ := h.answerIt bReply (mem_inFlight_of_packet hp) hk
  obtain ⟨hp₁, hp₂, hp₃, hp₄, -⟩ := answer_frame s bReply p.strRequestID p.pMes
  have h₂ := h₁.dropFlight (p := p) (by rw [hp₁, hp₂]; exact hp) hid packets prepareTasks
    (by rw [hp₁, hp₂]; exact hsub) (by rw [hp₁]; exact hpackets) (by rw [hp₂]; exact hprepare)
  rw [hp₃, hp₄] at h₂
  rw [answer_setFlight]
  exact ⟨h₂, hid⟩

/-- The id is taken out of `m_mapRPCObj` with the answer, and the remote server's object may become known. -/
theorem answerPopped (h : (s.answer bReply id m).Inv) (hid : id ∉ (s.answer bReply id m).mapRequests)
    {byObjectID : String} {mapObjects : List String} {bAligned : Bool}
    (hobj : ∀ g ∈ s.mapObjects, g ≠ s.strObjectGuid → g ∈ mapObjects)
    (hal : s.pAttachedConnection = true → if bAligned then byObjectID ∈ mapObjects ∧ byObjectID ≠ s.strObjectGuid ∧
        (byObjectID = s.strClassGuid → s.bUniqueInstance = true)
      else byObjectID = s.strClassGuid) :
    (({ s with
      byObjectID := byObjectID
      mapObjects := mapObjects
      mapRPCObj := s.mapRPCObj.erase id
      bAlignedIDWithServer := bAligned } : ProxyRequests).answer bReply id m).Inv := by
  obtain ⟨-, -, -, -, hrpc, hobj', hown, hclass, huni, hatt⟩ := answer_frame s bReply id m
  rw [answer_setObjects]
  refine h.setObjects _ (by rw [hobj', hown]; exact hobj) ?_ (by rw [hown, hclass, huni, hatt]; exact hal)
  intro p _ hmem hnot
  rw [hrpc] at hmem
  refine .inl ?_
  by_cases heq : p.strRequestID = id
  · rw [heq]
    exact hid
  · exact absurd ((List.mem_erase_of_ne heq).mpr hmem) hnot

theorem notFound (h : s.Inv) {p : ProxyPacket} (hp : p ∈ s.packets ++ s.prepareTasks) (hk : ¬ s.Failing p.pMes)
    (hnf : ¬ s.Found p) : p.strRequestID ∉ s.mapRequests ∧ s.Settled p.pMes := by
  have hid : p.strRequestID ∉ s.mapRequests := by
    rcases h.found p hp with hf | hid | hf
    · exact absurd hf hnf
    · exact hid
    · exact absurd hf hk
  exact ⟨hid, h.settled_of_flight (mem_inFlight_of_packet hp) hid⟩

theorem replyStep (h : s.Inv) {p : ProxyPacket} {g : String} (hp : p ∈ s.packets) (hg : s.IsReplyGuid p g)
    (hk : ¬ s.Failing p.pMes) :
    (answerFound ({ s with packets := s.packets.erase p }.findReplyObject g p.strRequestID) true p).Inv := by
  have hmem : p ∈ s.packets ++ s.prepareTasks := List.mem_append_left _ hp
  have hsub : ∀ q ∈ s.packets.erase p ++ s.prepareTasks, q ∈ s.packets ++ s.prepareTasks := by
    intro q hq
    rcases List.mem_append.mp hq with hq | hq
    · exact List.mem_append_left _ (List.mem_of_mem_erase hq)
    · exact List.mem_append_right _ hq
  have herase : ∀ q ∈ s.packets, q ≠ p → q ∈ s.packets.erase p := fun q hq hne => (List.mem_erase_of_ne hne).mpr hq
  obtain ⟨h₁, hid⟩ := h.answerPacket true hmem hk (s.packets.erase p) s.prepareTasks hsub herase fun q hq _ => hq
  obtain ⟨hne, hguid⟩ := hg
  unfold findReplyObject
  by_cases hgm : g ∈ s.mapObjects
  · rw [if_pos hgm]
    exact h₁
  by_cases hrid : p.strRequestID ∈ s.mapRPCObj
  · rw [if_neg hgm, if_pos hrid]
    refine answerPopped h₁ hid (fun g' hg' hne' => ?_) fun _ => ?_
    · exact List.mem_cons_of_mem _ ((List.mem_erase_of_ne hne').mpr hg')
    · rw [if_pos rfl]
      refine ⟨List.mem_cons_self, hne, fun hclass => ?_⟩
      by_cases hpc : p.strObjectGuid = s.strClassGuid
      · rw [if_pos hpc] at hguid
        exact hguid.trans (decide_eq_true hclass)
      · rw [if_neg hpc] at hguid
        exact absurd (hguid.symm.trans hclass) hpc
  · rw [if_neg hgm, if_neg hrid]
    have hnf : ¬ s.Found p := by
      rintro (⟨hobj, hown, huni⟩ | hid)
      · by_cases hclass : p.strObjectGuid = s.strClassGuid
        · rw [if_pos hclass, huni hclass] at hguid
          have hgc : g = s.strClassGuid := of_decide_eq_true hguid.symm
          rw [hgc, ← hclass] at hgm
          exact hgm hobj
        · rw [if_neg hclass] at hguid
          rw [hguid] at hgm
          exact hgm hobj
      · exact hrid hid
    obtain ⟨hid, hs⟩ := h.notFound hmem hk hnf
    exact (h.dropFlight hmem hid (s.packets.erase p) s.prepareTasks hsub herase fun q hq _ => hq).drop hs

/-! ### Tasks -/

theorem preparedSent (h : s.Inv) {p : ProxyPacket} (hp : p ∈ s.prepareTasks) (hst : s.nState ≠ .closed) :
    (s.setFlight (p :: s.packets) (s.prepareTasks.erase p) s.connectTasks s.nState).Inv := by
  refine h.setFlight (fun q hq => .inl ?_) (fun t ht => .inl ht) (fun id' _ => ?_) fun hcl => absurd hcl hst
  · rcases List.mem_append.mp hq with hq | hq
    · rcases List.mem_cons.mp hq with rfl | hq
      · exact List.mem_append_right _ hp
      · exact List.mem_append_left _ hq
    · exact List.mem_append_right _ (List.mem_of_mem_erase hq)
  · rintro ⟨q, hq, hqid⟩
    refine ⟨q, ?_, hqid⟩
    rcases List.mem_append.mp hq with hq | hq
    · exact List.mem_append_left _ (List.mem_cons_of_mem _ hq)
    · by_cases heq : q = p
      · rw [heq]
        exact List.mem_append_left _ List.mem_cons_self
      · exact List.mem_append_right _ ((List.mem_erase_of_ne heq).mpr hq)

/-- The task could not send it; the packet may be in the sending list all the same. -/
theorem preparedFailed (h : s.Inv) {p : ProxyPacket} (hp : p ∈ s.prepareTasks) (hk : ¬ s.Failing p.pMes)
    {packets : List ProxyPacket} (hpackets : packets = s.packets ∨ packets = p :: s.packets) :
    (answerFound ((s.setFlight packets (s.prepareTasks.erase p) s.connectTasks s.nState).findSendObject
      p.strObjectGuid p.strRequestID) false p).Inv := by
  have hmem : p ∈ s.packets ++ s.prepareTasks := List.mem_append_right _ hp
  have hsub : ∀ q ∈ packets ++ s.prepareTasks.erase p, q ∈ s.packets ++ s.prepareTasks := by
    intro q hq
    rcases List.mem_append.mp hq with hq | hq
    · rcases hpackets with rfl | rfl
      · exact List.mem_append_left _ hq
      · rcases List.mem_cons.mp hq with rfl | hq
        · exact hmem
        · exact List.mem_append_left _ hq
    · exact List.mem_append_right _ (List.mem_of_mem_erase hq)
  have hkeep : ∀ q ∈ s.packets, q ≠ p → q ∈ packets := by
    rintro q hq -
    rcases hpackets with rfl | rfl
    · exact hq
    · exact List.mem_cons_of_mem _ hq
  have herase : ∀ q ∈ s.prepareTasks, q ≠ p → q ∈ s.prepareTasks.erase p :=
    fun q hq hne => (List.mem_erase_of_ne hne).mpr hq
  obtain ⟨h₁, hid⟩ := h.answerPacket false hmem hk packets (s.prepareTasks.erase p) hsub hkeep herase
  unfold findSendObject
  by_cases hgm : p.strObjectGuid ∈ (s.setFlight packets (s.prepareTasks.erase p) s.connectTasks s.nState).mapObjects
  · rw [if_pos hgm]
    exact h₁
  rw [if_neg hgm]
  by_cases hrid : p.strRequestID ∈ (s.setFlight packets (s.prepareTasks.erase p) s.connectTasks s.nState).mapRPCObj
  · rw [if_pos hrid]
    exact answerPopped h₁ hid (fun g hg _ => hg) h.aligned
  · rw [if_neg hrid]
    have hnf : ¬ s.Found p := by
      rintro (⟨hobj, -⟩ | hid)
      · exact hgm hobj
      · exact hrid hid
    obtain ⟨hid, hs⟩ := h.notFound hmem hk hnf
    exact (h.dropFlight hmem hid packets (s.prepareTasks.erase p) hsub hkeep herase).drop hs

theorem dropTask (h : s.Inv) (t : ConnectTask) (st : ConnectionState)
    (hclosed : st = .closed → ∀ id ∈ s.mapRequests, s.Requesting id ∨
      (∃ p ∈ s.prepareTasks, p.strRequestID = id) ∨ ∃ t' ∈ s.connectTasks.erase t, t'.strRequestID = id) :
    (s.setFlight s.packets s.prepareTasks (s.connectTasks.erase t) st).Inv :=
  h.setFlight (fun _ hq => .inl hq) (fun _ ht => .inl (List.mem_of_mem_erase ht)) (fun _ _ hsent => hsent) hclosed

/-- A packet that waits has its connect task, if the connection may be closed. -/
theorem inTask_of_keepsClose (h : s.Inv) (hk : s.KeepsClose) (hid : id ∈ s.mapRequests) :
    s.Requesting id ∨ s.InTask id := by
  refine (h.waiting id hid).imp_right ?_
  rintro ⟨p, hp, rfl⟩
  rcases List.mem_append.mp hp with hp | hp
  · exact .inr (hk p hp hid)
  · exact .inl ⟨p, hp, rfl⟩

theorem taskError (h : s.Inv) {t : ConnectTask} (ht : t ∈ s.connectTasks) (hk : ¬ s.Failing t.pMes)
    {st : ConnectionState} (hclosed : st = .closed → s.nState = .closed ∨ s.KeepsClose) :
    ((s.setFlight s.packets s.prepareTasks (s.connectTasks.erase t) st).answer false t.strRequestID t.pMes).Inv := by
  obtain ⟨h₁, hid⟩ := h.answerIt false (mem_inFlight_of_task ht) hk
  obtain ⟨hp₁, hp₂, hp₃, -⟩ := answer_frame s false t.strRequestID t.pMes
  have hold : ∀ id' ∈ (s.answer false t.strRequestID t.pMes).mapRequests,
      id' ∈ s.mapRequests ∧ id' ≠ t.strRequestID := by
    intro id' hid'
    refine ⟨?_, ?_⟩
    · unfold ProxyRequests.answer popRequest at hid'
      cases hl : s.mapRequests.lookup t.strRequestID with
      | none =>
        rw [hl] at hid'
        exact (AList.mem_erase.mp hid').2
      | some r =>
        rw [hl] at hid'
        exact (AList.mem_erase.mp hid').2
    · rintro rfl
      exact hid hid'
  have hreq : ∀ id', s.Requesting id' → (s.answer false t.strRequestID t.pMes).Requesting id' := by
    rintro id' hr
    unfold ProxyRequests.answer popRequest
    cases s.mapRequests.lookup t.strRequestID <;> exact hr
  have h₂ := h₁.dropTask t st ?_
  · rw [hp₁, hp₂, hp₃, ← answer_setFlight] at h₂
    exact h₂
  · intro hst id' hid'
    rw [hp₂, hp₃]
    obtain ⟨hid', hne⟩ := hold id' hid'
    have hin : s.Requesting id' ∨ s.InTask id' := by
      rcases hclosed hst with hst | hkc
      · exact h.closed hst id' hid'
      · exact h.inTask_of_keepsClose hkc hid'
    rcases hin with hr | hp | ⟨t', ht', rfl⟩
    · exact .inl (hreq id' hr)
    · exact .inr (.inl hp)
    · refine .inr (.inr ⟨t', (List.mem_erase_of_ne ?_).mpr ht', rfl⟩)
      rintro rfl
      exact hne rfl

/-! ### All steps -/

theorem step {a : Action} (h : s.Inv) (hk : s.Keeps a) (hs : s.step a = some s') : s'.Inv := by
  cases a with
  | request con strRequestID =>
    obtain ⟨hstate, hreq, hfree⟩ := hk
    obtain ⟨⟨hidle, -⟩, hs⟩ := Option.ite_none_right_eq_some.mp hs
    cases hs
    have hpush : s.pushState strRequestID ⟨con, s.uiReceived con⟩ =
        { s with mapStateMachine := s.mapStateMachine.insert strRequestID [⟨con, s.uiReceived con⟩] } := by
      unfold ProxyRequests.pushState
      rw [AList.lookup_eq_none.mpr hstate]
    rw [hpush]
    exact h.requestStep hidle hstate hreq hfree rfl
  | pushRequest con =>
    unfold ProxyRequests.step at hs
    cases hr : s.requester con with
    | pushedState m id =>
      simp only [hr] at hs
      by_cases hatt : s.pAttachedConnection = true
      swap
      · rw [if_neg hatt] at hs
        cases hs
        exact h.refusedStep hr
      rw [if_pos hatt] at hs
      cases hs
      have hpush : s.pushRequest ⟨id, m⟩ = { s with mapRequests := s.mapRequests.insert id ⟨id, m⟩ } := by
        unfold ProxyRequests.pushRequest
        rw [if_neg (h.pushedState con m id hr).1]
      rw [hpush]
      exact h.pushRequestStep hr hatt
    | idle | pushedRequest | failed | poppedRequest =>
      simp only [hr] at hs
      cases hs
  | sendPacketData con result bTask =>
    unfold ProxyRequests.step at hs
    cases hr : s.requester con with
    | pushedRequest m id =>
      simp only [hr] at hs
      obtain ⟨⟨hatt, hsend⟩, hs⟩ := Option.ite_none_right_eq_some.mp hs
      cases hs
      exact h.sendStep hr hatt hsend
    | idle | pushedState | failed | poppedRequest =>
      simp only [hr] at hs
      cases hs
  | popRequest con =>
    unfold ProxyRequests.step at hs
    cases hr : s.requester con with
    | failed m id =>
      simp only [hr] at hs
      cases hs
      exact h.popRequestStep hr
    | idle | pushedState | pushedRequest | poppedRequest =>
      simp only [hr] at hs
      cases hs
  | popState con =>
    unfold ProxyRequests.step at hs
    cases hr : s.requester con with
    | poppedRequest m id =>
      simp only [hr] at hs
      cases hs
      have hl := (h.request con m id (by rw [hr]; rfl)).2
      have hpop : (s.popState id).1 = { s with mapStateMachine := s.mapStateMachine.erase id } := by
        unfold ProxyRequests.popState
        rw [hl]
        rfl
      rw [hpop]
      exact h.popStateStep hr
    | idle | pushedState | pushedRequest | failed =>
      simp only [hr] at hs
      cases hs
  | reply p g =>
    obtain ⟨⟨hp, -, hg⟩, hs⟩ := Option.ite_none_right_eq_some.mp hs
    cases hs
    exact h.replyStep hp hg hk
  | prepareTask p result =>
    obtain ⟨⟨hp, hne, hsend⟩, hs⟩ := Option.ite_none_right_eq_some.mp hs
    have hk : result = .sent ∨ ¬ s.Failing p.pMes := hk
    cases result with
    | prepared => exact absurd rfl hne
    | sent =>
      cases hs
      exact h.preparedSent hp hsend.2
    | failed bKept =>
      have hnf : ¬ s.Failing p.pMes := by
        rcases hk with hk | hk
        · cases hk
        · exact hk
      cases bKept with
      | true =>
        cases hs
        exact h.preparedFailed hp hnf (.inr rfl)
      | false =>
        cases hs
        exact h.preparedFailed hp hnf (.inl rfl)
  | connectTask t result =>
    obtain ⟨ht, hs⟩ := Option.ite_none_right_eq_some.mp hs
    obtain ⟨hk, hclose⟩ := hk
    cases result with
    | connected =>
      cases hs
      exact h.dropTask t .established (fun hst => by cases hst)
    | notConnected =>
      cases hs
      rcases hk with hk | hk
      · cases hk
      · exact h.taskError ht hk .inl
    | notAttached =>
      cases hs
      rcases hk with hk | hk
      · cases hk
      · exact h.taskError ht hk fun _ => .inr (hclose rfl)
    | notSent =>
      cases hs
      rcases hk with hk | hk
      · cases hk
      · exact h.taskError ht hk (fun hst => by cases hst)
  | receiveInternalReplyData a =>
    obtain ⟨⟨ha, hnone⟩, hs⟩ := Option.ite_none_right_eq_some.mp hs
    rw [if_neg (fun hatt => (h.detached hatt).2 a ha hnone)] at hs
    have hl := ((h.answer a ha).2.2.1 hnone).1
    have hpop : s.popState a.strRequestID =
        ({ s with mapStateMachine := s.mapStateMachine.erase a.strRequestID }, some a.pMes) := by
      unfold ProxyRequests.popState
      rw [hl]
      rfl
    rw [hpop] at hs
    cases hs
    exact h.receiveStep ha hnone
  | complete a =>
    unfold ProxyRequests.step at hs
    cases hp : a.pPrevMes with
    | none =>
      simp only [hp] at hs
      cases hs
    | some pPrevMes =>
      simp only [hp] at hs
      obtain ⟨⟨ha, -⟩, hs⟩ := Option.ite_none_right_eq_some.mp hs
      cases hs
      exact h.completeStep ha hp
  | closeConnection bZero =>
    unfold ProxyRequests.step at hs
    by_cases hst : s.nState = .closed
    · simp only [hst, if_true] at hs
      cases hs
    simp only [hst, if_false] at hs
    have hsame : ∀ st : ConnectionState, (st = .closed → s.KeepsClose) → ({ s with nState := st } : ProxyRequests).Inv :=
      fun st hkc => h.setFlight (fun _ hq => .inl hq) (fun _ ht => .inl ht) (fun _ _ hsent => hsent)
        fun hst id hid => h.inTask_of_keepsClose (hkc hst) hid
    by_cases hz : bZero ∧ ∀ a ∈ s.answers, a.bReply = false
    · rw [if_pos hz] at hs
      cases hs
      exact hsame .closed fun _ => hk hz.1
    · rw [if_neg hz] at hs
      cases hs
      exact hsame .closing (fun hst => by cases hst)
  | unCreate =>
    obtain ⟨-, hs⟩ := Option.ite_none_right_eq_some.mp hs
    cases hs
    have hnone : ∀ id, id ∉ s.mapRequests := fun id hid => by
      have hid : id ∈ s.mapRequests.keys := hid
      rw [hk.1] at hid
      exact absurd hid List.not_mem_nil
    exact { h with
      found := fun p _ => .inr (.inl (hnone p.strRequestID))
      aligned := fun hatt => by cases hatt
      detached := fun _ => ⟨hnone, hk.2⟩ }

end Inv

/-- What holds in every run whose request ids are not in use, in which nothing comes for a failed send before its
handler has popped the request, whose proxy connection is closed with no packet waiting, and whose client object is
destroyed with no request waiting. -/
theorem consistent_of_unusedIds {strClassGuid strObjectGuid : String} {bUniqueInstance : Bool}
    (hs : Reachable (guarded Keeps step) (start strClassGuid strObjectGuid bUniqueInstance) s) : s.Consistent := by
  have h : s.Inv := hs.invariant inv_start fun s a s' h hstep => by
    obtain ⟨hk, hstep⟩ := guarded_eq_some.mp hstep
    exact h.step hk hstep
  exact h.consistent

/-! ### Concrete runs -/

/-- The handler of `con` asks for something: its sections up to the send. -/
def requestRun (con : Nat) (strRequestID : String) : List Action :=
  [.request con strRequestID, .pushRequest con, .sendPacketData con .sent true]

/-- One request; the connection is set up for it, the reply comes, and the connection is closed. -/
theorem consistent_oneRequest : ∃ s : ProxyRequests, s.completed = [⟨0, 0⟩] ∧ s.nState = .closed ∧
    s.Consistent := by
  have hrun : (runSteps (guarded Keeps step) (start "c" "o" false) (requestRun 0 "r" ++
      [.connectTask ⟨"r", ⟨0, 0⟩⟩ .connected, .reply ⟨"r", "c", ⟨0, 0⟩⟩ "g",
        .receiveInternalReplyData ⟨true, "r", ⟨0, 0⟩, none⟩, .complete ⟨true, "r", ⟨0, 0⟩, some ⟨0, 0⟩⟩,
        .closeConnection true])).any
      (fun s => s.completed = [⟨0, 0⟩] ∧ s.nState = .closed) = true := by decide +kernel
  obtain ⟨s, hs, h⟩ := (Option.any_eq_true _ _).mp hrun
  obtain ⟨hcompleted, hst⟩ := of_decide_eq_true h
  exact ⟨s, hcompleted, hst, consistent_of_unusedIds (Reachable.of_runSteps hs)⟩

/-- Two connections use one id: the first request stays in `m_mapRequests`, its reply pops the state pushed last. -/
theorem not_consistent_sameId : ∃ s : ProxyRequests, Reachable step (start "c" "o" false) s ∧ ¬ s.Consistent := by
  have hrun : (runSteps step (start "c" "o" false) (requestRun 0 "r" ++
      [.connectTask ⟨"r", ⟨0, 0⟩⟩ .connected] ++ requestRun 1 "r" ++ [.reply ⟨"r", "c", ⟨0, 0⟩⟩ "g",
        .receiveInternalReplyData ⟨true, "r", ⟨0, 0⟩, none⟩])).any
      (fun s => (⟨0, 0⟩, some ⟨1, 0⟩) ∈ s.answered) = true := by decide +kernel
  obtain ⟨s, hs, h⟩ := (Option.any_eq_true _ _).mp hrun
  refine ⟨s, Reachable.of_runSteps hs, fun hc => ?_⟩
  exact absurd (hc.delivered _ (of_decide_eq_true h) _ rfl) (by decide)

/-- The client object is destroyed once a request is answered; the reply to another one, of connection 1, is dropped. -/
theorem dropped_unCreate : ∃ s : ProxyRequests, Reachable step (start "c" "o" false) s ∧
    (⟨1, 0⟩, none) ∈ s.answered ∧ ¬ s.Settled ⟨1, 0⟩ := by
  have hrun : (runSteps step (start "c" "o" false) (requestRun 0 "r" ++
      [.connectTask ⟨"r", ⟨0, 0⟩⟩ .connected] ++ requestRun 1 "q" ++
      [.reply ⟨"r", "c", ⟨0, 0⟩⟩ "g", .receiveInternalReplyData ⟨true, "r", ⟨0, 0⟩, none⟩,
        .complete ⟨true, "r", ⟨0, 0⟩, some ⟨0, 0⟩⟩, .reply ⟨"q", "c", ⟨1, 0⟩⟩ "g₁", .unCreate,
        .receiveInternalReplyData ⟨true, "q", ⟨1, 0⟩, none⟩])).any
      (fun s => (⟨1, 0⟩, none) ∈ s.answered ∧ ⟨1, 0⟩ ∉ s.completed ∧ s.answers = [] ∧
        s.requester 1 = .idle) = true := by decide +kernel
  obtain ⟨s, hs, h⟩ := (Option.any_eq_true _ _).mp hrun
  obtain ⟨hdrop, hcompleted, hanswers, hidle⟩ := of_decide_eq_true h
  refine ⟨s, Reachable.of_runSteps hs, hdrop, ?_⟩
  rintro (hmem | ⟨a, ha, -⟩ | ⟨id, hid⟩)
  · exact hcompleted hmem
  · rw [hanswers] at ha
    exact absurd ha List.not_mem_nil
  · exact absurd (hidle.symm.trans hid) (by rintro ⟨⟩)

end ProxyRequests

end KonsanNet
