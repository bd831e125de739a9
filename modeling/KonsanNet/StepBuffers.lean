import KonsanNet.ProxyRequestsInv
import KonsanNet.Ledger

/-!
# The buffers of the step states (`CXFileRPCProxyServer`, `CXStateStepInfo`)

Each function of the file proxy that asks the storage object takes a buffer for its step state with `GetBuffer`,
fills it without a test for `NULL`, and pushes it. The state is popped by `ReceiveInternalReplyData`, or by the
function itself where the storage object could not send; both forget the pointer. So every request that ends has
lost its buffer (`givenBack_iff`).

A buffer is named by the number of those that were taken before it.
-/

namespace KonsanNet

/-- The functions that `DispatchMes` calls. -/
inductive FileFun
  | openFile
  | closeFile
  | write
  | read
  | seek
  | getFileLength
deriving DecidableEq

/-- What a function finds: whether the path length is right (`OpenFile`), whether there is a storage object,
also after `GetFreeObject`, whether its `Create` succeeds (`OpenFile`), and its `IsOpen()`. -/
structure FileFound where
  bPath : Bool
  bStorageObj : Bool
  bCreated : Bool
  bOpen : Bool

namespace FileFun

/-- The function goes to the storage object; else it answers the client at once. -/
def asks : FileFun → FileFound → Bool
  | openFile, f => f.bPath && f.bStorageObj && f.bCreated && !f.bOpen
  | closeFile, f | write, f | read, f | seek, f | getFileLength, f => f.bStorageObj && f.bOpen

/-- `CX_INTER_FILE_OPEN_REPLY` and the others -/
def dwNextState : FileFun → Nat
  | openFile => 1
  | read => 2
  | write => 3
  | seek => 4
  | closeFile => 5
  | getFileLength => 6

end FileFun

structure StateStepInfo where
  pMes : ClientMes
  dwNextState : Nat
deriving DecidableEq

/-- The requests, with the step states in the order of their buffers. -/
structure StepBuffers where
  requests : ProxyRequests
  taken : List StateStepInfo
  log : List (Ledger.Event Nat Unit)
  /-- A `NULL` was dereferenced. -/
  fault : Bool

namespace StepBuffers

def start (strClassGuid strObjectGuid : String) (bUniqueInstance : Bool) : StepBuffers where
  requests := .start strClassGuid strObjectGuid bUniqueInstance
  taken := []
  log := []
  fault := false

/-- The function answers the client, and the message is completed. -/
def answerAtOnce (s : ProxyRequests) (con : Nat) : ProxyRequests :=
  { s with
    uiReceived := Function.update s.uiReceived con (s.uiReceived con + 1)
    completed := ⟨con, s.uiReceived con⟩ :: s.completed }

/-- The next message of the connection is for `fileFun`; `bBuffer` tells whether `GetBuffer` returns one. -/
def request (s : StepBuffers) (con : Nat) (strRequestID : String) (fileFun : FileFun) (found : FileFound)
    (bBuffer : Bool) : Option StepBuffers :=
  if s.requests.requester con = .idle ∧ strRequestID ≠ "" then
    if fileFun.asks found then
      if bBuffer then
        (s.requests.step (.request con strRequestID)).map fun r =>
          { s with
            requests := r
            taken := s.taken ++ [⟨⟨con, s.requests.uiReceived con⟩, fileFun.dwNextState⟩]
            log := s.log ++ [.got s.taken.length ()] }
      else some { s with fault := true }
    else some { s with requests := answerAtOnce s.requests con }
  else none

/-- `proxy` is everything behind `PushState`. -/
inductive Act
  | request (con : Nat) (strRequestID : String) (fileFun : FileFun) (found : FileFound) (bBuffer : Bool)
  | proxy (a : ProxyRequests.Action)

def step (s : StepBuffers) : Act → Option StepBuffers
  | .request con strRequestID fileFun found bBuffer =>
    if s.fault then none else s.request con strRequestID fileFun found bBuffer
  | .proxy (.request ..) => none
  | .proxy a => if s.fault then none else (s.requests.step a).map fun r => { s with requests := r }

/-- Each buffer is given back once at most, and that of a message that is completed once. -/
structure GivenBack (s : StepBuffers) : Prop where
  once : ∀ i, (Ledger.releases i s.log).length ≤ 1
  ended : ∀ i p, s.taken[i]? = some p → p.pMes ∈ s.requests.completed → Ledger.releases i s.log = [()]
  noFault : s.fault = false

def Good (s : StepBuffers) (a : Act) : Prop := ∀ s', s.step a = some s' → GivenBack s'

/-- No function goes to the storage object with a `NULL` of `GetBuffer`, and no request that has pushed its state
ends. -/
def StepOk : Act → Prop
  | .request _ _ fileFun found bBuffer => fileFun.asks found = true → bBuffer = true
  | .proxy (.popState _) | .proxy (.complete _) => False
  | .proxy (.request ..) | .proxy (.pushRequest _) | .proxy (.sendPacketData ..) | .proxy (.popRequest _)
  | .proxy (.reply ..) | .proxy (.prepareTask ..) | .proxy (.connectTask ..)
  | .proxy (.receiveInternalReplyData _) | .proxy (.closeConnection _) | .proxy .unCreate => True

end StepBuffers

/-! ### The messages with a step state -/

namespace ProxyRequests

variable {s s' s'' : ProxyRequests} {P : ClientMes → Prop} {con : Nat} {id : String} {m : ClientMes}

/-- No message joins those that the handlers and the answers hold, and no state is pushed or popped. -/
structure Narrows (s s' : ProxyRequests) : Prop where
  requester : ∀ con e, (s'.requester con).request = some e → (s.requester con).request = some e
  states : s'.mapStateMachine = s.mapStateMachine
  answers : ∀ a ∈ s'.answers, a.pPrevMes = none ∨ a ∈ s.answers
  completed : s'.completed = s.completed
  received : s'.uiReceived = s.uiReceived

namespace Narrows

theorem refl (s : ProxyRequests) : Narrows s s := ⟨fun _ _ h => h, rfl, fun _ h => Or.inr h, rfl, rfl⟩

theorem trans (h : Narrows s s') (h' : Narrows s' s'') : Narrows s s'' where
  requester con e he := h.requester con e (h'.requester con e he)
  states := h'.states.trans h.states
  answers a ha := (h'.answers a ha).elim Or.inl fun ha => h.answers a ha
  completed := h'.completed.trans h.completed
  received := h'.received.trans h.received

theorem setRequester {r : Requester} (hr : ∀ e, r.request = some e → (s.requester con).request = some e) :
    Narrows s (s.setRequester con r) where
  requester con' e he := by
    by_cases heq : con' = con
    · subst heq
      rw [requester_self] at he
      exact hr e he
    · rwa [requester_of_ne heq] at he
  states := rfl
  answers _ ha := Or.inr ha
  completed := rfl
  received := rfl

theorem answer (s : ProxyRequests) (bReply : Bool) (id : String) (m : ClientMes) :
    Narrows s (s.answer bReply id m) := by
  unfold ProxyRequests.answer popRequest
  cases s.mapRequests.lookup id with
  | none => exact ⟨fun _ _ h => h, rfl, fun _ h => Or.inr h, rfl, rfl⟩
  | some r =>
    refine ⟨fun _ _ h => h, rfl, fun a ha => ?_, rfl, rfl⟩
    exact (List.mem_cons.mp ha).imp (fun h => by rw [h]) fun h => h

theorem answerFound {r : ProxyRequests × Bool} (h : Narrows s r.1) (bReply : Bool) (p : ProxyPacket) :
    Narrows s (ProxyRequests.answerFound r bReply p) := by
  unfold ProxyRequests.answerFound
  split
  · exact h.trans (answer ..)
  · exact h.trans ⟨fun _ _ h => h, rfl, fun _ h => Or.inr h, rfl, rfl⟩

theorem findReplyObject (s : ProxyRequests) (g id : String) : Narrows s (s.findReplyObject g id).1 := by
  unfold ProxyRequests.findReplyObject
  split
  · exact refl s
  split
  · exact ⟨fun _ _ h => h, rfl, fun _ h => Or.inr h, rfl, rfl⟩
  · exact refl s

theorem findSendObject (s : ProxyRequests) (g id : String) : Narrows s (s.findSendObject g id).1 := by
  unfold ProxyRequests.findSendObject
  split
  · exact refl s
  split
  · exact ⟨fun _ _ h => h, rfl, fun _ h => Or.inr h, rfl, rfl⟩
  · exact refl s

theorem sendPacketData (hreq : s.requester con = .pushedRequest m id) (result : PacketResult) (bTask : Bool) :
    Narrows s (s.sendPacketData con m id result bTask) := by
  have hframe : ∃ (r : Requester) (t : ProxyRequests),
      s.sendPacketData con m id result bTask = t.setRequester con r ∧ t.requester = s.requester ∧
      t.mapStateMachine = s.mapStateMachine ∧ t.answers = s.answers ∧ t.completed = s.completed ∧
      t.uiReceived = s.uiReceived ∧ (r = .idle ∨ r = .failed m id) := by
    unfold ProxyRequests.sendPacketData
    cases result with
    | sent | prepared =>
      dsimp only
      repeat' split
      all_goals first
        | exact ⟨.idle, _, rfl, rfl, rfl, rfl, rfl, rfl, Or.inl rfl⟩
        | exact ⟨.failed m id, _, rfl, rfl, rfl, rfl, rfl, rfl, Or.inr rfl⟩
    | failed bKept =>
      cases bKept
      all_goals
        dsimp only
        repeat' split
        all_goals exact ⟨.failed m id, _, rfl, rfl, rfl, rfl, rfl, rfl, Or.inr rfl⟩
  obtain ⟨r, t, ht, hreqs, hstates, hanswers, hcompleted, hreceived, hr⟩ := hframe
  rw [ht]
  have hnarrows : Narrows s t :=
    ⟨fun _ _ h => hreqs ▸ h, hstates, fun _ h => Or.inr (hanswers ▸ h), hcompleted, hreceived⟩
  refine hnarrows.trans (.setRequester fun e he => ?_)
  rw [hreqs, hreq]
  rcases hr with rfl | rfl
  · cases he
  · exact he

end Narrows

/-- The messages that the handlers, the states and the answers hold are among those of `P`. -/
structure HeldBy (P : ClientMes → Prop) (s : ProxyRequests) : Prop where
  requester : ∀ con e, (s.requester con).request = some e → P e.1
  states : ∀ id deque, s.mapStateMachine.lookup id = some deque → ∀ m ∈ deque, P m
  answers : ∀ a ∈ s.answers, ∀ m, a.pPrevMes = some m → P m

namespace HeldBy

theorem mono {Q : ClientMes → Prop} (h : HeldBy P s) (hPQ : ∀ m, P m → Q m) : HeldBy Q s where
  requester con e he := hPQ _ (h.requester con e he)
  states id deque hl m hm := hPQ m (h.states id deque hl m hm)
  answers a ha m hm := hPQ m (h.answers a ha m hm)

theorem narrows (h : HeldBy P s) (hn : Narrows s s') : HeldBy P s' where
  requester con e he := h.requester con e (hn.requester con e he)
  states id deque hl := h.states id deque (hn.states ▸ hl)
  answers a ha m hm := by
    rcases hn.answers a ha with hnone | ha
    · rw [hnone] at hm
      cases hm
    · exact h.answers a ha m hm

theorem pushState (h : HeldBy P s) (hm : P m) (id : String) : HeldBy P (s.pushState id m) := by
  have hpush (deque : List ClientMes) (hdeque : ∀ m' ∈ deque, P m') :
      HeldBy P { s with mapStateMachine := s.mapStateMachine.insert id deque } := by
    refine ⟨h.requester, fun id' deque' hl m' hm' => ?_, h.answers⟩
    dsimp only at hl
    by_cases heq : id' = id
    · rw [heq, AList.lookup_insert] at hl
      cases hl
      exact hdeque m' hm'
    · exact h.states id' deque' ((AList.lookup_insert_ne heq).symm.trans hl) m' hm'
  unfold ProxyRequests.pushState
  split
  · rename_i deque hl
    refine hpush _ fun m' hm' => ?_
    rcases List.mem_append.mp hm' with hm' | hm'
    · exact h.states id deque hl m' hm'
    · exact List.mem_singleton.mp hm' ▸ hm
  · exact hpush _ fun m' hm' => List.mem_singleton.mp hm' ▸ hm

theorem popState (h : HeldBy P s) (id : String) :
    HeldBy P (s.popState id).1 ∧ ∀ m, (s.popState id).2 = some m → P m := by
  unfold ProxyRequests.popState
  split
  · rename_i deque hl
    refine ⟨⟨h.requester, fun id' deque' hl' m' hm' => ?_, h.answers⟩, fun m' hm' =>
      h.states id deque hl m' (List.mem_of_mem_getLast? hm')⟩
    dsimp only at hl'
    split at hl'
    · exact h.states id' deque' (lookup_of_erase hl').2 m' hm'
    · by_cases heq : id' = id
      · rw [heq, AList.lookup_insert] at hl'
        cases hl'
        exact h.states id deque hl m' (List.mem_of_mem_dropLast hm')
      · exact h.states id' deque' ((AList.lookup_insert_ne heq).symm.trans hl') m' hm'
  · exact ⟨h, nofun⟩

end HeldBy

/-- The steps but those that push or pop a state, or complete a message. -/
theorem narrows_step {a : Action} (hs : s.step a = some s') (ha : match a with
      | .request .. | .popState _ | .receiveInternalReplyData _ | .complete _ => False
      | _ => True) : Narrows s s' := by
  cases a with
  | request con id => exact ha.elim
  | pushRequest con =>
    simp only [ProxyRequests.step] at hs
    split at hs
    case h_2 => cases hs
    rename_i m id hreq
    split at hs
    case isFalse =>
      cases hs
      refine .setRequester fun e he => ?_
      cases he
      rw [hreq]
      rfl
    cases hs
    have hpush : Narrows s (s.pushRequest ⟨id, m⟩) := by
      unfold ProxyRequests.pushRequest
      split
      · exact .refl s
      · exact ⟨fun _ _ h => h, rfl, fun _ h => Or.inr h, rfl, rfl⟩
    refine hpush.trans (.setRequester fun e he => ?_)
    · cases he
      have hsame : (s.pushRequest ⟨id, m⟩).requester = s.requester := by
        unfold ProxyRequests.pushRequest
        split <;> rfl
      rw [hsame, hreq]
      rfl
  | sendPacketData con result bTask =>
    simp only [ProxyRequests.step] at hs
    split at hs
    case h_2 => cases hs
    rename_i m id hreq
    split at hs
    case isFalse => cases hs
    cases hs
    exact .sendPacketData hreq result bTask
  | popRequest con =>
    simp only [ProxyRequests.step] at hs
    split at hs
    case h_2 => cases hs
    rename_i m id hreq
    cases hs
    have hpop : Narrows s (s.popRequest id).1 := ⟨fun _ _ h => h, rfl, fun _ h => Or.inr h, rfl, rfl⟩
    refine hpop.trans (.setRequester fun e he => ?_)
    cases he
    show (s.requester con).request = _
    rw [hreq]
    rfl
  | popState con => exact ha.elim
  | reply p g =>
    simp only [ProxyRequests.step] at hs
    split at hs
    case isFalse => cases hs
    cases hs
    refine .answerFound (Narrows.trans ?_ (.findReplyObject ..)) ..
    exact ⟨fun _ _ h => h, rfl, fun _ h => Or.inr h, rfl, rfl⟩
  | prepareTask p result =>
    simp only [ProxyRequests.step] at hs
    split at hs
    case isFalse => cases hs
    have hpackets : Narrows s (if result = .failed false then { s with prepareTasks := s.prepareTasks.erase p }
        else { s with prepareTasks := s.prepareTasks.erase p, packets := p :: s.packets }) := by
      split <;> exact ⟨fun _ _ h => h, rfl, fun _ h => Or.inr h, rfl, rfl⟩
    split at hs
    · cases hs
      exact hpackets
    · cases hs
      exact .answerFound (hpackets.trans (.findSendObject ..)) ..
  | connectTask t result =>
    simp only [ProxyRequests.step] at hs
    split at hs
    case isFalse => cases hs
    have hstate (st : ConnectionState) :
        Narrows s { s with connectTasks := s.connectTasks.erase t, nState := st } :=
      ⟨fun _ _ h => h, rfl, fun _ h => Or.inr h, rfl, rfl⟩
    cases result with
    | connected =>
      cases hs
      exact hstate _
    | notConnected =>
      cases hs
      exact (hstate s.nState).trans (.answer ..)
    | notAttached =>
      cases hs
      exact (hstate _).trans (.answer ..)
    | notSent =>
      cases hs
      exact (hstate _).trans (.answer ..)
  | receiveInternalReplyData a => exact ha.elim
  | complete a => exact ha.elim
  | closeConnection bZero =>
    simp only [ProxyRequests.step] at hs
    split at hs
    · cases hs
    split at hs <;>
    · cases hs
      exact ⟨fun _ _ h => h, rfl, fun _ h => Or.inr h, rfl, rfl⟩
  | unCreate =>
    simp only [ProxyRequests.step] at hs
    split at hs
    case isFalse => cases hs
    cases hs
    exact ⟨fun _ _ h => h, rfl, fun _ h => Or.inr h, rfl, rfl⟩

end ProxyRequests

/-! ### Runs -/

namespace StepBuffers

variable {s s' : StepBuffers} {a : Act}

/-- The message has a step state. -/
def Has (s : StepBuffers) (m : ClientMes) : Prop := ∃ p ∈ s.taken, p.pMes = m

/-- The messages that the requests hold have a step state; none of those is completed, and nothing is given back. -/
structure Inv (s : StepBuffers) : Prop where
  held : s.requests.HeldBy s.Has
  old : ∀ p ∈ s.taken, p.pMes.iSequenceNum < s.requests.uiReceived p.pMes.pConObj
  done : ∀ m ∈ s.requests.completed, m.iSequenceNum < s.requests.uiReceived m.pConObj
  uncompleted : ∀ p ∈ s.taken, p.pMes ∉ s.requests.completed
  kept : ∀ i, Ledger.releases i s.log = []
  noFault : s.fault = false

theorem inv_start (strClassGuid strObjectGuid : String) (bUniqueInstance : Bool) :
    Inv (start strClassGuid strObjectGuid bUniqueInstance) where
  held := ⟨nofun, nofun, nofun⟩
  old := nofun
  done := nofun
  uncompleted := nofun
  kept _ := rfl
  noFault := rfl

namespace Inv

theorem givenBack (h : Inv s) : GivenBack s where
  once i := by
    rw [h.kept i]
    exact Nat.zero_le 1
  ended i p hp hm := absurd hm (h.uncompleted p (List.mem_of_getElem? hp))
  noFault := h.noFault

/-- A message with a step state is completed, and its buffer is lost. -/
theorem not_givenBack (h : Inv s) {m : ClientMes} (hm : s.Has m) (htaken : s'.taken = s.taken) (hlog : s'.log = s.log)
    (hc : m ∈ s'.requests.completed) : ¬ GivenBack s' := by
  obtain ⟨p, hp, rfl⟩ := hm
  obtain ⟨i, hi⟩ := List.mem_iff_getElem?.mp hp
  intro hg
  have hended := hg.ended i p (htaken ▸ hi) hc
  rw [hlog, h.kept i] at hended
  cases hended

theorem next (con : Nat) {m : ClientMes} (hm : m.iSequenceNum < s.requests.uiReceived m.pConObj) :
    m ≠ ⟨con, s.requests.uiReceived con⟩ ∧ m.iSequenceNum <
      Function.update s.requests.uiReceived con (s.requests.uiReceived con + 1) m.pConObj := by
  constructor
  · rintro rfl
    exact Nat.lt_irrefl _ hm
  · by_cases hcon : m.pConObj = con
    · rw [hcon] at hm ⊢
      rw [Function.update_self]
      exact Nat.lt_succ_of_lt hm
    · rwa [Function.update_of_ne hcon]

theorem next_self (con : Nat) : s.requests.uiReceived con <
    Function.update s.requests.uiReceived con (s.requests.uiReceived con + 1) con := by
  rw [Function.update_self]
  exact Nat.lt_succ_self _

theorem push {con : Nat} {id : String} {r : ProxyRequests} (h : Inv s) (dwNextState : Nat)
    (hr : s.requests.step (.request con id) = some r) :
    Inv { s with
      requests := r
      taken := s.taken ++ [⟨⟨con, s.requests.uiReceived con⟩, dwNextState⟩]
      log := s.log ++ [.got s.taken.length ()] } := by
  simp only [ProxyRequests.step] at hr
  split at hr
  case isFalse => cases hr
  cases hr
  have hcompleted : (s.requests.pushState id ⟨con, s.requests.uiReceived con⟩).completed = s.requests.completed := by
    unfold ProxyRequests.pushState
    split <;> rfl
  have hheld := (h.held.mono (Q := fun m => s.Has m ∨ m = ⟨con, s.requests.uiReceived con⟩)
    fun m => Or.inl).pushState (Or.inr rfl) id
  have hhas : ∀ m, s.Has m ∨ m = ⟨con, s.requests.uiReceived con⟩ →
      ∃ p ∈ s.taken ++ [⟨⟨con, s.requests.uiReceived con⟩, dwNextState⟩], p.pMes = m := by
    rintro m (⟨p, hp, rfl⟩ | rfl)
    · exact ⟨p, List.mem_append_left _ hp, rfl⟩
    · exact ⟨_, List.mem_append_right _ (List.mem_singleton_self _), rfl⟩
  refine ⟨.mono ⟨fun con' e he => ?_, hheld.states, hheld.answers⟩ hhas, fun p hp => ?_, fun m hm => ?_,
    fun p hp hc => ?_, fun i => ?_, h.noFault⟩
  · by_cases hcon : con' = con
    · subst hcon
      rw [ProxyRequests.requester_self] at he
      cases he
      exact Or.inr rfl
    · rw [ProxyRequests.requester_of_ne hcon] at he
      exact hheld.requester con' e he
  · rcases List.mem_append.mp hp with hp | hp
    · exact (next con (h.old p hp)).2
    · rw [List.mem_singleton.mp hp]
      exact next_self con
  · exact (next con (h.done m (hcompleted ▸ hm))).2
  · have hc : p.pMes ∈ s.requests.completed := hcompleted ▸ hc
    rcases List.mem_append.mp hp with hp | hp
    · exact h.uncompleted p hp hc
    · rw [List.mem_singleton.mp hp] at hc
      exact (next con (h.done _ hc)).1 rfl
  · show Ledger.releases i (s.log ++ [.got s.taken.length ()]) = []
    rw [Ledger.releases_append, h.kept i]
    rfl

theorem answerAtOnce (h : Inv s) (con : Nat) :
    Inv { s with requests := StepBuffers.answerAtOnce s.requests con } where
  held := ⟨h.held.requester, h.held.states, h.held.answers⟩
  old p hp := (next con (h.old p hp)).2
  done m hm := by
    rcases List.mem_cons.mp hm with rfl | hm
    · exact next_self con
    · exact (next con (h.done m hm)).2
  uncompleted p hp hc := by
    rcases List.mem_cons.mp hc with hc | hc
    · exact (next con (h.old p hp)).1 hc
    · exact h.uncompleted p hp hc
  kept := h.kept
  noFault := h.noFault

/-- A step that completes no message, and in which the handlers and the answers hold messages with a step state. -/
theorem setRequests {r : ProxyRequests} (h : Inv s) (hheld : r.HeldBy s.Has)
    (hcompleted : r.completed = s.requests.completed)
    (hreceived : r.uiReceived = s.requests.uiReceived) : Inv { s with requests := r } where
  held := hheld
  old p hp := by
    rw [hreceived]
    exact h.old p hp
  done m hm := by
    rw [hreceived]
    exact h.done m (hcompleted ▸ hm)
  uncompleted p hp hc := h.uncompleted p hp (hcompleted ▸ hc)
  kept := h.kept
  noFault := h.noFault

theorem receiveInternalReplyData {a : Answer} {r : ProxyRequests} (h : Inv s)
    (hr : s.requests.step (.receiveInternalReplyData a) = some r) : Inv { s with requests := r } := by
  simp only [ProxyRequests.step] at hr
  split at hr
  case isFalse => cases hr
  split at hr
  case isTrue =>
    cases hr
    exact h.setRequests
      ⟨h.held.requester, h.held.states, fun b hb => h.held.answers b (List.mem_of_mem_erase hb)⟩ rfl rfl
  obtain ⟨hheld, hpopped⟩ := h.held.popState a.strRequestID
  have hframe : (s.requests.popState a.strRequestID).1.completed = s.requests.completed ∧
      (s.requests.popState a.strRequestID).1.uiReceived = s.requests.uiReceived ∧
      (s.requests.popState a.strRequestID).1.answers = s.requests.answers := by
    unfold ProxyRequests.popState
    split <;> exact ⟨rfl, rfl, rfl⟩
  split at hr
  · cases hr
    refine h.setRequests ⟨hheld.requester, hheld.states, fun b hb => ?_⟩ hframe.1 hframe.2.1
    exact hheld.answers b (List.mem_of_mem_erase hb)
  · rename_i m hm
    cases hr
    refine h.setRequests ⟨hheld.requester, hheld.states, fun b hb => ?_⟩ hframe.1 hframe.2.1
    rcases List.mem_cons.mp hb with rfl | hb
    · intro m' hm'
      cases hm'
      exact hpopped m hm
    · exact hheld.answers b (List.mem_of_mem_erase hb)

theorem not_givenBack_popState {con : Nat} {r : ProxyRequests} (h : Inv s)
    (hr : s.requests.step (.popState con) = some r) : ¬ GivenBack { s with requests := r } := by
  simp only [ProxyRequests.step] at hr
  split at hr
  case h_2 => cases hr
  rename_i m id hreq
  cases hr
  have hm : s.Has m := h.held.requester con (m, id) (by rw [hreq]; rfl)
  exact h.not_givenBack hm rfl rfl (List.mem_cons_self ..)

theorem not_givenBack_complete {a : Answer} {r : ProxyRequests} (h : Inv s)
    (hr : s.requests.step (.complete a) = some r) : ¬ GivenBack { s with requests := r } := by
  simp only [ProxyRequests.step] at hr
  split at hr
  · cases hr
  rename_i m hm
  split at hr
  case isFalse => cases hr
  rename_i ha
  cases hr
  exact h.not_givenBack (h.held.answers a ha.1 m hm) rfl rfl (List.mem_cons_self ..)

theorem step (h : Inv s) (hs : s.step a = some s') : (StepOk a → Inv s') ∧ (¬ StepOk a → ¬ GivenBack s') := by
  cases a with
  | request con id fileFun found bBuffer =>
    unfold StepBuffers.step at hs
    rw [h.noFault] at hs
    have hs : s.request con id fileFun found bBuffer = some s' := hs
    unfold StepBuffers.request at hs
    split at hs
    case isFalse => cases hs
    split at hs
    · rename_i hasks
      split at hs
      · rename_i hbuffer
        obtain ⟨r, hr, rfl⟩ := Option.map_eq_some_iff.mp hs
        exact ⟨fun _ => h.push _ hr, fun hno => absurd (fun _ => hbuffer) hno⟩
      · rename_i hbuffer
        cases hs
        exact ⟨fun hok => absurd (hok hasks) hbuffer, fun _ hg => Bool.noConfusion hg.noFault⟩
    · rename_i hasks
      cases hs
      exact ⟨fun _ => h.answerAtOnce con, fun hno => absurd (fun hc => absurd hc hasks) hno⟩
  | proxy a =>
    cases a with
    | request => cases hs
    | popState con =>
      obtain ⟨r, hr, rfl⟩ : ∃ r, s.requests.step (.popState con) = some r ∧ { s with requests := r } = s' := by
        simpa [StepBuffers.step, h.noFault] using hs
      exact ⟨False.elim, fun _ => h.not_givenBack_popState hr⟩
    | complete a =>
      obtain ⟨r, hr, rfl⟩ : ∃ r, s.requests.step (.complete a) = some r ∧ { s with requests := r } = s' := by
        simpa [StepBuffers.step, h.noFault] using hs
      exact ⟨False.elim, fun _ => h.not_givenBack_complete hr⟩
    | receiveInternalReplyData a =>
      obtain ⟨r, hr, rfl⟩ : ∃ r, s.requests.step (.receiveInternalReplyData a) = some r ∧
          { s with requests := r } = s' := by
        simpa [StepBuffers.step, h.noFault] using hs
      exact ⟨fun _ => h.receiveInternalReplyData hr, fun hno => absurd trivial hno⟩
    | pushRequest | sendPacketData | popRequest | reply | prepareTask | connectTask | closeConnection | unCreate =>
      obtain ⟨r, hr, rfl⟩ : ∃ r, s.requests.step _ = some r ∧ { s with requests := r } = s' := by
        simpa [StepBuffers.step, h.noFault] using hs
      have hn := ProxyRequests.narrows_step hr trivial
      exact ⟨fun _ => h.setRequests (h.held.narrows hn) hn.completed hn.received, fun hno => absurd trivial hno⟩

end Inv

/-- For every run: every buffer is given back with the end of its request, and no `NULL` is dereferenced, exactly if
all its steps meet the condition. -/
theorem givenBack_iff {strClassGuid strObjectGuid : String} {bUniqueInstance : Bool} {acts : List Act}
    (hs : runSteps step (start strClassGuid strObjectGuid bUniqueInstance) acts = some s) :
    EachStep step Good (start strClassGuid strObjectGuid bUniqueInstance) acts ↔ ∀ a ∈ acts, StepOk a := by
  rw [← @eachStep_const _ _ _ _ _ StepOk _ hs]
  refine eachStep_iff (fun s a s' h hs => ?_) (fun s a s' h hok hs => (h.step hs).1 hok) (inv_start ..) hs
  have hgood : Good s a ↔ GivenBack s' := ⟨fun hg => hg s' hs, fun hg u hu => Option.some.inj (hs.symm.trans hu) ▸ hg⟩
  rw [hgood]
  refine ⟨fun hg => ?_, fun hok => ((h.step hs).1 hok).givenBack⟩
  by_contra hno
  exact (h.step hs).2 hno hg

/-- A file that is not open is closed; a read of another one is on its way. -/
theorem givenBack_read : EachStep step Good (start "c" "o" false)
    [.request 0 "q" .closeFile ⟨true, false, false, false⟩ false, .request 0 "r" .read ⟨true, true, true, true⟩ true,
      .proxy (.pushRequest 0), .proxy (.sendPacketData 0 .sent true)] := by
  obtain ⟨s, hs⟩ := Option.isSome_iff_exists.mp (show (runSteps step (start "c" "o" false)
    [.request 0 "q" .closeFile ⟨true, false, false, false⟩ false, .request 0 "r" .read ⟨true, true, true, true⟩ true,
      .proxy (.pushRequest 0), .proxy (.sendPacketData 0 .sent true)]).isSome by decide +kernel)
  refine (givenBack_iff hs).mpr ?_
  simp [StepOk, FileFun.asks]

/-- One read: its reply comes, the message is completed, and the buffer of its step state is lost. -/
theorem not_givenBack_read : ∃ s, runSteps step (start "c" "o" false)
    [.request 0 "r" .read ⟨true, true, true, true⟩ true, .proxy (.pushRequest 0),
      .proxy (.sendPacketData 0 .sent true), .proxy (.connectTask ⟨"r", ⟨0, 0⟩⟩ .connected),
      .proxy (.reply ⟨"r", "c", ⟨0, 0⟩⟩ "g"), .proxy (.receiveInternalReplyData ⟨true, "r", ⟨0, 0⟩, none⟩),
      .proxy (.complete ⟨true, "r", ⟨0, 0⟩, some ⟨0, 0⟩⟩)] = some s ∧ ¬ GivenBack s := by
  have hrun : (runSteps step (start "c" "o" false)
      [.request 0 "r" .read ⟨true, true, true, true⟩ true, .proxy (.pushRequest 0),
        .proxy (.sendPacketData 0 .sent true), .proxy (.connectTask ⟨"r", ⟨0, 0⟩⟩ .connected),
        .proxy (.reply ⟨"r", "c", ⟨0, 0⟩⟩ "g"), .proxy (.receiveInternalReplyData ⟨true, "r", ⟨0, 0⟩, none⟩),
        .proxy (.complete ⟨true, "r", ⟨0, 0⟩, some ⟨0, 0⟩⟩)]).any
      (fun s => s.taken = [⟨⟨0, 0⟩, 2⟩] ∧ s.requests.completed = [⟨0, 0⟩] ∧ s.log = [.got 0 ()]) = true := by
    decide +kernel
  obtain ⟨s, hs, h⟩ := (Option.any_eq_true _ _).mp hrun
  obtain ⟨htaken, hcompleted, hlog⟩ := of_decide_eq_true h
  refine ⟨s, hs, fun hg => ?_⟩
  have hended := hg.ended 0 ⟨⟨0, 0⟩, 2⟩ (by rw [htaken]; rfl) (by rw [hcompleted]; exact List.mem_singleton_self _)
  rw [hlog] at hended
  cases hended

end StepBuffers

end KonsanNet
