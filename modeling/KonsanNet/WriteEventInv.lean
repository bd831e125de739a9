import KonsanNet.WriteEvent

/-!
# When no write wakeup is lost

While the head of the send list can be sent, the write event is armed or some thread will still come to the next
round of `SendDataList` (`EpollThread.Sends`). `WaitThread` breaks this: it tests for `EPOLLIN` first and does
not look at `EPOLLOUT` in the same event then, so that the one report of a writable socket is gone when it comes
with data to read. A failed `epoll_ctl` ends the same way, with the socket closed and the connection still
established.
-/

namespace KonsanNet

namespace SeqList

variable {α : Type} {seq : α → Nat} {l l' : SeqList α} {x : α} {ok : Bool}

/-- Head and end pointer are `NULL` together. -/
def Linked (l : SeqList α) : Prop := l.head.isEmpty = l.endSeq.isNone

theorem linkAfter_isEmpty (e : Nat) (x : α) : ∀ l : List α, (linkAfter seq e x l).isEmpty = l.isEmpty
  | [] => rfl
  | a :: l => by
    unfold linkAfter
    split <;> rfl

theorem Linked.push (h : Linked l) (hp : push seq l x = some (l', ok)) : ok = true ∧ Linked l' := by
  unfold SeqList.push at hp
  split at hp
  · cases hp
    exact ⟨rfl, rfl⟩
  rename_i hne
  have hsome : l.head.isEmpty = false ∧ l.endSeq.isNone = false := by
    unfold Linked at h
    cases hl : l.head.isEmpty
    · exact ⟨rfl, h ▸ hl⟩
    · rw [hl, ← h, hl] at hne
      exact absurd rfl hne
  split at hp
  · cases hp
    refine ⟨by rw [hsome.1]; rfl, ?_⟩
    show (linkAfter ..).isEmpty = false
    rw [linkAfter_isEmpty]
    exact hsome.1
  split at hp
  · cases hp
    refine ⟨?_, hsome.2.symm⟩
    cases he : l.endSeq with
    | none => exact Bool.noConfusion ((congrArg Option.isNone he).symm.trans hsome.2)
    | some e => rfl
  split at hp
  · cases hp
  · cases hp
    exact ⟨rfl, hsome.2.symm⟩

end SeqList

namespace SendState

variable {s s' : SendState} {env : SendEnv} {b : CXBufferObj} {rest : List CXBufferObj}

theorem established_of_closeConnection (h : (s.closeConnection env).nState = .established) : False := by
  unfold closeConnection at h
  split at h
  · rename_i hs
    rw [hs] at h
    cases h
  · dsimp only at h
    split at h <;> cases h

theorem linked_popSent (hl : s.listSendBuf.head = b :: rest) (h : s.listSendBuf.Linked) (n : Nat) :
    (s.popSent b rest n).listSendBuf.Linked := by
  unfold SeqList.Linked at h
  rw [hl] at h
  show rest.isEmpty = (if rest.isEmpty then none else s.listSendBuf.endSeq).isNone
  cases rest with
  | nil => rfl
  | cons c rest => exact h

theorem sendRound_spec {answers : List SendResult} {nRet : Int} {bNeedClose : Bool} {r : SendRound}
    (hr : s.sendRound env answers nRet bNeedClose = some (s', r)) :
    (s.listSendBuf.Linked → s'.listSendBuf.Linked) ∧ (s'.nState = .established → s.nState = .established) ∧
      (r = .ended → ¬ s'.HeadNext) := by
  unfold sendRound at hr
  rcases hl : s.listSendBuf.head with _ | ⟨b, rest⟩
  · rw [hl] at hr
    cases hr
    refine ⟨id, id, ?_⟩
    rintro - ⟨b, hb, -⟩
    rw [hl] at hb
    cases hb
  rw [hl] at hr
  dsimp only at hr
  split at hr
  · split at hr
    · cases hr
    · cases hr
      refine ⟨fun h => ?_, id, fun h => nomatch h⟩
      unfold SeqList.Linked at h
      rw [hl] at h
      exact h
    · cases hr
      refine ⟨fun h => ?_, fun h => (established_of_closeConnection h).elim, fun h => nomatch h⟩
      rw [closeConnection_list]
      exact linked_popSent hl h _
    · cases hr
      refine ⟨fun h => ?_, fun h => ?_, fun h => nomatch h⟩
      · split
        · rw [closeConnection_list]
          exact linked_popSent hl h _
        · exact linked_popSent hl h _
      · split at h
        · exact (established_of_closeConnection h).elim
        · exact h
  · rename_i hb
    cases hr
    refine ⟨id, id, ?_⟩
    rintro - ⟨c, hc, hcn⟩
    rw [hl] at hc
    cases hc
    exact hb hcn

/-- `PostSend` returns without sending only where it has changed nothing or the connection is not established. -/
theorem postPush_spec {r : Option Int} (hr : s.postPush b = some (s', r)) (h : s.listSendBuf.Linked) :
    s'.listSendBuf.Linked ∧ s'.nState = s.nState ∧ (r.isSome → s'.nState = .established → s' = s) := by
  unfold postPush at hr
  split at hr
  · cases hr
    exact ⟨h, rfl, fun _ _ => rfl⟩
  split at hr
  · cases hr
    exact ⟨h, rfl, fun _ _ => rfl⟩
  cases hp : s.pushSendBuffer b with
  | none =>
    rw [hp] at hr
    cases hr
  | some p =>
    rw [hp] at hr
    obtain ⟨q, hq, rfl⟩ := Option.map_eq_some_iff.mp hp
    obtain ⟨hok, hlinked⟩ := h.push hq
    rw [hok] at hr
    dsimp only at hr
    split at hr
    · rename_i hstate
      cases hr
      exact ⟨hlinked, rfl, fun _ h => absurd h hstate⟩
    · cases hr
      exact ⟨hlinked, rfl, fun h => nomatch h⟩

end SendState

namespace SendCaller

/-- A thread that reads has no `EPOLLOUT` in its event. -/
def Fits : SendCaller → Prop
  | .reader ev => ev.epollout = false
  | .task | .writer _ => True

end SendCaller

namespace EpollThread

/-- The thread will come to a round of `SendDataList`, or asks for the write event behind one. -/
def Sends : EpollThread → Prop
  | event ev => ev.epollin = false ∧ ev.epollout = true
  | writing _ | clearWait _ | sendList _ _ _ | setWait _ => True
  | waiting | reading _ | post _ _ | checkError _ _ => False

/-- `EPOLLOUT` in the thread's event has not been passed over. -/
def Fits : EpollThread → Prop
  | event ev => ¬ (ev.epollin = true ∧ ev.epollout = true)
  | reading ev => ev.epollout = false
  | post _ caller | sendList _ _ caller | setWait caller => caller.Fits
  | checkError ev bSent => bSent = true ∨ ev.epollout = false
  | waiting | writing _ | clearWait _ => True

theorem fits_back {caller : SendCaller} (h : caller.Fits) : caller.back.Fits := by
  cases caller with
  | task => trivial
  | reader ev => exact h
  | writer ev => exact Or.inl rfl

end EpollThread

namespace WriteEvents

variable {s s' : WriteEvents} {t : Nat} {c : EpollThread} {env : SendEnv}

/-- While the connection is established, no `EPOLLOUT` has been passed over, and while its next packet is there, the
write event is armed or a thread is going to send. -/
structure Inv (s : WriteEvents) : Prop where
  linked : s.con.listSendBuf.Linked
  fits : s.con.nState = .established → ∀ t, (s.thread t).Fits
  registered : s.con.nState = .established → s.item.registered = true
  wit : s.con.nState = .established → s.con.HeadNext → s.item.Awaits ∨ ∃ t, (s.thread t).Sends
  dropped : s.dropped = []

theorem Started.inv (h : Started s) : Inv s where
  linked := h.linked
  fits := fun _ t => by rcases h.thread t with ht | ht <;> rw [ht] <;> trivial
  registered := fun _ => h.registered
  wit := fun _ hn => by
    obtain ⟨t, ht⟩ := h.sends hn
    exact Or.inr ⟨t, by rw [ht]; trivial⟩
  dropped := h.dropped

theorem Inv.threadStep (h : Inv s) (hthread : s'.thread = Function.update s.thread t c)
    (hlinked : s'.con.listSendBuf.Linked) (hest : s'.con.nState = .established → s.con.nState = .established)
    (hfits : s'.con.nState = .established → c.Fits)
    (hreg : s'.con.nState = .established → s'.item.registered = s.item.registered)
    (hwit : s'.con.nState = .established → s'.con.HeadNext →
      s'.item.Awaits ∨ c.Sends ∨ (¬ (s.thread t).Sends ∧ s.con.HeadNext ∧ (s.item.Awaits → s'.item.Awaits)))
    (hdropped : s'.dropped = s.dropped) : Inv s' where
  linked := hlinked
  fits := fun he u => by
    rw [hthread]
    by_cases hu : u = t
    · subst hu
      rw [Function.update_self]
      exact hfits he
    · rw [Function.update_of_ne hu]
      exact h.fits (hest he) u
  registered := fun he => (hreg he).trans (h.registered (hest he))
  wit := fun he hn => by
    rcases hwit he hn with ha | hs | ⟨hs, hn', ha⟩
    · exact Or.inl ha
    · exact Or.inr ⟨t, by rw [hthread, Function.update_self]; exact hs⟩
    · rcases h.wit (hest he) hn' with haw | ⟨u, hu⟩
      · exact Or.inl (ha haw)
      · refine Or.inr ⟨u, ?_⟩
        have hne : u ≠ t := fun hut => hs (hut ▸ hu)
        rw [hthread, Function.update_of_ne hne]
        exact hu
  dropped := hdropped.trans h.dropped

theorem Inv.setThread (h : Inv s) (hfits : s.con.nState = .established → c.Fits)
    (hsends : (s.thread t).Sends → c.Sends) : Inv (s.setThread t c) := by
  refine h.threadStep rfl h.linked id hfits (fun _ => rfl) (fun _ hn => ?_) rfl
  by_cases hs : (s.thread t).Sends
  · exact Or.inr (Or.inl (hsends hs))
  · exact Or.inr (Or.inr ⟨hs, hn, id⟩)

theorem Inv.lock (h : Inv s) (hs : s.lock t c = some s') (hfits : s.con.nState = .established → c.Fits)
    (hsends : (s.thread t).Sends → c.Sends) : Inv s' := by
  unfold WriteEvents.lock at hs
  split at hs
  · cases hs
  · cases hs
    have h' : Inv { s with bLocked := true } := ⟨h.linked, h.fits, h.registered, h.wit, h.dropped⟩
    exact h'.setThread hfits hsends

theorem Inv.closeConnection (h : Inv s) : Inv (s.closeConnection env) where
  linked := by
    show (s.con.closeConnection env).listSendBuf.Linked
    rw [SendState.closeConnection_list]
    exact h.linked
  fits := fun he => (SendState.established_of_closeConnection he).elim
  registered := fun he => (SendState.established_of_closeConnection he).elim
  wit := fun he => (SendState.established_of_closeConnection he).elim
  dropped := h.dropped

theorem Inv.item {item : EpollItem} (h : Inv s) (hreg : item.registered = s.item.registered)
    (ha : s.item.Awaits → item.Awaits) : Inv { s with item := item } where
  linked := h.linked
  fits := h.fits
  registered := fun he => hreg.trans (h.registered he)
  wit := fun he hn => (h.wit he hn).imp_left ha
  dropped := h.dropped

theorem item_withCon {con : SendState} (h : con.nState = .established) : (s.withCon con).item = s.item :=
  if_pos h

/-- No event that is delivered carries `EPOLLIN` together with `EPOLLOUT`, and no `epoll_ctl` fails. -/
def stepOk (_ : WriteEvents) : Act → Prop
  | .deliver _ ev => ¬ (ev.epollin = true ∧ ev.epollout = true)
  | .clearWait _ bOk | .setWait _ bOk => bOk = true
  | .dispatch _ | .readEnd _ _ | .lockSend _ | .post _ _ | .push _ | .sendDataList _ | .round _ _
  | .checkError _ _ | .writable | .full | .close _ => True

instance : ∀ (s : WriteEvents) (a : Act), Decidable (stepOk s a)
  | _, .deliver _ ev => inferInstanceAs (Decidable (¬ (ev.epollin = true ∧ ev.epollout = true)))
  | _, .clearWait _ bOk | _, .setWait _ bOk => inferInstanceAs (Decidable (bOk = true))
  | _, .dispatch _ | _, .readEnd _ _ | _, .lockSend _ | _, .post _ _ | _, .push _ | _, .sendDataList _
  | _, .round _ _ | _, .checkError _ _ | _, .writable | _, .full | _, .close _ => isTrue trivial

theorem Inv.deliver {ev : EpollEvent} {item : EpollItem} (h : Inv s) (ht : s.thread t = .waiting)
    (hev : ¬ (ev.epollin = true ∧ ev.epollout = true)) (hd : s.item.deliver ev = some item) :
    Inv ({ s with item := item }.setThread t (.event ev)) := by
  refine h.threadStep rfl h.linked id (fun _ => hev) (fun _ => EpollItem.registered_deliver hd) (fun _ hn => ?_) rfl
  cases ho : ev.epollout with
  | true =>
    refine Or.inr (Or.inl ⟨?_, ho⟩)
    exact Bool.eq_false_iff.mpr fun hi => hev ⟨hi, ho⟩
  | false =>
    refine Or.inr (Or.inr ⟨?_, hn, fun ha => ha.deliver ho hd⟩)
    rw [ht]
    exact id

theorem Inv.dispatch {ev : EpollEvent} (h : Inv s) (ht : s.thread t = .event ev) :
    Inv (s.setThread t (WriteEvents.dispatch ev)) := by
  refine h.setThread (fun he => ?_) (fun hs => ?_)
  · have hev := h.fits he t
    rw [ht] at hev
    unfold WriteEvents.dispatch
    split
    · rename_i hi
      exact Bool.eq_false_iff.mpr fun ho => hev ⟨hi, ho⟩
    split
    · trivial
    · rename_i ho
      exact Or.inr (Bool.eq_false_iff.mpr ho)
  · rw [ht] at hs
    unfold WriteEvents.dispatch
    rw [hs.1, hs.2]
    trivial

theorem Inv.readEnd {ev : EpollEvent} (h : Inv s) (ht : s.thread t = .reading ev) (env : Option SendEnv) :
    Inv ((env.elim s s.closeConnection).setThread t (.checkError ev false)) := by
  have hback : Inv (s.setThread t (.checkError ev false)) := by
    refine h.setThread (fun he => ?_) (fun hs => ?_)
    · have hev := h.fits he t
      rw [ht] at hev
      exact Or.inr hev
    · rw [ht] at hs
      exact hs.elim
  cases env with
  | none => exact hback
  | some env => exact hback.closeConnection

theorem Inv.clearWait {ev : EpollEvent} (h : Inv s) (ht : s.thread t = .clearWait ev)
    (hs : s.step (.clearWait t true) = some s') : Inv s' := by
  simp only [step, ht, setWaitWritingEvent, Bool.true_and] at hs
  cases hreg : s.item.registered with
  | true =>
    rw [hreg] at hs
    cases hs
    exact h.threadStep rfl h.linked id (fun _ => trivial) (fun _ => rfl) (fun _ _ => Or.inr (Or.inl trivial)) rfl
  | false =>
    rw [hreg] at hs
    cases hs
    have hclosed : s.con.nState ≠ .established := fun he => Bool.noConfusion (hreg.symm.trans (h.registered he))
    exact h.threadStep rfl h.linked id (fun he => absurd he hclosed) (fun he => absurd he hclosed)
      (fun he => absurd he hclosed) rfl

theorem Inv.setWait {caller : SendCaller} (h : Inv s) (ht : s.thread t = .setWait caller) :
    Inv ((s.setWaitWritingEvent true true).1.unlock t caller.back) := by
  have hfits : s.con.nState = .established → caller.back.Fits := fun he =>
    EpollThread.fits_back (by have := h.fits he t; rw [ht] at this; exact this)
  unfold setWaitWritingEvent
  rw [Bool.true_and]
  by_cases hreg : s.item.registered = true
  · rw [if_pos hreg]
    exact h.threadStep rfl h.linked id hfits (fun _ => rfl) (fun _ _ => Or.inl (EpollItem.awaits_modify hreg)) rfl
  · rw [if_neg hreg]
    have hclosed : s.con.nState ≠ .established := fun he => hreg (h.registered he)
    exact h.threadStep rfl h.linked id hfits (fun he => absurd he hclosed) (fun he => absurd he hclosed) rfl

theorem Inv.push {pBufObj : CXBufferObj} {caller : SendCaller} (h : Inv s)
    (ht : s.thread t = .post pBufObj caller)
    (hs : s.step (.push t) = some s') : Inv s' := by
  have hfits : s.con.nState = .established → caller.Fits := fun he => by
    have := h.fits he t
    rw [ht] at this
    exact this
  simp only [step, ht] at hs
  rcases hp : s.con.postPush pBufObj with _ | ⟨con, r⟩
  · rw [hp] at hs
    cases hs
  obtain ⟨hlinked, hstate, hret⟩ := SendState.postPush_spec hp h.linked
  have hest : con.nState = .established → s.con.nState = .established := fun he => hstate ▸ he
  have hitem : con.nState = .established → (s.withCon con).item = s.item := fun he => item_withCon he
  rw [hp] at hs
  cases r with
  | some iRet =>
    cases hs
    refine h.threadStep rfl hlinked hest (fun he => EpollThread.fits_back (hfits (hest he)))
      (fun he => congrArg _ (hitem he)) (fun he hn => ?_) rfl
    obtain rfl := hret rfl he
    refine Or.inr (Or.inr ⟨by rw [ht]; exact id, hn, fun ha => ?_⟩)
    show ((s.withCon s.con).item).Awaits
    rw [hitem he]
    exact ha
  | none =>
    cases hs
    exact h.threadStep rfl hlinked hest (fun he => hfits (hest he)) (fun he => congrArg _ (hitem he))
      (fun _ _ => Or.inr (Or.inl trivial)) rfl

theorem Inv.round {nRet : Int} {bNeedClose : Bool} {caller : SendCaller} (h : Inv s)
    (ht : s.thread t = .sendList nRet bNeedClose caller) (hs : s.step (.round t env) = some s') : Inv s' := by
  have hfits : s.con.nState = .established → caller.Fits := fun he => by
    have := h.fits he t
    rw [ht] at this
    exact this
  simp only [step, ht] at hs
  rcases hr : s.con.sendRound env env.send nRet bNeedClose with _ | ⟨con, r⟩
  · rw [hr] at hs
    cases hs
  obtain ⟨hlinked, hest, hended⟩ := SendState.sendRound_spec hr
  have hitem : con.nState = .established → (s.withCon con).item = s.item := fun he => item_withCon he
  rw [hr] at hs
  cases r with
  | ended =>
    cases hs
    exact h.threadStep rfl (hlinked h.linked) hest (fun he => EpollThread.fits_back (hfits (hest he)))
      (fun he => congrArg _ (hitem he)) (fun _ hn => absurd hn (hended rfl)) rfl
  | again =>
    cases hs
    exact h.threadStep rfl (hlinked h.linked) hest (fun he => hfits (hest he)) (fun _ => rfl)
      (fun _ _ => Or.inr (Or.inl trivial)) rfl
  | next nRet' bNeedClose' answers =>
    cases hs
    exact h.threadStep rfl (hlinked h.linked) hest (fun he => hfits (hest he)) (fun he => congrArg _ (hitem he))
      (fun _ _ => Or.inr (Or.inl trivial)) rfl

theorem Inv.checkError {ev : EpollEvent} {bSent : Bool} (h : Inv s) (ht : s.thread t = .checkError ev bSent)
    (hs : s.step (.checkError t env) = some s') : Inv s' := by
  simp only [step, ht] at hs
  have hnot : ¬ (ev.epollout = true ∧ bSent = false ∧ s.con.nState = .established) := by
    rintro ⟨ho, hb, he⟩
    have hev := h.fits he t
    rw [ht] at hev
    rcases hev with hev | hev
    · exact Bool.noConfusion (hb.symm.trans hev)
    · exact Bool.noConfusion (hev.symm.trans ho)
  rw [if_neg hnot] at hs
  have hback : Inv (s.setThread t .waiting) := by
    refine h.setThread (fun _ => trivial) (fun hs => ?_)
    rw [ht] at hs
    exact hs.elim
  cases hs
  cases ev.epollerr with
  | true => exact hback.closeConnection
  | false => exact hback

theorem Inv.step {a : Act} (h : Inv s) (hok : stepOk s a) (hs : s.step a = some s') : Inv s' := by
  cases a with
  | deliver t ev =>
    cases ht : s.thread t <;> simp only [WriteEvents.step, ht] at hs <;> first | cases hs | skip
    obtain ⟨item, hd, rfl⟩ := Option.map_eq_some_iff.mp hs
    exact h.deliver ht hok hd
  | dispatch t =>
    cases ht : s.thread t <;> simp only [WriteEvents.step, ht] at hs <;> cases hs
    exact h.dispatch ht
  | readEnd t env =>
    cases ht : s.thread t <;> simp only [WriteEvents.step, ht] at hs <;> cases hs
    exact h.readEnd ht env
  | lockSend t =>
    cases ht : s.thread t <;> simp only [WriteEvents.step, ht] at hs <;> first | cases hs | skip
    exact h.lock hs (fun _ => trivial) (fun _ => trivial)
  | clearWait t bOk =>
    obtain rfl : bOk = true := hok
    cases ht : s.thread t with
    | clearWait ev => exact h.clearWait ht hs
    | _ => simp only [WriteEvents.step, ht] at hs; cases hs
  | post t pBufObj =>
    cases ht : s.thread t with
    | waiting =>
      simp only [WriteEvents.step, ht] at hs
      exact h.lock hs (fun _ => trivial) (fun h => by rw [ht] at h; exact h.elim)
    | reading ev =>
      simp only [WriteEvents.step, ht] at hs
      refine h.lock hs (fun he => ?_) (fun h => by rw [ht] at h; exact h.elim)
      have hev := h.fits he t
      rw [ht] at hev
      exact hev
    | _ => simp only [WriteEvents.step, ht] at hs; cases hs
  | push t =>
    cases ht : s.thread t with
    | post pBufObj caller => exact h.push ht hs
    | _ => simp only [WriteEvents.step, ht] at hs; cases hs
  | sendDataList t =>
    cases ht : s.thread t <;> simp only [WriteEvents.step, ht] at hs <;> first | cases hs | skip
    exact h.lock hs (fun _ => trivial) (fun _ => trivial)
  | round t env =>
    cases ht : s.thread t with
    | sendList nRet bNeedClose caller => exact h.round ht hs
    | _ => simp only [WriteEvents.step, ht] at hs; cases hs
  | setWait t bOk =>
    obtain rfl : bOk = true := hok
    cases ht : s.thread t <;> simp only [WriteEvents.step, ht] at hs <;> cases hs
    exact h.setWait ht
  | checkError t env =>
    cases ht : s.thread t with
    | checkError ev bSent => exact h.checkError ht hs
    | _ => simp only [WriteEvents.step, ht] at hs; cases hs
  | writable =>
    cases hs
    exact h.item EpollItem.registered_becomeWritable EpollItem.Awaits.becomeWritable
  | full =>
    cases hs
    exact h.item rfl EpollItem.Awaits.block
  | close env =>
    cases hs
    exact h.closeConnection

/-- While no thread works on the connection and its next packet is there, a write event is armed and not delivered;
and no delivered `EPOLLOUT` was dropped. -/
def Kept (s : WriteEvents) : Prop :=
  (s.con.nState = .established → (∀ t, s.thread t = .waiting) → s.con.HeadNext → s.item.Awaits) ∧ s.dropped = []

theorem Inv.kept (h : Inv s) : Kept s := by
  refine ⟨fun he hw hn => ?_, h.dropped⟩
  rcases h.wit he hn with ha | ⟨t, ht⟩
  · exact ha
  · rw [hw t] at ht
    exact ht.elim

/-- Without an event that carries both flags, and with an `epoll_ctl` that does not fail, no wakeup is lost. -/
theorem kept_of_reachable {s₀ s : WriteEvents} (h₀ : Started s₀) (h : Reachable (guarded stepOk step) s₀ s) :
    Kept s := by
  have hinv : Inv s := by
    refine h.invariant h₀.inv fun s a s' hi hs => ?_
    obtain ⟨hok, hs⟩ := guarded_eq_some.mp hs
    exact hi.step hok hs
  exact hinv.kept

theorem started_attached {con : SendState} (he : con.nState = .established)
    (hl : con.listSendBuf = SeqList.empty) :
    Started (attached con) where
  established := he
  registered := rfl
  linked := by
    show con.listSendBuf.Linked
    rw [hl]
    rfl
  thread := fun _ => Or.inl rfl
  sends := by
    rintro ⟨b, hb, -⟩
    have hb : b ∈ con.listSendBuf.head.head? := hb
    rw [hl] at hb
    cases hb
  dropped := rfl

/-- Four of ten bytes are written, then the socket is full. -/
def stallEnv : SendEnv where
  getFirstThreadCache _ := true
  getBuffer _ := true
  getCXBufferObj _ := true
  prepareData _ := none
  freedNumber n := n
  getFreeTaskObject := true
  send := [.written 4, .eagain]
  setWaitWritingEvent := true
  released _ := true

/-- A packet that stays in the list, with the write event armed; then the peer reads. -/
def stall : List Act :=
  [.post 0 ⟨1, List.replicate 10 7, 10, 0⟩, .push 0, .round 0 stallEnv, .setWait 0 true, .writable]

theorem kept_stall :
    ∃ s, runSteps (guarded stepOk step) (attached (SendState.fresh false false)) stall = some s ∧
      s.con.HeadNext ∧ Kept s := by
  obtain ⟨s, hs, hn⟩ : ∃ s, runSteps (guarded stepOk step) (attached (SendState.fresh false false)) stall = some s ∧
      s.con.HeadNext := ⟨_, rfl, ⟨_, rfl, rfl⟩⟩
  exact ⟨s, hs, hn, kept_of_reachable (started_attached rfl rfl) (Reachable.of_runSteps hs)⟩

/-- The room in the socket is reported together with data of the peer: the thread reads, and the packet stays. -/
theorem not_kept_merged :
    ¬ ∀ s₀ s : WriteEvents, Started s₀ → Reachable step s₀ s → Kept s := by
  intro h
  have hrun : runSteps step (attached (SendState.fresh false false))
      (stall ++ [.deliver 1 ⟨true, true, false⟩, .dispatch 1, .readEnd 1 none, .checkError 1 stallEnv]) = some _ := rfl
  obtain ⟨hwoken, -⟩ := h _ _ (started_attached rfl rfl) (Reachable.of_runSteps hrun)
  have hawaits := hwoken rfl (fun t => by rcases t with _ | _ | t <;> rfl) ⟨_, rfl, rfl⟩
  exact absurd hawaits (by decide)

end WriteEvents

end KonsanNet
