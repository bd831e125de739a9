import KonsanNet.ProxyConnect

/-!
# One socket for a proxy connection

The state changes only when the task has its socket, so a second call of `SendPacketData` starts a second task:
both connect, and the second `OnCreated` takes the place of the first socket. A task that fails leaves the state
and the list as they are. In a run without these a call that has the lock of a `CREATING` connection finds no task,
so what its two tests of the state find is still so when it starts one (`Inv.starts`).
-/

namespace KonsanNet

namespace ProxyConnect

variable {s s' : ProxyConnect} {i j : Nat} {c c' : SendPacketCall} {t : CreateTask}

/-- The calls that have `m_lockSend`. -/
def holders (s : ProxyConnect) : Nat := s.calls.countP SendPacketCall.holds

structure Inv (s : ProxyConnect) : Prop where
  alone : s.holders ≤ 1
  free : s.nState = .creating → 0 < s.holders → s.tasks = []
  starts : SendPacketCall.createTask ∈ s.calls → s.uiCreated = 0 ∧ s.tasks = []
  single : s.tasks.length ≤ 1
  created : s.uiCreated ≤ 1
  fresh : s.nState = .creating → s.uiCreated = 0
  connects : ∀ t ∈ s.tasks, t.connects = true → s.uiCreated = 0
  connected : ∀ t ∈ s.tasks, t.connects = false → s.nState ≠ .creating
  sends : s.nState = .creating → s.listSendBuf ≠ [] → s.tasks ≠ [] ∨ ∃ c ∈ s.calls, c.settles = true

theorem Inv.oneSocket (h : Inv s) : OneSocket s := ⟨fun _ => h.single, h.created, h.sends⟩

theorem inv_built : Inv built where
  alone := Nat.zero_le _
  free _ _ := rfl
  starts hc := absurd hc List.not_mem_nil
  single := Nat.zero_le _
  created := Nat.zero_le _
  fresh _ := rfl
  connects _ ht := absurd ht List.not_mem_nil
  connected _ ht := absurd ht List.not_mem_nil
  sends _ hl := absurd rfl hl

/-! ### What the sections leave alone -/

theorem closeConnection_nState (s : ProxyConnect) (bZero : Bool) :
    (s.closeConnection bZero).nState ≠ .creating := by
  unfold closeConnection
  by_cases h : s.nState = .closed
  · rw [if_pos h, h]
    exact nofun
  · rw [if_neg h]
    cases bZero <;> exact nofun

theorem closeConnection_frame (s : ProxyConnect) (bZero : Bool) :
    (s.closeConnection bZero).uiCreated = s.uiCreated ∧ (s.closeConnection bZero).calls = s.calls ∧
      (s.closeConnection bZero).tasks = s.tasks := by
  unfold closeConnection
  split <;> exact ⟨rfl, rfl, rfl⟩

theorem sendDataList_nState (r : SentList) (h : s.nState ≠ .creating) :
    (s.sendDataList r).nState ≠ .creating := by
  unfold sendDataList
  cases hr : r.bClosed with
  | none => exact h
  | some bZero => exact closeConnection_nState _ bZero

theorem sendDataList_frame (s : ProxyConnect) (r : SentList) :
    (s.sendDataList r).uiCreated = s.uiCreated ∧ (s.sendDataList r).calls = s.calls ∧
      (s.sendDataList r).tasks = s.tasks := by
  unfold sendDataList
  cases hr : r.bClosed with
  | none => exact ⟨rfl, rfl, rfl⟩
  | some bZero => exact closeConnection_frame _ bZero

/-! ### The lock -/

theorem holders_setCall (h : s.calls[i]? = some c) :
    (s.setCall i c').holders + (if c.holds then 1 else 0) = s.holders + if c'.holds then 1 else 0 := by
  obtain ⟨hi, hget⟩ := List.getElem?_eq_some_iff.mp h
  have hset : (s.setCall i c').holders = s.holders - (if c.holds then 1 else 0) + if c'.holds then 1 else 0 := by
    have hcount := List.countP_set (p := SendPacketCall.holds) (a := c') hi
    rwa [hget] at hcount
  have hpos : (if c.holds then 1 else 0) ≤ s.holders := by
    split
    · rename_i hc
      exact List.countP_pos_iff.mpr ⟨c, List.mem_of_getElem? h, hc⟩
    · exact Nat.zero_le _
  omega

theorem holders_endCall (h : s.calls[i]? = some c) :
    (s.endCall i).holders + (if c.holds then 1 else 0) = s.holders := by
  obtain ⟨hi, hget⟩ := List.getElem?_eq_some_iff.mp h
  have hperm := (List.getElem_cons_eraseIdx_perm hi).countP_eq SendPacketCall.holds
  rw [hget, List.countP_cons] at hperm
  exact hperm

theorem holders_pos (h : s.calls[i]? = some c) (hc : c.holds = true) : 0 < s.holders :=
  List.countP_pos_iff.mpr ⟨c, List.mem_of_getElem? h, hc⟩

theorem holders_eq_zero (h : ¬ s.Locked) : s.holders = 0 :=
  List.countP_eq_zero.mpr fun c hc hholds => h ⟨c, hc, hholds⟩

theorem createTask_notMem (h : s.holders = 0) : SendPacketCall.createTask ∉ s.calls :=
  fun hc => List.countP_eq_zero.mp h _ hc rfl

namespace Inv

/-- A connection that is not `CREATING`, whose tasks are among those of before. -/
theorem notCreating (h : Inv s) (hn : s'.nState ≠ .creating) (hu : s'.uiCreated = s.uiCreated)
    (ht : s'.tasks.Sublist s.tasks) (halone : s'.holders ≤ 1)
    (hc : SendPacketCall.createTask ∈ s'.calls → SendPacketCall.createTask ∈ s.calls) : Inv s' where
  alone := halone
  free hc := absurd hc hn
  starts hm := by
    obtain ⟨hzero, hnil⟩ := h.starts (hc hm)
    exact ⟨hu ▸ hzero, List.sublist_nil.mp (hnil ▸ ht)⟩
  single := ht.length_le.trans h.single
  created := hu ▸ h.created
  fresh hc := absurd hc hn
  connects t hm := hu ▸ h.connects t (ht.subset hm)
  connected _ _ _ := hn
  sends hc := absurd hc hn

/-- Only calls have gone on, and if one that sees to the list has ended, there is nothing to see to. -/
theorem ofCalls (h : Inv s) (hn : s'.nState = s.nState) (hu : s'.uiCreated = s.uiCreated)
    (ht : s'.tasks = s.tasks) (halone : s'.holders ≤ 1)
    (hfree : s.nState = .creating → s.holders < s'.holders → s.tasks = [])
    (hc : SendPacketCall.createTask ∈ s'.calls → s.uiCreated = 0 ∧ s.tasks = [])
    (hs : s.nState = .creating → s'.listSendBuf ≠ [] → s.tasks ≠ [] ∨ ∃ c ∈ s'.calls, c.settles = true) : Inv s' where
  alone := halone
  free hc hpos := by
    have hc : s.nState = .creating := hn ▸ hc
    rw [ht]
    rcases Nat.eq_zero_or_pos s.holders with hzero | hpos'
    · exact hfree hc (hzero ▸ hpos)
    · exact h.free hc hpos'
  starts hm := hu ▸ ht ▸ hc hm
  single := ht ▸ h.single
  created := hu ▸ h.created
  fresh hc := hu ▸ h.fresh (hn ▸ hc)
  connects t hm := hu ▸ h.connects t (ht ▸ hm)
  connected t hm hp := hn ▸ h.connected t (ht ▸ hm) hp
  sends hc hl := ht ▸ hs (hn ▸ hc) hl

/-- There is one task, and no call has the lock of a connection that is `CREATING`. -/
theorem ofTask (halone : s'.holders ≤ 1) (hfree : s'.nState = .creating → s'.holders = 0)
    (hstarts : SendPacketCall.createTask ∉ s'.calls)
    (ht : s'.tasks = [t]) (hu : s'.uiCreated ≤ 1) (hf : s'.nState = .creating → s'.uiCreated = 0)
    (hc : t.connects = true → s'.uiCreated = 0) (hn : t.connects = false → s'.nState ≠ .creating) : Inv s' where
  alone := halone
  free hc hpos := absurd (hfree hc) hpos.ne'
  starts hm := absurd hm hstarts
  single := ht ▸ le_rfl
  created := hu
  fresh := hf
  connects t' hm := by
    rw [ht, List.mem_singleton] at hm
    exact hm ▸ hc
  connected t' hm := by
    rw [ht, List.mem_singleton] at hm
    exact hm ▸ hn
  sends _ _ := Or.inl (ht ▸ List.cons_ne_nil _ _)

theorem noTask (h : Inv s) (hn : s'.nState = s.nState) (hu : s'.uiCreated = s.uiCreated) (ht : s'.tasks = [])
    (hcalls : s'.calls = s.calls) (hs : s'.nState = .creating → s'.listSendBuf = []) : Inv s' where
  alone := (congrArg (List.countP _) hcalls).trans_le h.alone
  free _ _ := ht
  starts hm := ⟨hu ▸ (h.starts (hcalls ▸ hm)).1, ht⟩
  single := ht ▸ Nat.zero_le _
  created := hu ▸ h.created
  fresh hc := hu ▸ h.fresh (hn ▸ hc)
  connects _ hm := absurd (ht ▸ hm) List.not_mem_nil
  connected _ hm := absurd (ht ▸ hm) List.not_mem_nil
  sends hc hl := absurd (hs hc) hl

/-- A call that is about to start a task is the only one that has the lock, and there is no task. -/
theorem createTask_notMem_of_task (h : Inv s) (ht : s.tasks ≠ []) : SendPacketCall.createTask ∉ s.calls :=
  fun hm => ht (h.starts hm).2

theorem eq_singleton (h : Inv s) (ht : s.tasks[j]? = some t) : s.tasks = [t] ∧ j = 0 := by
  have hj : j < s.tasks.length := (List.getElem?_eq_some_iff.mp ht).1
  have hone := h.single
  obtain ⟨t', hts⟩ := List.length_eq_one_iff.mp (show s.tasks.length = 1 by omega)
  rw [hts] at ht hj
  have hj0 : j = 0 := by
    rw [List.length_singleton] at hj
    omega
  subst hj0
  cases ht
  exact ⟨hts, rfl⟩

end Inv

theorem settles_set (h : s.calls[i]? = some c) (hc : c.settles = true → c'.settles = true)
    (hs : ∃ d ∈ s.calls, d.settles = true) : ∃ d ∈ s.calls.set i c', d.settles = true := by
  obtain ⟨d, hd, hset⟩ := hs
  obtain ⟨hi, hget⟩ := List.getElem?_eq_some_iff.mp h
  obtain ⟨k, hk, rfl⟩ := List.mem_iff_getElem.mp hd
  by_cases hki : k = i
  · subst hki
    rw [hget] at hset
    exact ⟨c', List.mem_set hi _, hc hset⟩
  · refine ⟨s.calls[k], List.mem_iff_getElem.mpr ⟨k, by rwa [List.length_set], ?_⟩, hset⟩
    exact List.getElem_set_of_ne (Ne.symm hki) ..

theorem settles_eraseIdx (h : s.calls[i]? = some c) (hc : c.settles = false)
    (hs : ∃ d ∈ s.calls, d.settles = true) : ∃ d ∈ s.calls.eraseIdx i, d.settles = true := by
  obtain ⟨d, hd, hset⟩ := hs
  obtain ⟨k, hk, hget⟩ := List.mem_iff_getElem.mp hd
  refine ⟨d, List.mem_eraseIdx_iff_getElem?.mpr ⟨k, ?_, by rw [List.getElem?_eq_getElem hk, hget]⟩, hset⟩
  rintro rfl
  rw [List.getElem?_eq_getElem hk, hget] at h
  cases h
  rw [hc] at hset
  cases hset

theorem settles_of_set (h : s.calls[i]? = some c) (hc : c'.settles = true) :
    ∃ d ∈ s.calls.set i c', d.settles = true :=
  ⟨c', List.mem_set (List.getElem?_eq_some_iff.mp h).1 _, hc⟩

namespace Inv

/-- The next section of a call, which takes the lock only if there is no task or the state is another one. -/
theorem setCall (h : Inv s) (hi : s.calls[i]? = some c) (hc : c.settles = true → c'.settles = true)
    (hlock : c'.holds = true → c.holds = true ∨ s.holders = 0 ∧ (s.nState = .creating → s.tasks = []))
    (hstarts : c' = .createTask → s.uiCreated = 0 ∧ s.tasks = []) : Inv (s.setCall i c') := by
  have hcount : (s.setCall i c').holders + (if c.holds then 1 else 0) = s.holders + if c'.holds then 1 else 0 :=
    holders_setCall hi
  have halone := h.alone
  refine h.ofCalls rfl rfl rfl ?_ ?_ ?_ fun hn hl => (h.sends hn hl).imp_right (settles_set hi hc)
  · by_cases hc' : c'.holds = true
    · rcases hlock hc' with hholds | ⟨hzero, -⟩
      · rw [hholds, hc'] at hcount
        omega
      · rw [if_pos hc'] at hcount
        omega
    · rw [if_neg hc'] at hcount
      omega
  · intro hn hlt
    by_cases hc' : c'.holds = true
    · rcases hlock hc' with hholds | ⟨-, hnil⟩
      · rw [hholds, hc'] at hcount
        omega
      · exact hnil hn
    · rw [if_neg hc'] at hcount
      omega
  · intro hm
    rcases List.mem_or_eq_of_mem_set hm with hm | hm
    · exact h.starts hm
    · exact hstarts hm.symm

theorem endCall (h : Inv s) (hi : s.calls[i]? = some c) (hc : s.nState = .creating → c.settles = false) :
    Inv (s.endCall i) := by
  have hcount := holders_endCall hi
  have halone := h.alone
  exact h.ofCalls rfl rfl rfl (by omega) (fun _ hlt => by omega)
    (fun hm => h.starts (List.mem_of_mem_eraseIdx hm))
    fun hn hl => (h.sends hn hl).imp_right (settles_eraseIdx hi (hc hn))

/-! ### The steps -/

theorem push (h : Inv s) {strRequestID : String} (hi : s.calls[i]? = some (.sendPacket strRequestID)) :
    Inv ({ s with listSendBuf := s.listSendBuf ++ [strRequestID] }.setCall i .pushed) := by
  have hset : Inv (s.setCall i .pushed) := h.setCall hi nofun (fun _ => .inl rfl) nofun
  exact ⟨hset.alone, hset.free, hset.starts, hset.single, hset.created, hset.fresh, hset.connects, hset.connected,
    fun _ _ => Or.inr (settles_of_set hi rfl)⟩

/-- A call with the lock that has found the connection `CREATING` starts a task. -/
theorem startTask (h : Inv s) (hi : s.calls[i]? = some .createTask) :
    Inv ({ s with tasks := s.tasks ++ [CreateTask.connecting] }.endCall i) := by
  obtain ⟨hzero, hnil⟩ := h.starts (List.mem_of_getElem? hi)
  have hcount : (s.endCall i).holders + 1 = s.holders := holders_endCall hi
  have halone := h.alone
  have hnone : (s.endCall i).holders = 0 := by omega
  have htasks : s.tasks ++ [CreateTask.connecting] = [.connecting] := by rw [hnil, List.nil_append]
  exact ofTask (hnone.le.trans (Nat.zero_le 1)) (fun _ => hnone) (createTask_notMem hnone) htasks h.created
    (fun _ => hzero)
    (fun _ => hzero) nofun

theorem freeList (h : Inv s) : Inv { s with listSendBuf := [] } :=
  h.ofCalls rfl rfl rfl h.alone (fun _ hlt => absurd hlt (Nat.lt_irrefl _)) h.starts fun _ hl => absurd rfl hl

theorem callStep {env : CallEnv} (h : Inv s) (hi : s.calls[i]? = some c)
    (hok : c.waits = true → s.nState = .creating → s.tasks = []) (hs : s.callStep i env c = some s') : Inv s' := by
  cases c with
  | lockSend strRequestID =>
    rw [ProxyConnect.callStep] at hs
    split at hs
    · cases hs
    · rename_i hlocked
      cases hs
      exact h.setCall hi nofun (fun _ => .inr ⟨holders_eq_zero hlocked, hok rfl⟩) nofun
  | sendPacket strRequestID =>
    rw [ProxyConnect.callStep] at hs
    split at hs
    · cases hs
      exact h.endCall hi fun _ => rfl
    · cases hs
      exact h.push hi
  | pushed =>
    rw [ProxyConnect.callStep] at hs
    split at hs
    · rename_i hest
      obtain ⟨hu, hcalls, ht⟩ := sendDataList_frame s env.sent
      have hn : (s.sendDataList env.sent).nState ≠ .creating := sendDataList_nState _ (by rw [hest]; exact nofun)
      have hsent : Inv (s.sendDataList env.sent) := h.notCreating hn hu (ht ▸ List.Sublist.refl _)
        ((congrArg (List.countP _) hcalls).trans_le h.alone) (fun hm => hcalls ▸ hm)
      have hi' : (s.sendDataList env.sent).calls[i]? = some .pushed := hcalls ▸ hi
      split at hs
      · cases hs
        exact hsent.endCall hi' fun hc => absurd hc hn
      · cases hs
        exact hsent.setCall hi' (fun _ => rfl) (fun _ => .inl rfl) nofun
    · cases hs
      exact h.setCall hi (fun _ => rfl) (fun _ => .inl rfl) nofun
  | sent =>
    rw [ProxyConnect.callStep] at hs
    split at hs
    · cases hs
      exact h.setCall hi (fun _ => rfl) (fun _ => .inl rfl) nofun
    · rename_i hn
      cases hs
      exact h.endCall hi fun hc => absurd hc hn
  | asyncConnect =>
    rw [ProxyConnect.callStep] at hs
    split at hs
    · rename_i hn
      cases hs
      -- the call has the lock, so there is no task
      exact h.setCall hi (fun _ => rfl) (fun _ => .inl rfl) fun _ => ⟨h.fresh hn, h.free hn (holders_pos hi rfl)⟩
    · rename_i hn
      cases hs
      exact h.endCall hi fun hc => absurd hc hn
  | createTask =>
    rw [ProxyConnect.callStep] at hs
    split at hs
    · cases hs
      exact h.startTask hi
    · cases hs
      exact h.setCall hi (fun _ => rfl) nofun nofun
  | freeSendingList =>
    rw [ProxyConnect.callStep] at hs
    split at hs
    · cases hs
    · cases hs
      have hcount : (s.endCall i).holders + 0 = s.holders := holders_endCall hi
      have halone := h.alone
      exact h.ofCalls rfl rfl rfl (hcount.trans_le halone) (fun _ hlt => absurd hlt (hcount ▸ Nat.lt_irrefl _))
        (fun hm => h.starts (List.mem_of_mem_eraseIdx hm)) fun _ hl => absurd rfl hl

theorem taskStep {env : TaskEnv} (h : Inv s) (hj : s.tasks[j]? = some t)
    (hok : t = .connecting → env.bConnected = false → s.nState = .creating → s.listSendBuf = [])
    (hs : s.taskStep j env t = some s') : Inv s' := by
  obtain ⟨htasks, rfl⟩ := h.eq_singleton hj
  have hmem : t ∈ s.tasks := List.mem_of_getElem? hj
  have hne : s.tasks ≠ [] := List.ne_nil_of_mem hmem
  have herase : s.tasks.eraseIdx 0 = [] := by rw [htasks]; rfl
  have hset (t' : CreateTask) : s.tasks.set 0 t' = [t'] := by rw [htasks]; rfl
  have hcalls : SendPacketCall.createTask ∉ s.calls := h.createTask_notMem_of_task hne
  -- while there is a task, nobody has the lock of a connection that is `CREATING`
  have hfree : s.nState = .creating → s.holders = 0 := fun hn =>
    Nat.eq_zero_of_not_pos fun hpos => hne (h.free hn hpos)
  cases t with
  | connecting =>
    rw [ProxyConnect.taskStep] at hs
    split at hs
    · cases hs
      exact ofTask h.alone hfree hcalls (hset .connected) h.created h.fresh (fun _ => h.connects _ hmem rfl) nofun
    · rename_i hfail
      cases hs
      exact h.noTask rfl rfl herase rfl (hok rfl (Bool.eq_false_iff.mpr hfail))
  | connected =>
    rw [ProxyConnect.taskStep] at hs
    cases hs
    have hu : s.uiCreated + 1 ≤ 1 := by rw [h.connects _ hmem rfl]
    exact ofTask h.alone nofun hcalls (hset .created) hu nofun nofun fun _ => nofun
  | created =>
    rw [ProxyConnect.taskStep] at hs
    split at hs
    · cases hs
      exact ofTask h.alone nofun hcalls (hset .attached) h.created nofun nofun fun _ => nofun
    · cases hs
      exact h.notCreating nofun rfl (List.eraseIdx_sublist ..) h.alone id
  | attached =>
    rw [ProxyConnect.taskStep] at hs
    split at hs
    · cases hs
    · cases hs
      obtain ⟨hu, hcalls', ht⟩ := sendDataList_frame s env.sent
      refine h.notCreating (sendDataList_nState _ (h.connected _ hmem rfl)) hu ?_
        ((congrArg (List.countP _) hcalls').trans_le h.alone) (fun hm => ?_)
      · show ((s.sendDataList env.sent).tasks.eraseIdx 0).Sublist _
        rw [ht]
        exact List.eraseIdx_sublist ..
      · have hm : SendPacketCall.createTask ∈ (s.sendDataList env.sent).calls := hm
        rwa [hcalls'] at hm

theorem step {a : Action} (h : Inv s) (hok : s.Orderly a) (hs : s.step a = some s') : Inv s' := by
  cases a with
  | sendPacketData strRequestID =>
    cases hs
    have hcount : (s.calls ++ [SendPacketCall.lockSend strRequestID]).countP SendPacketCall.holds = s.holders :=
      List.countP_append.trans (Nat.add_zero _)
    refine h.ofCalls rfl rfl rfl (hcount.trans_le h.alone) (fun _ hlt => absurd hlt (hcount ▸ Nat.lt_irrefl _))
      (fun hm => ?_) fun hn hl => (h.sends hn hl).imp_right ?_
    · rcases List.mem_append.mp hm with hm | hm
      · exact h.starts hm
      · cases List.mem_singleton.mp hm
    · rintro ⟨c, hc, hset⟩
      exact ⟨c, List.mem_append_left _ hc, hset⟩
  | call i env =>
    obtain ⟨c, hi, hs⟩ := Option.bind_eq_some_iff.mp hs
    refine h.callStep hi (fun hc => hok ?_) hs
    rw [hi]
    exact hc
  | task j env =>
    obtain ⟨t, hj, hs⟩ := Option.bind_eq_some_iff.mp hs
    exact h.taskStep hj (fun ht => hok (ht ▸ hj)) hs
  | freeSendingList =>
    rw [ProxyConnect.step] at hs
    split at hs
    · cases hs
    · cases hs
      exact h.freeList
  | closeConnection bZero =>
    cases hs
    obtain ⟨hu, hcalls, ht⟩ := closeConnection_frame s bZero
    exact h.notCreating (closeConnection_nState s bZero) hu (ht ▸ List.Sublist.refl _)
      ((congrArg (List.countP _) hcalls).trans_le h.alone) (fun hm => hcalls ▸ hm)
  | detachProxyConnection =>
    cases hs
    exact h.ofCalls rfl rfl rfl h.alone (fun _ hlt => absurd hlt (Nat.lt_irrefl _)) h.starts h.sends
  | getProxyConnection =>
    rw [ProxyConnect.step] at hs
    split at hs
    · split at hs
      · cases hs
        exact h.ofCalls rfl rfl rfl h.alone (fun _ hlt => absurd hlt (Nat.lt_irrefl _)) h.starts h.sends
      · rename_i hest
        cases hs
        have hnil : s.tasks = [] := hok hest
        refine ⟨h.alone, fun _ _ => hnil, fun _ => ⟨rfl, hnil⟩, ?_, Nat.zero_le _, fun _ => rfl, fun _ _ _ => rfl,
          fun t ht => ?_, fun _ hl => absurd rfl hl⟩
        · show s.tasks.length ≤ 1
          rw [hnil]
          exact Nat.zero_le _
        · have ht' : t ∈ s.tasks := ht
          rw [hnil] at ht'
          exact absurd ht' List.not_mem_nil
    · cases hs

end Inv

theorem inv_of_reachable (h : Reachable (guarded Orderly step) built s) : Inv s :=
  h.invariant inv_built fun _ _ _ hi hs => hi.step (guarded_eq_some.mp hs).1 (guarded_eq_some.mp hs).2

/-- In a run that is orderly there is one socket for each `Build`, and no packet is left behind. -/
theorem oneSocket_of_reachable (h : Reachable (guarded Orderly step) built s) : OneSocket s :=
  (inv_of_reachable h).oneSocket

/-- A call up to the start of its task, when no other call is before it. -/
def callUp : List Action := List.replicate 6 (.call 0 ⟨true, ⟨0, none, false⟩, true⟩)

def taskTurn (j : Nat) (bConnected : Bool) : Action := .task j ⟨bConnected, true, ⟨1, none, false⟩⟩

def connectRun : List Action := .sendPacketData "1" :: callUp ++ List.replicate 4 (taskTurn 0 true)

theorem oneSocket_connectRun : OneSocket ⟨.established, [], 1, false, [], []⟩ :=
  oneSocket_of_reachable (Reachable.of_runSteps (show runSteps (guarded Orderly step) built connectRun = some _ from rfl))

/-- Two calls before the connection is made: two tasks, and two sockets. -/
def twiceRun : List Action :=
  [.sendPacketData "1", .sendPacketData "2"] ++ callUp ++ callUp ++ List.replicate 3 (taskTurn 0 true) ++
    List.replicate 2 (taskTurn 1 true)

theorem not_oneSocket_twice : ¬ ∀ s, Reachable step built s → OneSocket s := by
  intro h
  have htwice := h ⟨.established, ["1", "2"], 2, false, [], [.attached, .created]⟩
    (Reachable.of_runSteps (show runSteps step built twiceRun = some _ from rfl))
  exact absurd htwice.created (by decide)

/-- A call whose connect fails: its packet stays behind. -/
def failedRun : List Action := .sendPacketData "1" :: callUp ++ [taskTurn 0 false]

theorem stranded_failed : ∃ s, Reachable step built s ∧ s.nState = .creating ∧ s.listSendBuf = ["1"] ∧
    s.tasks = [] ∧ s.calls = [] :=
  ⟨_, Reachable.of_runSteps (show runSteps step built failedRun = some _ from rfl), rfl, rfl, rfl, rfl⟩

end ProxyConnect

end KonsanNet
