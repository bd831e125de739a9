import Mathlib.Tactic
import KonsanNet.CloseQueue
import KonsanNet.RequestsInv

/-!
# From the bytes of a stream to the handlers, over the message queue

The runs of `RequestRun` with the message queue as it is in the memory. As long as each operation on it meets its
condition, the handlers are called with the bodies of the packets in their order (`handled_in_order`), and a run
stops only at rest (`goes_on`).
-/

namespace KonsanNet

namespace RequestRun

variable {env : RecvEnv} {bAsync : Nat → Bool} {packets : List PlainPacket} {r : RequestRun} {l : List CXMessageData}

/-- Other messages in the queue. -/
def putQueue (r : RequestRun) (l : List CXMessageData) : RequestRun := { r with conn := r.conn.putQueue l }

theorem step_putQueue_of {a : ConnectionAct} (l' : List CXMessageData → List CXMessageData)
    (h : (r.conn.putQueue l).step env bAsync a =
      (r.conn.step env bAsync a).map fun c => c.putQueue (l' c.dispatch.queue)) :
    (r.putQueue l).step env bAsync a = (r.step env bAsync a).map fun q => q.putQueue (l' q.conn.dispatch.queue) := by
  show ((r.conn.putQueue l).step env bAsync a).map _ = ((r.conn.step env bAsync a).map _).map _
  rw [h, Option.map_map, Option.map_map]
  cases a <;> rfl

/-- A run, with the message queue to be replaced. -/
def overQueue (env : RecvEnv) (bAsync : Nat → Bool) : QueueSystem RequestRun ConnectionAct CXMessageData where
  step := step env bAsync
  get r := r.conn.dispatch.queue
  put := putQueue
  takes r a := r.conn.takes a
  get_put _ _ := rfl
  put_put _ _ _ := rfl
  put_get _ := rfl
  takes_put r l a := (Connection.overQueue env bAsync).takes_put r.conn l a
  step_adds r l a ha := step_putQueue_of (fun q => l ++ q) ((Connection.overQueue env bAsync).step_adds r.conn l a ha)
  step_takes r m l a ha :=
    step_putQueue_of (r := r.putQueue [m]) (fun _ => l) ((Connection.overQueue env bAsync).step_takes r.conn m l a ha)
  step_nil r a ha := by
    have h := (Connection.overQueue env bAsync).step_nil r.conn a ha
    show ((r.conn.putQueue []).step env bAsync a).map _ = none
    rw [show (r.conn.putQueue []).step env bAsync a = none from h]
    rfl

theorem allows_putQueue (a : ConnectionAct) : (r.putQueue l).allows packets a = r.allows packets a := by
  cases a <;> rfl

/-- The connection of the run, with its message queue. -/
def nodeConn (s : RequestRun × NodeQueue CXMessageData) : NodeConnection := (s.1.conn, s.2)

variable {s : RequestRun × NodeQueue CXMessageData} {f g a : Bool}

theorem atRest_iff (hrest : s.1 = r.putQueue []) (hsize : s.2.size = r.conn.dispatch.queue.length) :
    (nodeConn s).AtRest ↔ r.conn.AtRest :=
  NodeConnection.atRest_iff (congrArg RequestRun.conn hrest) hsize

/-- A run whose operations on the queue meet their conditions is one of `RequestRun`. -/
theorem exists_of_queueOk (h : Reachable (guarded ((overQueue env bAsync).StepOk fun r b => r.allows packets b = true)
      (overQueue env bAsync).nodeStep) (start f g a, .construct) s) :
    ∃ r, (overQueue env bAsync).Refines s r ∧
      Reachable (guarded (fun r b => r.allows packets b = true) (step env bAsync)) (start f g a) r :=
  QueueSystem.exists_of_queueOk _ (fun r l b => by rw [← allows_putQueue (r := r) b]; rfl) rfl h

/-- In every state of the run the handlers were called with the bodies of the first packets, in their order and
each once, of no packet whose last byte has not been received; and at rest, of every packet that was received. -/
theorem handled_in_order (hserve : ∀ p ∈ packets, env.Serves p)
    (h : Reachable (guarded ((overQueue env bAsync).StepOk fun r b => r.allows packets b = true)
      (overQueue env bAsync).nodeStep) (start f g a, .construct) s) :
    s.1.handled <+: messagesOf (completeIn packets s.1.bufs.flatten.length) ∧
      ((nodeConn s).AtRest → s.1.handled = messagesOf (completeIn packets s.1.bufs.flatten.length)) := by
  obtain ⟨r, href, hr⟩ := exists_of_queueOk h
  obtain ⟨ms, R, hi⟩ := inv_of_reachable hserve hr
  rw [atRest_iff href.rest href.size, show s.1 = r.putQueue [] from href.rest]
  exact ⟨hi.handled_prefix, hi.handled_of_rest⟩

/-- The runs of `RequestRun` with few messages in the list. -/
theorem exists_of_short (h : Reachable (guarded
    (fun r b => r.allows packets b = true ∧ (overQueue env bAsync).Short r b) (overQueue env bAsync).step)
    (start f g a) r) :
    ∃ s : RequestRun × NodeQueue CXMessageData, s.1 = r.putQueue [] ∧ s.2.size = r.conn.dispatch.queue.length ∧
      Reachable (guarded ((overQueue env bAsync).StepOk fun r b => r.allows packets b = true)
        (overQueue env bAsync).nodeStep) (start f g a, .construct) s := by
  obtain ⟨s, hroomy, hs⟩ := QueueSystem.exists_of_short (fun (r : RequestRun) b => r.allows packets b = true)
    (fun r l b => by rw [← allows_putQueue (r := r) b]; rfl) rfl h
  exact ⟨s, hroomy.rest, hroomy.size, hs⟩

theorem handled_in_order_twoBufs : ∃ s,
    Reachable (guarded ((overQueue RecvState.undecryptableEnv fun k => k == 2).StepOk
      fun r b => r.allows twoPackets b = true) (overQueue RecvState.undecryptableEnv fun k => k == 2).nodeStep)
      (start false false false, .construct) s ∧
    s.1.bufs = twoBufs ∧ (nodeConn s).AtRest ∧
    s.1.handled = messagesOf (completeIn twoPackets s.1.bufs.flatten.length) := by
  obtain ⟨r, hrun⟩ : ∃ r, runSteps (guarded
      (fun r b => r.allows twoPackets b = true ∧ (overQueue RecvState.undecryptableEnv fun k => k == 2).Short r b)
      (overQueue RecvState.undecryptableEnv fun k => k == 2).step) (start false false false)
      (twoBufsRun ++ [.post ⟨0, 1, 0, 2, []⟩, .run 1, .run 1, .run 1]) = some r := ⟨_, rfl⟩
  obtain ⟨s, hs, hsize, hreach⟩ := exists_of_short (Reachable.of_runSteps hrun)
  have hlog : r.conn.dispatch.log = [.entered 1, .completed 1, .entered 2, .completed 2] := by
    cases hrun
    rfl
  have hrest : (nodeConn s).AtRest := by
    refine (atRest_iff hs hsize).mpr ⟨?_, ?_, ?_, fun w => ?_, fun k hk => by simpa [hlog] using hk⟩
    · cases hrun
      rfl
    · cases hrun
      rfl
    · cases hrun
      rfl
    · cases hrun
      match w with
      | 0 => rfl
      | 1 => rfl
      | _ + 2 => rfl
  refine ⟨s, hreach, ?_, hrest, (handled_in_order serves_twoPackets hreach).2 hrest⟩
  rw [hs]
  cases hrun
  rfl

/-- A run stops only at rest: before, some thread can go on or the end of an asynchronous message be posted, if what
the step does with the queue meets its condition. -/
theorem goes_on (hserve : ∀ p ∈ packets, env.Serves p)
    (h : Reachable (guarded ((overQueue env bAsync).StepOk fun r b => r.allows packets b = true)
      (overQueue env bAsync).nodeStep) (start f g a, .construct) s) :
    (nodeConn s).AtRest ∨ ∃ act, (∀ bytes, act ≠ .recvData bytes) ∧ s.1.allows packets act = true ∧
      ∀ newOk, (overQueue env bAsync).QueueOk s (act, newOk) →
        ∃ s', (overQueue env bAsync).nodeStep s (act, newOk) = some s' := by
  obtain ⟨r, href, hr⟩ := exists_of_queueOk h
  rcases atRest_or_exists_step hserve hr with hr' | ⟨act, r', hne, hs⟩
  · exact .inl ((atRest_iff href.rest href.size).mpr hr')
  · obtain ⟨hallow, hstep⟩ := guarded_eq_some.mp hs
    refine .inr ⟨act, hne, ?_, fun newOk hok => href.exists_step hok hstep⟩
    rw [show s.1 = r.putQueue [] from href.rest, allows_putQueue]
    exact hallow

/-- All threads are done, and the end of the asynchronous second message has not been posted. -/
theorem goes_on_twoBufs : ∃ s,
    Reachable (guarded ((overQueue RecvState.undecryptableEnv fun k => k == 2).StepOk
      fun r b => r.allows twoPackets b = true) (overQueue RecvState.undecryptableEnv fun k => k == 2).nodeStep)
      (start false false false, .construct) s ∧
    ¬ (nodeConn s).AtRest ∧ ∃ act, (∀ bytes, act ≠ .recvData bytes) ∧ s.1.allows twoPackets act = true ∧
      ∀ newOk, (overQueue RecvState.undecryptableEnv fun k => k == 2).QueueOk s (act, newOk) →
        ∃ s', (overQueue RecvState.undecryptableEnv fun k => k == 2).nodeStep s (act, newOk) = some s' := by
  obtain ⟨r, hrun⟩ : ∃ r, runSteps (guarded
      (fun r b => r.allows twoPackets b = true ∧ (overQueue RecvState.undecryptableEnv fun k => k == 2).Short r b)
      (overQueue RecvState.undecryptableEnv fun k => k == 2).step) (start false false false) twoBufsRun = some r :=
    ⟨_, rfl⟩
  obtain ⟨s, hs, hsize, hreach⟩ := exists_of_short (Reachable.of_runSteps hrun)
  have hlog : r.conn.dispatch.log = [.entered 1, .completed 1, .entered 2] := by
    cases hrun
    rfl
  have hrest : ¬ (nodeConn s).AtRest := by
    rw [atRest_iff hs hsize]
    exact fun h => by simpa [hlog] using h.settled 2 (by simp [hlog])
  exact ⟨s, hreach, hrest, (goes_on serves_twoPackets hreach).resolve_left hrest⟩

end RequestRun

end KonsanNet
