import Mathlib.Logic.Basic

/-!
# A socket in an edge triggered epoll set

Of the events only writing is followed: whether it is asked for (`epollout`), whether the socket is writable,
and whether a change to writable is still to be reported (`ready`). `EPOLL_CTL_MOD` looks at the socket again,
so that a socket that is writable when writing is asked for is reported; a change is reported once. An event
that is delivered for another reason tells of a writable socket too.
-/

namespace KonsanNet

structure EpollEvent where
  epollin : Bool
  epollout : Bool
  /-- `EPOLLERR` or `EPOLLHUP` -/
  epollerr : Bool
deriving DecidableEq, Repr

structure EpollItem where
  registered : Bool
  epollout : Bool
  writable : Bool
  ready : Bool
deriving DecidableEq, Repr

namespace EpollItem

/-- `EPOLL_CTL_MOD`, with or without `EPOLLOUT` -/
def modify (e : EpollItem) (bOut : Bool) : EpollItem := { e with epollout := bOut, ready := bOut && e.writable }

/-- The peer has read, there is room again. -/
def becomeWritable (e : EpollItem) : EpollItem :=
  if e.writable then e else { e with writable := true, ready := e.epollout }

/-- The send buffer is full. -/
def block (e : EpollItem) : EpollItem := { e with writable := false, ready := false }

/-- The socket is detached or closed. -/
def remove (e : EpollItem) : EpollItem := { e with registered := false, epollout := false, ready := false }

/-- What `epoll_wait` may report now. -/
def reports (e : EpollItem) (ev : EpollEvent) : Bool :=
  e.registered && (ev.epollin || ev.epollout || ev.epollerr) &&
    (!ev.epollout || (e.epollout && e.writable && (e.ready || ev.epollin || ev.epollerr)))

def deliver (e : EpollItem) (ev : EpollEvent) : Option EpollItem :=
  if e.reports ev then some { e with ready := e.ready && !ev.epollout } else none

/-- A write event is armed and not delivered. -/
def Awaits (e : EpollItem) : Prop := e.registered = true ∧ e.epollout = true ∧ (e.ready = true ∨ e.writable = false)

instance (e : EpollItem) : Decidable e.Awaits := inferInstanceAs (Decidable (_ ∧ _ ∧ _))

variable {e e' : EpollItem} {ev : EpollEvent}

@[simp] theorem registered_becomeWritable : e.becomeWritable.registered = e.registered := by
  unfold becomeWritable
  split <;> rfl

theorem registered_deliver (h : e.deliver ev = some e') : e'.registered = e.registered := by
  unfold deliver at h
  split at h
  · cases h
    rfl
  · cases h

/-- Asking for the write event arms it, whether the socket is writable by then or not. -/
theorem awaits_modify (h : e.registered = true) : (e.modify true).Awaits := by
  refine ⟨h, rfl, ?_⟩
  show (true && e.writable) = true ∨ e.writable = false
  cases e.writable
  · exact Or.inr rfl
  · exact Or.inl rfl

namespace Awaits

theorem becomeWritable (h : e.Awaits) : e.becomeWritable.Awaits := by
  obtain ⟨hr, ho, hw⟩ := h
  unfold EpollItem.becomeWritable
  split
  · exact ⟨hr, ho, hw⟩
  · exact ⟨hr, ho, Or.inl ho⟩

theorem block (h : e.Awaits) : e.block.Awaits := ⟨h.1, h.2.1, Or.inr rfl⟩

/-- Only an event that tells of writing takes the armed one away. -/
theorem deliver (h : e.Awaits) (hev : ev.epollout = false) (hd : e.deliver ev = some e') : e'.Awaits := by
  unfold EpollItem.deliver at hd
  split at hd
  · cases hd
    obtain ⟨hr, ho, hw⟩ := h
    refine ⟨hr, ho, hw.imp_left fun hready => ?_⟩
    show (e.ready && !ev.epollout) = true
    rw [hready, hev]
    rfl
  · cases hd

end Awaits

end EpollItem

end KonsanNet
