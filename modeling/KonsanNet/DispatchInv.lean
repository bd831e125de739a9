import Mathlib.Tactic
import KonsanNet.Dispatch

/-!
# The messages of a connection are handled in order

Every number has one place: where the message is, from outside (`out`) through the queue, the hands of
a thread and the message list to its handler, and on to `async` (the handler has returned, the end is
not yet recorded) or directly to `done`. At most one number is open (in its handler or `async`), and it
is the one after `m_uiLastProcessedMessageSequenceNum`. The report of the end of an asynchronous message
travels apart from the message, possibly before the handler has returned: it is the token of the open
number.

The invariant is split by the part of the state that it speaks about, so that a step needs an argument
only for the parts that it changes; for the others there is `move`.
-/

namespace KonsanNet

/-- The thread is inside `m_lockSend`. -/
def Worker.holds : Worker → Bool
  | .idle | .input _ | .asyncEnd _ | .resume => false
  | .loop | .handler _ => true

namespace Dispatch

inductive Place
  | out
  | queue
  | input (w : Nat)
  | list
  | handler (w : Nat)
  | async
  | done

inductive Token
  | queue
  | ending (w : Nat)

def Place.isOpen : Place → Bool
  | .out | .queue | .input _ | .list | .done => false
  | .handler _ | .async => true

/-- A message stays the head of the list while its handler runs. -/
def Place.inList : Place → Bool
  | .out | .queue | .input _ | .async | .done => false
  | .list | .handler _ => true

/-- The first `n` messages, one after the other. -/
def runLog : Nat → List DispatchEvent
  | 0 => []
  | n + 1 => runLog n ++ [.entered (n + 1), .completed (n + 1)]

theorem runLog_succ (n : Nat) : runLog (n + 1) = runLog n ++ [.entered (n + 1)] ++ [.completed (n + 1)] := by
  simp [runLog]

theorem entered_mem_runLog {k n : Nat} : .entered k ∈ runLog n ↔ 1 ≤ k ∧ k ≤ n := by
  induction n with
  | zero => simp [runLog]; omega
  | succ n ih => simp [runLog, ih]; omega

theorem completed_mem_runLog {k n : Nat} : .completed k ∈ runLog n ↔ 1 ≤ k ∧ k ≤ n := by
  induction n with
  | zero => simp [runLog]; omega
  | succ n ih => simp [runLog, ih]; omega

structure ListInv (l : SeqList CXMessageData) (place : Nat → Place) : Prop where
  ordered : SeqList.Ordered CXMessageData.iSequenceNum l
  mem : ∀ m ∈ l.head, (place m.iSequenceNum).inList
  of : ∀ k, place k = .list → ∃ m ∈ l.head, m.iSequenceNum = k

/-- A message and the report of its end are two entries. -/
def queueKey (m : CXMessageData) : Bool × Nat := (decide (m.dwType = 2), m.iSequenceNum)

structure QueueInv (last : Nat) (queue : List CXMessageData) (place : Nat → Place)
    (tok : Option Token) : Prop where
  mem : ∀ m ∈ queue, m.dwType ≠ 2 → place m.iSequenceNum = .queue
  memEnd : ∀ m ∈ queue, m.dwType = 2 → m.iSequenceNum = last + 1 ∧ tok = some .queue
  of : ∀ k, place k = .queue → ∃ m ∈ queue, m.dwType ≠ 2 ∧ m.iSequenceNum = k
  nodup : (queue.map queueKey).Nodup

def WorkerOk (last : Nat) (l : SeqList CXMessageData) (place : Nat → Place) (tok : Option Token) (w : Nat) :
    Worker → Prop
  | .idle | .resume => True
  | .input m => place m.iSequenceNum = .input w
  | .asyncEnd m => m.iSequenceNum = last + 1 ∧ tok = some (.ending w)
  | .loop => l.head ≠ []
  | .handler m => place m.iSequenceNum = .handler w ∧ l.head.head? = some m

structure WorkersInv (last : Nat) (l : SeqList CXMessageData) (worker : Nat → Worker) (lock : Option Nat)
    (place : Nat → Place) (tok : Option Token) : Prop where
  ok : ∀ w, WorkerOk last l place tok w (worker w)
  inputOf : ∀ k w, place k = .input w → ∃ m, worker w = .input m ∧ m.iSequenceNum = k
  handlerOf : ∀ k w, place k = .handler w → ∃ m, worker w = .handler m ∧ m.iSequenceNum = k
  lock : ∀ w, lock = some w ↔ (worker w).holds

structure NumberInv (bAsync : Nat → Bool) (last : Nat) (arrived posted : List Nat)
    (log : List DispatchEvent) (place : Nat → Place) (tok : Option Token) : Prop where
  done : ∀ k, place k = .done ↔ 1 ≤ k ∧ k ≤ last
  isOpen : ∀ k, (place k).isOpen → k = last + 1
  async : ∀ k, place k = .async → bAsync k
  token : tok ≠ none → (place (last + 1)).isOpen ∧ bAsync (last + 1) ∧ last + 1 ∈ posted
  out : ∀ k, place k = .out ↔ k = 0 ∨ k ∉ arrived
  posted : ∀ k, 1 ≤ k → k ≤ last → bAsync k → k ∈ posted
  log : log = runLog last ++ if (place (last + 1)).isOpen then [.entered (last + 1)] else []

structure InvAt (bAsync : Nat → Bool) (s : Dispatch) (place : Nat → Place) (tok : Option Token) : Prop where
  list : ListInv s.lstMessage place
  queue : QueueInv s.uiLastProcessedMessageSequenceNum s.queue place tok
  workers : WorkersInv s.uiLastProcessedMessageSequenceNum s.lstMessage s.worker s.lockSend place tok
  numbers : NumberInv bAsync s.uiLastProcessedMessageSequenceNum s.arrived s.posted s.log place tok
  /-- If the next message is in the list, somebody is about to look. -/
  wake : place (s.uiLastProcessedMessageSequenceNum + 1) = .list →
    ∃ w, s.worker w = .loop ∨ s.worker w = .resume

def Inv (bAsync : Nat → Bool) (s : Dispatch) : Prop := ∃ place tok, InvAt bAsync s place tok

variable {bAsync : Nat → Bool} {s s' : Dispatch} {place : Nat → Place} {tok tok' : Option Token}
  {w k last : Nat} {m : CXMessageData} {p : Place} {l : SeqList CXMessageData}
  {queue : List CXMessageData} {worker : Nat → Worker} {lock : Option Nat} {arrived posted : List Nat}
  {log : List DispatchEvent}

theorem inv_fresh : Inv bAsync fresh := by
  refine ⟨fun _ => .out, none, ⟨SeqList.ordered_empty, ?_, ?_⟩, ⟨?_, ?_, ?_, ?_⟩, ⟨?_, ?_, ?_, ?_⟩,
    ⟨?_, ?_, ?_, ?_, ?_, ?_, ?_⟩, ?_⟩ <;>
    simp [fresh, SeqList.empty, WorkerOk, Worker.holds, Place.isOpen, runLog] <;>
    omega

/-! ### A number changes its place -/

theorem ListInv.seq_ne (h : ListInv l place) (hk : place k = p) (hp : p.inList = false) :
    ∀ a ∈ l.head, a.iSequenceNum ≠ k := by
  rintro a ha rfl
  have := h.mem a ha
  rw [hk, hp] at this
  cases this

theorem ListInv.lt (h : ListInv l place) (hn : NumberInv bAsync last arrived posted log place tok)
    (hm : m ∈ l.head) : last < m.iSequenceNum := by
  have hpl := h.mem m hm
  have hd := hn.done m.iSequenceNum
  have ho := hn.out m.iSequenceNum
  by_contra hlt
  by_cases h0 : m.iSequenceNum = 0
  · rw [ho.mpr (Or.inl h0)] at hpl
    cases hpl
  · rw [hd.mpr (by omega)] at hpl
    cases hpl

theorem ListInv.move (h : ListInv l place) (hk : (place k).inList = false) (hp : p.inList = false) :
    ListInv l (Function.update place k p) := by
  refine ⟨h.ordered, fun a ha => ?_, fun j hj => ?_⟩
  · have hak : a.iSequenceNum ≠ k := by
      rintro rfl
      simp [h.mem a ha] at hk
    rw [Function.update_of_ne hak]
    exact h.mem a ha
  · by_cases hjk : j = k
    · subst hjk
      rw [Function.update_self] at hj
      subst hj
      cases hp
    · rw [Function.update_of_ne hjk] at hj
      exact h.of j hj

theorem QueueInv.move (h : QueueInv last queue place tok) (hk : place k ≠ .queue) (hp : p ≠ .queue) :
    QueueInv last queue (Function.update place k p) tok := by
  refine ⟨fun a ha hty => ?_, h.memEnd, fun j hj => ?_, h.nodup⟩
  · have hpl := h.mem a ha hty
    rwa [Function.update_of_ne]
    rintro rfl
    exact hk hpl
  · by_cases hjk : j = k
    · subst hjk
      rw [Function.update_self] at hj
      exact absurd hj hp
    · rw [Function.update_of_ne hjk] at hj
      exact h.of j hj

theorem NumberInv.move (h : NumberInv bAsync last arrived posted log place tok)
    (hk : place k = .queue ∨ ∃ w, place k = .input w) (hp : p = .list ∨ ∃ w, p = .input w) :
    NumberInv bAsync last arrived posted log (Function.update place k p) tok := by
  have hopen : ∀ j, (Function.update place k p j).isOpen = (place j).isOpen := by
    intro j
    rw [Function.update_apply]
    grind [Place.isOpen]
  constructor
  case done => grind [h.done]
  case isOpen =>
    intro j hj
    rw [hopen] at hj
    exact h.isOpen j hj
  case async => grind [h.async]
  case token =>
    rw [hopen]
    exact h.token
  case out => grind [h.out]
  case posted => exact h.posted
  case log =>
    rw [hopen]
    exact h.log

/-- The thread `w` goes on to `q` and leaves everything but the lock alone. -/
theorem WorkersInv.go {q : Worker} {lock' : Option Nat} (h : WorkersInv last l worker lock place tok)
    (hw : worker w = .resume ∨ worker w = .loop) (hok : WorkerOk last l place tok w q)
    (hlock : ∀ v, lock' = some v ↔ if v = w then q.holds else lock = some v) :
    WorkersInv last l (Function.update worker w q) lock' place tok := by
  constructor
  case ok =>
    intro v
    by_cases hv : v = w
    · subst hv
      rwa [Function.update_self]
    · rw [Function.update_of_ne hv]
      exact h.ok v
  case inputOf => grind [h.inputOf]
  case handlerOf => grind [h.handlerOf]
  case lock => grind [h.lock]

/-- The thread `w` goes on to `q` with the message `k`, which comes to `p`. -/
theorem WorkersInv.move {q : Worker} {lock' : Option Nat} {last' : Nat} {l' : SeqList CXMessageData}
    (h : WorkersInv last l worker lock place tok)
    (hold : ∀ m, worker w = .input m ∨ worker w = .handler m → m.iSequenceNum = k)
    (hinput : ∀ v, p = .input v → v = w ∧ ∃ m, q = .input m ∧ m.iSequenceNum = k)
    (hhandler : ∀ v, p = .handler v → v = w ∧ ∃ m, q = .handler m ∧ m.iSequenceNum = k)
    (hlock : lock' = some w ↔ q.holds) (hlock' : ∀ v, v ≠ w → (lock' = some v ↔ lock = some v))
    (hok : WorkerOk last' l' (Function.update place k p) tok' w q)
    (hother : ∀ v, v ≠ w → WorkerOk last' l' (Function.update place k p) tok' v (worker v)) :
    WorkersInv last' l' (Function.update worker w q) lock' (Function.update place k p) tok' := by
  constructor
  case ok =>
    intro v
    by_cases hv : v = w
    · subst hv
      rwa [Function.update_self]
    · rw [Function.update_of_ne hv]
      exact hother v hv
  case inputOf =>
    intro j v hj
    by_cases hjk : j = k
    · subst hjk
      rw [Function.update_self] at hj
      obtain ⟨rfl, m, hm, hmj⟩ := hinput v hj
      exact ⟨m, by rw [Function.update_self, hm], hmj⟩
    · rw [Function.update_of_ne hjk] at hj
      obtain ⟨m, hm, rfl⟩ := h.inputOf j v hj
      have hv : v ≠ w := by
        rintro rfl
        exact hjk (hold m (Or.inl hm))
      exact ⟨m, by rw [Function.update_of_ne hv, hm], rfl⟩
  case handlerOf =>
    intro j v hj
    by_cases hjk : j = k
    · subst hjk
      rw [Function.update_self] at hj
      obtain ⟨rfl, m, hm, hmj⟩ := hhandler v hj
      exact ⟨m, by rw [Function.update_self, hm], hmj⟩
    · rw [Function.update_of_ne hjk] at hj
      obtain ⟨m, hm, rfl⟩ := h.handlerOf j v hj
      have hv : v ≠ w := by
        rintro rfl
        exact hjk (hold m (Or.inr hm))
      exact ⟨m, by rw [Function.update_of_ne hv, hm], rfl⟩
  case lock =>
    intro v
    by_cases hv : v = w
    · subst hv
      rwa [Function.update_self]
    · rw [Function.update_of_ne hv]
      exact (hlock' v hv).trans (h.lock v)

/-- A thread that is not about to look at the list does something else. -/
theorem wake_update {q : Worker} (hw : worker w ≠ .loop) (hw' : worker w ≠ .resume)
    (h : ∃ v, worker v = .loop ∨ worker v = .resume) :
    ∃ v, Function.update worker w q v = .loop ∨ Function.update worker w q v = .resume := by
  obtain ⟨v, hv⟩ := h
  have hvw : v ≠ w := by
    rintro rfl
    exact hv.elim hw hw'
  exact ⟨v, by rwa [Function.update_of_ne hvw]⟩

/-! ### The steps -/

theorem InvAt.arrive (h : InvAt bAsync s place tok) (hs : s.arrive m = some s') : Inv bAsync s' := by
  unfold Dispatch.arrive at hs
  split at hs
  case isFalse => cases hs
  case isTrue hm =>
  obtain ⟨hty, hpos, hnew⟩ := hm
  cases hs
  have hout : place m.iSequenceNum = .out := (h.numbers.out _).mpr (Or.inr hnew)
  refine ⟨Function.update place m.iSequenceNum .queue, tok, h.list.move (by rw [hout]; rfl) rfl, ?_, ?_, ?_, ?_⟩
  case refine_1 =>
    have hq := h.queue
    constructor
    case mem => grind [hq.mem]
    case memEnd => grind [hq.memEnd]
    case of => grind [hq.of]
    case nodup => grind [hq.nodup, hq.mem, queueKey]
  case refine_2 =>
    have hw := h.workers
    constructor
    case ok =>
      intro v
      have := hw.ok v
      cases hv : s.worker v <;> grind [WorkerOk]
    case inputOf => grind [hw.inputOf]
    case handlerOf => grind [hw.handlerOf]
    case lock => exact hw.lock
  case refine_3 =>
    have hn := h.numbers
    constructor
    case done => grind [hn.done]
    case isOpen => grind [hn.isOpen, Place.isOpen]
    case async => grind [hn.async]
    case token => grind [hn.token, Place.isOpen]
    case out => grind [hn.out]
    case posted => exact hn.posted
    case log => grind [hn.log, Place.isOpen]
  case refine_4 =>
    have := h.wake
    grind

theorem InvAt.post (h : InvAt bAsync s place tok) (hs : s.post bAsync m = some s') : Inv bAsync s' := by
  unfold Dispatch.post at hs
  split at hs
  case isFalse => cases hs
  case isTrue hm =>
  obtain ⟨hasync, hentered, hnew⟩ := hm
  cases hs
  have hn := h.numbers
  have hm : (place (s.uiLastProcessedMessageSequenceNum + 1)).isOpen ∧
      m.iSequenceNum = s.uiLastProcessedMessageSequenceNum + 1 := by
    rw [hn.log] at hentered
    rcases List.mem_append.mp hentered with hlog | hlog
    · obtain ⟨h1, h2⟩ := entered_mem_runLog.mp hlog
      exact absurd (hn.posted _ h1 h2 hasync) hnew
    · split at hlog
      case isTrue hopen => exact ⟨hopen, by simpa using hlog⟩
      case isFalse => cases hlog
  have htok : tok = none := by
    by_contra htok
    exact hnew (hm.2 ▸ (hn.token htok).2.2)
  refine ⟨place, some .queue, h.list, ?_, ?_, ?_, h.wake⟩
  case refine_1 =>
    have hq := h.queue
    constructor
    case mem => grind [hq.mem]
    case memEnd => grind [hq.memEnd]
    case of => grind [hq.of]
    case nodup => grind [hq.nodup, hq.memEnd, queueKey]
  case refine_2 =>
    have hw := h.workers
    refine ⟨fun v => ?_, hw.inputOf, hw.handlerOf, hw.lock⟩
    have := hw.ok v
    cases hv : s.worker v <;> grind [WorkerOk]
  case refine_3 =>
    refine ⟨hn.done, hn.isOpen, hn.async, fun _ => ⟨hm.1, hm.2 ▸ hasync, by simp [hm.2]⟩, hn.out,
      fun k h1 h2 h3 => List.mem_cons_of_mem _ (hn.posted k h1 h2 h3), hn.log⟩

theorem InvAt.getMessage (h : InvAt bAsync s place tok) (hw : s.worker w = .idle)
    (hs : s.getMessage w = some s') : Inv bAsync s' := by
  unfold Dispatch.getMessage at hs
  split at hs
  case h_1 => cases hs
  case h_2 a rest hq =>
  have hqi := h.queue
  have hn := h.numbers
  have hnd : ∀ b ∈ rest, queueKey b ≠ queueKey a := by
    have := hqi.nodup
    grind
  by_cases hty : a.dwType = 2
  · rw [if_pos hty] at hs
    cases hs
    obtain ⟨hseq, htok⟩ := hqi.memEnd a (by simp [hq]) hty
    refine ⟨place, some (.ending w), h.list, ?_, ?_, ?_, ?_⟩
    case refine_1 =>
      simp only [setWorker]
      constructor
      case mem => grind [hqi.mem]
      case memEnd => grind [hqi.memEnd, queueKey]
      case of => grind [hqi.of]
      case nodup => grind [hqi.nodup]
    case refine_2 =>
      have hwi := h.workers
      simp only [setWorker]
      constructor
      case ok =>
        intro v
        have := hwi.ok v
        by_cases hv : v = w
        · grind [WorkerOk]
        · cases hv' : s.worker v <;> grind [WorkerOk]
      case inputOf => grind [hwi.inputOf]
      case handlerOf => grind [hwi.handlerOf]
      case lock => grind [hwi.lock, Worker.holds]
    case refine_3 =>
      exact ⟨hn.done, hn.isOpen, hn.async, fun _ => hn.token (by simp [htok]), hn.out, hn.posted, hn.log⟩
    case refine_4 =>
      exact fun hk => wake_update (by simp [hw]) (by simp [hw]) (h.wake hk)
  · rw [if_neg hty] at hs
    cases hs
    have hpl := hqi.mem a (by simp [hq]) hty
    refine ⟨Function.update place a.iSequenceNum (.input w), tok, h.list.move (by rw [hpl]; rfl) rfl, ?_, ?_,
      hn.move (Or.inl hpl) (Or.inr ⟨w, rfl⟩), ?_⟩
    case refine_1 =>
      simp only [setWorker]
      constructor
      case mem => grind [hqi.mem, queueKey]
      case memEnd => grind [hqi.memEnd]
      case of => grind [hqi.of]
      case nodup => grind [hqi.nodup]
    case refine_2 =>
      have hwi := h.workers
      have hfree := hwi.lock w
      simp only [setWorker]
      refine hwi.move (by simp [hw]) (by simp) (by simp) (by simpa [hw, Worker.holds] using hfree)
        (fun _ _ => Iff.rfl) (by simp [WorkerOk]) fun v hv => ?_
      have := hwi.ok v
      cases hv' : s.worker v <;> grind [WorkerOk]
    case refine_3 =>
      intro hk
      refine wake_update (by simp [hw]) (by simp [hw]) (h.wake ?_)
      simp only [setWorker] at hk
      grind

theorem InvAt.inputMessage (h : InvAt bAsync s place tok) (hw : s.worker w = .input m)
    (hs : s.inputMessage w m = some s') : Inv bAsync s' := by
  unfold Dispatch.inputMessage at hs
  split at hs
  case isFalse => cases hs
  case isTrue hlock =>
  have hpl : place m.iSequenceNum = .input w := by
    have := h.workers.ok w
    rwa [hw] at this
  have hnew := h.list.seq_ne hpl rfl
  obtain ⟨l', hpush, hord, hperm⟩ := h.list.ordered.push hnew
  simp only [pushMessage, hpush, Option.map_some, if_true] at hs
  cases hs
  refine ⟨Function.update place m.iSequenceNum .list, tok, ?_, h.queue.move (by simp [hpl]) (by simp), ?_,
    h.numbers.move (Or.inr ⟨w, hpl⟩) (Or.inl rfl), ?_⟩
  case refine_1 =>
    have hl := h.list
    refine ⟨hord, fun a ha => ?_, ?_⟩
    · rcases List.mem_cons.mp (hperm.mem_iff.mp ha) with rfl | ha
      · rw [Function.update_self]
        rfl
      · rw [Function.update_of_ne (hnew a ha)]
        exact hl.mem a ha
    · intro k hk
      simp only [setWorker, hperm.mem_iff]
      grind [hl.of]
  case refine_2 =>
    have hwi := h.workers
    simp only [setWorker]
    refine hwi.move (by simp [hw]) (by simp) (by simp) (by simp [Worker.holds])
      (fun v hv => by simp [hlock, Ne.symm hv]) (List.ne_nil_of_mem (hperm.mem_iff.mpr List.mem_cons_self))
      fun v hv => ?_
    have := hwi.ok v
    have := hwi.lock v
    cases hv' : s.worker v <;> grind [WorkerOk, Worker.holds]
  case refine_3 => exact fun _ => ⟨w, Or.inl (by simp [setWorker])⟩

theorem InvAt.resumeLoop (h : InvAt bAsync s place tok) (hw : s.worker w = .resume)
    (hs : s.resumeLoop w = some s') : Inv bAsync s' := by
  unfold Dispatch.resumeLoop at hs
  split at hs
  case isFalse => cases hs
  case isTrue hlock =>
  have hwi := h.workers
  by_cases hnil : s.lstMessage.head = []
  · rw [if_pos (by simp [hnil])] at hs
    cases hs
    refine ⟨place, tok, h.list, h.queue, ?_, h.numbers, ?_⟩
    case refine_1 => exact hwi.go (Or.inl hw) trivial fun v => by grind [Worker.holds, setWorker]
    case refine_2 =>
      intro hk
      obtain ⟨a, ha, -⟩ := h.list.of _ hk
      simp [hnil] at ha
  · rw [if_neg (by simpa using hnil)] at hs
    cases hs
    refine ⟨place, tok, h.list, h.queue, ?_, h.numbers, ?_⟩
    case refine_1 => exact hwi.go (Or.inl hw) hnil fun v => by grind [Worker.holds, setWorker]
    case refine_2 => exact fun _ => ⟨w, Or.inl (by simp [setWorker])⟩

theorem InvAt.testLoop (h : InvAt bAsync s place tok) (hw : s.worker w = .loop)
    (hs : s.testLoop w = some s') : Inv bAsync s' := by
  have hwi := h.workers
  have hn := h.numbers
  have hlock : s.lockSend = some w := (hwi.lock w).mpr (by rw [hw]; rfl)
  unfold Dispatch.testLoop at hs
  split at hs
  case h_1 => cases hs
  case h_2 a rest hl =>
  have ha : a ∈ s.lstMessage.head := by simp [hl]
  by_cases hnext : a.iSequenceNum = s.uiLastProcessedMessageSequenceNum + 1
  · rw [if_pos hnext] at hs
    cases hs
    have hpl : place a.iSequenceNum = .list := by
      have := h.list.mem a ha
      cases hp : place a.iSequenceNum with
      | list => rfl
      | handler v =>
        obtain ⟨b, hb, -⟩ := hwi.handlerOf _ _ hp
        have := hwi.lock v
        grind [Worker.holds]
      | _ => rw [hp] at this; cases this
    refine ⟨Function.update place a.iSequenceNum (.handler w), tok, ?_, h.queue.move (by simp [hpl]) (by simp),
      ?_, ?_, ?_⟩
    case refine_1 =>
      have hli := h.list
      refine ⟨hli.ordered, fun b hb => ?_, ?_⟩
      · have := hli.mem b hb
        grind [Place.inList]
      · grind [hli.of, setWorker]
    case refine_2 =>
      simp only [setWorker]
      refine hwi.move (by simp [hw]) (by simp) (by simp) (by simp [hlock, Worker.holds]) (fun _ _ => Iff.rfl)
        (by simp [WorkerOk, hl]) fun v hv => ?_
      have := hwi.ok v
      have := hwi.lock v
      cases hv' : s.worker v <;> grind [WorkerOk, Worker.holds]
    case refine_3 =>
      simp only [setWorker]
      constructor
      case done => grind [hn.done]
      case isOpen => grind [hn.isOpen]
      case async => grind [hn.async]
      case token =>
        intro htok
        have := (hn.token htok).1
        rw [← hnext, hpl] at this
        cases this
      case out => grind [hn.out]
      case posted => exact hn.posted
      case log =>
        have := hn.log
        rw [← hnext, hpl] at this
        simp [← hnext, this, Place.isOpen]
    case refine_4 => grind [setWorker]
  · rw [if_neg hnext] at hs
    cases hs
    refine ⟨place, tok, h.list, h.queue, ?_, hn, ?_⟩
    case refine_1 => exact hwi.go (Or.inr hw) trivial fun v => by grind [Worker.holds, setWorker]
    case refine_2 =>
      -- the head has the smallest number, and all of them are above `last`
      intro hk
      obtain ⟨b, hb, hbk⟩ := h.list.of _ hk
      have hlt := h.list.lt hn ha
      have hle : a.iSequenceNum ≤ b.iSequenceNum := by
        simp only [hl] at hb
        rcases List.mem_cons.mp hb with rfl | hb
        · exact le_rfl
        · have := h.list.ordered.sorted
          rw [hl] at this
          exact le_of_lt (List.rel_of_pairwise_cons this hb)
      have : b.iSequenceNum = s.uiLastProcessedMessageSequenceNum + 1 := hbk
      omega

theorem ListInv.popHead (h : ListInv l place) {rest : List CXMessageData} (hl : l.head = m :: rest)
    (hp : p.inList = false) :
    ListInv ⟨l.head.tail, if l.head.tail.isEmpty then none else l.endSeq⟩
      (Function.update place m.iSequenceNum p) := by
  have hord := h.ordered
  obtain ⟨head, e⟩ := l
  simp only at hl
  subst hl
  have hne : ∀ a ∈ rest, a.iSequenceNum ≠ m.iSequenceNum := by
    intro a ha
    exact (Nat.ne_of_lt (List.rel_of_pairwise_cons hord.sorted ha)).symm
  refine ⟨hord.suffix (p := [m]), fun a ha => ?_, fun k hk => ?_⟩
  · rw [Function.update_of_ne (hne a ha)]
    exact h.mem a (List.mem_cons_of_mem _ ha)
  · rw [Function.update_apply] at hk
    split at hk
    case isTrue => rw [hk] at hp; cases hp
    case isFalse hkm =>
      obtain ⟨a, ha, hak⟩ := h.of k hk
      rcases List.mem_cons.mp ha with rfl | ha
      · exact absurd hak.symm hkm
      · exact ⟨a, ha, hak⟩

theorem NumberInv.complete (h : NumberInv bAsync last arrived posted log place tok) (hk : k = last + 1)
    (hopen : (place k).isOpen) (hposted : bAsync k → k ∈ posted) :
    NumberInv bAsync (last + 1) arrived posted (log ++ [.completed k]) (Function.update place k .done)
      none := by
  have hclosed : ∀ j, (Function.update place k .done j).isOpen = false := by
    intro j
    have := h.isOpen j
    rw [Function.update_apply]
    grind [Place.isOpen]
  constructor
  case done =>
    intro j
    have := h.done j
    grind
  case isOpen => grind
  case async =>
    intro j hj
    have := hclosed j
    rw [hj] at this
    cases this
  case token => grind
  case out =>
    intro j
    have := h.out j
    grind [Place.isOpen]
  case posted => grind [h.posted]
  case log =>
    rw [hclosed, h.log, ← hk, if_pos hopen, hk, runLog_succ]
    simp

theorem InvAt.endHandler (h : InvAt bAsync s place tok) (hw : s.worker w = .handler m) :
    Inv bAsync (s.endHandler bAsync w m) := by
  have hwi := h.workers
  have hn := h.numbers
  have hlock : s.lockSend = some w := (hwi.lock w).mpr (by rw [hw]; rfl)
  have hok := hwi.ok w
  rw [hw] at hok
  obtain ⟨hpl, hhead⟩ := hok
  obtain ⟨rest, hl⟩ : ∃ rest, s.lstMessage.head = m :: rest := by
    cases hh : s.lstMessage.head with
    | nil => simp [hh] at hhead
    | cons a rest => exact ⟨rest, by simpa [hh] using hhead⟩
  have hopen := hn.isOpen m.iSequenceNum (by rw [hpl]; rfl)
  unfold Dispatch.endHandler
  by_cases hasync : bAsync m.iSequenceNum = true
  · rw [if_pos hasync]
    refine ⟨Function.update place m.iSequenceNum .async, tok, h.list.popHead hl rfl,
      h.queue.move (by simp [hpl]) (by simp), ?_, ?_, ?_⟩
    case refine_1 =>
      simp only [setWorker, Dispatch.popHead]
      refine hwi.move (by simp [hw]) (by simp) (by simp) (by simp [Worker.holds])
        (fun v hv => by simp [hlock, Ne.symm hv]) trivial fun v hv => ?_
      have := hwi.ok v
      have := hwi.lock v
      cases hv' : s.worker v <;> grind [WorkerOk, Worker.holds]
    case refine_2 =>
      simp only [setWorker, Dispatch.popHead]
      have hop : ∀ j, (Function.update place m.iSequenceNum .async j).isOpen = (place j).isOpen := by
        intro j
        rw [Function.update_apply]
        grind [Place.isOpen]
      constructor
      case done => grind [hn.done]
      case isOpen => grind [hn.isOpen]
      case async => grind [hn.async]
      case token => grind [hn.token]
      case out => grind [hn.out]
      case posted => exact hn.posted
      case log => grind [hn.log]
    case refine_3 => grind [setWorker, Dispatch.popHead]
  · rw [if_neg hasync]
    have htok : tok = none := by
      by_contra htok
      exact hasync (hopen ▸ (hn.token htok).2.1)
    subst htok
    refine ⟨Function.update place m.iSequenceNum .done, none, h.list.popHead hl rfl,
      ?_, ?_, ?_, ?_⟩
    case refine_1 =>
      have hq := h.queue.move (k := m.iSequenceNum) (p := .done) (by simp [hpl]) (by simp)
      refine ⟨hq.mem, fun a ha hty => ?_, hq.of, hq.nodup⟩
      cases (hq.memEnd a ha hty).2
    case refine_2 =>
      simp only [setWorker, Dispatch.popHead, complete]
      refine hwi.move (by simp [hw]) (by simp) (by simp) (by simp [Worker.holds])
        (fun v hv => by simp [hlock, Ne.symm hv]) trivial fun v hv => ?_
      have := hwi.ok v
      have := hwi.lock v
      cases hv' : s.worker v <;> grind [WorkerOk, Worker.holds]
    case refine_3 =>
      exact hn.complete hopen (by rw [hpl]; rfl) fun h => absurd h hasync
    case refine_4 => exact fun _ => ⟨w, Or.inr (by simp [setWorker])⟩

theorem InvAt.processAsyncMessageEnd (h : InvAt bAsync s place tok) (hw : s.worker w = .asyncEnd m)
    (hs : s.processAsyncMessageEnd w m = some s') : Inv bAsync s' := by
  unfold Dispatch.processAsyncMessageEnd at hs
  split at hs
  case isFalse => cases hs
  case isTrue hlock =>
  cases hs
  have hwi := h.workers
  have hn := h.numbers
  have hok := hwi.ok w
  rw [hw] at hok
  obtain ⟨hseq, htok⟩ := hok
  obtain ⟨hopen, hasync, hposted⟩ := hn.token (by simp [htok])
  rw [← hseq] at hopen hasync hposted
  have hpl : place m.iSequenceNum = .async := by
    cases hp : place m.iSequenceNum with
    | async => rfl
    | handler v =>
      -- a handler would hold the lock
      obtain ⟨b, hb, -⟩ := hwi.handlerOf _ _ hp
      have := (hwi.lock v).mpr (by rw [hb]; rfl)
      simp [hlock] at this
    | _ => rw [hp] at hopen; cases hopen
  refine ⟨Function.update place m.iSequenceNum .done, none, h.list.move (by rw [hpl]; rfl) rfl, ?_, ?_,
    hn.complete hseq hopen fun _ => hposted, fun _ => ⟨w, Or.inr (by simp [setWorker])⟩⟩
  case refine_1 =>
    have hq := h.queue.move (k := m.iSequenceNum) (p := .done) (by simp [hpl]) (by simp)
    refine ⟨hq.mem, fun a ha hty => ?_, hq.of, hq.nodup⟩
    have := (hq.memEnd a ha hty).2
    simp [htok] at this
  case refine_2 =>
    have hfree := hwi.lock w
    simp only [setWorker, complete]
    refine hwi.move (by simp [hw]) (by simp) (by simp) (by simpa [hw, Worker.holds] using hfree)
      (fun _ _ => Iff.rfl) trivial fun v hv => ?_
    have := hwi.ok v
    cases hv' : s.worker v <;> grind [WorkerOk]

theorem Inv.step (h : Inv bAsync s) {a : DispatchAct} (hs : step bAsync s a = some s') : Inv bAsync s' := by
  obtain ⟨place, tok, h⟩ := h
  cases a with
  | arrive m => exact h.arrive hs
  | post m => exact h.post hs
  | run w =>
    cases hw : s.worker w with
    | idle => exact h.getMessage hw (by simpa [Dispatch.step, hw] using hs)
    | input m => exact h.inputMessage hw (by simpa [Dispatch.step, hw] using hs)
    | asyncEnd m => exact h.processAsyncMessageEnd hw (by simpa [Dispatch.step, hw] using hs)
    | resume => exact h.resumeLoop hw (by simpa [Dispatch.step, hw] using hs)
    | loop => exact h.testLoop hw (by simpa [Dispatch.step, hw] using hs)
    | handler m =>
      have : s' = s.endHandler bAsync w m := by simpa [Dispatch.step, hw] using hs.symm
      exact this ▸ h.endHandler hw

theorem inv_of_reachable (h : Reachable (step bAsync) fresh s) : Inv bAsync s :=
  h.invariant inv_fresh fun _ _ _ hi hs => hi.step hs

/-! ### The order of the handlers -/

/-- No asynchronous message is waiting for its end, and no handler runs. -/
def Settled {Q : Type} (s : Dispatch Q) : Prop := ∀ k, .entered k ∈ s.log → .completed k ∈ s.log

theorem InvAt.log_of_settled (h : InvAt bAsync s place tok) (hs : Settled s) :
    s.log = runLog s.uiLastProcessedMessageSequenceNum ∧
      (place (s.uiLastProcessedMessageSequenceNum + 1)).isOpen = false := by
  have hlog := h.numbers.log
  by_cases hopen : (place (s.uiLastProcessedMessageSequenceNum + 1)).isOpen = true
  · rw [if_pos hopen] at hlog
    have := hs (s.uiLastProcessedMessageSequenceNum + 1) (by simp [hlog])
    simp [hlog, completed_mem_runLog] at this
  · rw [if_neg hopen, List.append_nil] at hlog
    exact ⟨hlog, by simpa using hopen⟩

theorem InvAt.next_not_list (h : InvAt bAsync s place tok) (hs : Settled s)
    (hw : ∀ w, s.worker w ≠ .loop ∧ s.worker w ≠ .resume) :
    (place (s.uiLastProcessedMessageSequenceNum + 1)).inList = false := by
  have hclosed := (h.log_of_settled hs).2
  cases hp : place (s.uiLastProcessedMessageSequenceNum + 1) with
  | list =>
    obtain ⟨w, hloop | hres⟩ := h.wake hp
    · exact absurd hloop (hw w).1
    · exact absurd hres (hw w).2
  | handler w => rw [hp] at hclosed; cases hclosed
  | _ => rfl

/-- With idle threads and an empty queue there is no place where the next message could be. -/
theorem InvAt.next_not_arrived (h : InvAt bAsync s place tok) (hs : Settled s) (hidle : ∀ w, s.worker w = .idle)
    (hq : s.queue = []) : s.uiLastProcessedMessageSequenceNum + 1 ∉ s.arrived := by
  intro harr
  have hclosed := (h.log_of_settled hs).2
  have hnext := h.next_not_list hs fun w => by simp [hidle w]
  cases hp : place (s.uiLastProcessedMessageSequenceNum + 1) with
  | out =>
    rcases (h.numbers.out _).mp hp with h0 | h0
    · cases h0
    · exact h0 harr
  | queue =>
    obtain ⟨a, ha, -⟩ := h.queue.of _ hp
    simp [hq] at ha
  | input w =>
    obtain ⟨a, ha, -⟩ := h.workers.inputOf _ _ hp
    simp [hidle w] at ha
  | list => rw [hp] at hnext; cases hnext
  | handler w => rw [hp] at hclosed; cases hclosed
  | async => rw [hp] at hclosed; cases hclosed
  | done =>
    have := (h.numbers.done _).mp hp
    omega

/-- In every reachable state the handlers have been entered in order, each after the one before has
completed. If none is open, a message that is left in the list while nobody is about to look at it has
a predecessor that is not complete; and if all threads are idle at an empty queue, every message
whose predecessors have arrived too is complete. -/
theorem dispatch_in_order (h : Reachable (step bAsync) fresh s) :
    (∃ n, s.log = runLog n ∨ s.log = runLog n ++ [.entered (n + 1)]) ∧
      (Settled s → (∀ w, s.worker w ≠ .loop ∧ s.worker w ≠ .resume) →
        ∀ m ∈ s.lstMessage.head, ∃ k, 1 ≤ k ∧ k < m.iSequenceNum ∧ .completed k ∉ s.log) ∧
      (Settled s → (∀ w, s.worker w = .idle) → s.queue = [] →
        ∀ k, (∀ j, 1 ≤ j → j ≤ k → j ∈ s.arrived) → ∀ j, 1 ≤ j → j ≤ k → .completed j ∈ s.log) := by
  obtain ⟨place, tok, h⟩ := inv_of_reachable h
  have hn := h.numbers
  refine ⟨⟨s.uiLastProcessedMessageSequenceNum, ?_⟩, ?_, ?_⟩
  · rw [hn.log]
    split
    · exact Or.inr rfl
    · exact Or.inl (List.append_nil _)
  · intro hs hw m hm
    have hlog := (h.log_of_settled hs).1
    have hnext := h.next_not_list hs hw
    refine ⟨s.uiLastProcessedMessageSequenceNum + 1, by omega, ?_, by simp [hlog, completed_mem_runLog]⟩
    have hlt := h.list.lt hn hm
    have hne : m.iSequenceNum ≠ s.uiLastProcessedMessageSequenceNum + 1 := by
      intro heq
      have := h.list.mem m hm
      rw [heq, hnext] at this
      cases this
    omega
  · intro hs hidle hq k harr j hj hjk
    have hlog := (h.log_of_settled hs).1
    rw [hlog, completed_mem_runLog]
    refine ⟨hj, ?_⟩
    by_contra hlt
    exact h.next_not_arrived hs hidle hq (harr _ (by omega) (by omega))

/-- As long as there is something to do, some thread can go on. -/
theorem Inv.exists_run (h : Inv bAsync s) (hbusy : (∃ w, s.worker w ≠ .idle) ∨ s.queue ≠ []) :
    ∃ w s', Dispatch.step bAsync s (.run w) = some s' := by
  obtain ⟨place, tok, h⟩ := h
  cases hlock : s.lockSend with
  | some v =>
    have hv := (h.workers.lock v).mp hlock
    have hok := h.workers.ok v
    refine ⟨v, ?_⟩
    cases hw : s.worker v with
    | loop =>
      rw [hw] at hok
      obtain ⟨a, rest, hl⟩ := List.exists_cons_of_ne_nil hok
      simp only [Dispatch.step, hw, testLoop, hl]
      split <;> exact ⟨_, rfl⟩
    | handler m => exact ⟨_, by simp only [Dispatch.step, hw]; rfl⟩
    | _ => rw [hw] at hv; cases hv
  | none =>
    by_cases hall : ∀ w, s.worker w = .idle
    · have hq : s.queue ≠ [] := by
        rcases hbusy with ⟨w, hw⟩ | hq
        · exact absurd (hall w) hw
        · exact hq
      obtain ⟨a, rest, hq⟩ := List.exists_cons_of_ne_nil hq
      exact ⟨0, _, by simp only [Dispatch.step, hall 0, getMessage, hq]; rfl⟩
    · push Not at hall
      obtain ⟨w, hw⟩ := hall
      refine ⟨w, ?_⟩
      have hok := h.workers.ok w
      have hfree : (s.worker w).holds ≠ true := by
        intro hh
        have := (h.workers.lock w).mpr hh
        simp [hlock] at this
      cases hwk : s.worker w with
      | idle => exact absurd hwk hw
      | input m =>
        rw [hwk] at hok
        obtain ⟨l', hpush, -⟩ := h.list.ordered.push (h.list.seq_ne hok rfl)
        exact ⟨_, by simp only [Dispatch.step, hwk, inputMessage, hlock, if_true, pushMessage, hpush, Option.map_some]; rfl⟩
      | asyncEnd m => exact ⟨_, by simp only [Dispatch.step, hwk, processAsyncMessageEnd, hlock, if_true]; rfl⟩
      | resume =>
        simp only [Dispatch.step, hwk, resumeLoop, hlock, if_true]
        split <;> exact ⟨_, rfl⟩
      | _ => rw [hwk] at hfree; exact absurd rfl hfree

theorem exists_run (h : Reachable (step bAsync) fresh s) (hbusy : (∃ w, s.worker w ≠ .idle) ∨ s.queue ≠ []) :
    ∃ w s', step bAsync s (.run w) = some s' :=
  Inv.exists_run (inv_of_reachable h) hbusy

end Dispatch

end KonsanNet
