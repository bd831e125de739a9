import Mathlib.Tactic
import KonsanNet.Sessions

/-!
# Sessions and their connections in the runs of `Keeps`

`Sessions.Inv` is kept by every step of `Keeps`. A login that has taken a session off the free queue has it for
itself (`Taken`); from `AddUsingSession` on, and for a login that looked the session up, the session is in use, and
a login that has returned has entered its connection in the list of its type (`LoginOk`). So a session that counts
no connection has none, and none comes before it is closed.
-/

namespace KonsanNet

namespace Login

/-- The session off the free queue, and its guid, before `AddUsingSession`. -/
def taken : Login → Option (Nat × String)
  | gotFree ss strGuid | mainAdded ss strGuid | guidSet ss strGuid => some (ss, strGuid)
  | _ => .none

/-- What the login has stored with `SetSession`. -/
def stored : Login → Option Nat
  | attached ss _ | loggedIn ss _ => some ss
  | _ => .none

theorem session_of_taken {l : Login} {ss : Nat} {g : String} (h : l.taken = some (ss, g)) :
    l.session = some ss := by
  cases l with
  | gotFree ss' g' | mainAdded ss' g' | guidSet ss' g' =>
    cases h
    rfl
  | none | inUse | found | verified | attached | loggedIn => cases h

end Login

/-- The session that a close still has to deal with. -/
def Closing.session : Closing → Option Nat
  | idle => none
  | gotSession pSession => pSession
  | remove ss | count ss | closeSession ss => some ss

namespace Sessions

variable {s s' : Sessions} {con ss : Nat} {g : String}

/-- The session is neither free nor in use, and the guid is to become its own. -/
structure Taken (s : Sessions) (ss : Nat) (g : String) : Prop where
  lt : ss < s.created
  notFree : ss ∉ s.queueFreeSessions
  notUsing : ¬ s.Using ss
  guid : g ∈ s.guids
  guidNotUsing : g ∉ s.mapUsingSessions
  guidOnly : ∀ ss', (s.session ss').strSessionGuid = g → ss' = ss

/-- What holds at each stage of the login of `con`. -/
def LoginOk (s : Sessions) (con : Nat) : Login → Prop
  | .none => True
  | .gotFree ss g => s.Taken ss g
  | .mainAdded ss g => s.Taken ss g ∧ (s.session ss).pMmainConnetion = some con
  | .guidSet ss g =>
    s.Taken ss g ∧ (s.session ss).pMmainConnetion = some con ∧ (s.session ss).strSessionGuid = g
  | .inUse ss => s.Using ss ∧ (s.session ss).pMmainConnetion = some con
  | .found ss byConnectionType _ | .verified ss byConnectionType | .attached ss byConnectionType =>
    s.Using ss ∧ byConnectionType ≠ 1
  | .loggedIn ss byConnectionType =>
    s.Using ss ∧ (byConnectionType = 1 → (s.session ss).pMmainConnetion = some con) ∧
      (byConnectionType = 2 → con ∈ (s.session ss).lstMessageConnections) ∧
      (byConnectionType = 3 → con ∈ (s.session ss).lstDataConnections)

/-- The map, the queue and the guids. -/
structure PoolOk (s : Sessions) : Prop where
  nodup : s.queueFreeSessions.Nodup
  freeLt : ∀ ss ∈ s.queueFreeSessions, ss < s.created
  using_ : ∀ g ss, s.mapUsingSessions.lookup g = some ss →
    (s.session ss).strSessionGuid = g ∧ ss < s.created ∧ ss ∉ s.queueFreeSessions ∧ g ∈ s.guids
  own : ∀ ss, (s.session ss).strSessionGuid ∈ s.mapUsingSessions →
    s.mapUsingSessions.lookup (s.session ss).strSessionGuid = some ss
  guid : ∀ ss, (s.session ss).strSessionGuid = "" ∨ (s.session ss).strSessionGuid ∈ s.guids
  empty : "" ∉ s.guids

structure Inv (s : Sessions) : Prop where
  pool : s.PoolOk
  login : ∀ con, s.nState con ≠ .closed → s.LoginOk con (s.login con)
  apart : ∀ con con' ss ss' g g', con ≠ con' → (s.login con).taken = some (ss, g) →
    (s.login con').taken = some (ss', g') → ss ≠ ss' ∧ g ≠ g'
  stored : ∀ con, s.pSession con = (s.login con).stored
  isOpen : ∀ con, (s.login con).InProgress → s.nState con ≠ .closed
  beyond : ∀ con, s.connections ≤ con → s.login con = .none ∧ s.closing con = .idle
  closingLt : ∀ con ss, (s.closing con).session = some ss → ss < s.created
  gotSession : ∀ con pSession, s.closing con = .gotSession pSession → s.nState con ≠ .closed
  removing : ∀ con ss, s.closing con = .remove ss → s.nState con = .closed
  emptied : ∀ con ss, s.closing con = .closeSession ss →
    ∀ con', s.nState con' ≠ .closed → (s.login con').session ≠ some ss

theorem inv_start : start.Inv where
  pool :=
    { nodup := List.nodup_nil
      freeLt := fun _ h => absurd h List.not_mem_nil
      using_ := fun _ _ h => by cases h
      own := fun _ h => absurd h (AList.notMem_empty _)
      guid := fun _ => .inl rfl
      empty := List.not_mem_nil }
  login _ _ := trivial
  apart _ _ _ _ _ _ _ h := by cases h
  stored _ := rfl
  isOpen _ h := absurd h id
  beyond _ _ := ⟨rfl, rfl⟩
  closingLt _ _ h := by cases h
  gotSession _ _ h := by cases h
  removing _ _ h := by cases h
  emptied _ _ h := by cases h

/-! ### Logins that are not affected -/

theorem setLogin_self {l : Login} : (s.setLogin con l).login con = l :=
  Function.update_self ..

theorem setLogin_of_ne {l : Login} {con' : Nat} (h : con' ≠ con) : (s.setLogin con l).login con' = s.login con' :=
  Function.update_of_ne h ..

theorem session_setSession_self {x : ConnectionSession} : (s.setSession ss x).session ss = x :=
  Function.update_self ..

theorem session_setSession_of_ne {x : ConnectionSession} {ss' : Nat} (h : ss' ≠ ss) :
    (s.setSession ss x).session ss' = s.session ss' :=
  Function.update_of_ne h ..

/-- What `con` has in the session `x` it has in `x'`. -/
structure Includes (con : Nat) (x x' : ConnectionSession) : Prop where
  guid : x'.strSessionGuid = x.strSessionGuid
  main : x.pMmainConnetion = some con → x'.pMmainConnetion = some con
  message : con ∈ x.lstMessageConnections → con ∈ x'.lstMessageConnections
  data : con ∈ x.lstDataConnections → con ∈ x'.lstDataConnections

theorem Includes.refl {x : ConnectionSession} : Includes con x x := ⟨rfl, id, id, id⟩

theorem Includes.setSession_of_ne {ss' : Nat} {x : ConnectionSession} (h : ss' ≠ ss) :
    Includes con (s.session ss') ((s.setSession ss x).session ss') := by
  rw [session_setSession_of_ne h]
  exact .refl

theorem Includes.setSession {ss' : Nat} {x : ConnectionSession} (h : Includes con (s.session ss) x) :
    Includes con (s.session ss') ((s.setSession ss x).session ss') := by
  by_cases heq : ss' = ss
  · rw [heq, session_setSession_self]
    exact h
  · exact .setSession_of_ne heq

theorem LoginOk.mono {l : Login} (h : s.LoginOk con l)
    (hu : ∀ ss, l.session = some ss → s.Using ss → s'.Using ss)
    (ht : ∀ ss g, l.taken = some (ss, g) → s.Taken ss g → s'.Taken ss g)
    (hx : ∀ ss, l.session = some ss → Includes con (s.session ss) (s'.session ss)) : s'.LoginOk con l := by
  cases l with
  | none => trivial
  | gotFree ss g => exact ht ss g rfl h
  | mainAdded ss g => exact ⟨ht ss g rfl h.1, (hx ss rfl).main h.2⟩
  | guidSet ss g => exact ⟨ht ss g rfl h.1, (hx ss rfl).main h.2.1, (hx ss rfl).guid.trans h.2.2⟩
  | inUse ss => exact ⟨hu ss rfl h.1, (hx ss rfl).main h.2⟩
  | found ss byConnectionType | verified ss byConnectionType | attached ss byConnectionType =>
    exact ⟨hu ss rfl h.1, h.2⟩
  | loggedIn ss byConnectionType =>
    obtain ⟨hss, h₁, h₂, h₃⟩ := h
    have hi := hx ss rfl
    exact ⟨hu ss rfl hss, fun ht => hi.main (h₁ ht), fun ht => hi.message (h₂ ht), fun ht => hi.data (h₃ ht)⟩

theorem LoginOk.session {l : Login} (h : s.LoginOk con l) (hl : l.session = some ss) :
    (∃ g, l.taken = some (ss, g) ∧ s.Taken ss g) ∨ s.Using ss := by
  cases l with
  | none => cases hl
  | gotFree ss' g =>
    cases hl
    exact .inl ⟨g, rfl, h⟩
  | mainAdded ss' g | guidSet ss' g =>
    cases hl
    exact .inl ⟨g, rfl, h.1⟩
  | inUse ss' | found ss' | verified ss' | attached ss' | loggedIn ss' =>
    cases hl
    exact .inr h.1

theorem LoginOk.taken {l : Login} (h : s.LoginOk con l) (hl : l.taken = some (ss, g)) : s.Taken ss g := by
  cases l with
  | gotFree ss' g' =>
    cases hl
    exact h
  | mainAdded ss' g' | guidSet ss' g' =>
    cases hl
    exact h.1
  | none | inUse | found | verified | attached | loggedIn => cases hl

namespace Inv

theorem using_of_stored (h : s.Inv) (hst : s.nState con ≠ .closed) (hp : s.pSession con = some ss) :
    s.Using ss := by
  rw [h.stored con] at hp
  have hok := h.login con hst
  cases hl : s.login con with
  | attached ss' byConnectionType | loggedIn ss' byConnectionType =>
    rw [hl] at hok hp
    cases hp
    exact hok.1
  | none | gotFree | mainAdded | guidSet | inUse | found | verified =>
    rw [hl] at hp
    cases hp

theorem consistent (h : s.Inv) : s.Consistent where
  free ss hss con hst hp := by
    obtain ⟨g, hg⟩ := h.using_of_stored hst hp
    exact (h.pool.using_ g ss hg).2.2.1 hss
  member _ _ hst hp := h.using_of_stored hst hp
  nodup := h.pool.nodup
  disjoint ss hss := by
    rintro ⟨g, hg⟩
    exact (h.pool.using_ g ss hg).2.2.1 hss
  guid ss g g' hg hg' := by
    rw [← (h.pool.using_ g ss hg).1, ← (h.pool.using_ g' ss hg').1]

theorem session_ne_of_taken (h : s.Inv) {con' : Nat} (hne : con' ≠ con) (hst' : s.nState con' ≠ .closed)
    (hst : s.nState con ≠ .closed) (hl : (s.login con).taken = some (ss, g)) :
    (s.login con').session ≠ some ss := by
  intro hl'
  rcases (h.login con' hst').session hl' with ⟨g', htaken, -⟩ | hu
  · exact (h.apart con' con ss ss g' g hne htaken hl).1 rfl
  · exact ((h.login con hst).taken hl).notUsing hu

/-! ### One login goes on -/

/-- The login of `con` gets to `l`, and `m_pSession` is as `l` has it. -/
theorem setLogin (h : s.Inv) {l : Login} (hcon : con < s.connections) (hst : s.nState con ≠ .closed)
    (hok : s.LoginOk con l)
    (hapart : ∀ con' ss g ss' g', con' ≠ con → l.taken = some (ss, g) →
      (s.login con').taken = some (ss', g') → ss ≠ ss' ∧ g ≠ g')
    (hempt : ∀ con' ss, s.closing con' = .closeSession ss → l.session ≠ some ss) :
    ({ s with pSession := Function.update s.pSession con l.stored }.setLogin con l).Inv where
  pool := ⟨h.pool.nodup, h.pool.freeLt, h.pool.using_, h.pool.own, h.pool.guid, h.pool.empty⟩
  login con' hst' := by
    have hmono : ∀ l', s.LoginOk con' l' →
        ({ s with pSession := Function.update s.pSession con l.stored }.setLogin con l).LoginOk con' l' :=
      fun l' hl => hl.mono (fun _ _ hu => hu)
        (fun _ _ _ ht => ⟨ht.lt, ht.notFree, ht.notUsing, ht.guid, ht.guidNotUsing, ht.guidOnly⟩)
        fun _ _ => .refl
    apply hmono
    by_cases heq : con' = con
    · subst heq
      rw [setLogin_self]
      exact hok
    · rw [setLogin_of_ne heq]
      exact h.login con' hst'
  apart con₁ con₂ ss ss' g g' hne h₁ h₂ := by
    by_cases heq₁ : con₁ = con
    · subst heq₁
      rw [setLogin_self] at h₁
      rw [setLogin_of_ne hne.symm] at h₂
      exact hapart con₂ ss g ss' g' hne.symm h₁ h₂
    · rw [setLogin_of_ne heq₁] at h₁
      by_cases heq₂ : con₂ = con
      · subst heq₂
        rw [setLogin_self] at h₂
        obtain ⟨hss, hg⟩ := hapart con₁ ss' g' ss g hne h₂ h₁
        exact ⟨hss.symm, hg.symm⟩
      · rw [setLogin_of_ne heq₂] at h₂
        exact h.apart con₁ con₂ ss ss' g g' hne h₁ h₂
  stored con' := by
    show Function.update s.pSession con l.stored con' = (Function.update s.login con l con').stored
    by_cases heq : con' = con
    · rw [heq, Function.update_self, Function.update_self]
    · rw [Function.update_of_ne heq, Function.update_of_ne heq]
      exact h.stored con'
  isOpen con' hp := by
    by_cases heq : con' = con
    · rw [heq]
      exact hst
    · rw [setLogin_of_ne heq] at hp
      exact h.isOpen con' hp
  beyond con' hle := by
    have hle : s.connections ≤ con' := hle
    rw [setLogin_of_ne (by omega)]
    exact h.beyond con' hle
  closingLt := h.closingLt
  gotSession := h.gotSession
  removing := h.removing
  emptied con' ss hc con₂ hst₂ := by
    have hst₂ : s.nState con₂ ≠ .closed := hst₂
    by_cases heq : con₂ = con
    · rw [heq, setLogin_self]
      exact hempt con' ss hc
    · rw [setLogin_of_ne heq]
      exact h.emptied con' ss hc con₂ hst₂

theorem lt_of_login (h : s.Inv) (hl : s.login con ≠ .none) : con < s.connections := by
  rcases Nat.lt_or_ge con s.connections with hlt | hle
  · exact hlt
  · exact absurd (h.beyond con hle).1 hl

theorem advance (h : s.Inv) {l : Login} (hp : (s.login con).InProgress) (hok : s.LoginOk con l)
    (ht : ∀ p, l.taken = some p → (s.login con).taken = some p)
    (hss : ∀ ss, l.session = some ss → (s.login con).session = some ss) :
    ({ s with pSession := Function.update s.pSession con l.stored }.setLogin con l).Inv := by
  have hst := h.isOpen con hp
  have hcon : con < s.connections := h.lt_of_login fun hl => by
    rw [hl] at hp
    exact hp
  refine h.setLogin hcon hst hok ?_ ?_
  · intro con' ss g ss' g' hne hl hl'
    exact h.apart con con' ss ss' g g' hne.symm (ht _ hl) hl'
  · intro con' ss hc hl
    exact h.emptied con' ss hc con hst (hss ss hl)

theorem advance' (h : s.Inv) {l : Login} (hp : (s.login con).InProgress) (hok : s.LoginOk con l)
    (ht : ∀ p, l.taken = some p → (s.login con).taken = some p)
    (hss : ∀ ss, l.session = some ss → (s.login con).session = some ss)
    (hstored : (s.login con).stored = l.stored) : (s.setLogin con l).Inv := by
  have h' := h.advance hp hok ht hss
  rw [← hstored, ← h.stored con, Function.update_eq_self] at h'
  exact h'

/-! ### One session changes -/

theorem setSession (h : s.Inv) {x : ConnectionSession} (hguid : x.strSessionGuid = (s.session ss).strSessionGuid)
    (hx : ∀ con, s.nState con ≠ .closed → (s.login con).session = some ss → Includes con (s.session ss) x) :
    (s.setSession ss x).Inv := by
  have hg : ∀ ss', ((s.setSession ss x).session ss').strSessionGuid = (s.session ss').strSessionGuid := by
    intro ss'
    by_cases heq : ss' = ss
    · rw [heq, session_setSession_self]
      exact hguid
    · rw [session_setSession_of_ne heq]
  exact { h with
    pool :=
      { h.pool with
        using_ := fun g ss' hl => by
          rw [hg ss']
          exact h.pool.using_ g ss' hl
        own := fun ss' hm => by
          rw [hg ss'] at hm ⊢
          exact h.pool.own ss' hm
        guid := fun ss' => by
          rw [hg ss']
          exact h.pool.guid ss' }
    login := by
      intro con' hst
      refine (h.login con' hst).mono (fun _ _ hu => hu) ?_ ?_
      · intro ss' g _ ht
        exact { ht with guidOnly := fun ss'' hss => ht.guidOnly ss'' (by rw [← hg ss'']; exact hss) }
      · intro ss' hl
        by_cases heq : ss' = ss
        · subst heq
          exact .setSession (hx con' hst hl)
        · exact .setSession_of_ne heq }

/-! ### The free queue -/

theorem not_using_of_free (h : s.PoolOk) (hss : ss ∈ s.queueFreeSessions) : ¬ s.Using ss := by
  rintro ⟨g, hg⟩
  exact (h.using_ g ss hg).2.2.1 hss

theorem withGuid (h : s.Inv) (hne : g ≠ "") : ({ s with guids := g :: s.guids } : Sessions).Inv :=
  { h with
    pool :=
      { h.pool with
        using_ := fun g' ss hl => by
          obtain ⟨h₁, h₂, h₃, h₄⟩ := h.pool.using_ g' ss hl
          exact ⟨h₁, h₂, h₃, List.mem_cons_of_mem _ h₄⟩
        guid := fun ss => (h.pool.guid ss).imp_right (List.mem_cons_of_mem _)
        empty := by
          intro hmem
          rcases List.mem_cons.mp hmem with heq | hmem
          · exact hne heq.symm
          · exact h.pool.empty hmem }
    login := fun con hst => (h.login con hst).mono (fun _ _ hu => hu)
      (fun _ _ _ ht => { ht with guid := List.mem_cons_of_mem _ ht.guid }) fun _ _ => .refl }

theorem fill (h : s.Inv) : s.fill.Inv := by
  unfold Sessions.fill
  cases hq : s.queueFreeSessions with
  | cons ss queue => exact h
  | nil =>
    have hnew : ∀ ss ∈ List.range' s.created 1000, s.created ≤ ss ∧ ss < s.created + 1000 :=
      fun ss hss => List.mem_range'_1.mp hss
    exact { h with
      pool :=
        { h.pool with
          nodup := List.nodup_range'
          freeLt := fun ss hss => (hnew ss hss).2
          using_ := fun g ss hl => by
            obtain ⟨h₁, h₂, -, h₄⟩ := h.pool.using_ g ss hl
            refine ⟨h₁, Nat.lt_add_right _ h₂, fun hss => ?_, h₄⟩
            exact absurd (hnew ss hss).1 (by omega) }
      login := fun con hst => (h.login con hst).mono (fun _ _ hu => hu)
        (fun ss g _ ht =>
          { ht with
            lt := Nat.lt_add_right _ ht.lt
            notFree := fun hss => absurd (hnew ss hss).1 (by have := ht.lt; omega) })
        fun _ _ => .refl
      closingLt := fun con ss hc => Nat.lt_add_right _ (h.closingLt con ss hc) }

theorem popFree (h : s.Inv) {queue : List Nat} (hq : s.queueFreeSessions = ss :: queue) :
    ({ s with queueFreeSessions := queue } : Sessions).Inv := by
  have hsub : ∀ ss' ∈ queue, ss' ∈ s.queueFreeSessions := by
    intro ss' hss
    rw [hq]
    exact List.mem_cons_of_mem _ hss
  have hnodup := h.pool.nodup
  rw [hq] at hnodup
  exact { h with
    pool :=
      { h.pool with
        nodup := (List.nodup_cons.mp hnodup).2
        freeLt := fun ss' hss => h.pool.freeLt ss' (hsub ss' hss)
        using_ := fun g ss' hl => by
          obtain ⟨h₁, h₂, h₃, h₄⟩ := h.pool.using_ g ss' hl
          exact ⟨h₁, h₂, fun hss => h₃ (hsub ss' hss), h₄⟩ }
    login := fun con hst => (h.login con hst).mono (fun _ _ hu => hu)
      (fun ss' g _ ht => { ht with notFree := fun hss => ht.notFree (hsub ss' hss) }) fun _ _ => .refl }

theorem not_taken_of_free (h : s.Inv) (hss : ss ∈ s.queueFreeSessions) {con' ss' : Nat} {g' : String}
    (hl : (s.login con').taken = some (ss', g')) (hst : s.nState con' ≠ .closed) : ss ≠ ss' := by
  rintro rfl
  exact ((h.login con' hst).taken hl).notFree hss

theorem inProgress_of_taken {l : Login} {p : Nat × String} (hl : l.taken = some p) : l.InProgress := by
  cases l with
  | gotFree | mainAdded | guidSet => trivial
  | none | inUse | found | verified | attached | loggedIn => cases hl

/-- A login takes the first session of the queue, whose last close is over. -/
theorem takeFree (h : s.Inv) (hcon : con < s.connections) (hst : s.nState con ≠ .closed)
    (hstored : s.pSession con = none) {queue : List Nat} (hq : s.queueFreeSessions = ss :: queue)
    (hempt : ∀ con', s.closing con' ≠ .closeSession ss) (hg : g ∈ s.guids) (hmap : g ∉ s.mapUsingSessions)
    (honly : ∀ ss', (s.session ss').strSessionGuid ≠ g)
    (htaken : ∀ con' ss', (s.login con').taken ≠ some (ss', g)) :
    ({ s with queueFreeSessions := queue }.setLogin con (.gotFree ss g)).Inv := by
  have hmem : ss ∈ s.queueFreeSessions := by
    rw [hq]
    exact List.mem_cons_self
  have hnodup := h.pool.nodup
  rw [hq] at hnodup
  have hu : ¬ s.Using ss := not_using_of_free h.pool hmem
  have hok : ({ s with queueFreeSessions := queue } : Sessions).LoginOk con (.gotFree ss g) :=
    { lt := h.pool.freeLt ss hmem
      notFree := (List.nodup_cons.mp hnodup).1
      notUsing := hu
      guid := hg
      guidNotUsing := hmap
      guidOnly := fun ss' hss => absurd hss (honly ss') }
  have h' := (h.popFree hq).setLogin hcon hst hok ?_ ?_
  · have hnone : Function.update s.pSession con none = s.pSession := by
      rw [← hstored, Function.update_eq_self]
    rw [show (Login.gotFree ss g).stored = none from rfl, hnone] at h'
    exact h'
  · rintro con' ss₁ g₁ ss₂ g₂ - ⟨⟩ hl'
    refine ⟨h.not_taken_of_free hmem hl' (h.isOpen con' (inProgress_of_taken hl')), ?_⟩
    rintro rfl
    exact htaken con' ss₂ hl'
  · rintro con' ss' hc ⟨⟩
    exact hempt con' hc

/-! ### The guid of a taken session -/

theorem setGuid (h : s.Inv) (hl : s.login con = .mainAdded ss g) (strCode : String) :
    (s.setSession ss { s.session ss with strSessionGuid := g, strVerificationCode := strCode }).Inv := by
  have hp : (s.login con).InProgress := by
    rw [hl]
    trivial
  have hst := h.isOpen con hp
  have hok : s.LoginOk con (s.login con) := h.login con hst
  have htaken : (s.login con).taken = some (ss, g) := by rw [hl]; rfl
  have ht := hok.taken htaken
  have hone : ∀ ss', ss' ≠ ss → ((s.setSession ss { s.session ss with
      strSessionGuid := g, strVerificationCode := strCode }).session ss') = s.session ss' :=
    fun ss' hne => session_setSession_of_ne hne
  have hself : (s.setSession ss { s.session ss with
      strSessionGuid := g, strVerificationCode := strCode }).session ss =
      { s.session ss with strSessionGuid := g, strVerificationCode := strCode } := session_setSession_self
  exact { h with
    pool :=
      { h.pool with
        using_ := fun g' ss' hlu => by
          rw [hone ss' (by rintro rfl; exact ht.notUsing ⟨g', hlu⟩)]
          exact h.pool.using_ g' ss' hlu
        own := fun ss' hm => by
          by_cases hne : ss' = ss
          · rw [hne, hself] at hm
            exact absurd hm ht.guidNotUsing
          · rw [hone ss' hne] at hm ⊢
            exact h.pool.own ss' hm
        guid := fun ss' => by
          by_cases hne : ss' = ss
          · rw [hne, hself]
            exact .inr ht.guid
          · rw [hone ss' hne]
            exact h.pool.guid ss' }
    login := by
      intro con' hst'
      have hst' : s.nState con' ≠ .closed := hst'
      by_cases heq : con' = con
      · subst heq
        have hok' := hok
        rw [hl] at hok'
        show Sessions.LoginOk _ con' (s.login con')
        rw [hl]
        refine ⟨{ ht with guidOnly := fun ss' hss => ?_ }, by rw [hself]; exact hok'.2⟩
        by_contra hne
        rw [hone ss' hne] at hss
        exact hne (ht.guidOnly ss' hss)
      · have hother := h.session_ne_of_taken heq hst' hst htaken
        refine (h.login con' hst').mono (fun _ _ hu => hu) ?_ ?_
        · intro ss' g' hl' ht'
          have hgne : g' ≠ g := (h.apart con' con ss' ss g' g heq hl' htaken).2
          refine { ht' with guidOnly := fun ss'' hss => ?_ }
          by_cases hne : ss'' = ss
          · rw [hne, hself] at hss
            exact absurd hss.symm hgne
          · rw [hone ss'' hne] at hss
            exact ht'.guidOnly ss'' hss
        · intro ss' hl'
          exact .setSession_of_ne (by rintro rfl; exact hother hl') }

theorem insertUsing (h : s.Inv) (ht : s.Taken ss g) (hguid : (s.session ss).strSessionGuid = g)
    (hother : ∀ con ss' g', (s.login con).taken = some (ss', g') → ss' ≠ ss ∧ g' ≠ g) :
    ({ s with mapUsingSessions := s.mapUsingSessions.insert g ss } : Sessions).Inv := by
  have hlookup : ∀ g' ss', g' ≠ g → ((s.mapUsingSessions.insert g ss).lookup g' = some ss' ↔
      s.mapUsingSessions.lookup g' = some ss') := fun g' ss' hne => by rw [AList.lookup_insert_ne hne]
  exact { h with
    pool :=
      { h.pool with
        using_ := fun g' ss' hlu => by
          have hlu : (s.mapUsingSessions.insert g ss).lookup g' = some ss' := hlu
          by_cases hne : g' = g
          · subst hne
            rw [AList.lookup_insert] at hlu
            cases hlu
            exact ⟨hguid, ht.lt, ht.notFree, ht.guid⟩
          · exact h.pool.using_ g' ss' ((hlookup g' ss' hne).mp hlu)
        own := fun ss' hm => by
          have hm : (s.session ss').strSessionGuid ∈ s.mapUsingSessions.insert g ss := hm
          show (s.mapUsingSessions.insert g ss).lookup (s.session ss').strSessionGuid = some ss'
          by_cases hne : (s.session ss').strSessionGuid = g
          · rw [hne, AList.lookup_insert, ht.guidOnly ss' hne]
          · rw [AList.lookup_insert_ne hne]
            rcases (AList.mem_insert _).mp hm with heq | hm
            · exact absurd heq hne
            · exact h.pool.own ss' hm }
    login := by
      intro con hst
      refine (h.login con hst).mono ?_ ?_ fun _ _ => .refl
      · rintro ss' - ⟨g', hg'⟩
        have hne : g' ≠ g := by
          rintro rfl
          exact ht.guidNotUsing (AList.lookup_isSome.mp (Option.isSome_of_mem hg'))
        exact ⟨g', (hlookup g' ss' hne).mpr hg'⟩
      · intro ss' g' hl ht'
        obtain ⟨hssne, hgne⟩ := hother con ss' g' hl
        refine { ht' with notUsing := ?_, guidNotUsing := ?_ }
        · rintro ⟨g₁, hg₁⟩
          have hg₁ : (s.mapUsingSessions.insert g ss).lookup g₁ = some ss' := hg₁
          by_cases hne : g₁ = g
          · rw [hne, AList.lookup_insert] at hg₁
            exact hssne (Option.some.inj hg₁).symm
          · exact ht'.notUsing ⟨g₁, (hlookup g₁ ss' hne).mp hg₁⟩
        · intro hm
          rcases (AList.mem_insert _).mp hm with heq | hm
          · exact hgne heq
          · exact ht'.guidNotUsing hm }

/-- `AddUsingSession`: for a moment the login has no session, and then one that is in use. -/
theorem addUsing (h : s.Inv) (hl : s.login con = .guidSet ss g) :
    ((s.addUsingSession ss).setLogin con (.inUse ss)).Inv := by
  have hp : (s.login con).InProgress := by
    rw [hl]
    trivial
  have hst := h.isOpen con hp
  have hcon : con < s.connections := h.lt_of_login fun hn => by
    rw [hn] at hl
    cases hl
  have hok : s.LoginOk con (.guidSet ss g) := by
    rw [← hl]
    exact h.login con hst
  obtain ⟨ht, hmain, hguid⟩ := hok
  have htaken : (s.login con).taken = some (ss, g) := by
    rw [hl]
    rfl
  have h₀ : (s.setLogin con .none).Inv :=
    h.advance' hp trivial (fun _ hp => by cases hp) (fun _ hs => by cases hs) (by rw [hl]; rfl)
  have h₁ := h₀.insertUsing
    ⟨ht.lt, ht.notFree, ht.notUsing, ht.guid, ht.guidNotUsing, ht.guidOnly⟩ hguid (by
      intro con' ss' g' hl'
      by_cases heq : con' = con
      · rw [heq, setLogin_self] at hl'
        cases hl'
      · rw [setLogin_of_ne heq] at hl'
        exact h.apart con' con ss' ss g' g heq hl' htaken)
  have hu : ({ s with mapUsingSessions := s.mapUsingSessions.insert g ss } : Sessions).Using ss :=
    ⟨g, AList.lookup_insert _⟩
  have h₂ := h₁.setLogin (l := .inUse ss) hcon hst ⟨hu, hmain⟩ (by rintro con' ss₁ g₁ ss₂ g₂ - ⟨⟩) (by
    rintro con' ss' hc ⟨⟩
    exact h.emptied con' ss hc con hst (by rw [hl]; rfl))
  have hadd : s.addUsingSession ss = { s with mapUsingSessions := s.mapUsingSessions.insert g ss } := by
    unfold addUsingSession
    rw [hguid, if_neg ht.guidNotUsing]
  have hnone : Function.update s.pSession con none = s.pSession := by
    have hnone : s.pSession con = none := by
      rw [h.stored con, hl]
      rfl
    rw [← hnone, Function.update_eq_self]
  have heq : (s.addUsingSession ss).setLogin con (.inUse ss) =
      { ({ s with mapUsingSessions := s.mapUsingSessions.insert g ss }.setLogin con .none) with
        pSession := Function.update s.pSession con none }.setLogin con (.inUse ss) := by
    rw [hadd, hnone]
    simp only [Sessions.setLogin, Function.update_idem]
  rw [heq]
  exact h₂

/-! ### Closing -/

theorem closeSession (h : s.Inv) (hss : ss < s.created)
    (hnone : ∀ con, s.nState con ≠ .closed → (s.login con).session ≠ some ss) : (s.closeSession ss).Inv := by
  unfold Sessions.closeSession
  by_cases hm : (s.session ss).strSessionGuid ∈ s.mapUsingSessions
  swap
  · rw [if_neg hm]
    exact h
  rw [if_pos hm]
  have hown := h.pool.own ss hm
  have hfree := (h.pool.using_ _ ss hown).2.2.1
  have herase : ∀ g ss', (s.mapUsingSessions.erase (s.session ss).strSessionGuid).lookup g = some ss' →
      s.mapUsingSessions.lookup g = some ss' ∧ ss' ≠ ss := by
    intro g ss' hl
    by_cases hne : g = (s.session ss).strSessionGuid
    · rw [hne, AList.lookup_erase] at hl
      cases hl
    · rw [AList.lookup_erase_ne hne] at hl
      refine ⟨hl, ?_⟩
      rintro rfl
      exact hne (h.pool.using_ g _ hl).1.symm
  have hqueue : ∀ ss', ss' ∉ s.queueFreeSessions → ss' ≠ ss → ss' ∉ s.queueFreeSessions ++ [ss] := by
    intro ss' hq hne hmem
    rcases List.mem_append.mp hmem with hmem | hmem
    · exact hq hmem
    · exact hne (List.mem_singleton.mp hmem)
  -- the guid of the session first, and then the map and the queue
  have hone : ∀ ss', ss' ≠ ss → ((s.setSession ss (s.session ss).destroy).session ss') = s.session ss' :=
    fun ss' hne => session_setSession_of_ne hne
  have hself : ((s.setSession ss (s.session ss).destroy).session ss).strSessionGuid = "" := by
    rw [session_setSession_self]
    rfl
  exact { h with
    pool :=
      { h.pool with
        nodup := by
          refine List.nodup_append.mpr ⟨h.pool.nodup, List.nodup_singleton ss, ?_⟩
          intro x hx y hy
          rw [List.mem_singleton.mp hy]
          rintro rfl
          exact hfree hx
        freeLt := fun ss' hmem => by
          rcases List.mem_append.mp hmem with hmem | hmem
          · exact h.pool.freeLt ss' hmem
          · rw [List.mem_singleton.mp hmem]
            exact hss
        using_ := fun g ss' hl => by
          obtain ⟨hl, hne⟩ := herase g ss' hl
          obtain ⟨h₁, h₂, h₃, h₄⟩ := h.pool.using_ g ss' hl
          refine ⟨?_, h₂, hqueue ss' h₃ hne, h₄⟩
          show ((s.setSession ss (s.session ss).destroy).session ss').strSessionGuid = g
          rw [hone ss' hne]
          exact h₁
        own := fun ss' hm' => by
          have hm' : ((s.setSession ss (s.session ss).destroy).session ss').strSessionGuid ∈
              s.mapUsingSessions.erase (s.session ss).strSessionGuid := hm'
          show (s.mapUsingSessions.erase (s.session ss).strSessionGuid).lookup
            ((s.setSession ss (s.session ss).destroy).session ss').strSessionGuid = some ss'
          obtain ⟨hg, hm'⟩ := AList.mem_erase.mp hm'
          by_cases hne : ss' = ss
          · rw [hne, hself] at hm'
            obtain ⟨x, hx⟩ := Option.isSome_iff_exists.mp (AList.lookup_isSome.mpr hm')
            exact absurd (h.pool.using_ "" x hx).2.2.2 h.pool.empty
          · rw [AList.lookup_erase_ne hg]
            rw [hone ss' hne] at hm' ⊢
            exact h.pool.own ss' hm'
        guid := fun ss' => by
          show ((s.setSession ss (s.session ss).destroy).session ss').strSessionGuid = "" ∨
            ((s.setSession ss (s.session ss).destroy).session ss').strSessionGuid ∈ s.guids
          by_cases hne : ss' = ss
          · rw [hne, hself]
            exact .inl rfl
          · rw [hone ss' hne]
            exact h.pool.guid ss' }
    login := by
      intro con hst
      have hst : s.nState con ≠ .closed := hst
      have hne : ∀ ss', (s.login con).session = some ss' → ss' ≠ ss := by
        rintro ss' hl rfl
        exact hnone con hst hl
      refine (h.login con hst).mono ?_ ?_ ?_
      · rintro ss' hl ⟨g, hg⟩
        refine ⟨g, ?_⟩
        show (s.mapUsingSessions.erase (s.session ss).strSessionGuid).lookup g = some ss'
        rw [AList.lookup_erase_ne]
        · exact hg
        · rintro rfl
          rw [hown] at hg
          exact hne ss' hl (Option.some.inj hg).symm
      · intro ss' g hl ht
        have hg : g ≠ "" := by
          rintro rfl
          exact h.pool.empty ht.guid
        refine
          { ht with
            notFree := hqueue ss' ht.notFree (hne ss' (Login.session_of_taken hl))
            notUsing := ?_
            guidNotUsing := fun hm' => ht.guidNotUsing (AList.mem_erase.mp hm').2
            guidOnly := ?_ }
        · rintro ⟨g', hg'⟩
          exact ht.notUsing ⟨g', (herase g' ss' hg').1⟩
        · intro ss'' hss''
          have hss'' : ((s.setSession ss (s.session ss).destroy).session ss'').strSessionGuid = g := hss''
          by_cases heq : ss'' = ss
          · rw [heq, hself] at hss''
            exact absurd hss''.symm hg
          · rw [hone ss'' heq] at hss''
            exact ht.guidOnly ss'' hss''
      · intro ss' hl
        show Includes con (s.session ss') ((s.setSession ss (s.session ss).destroy).session ss')
        rw [hone ss' (hne ss' hl)]
        exact .refl }

theorem setClosing (h : s.Inv) {c : Closing} (hcon : con < s.connections)
    (hlt : ∀ ss, c.session = some ss → ss < s.created)
    (hgot : ∀ p, c = .gotSession p → s.nState con ≠ .closed)
    (hremove : ∀ ss, c = .remove ss → s.nState con = .closed)
    (hempt : ∀ ss, c = .closeSession ss → ∀ con', s.nState con' ≠ .closed → (s.login con').session ≠ some ss) :
    (s.setClosing con c).Inv :=
  { h with
    pool := { h.pool with }
    login := fun con' hst => (h.login con' hst).mono (fun _ _ hu => hu) (fun _ _ _ ht => { ht with })
      fun _ _ => .refl
    beyond := fun con' hle => by
      have hle : s.connections ≤ con' := hle
      obtain ⟨hl, hc⟩ := h.beyond con' hle
      refine ⟨hl, ?_⟩
      show Function.update s.closing con c con' = .idle
      rw [Function.update_of_ne (by omega)]
      exact hc
    closingLt := fun con' ss hc => by
      have hc : (Function.update s.closing con c con').session = some ss := hc
      by_cases heq : con' = con
      · rw [heq, Function.update_self] at hc
        exact hlt ss hc
      · rw [Function.update_of_ne heq] at hc
        exact h.closingLt con' ss hc
    gotSession := fun con' p hc => by
      have hc : Function.update s.closing con c con' = .gotSession p := hc
      by_cases heq : con' = con
      · rw [heq, Function.update_self] at hc
        rw [heq]
        exact hgot p hc
      · rw [Function.update_of_ne heq] at hc
        exact h.gotSession con' p hc
    removing := fun con' ss hc => by
      have hc : Function.update s.closing con c con' = .remove ss := hc
      by_cases heq : con' = con
      · rw [heq, Function.update_self] at hc
        rw [heq]
        exact hremove ss hc
      · rw [Function.update_of_ne heq] at hc
        exact h.removing con' ss hc
    emptied := fun con' ss hc => by
      have hc : Function.update s.closing con c con' = .closeSession ss := hc
      by_cases heq : con' = con
      · rw [heq, Function.update_self] at hc
        exact hempt ss hc
      · rw [Function.update_of_ne heq] at hc
        exact h.emptied con' ss hc }

/-- A connection without a login in progress gets to another state. -/
theorem setState (h : s.Inv) (st : ConnectionState) (hst : s.nState con ≠ .closed)
    (hl : st = .closed → ¬ (s.login con).InProgress) (hc : s.closing con = .idle) :
    ({ s with nState := Function.update s.nState con st } : Sessions).Inv := by
  have hopen : ∀ con', Function.update s.nState con st con' ≠ .closed → s.nState con' ≠ .closed := by
    intro con' hst'
    by_cases heq : con' = con
    · rw [heq]
      exact hst
    · rw [Function.update_of_ne heq] at hst'
      exact hst'
  exact { h with
    pool := { h.pool with }
    login := fun con' hst' => (h.login con' (hopen con' hst')).mono (fun _ _ hu => hu)
      (fun _ _ _ ht => { ht with }) fun _ _ => .refl
    isOpen := fun con' hp => by
      show Function.update s.nState con st con' ≠ .closed
      by_cases heq : con' = con
      · rw [heq] at hp ⊢
        rw [Function.update_self]
        exact fun hcl => hl hcl hp
      · rw [Function.update_of_ne heq]
        exact h.isOpen con' hp
    gotSession := fun con' p hr => by
      have hne : con' ≠ con := by
        rintro rfl
        rw [hc] at hr
        cases hr
      show Function.update s.nState con st con' ≠ .closed
      rw [Function.update_of_ne hne]
      exact h.gotSession con' p hr
    removing := fun con' ss hr => by
      have hne : con' ≠ con := by
        rintro rfl
        rw [hc] at hr
        cases hr
      show Function.update s.nState con st con' = .closed
      rw [Function.update_of_ne hne]
      exact h.removing con' ss hr
    emptied := fun con' ss hc con₂ hst₂ => h.emptied con' ss hc con₂ (hopen con₂ hst₂) }

theorem lt_of_closing (h : s.Inv) (hc : s.closing con ≠ .idle) : con < s.connections := by
  rcases Nat.lt_or_ge con s.connections with hlt | hle
  · exact hlt
  · exact absurd (h.beyond con hle).2 hc

theorem endClose (h : s.Inv) {st : ConnectionState} {c : Closing} {pSession : Option Nat}
    (hc : s.closing con = .gotSession pSession) (hl : st = .closed → ¬ (s.login con).InProgress)
    (hlt : ∀ ss, c.session = some ss → ss < s.created) (hgot : ∀ p, c ≠ .gotSession p)
    (hremove : ∀ ss, c = .remove ss → Function.update s.nState con st con = .closed)
    (hempt : ∀ ss, c ≠ .closeSession ss) :
    ({ s with nState := Function.update s.nState con st }.setClosing con c).Inv := by
  have hcon : con < s.connections := h.lt_of_closing (by rw [hc]; exact Closing.noConfusion)
  have h₁ : (s.setClosing con .idle).Inv :=
    h.setClosing hcon (by rintro ss ⟨⟩) (by rintro p ⟨⟩) (by rintro ss ⟨⟩) (by rintro ss ⟨⟩)
  have h₂ := h₁.setState st (h.gotSession con pSession hc) hl (Function.update_self ..)
  have h₃ := h₂.setClosing (c := c) hcon hlt (fun p hp => absurd hp (hgot p)) hremove
    fun ss hss => absurd hss (hempt ss)
  simp only [Sessions.setClosing, Function.update_idem] at h₃
  exact h₃

/-- A session that counts no connection has none, but for a login on its way or without a list. -/
theorem unlisted_of_zero (h : s.Inv) (hzero : (s.session ss).getConnectionNumber = 0)
    (hst : s.nState con ≠ .closed) (hl : (s.login con).session = some ss) : (s.login con).Unlisted ss := by
  have hok := h.login con hst
  obtain ⟨⟨hmain, hmes⟩, hdata⟩ : (¬ (s.session ss).pMmainConnetion.isSome ∧
      (s.session ss).lstMessageConnections = []) ∧ (s.session ss).lstDataConnections = [] := by
    simpa [ConnectionSession.getConnectionNumber] using hzero
  have hnomain : (s.session ss).pMmainConnetion ≠ some con := fun hm => hmain (by rw [hm]; rfl)
  cases hlog : s.login con with
  | none =>
    rw [hlog] at hl
    cases hl
  | gotFree ss' g | found ss' byConnectionType | verified ss' byConnectionType | attached ss' byConnectionType =>
    rw [hlog] at hl
    exact Option.some.inj hl
  | mainAdded ss' g =>
    rw [hlog] at hl hok
    cases hl
    exact absurd hok.2 hnomain
  | guidSet ss' g =>
    rw [hlog] at hl hok
    cases hl
    exact absurd hok.2.1 hnomain
  | inUse ss' =>
    rw [hlog] at hl hok
    cases hl
    exact absurd hok.2 hnomain
  | loggedIn ss' byConnectionType =>
    rw [hlog] at hl hok
    cases hl
    obtain ⟨-, h₁, h₂, h₃⟩ := hok
    rw [hmes] at h₂
    rw [hdata] at h₃
    refine ⟨rfl, fun hmem => ?_⟩
    rcases List.mem_cons.mp hmem with heq | hmem
    · exact hnomain (h₁ heq)
    rcases List.mem_cons.mp hmem with heq | hmem
    · exact List.not_mem_nil (h₂ heq)
    · exact List.not_mem_nil (h₃ (List.mem_singleton.mp hmem))

theorem includes_removeConnection {x : ConnectionSession} {con' : Nat} (hne : con' ≠ con) :
    Includes con' x (x.removeConnection con) := by
  unfold ConnectionSession.removeConnection
  by_cases hmain : x.pMmainConnetion = some con
  · rw [if_pos hmain]
    refine ⟨rfl, fun hm => ?_, id, id⟩
    rw [hmain] at hm
    exact absurd (Option.some.inj hm).symm hne
  rw [if_neg hmain]
  by_cases hmes : con ∈ x.lstMessageConnections
  · rw [if_pos hmes]
    exact ⟨rfl, id, fun hm => (List.mem_erase_of_ne hne).mpr hm, id⟩
  rw [if_neg hmes]
  by_cases hdata : con ∈ x.lstDataConnections
  · rw [if_pos hdata]
    exact ⟨rfl, id, id, fun hm => (List.mem_erase_of_ne hne).mpr hm⟩
  · rw [if_neg hdata]
    exact ⟨rfl, id, id, id⟩

theorem removeConnection_guid {x : ConnectionSession} :
    (x.removeConnection con).strSessionGuid = x.strSessionGuid := by
  unfold ConnectionSession.removeConnection
  split_ifs <;> rfl

theorem runClose (h : s.Inv) (hk : s.Keeps (.runClose con)) (hs : s.runClose con = some s') : s'.Inv := by
  unfold Sessions.runClose at hs
  cases hc : s.closing con with
  | idle | gotSession =>
    rw [hc] at hs
    cases hs
  | remove ss =>
    rw [hc] at hs
    cases hs
    have hcon : con < s.connections := h.lt_of_closing (by rw [hc]; exact Closing.noConfusion)
    have hlt := h.closingLt con ss (by rw [hc]; rfl)
    have hclosed := h.removing con ss hc
    have h₁ : (s.setSession ss ((s.session ss).removeConnection con)).Inv :=
      h.setSession removeConnection_guid fun con' hst _ =>
        includes_removeConnection (by rintro rfl; exact hst hclosed)
    exact h₁.setClosing hcon (by rintro ss' ⟨⟩; exact hlt) (by rintro p ⟨⟩) (by rintro ss' ⟨⟩) (by rintro ss' ⟨⟩)
  | count ss =>
    rw [hc] at hs
    cases hs
    have hcon : con < s.connections := h.lt_of_closing (by rw [hc]; exact Closing.noConfusion)
    have hlt := h.closingLt con ss (by rw [hc]; rfl)
    by_cases hzero : (s.session ss).getConnectionNumber = 0
    · rw [if_pos hzero]
      have hk : ∀ con' < s.connections, s.nState con' ≠ .closed → ¬ (s.login con').Unlisted ss := by
        simp only [Keeps, hc] at hk
        exact hk hzero
      refine h.setClosing hcon (by rintro ss' ⟨⟩; exact hlt) (by rintro p ⟨⟩) (by rintro ss' ⟨⟩) ?_
      rintro ss' ⟨⟩ con' hst hl
      have hcon' : con' < s.connections := h.lt_of_login fun hn => by
        rw [hn] at hl
        cases hl
      exact hk con' hcon' hst (h.unlisted_of_zero hzero hst hl)
    · rw [if_neg hzero]
      exact h.setClosing hcon (by rintro ss' ⟨⟩) (by rintro p ⟨⟩) (by rintro ss' ⟨⟩) (by rintro ss' ⟨⟩)
  | closeSession ss =>
    rw [hc] at hs
    cases hs
    have hcon : con < s.connections := h.lt_of_closing (by rw [hc]; exact Closing.noConfusion)
    have hlt := h.closingLt con ss (by rw [hc]; rfl)
    have h₁ := h.closeSession hlt (h.emptied con ss hc)
    have hsame : (s.closeSession ss).connections = s.connections := by
      unfold Sessions.closeSession
      split_ifs <;> rfl
    exact h₁.setClosing (by rw [hsame]; exact hcon) (by rintro ss' ⟨⟩) (by rintro p ⟨⟩) (by rintro ss' ⟨⟩)
      (by rintro ss' ⟨⟩)

/-! ### Logins -/

theorem ne_emptied (h : s.Inv) (hk : ¬ s.Emptied ss) (con' : Nat) : s.closing con' ≠ .closeSession ss := by
  intro hc
  exact hk ⟨con', h.lt_of_closing (by rw [hc]; exact Closing.noConfusion), hc⟩

theorem fill_eq : s.fill =
    { s with created := s.fill.created, queueFreeSessions := s.fill.queueFreeSessions } := by
  unfold Sessions.fill
  cases s.queueFreeSessions <;> rfl

theorem fill_of_ne_nil (hq : s.queueFreeSessions ≠ []) : s.fill = s := by
  unfold Sessions.fill
  cases hl : s.queueFreeSessions with
  | nil => exact absurd hl hq
  | cons => rfl

/-- The first session of the queue is not one that a close is about to put there. -/
theorem emptied_head (h : s.Inv) (hk : ∀ ss ∈ s.queueFreeSessions.head?, ¬ s.Emptied ss) {queue : List Nat}
    (hq : s.fill.queueFreeSessions = ss :: queue) (con' : Nat) : s.closing con' ≠ .closeSession ss := by
  cases hl : s.queueFreeSessions with
  | cons ss' queue' =>
    rw [fill_of_ne_nil (by rw [hl]; exact List.cons_ne_nil _ _), hl] at hq
    cases hq
    exact h.ne_emptied (hk ss (by rw [hl]; rfl)) con'
  | nil =>
    -- a new session
    have hge : s.created ≤ ss := by
      have hmem : ss ∈ List.range' s.created 1000 := by
        have hfill : s.fill.queueFreeSessions = List.range' s.created 1000 := by
          unfold Sessions.fill
          rw [hl]
        rw [← hfill, hq]
        exact List.mem_cons_self
      exact (List.mem_range'_1.mp hmem).1
    intro hc
    exact absurd (h.closingLt con' ss (by rw [hc]; rfl)) (by omega)

theorem sessionLogin (h : s.Inv) {byConnectionType : UInt8} {strValue1 strValue2 strGuid : String}
    (hcon : con < s.connections) (hst : s.nState con ≠ .closed)
    (hk : s.Keeps (.sessionLogin con byConnectionType strValue1 strValue2 strGuid))
    (hs : s.sessionLogin con byConnectionType strValue1 strValue2 strGuid = some s') : s'.Inv := by
  have hk : ∀ ss ∈ s.wanted con byConnectionType strValue1, ¬ s.Emptied ss := hk
  unfold Sessions.sessionLogin at hs
  unfold wanted at hk
  by_cases hp : (s.pSession con).isSome
  · rw [if_pos hp] at hs
    cases hs
    exact h
  rw [if_neg hp] at hs hk
  have hp : s.pSession con = none := Option.not_isSome_iff_eq_none.mp hp
  by_cases htype : byConnectionType = 1
  · rw [if_pos htype] at hs hk
    obtain ⟨⟨hne, hfresh⟩, hs⟩ := Option.ite_none_right_eq_some.mp hs
    have h₁ := (h.withGuid hne).fill
    have hhead : ∀ ss queue, ({ s with guids := strGuid :: s.guids } : Sessions).fill.queueFreeSessions =
        ss :: queue → ∀ con', s.closing con' ≠ .closeSession ss :=
      fun ss queue hq => (h.withGuid hne).emptied_head hk hq
    have hnew : ∀ ss', (s.session ss').strSessionGuid ≠ strGuid := by
      intro ss' hg
      rcases h.pool.guid ss' with hg' | hg'
      · exact hne (hg.symm.trans hg')
      · rw [hg] at hg'
        exact hfresh hg'
    have hmap : strGuid ∉ s.mapUsingSessions := by
      intro hm
      obtain ⟨ss', hss'⟩ := Option.isSome_iff_exists.mp (AList.lookup_isSome.mpr hm)
      exact hfresh (h.pool.using_ strGuid ss' hss').2.2.2
    have htaken : ∀ con' ss', (s.login con').taken ≠ some (ss', strGuid) := by
      intro con' ss' hl
      exact hfresh ((h.login con' (h.isOpen con' (inProgress_of_taken hl))).taken hl).guid
    unfold getFreeSession at hs
    rw [fill_eq] at h₁
    cases hq : ({ s with guids := strGuid :: s.guids } : Sessions).fill.queueFreeSessions with
    | nil =>
      rw [hq] at h₁
      simp only [hq] at hs
      cases hs
      rw [fill_eq, hq]
      exact h₁
    | cons ss queue =>
      rw [hq] at h₁
      simp only [hq] at hs
      cases hs
      rw [fill_eq]
      exact h₁.takeFree hcon hst hp rfl (hhead ss queue hq) List.mem_cons_self hmap hnew htaken
  · rw [if_neg htype] at hs hk
    cases hf : s.findUsingSession strValue1 with
    | none =>
      rw [hf] at hs
      cases hs
      exact h
    | some ss =>
      rw [hf] at hs
      cases hs
      have hu : s.Using ss := ⟨strValue1, hf⟩
      have h' := h.setLogin (l := .found ss byConnectionType strValue2) hcon hst ⟨hu, htype⟩
        (by rintro con' ss₁ g₁ ss₂ g₂ - ⟨⟩)
        (by rintro con' ss' hc ⟨⟩; exact h.ne_emptied (hk ss hf) con' hc)
      have hnone : Function.update s.pSession con none = s.pSession := by
        rw [← hp, Function.update_eq_self]
      rw [show (Login.found ss byConnectionType strValue2).stored = none from rfl, hnone] at h'
      exact h'

theorem runLogin (h : s.Inv) {strCode : String} {bTimeOut : Bool}
    (hs : s.runLogin con strCode bTimeOut = some s') : s'.Inv := by
  unfold Sessions.runLogin at hs
  have hok : ∀ l, s.login con = l → l.InProgress → s.LoginOk con l := by
    rintro l rfl hp
    exact h.login con (h.isOpen con hp)
  cases hl : s.login con with
  | none | loggedIn =>
    rw [hl] at hs
    cases hs
  | gotFree ss g =>
    rw [hl] at hs
    cases hs
    have hp : (s.login con).InProgress := by
      rw [hl]
      trivial
    have ht : s.Taken ss g := hok _ hl trivial
    have h₁ : (s.setSession ss ((s.session ss).addMainConnection con)).Inv :=
      h.setSession rfl fun con' hst hses => by
        by_cases heq : con' = con
        · subst heq
          exact ⟨rfl, fun _ => rfl, id, id⟩
        · exact absurd hses (h.session_ne_of_taken heq hst (h.isOpen con hp) (by rw [hl]; rfl))
    have hok₁ : (s.setSession ss ((s.session ss).addMainConnection con)).LoginOk con (.gotFree ss g) := by
      rw [← hl]
      exact h₁.login con (h.isOpen con hp)
    have hl₁ : (s.setSession ss ((s.session ss).addMainConnection con)).login con = .gotFree ss g := hl
    refine h₁.advance' hp ⟨hok₁, ?_⟩ (fun p hp => ?_) (fun ss hs => ?_) ?_
    · rw [session_setSession_self]
      rfl
    · rw [hl₁]
      exact hp
    · rw [hl₁]
      exact hs
    · rw [hl₁]
      rfl
  | mainAdded ss g =>
    rw [hl] at hs
    cases hs
    have hp : (s.login con).InProgress := by
      rw [hl]
      trivial
    have h₁ := h.setGuid hl strCode
    have hok₁ := h₁.login con (h.isOpen con hp)
    have hl₁ : (s.setSession ss { s.session ss with
        strSessionGuid := g, strVerificationCode := strCode }).login con = .mainAdded ss g := hl
    rw [hl₁] at hok₁
    refine h₁.advance' hp ⟨hok₁.1, hok₁.2, ?_⟩ (fun p hp => ?_) (fun ss hs => ?_) ?_
    · rw [session_setSession_self]
    · rw [hl₁]
      exact hp
    · rw [hl₁]
      exact hs
    · rw [hl₁]
      rfl
  | guidSet ss g =>
    rw [hl] at hs
    cases hs
    exact h.addUsing hl
  | inUse ss =>
    rw [hl] at hs
    cases hs
    obtain ⟨hu, hmain⟩ := hok _ hl trivial
    refine h.advance (l := .loggedIn ss 1) (by rw [hl]; trivial) ⟨hu, fun _ => hmain, ?_, ?_⟩ ?_ ?_
    · intro h2
      cases h2
    · intro h3
      cases h3
    · rintro p ⟨⟩
    · rintro ss' ⟨⟩
      rw [hl]
      rfl
  | found ss byConnectionType strVerifyCode =>
    rw [hl] at hs
    cases hs
    have hu := hok _ hl trivial
    by_cases hv : (s.session ss).verifyCode strVerifyCode bTimeOut = 0
    · rw [if_pos hv]
      exact h.advance' (by rw [hl]; trivial) hu (by rintro p ⟨⟩) (by rintro ss' ⟨⟩; rw [hl]; rfl) (by rw [hl]; rfl)
    · rw [if_neg hv]
      exact h.advance' (by rw [hl]; trivial) trivial (by rintro p ⟨⟩) (by rintro ss' ⟨⟩) (by rw [hl]; rfl)
  | verified ss byConnectionType =>
    rw [hl] at hs
    cases hs
    obtain ⟨hu, htype⟩ := hok _ hl trivial
    exact h.advance (l := .attached ss byConnectionType) (by rw [hl]; trivial) ⟨hu, htype⟩
      (by rintro p ⟨⟩) (by rintro ss' ⟨⟩; rw [hl]; rfl)
  | attached ss byConnectionType =>
    rw [hl] at hs
    obtain ⟨hu, htype⟩ := hok _ hl trivial
    have hp : (s.login con).InProgress := by
      rw [hl]
      trivial
    -- the state after the switch
    have hlast : ∀ x : ConnectionSession, (∀ con', Includes con' (s.session ss) x) →
        (byConnectionType = 2 → con ∈ x.lstMessageConnections) →
        (byConnectionType = 3 → con ∈ x.lstDataConnections) →
        ((s.setSession ss x).setLogin con (.loggedIn ss byConnectionType)).Inv := by
      intro x hx h2 h3
      have h₁ : (s.setSession ss x).Inv := h.setSession (hx con).guid fun con' _ _ => hx con'
      have hl₁ : (s.setSession ss x).login con = .attached ss byConnectionType := hl
      refine h₁.advance' hp ⟨hu, fun h1 => absurd h1 htype, ?_, ?_⟩ ?_ ?_ ?_
      · rw [session_setSession_self]
        exact h2
      · rw [session_setSession_self]
        exact h3
      · rintro p ⟨⟩
      · rintro ss' ⟨⟩
        rw [hl₁]
        rfl
      · rw [hl₁]
        rfl
    have hself : s.setSession ss (s.session ss) = s := by
      unfold Sessions.setSession
      rw [Function.update_eq_self]
    cases hs
    by_cases h2 : byConnectionType = 2
    · subst h2
      exact hlast _ (fun con' => ⟨rfl, id, List.mem_append_left _, id⟩)
        (fun _ => List.mem_append_right _ (List.mem_singleton_self con)) (fun h3 => by cases h3)
    by_cases h3 : byConnectionType = 3
    · subst h3
      exact hlast _ (fun con' => ⟨rfl, id, id, List.mem_append_left _⟩) (fun h2 => by cases h2)
        (fun _ => List.mem_append_right _ (List.mem_singleton_self con))
    · have hlast := hlast (s.session ss) (fun _ => .refl) (fun h2' => absurd h2' h2) (fun h3' => absurd h3' h3)
      rw [hself] at hlast
      split
      · exact absurd rfl h2
      · exact absurd rfl h3
      · exact hlast

theorem accept (h : s.Inv)
    (hcon : con = s.connections ∨ con < s.connections ∧ s.nState con = .closed ∧ s.closing con = .idle) :
    ({ s with
      connections := max s.connections (con + 1)
      nState := Function.update s.nState con .established
      pSession := Function.update s.pSession con none
      login := Function.update s.login con .none } : Sessions).Inv := by
  have hidle : s.closing con = .idle := by
    rcases hcon with rfl | ⟨-, -, hidle⟩
    · exact (h.beyond _ le_rfl).2
    · exact hidle
  have hself : Function.update s.login con .none con = .none := Function.update_self ..
  have hne : ∀ con', con' ≠ con → Function.update s.login con .none con' = s.login con' :=
    fun con' heq => Function.update_of_ne heq ..
  have hstate : ∀ con', con' ≠ con → Function.update s.nState con .established con' = s.nState con' :=
    fun con' heq => Function.update_of_ne heq ..
  exact { h with
    pool := { h.pool with }
    login := by
      intro con' hst
      show Sessions.LoginOk _ con' (Function.update s.login con .none con')
      by_cases heq : con' = con
      · rw [heq, hself]
        trivial
      · have hst : Function.update s.nState con .established con' ≠ .closed := hst
        rw [hstate con' heq] at hst
        rw [hne con' heq]
        exact (h.login con' hst).mono (fun _ _ hu => hu) (fun _ _ _ ht => { ht with }) fun _ _ => .refl
    apart := by
      intro con₁ con₂ ss ss' g g' h₁₂ h₁ h₂
      have h₁ : (Function.update s.login con .none con₁).taken = some (ss, g) := h₁
      have h₂ : (Function.update s.login con .none con₂).taken = some (ss', g') := h₂
      have hne₁ : con₁ ≠ con := by
        rintro rfl
        rw [hself] at h₁
        cases h₁
      have hne₂ : con₂ ≠ con := by
        rintro rfl
        rw [hself] at h₂
        cases h₂
      rw [hne con₁ hne₁] at h₁
      rw [hne con₂ hne₂] at h₂
      exact h.apart con₁ con₂ ss ss' g g' h₁₂ h₁ h₂
    stored := by
      intro con'
      show Function.update s.pSession con none con' = (Function.update s.login con .none con').stored
      by_cases heq : con' = con
      · rw [heq, hself, Function.update_self]
        rfl
      · rw [hne con' heq, Function.update_of_ne heq]
        exact h.stored con'
    isOpen := by
      intro con' hp
      have hp : (Function.update s.login con .none con').InProgress := hp
      have heq : con' ≠ con := by
        rintro rfl
        rw [hself] at hp
        exact hp
      rw [hne con' heq] at hp
      show Function.update s.nState con .established con' ≠ .closed
      rw [hstate con' heq]
      exact h.isOpen con' hp
    beyond := by
      intro con' hle
      have hle : max s.connections (con + 1) ≤ con' := hle
      have heq : con' ≠ con := by omega
      show Function.update s.login con .none con' = .none ∧ s.closing con' = .idle
      rw [hne con' heq]
      exact h.beyond con' (by omega)
    gotSession := by
      intro con' p hc
      show Function.update s.nState con .established con' ≠ .closed
      by_cases heq : con' = con
      · rw [heq, Function.update_self]
        decide
      · rw [hstate con' heq]
        exact h.gotSession con' p hc
    removing := by
      intro con' ss hc
      have hc : s.closing con' = .remove ss := hc
      have heq : con' ≠ con := by
        rintro rfl
        rw [hidle] at hc
        cases hc
      show Function.update s.nState con .established con' = .closed
      rw [hstate con' heq]
      exact h.removing con' ss hc
    emptied := by
      intro con' ss hc con₂ hst
      show (Function.update s.login con .none con₂).session ≠ some ss
      by_cases heq : con₂ = con
      · rw [heq, hself]
        rintro ⟨⟩
      · have hst : Function.update s.nState con .established con₂ ≠ .closed := hst
        rw [hstate con₂ heq] at hst
        rw [hne con₂ heq]
        exact h.emptied con' ss hc con₂ hst }

theorem step {a : Action} (h : s.Inv) (hk : s.Keeps a) (hs : s.step a = some s') : s'.Inv := by
  cases a with
  | accept con =>
    obtain ⟨hcon, hs⟩ := Option.ite_none_right_eq_some.mp hs
    cases hs
    exact h.accept hcon
  | sessionLogin con byConnectionType strValue1 strValue2 strGuid =>
    obtain ⟨⟨hcon, hst, -⟩, hs⟩ := Option.ite_none_right_eq_some.mp hs
    exact h.sessionLogin hcon hst hk hs
  | runLogin con strCode bTimeOut => exact h.runLogin hs
  | closeConnection con =>
    obtain ⟨⟨hcon, hst, -⟩, hs⟩ := Option.ite_none_right_eq_some.mp hs
    cases hs
    refine h.setClosing hcon ?_ (fun _ _ => hst) (by rintro ss ⟨⟩) (by rintro ss ⟨⟩)
    intro ss hp
    obtain ⟨g, hg⟩ := h.using_of_stored hst hp
    exact (h.pool.using_ g ss hg).2.1
  | close con bZero =>
    unfold Sessions.step at hs
    cases hc : s.closing con with
    | idle | remove | count | closeSession =>
      simp only [hc] at hs
      cases hs
    | gotSession pSession =>
      simp only [hc] at hs
      by_cases hz : bZero ∧ ¬ (s.login con).InProgress
      · rw [if_pos hz] at hs
        cases hs
        have hclosed : Function.update s.nState con .closed con = ConnectionState.closed := Function.update_self ..
        cases pSession with
        | none =>
          exact h.endClose hc (fun _ => hz.2) (by rintro ss ⟨⟩) (by rintro p ⟨⟩) (by rintro ss ⟨⟩)
            (by rintro ss ⟨⟩)
        | some ss =>
          have hlt := h.closingLt con ss (by rw [hc]; rfl)
          exact h.endClose hc (fun _ => hz.2) (by rintro ss' ⟨⟩; exact hlt) (by rintro p ⟨⟩)
            (fun _ _ => hclosed) (by rintro ss' ⟨⟩)
      · rw [if_neg hz] at hs
        cases hs
        exact h.endClose hc (fun hcl => by cases hcl) (by rintro ss ⟨⟩) (by rintro p ⟨⟩) (by rintro ss ⟨⟩)
          (by rintro ss ⟨⟩)
  | runClose con => exact h.runClose hk hs

end Inv

theorem consistent_of_listed (hs : Reachable (guarded Keeps step) start s) : s.Consistent := by
  have h : s.Inv := hs.invariant inv_start fun s a s' h hstep => by
    obtain ⟨hk, hstep⟩ := guarded_eq_some.mp hstep
    exact h.step hk hstep
  exact h.consistent

/-! ### Concrete runs -/

/-- A login, section by section, with the verification code `"00000042"`. -/
def loginRun (con : Nat) (byConnectionType : UInt8) (strValue1 strValue2 strGuid : String) (sections : Nat) :
    List Action :=
  .sessionLogin con byConnectionType strValue1 strValue2 strGuid ::
    List.replicate sections (.runLogin con "00000042" false)

/-- A close, section by section. -/
def closeRun (con sections : Nat) : List Action :=
  .closeConnection con :: .close con true :: List.replicate sections (.runClose con)

/-- A main and a message connection come and go; the second close gives the session back. -/
theorem consistent_bothClosed : ∃ s : Sessions, s.connections = 2 ∧ s.queueFreeSessions.length = 1000 ∧
    s.Consistent := by
  have hrun : (runSteps (guarded Keeps step) start ([.accept 0, .accept 1] ++ loginRun 0 1 "user" "pwd" "g" 4 ++
      loginRun 1 2 "g" "00000042" "" 3 ++ closeRun 0 2 ++ closeRun 1 3)).any
      (fun s => s.connections = 2 ∧ s.queueFreeSessions.length = 1000) = true := by decide +kernel
  obtain ⟨s, hs, h⟩ := (Option.any_eq_true _ _).mp hrun
  obtain ⟨hcon, hlen⟩ := of_decide_eq_true h
  exact ⟨s, hcon, hlen, consistent_of_listed (Reachable.of_runSteps hs)⟩

/-- A login of type 4 enters no list; the main connection is closed, and the session of the other one is free. -/
theorem not_consistent_objectConnection : ∃ s : Sessions, Reachable step start s ∧ ¬ s.Consistent := by
  have hrun : (runSteps step start ([.accept 0, .accept 1] ++ loginRun 0 1 "user" "pwd" "g" 4 ++
      loginRun 1 4 "g" "00000042" "" 3 ++ closeRun 0 3)).any
      (fun s => 0 ∈ s.queueFreeSessions ∧ s.nState 1 ≠ .closed ∧ s.pSession 1 = some 0) = true := by decide +kernel
  obtain ⟨s, hs, h⟩ := (Option.any_eq_true _ _).mp hrun
  obtain ⟨hfree, hst, hp⟩ := of_decide_eq_true h
  exact ⟨s, Reachable.of_runSteps hs, fun hc => hc.free 0 hfree 1 hst hp⟩

end Sessions

end KonsanNet
