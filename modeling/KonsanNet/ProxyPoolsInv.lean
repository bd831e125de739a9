import Mathlib.Tactic
import KonsanNet.ProxyPools

/-!
# The pools of proxy connections in the runs of `Keeps`

`ProxyPools.Inv` is kept by every step of `Keeps`: what is in a pool is filed under its own address and index,
is neither being created nor closed, and is in one pool only. A connection that is being created is held and in
no pool.
-/

namespace KonsanNet

namespace ProxyPools

variable {s s' : ProxyPools} {c : Nat}

structure Inv (s : ProxyPools) : Prop where
  held : ∀ o c, s.pAttachedConnection.lookup o = some c → c < s.created
  heldOnce : ∀ o o' c, s.pAttachedConnection.lookup o = some c → s.pAttachedConnection.lookup o' = some c → o = o'
  tasks : ∀ c ∈ s.tasks, c < s.created
  attached : ∀ a m i c, s.mapAttachProxyConnectionsPool.lookup a = some m → m.lookup i = some c →
    s.szBuf c = a ∧ s.uiConnectionIndex c = i ∧ c < s.created ∧ s.nState c ≠ .closed ∧ s.nState c ≠ .creating
  detached : ∀ a lst, s.mapDetachedProxyConnectionsPool.lookup a = some lst → lst.Nodup ∧ ∀ c ∈ lst,
    s.szBuf c = a ∧ c < s.created ∧ s.nState c ≠ .closed ∧ s.nState c ≠ .creating ∧ ¬ s.Attached c
  place : ∀ c < s.created, s.nState c ≠ .closed → s.Held c ∨ s.Attached c ∨ s.Detached c
  released : ∀ c < s.created, s.nState c = .closed → s.listReleasedConnections.count c = 1
  ofReleased : ∀ c ∈ s.listReleasedConnections, c < s.created ∧ s.nState c = .closed
  index : ∀ c < s.created, s.uiConnectionIndex c ≤ s.uiCurrentConnectionIndex
  indexInj : ∀ c < s.created, ∀ c' < s.created, s.uiConnectionIndex c = s.uiConnectionIndex c' → c = c'

theorem findAttached_eq_some {i : Nat} :
    s.findAttached c = some i ↔ ∃ m, s.mapAttachProxyConnectionsPool.lookup (s.szBuf c) = some m ∧
      m.lookup (s.uiConnectionIndex c) = some i :=
  Option.bind_eq_some_iff

theorem inv_start : start.Inv where
  held _ _ h := by cases h
  heldOnce _ _ _ h := by cases h
  tasks _ h := absurd h List.not_mem_nil
  attached _ _ _ _ h := by cases h
  detached _ _ h := by cases h
  place _ h := absurd h (Nat.not_lt_zero _)
  released _ h := absurd h (Nat.not_lt_zero _)
  ofReleased _ h := absurd h List.not_mem_nil
  index _ h := absurd h (Nat.not_lt_zero _)
  indexInj _ h := absurd h (Nat.not_lt_zero _)

namespace Inv

theorem attached_iff (h : s.Inv) : s.Attached c ↔ s.findAttached c = some c := by
  constructor
  · rintro ⟨a, m, i, hm, hc⟩
    obtain ⟨rfl, rfl, _⟩ := h.attached a m i c hm hc
    exact findAttached_eq_some.mpr ⟨m, hm, hc⟩
  · intro hc
    obtain ⟨m, hm, hc⟩ := findAttached_eq_some.mp hc
    exact ⟨_, m, _, hm, hc⟩

theorem consistent (h : s.Inv) : s.Consistent where
  held c o o' ho ho' := h.heldOnce o o' c ho ho'
  attached a a' m m' i i' c hm hc hm' hc' := by
    obtain ⟨rfl, rfl, _⟩ := h.attached a m i c hm hc
    obtain ⟨ha, hi, _⟩ := h.attached a' m' i' c hm' hc'
    exact ⟨ha, hi⟩
  detached a a' lst lst' c hl hc hl' hc' := by
    obtain ⟨hnodup, hd⟩ := h.detached a lst hl
    obtain ⟨ha, _⟩ := hd c hc
    obtain ⟨ha', _⟩ := (h.detached a' lst' hl').2 c hc'
    exact ⟨ha.symm.trans ha', List.count_eq_one_of_mem hnodup hc⟩
  onePool c := by
    rintro ⟨hatt, a, lst, hl, hc⟩
    exact ((h.detached a lst hl).2 c hc).2.2.2.2 hatt
  place := h.place
  released c hc := by
    by_cases hst : s.nState c = .closed
    · rw [if_pos hst, h.released c hc hst]
    · rw [if_neg hst]
      exact List.count_eq_zero_of_not_mem fun hmem => hst (h.ofReleased c hmem).2

theorem not_attached_of_creating (h : s.Inv) (hst : s.nState c = .creating) : ¬ s.Attached c := by
  rintro ⟨a, m, i, hm, hc⟩
  exact (h.attached a m i c hm hc).2.2.2.2 hst

theorem not_detached_of_creating (h : s.Inv) (hst : s.nState c = .creating) : ¬ s.Detached c := by
  rintro ⟨a, lst, hl, hc⟩
  exact ((h.detached a lst hl).2 c hc).2.2.2.1 hst

end Inv

/-! ### Closing -/

theorem setState_self {st : ConnectionState} : (s.setState c st).nState c = st :=
  Function.update_self ..

theorem setState_of_ne {st : ConnectionState} {c' : Nat} (h : c' ≠ c) :
    (s.setState c st).nState c' = s.nState c' :=
  Function.update_of_ne h ..

theorem Inv.setClosing (h : s.Inv) (hst : s.nState c ≠ .closed) : (s.setState c .closing).Inv := by
  have hkeep : ∀ c', s.nState c' ≠ .closed → (s.setState c .closing).nState c' ≠ .closed := by
    intro c' hc'
    by_cases heq : c' = c
    · rw [heq, setState_self]
      decide
    · rw [setState_of_ne heq]
      exact hc'
  have hkeep' : ∀ c', s.nState c' ≠ .creating → (s.setState c .closing).nState c' ≠ .creating := by
    intro c' hc'
    by_cases heq : c' = c
    · rw [heq, setState_self]
      decide
    · rw [setState_of_ne heq]
      exact hc'
  have hclosed : ∀ c', (s.setState c .closing).nState c' = .closed ↔ s.nState c' = .closed := by
    intro c'
    by_cases heq : c' = c
    · rw [heq, setState_self]
      exact ⟨fun h => (by cases h), fun h => absurd h hst⟩
    · rw [setState_of_ne heq]
  exact { h with
    attached := by
      intro a m i c' hm hc'
      obtain ⟨ha, hi, hlt, h₁, h₂⟩ := h.attached a m i c' hm hc'
      exact ⟨ha, hi, hlt, hkeep c' h₁, hkeep' c' h₂⟩
    detached := by
      intro a lst hl
      obtain ⟨hnodup, hd⟩ := h.detached a lst hl
      refine ⟨hnodup, fun c' hc' => ?_⟩
      obtain ⟨ha, hlt, h₁, h₂, h₃⟩ := hd c' hc'
      exact ⟨ha, hlt, hkeep c' h₁, hkeep' c' h₂, h₃⟩
    place := fun c' hlt hc' => h.place c' hlt fun hcl => hc' ((hclosed c').mpr hcl)
    released := fun c' hlt hc' => h.released c' hlt ((hclosed c').mp hc')
    ofReleased := fun c' hc' => ⟨(h.ofReleased c' hc').1, (hclosed c').mpr (h.ofReleased c' hc').2⟩ }

/-- The connections other than `c` stay in their pools. -/
def SamePools (c : Nat) (s s' : ProxyPools) : Prop :=
  ∀ c', c' ≠ c → (s'.Attached c' ↔ s.Attached c') ∧ (s'.Detached c' ↔ s.Detached c')

theorem SamePools.refl : SamePools c s s := fun _ _ => ⟨Iff.rfl, Iff.rfl⟩

/-- A connection of the attached pool becomes `CLOSED`, and is released. -/
theorem Inv.setClosed (h : s.Inv) (hst : s.nState c ≠ .closed) (hc : s.findAttached c = some c) :
    ((s.setState c .closed).releaseConnection c).Inv ∧
      SamePools c s ((s.setState c .closed).releaseConnection c) := by
  obtain ⟨m, hm, hmc⟩ := findAttached_eq_some.mp hc
  obtain ⟨_, _, hlt, _, hcr⟩ := h.attached _ m _ c hm hmc
  have heq : (s.setState c .closed).releaseConnection c = { s.setState c .closed with
      mapAttachProxyConnectionsPool :=
        s.mapAttachProxyConnectionsPool.insert (s.szBuf c) (m.erase (s.uiConnectionIndex c))
      listReleasedConnections := s.listReleasedConnections ++ [c] } := by
    unfold releaseConnection
    simp only [setState, hm, hmc]
  rw [heq]
  have hstate : ∀ c', c' ≠ c → (s.setState c .closed).nState c' = s.nState c' := fun c' h => setState_of_ne h
  -- attached after it are the others that were attached before it
  have hatt : ∀ a m' i c', (s.mapAttachProxyConnectionsPool.insert (s.szBuf c)
      (m.erase (s.uiConnectionIndex c))).lookup a = some m' → m'.lookup i = some c' →
      c' ≠ c ∧ ∃ m'', s.mapAttachProxyConnectionsPool.lookup a = some m'' ∧ m''.lookup i = some c' := by
    intro a m' i c' hm' hc'
    by_cases ha : a = s.szBuf c
    · rw [ha, AList.lookup_insert] at hm'
      cases hm'
      by_cases hi : i = s.uiConnectionIndex c
      · rw [hi, AList.lookup_erase] at hc'
        cases hc'
      · rw [AList.lookup_erase_ne hi] at hc'
        refine ⟨?_, m, ha ▸ hm, hc'⟩
        rintro rfl
        exact hi (h.attached _ m i _ hm hc').2.1.symm
    · rw [AList.lookup_insert_ne ha] at hm'
      refine ⟨?_, m', hm', hc'⟩
      rintro rfl
      exact ha (h.attached a m' i _ hm' hc').1.symm
  have hatt' : ∀ c', c' ≠ c → s.Attached c' → ∃ a m' i, (s.mapAttachProxyConnectionsPool.insert (s.szBuf c)
      (m.erase (s.uiConnectionIndex c))).lookup a = some m' ∧ m'.lookup i = some c' := by
    rintro c' hne ⟨a, m', i, hm', hc'⟩
    by_cases ha : a = s.szBuf c
    · rw [ha, hm] at hm'
      cases hm'
      refine ⟨s.szBuf c, m.erase (s.uiConnectionIndex c), i, AList.lookup_insert _, ?_⟩
      rw [AList.lookup_erase_ne, hc']
      rintro rfl
      exact hne (Option.some.inj (hc'.symm.trans hmc))
    · exact ⟨a, m', i, by rw [AList.lookup_insert_ne ha, hm'], hc'⟩
  have hrel : c ∉ s.listReleasedConnections := fun hmem => hst (h.ofReleased c hmem).2
  refine ⟨⟨h.held, h.heldOnce, h.tasks, ?_, ?_, ?_, ?_, ?_, h.index, h.indexInj⟩, fun c' hne => ⟨⟨?_, hatt' c' hne⟩, Iff.rfl⟩⟩
  · intro a m' i c' hm' hc'
    obtain ⟨hne, m'', hm'', hc''⟩ := hatt a m' i c' hm' hc'
    obtain ⟨ha, hi, hlt', h₁, h₂⟩ := h.attached a m'' i c' hm'' hc''
    refine ⟨ha, hi, hlt', ?_, ?_⟩
    · exact (hstate c' hne).trans_ne h₁
    · exact (hstate c' hne).trans_ne h₂
  · intro a lst hl
    obtain ⟨hnodup, hd⟩ := h.detached a lst hl
    refine ⟨hnodup, fun c' hc' => ?_⟩
    obtain ⟨ha, hlt', h₁, h₂, h₃⟩ := hd c' hc'
    have hne : c' ≠ c := by
      rintro rfl
      exact h₃ (h.attached_iff.mpr hc)
    refine ⟨ha, hlt', (hstate c' hne).trans_ne h₁, (hstate c' hne).trans_ne h₂, ?_⟩
    rintro ⟨a', m', i, hm', hc''⟩
    obtain ⟨_, m'', hm'', hc''⟩ := hatt a' m' i c' hm' hc''
    exact h₃ ⟨a', m'', i, hm'', hc''⟩
  · intro c' hlt' hst'
    have hne : c' ≠ c := by
      rintro rfl
      exact hst' setState_self
    rcases h.place c' hlt' ((hstate c' hne).symm.trans_ne hst') with hh | ha | hd
    · exact Or.inl hh
    · exact Or.inr (Or.inl (hatt' c' hne ha))
    · exact Or.inr (Or.inr hd)
  · intro c' hlt' hst'
    show (s.listReleasedConnections ++ [c]).count c' = 1
    by_cases hne : c' = c
    · rw [hne, List.count_append, List.count_eq_zero_of_not_mem hrel, List.count_singleton_self]
    · rw [List.count_append, h.released c' hlt' ((hstate c' hne).symm.trans hst'),
        List.count_eq_zero_of_not_mem (by simpa using hne)]
  · intro c' hc'
    rcases List.mem_append.mp hc' with hc' | hc'
    · obtain ⟨hlt', hst'⟩ := h.ofReleased c' hc'
      have hne : c' ≠ c := by
        rintro rfl
        exact hst hst'
      exact ⟨hlt', (hstate c' hne).trans hst'⟩
    · obtain rfl : c' = c := by simpa using hc'
      exact ⟨hlt, setState_self⟩
  · rintro ⟨a, m', i, hm', hc'⟩
    obtain ⟨_, m'', hm'', hc''⟩ := hatt a m' i c' hm' hc'
    exact ⟨a, m'', i, hm'', hc''⟩

/-- In no pool the connection is looked for; what is not the attached pool or the released list stays. -/
theorem releaseConnection_frame : (s.releaseConnection c).nState = s.nState ∧
    (s.releaseConnection c).pAttachedConnection = s.pAttachedConnection := by
  unfold releaseConnection
  cases hm : s.mapAttachProxyConnectionsPool.lookup (s.szBuf c) with
  | none => exact ⟨rfl, rfl⟩
  | some m =>
    cases hc : m.lookup (s.uiConnectionIndex c) with
    | none =>
      simp only [hc]
      exact ⟨trivial, trivial⟩
    | some c' =>
      simp only [hc]
      exact ⟨trivial, trivial⟩

theorem closeConnection_cases {bZero : Bool} (hc : s.KeepsClose c bZero) :
    s.nState c = .closed ∧ s.closeConnection c bZero = s ∨
      s.nState c ≠ .closed ∧ s.closeConnection c bZero = s.setState c .closing ∨
      s.nState c ≠ .closed ∧ s.findAttached c = some c ∧
        s.closeConnection c bZero = (s.setState c .closed).releaseConnection c := by
  unfold closeConnection
  by_cases hst : s.nState c = .closed
  · rw [if_pos hst]
    exact Or.inl ⟨hst, rfl⟩
  · rw [if_neg hst]
    cases bZero with
    | false => exact Or.inr (Or.inl ⟨hst, rfl⟩)
    | true =>
      rcases hc with hc | hc | hc
      · exact absurd hc hst
      · cases hc
      · exact Or.inr (Or.inr ⟨hst, hc, rfl⟩)

theorem Inv.closeConnection (h : s.Inv) {bZero : Bool} (hc : s.KeepsClose c bZero) :
    (s.closeConnection c bZero).Inv ∧ SamePools c s (s.closeConnection c bZero) := by
  rcases closeConnection_cases hc with ⟨_, heq⟩ | ⟨hst, heq⟩ | ⟨hst, hatt, heq⟩
  · rw [heq]
    exact ⟨h, SamePools.refl⟩
  · rw [heq]
    exact ⟨h.setClosing hst, SamePools.refl⟩
  · rw [heq]
    exact h.setClosed hst hatt

/-! ### Detaching -/

theorem lookup_of_entries_eq {m : NatMap Nat} {i c : Nat} (h : m.entries = [⟨i, c⟩]) {j d : Nat} :
    m.lookup j = some d ↔ j = i ∧ d = c := by
  rw [← Option.mem_def, AList.mem_lookup_iff, h, List.mem_singleton]
  constructor
  · rintro ⟨⟩
    exact ⟨rfl, rfl⟩
  · rintro ⟨rfl, rfl⟩
    rfl

theorem Inv.detached_getD (h : s.Inv) (a : String) :
    ((s.mapDetachedProxyConnectionsPool.lookup a).getD []).Nodup ∧
      ∀ c ∈ (s.mapDetachedProxyConnectionsPool.lookup a).getD [], s.szBuf c = a ∧ c < s.created ∧
        s.nState c ≠ .closed ∧ s.nState c ≠ .creating ∧ ¬ s.Attached c := by
  cases hl : s.mapDetachedProxyConnectionsPool.lookup a with
  | none => exact ⟨List.nodup_nil, fun _ hc => absurd hc List.not_mem_nil⟩
  | some lst => exact h.detached a lst hl

/-- The connection goes from the attached pool to the detached one, and the others stay. -/
theorem Inv.detachProxyConnection (h : s.Inv) (hk : s.KeepsDetach c) :
    (s.detachProxyConnection c).Inv ∧ SamePools c s (s.detachProxyConnection c) := by
  unfold ProxyPools.detachProxyConnection
  cases hm : s.mapAttachProxyConnectionsPool.lookup (s.szBuf c) with
  | none => exact ⟨h, SamePools.refl⟩
  | some m =>
    have hentries := hk m hm
    have hmc : m.lookup (s.uiConnectionIndex c) = some c := (lookup_of_entries_eq hentries).mpr ⟨rfl, rfl⟩
    obtain ⟨_, _, hlt, hcl, hcr⟩ := h.attached _ m _ c hm hmc
    have hattc : s.Attached c := ⟨_, m, _, hm, hmc⟩
    -- attached after it are the others that were attached before it
    have hatt : ∀ a m' i c', (s.mapAttachProxyConnectionsPool.erase (s.szBuf c)).lookup a = some m' →
        m'.lookup i = some c' → c' ≠ c ∧ s.mapAttachProxyConnectionsPool.lookup a = some m' := by
      intro a m' i c' hm' hc'
      by_cases ha : a = s.szBuf c
      · rw [ha, AList.lookup_erase] at hm'
        cases hm'
      · rw [AList.lookup_erase_ne ha] at hm'
        refine ⟨?_, hm'⟩
        rintro rfl
        exact ha (h.attached a m' i _ hm' hc').1.symm
    have hatt' : ∀ c', c' ≠ c → s.Attached c' → ∃ a m' i,
        (s.mapAttachProxyConnectionsPool.erase (s.szBuf c)).lookup a = some m' ∧ m'.lookup i = some c' := by
      rintro c' hne ⟨a, m', i, hm', hc'⟩
      refine ⟨a, m', i, ?_, hc'⟩
      rw [AList.lookup_erase_ne, hm']
      rintro rfl
      rw [hm] at hm'
      cases hm'
      exact hne ((lookup_of_entries_eq hentries).mp hc').2
    have hdet : ∀ c', c' ≠ c → (s.Detached c' ↔ ∃ a lst, (s.mapDetachedProxyConnectionsPool.insert (s.szBuf c)
        ((s.mapDetachedProxyConnectionsPool.lookup (s.szBuf c)).getD [] ++ [c])).lookup a = some lst ∧ c' ∈ lst) := by
      intro c' hne
      constructor
      · rintro ⟨a, lst, hl, hc'⟩
        by_cases ha : a = s.szBuf c
        · refine ⟨s.szBuf c, _, AList.lookup_insert _, ?_⟩
          rw [← ha, hl]
          exact List.mem_append_left _ hc'
        · exact ⟨a, lst, by rw [AList.lookup_insert_ne ha, hl], hc'⟩
      · rintro ⟨a, lst, hl, hc'⟩
        by_cases ha : a = s.szBuf c
        · rw [ha, AList.lookup_insert] at hl
          cases hl
          rcases List.mem_append.mp hc' with hc' | hc'
          · cases hlook : s.mapDetachedProxyConnectionsPool.lookup (s.szBuf c) with
            | none =>
              rw [hlook] at hc'
              cases hc'
            | some lst =>
              rw [hlook] at hc'
              exact ⟨_, lst, hlook, hc'⟩
          · exact absurd (by simpa using hc') hne
        · rw [AList.lookup_insert_ne ha] at hl
          exact ⟨a, lst, hl, hc'⟩
    refine ⟨⟨h.held, h.heldOnce, h.tasks, ?_, ?_, ?_, h.released, h.ofReleased, h.index, h.indexInj⟩, ?_⟩
    · intro a m' i c' hm' hc'
      exact h.attached a m' i c' (hatt a m' i c' hm' hc').2 hc'
    · intro a lst hl
      by_cases ha : a = s.szBuf c
      · rw [ha, AList.lookup_insert] at hl
        cases hl
        obtain ⟨hnodup, hd⟩ := h.detached_getD (s.szBuf c)
        refine ⟨?_, fun c' hc' => ?_⟩
        · refine List.nodup_append.mpr ⟨hnodup, List.nodup_singleton c, ?_⟩
          rintro c' hc' d hd' rfl
          obtain rfl : c' = c := by simpa using hd'
          exact (hd c' hc').2.2.2.2 hattc
        · rcases List.mem_append.mp hc' with hc' | hc'
          · obtain ⟨ha', hlt', h₁, h₂, h₃⟩ := hd c' hc'
            refine ⟨ha'.trans ha.symm, hlt', h₁, h₂, ?_⟩
            rintro ⟨a', m', i, hm', hc''⟩
            exact h₃ ⟨a', m', i, (hatt a' m' i c' hm' hc'').2, hc''⟩
          · obtain rfl : c' = c := by simpa using hc'
            refine ⟨ha.symm, hlt, hcl, hcr, ?_⟩
            rintro ⟨a', m', i, hm', hc''⟩
            exact (hatt a' m' i c' hm' hc'').1 rfl
      · rw [AList.lookup_insert_ne ha] at hl
        obtain ⟨hnodup, hd⟩ := h.detached a lst hl
        refine ⟨hnodup, fun c' hc' => ?_⟩
        obtain ⟨ha', hlt', h₁, h₂, h₃⟩ := hd c' hc'
        refine ⟨ha', hlt', h₁, h₂, ?_⟩
        rintro ⟨a', m', i, hm', hc''⟩
        exact h₃ ⟨a', m', i, (hatt a' m' i c' hm' hc'').2, hc''⟩
    · intro c' hlt' hst'
      by_cases hne : c' = c
      · refine Or.inr (Or.inr ⟨s.szBuf c, _, AList.lookup_insert _, ?_⟩)
        rw [hne]
        exact List.mem_append_right _ (List.mem_singleton_self c)
      · rcases h.place c' hlt' hst' with hh | ha | hd
        · exact Or.inl hh
        · exact Or.inr (Or.inl (hatt' c' hne ha))
        · exact Or.inr (Or.inr ((hdet c' hne).mp hd))
    · intro c' hne
      refine ⟨⟨?_, hatt' c' hne⟩, (hdet c' hne).symm⟩
      rintro ⟨a, m', i, hm', hc'⟩
      exact ⟨a, m', i, (hatt a m' i c' hm' hc').2, hc'⟩

/-! ### Getting a connection -/

/-- In a step of `Keeps` the loop of `GetFreeProxyClient` takes the first connection of the list. -/
theorem getFreeProxyClient_cases {o : Nat} {a : String} {bZero : Nat → Bool} {bNew : Bool}
    (hk : s.Keeps (.getProxyConnection o a bZero bNew)) :
    (∃ c lst, s.mapDetachedProxyConnectionsPool.lookup a = some (c :: lst) ∧ s.nState c = .established ∧
      (¬ s.Held c) ∧ s.getFreeProxyClient a bZero bNew =
        ({ s with mapDetachedProxyConnectionsPool := s.mapDetachedProxyConnectionsPool.insert a lst }, some c)) ∨
    s.getFreeProxyClient a bZero bNew =
      ({ s with created := s.created + 1 }.setState s.created .creating, some s.created) ∨
    s.getFreeProxyClient a bZero bNew = (s, none) := by
  have hnew : (if bNew then ({ s with created := s.created + 1 }.setState s.created .creating, some s.created)
      else (s, none)) = ({ s with created := s.created + 1 }.setState s.created .creating, some s.created) ∨
      (if bNew then ({ s with created := s.created + 1 }.setState s.created .creating, some s.created)
      else (s, none)) = (s, none) := by
    cases bNew with
    | true => exact Or.inl rfl
    | false => exact Or.inr rfl
  unfold getFreeProxyClient
  cases hl : s.mapDetachedProxyConnectionsPool.lookup a with
  | none => exact Or.inr hnew
  | some lst =>
    cases lst with
    | nil => exact Or.inr hnew
    | cons c lst =>
      obtain ⟨hst, hheld⟩ := hk (c :: lst) hl c rfl
      refine Or.inl ⟨c, lst, rfl, hst, ?_, ?_⟩
      · rintro ⟨o', ho'⟩
        exact hheld ⟨o', c⟩ (AList.mem_lookup_iff.mp ho') rfl
      · simp only [popDetached, hst, ne_eq, not_true_eq_false, if_false]

theorem Inv.reuse (h : s.Inv) {o : Nat} {a : String} {lst : List Nat} (ho : o ∉ s.pAttachedConnection)
    (hl : s.mapDetachedProxyConnectionsPool.lookup a = some (c :: lst)) (hheld : ¬ s.Held c) :
    ({ s with
      mapDetachedProxyConnectionsPool := s.mapDetachedProxyConnectionsPool.insert a lst
      pAttachedConnection := s.pAttachedConnection.insert o c } : ProxyPools).Inv := by
  obtain ⟨hnodup, hd⟩ := h.detached a _ hl
  have hlook : ∀ o' c', (s.pAttachedConnection.insert o c).lookup o' = some c' →
      o' = o ∧ c' = c ∨ o' ≠ o ∧ s.pAttachedConnection.lookup o' = some c' := by
    intro o' c' ho'
    by_cases heq : o' = o
    · rw [heq, AList.lookup_insert] at ho'
      cases ho'
      exact Or.inl ⟨heq, rfl⟩
    · rw [AList.lookup_insert_ne heq] at ho'
      exact Or.inr ⟨heq, ho'⟩
  exact { h with
    held := by
      intro o' c' ho'
      rcases hlook o' c' ho' with ⟨_, rfl⟩ | ⟨_, ho'⟩
      · exact (hd _ List.mem_cons_self).2.1
      · exact h.held o' c' ho'
    heldOnce := by
      intro o₁ o₂ c' h₁ h₂
      rcases hlook o₁ c' h₁ with ⟨rfl, rfl⟩ | ⟨_, hs₁⟩
      · rcases hlook o₂ _ h₂ with ⟨rfl, _⟩ | ⟨_, hs₂⟩
        · rfl
        · exact absurd ⟨o₂, hs₂⟩ hheld
      · rcases hlook o₂ c' h₂ with ⟨_, rfl⟩ | ⟨_, hs₂⟩
        · exact absurd ⟨o₁, hs₁⟩ hheld
        · exact h.heldOnce o₁ o₂ c' hs₁ hs₂
    detached := by
      intro a' lst' hl'
      by_cases ha : a' = a
      · rw [ha, AList.lookup_insert] at hl'
        cases hl'
        rw [ha]
        exact ⟨(List.nodup_cons.mp hnodup).2, fun c' hc' => hd c' (List.mem_cons_of_mem _ hc')⟩
      · rw [AList.lookup_insert_ne ha] at hl'
        exact h.detached a' lst' hl'
    place := by
      intro c' hlt hst
      by_cases heq : c' = c
      · exact Or.inl ⟨o, by rw [heq]; exact AList.lookup_insert _⟩
      · rcases h.place c' hlt hst with ⟨o', ho'⟩ | ha | ⟨a', lst', hl', hc'⟩
        · refine Or.inl ⟨o', ?_⟩
          show (s.pAttachedConnection.insert o c).lookup o' = some c'
          rw [AList.lookup_insert_ne, ho']
          rintro rfl
          exact ho (AList.lookup_isSome.mp (Option.isSome_of_mem ho'))
        · exact Or.inr (Or.inl ha)
        · refine Or.inr (Or.inr ?_)
          by_cases ha : a' = a
          · rw [ha, hl] at hl'
            cases hl'
            refine ⟨a, lst, AList.lookup_insert _, ?_⟩
            rcases List.mem_cons.mp hc' with hc' | hc'
            · exact absurd hc' heq
            · exact hc'
          · exact ⟨a', lst', (AList.lookup_insert_ne ha).trans hl', hc'⟩ }

/-- `o` gets a new connection. -/
def newConnection (s : ProxyPools) (o : Nat) (a : String) : ProxyPools :=
  { s with
    created := s.created + 1
    nState := Function.update s.nState s.created .creating
    szBuf := Function.update s.szBuf s.created a
    uiConnectionIndex := Function.update s.uiConnectionIndex s.created (s.uiCurrentConnectionIndex + 1)
    uiCurrentConnectionIndex := s.uiCurrentConnectionIndex + 1
    pAttachedConnection := s.pAttachedConnection.insert o s.created }

theorem Inv.newConnection (h : s.Inv) {o : Nat} {a : String} (ho : o ∉ s.pAttachedConnection) :
    (s.newConnection o a).Inv := by
  have hlook : ∀ o' c', (s.pAttachedConnection.insert o s.created).lookup o' = some c' →
      o' = o ∧ c' = s.created ∨ c' < s.created ∧ s.pAttachedConnection.lookup o' = some c' := by
    intro o' c' ho'
    by_cases heq : o' = o
    · rw [heq, AList.lookup_insert] at ho'
      cases ho'
      exact Or.inl ⟨heq, rfl⟩
    · rw [AList.lookup_insert_ne heq] at ho'
      exact Or.inr ⟨h.held o' c' ho', ho'⟩
  have hstate : ∀ c' < s.created, (s.newConnection o a).nState c' = s.nState c' :=
    fun c' hlt => Function.update_of_ne hlt.ne ..
  have hbuf : ∀ c' < s.created, (s.newConnection o a).szBuf c' = s.szBuf c' :=
    fun c' hlt => Function.update_of_ne hlt.ne ..
  have hidx : ∀ c' < s.created, (s.newConnection o a).uiConnectionIndex c' = s.uiConnectionIndex c' :=
    fun c' hlt => Function.update_of_ne hlt.ne ..
  have hnew : (s.newConnection o a).uiConnectionIndex s.created = s.uiCurrentConnectionIndex + 1 :=
    Function.update_self ..
  have hlast : (s.newConnection o a).nState s.created = .creating := Function.update_self ..
  refine ⟨?_, ?_, ?_, ?_, ?_, ?_, ?_, ?_, ?_, ?_⟩
  · intro o' c' ho'
    rcases hlook o' c' ho' with ⟨_, rfl⟩ | ⟨hlt, _⟩
    · exact Nat.lt_succ_self _
    · exact Nat.lt_succ_of_lt hlt
  · intro o₁ o₂ c' h₁ h₂
    rcases hlook o₁ c' h₁ with ⟨rfl, rfl⟩ | ⟨hlt, hs₁⟩
    · rcases hlook o₂ _ h₂ with ⟨rfl, _⟩ | ⟨hlt, _⟩
      · rfl
      · exact absurd hlt (Nat.lt_irrefl _)
    · rcases hlook o₂ c' h₂ with ⟨_, rfl⟩ | ⟨_, hs₂⟩
      · exact absurd hlt (Nat.lt_irrefl _)
      · exact h.heldOnce o₁ o₂ c' hs₁ hs₂
  · intro c' hc'
    exact Nat.lt_succ_of_lt (h.tasks c' hc')
  · intro a' m i c' hm hc'
    obtain ⟨ha, hi, hlt, h₁, h₂⟩ := h.attached a' m i c' hm hc'
    exact ⟨(hbuf c' hlt).trans ha, (hidx c' hlt).trans hi, Nat.lt_succ_of_lt hlt, (hstate c' hlt).trans_ne h₁,
      (hstate c' hlt).trans_ne h₂⟩
  · intro a' lst hl
    obtain ⟨hnodup, hd⟩ := h.detached a' lst hl
    refine ⟨hnodup, fun c' hc' => ?_⟩
    obtain ⟨ha, hlt, h₁, h₂, h₃⟩ := hd c' hc'
    exact ⟨(hbuf c' hlt).trans ha, Nat.lt_succ_of_lt hlt, (hstate c' hlt).trans_ne h₁, (hstate c' hlt).trans_ne h₂,
      h₃⟩
  · intro c' hlt hst
    rcases Nat.lt_succ_iff_lt_or_eq.mp hlt with hlt | rfl
    · rcases h.place c' hlt ((hstate c' hlt).symm.trans_ne hst) with ⟨o', ho'⟩ | ha | hd
      · refine Or.inl ⟨o', ?_⟩
        show (s.pAttachedConnection.insert o _).lookup o' = some c'
        rw [AList.lookup_insert_ne, ho']
        rintro rfl
        exact ho (AList.lookup_isSome.mp (Option.isSome_of_mem ho'))
      · exact Or.inr (Or.inl ha)
      · exact Or.inr (Or.inr hd)
    · exact Or.inl ⟨o, AList.lookup_insert _⟩
  · intro c' hlt hst
    rcases Nat.lt_succ_iff_lt_or_eq.mp hlt with hlt | rfl
    · exact h.released c' hlt ((hstate c' hlt).symm.trans hst)
    · rw [hlast] at hst
      cases hst
  · intro c' hc'
    obtain ⟨hlt, hst⟩ := h.ofReleased c' hc'
    exact ⟨Nat.lt_succ_of_lt hlt, (hstate c' hlt).trans hst⟩
  · intro c' hlt
    show _ ≤ s.uiCurrentConnectionIndex + 1
    rcases Nat.lt_succ_iff_lt_or_eq.mp hlt with hlt | rfl
    · rw [hidx c' hlt]
      exact Nat.le_succ_of_le (h.index c' hlt)
    · rw [hnew]
  · intro c₁ h₁ c₂ h₂ heq
    rcases Nat.lt_succ_iff_lt_or_eq.mp h₁ with h₁ | rfl
    · rcases Nat.lt_succ_iff_lt_or_eq.mp h₂ with h₂ | rfl
      · rw [hidx c₁ h₁, hidx c₂ h₂] at heq
        exact h.indexInj c₁ h₁ c₂ h₂ heq
      · rw [hidx c₁ h₁, hnew] at heq
        have := h.index c₁ h₁
        omega
    · rcases Nat.lt_succ_iff_lt_or_eq.mp h₂ with h₂ | rfl
      · rw [hidx c₂ h₂, hnew] at heq
        have := h.index c₂ h₂
        omega
      · rfl

/-- In a step of `Keeps` the object gets a connection that was free and is `ESTABLISHED`, a new one, or none. -/
theorem getProxyConnection_cases {o : Nat} {a : String} {bZero : Nat → Bool} {bNew : Bool}
    (hk : s.Keeps (.getProxyConnection o a bZero bNew)) :
    (∃ c lst, s.mapDetachedProxyConnectionsPool.lookup a = some (c :: lst) ∧ s.nState c = .established ∧
      (¬ s.Held c) ∧ s.getProxyConnection o a bZero bNew = { s with
        mapDetachedProxyConnectionsPool := s.mapDetachedProxyConnectionsPool.insert a lst
        pAttachedConnection := s.pAttachedConnection.insert o c }) ∨
    s.getProxyConnection o a bZero bNew = s.newConnection o a ∨ s.getProxyConnection o a bZero bNew = s := by
  unfold getProxyConnection
  rcases getFreeProxyClient_cases hk with ⟨c, lst, hl, hst, hheld, heq⟩ | heq | heq
  · refine Or.inl ⟨c, lst, hl, hst, hheld, ?_⟩
    rw [heq]
    simp only [hst, if_true]
  · refine Or.inr (Or.inl ?_)
    rw [heq]
    have hst : ({ s with created := s.created + 1 }.setState s.created .creating).nState s.created = .creating :=
      setState_self
    simp only [hst, reduceCtorEq, if_false]
    simp only [setState, Function.update_idem]
    rfl
  · refine Or.inr (Or.inr ?_)
    rw [heq]

/-! ### Attaching -/

theorem Inv.setTasks (h : s.Inv) {ts : List Nat} (hts : ∀ c ∈ ts, c < s.created) : ({ s with tasks := ts }).Inv :=
  { h with tasks := hts }

theorem Inv.onProxyConnectionCreated (h : s.Inv) (hlt : c < s.created) (hst : s.nState c = .creating) :
    (s.onProxyConnectionCreated c true).Inv := by
  have hnatt := h.not_attached_of_creating hst
  have hndet := h.not_detached_of_creating hst
  have hstate : ∀ c', c' ≠ c → (s.setState c .established).nState c' = s.nState c' := fun c' h => setState_of_ne h
  let m := (s.mapAttachProxyConnectionsPool.lookup (s.szBuf c)).getD ∅
  have hm : ∀ i c', m.lookup i = some c' → s.mapAttachProxyConnectionsPool.lookup (s.szBuf c) = some m := by
    intro i c' hc'
    cases hl : s.mapAttachProxyConnectionsPool.lookup (s.szBuf c) with
    | none =>
      have hempty : m = ∅ := by simp only [m, hl, Option.getD_none]
      rw [hempty, AList.lookup_empty] at hc'
      cases hc'
    | some m' => simp only [m, hl, Option.getD_some]
  have hfresh : s.uiConnectionIndex c ∉ m := by
    intro hmem
    obtain ⟨c', hc'⟩ := Option.isSome_iff_exists.mp (AList.lookup_isSome.mpr hmem)
    obtain ⟨_, hi, hlt', _⟩ := h.attached _ m _ c' (hm _ c' hc') hc'
    obtain rfl := h.indexInj c' hlt' c hlt hi
    exact hnatt ⟨_, m, _, hm _ _ hc', hc'⟩
  have heq : s.onProxyConnectionCreated c true = { s.setState c .established with
      mapAttachProxyConnectionsPool :=
        s.mapAttachProxyConnectionsPool.insert (s.szBuf c) (m.insert (s.uiConnectionIndex c) c) } := by
    have hfresh' : (s.setState c .established).uiConnectionIndex c ∉
        ((s.setState c .established).mapAttachProxyConnectionsPool.lookup
          ((s.setState c .established).szBuf c)).getD ∅ := hfresh
    show (s.setState c .established).attachProxyConnection c = _
    unfold attachProxyConnection
    simp only [if_neg hfresh']
    rfl
  rw [heq]
  -- attached after it are `c` and what was attached before it
  have hatt : ∀ a m' i c', (s.mapAttachProxyConnectionsPool.insert (s.szBuf c)
      (m.insert (s.uiConnectionIndex c) c)).lookup a = some m' → m'.lookup i = some c' →
      c' = c ∧ a = s.szBuf c ∧ i = s.uiConnectionIndex c ∨
        c' ≠ c ∧ ∃ m'', s.mapAttachProxyConnectionsPool.lookup a = some m'' ∧ m''.lookup i = some c' := by
    intro a m' i c' hm' hc'
    have hold : ∀ m'', s.mapAttachProxyConnectionsPool.lookup a = some m'' → m''.lookup i = some c' → c' ≠ c := by
      rintro m'' hm'' hc'' rfl
      exact hnatt ⟨a, m'', i, hm'', hc''⟩
    by_cases ha : a = s.szBuf c
    · rw [ha, AList.lookup_insert] at hm'
      cases hm'
      by_cases hi : i = s.uiConnectionIndex c
      · rw [hi, AList.lookup_insert] at hc'
        cases hc'
        exact Or.inl ⟨rfl, ha, hi⟩
      · rw [AList.lookup_insert_ne hi] at hc'
        have hmi := hm i c' hc'
        rw [← ha] at hmi
        exact Or.inr ⟨hold m hmi hc', m, hmi, hc'⟩
    · rw [AList.lookup_insert_ne ha] at hm'
      exact Or.inr ⟨hold m' hm' hc', m', hm', hc'⟩
  have hatt' : ∀ c', s.Attached c' → ∃ a m' i, (s.mapAttachProxyConnectionsPool.insert (s.szBuf c)
      (m.insert (s.uiConnectionIndex c) c)).lookup a = some m' ∧ m'.lookup i = some c' := by
    rintro c' ⟨a, m', i, hm', hc'⟩
    by_cases ha : a = s.szBuf c
    · refine ⟨_, _, i, AList.lookup_insert _, ?_⟩
      have hmm : m = m' := by
        rw [ha] at hm'
        simp only [m, hm', Option.getD_some]
      rw [AList.lookup_insert_ne, hmm, hc']
      rintro rfl
      exact hfresh (by rw [hmm]; exact AList.lookup_isSome.mp (Option.isSome_of_mem hc'))
    · exact ⟨a, m', i, by rw [AList.lookup_insert_ne ha, hm'], hc'⟩
  have hself : (s.setState c .established).nState c = .established := setState_self
  refine ⟨h.held, h.heldOnce, h.tasks, ?_, ?_, ?_, ?_, ?_, h.index, h.indexInj⟩
  · intro a m' i c' hm' hc'
    rcases hatt a m' i c' hm' hc' with ⟨rfl, rfl, rfl⟩ | ⟨hne, m'', hm'', hc''⟩
    · exact ⟨rfl, rfl, hlt, hself.trans_ne (by decide), hself.trans_ne (by decide)⟩
    · obtain ⟨ha, hi, hlt', h₁, h₂⟩ := h.attached a m'' i c' hm'' hc''
      exact ⟨ha, hi, hlt', (hstate c' hne).trans_ne h₁, (hstate c' hne).trans_ne h₂⟩
  · intro a lst hl
    obtain ⟨hnodup, hd⟩ := h.detached a lst hl
    refine ⟨hnodup, fun c' hc' => ?_⟩
    obtain ⟨ha, hlt', h₁, h₂, h₃⟩ := hd c' hc'
    have hne : c' ≠ c := by
      rintro rfl
      exact hndet ⟨a, lst, hl, hc'⟩
    refine ⟨ha, hlt', (hstate c' hne).trans_ne h₁, (hstate c' hne).trans_ne h₂, ?_⟩
    rintro ⟨a', m', i, hm', hc''⟩
    rcases hatt a' m' i c' hm' hc'' with ⟨hc, _⟩ | ⟨_, m'', hm'', hc''⟩
    · exact hne hc
    · exact h₃ ⟨a', m'', i, hm'', hc''⟩
  · intro c' hlt' hst'
    by_cases hne : c' = c
    · refine Or.inr (Or.inl ⟨s.szBuf c, _, s.uiConnectionIndex c, AList.lookup_insert _, ?_⟩)
      rw [hne]
      exact AList.lookup_insert _
    · rcases h.place c' hlt' ((hstate c' hne).symm.trans_ne hst') with hh | ha | hd
      · exact Or.inl hh
      · exact Or.inr (Or.inl (hatt' c' ha))
      · exact Or.inr (Or.inr hd)
  · intro c' hlt' hst'
    by_cases hne : c' = c
    · rw [hne] at hst'
      cases hself.symm.trans hst'
    · exact h.released c' hlt' ((hstate c' hne).symm.trans hst')
  · intro c' hc'
    obtain ⟨hlt', hcl⟩ := h.ofReleased c' hc'
    have hne : c' ≠ c := by
      rintro rfl
      cases hst.symm.trans hcl
    exact ⟨hlt', (hstate c' hne).trans hcl⟩

/-! ### `UnCreate` -/

/-- The object lets go of a connection that is in a pool or `CLOSED`. -/
theorem Inv.unhold (h : s.Inv) {o : Nat} (ho : s.pAttachedConnection.lookup o = some c)
    (hc : s.nState c = .closed ∨ s.Attached c ∨ s.Detached c) :
    ({ s with pAttachedConnection := s.pAttachedConnection.erase o } : ProxyPools).Inv := by
  have hlook : ∀ o' c', (s.pAttachedConnection.erase o).lookup o' = some c' →
      s.pAttachedConnection.lookup o' = some c' := by
    intro o' c' ho'
    by_cases heq : o' = o
    · rw [heq, AList.lookup_erase] at ho'
      cases ho'
    · rwa [AList.lookup_erase_ne heq] at ho'
  exact { h with
    held := fun o' c' ho' => h.held o' c' (hlook o' c' ho')
    heldOnce := fun o₁ o₂ c' h₁ h₂ => h.heldOnce o₁ o₂ c' (hlook o₁ c' h₁) (hlook o₂ c' h₂)
    place := by
      intro c' hlt hst
      rcases h.place c' hlt hst with ⟨o', ho'⟩ | hpool
      · by_cases heq : o' = o
        · rw [heq, ho] at ho'
          cases ho'
          rcases hc with hc | hc
          · exact absurd hc hst
          · exact Or.inr hc
        · refine Or.inl ⟨o', ?_⟩
          show (s.pAttachedConnection.erase o).lookup o' = some c'
          rw [AList.lookup_erase_ne heq, ho']
      · exact Or.inr hpool }

theorem Inv.placed_closeConnection (h : s.Inv) {bZero : Bool} (hc : s.KeepsClose c bZero) (hp : s.KeepsPlace c) :
    ((s.closeConnection c bZero).nState c = .closed ∨ (s.closeConnection c bZero).Attached c ∨
      (s.closeConnection c bZero).Detached c) ∧
    (s.closeConnection c bZero).pAttachedConnection = s.pAttachedConnection := by
  rcases closeConnection_cases hc with ⟨hst, heq⟩ | ⟨hst, heq⟩ | ⟨hst, _, heq⟩
  · rw [heq]
    exact ⟨Or.inl hst, rfl⟩
  · rw [heq]
    refine ⟨Or.inr ?_, rfl⟩
    rcases hp with hp | ⟨lst, hl, hmem⟩ | hp
    · exact Or.inl (h.attached_iff.mpr hp)
    · exact Or.inr ⟨_, lst, hl, hmem⟩
    · exact absurd hp hst
  · rw [heq]
    obtain ⟨hstate, hheld⟩ := releaseConnection_frame (s := s.setState c .closed) (c := c)
    rw [hstate, hheld]
    exact ⟨Or.inl setState_self, rfl⟩

theorem Inv.placed_detachProxyConnection (h : s.Inv) (hp : s.KeepsPlace c) :
    ((s.detachProxyConnection c).nState c = .closed ∨ (s.detachProxyConnection c).Attached c ∨
      (s.detachProxyConnection c).Detached c) ∧
    (s.detachProxyConnection c).pAttachedConnection = s.pAttachedConnection := by
  unfold ProxyPools.detachProxyConnection
  cases hm : s.mapAttachProxyConnectionsPool.lookup (s.szBuf c) with
  | none =>
    refine ⟨?_, rfl⟩
    rcases hp with hp | ⟨lst, hl, hmem⟩ | hp
    · exact Or.inr (Or.inl (h.attached_iff.mpr hp))
    · exact Or.inr (Or.inr ⟨_, lst, hl, hmem⟩)
    · exact Or.inl hp
  | some m =>
    refine ⟨Or.inr (Or.inr ⟨s.szBuf c, _, AList.lookup_insert _, ?_⟩), rfl⟩
    exact List.mem_append_right _ (List.mem_singleton_self c)

/-! ### Runs -/

theorem Inv.step {a : Action} (h : s.Inv) (hk : s.Keeps a) (hs : s.step a = some s') :
    s'.Inv ∧ s.StepOk a s' := by
  cases a with
  | getProxyConnection o a bZero bNew =>
    obtain ⟨ho, hs⟩ := Option.ite_none_left_eq_some.mp hs
    cases hs
    rcases getProxyConnection_cases hk with ⟨c, lst, hl, hst, hheld, heq⟩ | heq | heq
    · rw [heq]
      refine ⟨h.reuse ho hl hheld, fun c' hc' => Or.inl ?_⟩
      obtain rfl : c = c' := Option.some.inj ((AList.lookup_insert _).symm.trans hc')
      exact ⟨hst, hheld⟩
    · rw [heq]
      refine ⟨h.newConnection ho, fun c' hc' => Or.inr ?_⟩
      obtain rfl : s.created = c' := Option.some.inj ((AList.lookup_insert _).symm.trans hc')
      exact le_rfl
    · rw [heq]
      refine ⟨h, fun c' hc' => ?_⟩
      exact absurd (AList.lookup_isSome.mp (Option.isSome_of_mem hc')) ho
  | asyncConnect o =>
    obtain ⟨c, hc, hs⟩ := Option.bind_eq_some_iff.mp hs
    obtain ⟨_, hs⟩ := Option.ite_none_right_eq_some.mp hs
    cases hs
    refine ⟨h.setTasks fun c' hc' => ?_, trivial⟩
    rcases List.mem_append.mp hc' with hc' | hc'
    · exact h.tasks c' hc'
    · rw [List.mem_singleton.mp hc']
      exact h.held o c hc
  | onProxyConnectionCreated c bAttached =>
    obtain ⟨hc, hs⟩ := Option.ite_none_right_eq_some.mp hs
    cases hs
    obtain ⟨rfl, hst⟩ := hk
    have h₁ : ({ s with tasks := s.tasks.erase c }).Inv := h.setTasks fun c' hc' => h.tasks c' (List.mem_of_mem_erase hc')
    exact ⟨h₁.onProxyConnectionCreated (h.tasks c hc) hst, trivial⟩
  | onCreateConnectionError c =>
    obtain ⟨_, hs⟩ := Option.ite_none_right_eq_some.mp hs
    cases hs
    exact ⟨h.setTasks fun c' hc' => h.tasks c' (List.mem_of_mem_erase hc'), trivial⟩
  | closeConnection c bZero =>
    obtain ⟨_, hs⟩ := Option.ite_none_right_eq_some.mp hs
    cases hs
    exact ⟨(h.closeConnection hk).1, trivial⟩
  | unCreate o bIdle bZero =>
    obtain ⟨c, hc, rfl⟩ := Option.map_eq_some_iff.mp hs
    obtain ⟨hplace, hk⟩ := hk c hc
    have hother : ∀ s₁ : ProxyPools, SamePools c s s₁ → ∀ c', s.pAttachedConnection.lookup o ≠ some c' →
        (s₁.Attached c' ↔ s.Attached c') ∧ (s₁.Detached c' ↔ s.Detached c') := by
      intro s₁ hsame c' hc'
      refine hsame c' ?_
      rintro rfl
      exact hc' hc
    cases bIdle with
    | true =>
      obtain ⟨h₁, hsame⟩ := h.detachProxyConnection hk
      obtain ⟨hplaced, hheld⟩ := h.placed_detachProxyConnection hplace
      have h₂ := h₁.unhold (o := o) (by rw [hheld]; exact hc) hplaced
      exact ⟨h₂, hother _ hsame⟩
    | false =>
      obtain ⟨h₁, hsame⟩ := h.closeConnection hk
      obtain ⟨hplaced, hheld⟩ := h.placed_closeConnection hk hplace
      have h₂ := h₁.unhold (o := o) (by rw [hheld]; exact hc) hplaced
      exact ⟨h₂, hother _ hsame⟩
  | detachProxyConnection o =>
    obtain ⟨c, hc, rfl⟩ := Option.map_eq_some_iff.mp hs
    obtain ⟨h₁, hsame⟩ := h.detachProxyConnection (hk c hc)
    refine ⟨h₁, fun c' hc' => hsame c' ?_⟩
    rintro rfl
    exact hc' hc

theorem consistent_of_keeps (hs : Reachable (guarded Keeps step) start s) :
    s.Consistent ∧ ∀ a s', s.Keeps a → s.step a = some s' → s.StepOk a s' := by
  have h : s.Inv := hs.invariant inv_start fun s a s' h hstep => by
    obtain ⟨hk, hstep⟩ := guarded_eq_some.mp hstep
    exact (h.step hk hstep).1
  exact ⟨h.consistent, fun a s' hk hstep => (h.step hk hstep).2⟩

/-! ### Concrete runs -/

/-- The object gets a connection and connects it. -/
def connectRun (o c : Nat) : List Action :=
  [.getProxyConnection o "192.168.0.118:4354" (fun _ => true) true, .asyncConnect o, .onProxyConnectionCreated c true]

/-- The first object is done, and the second gets its connection. -/
theorem consistent_reused : ∃ s : ProxyPools, s.created = 1 ∧ s.pAttachedConnection.lookup 1 = some 0 ∧
    s.Consistent ∧ ∀ a s', s.Keeps a → s.step a = some s' → s.StepOk a s' := by
  have hrun : (runSteps (guarded Keeps step) start (connectRun 0 0 ++ [.unCreate 0 true true,
      .getProxyConnection 1 "192.168.0.118:4354" (fun _ => true) true])).any
      (fun s => s.created = 1 ∧ s.pAttachedConnection.lookup 1 = some 0) = true := by decide +kernel
  obtain ⟨s, hs, h⟩ := (Option.any_eq_true _ _).mp hrun
  obtain ⟨hcreated, hheld⟩ := of_decide_eq_true h
  exact ⟨s, hcreated, hheld, consistent_of_keeps (Reachable.of_runSteps hs)⟩

/-- Two objects have connections to one address; the first is done, and the connection of the second is no more in
the attached pool. -/
theorem not_stepOk_unCreate : ∃ s s' : ProxyPools, Reachable step start s ∧
    s.step (.unCreate 0 true true) = some s' ∧ ¬ s.StepOk (.unCreate 0 true true) s' := by
  have hrun : (runSteps step start (connectRun 0 0 ++ connectRun 1 1)).any (fun s =>
      (s.step (.unCreate 0 true true)).any (fun s' => s.pAttachedConnection.lookup 0 = some 0 ∧
        s.findAttached 1 = some 1 ∧ s'.mapAttachProxyConnectionsPool.entries = [])) = true := by decide +kernel
  obtain ⟨s, hs, h⟩ := (Option.any_eq_true _ _).mp hrun
  obtain ⟨s', hs', h⟩ := (Option.any_eq_true _ _).mp h
  obtain ⟨hheld, hatt, hempty⟩ := of_decide_eq_true h
  refine ⟨s, s', Reachable.of_runSteps hs, hs', fun hok => ?_⟩
  obtain ⟨m, hm, hc⟩ := findAttached_eq_some.mp hatt
  have hne : s.pAttachedConnection.lookup 0 ≠ some 1 := by
    rw [hheld]
    decide
  obtain ⟨a, m', i, hm', _⟩ := (hok 1 hne).1.mpr ⟨_, m, _, hm, hc⟩
  have hmem := AList.mem_lookup_iff.mp hm'
  rw [hempty] at hmem
  cases hmem

end ProxyPools

end KonsanNet
