import Mathlib.Data.List.AList
import Mathlib.Tactic
import KonsanNet.Run

/-!
# The pool of RPC objects (`CXRPCObjectManager`)

`GetFreeObject` hands out an object of a class, from the free list of the class or a new one, and enters it
in `m_mapUsingObjs` under the id that `Init` gives it; `FreeObject` takes it out of there and puts it on the
free list. Sessions know their objects by keys of several kinds: the object's own id, the id the peer has
given it, and `UnCreate` uses the id of its class. An object is freed by the session that closes, by
`ProcessUnpackedMessage` when it asks for it, and by the object that has it as its storage object.

The objects of a class that is a unique instance are the registered ones; `created n` is the `n`-th object
that `CreateObject` has made. A guid that is generated has not been generated before. What the handlers of
the objects do is free: they may be called for any object that has been handed out.
-/

namespace KonsanNet

inductive RPCObj
  | unique (strClassGuid : String)
  | created (n : Nat)
deriving DecidableEq, Repr

structure CXRPCObjectServer where
  strClassGuid : String
  strObjectGuid : String
  bIsUsing : Bool
  bNeedToDestroy : Bool
  bAlignedIDWithServer : Bool
  /-- `m_pAttachedSession`, while `m_pAttachedConnection` is not `NULL` -/
  pAttachedSession : Option Nat
  pStorageObj : Option RPCObj

/-- `m_mapRegisterObject`: whether the registered object is a unique instance, and whether the `Destroy` of
the class calls `Reset`, as those of all classes of the repository do. -/
structure RPCClasses where
  isUniqueInstance : String → Option Bool
  resets : String → Bool

/-- A map of strings. -/
abbrev StrMap (α : Type) := AList fun _ : String => α

structure RPCPool where
  objs : RPCObj → CXRPCObjectServer
  created : Nat
  guids : List String
  mapFreeObjs : StrMap (List RPCObj)
  mapUsingObjs : StrMap RPCObj
  uiUsingObjects : Nat
  uiFreeObjects : Nat
  /-- `m_mapObjects` of the sessions, and whether `m_pObjectsPool` is set -/
  mapObjects : Nat → StrMap RPCObj
  bObjectsPool : Nat → Bool
  /-- `m_mapRPCObj` of the connections, and the object that processes the current message -/
  mapRPCObj : Nat → StrMap RPCObj
  pObjectServer : Nat → Option RPCObj
  /-- The objects that have been given to `FreeObject` since they were handed out. -/
  given : RPCObj → Bool

namespace RPCPool

def construct (strClassGuid : String) : CXRPCObjectServer :=
  ⟨strClassGuid, "", false, false, false, none, none⟩

def start : RPCPool where
  objs
    | .unique c => construct c
    | .created _ => construct ""
  created := 0
  guids := []
  mapFreeObjs := ∅
  mapUsingObjs := ∅
  uiUsingObjects := 0
  uiFreeObjects := 0
  mapObjects _ := ∅
  bObjectsPool _ := false
  mapRPCObj _ := ∅
  pObjectServer _ := none
  given _ := false

def isUniqueInstance : RPCObj → Bool
  | .unique _ => true
  | .created _ => false

def setObj (s : RPCPool) (o : RPCObj) (v : CXRPCObjectServer) : RPCPool :=
  { s with objs := Function.update s.objs o v }

/-! ### `CXRPCObjectManager` -/

/-- `Init`, and the object is entered in `m_mapUsingObjs`. -/
def putInUse (guid : String) (s : RPCPool) (o : RPCObj) : RPCPool :=
  { s with
    objs := Function.update s.objs o { s.objs o with strObjectGuid := guid, bIsUsing := true }
    uiUsingObjects := (s.uiUsingObjects + 1) % 2 ^ 64
    mapUsingObjs := s.mapUsingObjs.insert guid o
    given := Function.update s.given o false }

/-- `CreateObject`: the address space has room for less than `2 ^ 64` objects. -/
def createObject (strObjectClassGuid : String) (bNew : Bool) (s : RPCPool) : Option (RPCPool × RPCObj) :=
  if bNew ∧ s.created + 1 < 2 ^ 64 then
    some ({ s with
      created := s.created + 1
      objs := Function.update s.objs (.created s.created) (construct strObjectClassGuid) }, .created s.created)
  else none

def getFreeObject (cls : RPCClasses) (strObjectClassGuid guid : String) (bNew : Bool) (s : RPCPool) :
    RPCPool × Option RPCObj :=
  match s.mapFreeObjs.lookup strObjectClassGuid with
  | some (o :: rest) =>
    (putInUse guid
      { s with
        mapFreeObjs := s.mapFreeObjs.insert strObjectClassGuid rest
        uiFreeObjects := (s.uiFreeObjects + (2 ^ 64 - 1)) % 2 ^ 64 } o, some o)
  | _ =>
    match cls.isUniqueInstance strObjectClassGuid with
    | none => (s, none)
    | some true => (s, some (.unique strObjectClassGuid))
    | some false =>
      match createObject strObjectClassGuid bNew s with
      | none => (s, none)
      | some r => (putInUse guid r.1 r.2, some r.2)

/-- The object is looked for by the id it has now. The counters are not touched. -/
def freeObject (o : RPCObj) (s : RPCPool) : RPCPool :=
  if isUniqueInstance o then s
  else
    let s := { s with given := Function.update s.given o true }
    match s.mapUsingObjs.lookup (s.objs o).strObjectGuid with
    | none => s
    | some _ =>
      { s with
        mapUsingObjs := s.mapUsingObjs.erase (s.objs o).strObjectGuid
        mapFreeObjs := s.mapFreeObjs.insert (s.objs o).strClassGuid
          ((s.mapFreeObjs.lookup (s.objs o).strClassGuid).getD [] ++ [o]) }

/-! ### Sessions and objects -/

def addObject (ses : Nat) (strObjectID : String) (o : RPCObj) (s : RPCPool) : RPCPool :=
  { s with mapObjects := Function.update s.mapObjects ses ((s.mapObjects ses).insert strObjectID o) }

def removeObject (ses : Nat) (strObjectID : String) (s : RPCPool) : RPCPool :=
  { s with mapObjects := Function.update s.mapObjects ses ((s.mapObjects ses).erase strObjectID) }

def popRPCObj (con : Nat) (strPacketGuid : String) (s : RPCPool) : RPCPool × Option RPCObj :=
  ({ s with mapRPCObj := Function.update s.mapRPCObj con ((s.mapRPCObj con).erase strPacketGuid) },
    (s.mapRPCObj con).lookup strPacketGuid)

/-- `UnCreate`: the object is looked for in its session by the id of its class. -/
def unCreate (o : RPCObj) (s : RPCPool) : RPCPool :=
  match (s.objs o).pAttachedSession with
  | none => s
  | some ses =>
    (removeObject ses (s.objs o).strClassGuid s).setObj o { s.objs o with pAttachedSession := none }

def reset (cls : RPCClasses) (o : RPCObj) (s : RPCPool) : RPCPool :=
  if cls.resets (s.objs o).strClassGuid then
    s.setObj o { s.objs o with strObjectGuid := "", bIsUsing := false, bNeedToDestroy := false }
  else s

/-- `Destroy` of a storage object. -/
def destroyStorage (cls : RPCClasses) (o : RPCObj) (s : RPCPool) : RPCPool :=
  reset cls o (unCreate o s)

/-- The storage object, if there is one, is destroyed and freed. -/
def releaseStorage (cls : RPCClasses) (o : RPCObj) (s : RPCPool) : RPCPool :=
  match (s.objs o).pStorageObj with
  | none => s
  | some p =>
    let s := freeObject p (destroyStorage cls p s)
    s.setObj o { s.objs o with pStorageObj := none }

def destroy (cls : RPCClasses) (o : RPCObj) (s : RPCPool) : RPCPool :=
  reset cls o (unCreate o (releaseStorage cls o s))

/-- The round of `CXConnectionSession::Destroy` for one entry of `m_mapObjects`. -/
def destroyEntry (cls : RPCClasses) (ses : Nat) (s : RPCPool) (e : Σ _ : String, RPCObj) : RPCPool :=
  let s := destroy cls e.2 s
  let s := if s.bObjectsPool ses then freeObject e.2 s else s
  removeObject ses e.1 s

/-- Attached to a connection of the session, itself or its storage object: `UnCreate` would wait for the lock
of the session. -/
def attachedTo (s : RPCPool) (ses : Nat) (o : RPCObj) : Bool :=
  (s.objs o).pAttachedSession = some ses ∨
    (s.objs o).pStorageObj.any fun p => (s.objs p).pAttachedSession = some ses

/-- The objects with a lock already held are left out: such a call does not return. -/
def closeSession (cls : RPCClasses) (ses : Nat) (s : RPCPool) : Option RPCPool :=
  if (s.mapObjects ses).entries.any fun e => s.attachedTo ses e.2 then none
  else some ((s.mapObjects ses).entries.foldl (destroyEntry cls ses) s)

/-! ### `ProcessUnpackedMessage` -/

/-- A proxy's first reply comes under the id the peer has given the object. -/
def findProxyObject (con ses : Nat) (strObjectGuid strRequestID : String) (s : RPCPool) :
    RPCPool × Option RPCObj :=
  match popRPCObj con strRequestID s with
  | (s, none) => (s, none)
  | (s, some o) =>
    let s := addObject ses strObjectGuid o (removeObject ses (s.objs o).strObjectGuid s)
    (s.setObj o { s.objs o with bAlignedIDWithServer := true }, some o)

def unknownClass : String := "{0307F567-72FC-4355-8192-9E37DC766D2E}"

/-- `strObjectGuid` is the id of a class. -/
def createInSession (cls : RPCClasses) (pSession : Option Nat) (strObjectGuid guid : String) (bNew : Bool)
    (s : RPCPool) : RPCPool × Option RPCObj :=
  match getFreeObject cls strObjectGuid guid bNew s with
  | (s, some o) =>
    match pSession with
    | some ses => (if isUniqueInstance o then s else addObject ses (s.objs o).strObjectGuid o s, some o)
    | none => (s, some o)
  | (s, none) => getFreeObject cls unknownClass guid bNew s

def lookupObject (cls : RPCClasses) (con : Nat) (pSession : Option Nat) (bProxy : Bool)
    (strObjectGuid strRequestID guid : String) (bNew : Bool) (s : RPCPool) : RPCPool × Option RPCObj :=
  if strObjectGuid = "" then (s, none)
  else
    match pSession.bind fun ses => (s.mapObjects ses).lookup strObjectGuid with
    | some o => (s, some o)
    | none =>
      match pSession, bProxy with
      | some ses, true =>
        match findProxyObject con ses strObjectGuid strRequestID s with
        | (s, some o) => (s, some o)
        | (s, none) => createInSession cls pSession strObjectGuid guid bNew s
      | _, _ => createInSession cls pSession strObjectGuid guid bNew s

/-- After the message is processed. -/
def releaseObject (cls : RPCClasses) (con : Nat) (s : RPCPool) : RPCPool :=
  let s' := { s with pObjectServer := Function.update s.pObjectServer con none }
  match s.pObjectServer con with
  | none => s'
  | some o => if (s.objs o).bNeedToDestroy then freeObject o (destroy cls o s') else s'

/-! ### Runs -/

inductive Action
  | getFreeObject (strObjectClassGuid guid : String) (bNew : Bool)
  | setObjectPool (ses : Nat)
  | lookupObject (con : Nat) (pSession : Option Nat) (bProxy : Bool) (strObjectGuid strRequestID guid : String)
    (bNew : Bool)
  | releaseObject (con : Nat)
  | closeSession (ses : Nat)
  -- what a handler does with an object
  | setNeedToDestroy (o : RPCObj) (bSet : Bool)
  | openStorage (o : RPCObj) (strObjectClassGuid guid : String) (bNew : Bool)
  | create (o : RPCObj) (ses : Nat)
  | pushRPCObj (o : RPCObj) (con : Nat) (strRequestID : String)
  | popRPCObj (con : Nat) (strRequestID : String)

/-- The object has been handed out. -/
def HandedOut (cls : RPCClasses) (s : RPCPool) : RPCObj → Prop
  | .unique c => cls.isUniqueInstance c = some true
  | .created n => n < s.created

instance (cls : RPCClasses) (s : RPCPool) : DecidablePred (s.HandedOut cls)
  | .unique c => inferInstanceAs (Decidable (cls.isUniqueInstance c = some true))
  | .created n => inferInstanceAs (Decidable (n < s.created))

/-- `guid` is what `GenerateNewGuid` returns. -/
def withGuid (guid : String) (s : RPCPool) : Option RPCPool :=
  if guid ≠ "" ∧ guid ∉ s.guids then some { s with guids := guid :: s.guids } else none

def step (cls : RPCClasses) (s : RPCPool) : Action → Option RPCPool
  | .getFreeObject c guid bNew => (s.withGuid guid).map fun s => (s.getFreeObject cls c guid bNew).1
  | .setObjectPool ses => some { s with bObjectsPool := Function.update s.bObjectsPool ses true }
  | .lookupObject con pSession bProxy strObjectGuid strRequestID guid bNew =>
    (s.withGuid guid).map fun s =>
      let r := s.lookupObject cls con pSession bProxy strObjectGuid strRequestID guid bNew
      { r.1 with pObjectServer := Function.update r.1.pObjectServer con r.2 }
  | .releaseObject con => some (s.releaseObject cls con)
  | .closeSession ses => s.closeSession cls ses
  | .setNeedToDestroy o bSet =>
    if s.HandedOut cls o then some (s.setObj o { s.objs o with bNeedToDestroy := bSet }) else none
  | .openStorage o c guid bNew =>
    if s.HandedOut cls o ∧ (s.objs o).pStorageObj = none then
      (s.withGuid guid).map fun s =>
        let r := s.getFreeObject cls c guid bNew
        r.1.setObj o { r.1.objs o with pStorageObj := r.2 }
    else none
  | .create o ses =>
    if s.HandedOut cls o ∧ (s.objs o).pAttachedSession = none then
      some (addObject ses (s.objs o).strObjectGuid o (s.setObj o { s.objs o with pAttachedSession := some ses }))
    else none
  | .pushRPCObj o con strRequestID =>
    if s.HandedOut cls o then
      some { s with mapRPCObj := Function.update s.mapRPCObj con ((s.mapRPCObj con).insert strRequestID o) }
    else none
  | .popRPCObj con strRequestID => some (s.popRPCObj con strRequestID).1

/-- What is promised of the pool: an object that has been freed is on the free list of its class once and not in
use, no session knows an object of a free list, the keys are the ids, the counters count. -/
structure Consistent (s : RPCPool) : Prop where
  freed : ∀ o, s.given o = true → (∀ guid, s.mapUsingObjs.lookup guid ≠ some o) ∧
    ∃ l, s.mapFreeObjs.lookup (s.objs o).strClassGuid = some l ∧ l.count o = 1
  free : ∀ c l, s.mapFreeObjs.lookup c = some l → ∀ o ∈ l,
    (∀ guid, s.mapUsingObjs.lookup guid ≠ some o) ∧ ∀ ses key, (s.mapObjects ses).lookup key ≠ some o
  keys : ∀ guid o, s.mapUsingObjs.lookup guid = some o → (s.objs o).strObjectGuid = guid
  uiUsingObjects : s.uiUsingObjects = s.mapUsingObjs.entries.length
  uiFreeObjects : s.uiFreeObjects = (s.mapFreeObjs.entries.map fun e => e.2.length).sum

/-- The object would be freed, or lose its id while it is in use. -/
def Spoils (cls : RPCClasses) (s : RPCPool) (bFree : Bool) (o : RPCObj) : Prop :=
  (∃ p ∈ (s.objs o).pStorageObj, isUniqueInstance p = false) ∨
    isUniqueInstance o = false ∧ (bFree = true ∨ cls.resets (s.objs o).strClassGuid = true)

instance (cls : RPCClasses) (s : RPCPool) (bFree : Bool) (o : RPCObj) : Decidable (s.Spoils cls bFree o) :=
  inferInstanceAs (Decidable ((∃ p ∈ (s.objs o).pStorageObj, isUniqueInstance p = false) ∨ _ ∧ _))

/-- The step destroys an object of a class that is not a unique instance. -/
def DestroysObject (cls : RPCClasses) (s : RPCPool) : Action → Prop
  | .releaseObject con => ∃ o ∈ s.pObjectServer con, (s.objs o).bNeedToDestroy = true ∧ s.Spoils cls true o
  | .closeSession ses => ∃ e ∈ (s.mapObjects ses).entries, s.Spoils cls (s.bObjectsPool ses) e.2
  | _ => False

instance (cls : RPCClasses) (s : RPCPool) : DecidablePred (s.DestroysObject cls)
  | .releaseObject con => inferInstanceAs (Decidable (∃ o ∈ s.pObjectServer con, _ ∧ s.Spoils cls true o))
  | .closeSession ses =>
    inferInstanceAs (Decidable (∃ e ∈ (s.mapObjects ses).entries, s.Spoils cls (s.bObjectsPool ses) e.2))
  | .getFreeObject .. | .setObjectPool .. | .lookupObject .. | .setNeedToDestroy .. | .openStorage .. | .create ..
  | .pushRPCObj .. | .popRPCObj .. => inferInstanceAs (Decidable False)

end RPCPool

end KonsanNet
