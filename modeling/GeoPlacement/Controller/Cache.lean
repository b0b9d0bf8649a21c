import GeoPlacement.Collection.Table
import GeoPlacement.Object.Metadata

/-!
# Caches

The operator watches lists of objects and keeps what it has seen in caches. A watch delivers a
list as `init`, one `initApply` for each object and `initDone`, and single changes after that. The
objects of a list are collected aside and replace the whole content at once when the list is
complete; a cache whose list was complete once is ready for good. A cache whose watch has ended
takes no more events.

An object without a namespace belongs to the whole cluster. `Cache.get?` finds it under its name in
every namespace that has no object of that name itself; `Cache.kept?` does not.
-/

namespace GeoPlacement

/-- A reference to an object of a known kind. -/
structure ObjectRef where
  inNamespace : Option String
  name : String
deriving Repr, DecidableEq, Inhabited

/-- The reference to the object of some metadata. -/
def Metadata.reference (m : Metadata) : ObjectRef :=
  ⟨m.inNamespace, m.name.getD ""⟩

/-- What a watch delivers. -/
inductive WatchEvent (α : Type)
  /-- A list begins. -/
  | init
  /-- An object of the list. -/
  | initApply (object : α)
  /-- The list is complete. -/
  | initDone
  /-- An object is new or has changed. -/
  | apply (object : α)
  /-- An object is gone. -/
  | delete (object : α)
deriving Repr

/-- Whether the content of a cache can be relied on. -/
inductive Readiness
  | ready
  | pending
  /-- The watch ended before its first list was complete. -/
  | lost
deriving Repr, DecidableEq, Inhabited

namespace Readiness

/-- The readiness of two caches awaited one after the other. -/
def andThen : Readiness → Readiness → Readiness
  | ready, next => next
  | pending, _ => pending
  | lost, _ => lost

/-- The readiness of caches awaited together: a lost one is noticed at once. -/
def together (all : List Readiness) : Readiness :=
  if lost ∈ all then lost else if pending ∈ all then pending else ready

end Readiness

/-- A cache of watched objects. -/
structure Cache (α : Type) where
  content : Table ObjectRef α := .empty
  /-- The objects of a list that is not complete yet. -/
  incoming : Table ObjectRef α := .empty
  isReady : Bool := false
  hasEnded : Bool := false

namespace Cache

variable {α : Type}

instance : Inhabited (Cache α) := ⟨{}⟩

/-- Takes an event into account; `reference` says where an object is kept. -/
def observe (reference : α → ObjectRef) (cache : Cache α) (event : WatchEvent α) : Cache α :=
  if cache.hasEnded then
    cache
  else
    match event with
    | .init => { cache with incoming := .empty }
    | .initApply object =>
      { cache with incoming := cache.incoming.insert (reference object) object }
    | .initDone => { cache with content := cache.incoming, incoming := .empty, isReady := true }
    | .apply object => { cache with content := cache.content.insert (reference object) object }
    | .delete object => { cache with content := cache.content.erase (reference object) }

/-- Ends the watch of a cache. -/
def close (cache : Cache α) : Cache α :=
  { cache with hasEnded := true }

/-- Whether the content can be relied on. -/
def readiness (cache : Cache α) : Readiness :=
  if cache.isReady then .ready else if cache.hasEnded then .lost else .pending

/-- The cached objects. -/
def objects (cache : Cache α) : List α :=
  cache.content.values

/-- The object that is kept under a reference. -/
def kept? (cache : Cache α) (reference : ObjectRef) : Option α :=
  cache.content.get? reference

/-- The cached object of a reference: the one kept under it, or else that of the same name which
belongs to the whole cluster. -/
def get? (cache : Cache α) (reference : ObjectRef) : Option α :=
  (cache.kept? reference).or (cache.kept? { reference with inNamespace := none })

/-- What is kept under a reference is what is found for it. -/
theorem get?_of_kept? {cache : Cache α} {reference : ObjectRef} {object : α}
    (h : cache.kept? reference = some object) : cache.get? reference = some object := by
  simp [get?, h]

/-- An object that is applied is kept under its own reference, and the others stay. -/
theorem kept?_observe_apply {cache : Cache α} (reference : α → ObjectRef) (object : α)
    (query : ObjectRef) (h : cache.hasEnded = false) :
    (cache.observe reference (.apply object)).kept? query =
      if reference object = query then some object else cache.kept? query := by
  simp [observe, kept?, h, Table.get?_insert]

/-- An object that is deleted is kept no more, and the others stay. -/
theorem kept?_observe_delete {cache : Cache α} (reference : α → ObjectRef) (object : α)
    (query : ObjectRef) (h : cache.hasEnded = false) :
    (cache.observe reference (.delete object)).kept? query =
      if reference object = query then none else cache.kept? query := by
  simp [observe, kept?, h, Table.get?_erase]

/-- At the end of a list its objects are all that is kept. -/
theorem kept?_observe_initDone {cache : Cache α} (reference : α → ObjectRef) (query : ObjectRef)
    (h : cache.hasEnded = false) :
    (cache.observe reference .initDone).kept? query = cache.incoming.get? query := by
  simp [observe, kept?, h]

/-- The beginning of a list changes nothing that is kept. -/
theorem kept?_observe_init {cache : Cache α} (reference : α → ObjectRef) (query : ObjectRef) :
    (cache.observe reference .init).kept? query = cache.kept? query := by
  unfold observe
  split <;> rfl

/-- Neither does an object of the list while the list goes on. -/
theorem kept?_observe_initApply {cache : Cache α} (reference : α → ObjectRef) (object : α)
    (query : ObjectRef) :
    (cache.observe reference (.initApply object)).kept? query = cache.kept? query := by
  unfold observe
  split <;> rfl

/-- A list begins empty. -/
theorem incoming_observe_init {cache : Cache α} (reference : α → ObjectRef)
    (h : cache.hasEnded = false) : (cache.observe reference .init).incoming = .empty := by
  simp [observe, h]

/-- A list takes up its objects under their own references. -/
theorem incoming_observe_initApply {cache : Cache α} (reference : α → ObjectRef) (object : α)
    (h : cache.hasEnded = false) : (cache.observe reference (.initApply object)).incoming =
      cache.incoming.insert (reference object) object := by
  simp [observe, h]

/-- No event ends a cache, or begins an ended one again. -/
@[simp] theorem hasEnded_observe (cache : Cache α) (reference : α → ObjectRef)
    (event : WatchEvent α) : (cache.observe reference event).hasEnded = cache.hasEnded := by
  unfold observe
  split
  · rfl
  · cases event <;> rfl

/-- A cache whose list held the given objects. -/
def ofList (reference : α → ObjectRef) (objects : List α) : Cache α :=
  let events : List (WatchEvent α) := [.init] ++ objects.map .initApply ++ [.initDone]
  events.foldl (observe reference) {}

end Cache

end GeoPlacement
