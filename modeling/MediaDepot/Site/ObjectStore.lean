import MediaDepot.Digest.Md5
import MediaDepot.Fault

/-!
# The object store

Objects by key, and what the store will do when it is next called: a call may fail, or be answered
in a particular way; otherwise it does what it is asked to do.

* `ObjectStore.take` — what the store does at the next call of an operation.
* `ObjectStore.etag?` — the quoted digest of an object.
-/

namespace MediaDepot

/-- The operations of the object store. -/
inductive Operation where
  | connect
  | headBucket
  | createBucket
  | allowOrigins
  | sign
  | putObject
  | headObject
  | deleteObjects
  deriving DecidableEq, Repr, Inhabited

/-- What the object store does at a call. -/
inductive Behaviour where
  | fail (fault : Fault)
  | reply (answer : Json)
  /-- Reads the body in pieces of this size. -/
  | pieces (size : Int)
  deriving Repr, Inhabited

/-- Objects by key, and what the store will do next. -/
structure ObjectStore where
  objects : List (String × Bytes) := []
  script : List (Operation × Behaviour) := []
  deriving Repr, Inhabited

namespace ObjectStore

/-- The first behaviour laid down for an operation, and the script without it. -/
def takeFrom (operation : Operation) :
    List (Operation × Behaviour) → Option Behaviour × List (Operation × Behaviour)
  | [] => (none, [])
  | (o, behaviour) :: rest =>
    if o = operation then (some behaviour, rest)
    else
      let (found, rest) := takeFrom operation rest
      (found, (o, behaviour) :: rest)

/-- What the store does at the next call of an operation, if that is laid down. -/
def take (store : ObjectStore) (operation : Operation) : Option Behaviour × ObjectStore :=
  let (found, script) := takeFrom operation store.script
  (found, { store with script })

/-- Stores an object. -/
def put (store : ObjectStore) (key : String) (body : Bytes) : ObjectStore :=
  { store with objects := (key, body) :: store.objects.filter fun o => o.1 != key }

/-- Removes objects. -/
def erase (store : ObjectStore) (keys : List String) : ObjectStore :=
  { store with objects := store.objects.filter fun o => !keys.contains o.1 }

/-- The quoted digest of an object. -/
def etag? (store : ObjectStore) (key : String) : Option String :=
  (store.objects.lookup key).map fun body => "\"" ++ Digest.Md5.hexDigest body ++ "\""

end ObjectStore

end MediaDepot
