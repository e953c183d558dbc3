import MediaDepot.Json.Basic
import MediaDepot.Bytes

/-!
# Calls to the outside

What is asked of the object store and of the database is noted call by call, with everything that
the callee is told.

* `Link` — what a signed URL is for.
* `Call` — a call.
-/

namespace MediaDepot

/-- What a signed URL is for. -/
structure Link where
  /-- What the holder of the URL may do. -/
  operation : String
  method : String
  bucket : String
  key : String
  /-- Headers that the object store is told to answer with. -/
  overrides : List (String × String)
  /-- For how many seconds the URL is good. -/
  seconds : Int
  deriving DecidableEq, Repr, Inhabited

/-- How a client reaches the object store. -/
structure Connection where
  region : String
  endpoint : Option String
  useTls : Bool
  accessKey : String
  secretKey : String
  addressing : String
  deriving DecidableEq, Repr, Inhabited

/-- A call to the object store or to the database. -/
inductive Call where
  | connect (connection : Connection)
  | headBucket (bucket : String)
  | createBucket (bucket : String) (region : Option String)
  | allowOrigins (bucket : String) (origins : List String)
  | sign (link : Link)
  /-- The body is known only if it was read to its end. -/
  | putObject (bucket key cacheControl contentType : String) (body : Option Bytes)
  | headObject (bucket key : String)
  | deleteObjects (bucket : String) (keys : List String)
  | openDatabase (url : Option String) (timeout : Nat)
  | openCollection (database : Option String) (collection : String)
  | findOne (key : String)
  | insertOne (document : Fields)
  | updateOne (key : String) (changes : Fields)
  | findStale (statuses : List String) (olderThan : Int)
  | fetch (limit : Int)
  | deleteMany (keys : List String)
  deriving Repr, BEq, Inhabited

/-- How serious a line of the log is. -/
inductive Level where
  | info
  | warning
  | error
  deriving DecidableEq, Repr, Inhabited

/-- A line of the log. -/
structure LogLine where
  level : Level
  text : String
  deriving DecidableEq, Repr, Inhabited

end MediaDepot
