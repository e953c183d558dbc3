import MediaDepot.Config.Basic
import MediaDepot.Site.Basic

/-!
# Provisioning a bucket

A bucket that is not there is made, and whoever has made it lets browsers read from it. The work is
a list of steps. Each step is one call to the object store, whose answer says whether the next step
is due or the matter is settled; between two steps others may work on the same bucket.

* `Step.call` and `Step.verdict` — what a step asks for, and what the answer means.
* `provision` — the steps that are still to be done, one after the other.
-/

namespace MediaDepot.Provisioning

/-- A step on the way to a bucket. -/
inductive Step where
  /-- Asks whether the bucket is there. -/
  | look
  /-- Makes the bucket. -/
  | make
  /-- Lets browsers read from the bucket. -/
  | allow
  deriving DecidableEq, Repr, Inhabited

/-- What the answer to a call means. -/
inductive Verdict where
  /-- The next step is due. -/
  | goOn
  /-- The bucket is there, and nothing is left to be done. -/
  | settled
  | failed (failure : Failure)
  deriving Repr, Inhabited

/-- The codes that say that there is no such bucket. -/
def missingCodes : List String := ["404", "NoSuchBucket", "NotFound"]

/-- The codes that say that somebody else has made the bucket or is making it. -/
def takenCodes : List String :=
  ["BucketAlreadyExists", "BucketAlreadyOwnedByYou", "OperationAborted"]

/-- Is it an error document with one of these codes? -/
def hasCode (codes : List String) : Fault → Bool
  | .store (.refused response operation) =>
    codes.contains (StoreFault.refused response operation).code
  | _ => false

/-- The region to be named when a bucket is made; one region is never named. -/
def regionToName (config : BucketConfig) : Option String :=
  if config.region = "us-east-1" then none else some config.region

/-- The origins that may read from the bucket. -/
def originsToAllow (config : BucketConfig) : List String :=
  if config.origins.isEmpty then ["*"] else config.origins

namespace Step

/-- The operation of a step. -/
def operation : Step → Operation
  | .look => .headBucket
  | .make => .createBucket
  | .allow => .allowOrigins

/-- The call of a step. -/
def call (config : BucketConfig) : Step → Call
  | .look => .headBucket config.bucket
  | .make => .createBucket config.bucket (regionToName config)
  | .allow => .allowOrigins config.bucket (originsToAllow config)

/-- What a refusal means. A bucket that is missing is to be made; one that somebody else makes is as
good as there, and it is for them to let browsers in. -/
def verdictOf (config : BucketConfig) (fault : Fault) : Step → Verdict
  | .look =>
    if hasCode missingCodes fault then .goOn
    else .failed (.ofCall "head_bucket" config.bucket fault)
  | .make =>
    if hasCode takenCodes fault then .settled
    else .failed (.ofCall "create_bucket" config.bucket fault)
  | .allow => .failed (.ofCall "put_bucket_cors" config.bucket fault)

/-- What the answer to the call of a step means. -/
def verdict (config : BucketConfig) (step : Step) : Except Fault Json → Verdict
  | .ok _ => if step = .make then .goOn else .settled
  | .error fault => step.verdictOf config fault

/-- What the log says of the answer: who has made the bucket. -/
def line? (config : BucketConfig) (step : Step) (answer : Except Fault Json) : Option LogLine :=
  match step, answer with
  | .make, .ok _ => some ⟨.info, "created bucket " ++ config.bucket⟩
  | .make, .error fault =>
    if hasCode takenCodes fault then
      some ⟨.warning, "bucket " ++ config.bucket ++ " provisioned concurrently ("
        ++ fault.storeCode ++ ")"⟩
    else none
  | _, _ => none

/-- Makes the call of a step. -/
def perform (config : BucketConfig) (step : Step) : StateM Site Verdict := do
  let answer ← Site.ask step.operation (step.call config) (.obj [])
  match step.line? config answer with
  | some line => Site.say line.level line.text
  | none => pure ()
  return step.verdict config answer

end Step

/-- All steps. -/
def steps : List Step := [.look, .make, .allow]

/-- Does the given steps until the matter is settled. -/
def provision (config : BucketConfig) : List Step → StateM Site (Except Failure Unit)
  | [] => return .ok ()
  | step :: rest => do
    match ← step.perform config with
    | .goOn => provision config rest
    | .settled => return .ok ()
    | .failed failure => return .error failure

end MediaDepot.Provisioning
