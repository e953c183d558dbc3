import MediaDepot.Proofs.Objects
import MediaDepot.Handler.Bucket

/-!
# MediaDepot.Proofs.Buckets

**A bucket, and what its object store makes of calls.** A `Bucket` is there or not, and browsers may
read from it or not. The object store refuses to look at a bucket that is missing and to make one
that is there; any call may fail besides, and then it has no effect (`Bucket.refusal?`).
`Bucket.meet` runs work whose calls are answered in this way, and `Bucket.after` is what the calls
have made of the bucket.

How steps come out depends on the answers alone (`run_provision`).
-/

namespace MediaDepot

/-! ### Taking what is laid down -/

/-- A call leaves alone what is laid down for other operations. -/
theorem ObjectStore.laidDown_take_of_ne (store : ObjectStore) {operation other : Operation}
    (h : other ≠ operation) :
    (store.take operation).2.laidDown other = store.laidDown other := by
  obtain ⟨objects, script⟩ := store
  simp only [take, laidDown]
  induction script with
  | nil => rfl
  | cons entry rest ih =>
      obtain ⟨first, behaviour⟩ := entry
      by_cases hfirst : first = operation
      · simp [takeFrom, hfirst, Ne.symm h]
      · simp [takeFrom, hfirst, List.filterMap_cons, ih]

namespace Provisioning

/-! ### Steps by their answers -/

namespace Step

/-- A step makes its call, and the answer says what is due. -/
theorem run_perform (config : BucketConfig) (step : Step) (site : Site) :
    ∃ log, (step.perform config).run site =
      (step.verdict config (Site.answerOf (.obj []) (site.objects.laidDown step.operation).head?),
        { site.called step.operation (step.call config) with log }) := by
  rw [perform, StateM.run_bind, Site.run_ask, (site.objects.take_eq step.operation).1]
  rcases step.line? config _ with _ | line
  · exact ⟨_, rfl⟩
  · exact ⟨_, rfl⟩

theorem operation_injective : Function.Injective operation := by
  intro first second h
  cases first <;> cases second <;> first | rfl | cases h

end Step

/-- What steps come to if their calls are answered like this: how they end, and the calls. -/
def follow (config : BucketConfig) (answers : Operation → Except Fault Json) :
    List Step → Except Failure Unit × List Call
  | [] => (.ok (), [])
  | step :: rest =>
    match step.verdict config (answers step.operation) with
    | .goOn =>
      let (outcome, calls) := follow config answers rest
      (outcome, step.call config :: calls)
    | .settled => (.ok (), [step.call config])
    | .failed failure => (.error failure, [step.call config])

/-- **Steps follow the answers to their calls**, each of which is made once. -/
theorem run_provision (config : BucketConfig) (answers : Operation → Except Fault Json)
    {todo : List Step} (honce : todo.Nodup) {site : Site}
    (hanswers : ∀ step ∈ todo,
      Site.answerOf (.obj []) (site.objects.laidDown step.operation).head? =
        answers step.operation) :
    ((provision config todo).run site).1 = (follow config answers todo).1 ∧
      ((provision config todo).run site).2.calls =
        site.calls ++ (follow config answers todo).2 := by
  induction todo generalizing site with
  | nil => exact ⟨rfl, (List.append_nil _).symm⟩
  | cons step rest ih =>
      obtain ⟨hnot, honce⟩ := List.nodup_cons.mp honce
      obtain ⟨log, hperform⟩ := step.run_perform config site
      rw [hanswers step List.mem_cons_self] at hperform
      rw [provision, StateM.run_bind, hperform, follow]
      dsimp only
      rcases step.verdict config (answers step.operation) with _ | _ | failure
      · -- the other steps find what is laid down for them
        let after : Site := { site.called step.operation (step.call config) with log }
        have hafter (other : Step) (hother : other ∈ rest) :
            Site.answerOf (.obj []) (after.objects.laidDown other.operation).head? =
              answers other.operation := by
          have hne : other.operation ≠ step.operation := fun h =>
            hnot (Step.operation_injective h ▸ hother)
          rw [← hanswers other (List.mem_cons_of_mem _ hother)]
          exact congrArg (fun laid => Site.answerOf (.obj []) laid.head?)
            (site.objects.laidDown_take_of_ne hne)
        obtain ⟨houtcome, hcalls⟩ := ih honce hafter
        refine ⟨houtcome, hcalls.trans ?_⟩
        simp [after, Site.called]
      · exact ⟨rfl, rfl⟩
      · exact ⟨rfl, rfl⟩

/-! ### The bucket -/

/-- A bucket as the object store has it. -/
structure Bucket where
  present : Bool := false
  /-- The origins that may read from it, once that has been settled. -/
  readers : Option (List String) := none
  deriving DecidableEq, Repr

/-- In what words the object store says that there is no such bucket, and that there is one. -/
structure Wording where
  missing : Fault
  taken : Fault
  missing_code : hasCode missingCodes missing = true
  taken_code : hasCode takenCodes taken = true

/-- How the object store takes calls: its words, and which operations fail without effect. -/
structure Mood extends Wording where
  trouble : Operation → Option Fault

/-- A refusal with a code. -/
def coded (code operation : String) : Fault :=
  .store (.refused (.obj [("Error", .obj [("Code", .str code)])]) operation)

/-- The usual words. -/
def Wording.usual : Wording where
  missing := coded "404" "HeadBucket"
  taken := coded "BucketAlreadyOwnedByYou" "CreateBucket"
  missing_code := rfl
  taken_code := rfl

/-- Nothing fails but for what the bucket is like. -/
def Wording.calm (wording : Wording) : Mood := ⟨wording, fun _ => none⟩

/-- One operation fails besides. -/
def Wording.failing (wording : Wording) (operation : Operation) (fault : Fault) : Mood where
  toWording := wording
  trouble other := if other = operation then some fault else none

/-- A call that the object store received, and why it refused it if it did. -/
structure Received where
  call : Call
  refusal : Option Fault

namespace Received

/-- What a call makes of the bucket; a refused call makes nothing of it. -/
def apply (bucket : Bucket) : Received → Bucket
  | ⟨.createBucket _ _, none⟩ => { bucket with present := true }
  | ⟨.allowOrigins _ origins, none⟩ => { bucket with readers := some origins }
  | _ => bucket

/-- The bucket was made. -/
def made : Received → Bool
  | ⟨.createBucket _ _, none⟩ => true
  | _ => false

/-- Browsers were to be let in. -/
def opens : Received → Bool
  | ⟨.allowOrigins _ _, _⟩ => true
  | _ => false

/-- Browsers were to be let in, and that failed. -/
def denied : Received → Bool
  | ⟨.allowOrigins _ _, some _⟩ => true
  | _ => false

end Received

namespace Bucket

/-- Why the object store refuses a call of an operation, if it does. -/
def refusal? (bucket : Bucket) (mood : Mood) (operation : Operation) : Option Fault :=
  (mood.trouble operation).or <|
    match operation with
    | .headBucket => if bucket.present then none else some mood.missing
    | .createBucket => if bucket.present then some mood.taken else none
    | _ => none

/-- The answer to a call of an operation. -/
def answer (bucket : Bucket) (mood : Mood) (operation : Operation) : Except Fault Json :=
  match bucket.refusal? mood operation with
  | some fault => .error fault
  | none => .ok (.obj [])

/-- What is laid down for a call so that it is answered like this. -/
def behaviour (bucket : Bucket) (mood : Mood) (operation : Operation) : Behaviour :=
  match bucket.refusal? mood operation with
  | some fault => .fail fault
  | none => .reply (.obj [])

/-- What is laid down for the calls of one initialization. -/
def script (bucket : Bucket) (mood : Mood) : List (Operation × Behaviour) :=
  [.connect, .headBucket, .createBucket, .allowOrigins].map fun operation =>
    (operation, bucket.behaviour mood operation)

/-- What the object store does with a call about the bucket. Making a client is no such call. -/
def receive? (bucket : Bucket) (mood : Mood) (call : Call) : Option Received :=
  match call with
  | .headBucket _ => some ⟨call, bucket.refusal? mood .headBucket⟩
  | .createBucket _ _ => some ⟨call, bucket.refusal? mood .createBucket⟩
  | .allowOrigins _ _ => some ⟨call, bucket.refusal? mood .allowOrigins⟩
  | _ => none

/-- The bucket after calls. -/
def after (bucket : Bucket) (received : List Received) : Bucket :=
  received.foldl Received.apply bucket

/-- What came of work: its result, the site, and the calls that the object store received. -/
structure Met (α : Type) where
  result : α
  site : Site
  received : List Received

/-- The site, where the object store will answer for the bucket. -/
def face (bucket : Bucket) (mood : Mood) (site : Site) : Site :=
  { site with objects := { site.objects with script := bucket.script mood } }

/-- Runs work that meets the bucket as it is. -/
def meet {α : Type} (bucket : Bucket) (mood : Mood) (work : StateM Site α) (site : Site) : Met α :=
  let done := work.run (bucket.face mood site)
  ⟨done.1, done.2, (done.2.calls.drop site.calls.length).filterMap (bucket.receive? mood)⟩

/-- Calls that neither make the bucket nor are to let browsers in leave it as it is. -/
theorem after_of_quiet {bucket : Bucket} {received : List Received}
    (h : ∀ r ∈ received, r.made = false ∧ r.opens = false) : bucket.after received = bucket := by
  have happly : ∀ r : Received, r.made = false → r.opens = false → r.apply bucket = bucket := by
    rintro ⟨call, _ | fault⟩ hmade hopens
    · cases call with
      | createBucket => cases hmade
      | allowOrigins => cases hopens
      | _ => rfl
    · cases call <;> rfl
  induction received with
  | nil => rfl
  | cons r received ih =>
      obtain ⟨hr, hrest⟩ := List.forall_mem_cons.mp h
      rw [after, List.foldl_cons, happly r hr.1 hr.2]
      exact ih hrest

variable (bucket : Bucket) (mood : Mood)

/-- What is laid down for a call is the answer that the bucket has for it. -/
theorem answerOf_behaviour (operation : Operation) :
    Site.answerOf (.obj []) (some (bucket.behaviour mood operation)) =
      bucket.answer mood operation := by
  rw [behaviour, answer]
  split <;> rfl

/-- A step gets the answer that the bucket has for it. -/
theorem answerOf_face (site : Site) (step : Step) :
    Site.answerOf (.obj []) ((bucket.face mood site).objects.laidDown step.operation).head? =
      bucket.answer mood step.operation := by
  have hlaid : (bucket.face mood site).objects.laidDown step.operation =
      [bucket.behaviour mood step.operation] := by
    cases step <;> rfl
  rw [hlaid, List.head?_cons, answerOf_behaviour]

/-- What comes of work is its result, and the calls about the bucket are among those that it
makes. -/
theorem meet_eq {α : Type} {bucket : Bucket} {mood : Mood} {work : StateM Site α}
    {site after : Site}
    {result : α} {calls : List Call} (h : work.run (bucket.face mood site) = (result, after))
    (hcalls : after.calls = site.calls ++ calls) :
    bucket.meet mood work site = ⟨result, after, calls.filterMap (bucket.receive? mood)⟩ := by
  simp only [meet, h, hcalls, List.drop_left]

@[simp] theorem receive?_call (config : BucketConfig) (step : Step) :
    bucket.receive? mood (step.call config) =
      some ⟨step.call config, bucket.refusal? mood step.operation⟩ := by
  cases step <;> rfl

end Bucket

end Provisioning

/-! ### The parts of an initialization -/

namespace BucketHandler

open Provisioning

/-- What comes before the bucket: the configuration is read, and there is a client or one is
made. -/
def begin (raw : RawConfig) (given : Bool) (handler : BucketHandler) :
    StateM Site (BucketHandler × Except Failure Unit) := do
  match readConfig raw with
  | .error failure => return (handler, .error failure)
  | .ok config =>
    match ← if given then pure (.ok ()) else connect config with
    | .error failure => return ({ handler with config }, .error failure)
    | .ok _ => return (⟨config, true⟩, .ok ())

/-- **An initialization**, after its first part, is the steps to the bucket. -/
theorem run_init (raw : RawConfig) (given : Bool) (handler : BucketHandler) (site : Site) :
    (init raw given handler).run site =
      match (begin raw given handler).run site with
      | ((handler, .error failure), site) => ((handler, .error failure), site)
      | ((handler, .ok _), site) =>
        ((handler, ((provision handler.config steps).run site).1),
          ((provision handler.config steps).run site).2) := by
  rw [init, begin]
  cases readConfig raw with
  | error failure => rfl
  | ok config =>
      cases given with
      | true => rfl
      | false =>
          simp only [Bool.false_eq_true, if_false, StateM.run_bind]
          rcases (connect config).run site with ⟨failure | made, after⟩ <;> rfl

/-- The first part leaves the bucket alone: with a client that is there or can be made, the steps to
the bucket are due, and they find what is laid down for them. -/
theorem begin_spec {raw : RawConfig} {config : BucketConfig} (hvalid : readConfig raw = .ok config)
    (given : Bool) (handler : BucketHandler) (bucket : Bucket) (mood : Mood) (site : Site) :
    let begun := (begin raw given handler).run (bucket.face mood site)
    (begun.1 = (⟨config, true⟩, .ok ()) ∨
        mood.trouble .connect ≠ none ∧ ∃ failure, begun.1.2 = .error failure) ∧
      (∀ step : Step, Site.answerOf (.obj []) (begun.2.objects.laidDown step.operation).head? =
        bucket.answer mood step.operation) ∧
      ∃ calls, begun.2.calls = site.calls ++ calls ∧
        calls.filterMap (bucket.receive? mood) = [] := by
  intro begun
  cases given with
  | true =>
      have hbegun : begun = ((⟨config, true⟩, .ok ()), bucket.face mood site) := by
        simp only [begun, begin, hvalid]
        rfl
      rw [hbegun]
      exact ⟨.inl rfl, bucket.answerOf_face mood site, [], (List.append_nil _).symm, rfl⟩
  | false =>
      have hlaid : ((bucket.face mood site).objects.take .connect).1 =
          some (bucket.behaviour mood .connect) := rfl
      have hbegun : begun = ((match mood.trouble .connect with
          | none => (⟨config, true⟩, .ok ())
          | some fault => ({ handler with config }, .error (connectFailure fault))),
          (bucket.face mood site).called .connect (.connect (connectionOf config))) := by
        simp only [begun, begin, hvalid, Bool.false_eq_true, if_false, StateM.run_bind, connect,
          Site.run_ask, hlaid, Bucket.behaviour, Bucket.refusal?, Option.or_none]
        rcases mood.trouble .connect with _ | fault <;> rfl
      rw [hbegun]
      refine ⟨?_, fun step => ?_, [.connect (connectionOf config)], rfl, rfl⟩
      · rcases mood.trouble .connect with _ | fault
        · exact .inl rfl
        · exact .inr ⟨nofun, _, rfl⟩
      · have hne : step.operation ≠ .connect := by cases step <;> nofun
        rw [← bucket.answerOf_face mood site]
        exact congrArg (fun laid => Site.answerOf (.obj []) laid.head?)
          (ObjectStore.laidDown_take_of_ne _ hne)

end BucketHandler

end MediaDepot
