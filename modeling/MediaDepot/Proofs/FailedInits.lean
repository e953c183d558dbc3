import MediaDepot.Proofs.Buckets
import MediaDepot.Proofs.Transfers

/-!
# MediaDepot.Proofs.FailedInits

**What a failed initialization leaves.** A handler takes its configuration before it sees to the
folder or the bucket, and nothing is taken back. So a failure is one of two kinds. If the
configuration is refused, then nothing has changed, neither the handler nor anything else. Otherwise
the handler is left as a success would have left it (`EquippedHandler.equipped`), with one
exception: where no client could be made, the new configuration stands beside the client that was
there before (`failed_init_leaves`).

A `BucketHandler` tells only whether it has a client. An `EquippedHandler` tells which one;
`EquippedHandler.plain_init` says that its initialization is the other one, seen more closely.
-/

namespace MediaDepot

/-- A client for the object store: one that was handed over, or one that was made to reach it in
this way. -/
inductive Client where
  | given (number : Nat)
  | made (connection : Connection)
  deriving DecidableEq, Repr

/-- A handler that keeps files in a bucket, with the client that it uses. -/
structure EquippedHandler where
  config : BucketConfig := {}
  client : Option Client := none
  deriving DecidableEq, Repr

namespace LocalHandler

variable {raw : RawConfig} {handler after : LocalHandler} {site later : Site}

/-- **How the initialization of a folder's handler fails**: its configuration is refused, or its
folder cannot be made. -/
theorem init_failed {failure : Failure}
    (h : (init raw handler).run site = ((after, .error failure), later)) :
    LocalConfig.parse raw = .error failure ∧ after = handler ∧ later = site ∨
      ∃ config fault, LocalConfig.parse raw = .ok config ∧ failure = .fault fault ∧
        after = ⟨config⟩ ∧ (site.files.makeFolders after.root).2 = .error fault := by
  rw [init] at h
  cases hparse : LocalConfig.parse raw with
  | error refusal =>
      rw [hparse] at h
      cases h
      exact .inl ⟨rfl, rfl, rfl⟩
  | ok config =>
      simp only [hparse, StateM.run_bind, run_changeFiles] at h
      cases hmade : (site.files.makeFolders (root ⟨config⟩)).2 with
      | ok made =>
          rw [hmade] at h
          cases h
      | error fault =>
          rw [hmade] at h
          cases h
          exact .inr ⟨config, fault, rfl, rfl, rfl, hmade⟩

/-- A success leaves the configuration that was read. -/
theorem init_ok {config : LocalConfig} (hparse : LocalConfig.parse raw = .ok config)
    (h : (init raw handler).run site = ((after, .ok ()), later)) : after = ⟨config⟩ := by
  rw [init, hparse] at h
  exact (congrArg (fun done => done.1.1) h).symm

end LocalHandler

namespace EquippedHandler

open BucketHandler Provisioning

/-- The handler, where it does not matter which client it uses. -/
def plain (handler : EquippedHandler) : BucketHandler := ⟨handler.config, handler.client.isSome⟩

/-- The client for a configuration: the one that is given, or else a new one. -/
def clientFor (config : BucketConfig) : Option Client → StateM Site (Except Failure Client)
  | some client => return .ok client
  | none => do
    let outcome ← connect config
    return outcome.map fun _ => .made (connectionOf config)

/-- Takes a new configuration, and a client that is given or made. -/
def init (raw : RawConfig) (given : Option Client) (handler : EquippedHandler) :
    StateM Site (EquippedHandler × Except Failure Unit) := do
  match readConfig raw with
  | .error failure => return (handler, .error failure)
  | .ok config =>
    match ← clientFor config given with
    | .error failure => return ({ handler with config }, .error failure)
    | .ok client => return (⟨config, some client⟩, ← provision config steps)

/-- The handler that has a configuration and its client. -/
def equipped (config : BucketConfig) (given : Option Client) : EquippedHandler :=
  ⟨config, some (given.getD (.made (connectionOf config)))⟩

variable {raw : RawConfig} {config : BucketConfig} {given : Option Client}
  {handler after : EquippedHandler} {site later : Site}

/-- **Seen from afar**, it is the initialization that takes no note of the client. -/
theorem plain_init (raw : RawConfig) (given : Option Client) (handler : EquippedHandler)
    (site : Site) : (handler.plain.init raw given.isSome).run site =
      let ((after, outcome), later) := (handler.init raw given).run site
      ((after.plain, outcome), later) := by
  rw [BucketHandler.init, init]
  cases readConfig raw with
  | error failure => rfl
  | ok config =>
      cases given with
      | some client => rfl
      | none =>
          simp only [clientFor, Option.isSome_none, Bool.false_eq_true, if_false, StateM.run_bind]
          rcases (connect config).run site with ⟨failure | made, reached⟩ <;> rfl

/-- With a configuration that can be used, either no client could be made, or the handler is
equipped and what comes of it is what comes of the steps to the bucket. -/
theorem run_init_of_readConfig (hread : readConfig raw = .ok config) (given : Option Client)
    (handler : EquippedHandler) (site : Site) :
    (∃ failure later, given = none ∧ (connect config).run site = (.error failure, later) ∧
        (init raw given handler).run site = (({ handler with config }, .error failure), later)) ∨
      ∃ reached, (init raw given handler).run site =
        ((equipped config given, ((provision config steps).run reached).1),
          ((provision config steps).run reached).2) := by
  rw [init, hread]
  cases given with
  | some client => exact .inr ⟨site, rfl⟩
  | none =>
      simp only [clientFor, StateM.run_bind]
      rcases (connect config).run site with ⟨failure | made, reached⟩
      · exact .inl ⟨failure, reached, trivial, rfl, rfl⟩
      · exact .inr ⟨reached, rfl⟩

/-- **How the initialization of a bucket's handler fails**: its configuration is refused, or no
client can be made, or a step to the bucket fails. -/
theorem init_failed {failure : Failure}
    (h : (init raw given handler).run site = ((after, .error failure), later)) :
    readConfig raw = .error failure ∧ after = handler ∧ later = site ∨
      ∃ config, readConfig raw = .ok config ∧
        (given = none ∧ (connect config).run site = (.error failure, later) ∧
          after = { handler with config } ∨
          (∃ reached, (provision config steps).run reached = (.error failure, later)) ∧
            after = equipped config given) := by
  cases hread : readConfig raw with
  | error refusal =>
      rw [init, hread] at h
      cases h
      exact .inl ⟨rfl, rfl, rfl⟩
  | ok config =>
      refine .inr ⟨config, rfl, ?_⟩
      rcases run_init_of_readConfig hread given handler site with
        ⟨_, _, hgiven, hconnect, hrun⟩ | ⟨reached, hrun⟩
      · cases h.symm.trans hrun
        exact .inl ⟨hgiven, hconnect, rfl⟩
      · have hsame := h.symm.trans hrun
        have hstep := congrArg (fun done => (done.1.2, done.2)) hsame
        exact .inr ⟨⟨reached, hstep.symm⟩, congrArg (fun done => done.1.1) hsame⟩

/-- A success leaves the handler equipped. -/
theorem init_ok (hread : readConfig raw = .ok config)
    (h : (init raw given handler).run site = ((after, .ok ()), later)) :
    after = equipped config given := by
  rcases run_init_of_readConfig hread given handler site with ⟨_, _, -, -, hrun⟩ | ⟨_, hrun⟩
  · cases h.symm.trans hrun
  · exact congrArg (fun done => done.1.1) (h.symm.trans hrun)

end EquippedHandler

/-! ### What is left -/

/-- A configuration for a folder as well as for a bucket. -/
def movedRaw : RawConfig :=
  .document [("serve_url", .str "/n/"), ("upload_dir", .str "b/c"), ("access_key_id", .str "a"),
    ("secret_access_key", .str "s"), ("region", .str "us-east-1"), ("bucket", .str "pictures")]

/-- What it says of a folder. -/
def movedFolder : LocalConfig := { serveUrl := "/n/", uploadDir := "b/c" }

/-- What it says of a bucket. -/
def movedBucket : BucketConfig :=
  { serveUrl := "/n/", accessKey := "a", secretKey := "s", region := "us-east-1",
    bucket := "pictures" }

/-- A site with a file in the way of the folder, where no client can be made and the bucket is not
shown. -/
def obstructed : Site where
  files := ⟨[(["tmp", "site", "b"], .file [])]⟩
  objects := { script := [(.connect, .fail (.value .nulInPath)),
    (.headBucket, .fail (Provisioning.coded "403" "HeadBucket"))] }

/-- **What a failed initialization leaves.** If the configuration is refused, nothing has changed. A
folder that cannot be made and a bucket that cannot be seen to leave the handler as every success
with this configuration leaves it. Where no client can be made, the handler has the new
configuration and still the client that it had. -/
theorem failed_init_leaves (raw : RawConfig) (site : Site) :
    (∀ (handler after : LocalHandler) (failure : Failure) (later : Site),
      (handler.init raw).run site = ((after, .error failure), later) →
        LocalConfig.parse raw = .error failure ∧ after = handler ∧ later = site ∨
          ∃ config fault, LocalConfig.parse raw = .ok config ∧ failure = .fault fault ∧
            (site.files.makeFolders after.root).2 = .error fault ∧ after.config = config ∧
            ∀ (other made : LocalHandler) (elsewhere done : Site),
              (other.init raw).run elsewhere = ((made, .ok ()), done) → made = after) ∧
      ∀ (given : Option Client) (handler after : EquippedHandler) (failure : Failure)
        (later : Site), (handler.init raw given).run site = ((after, .error failure), later) →
          (handler.plain.init raw given.isSome).run site = ((after.plain, .error failure), later) ∧
            (BucketHandler.readConfig raw = .error failure ∧ after = handler ∧ later = site ∨
              ∃ config, BucketHandler.readConfig raw = .ok config ∧ after.config = config ∧
                (given = none ∧ (BucketHandler.connect config).run site = (.error failure, later) ∧
                    after.client = handler.client ∨
                  (∃ reached, (Provisioning.provision config Provisioning.steps).run reached =
                      (.error failure, later)) ∧
                    ∀ (other made : EquippedHandler) (elsewhere done : Site),
                      (other.init raw given).run elsewhere = ((made, .ok ()), done) →
                        made = after)) := by
  constructor
  · intro handler after failure later h
    rcases LocalHandler.init_failed h with hrefused | ⟨config, fault, hparse, hfailure, rfl, hmade⟩
    · exact .inl hrefused
    · exact .inr ⟨config, fault, hparse, hfailure, hmade, rfl,
        fun _ _ _ _ => LocalHandler.init_ok hparse⟩
  · intro given handler after failure later h
    refine ⟨by rw [EquippedHandler.plain_init, h], ?_⟩
    rcases EquippedHandler.init_failed h with
      hrefused | ⟨config, hread, ⟨hgiven, hconnect, rfl⟩ | ⟨hstep, rfl⟩⟩
    · exact .inl hrefused
    · exact .inr ⟨config, hread, rfl, .inl ⟨hgiven, hconnect, rfl⟩⟩
    · exact .inr ⟨config, hread, rfl, .inr ⟨hstep, fun _ _ _ _ => EquippedHandler.init_ok hread⟩⟩

/-- Three failures: of a folder, of making a client, and of the look at the bucket. -/
theorem failed_init_leaves_moved :
    (∃ fault later, (LocalHandler.init movedRaw {}).run obstructed =
      ((⟨movedFolder⟩, .error fault), later) ∧
      ∀ (other made : LocalHandler) (elsewhere done : Site),
        (other.init movedRaw).run elsewhere = ((made, .ok ()), done) → made = ⟨movedFolder⟩) ∧
    (∃ failure later,
      (EquippedHandler.init movedRaw none ⟨{}, some (.given 1)⟩).run obstructed =
          ((⟨movedBucket, some (.given 1)⟩, .error failure), later) ∧
        (BucketHandler.connect movedBucket).run obstructed = (.error failure, later)) ∧
    ∃ failure later,
      (EquippedHandler.init movedRaw (some (.given 2)) ⟨{}, some (.given 1)⟩).run obstructed =
          ((⟨movedBucket, some (.given 2)⟩, .error failure), later) ∧
        ∀ (other made : EquippedHandler) (elsewhere done : Site),
          (other.init movedRaw (some (.given 2))).run elsewhere = ((made, .ok ()), done) →
            made = ⟨movedBucket, some (.given 2)⟩ := by
  have hread : BucketHandler.readConfig movedRaw = .ok movedBucket := rfl
  obtain ⟨hfolder, hbucket⟩ := failed_init_leaves movedRaw obstructed
  refine ⟨⟨_, _, rfl, ?_⟩, ⟨_, _, rfl, ?_⟩, ⟨_, _, rfl, ?_⟩⟩
  · rcases hfolder {} ⟨movedFolder⟩ _ _ rfl with
      ⟨hrefused, -, -⟩ | ⟨config, fault, hparse, -, -, hafter, hmade⟩
    · cases hrefused
    · exact hmade
  · obtain ⟨-, ⟨hrefused, -, -⟩ | ⟨config, hconfig, -, ⟨-, hconnect, -⟩ | ⟨-, hmade⟩⟩⟩ :=
      hbucket none ⟨{}, some (.given 1)⟩ ⟨movedBucket, some (.given 1)⟩ _ _ rfl
    · cases hrefused
    · cases hread.symm.trans hconfig
      exact hconnect
    · -- a success makes another client
      cases hmade {} _ {} _ rfl
  · obtain ⟨-, ⟨hrefused, -, -⟩ | ⟨config, hconfig, -, ⟨hgiven, -, -⟩ | ⟨-, hmade⟩⟩⟩ :=
      hbucket (some (.given 2)) ⟨{}, some (.given 1)⟩ ⟨movedBucket, some (.given 2)⟩ _ _ rfl
    · cases hrefused
    · cases hgiven
    · exact hmade

/-- A failure that is not the configuration's changes a handler: a URL that led to a file leads
nowhere afterwards. -/
theorem failed_init_changes_handlers :
    (∃ fault later, (LocalHandler.init movedRaw {}).run obstructed =
      ((⟨movedFolder⟩, .error fault), later)) ∧
    (∃ failure later,
      (EquippedHandler.init movedRaw none ⟨{}, some (.given 1)⟩).run obstructed =
        ((⟨movedBucket, some (.given 1)⟩, .error failure), later)) ∧
    (∃ failure later,
      (EquippedHandler.init movedRaw (some (.given 2)) ⟨{}, some (.given 1)⟩).run obstructed =
        ((⟨movedBucket, some (.given 2)⟩, .error failure), later)) ∧
    LocalHandler.root ⟨movedFolder⟩ ≠ LocalHandler.root {} ∧
    Uid.ofUrl "/v0/file/s/BQAAAAAAAAA" ({} : LocalConfig).serveUrl = .ok ⟨5⟩ ∧
    Uid.ofUrl "/v0/file/s/BQAAAAAAAAA" movedFolder.serveUrl = .ok ⟨0⟩ ∧
    Uid.ofUrl "/v0/file/s/BQAAAAAAAAA" movedBucket.serveUrl = .ok ⟨0⟩ :=
  ⟨⟨_, _, rfl⟩, ⟨_, _, rfl⟩,
    ⟨_, _, rfl⟩, by decide, by decide +kernel, by decide +kernel, by decide +kernel⟩

end MediaDepot
