import MediaDepot.Proofs.Clashes
import MediaDepot.Proofs.Objects

/-!
# MediaDepot.Proofs.Stranding

**What a sweep leaves behind that no later sweep will find.** A sweep removes rows first and deletes
their objects afterwards. A folder deletes every file that is there. An object store may refuse keys
one by one, and an answer that is none ends the deletion, whatever batches are left
(`BucketHandler.deletedKeys`). `Handler.stored?_delete` says what is stored afterwards, and
`Service.sweep_strands_iff` that a sweep strands just the objects that it should have deleted and
did not: their rows are gone by then, whether or not the sweep fails.
-/

namespace MediaDepot

/-! ### Deleting objects -/

namespace BucketHandler

variable (handler : BucketHandler)

/-- The keys that an object store deletes, given what is laid down for its calls. An answer that
cannot be read ends the deletion. -/
def deletedKeys : List (List String) → List Behaviour → List String
  | [], _ => []
  | batch :: rest, behaviours =>
    let answer := Site.answerOf (.obj []) behaviours.head?
    Site.deleted batch answer ++ match answer.bind undeletedOf with
      | .error _ => []
      | .ok _ => deletedKeys rest behaviours.tail

/-- Deleting a batch is one call, whose answer is then read. -/
theorem run_deleteBatch_eq (hconnected : handler.connected = true) (batch : List String)
    (depot : Depot) :
    let asked := (Site.deleteObjects handler.config.bucket batch).run depot.site
    (handler.deleteBatch batch).run depot =
      (match asked.1 with
        | .error fault => .error (.ofCall "delete" (batch.headD "") fault)
        | .ok answer => (undeletedOf answer).mapError .fault, { depot with site := asked.2 }) := by
  rw [deleteBatch, Action.run_bind, withClient, if_pos hconnected, Action.run_ask]
  rcases (Site.deleteObjects handler.config.bucket batch).run depot.site with ⟨fault | answer, site⟩
  · rfl
  · dsimp only [Except.mapError]
    cases undeletedOf answer <;> rfl

/-- Deleting a batch goes on if its answer can be read. -/
theorem run_deleteBatch (hconnected : handler.connected = true) (batch : List String)
    (depot : Depot) :
    let asked := (Site.deleteObjects handler.config.bucket batch).run depot.site
    ∃ outcome, (handler.deleteBatch batch).run depot = (outcome, { depot with site := asked.2 }) ∧
      outcome.toOption = (asked.1.bind undeletedOf).toOption := by
  refine ⟨_, handler.run_deleteBatch_eq hconnected batch depot, ?_⟩
  rcases ((Site.deleteObjects handler.config.bucket batch).run depot.site).1 with fault | answer
  · rfl
  · dsimp only [Except.bind]
    cases undeletedOf answer <;> rfl

/-- **Deleting batch after batch** removes just these keys. -/
theorem lookup_deleteBatches (hconnected : handler.connected = true) (batches : List (List String))
    (depot : Depot) (key : String) :
    ((handler.deleteBatches batches).run depot).2.site.objects.objects.lookup key =
      if key ∈ deletedKeys batches (depot.site.objects.laidDown .deleteObjects) then none
      else depot.site.objects.objects.lookup key := by
  induction batches generalizing depot with
  | nil => simp [deleteBatches, deletedKeys]
  | cons batch rest ih =>
      obtain ⟨outcome, hrun, houtcome⟩ := handler.run_deleteBatch hconnected batch depot
      obtain ⟨hanswer, hlaid, hbatch⟩ :=
        Site.deleteObjects_spec handler.config.bucket batch depot.site
      generalize (Site.deleteObjects handler.config.bucket batch).run depot.site = asked at *
      obtain ⟨answer, site⟩ := asked
      dsimp only at hanswer hlaid hbatch houtcome
      rw [deleteBatches, Action.run_bind, hrun, deletedKeys, ← hanswer]
      cases hread : answer.bind undeletedOf with
      | error fault =>
          obtain ⟨failure, rfl⟩ : ∃ failure, outcome = .error failure := by
            cases outcome with
            | error failure => exact ⟨failure, rfl⟩
            | ok failures => simp [hread, Except.toOption] at houtcome
          simpa using hbatch key
      | ok failures =>
          obtain rfl : outcome = .ok failures := ok_of_toOption (by rw [houtcome, hread]; rfl)
          -- the batches after it meet with what is laid down after this one
          have hrest := ih { depot with site }
          dsimp only at hrest ⊢
          rw [Action.after_map, hrest, hlaid, hbatch]
          by_cases hkey : key ∈ Site.deleted batch answer <;> simp [hkey]

/-- A handler without a client deletes nothing. -/
theorem run_deleteBatches_of_unconnected (hconnected : handler.connected = false)
    (batches : List (List String)) (depot : Depot) :
    ((handler.deleteBatches batches).run depot).2 = depot := by
  cases batches with
  | nil => rfl
  | cons batch rest =>
      have hbatch : handler.deleteBatch batch = Action.fault (noClient "delete_objects") >>=
          fun answer =>
          Action.ofFault (undeletedOf answer) := by
        rw [deleteBatch, withClient, if_neg (by simp [hconnected])]
      rw [deleteBatches, hbatch]
      rfl

/-- What was not deleted is reported at the end. -/
theorem after_delete (locations : List String) (depot : Depot) :
    ((handler.delete locations).run depot).2 =
      ((handler.deleteBatches (batches locations)).run depot).2 := by
  rw [delete, Action.run_bind]
  rcases (handler.deleteBatches (batches locations)).run depot with ⟨failure | failures, after⟩
  · rfl
  · dsimp only
    split <;> rfl

end BucketHandler

/-! ### What is stored after a deletion -/

namespace Handler

variable (handler : Handler)

/-- What is stored at a location. -/
def stored? (site : Site) (location : String) : Option Bytes :=
  match handler with
  | .files handler => (handler.content location site.files).toOption
  | .bucket _ => site.objects.objects.lookup location

/-- The locations whose objects go if these are to be deleted. -/
def deletes (site : Site) (locations : List String) : List String :=
  match handler with
  | .files _ => locations
  | .bucket handler =>
    if handler.connected then
      BucketHandler.deletedKeys (batches locations) (site.objects.laidDown .deleteObjects)
    else []

/-- Notes do not change what is stored. -/
theorem stored?_of_noted {before after : Site} (h : Site.Noted before after) (location : String) :
    handler.stored? after location = handler.stored? before location := by
  cases handler with
  | files handler => rw [stored?, stored?, h.files]
  | bucket handler => rw [stored?, stored?, h.objects]

theorem deletes_of_noted {before after : Site} (h : Site.Noted before after)
    (locations : List String) :
    handler.deletes after locations = handler.deletes before locations := by
  cases handler with
  | files handler => rfl
  | bucket handler => rw [deletes, deletes, h.objects]

/-- **What is stored after a deletion.** -/
theorem stored?_delete (locations : List String) (depot : Depot) (location : String) :
    handler.stored? ((handler.delete locations).run depot).2.site location =
      if location ∈ handler.deletes depot.site locations then none
      else handler.stored? depot.site location := by
  cases handler with
  | files handler =>
      rw [show (files handler).deletes depot.site locations = locations from rfl]
      simp only [stored?, delete, LocalHandler.delete_after]
      by_cases hmem : location ∈ locations
      · rw [if_pos hmem]
        cases hafter : handler.content location
          (handler.deleteAll locations depot.site.files).1 with
        | error fault => rfl
        | ok content => exact absurd hafter (handler.content_deleteAll_of_mem hmem _ content)
      · rw [if_neg hmem]
        cases hafter : handler.content location
          (handler.deleteAll locations depot.site.files).1 with
        | ok content => rw [(handler.content_deleteAll_eq_ok_iff.mp hafter).2]
        | error fault =>
            cases hbefore : handler.content location depot.site.files with
            | error fault => rfl
            | ok content =>
                rw [handler.content_deleteAll_eq_ok_iff.mpr ⟨hmem, hbefore⟩] at hafter
                cases hafter
  | bucket handler =>
      simp only [stored?, delete, BucketHandler.after_delete]
      by_cases hconnected : handler.connected = true
      · rw [show (bucket handler).deletes depot.site locations = BucketHandler.deletedKeys
          (batches locations) (depot.site.objects.laidDown .deleteObjects) from if_pos hconnected]
        exact handler.lookup_deleteBatches hconnected _ depot location
      · rw [show (bucket handler).deletes depot.site locations = [] from if_neg hconnected,
          handler.run_deleteBatches_of_unconnected (by simpa using hconnected)]
        simp

end Handler

/-! ### What a sweep strands -/

namespace Service

variable {depot : Depot} {memory : Memory}

/-- The rows that a sweep takes: the first of those that are stale. -/
def swept (depot : Depot) (size age : Int) : List Record :=
  firstOf size (depot.records.rows.filter fun row => row.isStale (depot.site.epoch - age))

theorem swept_eq (h : depot.records.Holds memory) (size age : Int) :
    swept depot size age = memory.stale (depot.site.epoch - age) size := by
  rw [swept, h.rows_eq, Memory.stale]

/-- **A sweep, whether or not it fails**: it takes its rows out of the store, and what is stored
afterwards is what was stored before and did not go with their objects. -/
theorem sweep_spec (h : depot.records.Holds memory) (handler : Handler) (size age : Int) :
    let after := ((sweep handler size age).run depot).2
    let locations := (swept depot size age).map (·.staleLocation)
    after.records.Holds (memory.remove ((swept depot size age).map (·.id))) ∧
      ∀ location, handler.stored? after.site location =
        if location ∈ handler.deletes depot.site locations then none
        else handler.stored? depot.site location := by
  obtain ⟨tidied, ⟨-, hnoted⟩, hholds, hafter⟩ := sweep_after h handler size age
  rw [Memory.removeStale, ← swept_eq h] at hholds hafter
  refine ⟨hholds, fun location => ?_⟩
  rw [handler.stored?_of_noted hafter, handler.stored?_delete, handler.deletes_of_noted hnoted,
    handler.stored?_of_noted hnoted]

/-- **What a sweep strands**: an object that was stored is still stored and its row is gone just
when the row was taken and the object did not go with it. -/
theorem sweep_strands_iff (h : depot.Reachable) (handler : Handler) (size age : Int) {id : String}
    {row : Record} (hrow : depot.records.row? id = some row)
    (hstored : (handler.stored? depot.site row.staleLocation).isSome) :
    let after := ((sweep handler size age).run depot).2
    let taken := swept depot size age
    (handler.stored? after.site row.staleLocation).isSome ∧ after.records.row? id = none ↔
      row ∈ taken ∧ row.staleLocation ∉
        handler.deletes depot.site (taken.map (·.staleLocation)) := by
  obtain ⟨memory, hholds, hdistinct⟩ := h.exists_distinct
  obtain ⟨hafter, hleft⟩ := sweep_spec hholds handler size age
  rw [hholds.row?_eq] at hrow
  have htaken : id ∈ (swept depot size age).map (·.id) ↔ row ∈ swept depot size age := by
    rw [swept_eq hholds, ← Memory.id_of_get? hrow]
    exact hdistinct.id_mem_stale_iff (Memory.mem_of_get? hrow)
  intro after taken
  have hgone : after.records.row? id = none ↔ row ∈ taken := by
    rw [hafter.row?_eq, Memory.get?_remove, hrow]
    simp [htaken, taken]
  rw [hgone, hleft, and_comm]
  refine and_congr_right fun _ => ?_
  split <;> simp [*, taken]

/-- An object was stored, but the question after it was not answered, and so its upload failed. That
is long ago, and the store is out of reach again when the object is to be deleted. -/
def outOfReach : Depot :=
  let unreachable : Behaviour := .fail (.store (.unreachable "https://s3.example"))
  (System.run (.bucket ⟨{}, true⟩) [
    .upload ⟨5⟩ (.ofBytes [97, 98, 99]) (some "text/plain") none, .uploadOn 0, .uploadOn 0,
    .elsewhere fun site => { site with now := 5000 }] (System.idle (.memory {}) {
      objects := { script := [(.headObject, unreachable), (.deleteObjects, unreachable)] } })).depot

theorem reachable_outOfReach : outOfReach.Reachable :=
  ⟨.bucket ⟨{}, true⟩, _, .memory {}, _, rfl, rfl⟩

/-- The row of the failed upload, as it is found. -/
theorem row_outOfReach : ∃ row, outOfReach.records.row? "BQAAAAAAAAA" = some row ∧
    row.staleLocation = "auaaaaaaaaaaa" := by
  have hplace : (outOfReach.records.row? "BQAAAAAAAAA").map (·.staleLocation) =
      some "auaaaaaaaaaaa" := by decide +kernel
  exact Option.map_eq_some_iff.mp hplace

/-- The object of a failed upload is stranded when the store cannot be reached. -/
theorem sweep_strands_iff_of_outOfReach :
    ∃ row, outOfReach.records.row? "BQAAAAAAAAA" = some row ∧
      ((Handler.bucket ⟨{}, true⟩).stored? outOfReach.site row.staleLocation).isSome ∧
      let after := ((sweep (.bucket ⟨{}, true⟩) 10 100).run outOfReach).2
      let taken := swept outOfReach 10 100
      (((Handler.bucket ⟨{}, true⟩).stored? after.site row.staleLocation).isSome ∧
          after.records.row? "BQAAAAAAAAA" = none ↔
        row ∈ taken ∧ row.staleLocation ∉
          (Handler.bucket ⟨{}, true⟩).deletes outOfReach.site (taken.map (·.staleLocation))) := by
  obtain ⟨row, hrow, hplace⟩ := row_outOfReach
  have hstored : ((Handler.bucket ⟨{}, true⟩).stored? outOfReach.site
      row.staleLocation).isSome := by
    rw [hplace]
    decide +kernel
  exact ⟨row, hrow, hstored, sweep_strands_iff reachable_outOfReach (.bucket ⟨{}, true⟩) 10 100 hrow
    hstored⟩

/-- A sweep that fails leaves an object behind that has no row any more. -/
theorem failed_sweep_strands_object :
    ¬ ∀ (depot : Depot) (handler : Handler) (size age : Int) (id : String) (row : Record),
      depot.Reachable → depot.records.row? id = some row →
        ((sweep handler size age).run depot).1.toOption = none →
          (handler.stored? ((sweep handler size age).run depot).2.site row.staleLocation).isSome →
            (((sweep handler size age).run depot).2.records.row? id).isSome := by
  intro claimed
  obtain ⟨row, hrow, hplace⟩ := row_outOfReach
  have hfails : ((sweep (.bucket ⟨{}, true⟩) 10 100).run outOfReach).1.toOption = none := by
    decide +kernel
  have hstays : ((Handler.bucket ⟨{}, true⟩).stored?
      ((sweep (.bucket ⟨{}, true⟩) 10 100).run outOfReach).2.site row.staleLocation).isSome := by
    rw [hplace]
    decide +kernel
  have hgone : ((sweep (.bucket ⟨{}, true⟩) 10 100).run outOfReach).2.records.rows = [] := by
    decide +kernel
  have hkept := claimed outOfReach (.bucket ⟨{}, true⟩) 10 100 "BQAAAAAAAAA" row
    reachable_outOfReach hrow hfails hstays
  rw [RecordStore.row?, hgone] at hkept
  cases hkept

end Service

end MediaDepot
