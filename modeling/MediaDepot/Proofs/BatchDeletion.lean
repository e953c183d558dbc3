import MediaDepot.Proofs.BucketUploads
import MediaDepot.Proofs.ObjectKeys
import MediaDepot.Proofs.Stranding

/-!
# MediaDepot.Proofs.BatchDeletion

**A deletion covers every key once and reports exactly the failures.** The keys go out in groups of
a thousand (`Covers`). One batch is one call (`BucketHandler.run_deleteBatch_eq`), so by induction
on the groups the calls are those of all groups, and what is reported is what their answers report,
in their order (`BucketHandler.run_deleteBatches_of_answered`), or the calls end with the first that
fails (`BucketHandler.run_deleteBatches_of_failed`).
-/

namespace MediaDepot

/-! ### Groups of keys -/

/-- **The groups cover the keys**: one after the other they are the keys, none is empty or holds
more than a thousand, and all but the last hold a thousand. -/
structure Covers (keys : List String) (groups : List (List String)) : Prop where
  all : groups.flatten = keys
  size : ∀ group ∈ groups, 1 ≤ group.length ∧ group.length ≤ 1000
  full : ∀ group ∈ groups.dropLast, group.length = 1000

theorem length_of_mem_batches {keys group : List String} (h : group ∈ batches keys) :
    1 ≤ group.length ∧ group.length ≤ 1000 := by
  induction keys using batches.induct with
  | case1 => simp [batches] at h
  | case2 key rest ih =>
      rw [batches] at h
      rcases List.mem_cons.mp h with rfl | h
      · simp only [List.length_cons, List.length_take]
        omega
      · exact ih h

theorem length_of_mem_dropLast_batches {keys group : List String}
    (h : group ∈ (batches keys).dropLast) : group.length = 1000 := by
  induction keys using batches.induct with
  | case1 => simp [batches] at h
  | case2 key rest ih =>
      rw [batches] at h
      by_cases hlast : rest.drop 999 = []
      · simp [hlast, batches] at h
      · have hnonempty : batches (rest.drop 999) ≠ [] := fun hnil => hlast (by
          rw [← flatten_batches (rest.drop 999), hnil, List.flatten_nil])
        rw [List.dropLast_cons_of_ne_nil hnonempty] at h
        rcases List.mem_cons.mp h with rfl | h
        · -- keys are left over, so the group is full
          have hmore : 999 < rest.length := by
            simpa using hlast
          simp only [List.length_cons, List.length_take]
          omega
        · exact ih h

theorem covers_batches (keys : List String) : Covers keys (batches keys) :=
  ⟨flatten_batches keys, fun _ => length_of_mem_batches, fun _ => length_of_mem_dropLast_batches⟩

/-- Keys can be covered in one way only. -/
theorem Covers.eq_batches {keys : List String} {groups : List (List String)}
    (h : Covers keys groups) : groups = batches keys := by
  induction groups generalizing keys with
  | nil =>
      obtain rfl : [] = keys := h.all
      simp [batches]
  | cons group rest ih =>
      obtain ⟨hall, hsize, hfull⟩ := h
      obtain ⟨⟨hpos, hle⟩, hsizes⟩ := List.forall_mem_cons.mp hsize
      obtain ⟨key, more, rfl⟩ := List.exists_cons_of_length_pos hpos
      rw [List.flatten_cons, List.cons_append] at hall
      rw [List.length_cons] at hle
      subst hall
      -- the group is what a call takes off the keys, and the rest covers what is left
      have hcut : (more ++ rest.flatten).take 999 = more ∧
          (more ++ rest.flatten).drop 999 = rest.flatten := by
        by_cases hlast : rest = []
        · subst hlast
          have hshort : more.length ≤ 999 := Nat.le_of_succ_le_succ hle
          simp [List.take_of_length_le hshort, List.drop_of_length_le hshort]
        · rw [List.dropLast_cons_of_ne_nil hlast] at hfull
          have hlength : more.length = 999 := Nat.succ.inj (hfull _ List.mem_cons_self)
          exact ⟨List.take_left' hlength, List.drop_left' hlength⟩
      have hrest : Covers rest.flatten rest := by
        refine ⟨rfl, hsizes, fun other hother => hfull other ?_⟩
        have hnonempty : rest ≠ [] := by
          rintro rfl
          cases hother
        rw [List.dropLast_cons_of_ne_nil hnonempty]
        exact List.mem_cons_of_mem _ hother
      rw [batches, hcut.1, hcut.2, ← ih hrest]

/-! ### Answers -/

/-- **The answer reads as object stores write it**: it has fields, and its errors are a list of
entries with fields, if they are there. -/
def ListsErrors (answer : Json) : Prop :=
  ∃ fields, answer = .obj fields ∧ ∀ value, Fields.get? fields "Errors" = some value →
    value = .null ∨ ∃ entries, value = .arr entries ∧ ∀ entry ∈ entries, ∃ shown, entry = .obj shown

/-- The entries of an answer. -/
def Json.errorEntries (answer : Json) : List Json :=
  match answer.get? "Errors" with
  | some (.arr entries) => entries
  | _ => []

/-- A field of an entry in writing. -/
def Json.written (entry : Json) (name : String) : String := (entry.get? name).elim "" Json.display

/-- The entry says that an object could not be deleted, and not that there was none. -/
def Json.IsFailure (entry : Json) : Prop :=
  entry.written "Code" ≠ "NoSuchKey" ∧ entry.written "Code" ≠ "NotFound"

instance (entry : Json) : Decidable entry.IsFailure := inferInstanceAs (Decidable (_ ∧ _))

/-- What an entry says of its object. -/
def Json.undeleted (entry : Json) : Undeleted :=
  .of (entry.written "Key") (entry.written "Code") (entry.written "Message")

/-- **What an answer reports**: all failures among its entries, in their order. -/
def Json.reported (answer : Json) : List Undeleted :=
  (answer.errorEntries.filter (·.IsFailure)).map Json.undeleted

namespace BucketHandler

/-- An entry with fields is read as a failure or as nothing. -/
theorem undeleted?_obj (fields : Fields) :
    undeleted? (.obj fields) =
      .ok (if (Json.obj fields).IsFailure then some (Json.obj fields).undeleted else none) := by
  have hshown (name : String) : shownField (.obj fields) name = (Json.obj fields).written name := by
    unfold shownField Json.written
    cases (Json.obj fields).get? name <;> rfl
  by_cases hnone : (Json.obj fields).written "Code" = "NoSuchKey"
  · simp [undeleted?, hshown, Json.IsFailure, missingKeyCodes, hnone]
  · by_cases hmissing : (Json.obj fields).written "Code" = "NotFound"
    · simp [undeleted?, hshown, Json.IsFailure, missingKeyCodes, hmissing]
    · simp [undeleted?, hshown, Json.IsFailure, Json.undeleted, missingKeyCodes, hnone, hmissing]

theorem mapM_undeleted? {entries : List Json}
    (h : ∀ entry ∈ entries, ∃ fields, entry = .obj fields) :
    (entries.mapM undeleted?).map (·.filterMap id) =
      .ok ((entries.filter (·.IsFailure)).map Json.undeleted) := by
  induction entries with
  | nil => rfl
  | cons entry rest ih =>
      obtain ⟨⟨fields, rfl⟩, hrest⟩ := List.forall_mem_cons.mp h
      have hread := ih hrest
      rcases hmapped : rest.mapM undeleted? with fault | read
      all_goals rw [hmapped] at hread
      · cases hread
      · have hread : read.filterMap id = _ := Except.ok.inj hread
        rw [List.mapM_cons, undeleted?_obj, hmapped]
        by_cases hfailure : (Json.obj fields).IsFailure
        · rw [if_pos hfailure, List.filter_cons_of_pos (by simpa using hfailure), List.map_cons,
            ← hread]
          rfl
        · rw [if_neg hfailure, List.filter_cons_of_neg (by simpa using hfailure), ← hread]
          rfl

/-- An answer in the usual form is read as what it reports. -/
theorem undeletedOf_of_listsErrors {answer : Json} (h : ListsErrors answer) :
    undeletedOf answer = .ok answer.reported := by
  obtain ⟨fields, rfl, hfields⟩ := h
  -- the entries that are read are those that count, and all of them have fields
  have hentries : errorEntries (.obj fields) = .ok (Json.obj fields).errorEntries ∧
      ∀ entry ∈ (Json.obj fields).errorEntries, ∃ shown, entry = .obj shown := by
    rcases herrors : Fields.get? fields "Errors" with _ | value
    · simp [errorEntries, Json.errorEntries, Json.get?, herrors]
    · rcases hfields value herrors with rfl | ⟨entries, rfl, hentries⟩
      · simp [errorEntries, Json.errorEntries, Json.get?, herrors, Json.isTruthy]
      · simpa [errorEntries, Json.errorEntries, Json.get?, herrors] using hentries
  rw [undeletedOf, hentries.1, Json.reported, ← mapM_undeleted? hentries.2]
  rfl

end BucketHandler

/-- What the object store answers to the calls that delete objects, in their order. -/
def ObjectStore.deletionAnswer (store : ObjectStore) (i : Nat) : Except Fault Json :=
  Site.answerOf (.obj []) (store.laidDown .deleteObjects)[i]?

/-- A call that deletes objects takes the first answer. -/
theorem Site.run_deleteObjects_answer (bucket : String) (keys : List String) (site : Site) :
    let asked := (deleteObjects bucket keys).run site
    asked.1 = site.objects.deletionAnswer 0 ∧
      (∀ i, asked.2.objects.deletionAnswer i = site.objects.deletionAnswer (i + 1)) ∧
      asked.2.calls = site.calls ++ [.deleteObjects bucket keys] := by
  intro asked
  obtain ⟨hanswer, hlaid, -⟩ := deleteObjects_spec bucket keys site
  refine ⟨?_, fun i => ?_, ?_⟩
  · rw [ObjectStore.deletionAnswer, ← List.head?_eq_getElem?]
    exact hanswer
  · rw [ObjectStore.deletionAnswer, ObjectStore.deletionAnswer, ← List.getElem?_tail]
    exact congrArg (fun laid : List Behaviour => answerOf (.obj []) laid[i]?) hlaid
  · simp only [asked, run_deleteObjects]
    rfl

/-! ### Batch after batch -/

/-- What is reported by the answer to a call; a call that failed reports nothing. -/
def reportedBy : Except Fault Json → List Undeleted
  | .ok answer => answer.reported
  | .error _ => []

/-- The call was answered in the usual form. -/
def IsAnswered (answer : Except Fault Json) : Prop :=
  ∃ listed, answer = .ok listed ∧ ListsErrors listed

namespace BucketHandler

variable {handler : BucketHandler}

/-- The first batch is answered: what it reports is kept, and the others find the other answers. -/
theorem run_deleteBatches_cons (connected : handler.connected = true) (group : List String)
    (rest : List (List String)) {depot : Depot}
    (h : IsAnswered (depot.site.objects.deletionAnswer 0)) :
    ∃ site : Site, site.calls = depot.site.calls ++ [.deleteObjects handler.config.bucket group] ∧
      (∀ i, site.objects.deletionAnswer i = depot.site.objects.deletionAnswer (i + 1)) ∧
      (handler.deleteBatches (group :: rest)).run depot =
        let done := (handler.deleteBatches rest).run { depot with site }
        (done.1.map (reportedBy (depot.site.objects.deletionAnswer 0) ++ ·), done.2) := by
  obtain ⟨answer, hok, hlists⟩ := h
  obtain ⟨hanswer, hlater, hcalls⟩ :=
    Site.run_deleteObjects_answer handler.config.bucket group depot.site
  refine ⟨_, hcalls, hlater, ?_⟩
  rw [deleteBatches, Action.run_bind, handler.run_deleteBatch_eq connected, hanswer, hok]
  dsimp only
  rw [undeletedOf_of_listsErrors hlists]
  dsimp only [Except.mapError]
  rw [Action.run_bind]
  rcases (handler.deleteBatches rest).run _ with ⟨failure | more, after⟩ <;> rfl

/-- **Every batch is answered**: one call is made for each, and all that the answers report is
kept. -/
theorem run_deleteBatches_of_answered (connected : handler.connected = true)
    {groups : List (List String)} {depot : Depot}
    (h : ∀ i < groups.length, IsAnswered (depot.site.objects.deletionAnswer i)) :
    let done := (handler.deleteBatches groups).run depot
    done.1 = .ok ((List.range groups.length).flatMap fun i =>
        reportedBy (depot.site.objects.deletionAnswer i)) ∧
      done.2.site.calls = depot.site.calls ++
        groups.map (.deleteObjects handler.config.bucket) := by
  induction groups generalizing depot with
  | nil => exact ⟨rfl, (List.append_nil _).symm⟩
  | cons group rest ih =>
      obtain ⟨site, hcalls, hlater, hrun⟩ := run_deleteBatches_cons connected group rest
        (h 0 (Nat.zero_lt_succ _))
      obtain ⟨hreported, hmore⟩ := @ih { depot with site } fun i hi =>
        (hlater i).symm ▸ h (i + 1) (Nat.succ_lt_succ hi)
      rw [hrun]
      dsimp only at hreported hmore ⊢
      rw [hreported, hmore, hcalls, List.length_cons, List.range_succ_eq_map, List.flatMap_cons,
        List.flatMap_map]
      exact ⟨by simp [Except.map, hlater], by simp⟩

/-- **A batch is not answered**: the calls end with it. -/
theorem run_deleteBatches_of_failed (connected : handler.connected = true)
    {groups : List (List String)} {depot : Depot} {j : Nat} {group : List String} {fault : Fault}
    (hgroup : groups[j]? = some group)
    (h : ∀ i < j, IsAnswered (depot.site.objects.deletionAnswer i))
    (hfault : depot.site.objects.deletionAnswer j = .error fault) :
    let done := (handler.deleteBatches groups).run depot
    done.1 = .error (.ofCall "delete" (group.headD "") fault) ∧
      done.2.site.calls = depot.site.calls ++
        (groups.take (j + 1)).map (.deleteObjects handler.config.bucket) := by
  induction groups generalizing depot j with
  | nil => cases hgroup
  | cons first rest ih =>
      cases j with
      | zero =>
          obtain rfl : first = group := Option.some.inj hgroup
          obtain ⟨hanswer, -, hcalls⟩ :=
            Site.run_deleteObjects_answer handler.config.bucket first depot.site
          rw [deleteBatches, Action.run_bind, handler.run_deleteBatch_eq connected, hanswer, hfault]
          exact ⟨rfl, hcalls⟩
      | succ j =>
          obtain ⟨site, hcalls, hlater, hrun⟩ := run_deleteBatches_cons connected first rest
            (h 0 (Nat.zero_lt_succ _))
          obtain ⟨hfailed, hmore⟩ := @ih { depot with site } j hgroup
            (fun i hi => (hlater i).symm ▸ h (i + 1) (Nat.succ_lt_succ hi))
              ((hlater j).trans hfault)
          rw [hrun]
          dsimp only at hfailed hmore ⊢
          rw [hfailed, hmore, hcalls]
          exact ⟨rfl, by simp⟩

/-- **What a fault of a call is reported as**: a refusal of the object store is trouble of the
storage, and anything else stays what it is. -/
theorem ofCall_spec (operation key : String) (fault : Fault) :
    if fault.isStoreRefusal then (Failure.ofCall operation key fault).Wraps operation key fault
    else Failure.ofCall operation key fault = .fault fault := by
  unfold Failure.ofCall
  split
  · exact Failure.wraps_backend operation key fault
  · rfl

/-- A deletion ends as its batches do, and fails if they report failures. -/
theorem outcome_delete (handler : BucketHandler) (locations : List String) (depot : Depot) :
    ((handler.delete locations).run depot).1 =
      (((handler.deleteBatches (batches locations)).run depot).1.bind fun failures =>
        if failures = [] then .ok ⟨⟩ else .error (.media (.batch failures))) := by
  rw [delete, Action.run_bind]
  rcases (handler.deleteBatches (batches locations)).run depot with ⟨failure | failures, after⟩
  · rfl
  · cases failures <;> rfl

/-- **A deletion covers every key once and reports exactly the failures.** If no call fails, then
there is one for each group of keys, and the deletion fails just if an answer reports a failure,
with all of them in their order. If one fails, no more are made, and the deletion fails for that
reason. -/
theorem delete_covers_keys (handler : BucketHandler) (connected : handler.connected = true)
    (locations : List String) {depot : Depot}
    (readable : ∀ i answer, depot.site.objects.deletionAnswer i = .ok answer → ListsErrors answer) :
    let answers := depot.site.objects.deletionAnswer
    let done := (handler.delete locations).run depot
    (locations = [] → done = (.ok ⟨⟩, depot)) ∧
      ∃ groups, Covers locations groups ∧
        ((∀ i < groups.length, ∀ fault, answers i ≠ .error fault) →
          let failures := (List.range groups.length).flatMap fun i => reportedBy (answers i)
          done.2.site.calls =
              depot.site.calls ++ groups.map (.deleteObjects handler.config.bucket) ∧
            (failures = [] → done.1 = .ok ⟨⟩) ∧
            (failures ≠ [] → done.1 = .error (.media (.batch failures)))) ∧
        ∀ j group fault, groups[j]? = some group → answers j = .error fault →
          (∀ i < j, ∀ other, answers i ≠ .error other) →
            done.2.site.calls = depot.site.calls ++
                (groups.take (j + 1)).map (.deleteObjects handler.config.bucket) ∧
              ∃ key failure, group.head? = some key ∧ done.1 = .error failure ∧
                if fault.isStoreRefusal then failure.Wraps "delete" key fault
                else failure = .fault fault := by
  intro answers done
  have hanswered (i : Nat) (h : ∀ fault, answers i ≠ .error fault) : IsAnswered (answers i) := by
    rcases hi : answers i with fault | answer
    · exact absurd hi (h fault)
    · exact ⟨answer, rfl, readable i answer hi⟩
  have hafter : done.2 = ((handler.deleteBatches (batches locations)).run depot).2 :=
    handler.after_delete locations depot
  have houtcome := handler.outcome_delete locations depot
  refine ⟨?_, batches locations, covers_batches locations, fun hall => ?_,
    fun j group fault hgroup hfault hbefore => ?_⟩
  · rintro rfl
    simp only [done, delete, batches]
    rfl
  · obtain ⟨hreported, hcalls⟩ := run_deleteBatches_of_answered connected
      fun i hi => hanswered i (hall i hi)
    rw [hreported] at houtcome
    exact ⟨by rw [hafter, hcalls], fun hnone => houtcome.trans (if_pos hnone),
      fun hsome => houtcome.trans (if_neg hsome)⟩
  · obtain ⟨hfailed, hcalls⟩ := run_deleteBatches_of_failed connected hgroup
      (fun i hi => hanswered i (hbefore i hi)) hfault
    rw [hfailed] at houtcome
    obtain ⟨key, rest, rfl⟩ := List.exists_cons_of_length_pos
      (length_of_mem_batches (List.mem_of_getElem? hgroup)).1
    exact ⟨by rw [hafter, hcalls], key, _, rfl, houtcome, ofCall_spec "delete" key fault⟩

/-- An answer that names the object of one key twice: it is not there, and it may not be deleted. -/
def mixedAnswer : Json :=
  let entry (code : String) : Json :=
    .obj [("Key", .str "a"), ("Code", .str code), ("Message", .str "no")]
  .obj [("Errors", .arr [entry "NoSuchKey", entry "AccessDenied"])]

theorem listsErrors_mixedAnswer : ListsErrors mixedAnswer := by
  refine ⟨_, rfl, fun value hvalue => .inr ⟨_, (Option.some.inj hvalue).symm,
    fun entry hentry => ?_⟩⟩
  rcases List.mem_pair.mp hentry with rfl | rfl
  · exact ⟨_, rfl⟩
  · exact ⟨_, rfl⟩

/-- A thousand keys and one more go out in two calls. If both are answered, the one failure is
reported; if the second fails, it is that which counts. -/
theorem delete_covers_keys_of_two_calls :
    let handler : BucketHandler := ⟨{ bucket := "pictures" }, true⟩
    let groups := [List.replicate 1000 "a", ["b"]]
    let trouble : Fault := .store (.unreachable "https://s3.example")
    let answered := scripted [(.deleteObjects, .reply mixedAnswer)]
    let broken := scripted [(.deleteObjects, .reply mixedAnswer), (.deleteObjects, .fail trouble)]
    let delete (depot : Depot) := (handler.delete groups.flatten).run depot
    (delete answered).2.site.calls = groups.map (.deleteObjects "pictures") ∧
      (delete answered).1 = .error (.media (.batch [.of "a" "AccessDenied" "no"])) ∧
      ∃ failure, (delete broken).1 = .error failure ∧ failure.Wraps "delete" "b" trouble := by
  intro handler groups trouble answered broken delete
  have hcovers : Covers groups.flatten groups := by
    refine ⟨rfl, fun group hgroup => ?_, fun group hgroup => ?_⟩
    · rcases List.mem_pair.mp hgroup with rfl | rfl
      · rw [List.length_replicate]
        decide
      · decide
    · obtain rfl := List.mem_singleton.mp hgroup
      exact List.length_replicate
  have hanswers (depot : Depot) (hfirst : depot.site.objects.deletionAnswer 0 = .ok mixedAnswer)
      (hlater : ∀ i answer, depot.site.objects.deletionAnswer (i + 1) = .ok answer →
        answer = .obj []) :
      ∀ i answer, depot.site.objects.deletionAnswer i = .ok answer → ListsErrors answer := by
    rintro (_ | i) answer hanswer
    · obtain rfl := Except.ok.inj (hfirst.symm.trans hanswer)
      exact listsErrors_mixedAnswer
    · obtain rfl := hlater i answer hanswer
      exact ⟨[], rfl, nofun⟩
  have hanswered : ∀ i answer, answered.site.objects.deletionAnswer i = .ok answer →
      ListsErrors answer :=
    hanswers answered rfl fun i answer hanswer => (Except.ok.inj hanswer).symm
  have hbroken : ∀ i answer, broken.site.objects.deletionAnswer i = .ok answer →
      ListsErrors answer := by
    refine hanswers broken rfl fun i answer hanswer => ?_
    cases i with
    | zero => cases hanswer
    | succ i => exact (Except.ok.inj hanswer).symm
  obtain ⟨-, first, hfirst, hall, -⟩ := delete_covers_keys handler rfl groups.flatten hanswered
  obtain rfl : first = groups := hfirst.eq_batches.trans hcovers.eq_batches.symm
  obtain ⟨-, second, hsecond, -, hstops⟩ := delete_covers_keys handler rfl groups.flatten hbroken
  obtain rfl : second = groups := hsecond.eq_batches.trans hcovers.eq_batches.symm
  obtain ⟨hcalls, -, hfails⟩ := hall fun i _ fault hfault => by
    cases i <;> cases hfault
  obtain ⟨-, key, failure, hkey, hfailure, hwraps⟩ :=
    hstops 1 ["b"] trouble rfl rfl fun i hi other hother => by
    obtain rfl := Nat.lt_one_iff.mp hi
    cases hother
  obtain rfl := Option.some.inj hkey
  exact ⟨hcalls, hfails nofun, failure, hfailure, hwraps⟩

end BucketHandler

end MediaDepot
