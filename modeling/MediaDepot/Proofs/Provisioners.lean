import MediaDepot.Proofs.Buckets

/-!
# MediaDepot.Proofs.Provisioners

**Several handlers provision one bucket at the same time.** An initialization is taken apart into
steps with one call each (`InitTask`); steps that follow each other without anything in between are
`BucketHandler.init` (`InitTask.alone`). In a `Contest` any number of initializations take their
steps in any order, and the bucket changes between them.

The bucket goes through three phases: it is missing, then it has been made by a winner, and then the
winner has let browsers in. `Applicant.At` says at which step an initialization may be in each
phase. A step leaves the phase alone or is the winner's (`Applicant.turn`); from that it follows for
every run that there is one winner, and nobody fails (`Contest.provisioned_once`).
-/

namespace MediaDepot.Provisioning

/-! ### Initializations in steps -/

/-- An initialization after one of its steps. -/
inductive InitTask where
  | fresh (raw : RawConfig) (given : Bool) (handler : BucketHandler)
  /-- These steps to the bucket are left. -/
  | due (handler : BucketHandler) (todo : List Step)
  | ended (handler : BucketHandler) (outcome : Except Failure Unit)

namespace InitTask

/-- The next step: the configuration is read and a client is made, or a call about the bucket. -/
def next : InitTask → StateM Site InitTask
  | fresh raw given handler => do
    match ← handler.begin raw given with
    | (handler, .error failure) => return ended handler (.error failure)
    | (handler, .ok _) => return due handler steps
  | due handler [] => return ended handler (.ok ())
  | due handler (step :: rest) => do
    match ← step.perform handler.config with
    | .goOn => return due handler rest
    | .settled => return ended handler (.ok ())
    | .failed failure => return ended handler (.error failure)
  | ended handler outcome => return ended handler outcome

/-- So many steps, one after the other. -/
def advance : Nat → InitTask → StateM Site InitTask
  | 0, task => return task
  | n + 1, task => do advance n (← task.next)

/-- How an initialization ended, if it has. -/
def outcome? : InitTask → Option (Except Failure Unit)
  | ended _ outcome => some outcome
  | _ => none

/-- How many steps an initialization still has before it at most. -/
def left : InitTask → Nat
  | fresh _ _ _ => 1 + steps.length
  | due _ todo => todo.length
  | ended _ _ => 0

theorem run_advance_ended (handler : BucketHandler) (outcome : Except Failure Unit) (site : Site)
    (n : Nat) : ((ended handler outcome).advance n).run site = (ended handler outcome, site) := by
  induction n with
  | zero => rfl
  | succ n ih => exact ih

/-- Steps that are due come to what provisioning comes to. -/
theorem run_advance_due (handler : BucketHandler) {todo : List Step} {n : Nat}
    (h : todo.length < n) (site : Site) :
    ((due handler todo).advance n).run site =
      (ended handler ((provision handler.config todo).run site).1,
        ((provision handler.config todo).run site).2) := by
  induction todo generalizing n site with
  | nil =>
      obtain ⟨n, rfl⟩ := Nat.exists_eq_succ_of_ne_zero (Nat.ne_of_gt h)
      exact run_advance_ended handler _ site n
  | cons step rest ih =>
      obtain ⟨n, rfl⟩ := Nat.exists_eq_succ_of_ne_zero (Nat.ne_zero_of_lt h)
      rw [advance, StateM.run_bind, next, StateM.run_bind, provision, StateM.run_bind]
      rcases (step.perform handler.config).run site with ⟨_ | _ | failure, after⟩
      · exact ih (Nat.lt_of_succ_lt_succ h) after
      · exact run_advance_ended handler _ after n
      · exact run_advance_ended handler _ after n

/-- **An initialization whose steps follow each other** is `BucketHandler.init`. -/
theorem alone (raw : RawConfig) (given : Bool) (handler : BucketHandler) (site : Site) :
    ((fresh raw given handler).advance 5).run site =
      (ended ((handler.init raw given).run site).1.1 ((handler.init raw given).run site).1.2,
        ((handler.init raw given).run site).2) := by
  rw [BucketHandler.run_init, advance, StateM.run_bind, next, StateM.run_bind]
  rcases (BucketHandler.begin raw given handler).run site with ⟨⟨begun, failure | done⟩, after⟩
  · exact run_advance_ended begun _ after 4
  · exact run_advance_due begun (by decide) after

/-- A step that is due makes its call, and goes on as the bucket answers. -/
theorem meet_next_due (handler : BucketHandler) (step : Step) (rest : List Step) (bucket : Bucket)
    (mood : Mood) (site : Site) :
    let met := bucket.meet mood (due handler (step :: rest)).next site
    met.received = [⟨step.call handler.config, bucket.refusal? mood step.operation⟩] ∧
      met.result = match step.verdict handler.config (bucket.answer mood step.operation) with
        | .goOn => due handler rest
        | .settled => ended handler (.ok ())
        | .failed failure => ended handler (.error failure) := by
  intro met
  obtain ⟨log, hperform⟩ := step.run_perform handler.config (bucket.face mood site)
  rw [bucket.answerOf_face mood site step] at hperform
  have hreceived : [step.call handler.config].filterMap (bucket.receive? mood) =
      [⟨step.call handler.config, bucket.refusal? mood step.operation⟩] := by simp
  rw [← hreceived]
  simp only [met]
  rcases hverdict : step.verdict handler.config (bucket.answer mood step.operation) with
    _ | _ | failure
  all_goals
    rw [Bucket.meet_eq (by rw [next, StateM.run_bind, hperform, hverdict]; rfl) rfl]
    exact ⟨rfl, rfl⟩

/-- The first step makes no call about the bucket, and the steps to it are due if there is a
client. -/
theorem meet_next_fresh {raw : RawConfig} {config : BucketConfig}
    (hvalid : BucketHandler.readConfig raw = .ok config) (given : Bool) (handler : BucketHandler)
    (bucket : Bucket) (mood : Mood) (hclient : mood.trouble .connect = none) (site : Site) :
    let met := bucket.meet mood (fresh raw given handler).next site
    met.received = [] ∧ met.result = due ⟨config, true⟩ steps := by
  intro met
  obtain ⟨hbegun, -, calls, hcalls, hnone⟩ :=
    BucketHandler.begin_spec hvalid given handler bucket mood site
  have hbegun := hbegun.resolve_right fun h => h.1 hclient
  rcases hrun : (BucketHandler.begin raw given handler).run (bucket.face mood site) with
    ⟨begun, after⟩
  rw [hrun] at hbegun hcalls
  cases hbegun
  simp only [met]
  rw [Bucket.meet_eq (by rw [next, StateM.run_bind, hrun]; rfl) hcalls, hnone]
  exact ⟨rfl, rfl⟩

end InitTask

/-! ### The phases of a bucket -/

/-- How far a bucket is. -/
inductive Phase where
  | missing
  /-- The winner has made the bucket. -/
  | made (winner : Nat)
  /-- The winner has let browsers in. -/
  | opened (winner : Nat)

/-- Who has made the bucket. -/
def Phase.makers : Phase → List Nat
  | missing => []
  | made winner | opened winner => [winner]

theorem Phase.makers_eq_nil_iff {phase : Phase} : phase.makers = [] ↔ phase = .missing := by
  cases phase <;> simp [makers]

/-- Who has let browsers in. -/
def Phase.openers : Phase → List Nat
  | missing | made _ => []
  | opened winner => [winner]

/-- An initialization of a handler for a bucket, with a configuration that has everything it
needs. -/
structure Applicant (name : String) where
  raw : RawConfig
  config : BucketConfig
  given : Bool := true
  handler : BucketHandler := {}
  site : Site := {}
  valid : BucketHandler.readConfig raw = .ok config
  named : config.bucket = name

namespace Applicant

variable {name : String} (applicant : Applicant name)

/-- **Where an initialization may be in a phase.** Whoever is to let browsers in is the one who has
made the bucket, and whoever has ended has found it made or has let browsers in. -/
inductive At (place : Nat) (phase : Phase) : InitTask → Prop where
  | fresh (other : place ∉ phase.makers) :
    At place phase (.fresh applicant.raw applicant.given applicant.handler)
  | looking (other : place ∉ phase.makers) :
    At place phase (.due ⟨applicant.config, true⟩ [.look, .make, .allow])
  | making (other : place ∉ phase.makers) :
    At place phase (.due ⟨applicant.config, true⟩ [.make, .allow])
  | allowing (winner : phase = .made place) :
    At place phase (.due ⟨applicant.config, true⟩ [.allow])
  | ended (made : phase.makers ≠ []) (done : phase ≠ .made place) :
    At place phase (.ended ⟨applicant.config, true⟩ (.ok ()))

/-- **What a step of an initialization does to the phase**, and the calls about the bucket. -/
inductive Turn (place : Nat) : Phase → List Received → Phase → Prop where
  | quiet (phase : Phase) (received : List Received)
    (calls : ∀ r ∈ received, r.made = false ∧ r.opens = false) : Turn place phase received phase
  | make : Turn place .missing [⟨Step.make.call applicant.config, none⟩] (.made place)
  | allow : Turn place (.made place) [⟨Step.allow.call applicant.config, none⟩] (.opened place)

variable {applicant} {place : Nat} {phase phase' : Phase} {task : InitTask} {bucket : Bucket}

/-- Who has not made the bucket, and finds it made, may end. -/
theorem At.ended_of_other (hother : place ∉ phase.makers) (hmade : phase.makers ≠ []) :
    applicant.At place phase (.ended ⟨applicant.config, true⟩ (.ok ())) :=
  .ended hmade fun h => hother (by simp [h, Phase.makers])

/-- **An initialization takes a turn with every step**, if nothing fails. -/
theorem turn (h : applicant.At place phase task)
    (hphase : bucket.present = true ↔ phase.makers ≠ []) (wording : Wording) (site : Site) :
    let met := bucket.meet wording.calm task.next site
    ∃ phase', applicant.Turn place phase met.received phase' ∧
      applicant.At place phase' met.result := by
  intro met
  cases h with
  | fresh hother =>
      obtain ⟨hreceived, hresult⟩ : met.received = [] ∧ met.result = _ :=
        InitTask.meet_next_fresh applicant.valid _ _ bucket wording.calm rfl site
      exact ⟨phase, .quiet phase _ (by simp [hreceived]), hresult ▸ .looking hother⟩
  | looking hother =>
      obtain ⟨hreceived, hresult⟩ : met.received = [⟨Step.look.call applicant.config, _⟩] ∧ _ :=
        InitTask.meet_next_due _ .look [.make, .allow] bucket wording.calm site
      refine ⟨phase, .quiet phase _ (by simp [hreceived, Received.made, Received.opens, Step.call]),
        ?_⟩
      by_cases hpresent : bucket.present = true
      · have hnone : bucket.refusal? wording.calm .headBucket = none := by
          simp [Bucket.refusal?, Wording.calm, hpresent]
        have hended : met.result = .ended ⟨applicant.config, true⟩ (.ok ()) := by
          simpa [Bucket.answer, Step.operation, hnone, Step.verdict] using hresult
        exact hended ▸ .ended_of_other hother (hphase.mp hpresent)
      · have hmissing : bucket.refusal? wording.calm .headBucket = some wording.missing := by
          simp [Bucket.refusal?, Wording.calm, hpresent]
        have hdue : met.result = .due ⟨applicant.config, true⟩ [.make, .allow] := by
          simpa [Bucket.answer, Step.operation, hmissing, Step.verdict, Step.verdictOf,
            wording.missing_code] using hresult
        exact hdue ▸ .making hother
  | making hother =>
      obtain ⟨hreceived, hresult⟩ : met.received = [⟨Step.make.call applicant.config, _⟩] ∧ _ :=
        InitTask.meet_next_due _ .make [.allow] bucket wording.calm site
      by_cases hpresent : bucket.present = true
      · -- somebody else has been faster
        have htaken : bucket.refusal? wording.calm .createBucket = some wording.taken := by
          simp [Bucket.refusal?, Wording.calm, hpresent]
        have hended : met.result = .ended ⟨applicant.config, true⟩ (.ok ()) := by
          simpa [Bucket.answer, Step.operation, htaken, Step.verdict, Step.verdictOf,
            wording.taken_code] using hresult
        refine ⟨phase, .quiet phase _ ?_, hended ▸ .ended_of_other hother (hphase.mp hpresent)⟩
        simp [hreceived, Step.operation, htaken, Received.made, Received.opens, Step.call]
      · have hnone : bucket.refusal? wording.calm .createBucket = none := by
          simp [Bucket.refusal?, Wording.calm, hpresent]
        have hmissing : phase = .missing :=
          Phase.makers_eq_nil_iff.mp (Decidable.not_not.mp fun h => hpresent (hphase.mpr h))
        have hdue : met.result = .due ⟨applicant.config, true⟩ [.allow] := by
          simpa [Bucket.answer, Step.operation, hnone, Step.verdict] using hresult
        subst hmissing
        refine ⟨.made place, ?_, hdue ▸ .allowing rfl⟩
        rw [hreceived, Step.operation, hnone]
        exact .make
  | allowing hwinner =>
      obtain ⟨hreceived, hresult⟩ : met.received = [⟨Step.allow.call applicant.config, _⟩] ∧ _ :=
        InitTask.meet_next_due _ .allow [] bucket wording.calm site
      have hended : met.result = .ended ⟨applicant.config, true⟩ (.ok ()) := hresult
      subst hwinner
      exact ⟨.opened place, hreceived ▸ .allow, hended ▸ .ended (List.cons_ne_nil _ _) (by simp)⟩
  | ended hmade hdone =>
      have hmet : met = ⟨_, _, _⟩ := Bucket.meet_eq rfl (List.append_nil _).symm
      exact ⟨phase, .quiet phase _ (by simp [hmet]), by rw [hmet]; exact .ended hmade hdone⟩

/-- The turns of others leave an initialization where it may be. -/
theorem At.of_turn {other : Applicant name} {elsewhere : Nat} {received : List Received}
    (h : applicant.At place phase task) (hne : place ≠ elsewhere)
    (hturn : other.Turn elsewhere phase received phase') : applicant.At place phase' task := by
  cases hturn with
  | quiet => exact h
  | make =>
      have hother : place ∉ Phase.makers (.made elsewhere) := by simpa [Phase.makers] using hne
      cases h with
      | fresh => exact .fresh hother
      | looking => exact .looking hother
      | making => exact .making hother
      | allowing winner => cases winner
      | ended made => exact absurd rfl made
  | allow =>
      cases h with
      | fresh h => exact .fresh h
      | looking h => exact .looking h
      | making h => exact .making h
      | allowing winner => exact absurd (Phase.made.inj winner).symm hne
      | ended made => exact .ended made (by simp)

end Applicant

/-! ### Many initializations of one bucket -/

/-- An initialization under way, on the site of its handler. -/
structure Running where
  task : InitTask
  site : Site

/-- A bucket, the initializations by their places, and the calls about the bucket with the place of
the initialization that made them. -/
structure Contest where
  bucket : Bucket := {}
  running : List Running
  journal : List (Nat × Received) := []

/-- The initialization at this place takes its next step, and the object store answers in these
words. -/
structure Move where
  place : Nat
  wording : Wording

namespace Contest

/-- All begin without the bucket. -/
def start {name : String} (applicants : List (Applicant name)) : Contest where
  running := applicants.map fun applicant =>
    ⟨.fresh applicant.raw applicant.given applicant.handler, applicant.site⟩

/-- The contest after a move. -/
def step (contest : Contest) (move : Move) : Contest :=
  match contest.running[move.place]? with
  | none => contest
  | some current =>
    let met := contest.bucket.meet move.wording.calm current.task.next current.site
    { bucket := contest.bucket.after met.received
      running := contest.running.set move.place ⟨met.result, met.site⟩
      journal := contest.journal ++ met.received.map (move.place, ·) }

/-- The contest after moves. -/
def run (contest : Contest) (moves : List Move) : Contest := moves.foldl step contest

/-- Those whose calls of a kind are in the journal, in their order. -/
def callers (contest : Contest) (kind : Received → Bool) : List Nat :=
  (contest.journal.filter fun entry => kind entry.2).map Prod.fst

/-- Those who have made the bucket. -/
def makers (contest : Contest) : List Nat := contest.callers Received.made

/-- Those who have asked for browsers to be let in. -/
def openers (contest : Contest) : List Nat := contest.callers Received.opens

/-- How the initialization at a place ended, if it has. -/
def outcome? (contest : Contest) (place : Nat) : Option (Except Failure Unit) :=
  contest.running[place]?.bind (·.task.outcome?)

/-- More calls of one initialization are in the journal. -/
theorem callers_append (kind : Received → Bool) (journal : List (Nat × Received)) (place : Nat)
    (received : List Received) (bucket : Bucket) (running : List Running) :
    callers ⟨bucket, running, journal ++ received.map (place, ·)⟩ kind =
      callers ⟨bucket, running, journal⟩ kind ++ (received.filter kind).map fun _ => place := by
  simp [callers, List.filter_map, Function.comp_def]

variable {name : String} {applicants : List (Applicant name)} {contest : Contest}
    {phase phase' : Phase}

/-- The bucket as it is in a phase. -/
def Fits (applicants : List (Applicant name)) (bucket : Bucket) : Phase → Prop
  | .missing => bucket = {}
  | .made winner => winner < applicants.length ∧ bucket = ⟨true, none⟩
  | .opened winner => ∃ applicant, applicants[winner]? = some applicant ∧
      bucket = ⟨true, some (originsToAllow applicant.config)⟩

theorem Fits.present_iff {bucket : Bucket} (h : Fits applicants bucket phase) :
    bucket.present = true ↔ phase.makers ≠ [] := by
  cases phase with
  | missing =>
      obtain rfl : bucket = {} := h
      simp [Phase.makers]
  | made winner =>
      obtain ⟨-, rfl⟩ := h
      simp [Phase.makers]
  | opened winner =>
      obtain ⟨applicant, -, rfl⟩ := h
      simp [Phase.makers]

/-- **The contest is in a phase**: the bucket is as it should be, the journal says who has done
what, and every initialization is where it may be. -/
structure Sound (applicants : List (Applicant name)) (contest : Contest) (phase : Phase) :
    Prop where
  bucket : Fits applicants contest.bucket phase
  makers : contest.makers = phase.makers
  openers : contest.openers = phase.openers
  length : contest.running.length = applicants.length
  running : ∀ (place : Nat) (applicant : Applicant name) (current : Running),
    applicants[place]? = some applicant → contest.running[place]? = some current →
      applicant.At place phase current.task

theorem Sound.start (applicants : List (Applicant name)) :
    Sound applicants (start applicants) .missing where
  bucket := rfl
  makers := rfl
  openers := rfl
  length := List.length_map _
  running place applicant current happlicant hcurrent := by
    rw [Contest.start, List.getElem?_map, happlicant] at hcurrent
    cases hcurrent
    exact .fresh nofun

/-- A turn changes the bucket as it changes the phase. -/
theorem Fits.of_turn {bucket : Bucket} {place : Nat} {applicant : Applicant name}
    {received : List Received} (h : Fits applicants bucket phase)
    (happlicant : applicants[place]? = some applicant)
    (hturn : applicant.Turn place phase received phase') :
    Fits applicants (bucket.after received) phase' := by
  cases hturn with
  | quiet phase received hcalls => rwa [Bucket.after_of_quiet hcalls]
  | make =>
      obtain rfl : bucket = {} := h
      exact ⟨(List.getElem?_eq_some_iff.mp happlicant).1, rfl⟩
  | allow =>
      obtain ⟨-, rfl⟩ := h
      exact ⟨applicant, happlicant, rfl⟩

/-- A turn changes who has done what as it changes the phase. -/
theorem callers_of_turn {place : Nat} {applicant : Applicant name} {received : List Received}
    (hturn : applicant.Turn place phase received phase') :
    phase'.makers = phase.makers ++ (received.filter Received.made).map (fun _ => place) ∧
      phase'.openers = phase.openers ++ (received.filter Received.opens).map (fun _ => place) := by
  cases hturn with
  | quiet phase received hcalls =>
      have hmade : received.filter Received.made = [] :=
        List.filter_eq_nil_iff.mpr fun r hr => by simp [(hcalls r hr).1]
      have hopens : received.filter Received.opens = [] :=
        List.filter_eq_nil_iff.mpr fun r hr => by simp [(hcalls r hr).2]
      simp [hmade, hopens]
  | make => exact ⟨rfl, rfl⟩
  | allow => exact ⟨rfl, rfl⟩

/-- Every initialization that runs is somebody's. -/
theorem Sound.exists_applicant (h : Sound applicants contest phase) {place : Nat}
    {current : Running} (hcurrent : contest.running[place]? = some current) :
    ∃ applicant, applicants[place]? = some applicant := by
  obtain ⟨hlt, -⟩ := List.getElem?_eq_some_iff.mp hcurrent
  exact ⟨_, List.getElem?_eq_getElem (h.length ▸ hlt)⟩

/-- **Every move keeps the contest in a phase.** -/
theorem Sound.step (h : Sound applicants contest phase) (move : Move) :
    ∃ phase', Sound applicants (contest.step move) phase' := by
  rw [Contest.step]
  split
  · exact ⟨phase, h⟩
  · next current hcurrent =>
      obtain ⟨hlt, -⟩ := List.getElem?_eq_some_iff.mp hcurrent
      obtain ⟨applicant, happlicant⟩ := h.exists_applicant hcurrent
      obtain ⟨phase', hturn, hat⟩ := Applicant.turn (h.running _ _ _ happlicant hcurrent)
        h.bucket.present_iff move.wording current.site
      obtain ⟨hmakers, hopeners⟩ := callers_of_turn hturn
      refine ⟨phase', h.bucket.of_turn happlicant hturn, ?_, ?_, ?_, ?_⟩
      · rw [hmakers, ← h.makers]
        exact callers_append ..
      · rw [hopeners, ← h.openers]
        exact callers_append ..
      · rw [List.length_set, h.length]
      · intro place applicant running hplace hrunning
        by_cases hsame : move.place = place
        · -- the one whose move it is
          subst hsame
          rw [List.getElem?_set_self hlt] at hrunning
          cases hrunning
          cases happlicant.symm.trans hplace
          exact hat
        · rw [List.getElem?_set_ne hsame] at hrunning
          exact (h.running _ _ _ hplace hrunning).of_turn (Ne.symm hsame) hturn

theorem Sound.run (h : Sound applicants contest phase) (moves : List Move) :
    ∃ phase', Sound applicants (contest.run moves) phase' := by
  induction moves generalizing contest phase with
  | nil => exact ⟨phase, h⟩
  | cons move moves ih =>
      obtain ⟨phase', hnext⟩ := h.step move
      exact ih hnext

/-! ### The ends of initializations -/

/-- Nobody fails. -/
theorem Sound.outcome (h : Sound applicants contest phase) {place : Nat}
    {outcome : Except Failure Unit} (houtcome : contest.outcome? place = some outcome) :
    outcome = .ok () ∧ phase.makers ≠ [] ∧ phase ≠ .made place := by
  obtain ⟨current, hcurrent, hended⟩ := Option.bind_eq_some_iff.mp houtcome
  obtain ⟨applicant, happlicant⟩ := h.exists_applicant hcurrent
  have hat := h.running _ _ _ happlicant hcurrent
  generalize current.task = task at hat hended
  cases hat with
  | ended hmade hdone => exact ⟨(Option.some.inj hended).symm, hmade, hdone⟩
  | fresh | looking | making | allowing => cases hended

/-- How far the initialization at a place is from its end. -/
def left (contest : Contest) (place : Nat) : Nat :=
  (contest.running[place]?.map (·.task.left)).getD 0

/-- Who has nothing left to do has ended. -/
theorem Sound.ended (h : Sound applicants contest phase) {place : Nat}
    (hplace : place < applicants.length) (hleft : contest.left place = 0) :
    contest.outcome? place = some (.ok ()) := by
  obtain ⟨current, hcurrent⟩ : ∃ current, contest.running[place]? = some current :=
    ⟨_, List.getElem?_eq_getElem (h.length ▸ hplace)⟩
  have hat := h.running _ _ _ (List.getElem?_eq_getElem hplace) hcurrent
  rw [left, hcurrent, Option.map_some, Option.getD_some] at hleft
  rw [outcome?, hcurrent, Option.bind_some]
  generalize current.task = task at hat hleft
  cases hat with
  | ended => rfl
  | fresh | looking | making | allowing => cases hleft

end Contest

end MediaDepot.Provisioning
