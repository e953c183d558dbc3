import MediaDepot.Proofs.Managers
import Mathlib.Data.List.DropRight

/-!
# MediaDepot.Proofs.Appointments

**The manager in use is replaced as a whole, or not at all.** An office takes calls, one after the
other, and between the calls everything may change: the environment, the files, the object store,
what is in the record stores and how handlers are configured (`Office.Meanwhile`). What was asked
and what was answered is a trace, and the trace tells which manager was configured last since the
last reset (`Office.latest`).

One step either leaves the manager in use and adds none, or takes it away, or puts a new one in use
(`Office.Step`). So the manager in use is always the latest of the trace (`Office.Follows.step`).
-/

namespace MediaDepot

namespace Office

/-! ### Calls and traces -/

/-- What happens between two calls. The program is another one, each store and each handler may be
in another state, and there are new stores and handlers. -/
structure Meanwhile where
  program : Program
  records : Nat → RecordStore → RecordStore
  handler : Nat → Handler → Handler
  stores : List RecordStore := []
  keepers : List Keeper := []

/-- The office after that. Which store a handler uses is settled for good. -/
def Meanwhile.apply (change : Meanwhile) (office : Office) : Office :=
  { office with
    program := change.program
    stores := office.stores.mapIdx change.records ++ change.stores
    keepers := office.keepers.mapIdx (fun number keeper =>
      { keeper with handler := change.handler number keeper.handler }) ++ change.keepers }

/-- A call, or what happens between calls. -/
inductive Event where
  | configure (keeper store : Nat)
  | configureFromSettings
  | getInstance
  | reset
  | meanwhile (change : Meanwhile)

/-- Is the call one that may build a manager from the settings? -/
def Event.usesSettings : Event → Bool
  | .configureFromSettings | .getInstance => true
  | _ => false

/-- What a call answers. -/
inductive Answer where
  | done
  /-- This manager is new. -/
  | appointed (number : Nat)
  /-- This manager was there before. -/
  | found (number : Nat)
  | failed (failure : Failure)

/-- The answer that gives a manager, where there were so many before. -/
def Answer.of (known : Nat) : Except Failure Nat → Answer
  | .ok number => if number < known then .found number else .appointed number
  | .error failure => .failed failure

/-- What comes of an event. Only a handler and a store that are there can be handed over. -/
def perform (office : Office) : Event → Answer × Office
  | .configure keeper store =>
    if keeper < office.keepers.length ∧ store < office.stores.length then
      let (number, after) := (configure keeper store).run office
      (.of office.managers.length (.ok number), after)
    else (.done, office)
  | .configureFromSettings =>
    let (outcome, after) := configureFromSettings.run office
    (.of office.managers.length outcome, after)
  | .getInstance =>
    let (outcome, after) := getInstance.run office
    (.of office.managers.length outcome, after)
  | .reset => (.done, (reset.run office).2)
  | .meanwhile change => (.done, change.apply office)

/-- An event with its answer. -/
abbrev Entry := Event × Answer

/-- A reset. -/
def Entry.isReset : Entry → Bool
  | (.reset, _) => true
  | _ => false

/-- The new manager that was put in use. -/
def Entry.appointed? : Entry → Option Nat
  | (_, .appointed number) => some number
  | _ => none

/-- The manager that was configured last since the last reset. -/
def latest (trace : List Entry) : Option Nat :=
  ((trace.rtakeWhile fun entry => !entry.isReset).filterMap Entry.appointed?).getLast?

/-- The manager was built from the settings. -/
def BuiltFromSettings (trace : List Entry) (number : Nat) : Prop :=
  ∃ event : Event, event.usesSettings = true ∧ (event, .appointed number) ∈ trace

/-- A trace and an office, one event later. -/
def follow (past : List Entry × Office) (event : Event) : List Entry × Office :=
  let (answer, after) := past.2.perform event
  (past.1 ++ [(event, answer)], after)

/-- The trace of a program from its beginning, and the office that it has come to. -/
def history (program : Program) (events : List Event) : List Entry × Office :=
  events.foldl follow ([], { program })

/-! ### One step -/

/-- Handlers and stores stay, in whatever state, and handlers keep their stores. -/
structure Outlasts (before after : Office) : Prop where
  keepers : ∀ (number : Nat) (keeper : Keeper), before.keepers[number]? = some keeper →
    ∃ handler, after.keepers[number]? = some { keeper with handler }
  stores : before.stores.length ≤ after.stores.length

/-- What one event may come to. -/
inductive Step (before : Office) : Event → Answer → Office → Prop
  /-- The manager in use stays in use, and none is new. -/
  | kept {event : Event} {answer : Answer} {after : Office}
      (hevent : Entry.isReset (event, answer) = false)
      (hanswer : Entry.appointed? (event, answer) = none)
      (hcurrent : after.current = before.current)
      (hmanagers : after.managers = before.managers) (houtlasts : before.Outlasts after) :
    Step before event answer after
  /-- No manager is in use any more. -/
  | reset : Step before .reset .done { before with current := none }
  /-- A new manager is in use. -/
  | appointed {event : Event} {after : Office} {manager : Manager} {keeper : Keeper}
      (hevent : Entry.isReset (event, .appointed before.managers.length) = false)
      (hcurrent : after.current = some before.managers.length)
      (hmanagers : after.managers = before.managers ++ [manager])
      (hkeeper : after.keepers[manager.keeper]? = some keeper)
      (hstore : manager.store < after.stores.length)
      (hsame : event.usesSettings = true → keeper.store = manager.store)
      (houtlasts : before.Outlasts after) :
    Step before event (.appointed before.managers.length) after

variable {office after : Office}

theorem Outlasts.of_extended (hkeepers : office.keepers <+: after.keepers)
    (hstores : office.stores <+: after.stores) : office.Outlasts after where
  keepers number keeper h := by
    obtain ⟨more, hmore⟩ := hkeepers
    obtain ⟨hnumber, -⟩ := List.getElem?_eq_some_iff.mp h
    exact ⟨keeper.handler, by rw [← hmore, List.getElem?_append_left hnumber, h]⟩
  stores := hstores.length_le

theorem Outlasts.apply (change : Meanwhile) (office : Office) :
    office.Outlasts (change.apply office) where
  keepers number keeper h := by
    obtain ⟨hnumber, -⟩ := List.getElem?_eq_some_iff.mp h
    refine ⟨change.handler number keeper.handler, ?_⟩
    rw [Meanwhile.apply, List.getElem?_append_left (by simpa using hnumber),
      List.getElem?_mapIdx, h]
    rfl
  stores := by simp [Meanwhile.apply]

/-- What a manager holds is still there. -/
theorem Outlasts.held (h : office.Outlasts after) {manager : Manager}
    (hheld : manager.keeper < office.keepers.length ∧ manager.store < office.stores.length) :
    manager.keeper < after.keepers.length ∧ manager.store < after.stores.length := by
  obtain ⟨handler, hafter⟩ := h.keepers _ _ (List.getElem?_eq_getElem hheld.1)
  exact ⟨(List.getElem?_eq_some_iff.mp hafter).1, hheld.2.trans_le h.stores⟩

/-- A number that was not there before is the number of a new manager. -/
theorem Answer.of_length (known : Nat) : Answer.of known (.ok known) = .appointed known :=
  if_neg (Nat.lt_irrefl known)

/-- A manager is built from the settings, or nothing that is there changes. -/
theorem step_of_build {event : Event} (hevent : event.usesSettings = true) (office : Office) :
    Step office event (.of office.managers.length (configureFromSettings.run office).1)
      (configureFromSettings.run office).2 := by
  have hbuilt := office.built_configureFromSettings
  have hreset (answer : Answer) : Entry.isReset (event, answer) = false := by
    cases event with
    | reset => cases hevent
    | _ => rfl
  generalize Program.build.run office.program = vaultBuilt at hbuilt
  generalize configureFromSettings.run office = managerBuilt at hbuilt
  cases hbuilt with
  | failed hprogram hkeeps =>
      exact .kept (hreset _) rfl hkeeps.current hkeeps.managers
        (.of_extended hkeeps.keepers hkeeps.stores)
  | made vault program =>
      rw [Answer.of_length]
      exact .appointed (hreset _) rfl rfl List.getElem?_concat_length (by simp) (fun _ => rfl)
        (.of_extended (List.prefix_append _ _) (List.prefix_append _ _))

/-- **One event** leaves the manager in use, takes it away, or puts a new one in use. -/
theorem Sound.step (h : office.Sound) (event : Event) :
    Step office event (office.perform event).1 (office.perform event).2 := by
  cases event with
  | configure keeper store =>
      by_cases hthere : keeper < office.keepers.length ∧ store < office.stores.length
      · rw [perform, if_pos hthere]
        show Step office _ (.of office.managers.length (.ok office.managers.length)) _
        rw [Answer.of_length]
        exact .appointed rfl rfl rfl (List.getElem?_eq_getElem hthere.1) hthere.2 nofun
          (.of_extended List.prefix_rfl List.prefix_rfl)
      · rw [perform, if_neg hthere]
        exact .kept rfl rfl rfl rfl (.of_extended List.prefix_rfl List.prefix_rfl)
  | configureFromSettings => exact step_of_build rfl office
  | getInstance =>
      cases hcurrent : office.current with
      | none =>
          rw [perform, run_getInstance_of_none hcurrent]
          exact step_of_build rfl office
      | some number =>
          have hfound : Answer.of office.managers.length (.ok number) = .found number :=
            if_pos (h.current number hcurrent)
          rw [perform, run_getInstance_of_current hcurrent]
          dsimp only
          rw [hfound]
          exact .kept rfl rfl rfl rfl (.of_extended List.prefix_rfl List.prefix_rfl)
  | reset => exact .reset
  | meanwhile change => exact .kept rfl rfl rfl rfl (.apply change office)

/-- Managers that are held stay held. -/
theorem Sound.of_step (h : office.Sound) {event : Event} {answer : Answer}
    (hstep : Step office event answer after) : after.Sound := by
  cases hstep with
  | kept _ _ hcurrent hmanagers houtlasts =>
      refine ⟨?_, ?_⟩ <;> rw [hmanagers]
      · exact fun number hnumber => h.current number (hcurrent ▸ hnumber)
      · exact fun manager hmem => houtlasts.held (h.held manager hmem)
  | reset => exact ⟨nofun, h.held⟩
  | appointed _ hcurrent hmanagers hkeeper hstore _ houtlasts =>
      refine ⟨?_, ?_⟩ <;> rw [hmanagers]
      · intro number hnumber
        obtain rfl := Option.some.inj (hcurrent.symm.trans hnumber)
        simp
      · intro manager hmem
        rcases List.mem_append.mp hmem with hold | hnew
        · exact houtlasts.held (h.held manager hold)
        · obtain rfl := List.mem_singleton.mp hnew
          exact ⟨(List.getElem?_eq_some_iff.mp hkeeper).1, hstore⟩

/-! ### The whole trace -/

theorem latest_concat (trace : List Entry) (entry : Entry) :
    latest (trace ++ [entry]) =
      if entry.isReset then none else entry.appointed?.or (latest trace) := by
  unfold latest
  rw [List.rtakeWhile_concat]
  cases entry.isReset with
  | true => rfl
  | false =>
      cases happointed : entry.appointed? <;> simp [List.filterMap_append, happointed]

theorem builtFromSettings_concat {trace : List Entry} {event : Event} {answer : Answer}
    {number : Nat} : BuiltFromSettings (trace ++ [(event, answer)]) number ↔
      BuiltFromSettings trace number ∨ event.usesSettings = true ∧ answer = .appointed number := by
  unfold BuiltFromSettings
  simp only [List.mem_append, List.mem_singleton, Prod.mk.injEq]
  constructor
  · rintro ⟨built, hbuilt, hmem | ⟨rfl, rfl⟩⟩
    · exact .inl ⟨built, hbuilt, hmem⟩
    · exact .inr ⟨hbuilt, rfl⟩
  · rintro (⟨built, hbuilt, hmem⟩ | ⟨hevent, rfl⟩)
    · exact ⟨built, hbuilt, .inl hmem⟩
    · exact ⟨event, hevent, .inr ⟨rfl, rfl⟩⟩

/-- The manager's handler enters uploads into the store that the manager has. -/
def Undivided (office : Office) (number : Nat) : Prop :=
  ∃ manager keeper, office.managers[number]? = some manager ∧
    office.keepers[manager.keeper]? = some keeper ∧ keeper.store = manager.store

theorem Undivided.outlasts {number : Nat} (h : office.Undivided number)
    (hmanagers : office.managers <+: after.managers) (houtlasts : office.Outlasts after) :
    after.Undivided number := by
  obtain ⟨manager, keeper, hmanager, hkeeper, hsame⟩ := h
  obtain ⟨handler, hlater⟩ := houtlasts.keepers _ keeper hkeeper
  obtain ⟨more, hmore⟩ := hmanagers
  obtain ⟨hnumber, -⟩ := List.getElem?_eq_some_iff.mp hmanager
  refine ⟨manager, _, ?_, hlater, hsame⟩
  rw [← hmore, List.getElem?_append_left hnumber, hmanager]

/-- **What holds of a trace and the office that it leads to.** -/
structure Follows (trace : List Entry) (office : Office) : Prop where
  sound : office.Sound
  /-- The manager in use is the latest. -/
  current : office.current = latest trace
  built : ∀ number, BuiltFromSettings trace number → office.Undivided number

/-- **One event more** keeps that. -/
theorem Follows.step {trace : List Entry} (h : Follows trace office) (event : Event) :
    Follows (trace ++ [(event, (office.perform event).1)]) (office.perform event).2 := by
  have hstep := h.sound.step event
  have hsound := h.sound.of_step hstep
  generalize (office.perform event).1 = answer at hstep ⊢
  generalize (office.perform event).2 = after at hstep hsound ⊢
  have hlatest := latest_concat trace (event, answer)
  rw [← h.current] at hlatest
  cases hstep with
  | kept hevent hanswer hcurrent hmanagers houtlasts =>
      refine ⟨hsound, by rw [hlatest, hevent, hanswer, hcurrent]; rfl, fun number hbuilt => ?_⟩
      rcases builtFromSettings_concat.mp hbuilt with hold | ⟨-, rfl⟩
      · exact (h.built number hold).outlasts (hmanagers ▸ List.prefix_rfl) houtlasts
      · cases hanswer
  | reset =>
      refine ⟨hsound, hlatest.symm, fun number hbuilt => ?_⟩
      rcases builtFromSettings_concat.mp hbuilt with hold | ⟨-, hnew⟩
      · exact h.built number hold
      · cases hnew
  | appointed hevent hcurrent hmanagers hkeeper hstore hsame houtlasts =>
      refine ⟨hsound, by rw [hlatest, hevent, hcurrent]; rfl, fun number hbuilt => ?_⟩
      rcases builtFromSettings_concat.mp hbuilt with hold | ⟨hevent, hnew⟩
      · exact (h.built number hold).outlasts (hmanagers ▸ List.prefix_append _ _) houtlasts
      · cases hnew
        exact ⟨_, _, by rw [hmanagers, List.getElem?_concat_length], hkeeper, hsame hevent⟩

/-- **A whole history** keeps it. -/
theorem follows_history (program : Program) (events : List Event) :
    Follows (history program events).1 (history program events).2 := by
  have hrun (past : List Entry × Office) (hpast : Follows past.1 past.2) :
      Follows (events.foldl follow past).1 (events.foldl follow past).2 := by
    induction events generalizing past with
    | nil => exact hpast
    | cons event events ih => exact ih _ (hpast.step event)
  refine hrun ([], { program }) ⟨⟨by simp, by simp⟩, rfl, ?_⟩
  rintro number ⟨event, -, hmem⟩
  cases hmem

/-! ### The manager in use -/

theorem keeps_of_failed {failure : Failure}
    (h : configureFromSettings.run office = (.error failure, after)) : office.Keeps after := by
  have hbuilt := office.built_configureFromSettings
  rw [h] at hbuilt
  generalize Program.build.run office.program = vaultBuilt at hbuilt
  cases hbuilt with
  | failed hprogram hkeeps => exact hkeeps

theorem new_of_built {number : Nat} (h : configureFromSettings.run office = (.ok number, after)) :
    number = office.managers.length ∧ after.current = some number ∧
      after.managers = office.managers ++ [⟨office.keepers.length, office.stores.length⟩] := by
  have hbuilt := office.built_configureFromSettings
  rw [h] at hbuilt
  generalize Program.build.run office.program = vaultBuilt at hbuilt
  cases hbuilt with
  | made vault program => exact ⟨rfl, rfl, rfl⟩

/-- **The manager in use is replaced as a whole, or not at all**, whatever was called before and
whatever has changed meanwhile. If a manager cannot be built from the settings, every object and the
manager in use stay as they are; otherwise a new one with a new handler and a new store is in use.
Who asks for the manager in use gets the one that was configured last since the last reset, and
nothing happens; if there is none, one is built. The handler of a manager that was built from the
settings enters uploads into the store that the manager has, so that an upload begins and ends with
the same rows. All this is what the running program does. -/
theorem replaced_as_a_whole (program : Program) (events : List Event) :
    let trace := (history program events).1
    let office := (history program events).2
    (∀ failure after, configureFromSettings.run office = (.error failure, after) →
        office.Keeps after ∧ after.seen.inUse = office.seen.inUse) ∧
      (∀ number after, configureFromSettings.run office = (.ok number, after) →
        number = office.managers.length ∧ after.current = some number ∧
          after.managers = office.managers ++ [⟨office.keepers.length, office.stores.length⟩]) ∧
      (getInstance.run office = match latest trace with
        | some number => (.ok number, office)
        | none => configureFromSettings.run office) ∧
      (∀ number, BuiltFromSettings trace number →
        ∃ manager keeper, office.managers[number]? = some manager ∧
          office.keepers[manager.keeper]? = some keeper ∧ keeper.store = manager.store ∧
          ∀ source mimeType user,
            (upload keeper manager.store source mimeType user).run office =
                (withStore manager.store (Service.upload keeper.handler source mimeType user)).run
                  office ∧
              (office.current = some number →
                (Program.upload source mimeType user).run office.seen =
                let (outcome, after) :=
                  (upload keeper manager.store source mimeType user).run office
                (outcome, after.seen))) ∧
      Program.configure.run office.seen = seeing (configureFromSettings.run office) ∧
      Program.vault.run office.seen = seeing (getInstance.run office) ∧
      (Program.reset.run office.seen).2 = (reset.run office).2.seen := by
  intro trace office
  have hfollows : Follows trace office := follows_history program events
  refine ⟨fun failure after h => ?_, fun number after h => new_of_built h, ?_,
    fun number hbuilt => ?_, hfollows.sound.configureFromSettings_seen,
      hfollows.sound.getInstance_seen, rfl⟩
  · have hkeeps := keeps_of_failed h
    exact ⟨hkeeps, by rw [hfollows.sound.seen_eq hkeeps]⟩
  · rw [← hfollows.current]
    cases hcurrent : office.current with
    | none => exact run_getInstance_of_none hcurrent
    | some number => exact run_getInstance_of_current hcurrent
  · obtain ⟨manager, keeper, hmanager, hkeeper, hsame⟩ := hfollows.built number hbuilt
    have hstore := (hfollows.sound.held manager (List.mem_of_getElem? hmanager)).2
    refine ⟨manager, keeper, hmanager, hkeeper, hsame,
      fun source mimeType user => ⟨?_, fun hcurrent => ?_⟩⟩
    · rw [← hsame]
      exact upload_of_same_store (hsame ▸ hstore) source mimeType user
    · exact hfollows.sound.upload_seen hcurrent hmanager hkeeper hsame source mimeType user

/-- A program is told to use a bucket, and what it is told of the bucket cannot be read. -/
def unreadable : Meanwhile where
  program := { environment := [("MEDIA_HANDLER", "s3"), ("MEDIA_CONFIG", "x")] }
  records := fun _ records => records
  handler := fun _ handler => handler

/-- A program that keeps files in a folder goes on with that. -/
theorem replaced_as_a_whole_unreadable :
    let past := history {} [.configureFromSettings, .meanwhile unreadable]
    (∃ failure after, configureFromSettings.run past.2 = (.error failure, after) ∧
      past.2.Keeps after) ∧
      getInstance.run past.2 = (.ok 0, past.2) ∧ BuiltFromSettings past.1 0 ∧
        past.2.Undivided 0 := by
  obtain ⟨hfailed, -, hinstance, hown, -⟩ :=
    replaced_as_a_whole {} [.configureFromSettings, .meanwhile unreadable]
  have happointed : Entry.appointed? (.configureFromSettings,
      (perform {} .configureFromSettings).1) = some 0 := by
    decide +kernel
  have hlatest : latest (history {} [.configureFromSettings, .meanwhile unreadable]).1 =
      some 0 := by
    decide +kernel
  have hnone : (configureFromSettings.run
      (history {} [.configureFromSettings, .meanwhile unreadable]).2).1.toOption = none := by
    decide +kernel
  have htrace : (history {} [.configureFromSettings, .meanwhile unreadable]).1 =
      [(.configureFromSettings, (perform {} .configureFromSettings).1),
        (.meanwhile unreadable, .done)] := rfl
  have hbuilt : BuiltFromSettings
      (history {} [.configureFromSettings, .meanwhile unreadable]).1 0 := by
    rw [htrace]
    generalize (perform {} .configureFromSettings).1 = answer at happointed ⊢
    cases answer with
    | appointed number =>
        obtain rfl : number = 0 := Option.some.inj happointed
        exact ⟨.configureFromSettings, rfl, List.mem_cons_self⟩
    | _ => cases happointed
  generalize history {} [.configureFromSettings, .meanwhile unreadable] = past at *
  refine ⟨?_, by rw [hinstance, hlatest], hbuilt, ?_⟩
  · rcases hrun : configureFromSettings.run past.2 with ⟨failure | number, after⟩
    · exact ⟨failure, after, rfl, (hfailed failure after hrun).1⟩
    · rw [hrun] at hnone
      cases hnone
  · obtain ⟨manager, keeper, hmanager, hkeeper, hsame, -⟩ := hown 0 hbuilt
    exact ⟨manager, keeper, hmanager, hkeeper, hsame⟩

end Office

end MediaDepot
