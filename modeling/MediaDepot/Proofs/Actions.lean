import MediaDepot.Records.Store

/-!
# MediaDepot.Proofs.Actions

**What running an action comes to.** An action takes a depot to an outcome and a depot; what was
done before a failure stays done. The equations here run an action step by step: `run_bind` for one
step after another, and one equation for each of the primitives out of which actions are made.

Work on the records adds notes to the site, of calls and to the log, and changes nothing else there
(`Site.Noted`).
-/

namespace MediaDepot

/-- One step of a computation on a state after another. -/
theorem StateM.run_bind {σ α β : Type} (work : StateM σ α) (next : α → StateM σ β) (s : σ) :
    (work >>= next).run s = (next (work.run s).1).run (work.run s).2 := rfl

/-- One step after another of a computation on a state that may fail: a failure ends it where it
stands. -/
theorem ExceptT.run_bind_state {ε σ α β : Type} (work : ExceptT ε (StateM σ) α)
    (next : α → ExceptT ε (StateM σ) β) (s : σ) :
    (work >>= next).run s =
      match work.run s with
      | (.ok a, s) => (next a).run s
      | (.error e, s) => (.error e, s) := by
  show (match work s with | (a, s) => ExceptT.bindCont next a s) = _
  rcases h : work s with ⟨a | a, after⟩ <;> simp only [ExceptT.run, h] <;> rfl

theorem ok_of_toOption {ε α : Type} {outcome : Except ε α} {a : α} (h : outcome.toOption = some a) :
    outcome = .ok a := by
  cases outcome with
  | error e => simp [Except.toOption] at h
  | ok b => simpa [Except.toOption] using h

namespace Action

variable {α β : Type}

/-- **One step after another**: a failure ends the action where it stands. -/
theorem run_bind (work : Action α) (next : α → Action β) (depot : Depot) :
    (work >>= next).run depot =
      match work.run depot with
      | (.ok a, depot) => (next a).run depot
      | (.error failure, depot) => (.error failure, depot) := by
  rw [ExceptT.run_bind_state]
  rcases work.run depot with ⟨failure | a, after⟩ <;> rfl

/-- What two steps do to the depot, if it goes together, is what they do one after the other. -/
theorem after_bind (related : Depot → Depot → Prop)
    (htrans : ∀ {first second third}, related first second → related second third →
      related first third)
    {work : Action α} {next : α → Action β} {depot : Depot} (h : related depot (work.run depot).2)
    (hnext : ∀ a depot, related depot ((next a).run depot).2) :
    related depot ((work >>= next).run depot).2 := by
  rw [run_bind]
  rcases hrun : work.run depot with ⟨failure | a, after⟩ <;> rw [hrun] at h
  · exact h
  · exact htrans h (hnext a after)

/-- What is made of an outcome does not change the depot. -/
theorem after_map (work : Action α) (f : α → β) (depot : Depot) :
    ((do return f (← work) : Action β).run depot).2 = (work.run depot).2 := by
  rw [run_bind]
  rcases work.run depot with ⟨failure | a, after⟩ <;> rfl

/-! ### The primitives -/

@[simp] theorem run_pure (a : α) (depot : Depot) :
    (pure a : Action α).run depot = (.ok a, depot) := rfl

@[simp] theorem run_throw (failure : Failure) (depot : Depot) :
    (throw failure : Action α).run depot = (.error failure, depot) := rfl

@[simp] theorem run_get (depot : Depot) : (get : Action Depot).run depot = (.ok depot, depot) := rfl

@[simp] theorem run_set (depot after : Depot) :
    (set after : Action PUnit).run depot = (.ok ⟨⟩, after) := rfl

@[simp] theorem run_lift (work : StateM Depot α) (depot : Depot) :
    (liftM work : Action α).run depot = (.ok (work.run depot).1, (work.run depot).2) := rfl

@[simp] theorem run_epoch (depot : Depot) : epoch.run depot = (depot.site.epoch, depot) := rfl

@[simp] theorem run_onSite (work : StateM Site α) (depot : Depot) :
    (onSite work).run depot =
      ((work.run depot.site).1, { depot with site := (work.run depot.site).2 }) := rfl

@[simp] theorem run_ask (report : Fault → Failure) (work : StateM Site (Except Fault α))
    (depot : Depot) :
    (ask report work).run depot =
      ((work.run depot.site).1.mapError report, { depot with site := (work.run depot.site).2 }) :=
  rfl

@[simp] theorem run_attempt (work : Action α) (depot : Depot) :
    (attempt work).run depot = work.run depot := rfl

@[simp] theorem run_ofValue_ok (a : α) (depot : Depot) :
    (ofValue (.ok a)).run depot = (.ok a, depot) := rfl

@[simp] theorem run_ofValue_error (fault : ValueFault) (depot : Depot) :
    (ofValue (.error fault) : Action α).run depot = (.error (.value fault), depot) := rfl

@[simp] theorem run_ofFault_ok (a : α) (depot : Depot) :
    (ofFault (.ok a)).run depot = (.ok a, depot) := rfl

@[simp] theorem run_ofFault_error (fault : Fault) (depot : Depot) :
    (ofFault (.error fault) : Action α).run depot = (.error (.fault fault), depot) := rfl

end Action

/-! ### Notes -/

/-- The keys of the objects that a call is about. -/
def Call.objectKeys : Call → List String
  | .sign link => [link.key]
  | .putObject _ key _ _ _ | .headObject _ key => [key]
  | .deleteObjects _ keys => keys
  | _ => []

/-- Calls were made, and all of them are of this kind. -/
def Site.Calls (kind : Call → Prop) (before after : Site) : Prop :=
  ∃ made, after.calls = before.calls ++ made ∧ ∀ call ∈ made, kind call

namespace Site.Calls

variable {kind : Call → Prop} {first second third : Site}

theorem of_eq (h : second.calls = first.calls) : Calls kind first second :=
  ⟨[], h.trans (List.append_nil _).symm, nofun⟩

theorem trans (h : Calls kind first second) (h' : Calls kind second third) :
    Calls kind first third := by
  obtain ⟨made, hmade, hfirst⟩ := h
  obtain ⟨more, hmore, hsecond⟩ := h'
  refine ⟨made ++ more, by rw [hmore, hmade, List.append_assoc], fun call hcall => ?_⟩
  exact (List.mem_append.mp hcall).elim (hfirst call) (hsecond call)

theorem mono {other : Call → Prop} (h : Calls kind first second)
    (hother : ∀ call, kind call → other call) : Calls other first second := by
  obtain ⟨made, hmade, hkind⟩ := h
  exact ⟨made, hmade, fun call hcall => hother call (hkind call hcall)⟩

theorem single {call : Call} (hcall : second.calls = first.calls ++ [call]) (h : kind call) :
    Calls kind first second := ⟨[call], hcall, by simpa using h⟩

end Site.Calls

/-- **Only notes were added**, and none of a call about an object: the sites agree in everything but
the calls and the log. -/
structure Site.Noted (before after : Site) : Prop where
  now : after.now = before.now
  lot : after.lot = before.lot
  files : after.files = before.files
  objects : after.objects = before.objects
  calls : Site.Calls (·.objectKeys = []) before after

namespace Site.Noted

variable {first second third : Site}

theorem refl (site : Site) : Noted site site := ⟨rfl, rfl, rfl, rfl, .of_eq rfl⟩

theorem trans (h : Noted first second) (h' : Noted second third) : Noted first third :=
  ⟨h'.now.trans h.now, h'.lot.trans h.lot, h'.files.trans h.files, h'.objects.trans h.objects,
    h.calls.trans h'.calls⟩

theorem epoch (h : Noted first second) : second.epoch = first.epoch := by
  rw [Site.epoch, Site.epoch, h.now]

theorem note {call : Call} (h : call.objectKeys = []) (site : Site) :
    Noted site ((Site.note call).run site).2 := ⟨rfl, rfl, rfl, rfl, .single rfl h⟩

theorem say (level : Level) (text : String) (site : Site) :
    Noted site ((Site.say level text).run site).2 := ⟨rfl, rfl, rfl, rfl, .of_eq rfl⟩

/-- More may be logged. -/
theorem logged {log : List LogLine} (h : Noted first second) : Noted first { second with log } :=
  ⟨h.now, h.lot, h.files, h.objects, h.calls⟩

end Site.Noted

namespace RecordStore

@[simp] theorem run_note (call : Call) (depot : Depot) :
    (note call).run depot = (.ok ⟨⟩, { depot with site := ((Site.note call).run depot.site).2 }) :=
  rfl

@[simp] theorem run_put (records : RecordStore) (depot : Depot) :
    (put records).run depot = (.ok ⟨⟩, { depot with records }) := rfl

end RecordStore

end MediaDepot
