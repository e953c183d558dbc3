import MediaDepot.Handler.Bucket

/-!
# MediaDepot.Proofs.ConfigRefusals

**What comes of a configuration that cannot be used.** Every field that does not have its form is a
fault of the configuration, with one exception: how long signed URLs are good is taken roughly
before its form is looked at, and no whole number can be made of a list, an object or an infinity
(`Json.Uncountable`). Such a value breaks reading off with a fault of its own, and a value of any
other kind does not (`BucketConfig.linkSecondsOf_eq_error_iff`). So a refusal is an error of the
configuration unless it is given such a value, and either comes before the first call of the object
store (`BucketHandler.refusals_are_config_iff`).
-/

namespace MediaDepot

/-- No whole number can be made of the value; the fault says so. -/
inductive Json.Uncountable : Json → Fault → Prop where
  | list (items : List Json) :
    Uncountable (.arr items) (.wrongType (BucketConfig.noNumberMessage (.arr items)))
  | object (fields : Fields) :
    Uncountable (.obj fields) (.wrongType (BucketConfig.noNumberMessage (.obj fields)))
  | endless (negative : Bool) :
    Uncountable (.float (.infinite negative)) (.overflow "cannot convert float infinity to integer")

/-- The failure is an error of the configuration. -/
def Failure.IsConfig (failure : Failure) : Prop := ∃ error, failure = .media (.config error)

/-- The configuration gives something as a lifetime of signed URLs that no whole number can be made
of. -/
def RawConfig.GivesUncountable (raw : RawConfig) (fault : Fault) : Prop :=
  ∃ fields value, raw.fields = .ok fields ∧ fields.get? "presign_ttl" = some value ∧
    value.Uncountable fault

/-! ### Reading -/

theorem exists_of_bind_eq_ok {ε α β : Type} {work : Except ε α} {next : α → Except ε β} {b : β}
    (h : work >>= next = .ok b) : ∃ a, work = .ok a ∧ next a = .ok b := by
  cases work with
  | error fault => cases h
  | ok a => exact ⟨a, rfl, h⟩

/-- What fails in two steps fails in the first one if the second cannot fail so. -/
theorem bind_eq_error_iff {ε α β : Type} {work : Except ε α} {next : α → Except ε β} {fault : ε}
    (hnext : ∀ a, next a ≠ .error fault) : work >>= next = .error fault ↔ work = .error fault := by
  cases work with
  | error other =>
      exact ⟨fun h => congrArg _ (Except.error.inj h), fun h => congrArg _ (Except.error.inj h)⟩
  | ok a => exact ⟨fun h => absurd h (hnext a), nofun⟩

theorem isConfig_of_ofChecked {α : Type} {checked : Checked α} {failure : Failure}
    (h : ofChecked checked = .error failure) : failure.IsConfig := by
  cases checked with
  | sound config => cases h
  | faulty faults => exact ⟨.fields faults, (Except.error.inj h).symm⟩

/-- A configuration is refused since it is no document, or since its fields are. -/
theorem parseConfig_eq_error {α : Type} {read : Fields → Except Failure α} {raw : RawConfig}
    {failure : Failure} (h : parseConfig read raw = .error failure) :
    failure.IsConfig ∨ ∃ fields, raw.fields = .ok fields ∧ read fields = .error failure := by
  unfold parseConfig at h
  split at h
  · next fields hfields => exact .inr ⟨fields, hfields, h⟩
  · exact .inl ⟨_, (Except.error.inj h).symm⟩

namespace LocalConfig

/-- **A configuration for local files** is refused with an error of the configuration. -/
theorem isConfig_of_parse_eq_error {raw : RawConfig} {failure : Failure}
    (h : parse raw = .error failure) : failure.IsConfig := by
  rcases parseConfig_eq_error h with hconfig | ⟨fields, -, hread⟩
  · exact hconfig
  · exact isConfig_of_ofChecked hread

end LocalConfig

namespace BucketConfig

variable {value : Json} {fields : Fields} {raw : RawConfig} {fault : Fault} {failure : Failure}

theorem roughSeconds_eq_error_iff (hnull : value ≠ .null) :
    roughSeconds value = .error fault ↔ value.Uncountable fault := by
  constructor
  · intro h
    unfold roughSeconds at h
    split at h
    case h_5 x _ =>
      -- of all numbers with a fraction or an exponent, those without an end have no whole part
      cases x with
      | nan => contradiction
      | finite negative mantissa exponent => cases h
      | infinite negative =>
          obtain rfl := Except.error.inj h
          exact .endless negative
    case h_6 hint hbool hstr _ hfloat =>
      obtain rfl := Except.error.inj h
      cases value with
      | null => contradiction
      | bool b => exact absurd rfl (hbool b)
      | int n => exact absurd rfl (hint n)
      | float x => exact absurd rfl (hfloat x)
      | str s => exact absurd rfl (hstr s)
      | arr items => exact .list items
      | obj fields => exact .object fields
    all_goals cases h
  · rintro (_ | _ | _) <;> rfl

/-- **Reading a lifetime breaks off** just at values that no whole number can be made of. -/
theorem linkSecondsOf_eq_error_iff :
    linkSecondsOf value = .error fault ↔ value.Uncountable fault := by
  by_cases hnull : value = .null
  · subst hnull
    exact ⟨nofun, nofun⟩
  rw [← roughSeconds_eq_error_iff hnull]
  unfold linkSecondsOf
  split
  · contradiction
  · refine bind_eq_error_iff fun rough => ?_
    cases rough with
    | none => exact nofun
    | some n => exact nofun

theorem checkLinkSeconds_eq_error_iff :
    checkLinkSeconds fields = .error fault ↔
      ∃ value, fields.get? "presign_ttl" = some value ∧ value.Uncountable fault := by
  unfold checkLinkSeconds
  rcases hvalue : fields.get? "presign_ttl" with _ | value
  · simp
  · simp only [Option.some.injEq, exists_eq_left', ← linkSecondsOf_eq_error_iff]
    refine bind_eq_error_iff fun seconds => ?_
    cases seconds with
    | error misfit => exact nofun
    | ok n => exact nofun

/-- A refusal is an error of the configuration, or the fault of a value that no whole number can be
made of. -/
theorem parse_eq_error (h : parse raw = .error failure) :
    failure.IsConfig ∨ ∃ fault, failure = .fault fault ∧ raw.GivesUncountable fault := by
  rcases parseConfig_eq_error h with hconfig | ⟨fields, hfields, hread⟩
  · exact .inl hconfig
  · split at hread
    · exact .inl (isConfig_of_ofChecked hread)
    · next fault hseconds =>
        obtain ⟨value, hvalue, huncountable⟩ := checkLinkSeconds_eq_error_iff.mp hseconds
        exact .inr ⟨fault, (Except.error.inj hread).symm, fields, value, hfields, hvalue,
          huncountable⟩

theorem parse_of_givesUncountable (h : raw.GivesUncountable fault) :
    parse raw = .error (.fault fault) := by
  obtain ⟨fields, value, hfields, hvalue, huncountable⟩ := h
  have hseconds : checkLinkSeconds fields = .error fault :=
    checkLinkSeconds_eq_error_iff.mpr ⟨value, hvalue, huncountable⟩
  rw [parse, parseConfig, hfields]
  simp only [hseconds]

/-- **A configuration of an object store** is refused with an error of the configuration unless it
gives a lifetime that no whole number can be made of. -/
theorem isConfig_iff_of_parse_eq_error (h : parse raw = .error failure) :
    failure.IsConfig ↔ ∀ fault, ¬ raw.GivesUncountable fault := by
  constructor
  · rintro ⟨error, rfl⟩ fault hgives
    rw [parse_of_givesUncountable hgives] at h
    cases h
  · intro hnone
    rcases parse_eq_error h with hconfig | ⟨fault, -, hgives⟩
    · exact hconfig
    · exact absurd hgives (hnone fault)

end BucketConfig

/-! ### Initialization -/

/-- The configuration can be read, and no required field of it is empty. -/
def RawConfig.Usable (raw : RawConfig) : Prop :=
  ∃ config, BucketConfig.parse raw = .ok config ∧ config.firstMissing? = none

namespace BucketHandler

variable {raw : RawConfig}

theorem readConfig_of_not_usable (h : ¬ raw.Usable) :
    ∃ failure, readConfig raw = .error failure ∧
      (failure.IsConfig ↔ ∀ fault, ¬ raw.GivesUncountable fault) := by
  unfold readConfig
  rcases hparse : BucketConfig.parse raw with failure | config
  · exact ⟨failure, rfl, BucketConfig.isConfig_iff_of_parse_eq_error hparse⟩
  · rcases hmissing : config.firstMissing? with _ | error
    · exact absurd ⟨config, hparse, hmissing⟩ h
    · refine ⟨.media (.config error), by simp only [hmissing], fun _ fault hgives => ?_,
        fun _ => ⟨error, rfl⟩⟩
      rw [BucketConfig.parse_of_givesUncountable hgives] at hparse
      cases hparse

/-- **What comes of a configuration that cannot be used.** For local files it is always an error of
the configuration. For an object store it is one just if no list, object or infinity stands for the
lifetime of signed URLs; else the fault of making a whole number of that value comes through.
Initialization with a configuration that cannot be used fails in this way and leaves everything as
it was, with no call of the object store. -/
theorem refusals_are_config_iff (raw : RawConfig) :
    (∀ failure, LocalConfig.parse raw = .error failure → failure.IsConfig) ∧
      (∀ failure, BucketConfig.parse raw = .error failure →
        (failure.IsConfig ↔ ∀ fault, ¬ raw.GivesUncountable fault)) ∧
      (∀ fault, raw.GivesUncountable fault → BucketConfig.parse raw = .error (.fault fault)) ∧
      (¬ raw.Usable → ∃ failure, (failure.IsConfig ↔ ∀ fault, ¬ raw.GivesUncountable fault) ∧
        ∀ (given : Bool) (handler : BucketHandler) (site : Site),
          (handler.init raw given).run site = ((handler, .error failure), site)) := by
  refine ⟨fun failure => LocalConfig.isConfig_of_parse_eq_error,
    fun failure => BucketConfig.isConfig_iff_of_parse_eq_error,
    fun fault => BucketConfig.parse_of_givesUncountable, fun husable => ?_⟩
  obtain ⟨failure, hread, hconfig⟩ := readConfig_of_not_usable husable
  refine ⟨failure, hconfig, fun given handler site => ?_⟩
  rw [init, hread]
  rfl

/-- A text that is no document, and a list as the lifetime of signed URLs. Initialization fails at
both, at the text with an error of the configuration and at the list with another fault. -/
theorem refusals_are_config_iff_of_text_and_list :
    let text : RawConfig := .text "not a document"
    let list : RawConfig := .document [("presign_ttl", .arr [])]
    let refused : Failure := .media (.config (.fields [⟨none, none, .document⟩]))
    let broken : Fault :=
      .wrongType "int() argument must be a string, a bytes-like object or a real number, not 'list'"
    LocalConfig.parse text = .error refused ∧ BucketConfig.parse text = .error refused ∧
      refused.IsConfig ∧ (init text true {}).run {} = (({}, .error refused), {}) ∧
      BucketConfig.parse list = .error (.fault broken) ∧
      (init list true {}).run {} = (({}, .error (.fault broken)), {}) := by
  intro text list refused broken
  have htext : LocalConfig.parse text = .error refused := rfl
  have htext' : BucketConfig.parse text = .error refused := rfl
  have hlist : list.GivesUncountable broken := ⟨_, _, rfl, rfl, .list []⟩
  obtain ⟨hlocal, -, -, hinit⟩ := refusals_are_config_iff text
  obtain ⟨-, -, hbreaks, hinit'⟩ := refusals_are_config_iff list
  obtain ⟨failure, -, hrun⟩ := hinit (by rintro ⟨config, hparse, -⟩; cases hparse)
  obtain ⟨failure', -, hrun'⟩ := hinit' (by rintro ⟨config, hparse, -⟩; cases hparse)
  have hfailure : failure = refused := Except.error.inj (congrArg (·.1.2) (hrun true {} {})).symm
  have hfailure' : failure' = .fault broken :=
    Except.error.inj (congrArg (·.1.2) (hrun' true {} {})).symm
  exact ⟨htext, htext', hlocal refused htext, hfailure ▸ hrun true {} {}, hbreaks broken hlist,
    hfailure' ▸ hrun' true {} {}⟩

/-- A list as the lifetime of signed URLs is refused, but not with an error of the configuration. -/
theorem list_is_no_config_error :
    let raw : RawConfig := .document [("presign_ttl", .arr [])]
    ∃ failure, BucketConfig.parse raw = .error failure ∧ ¬ failure.IsConfig ∧
      (init raw true {}).run {} = (({}, .error failure), {}) :=
  ⟨.fault (.wrongType (BucketConfig.noNumberMessage (.arr []))), rfl, nofun, rfl⟩

end BucketHandler

end MediaDepot
