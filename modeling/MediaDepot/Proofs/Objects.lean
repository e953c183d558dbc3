import MediaDepot.Proofs.Actions
import MediaDepot.Handler.Basic

/-!
# MediaDepot.Proofs.Objects

**What the calls of the object store leave behind.** A call is noted and takes the first behaviour
that was laid down for its operation off the script (`Site.called`). A body is stored when it was
read to its end (`Site.run_putObject`); of the keys of a deletion those go that the answer does not
name (`Site.run_deleteObjects`). `ObjectStore.lookup_put` and `lookup_erase` say what is found under
a key afterwards, and `take_eq` what stays laid down.

`Site.Concerns` says that work was about objects of certain keys alone; each operation concerns the
keys that it is given.
-/

namespace MediaDepot

/-! ### Objects by key -/

namespace ObjectStore

/-- Leaving out entries by their keys shows at these keys alone. -/
theorem lookup_filter_fst {β : Type} (entries : List (String × β)) (keeps : String → Bool)
    (key : String) :
    (entries.filter fun e => keeps e.1).lookup key =
      if keeps key then entries.lookup key else none := by
  induction entries with
  | nil => simp
  | cons e rest ih =>
      obtain ⟨first, content⟩ := e
      by_cases hkey : key = first
      · subst hkey
        by_cases hkeeps : keeps key = true <;> simp [hkeeps, ih]
      · have hb : (key == first) = false := by simpa using hkey
        by_cases hkeeps : keeps first = true <;> simp [List.lookup_cons, hkeeps, hb, ih]

theorem lookup_put (store : ObjectStore) (key : String) (body : Bytes) (other : String) :
    (store.put key body).objects.lookup other =
      if other = key then some body else store.objects.lookup other := by
  by_cases hkey : other = key
  · simp [put, hkey]
  · have hb : (other == key) = false := by simpa using hkey
    have hrest := lookup_filter_fst store.objects (· != key) other
    simp only [bne_iff_ne, ne_eq, hkey, not_false_eq_true, if_true] at hrest
    simp [put, List.lookup_cons, hb, hkey, hrest]

theorem lookup_erase (store : ObjectStore) (keys : List String) (key : String) :
    (store.erase keys).objects.lookup key =
      if key ∈ keys then none else store.objects.lookup key := by
  rw [erase, lookup_filter_fst store.objects (fun k => !keys.contains k)]
  by_cases hkey : key ∈ keys <;> simp [hkey]

theorem erase_nil (store : ObjectStore) : store.erase [] = store := by
  have hall : (store.objects.filter fun o => !(([] : List String).contains o.1)) = store.objects :=
    List.filter_eq_self.mpr fun _ _ => rfl
  rw [erase, hall]

/-! ### What is laid down -/

/-- What is laid down for the calls of an operation, in their order. -/
def laidDown (store : ObjectStore) (operation : Operation) : List Behaviour :=
  store.script.filterMap fun entry => if entry.1 = operation then some entry.2 else none

/-- A call takes the first of what is laid down for its operation. -/
theorem take_eq (store : ObjectStore) (operation : Operation) :
    (store.take operation).1 = (store.laidDown operation).head? ∧
      (store.take operation).2.laidDown operation = (store.laidDown operation).tail := by
  obtain ⟨objects, script⟩ := store
  simp only [take, laidDown]
  induction script with
  | nil => simp [takeFrom]
  | cons entry rest ih =>
      obtain ⟨first, behaviour⟩ := entry
      by_cases hfirst : first = operation
      · simp [takeFrom, hfirst]
      · simpa [takeFrom, hfirst] using ih

end ObjectStore

/-! ### Calls -/

namespace Site

/-- The site after a call of the object store. -/
def called (site : Site) (operation : Operation) (call : Call) : Site :=
  { site with objects := (site.objects.take operation).2, calls := site.calls ++ [call] }

theorem run_ask (operation : Operation) (call : Call) (usual : Json) (site : Site) :
    (ask operation call usual).run site =
      (answerOf usual (site.objects.take operation).1, site.called operation call) := rfl

/-- A body is stored when it was read to its end. -/
theorem run_putObject (bucket key cacheControl contentType : String) (source : Source)
    (site : Site) :
    (putObject bucket key cacheControl contentType source).run site =
      let call := Call.putObject bucket key cacheControl contentType
      let behaviour := (site.objects.take .putObject).1
      let drained := (Counter.of source).drain (pieceOf behaviour)
      match behaviour, drained.2.1 with
      | some (.fail fault), _ => (.error fault, site.called .putObject (call none))
      | _, some fault => (.error fault, site.called .putObject (call none))
      | _, none =>
        (.ok drained.2.2.count,
          { site.called .putObject (call (some drained.1)) with
            objects := (site.objects.take .putObject).2.put key drained.1 }) := by
  rw [putObject, StateM.run_bind]
  rcases hbehaviour : (site.objects.take .putObject).1 with _ | fault | answer | size
  all_goals
    simp only [show (next .putObject).run site =
      ((site.objects.take .putObject).1, { site with objects := (site.objects.take .putObject).2 })
      from rfl, hbehaviour]
  case some.fail => rfl
  all_goals
    rcases (Counter.of source).drain _ with ⟨body, _ | fault, reader⟩ <;> rfl

/-- What was stored is there under its key. -/
theorem stored_of_putObject {bucket key cacheControl contentType : String} {source : Source}
    {site : Site} {size : Nat}
    (h : ((putObject bucket key cacheControl contentType source).run site).1 = .ok size) :
    (((putObject bucket key cacheControl contentType source).run site).2.objects.objects.lookup
      key).isSome := by
  revert h
  rw [run_putObject]
  dsimp only
  split
  · exact nofun
  · exact nofun
  · intro _
    simp [ObjectStore.lookup_put]

theorem run_headObject (bucket key : String) (site : Site) :
    ∃ usual, (headObject bucket key).run site =
      (answerOf usual (site.objects.take .headObject).1,
        site.called .headObject (.headObject bucket key)) := ⟨_, rfl⟩

/-- The keys that a deletion removes: those that its answer does not name. -/
def deleted (keys : List String) : Except Fault Json → List String
  | .error _ => []
  | .ok answer => keys.filter fun key => !(refusedKeys answer).contains key

theorem mem_of_mem_deleted {keys : List String} {answer : Except Fault Json} {key : String}
    (h : key ∈ deleted keys answer) : key ∈ keys := by
  cases answer with
  | error fault => cases h
  | ok answer => exact (List.mem_filter.mp h).1

/-- Of the keys of a deletion those go that the answer does not name. -/
theorem run_deleteObjects (bucket : String) (keys : List String) (site : Site) :
    (deleteObjects bucket keys).run site =
      let called := site.called .deleteObjects (.deleteObjects bucket keys)
      let answer := answerOf (.obj []) (site.objects.laidDown .deleteObjects).head?
      (answer, { called with objects := called.objects.erase (deleted keys answer) }) := by
  rw [deleteObjects, StateM.run_bind, run_ask, (site.objects.take_eq .deleteObjects).1]
  cases answerOf (.obj []) (site.objects.laidDown .deleteObjects).head? with
  | error fault =>
      dsimp only [deleted]
      rw [ObjectStore.erase_nil]
      rfl
  | ok answer => rfl

/-- What a deletion leaves: the other objects, and what is laid down for later deletions. -/
theorem deleteObjects_spec (bucket : String) (keys : List String) (site : Site) :
    let asked := (deleteObjects bucket keys).run site
    asked.1 = answerOf (.obj []) (site.objects.laidDown .deleteObjects).head? ∧
      asked.2.objects.laidDown .deleteObjects = (site.objects.laidDown .deleteObjects).tail ∧
      ∀ key, asked.2.objects.objects.lookup key =
        if key ∈ deleted keys asked.1 then none else site.objects.objects.lookup key := by
  rw [run_deleteObjects]
  refine ⟨rfl, (site.objects.take_eq .deleteObjects).2, fun key => ?_⟩
  exact ObjectStore.lookup_erase (site.objects.take .deleteObjects).2 _ key

end Site

/-! ### Work on some objects -/

/-- **The work concerned objects of these keys alone**: the calls that were made name no others, and
the others stay what they are. -/
structure Site.Concerns (named : String → Prop) (before after : Site) : Prop where
  calls : Site.Calls (fun call => ∀ key ∈ call.objectKeys, named key) before after
  objects : ∀ key, ¬ named key →
    after.objects.objects.lookup key = before.objects.objects.lookup key

namespace Site

variable {named : String → Prop} {first second third : Site}

namespace Concerns

theorem refl (named : String → Prop) (site : Site) : Concerns named site site :=
  ⟨.of_eq rfl, fun _ _ => rfl⟩

theorem trans (h : Concerns named first second) (h' : Concerns named second third) :
    Concerns named first third :=
  ⟨h.calls.trans h'.calls, fun key hkey => (h'.objects key hkey).trans (h.objects key hkey)⟩

theorem mono {more : String → Prop} (h : Concerns named first second)
    (hmore : ∀ key, named key → more key) : Concerns more first second where
  calls := h.calls.mono fun _ hnamed key hkey => hmore key (hnamed key hkey)
  objects key hkey := h.objects key fun hnamed => hkey (hmore key hnamed)

theorem of_noted (h : Noted first second) : Concerns named first second where
  calls := h.calls.mono fun call hnone key hkey => by
    rw [hnone] at hkey
    cases hkey
  objects key _ := by rw [h.objects]

theorem bind {α β : Type} {work : StateM Site α} {next : α → StateM Site β} {site : Site}
    (h : Concerns named site (work.run site).2)
    (hnext : ∀ a site, Concerns named site ((next a).run site).2) :
    Concerns named site ((work >>= next).run site).2 := h.trans (hnext _ _)

/-- A call concerns the objects that it names. -/
theorem called (site : Site) (operation : Operation) {call : Call}
    (h : ∀ key ∈ call.objectKeys, named key) : Concerns named site (site.called operation call) :=
  ⟨.single rfl h, fun _ _ => rfl⟩

end Concerns

theorem concerns_putObject (bucket key cacheControl contentType : String) (source : Source)
    (site : Site) :
    Concerns (· = key) site
      ((putObject bucket key cacheControl contentType source).run site).2 := by
  have hcalled (body : Option Bytes) : Concerns (· = key) site
      (site.called .putObject (.putObject bucket key cacheControl contentType body)) :=
    .called site .putObject (by simp [Call.objectKeys])
  rw [run_putObject]
  dsimp only
  split
  · exact hcalled none
  · exact hcalled none
  · -- the body is stored under the key
    refine ⟨(hcalled _).calls, fun other hother => ?_⟩
    exact (ObjectStore.lookup_put _ _ _ other).trans (if_neg hother)

theorem concerns_headObject (bucket key : String) (site : Site) :
    Concerns (· = key) site ((headObject bucket key).run site).2 := by
  obtain ⟨usual, hrun⟩ := run_headObject bucket key site
  rw [hrun]
  exact .called site .headObject (by simp [Call.objectKeys])

theorem concerns_sign (link : Link) (site : Site) :
    Concerns (· = link.key) site ((sign link).run site).2 :=
  .called site .sign (by simp [Call.objectKeys])

theorem concerns_deleteObjects (bucket : String) (keys : List String) (site : Site) :
    Concerns (· ∈ keys) site ((deleteObjects bucket keys).run site).2 := by
  have hcalled : Concerns (· ∈ keys) site
      (site.called .deleteObjects (.deleteObjects bucket keys)) :=
    .called site .deleteObjects fun _ hkey => hkey
  obtain ⟨-, -, hobjects⟩ := deleteObjects_spec bucket keys site
  refine ⟨?_, fun key hkey => ?_⟩
  · rw [run_deleteObjects]
    exact hcalled.calls
  · rw [hobjects, if_neg fun hmem => hkey (mem_of_mem_deleted hmem)]

end Site

end MediaDepot
