import MediaDepot.MediaError

/-!
# Registered handlers

Handlers are made by name. A name is given once; the two handlers of this library register under
their own names unless these are taken.

* `Registry.register`, `Registry.withDefaults`, `Registry.create` — giving names and using them.
-/

namespace MediaDepot

/-- Where files are kept. -/
inductive Backend where
  | files
  | bucket
  deriving DecidableEq, Repr, Inhabited

/-- The name of a handler. -/
def Backend.name : Backend → String
  | .files => "fs"
  | .bucket => "s3"

/-- Names of handlers with what they stand for. -/
abbrev Registry := List (String × Backend)

namespace Registry

/-- Gives a name. -/
def register (registry : Registry) (name : String) (backend : Backend) :
    Except ValueFault Registry :=
  if (registry.lookup name).isSome then .error (.handlerExists name)
  else .ok (registry ++ [(name, backend)])

/-- Gives a name unless it is taken. -/
def registerNew (registry : Registry) (name : String) (backend : Backend) : Registry :=
  match registry.register name backend with
  | .ok more => more
  | .error _ => registry

/-- With the handlers of this library under their own names, as far as these are free. -/
def withDefaults (registry : Registry) : Registry :=
  [.files, .bucket].foldl (fun r (backend : Backend) => r.registerNew backend.name backend) registry

/-- The names, in order. -/
def names (registry : Registry) : List String :=
  (registry.map Prod.fst).mergeSort fun a b => decide (a ≤ b)

/-- The kind of handler that a name stands for. -/
def create (registry : Registry) (name : String) : Except MediaError Backend :=
  match registry.lookup name with
  | some backend => .ok backend
  | none => .error (.config (.unknownHandler name registry.names))

end Registry

end MediaDepot
