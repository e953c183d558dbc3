import MediaDepot.Text.Case

/-!
# Headers

Names and values of a request or a response. Names are compared without regard to letter case.

* `Headers.get?` — the value of a name: an entry in exactly this spelling counts first, then the
  first one in any spelling.
* `Headers.inSmallLetters` — the names in one spelling.
-/

namespace MediaDepot

/-- Names with their values. -/
abbrev Headers := List (String × String)

namespace Headers

/-- The first value of a name in any spelling. -/
def getAnyCase? (headers : Headers) (name : String) : Option String :=
  (headers.find? fun entry => Text.lower entry.1 == Text.lower name).map Prod.snd

/-- The value of a name. -/
def get? (headers : Headers) (name : String) : Option String :=
  (headers.lookup name).or (headers.getAnyCase? name)

/-- The headers with their names in small letters. -/
def inSmallLetters (headers : Headers) : Headers :=
  headers.map fun (name, value) => (Text.lower name, value)

end Headers

end MediaDepot
