import MediaDepot.Uid
import MediaDepot.Url.Split

/-!
# Serve URLs

A file is served under a fixed beginning of URLs, followed by the text of its identifier and, after
a point, anything but a slash. A beginning that starts with a slash is compared with the path of the
URL, any other with scheme, host and path.

* `Uid.ofUrl` — the identifier in a URL, zero if there is none.
-/

namespace MediaDepot

open Text

/-- What a URL is compared by: its path alone, or its scheme, host and path. -/
def Url.target (url : Url) (byPath : Bool) : List Char :=
  if byPath then url.path else url.scheme ++ "://".toList ++ url.host ++ url.path

/-- The identifier that a file name begins with, up to the first point. -/
def Uid.ofFileName (name : List Char) : Uid :=
  if name.contains '/' then .zero else .parse (String.ofList (cut '.' name).1)

/-- The identifier in a URL that begins as serve URLs do. -/
def Uid.ofUrl (url serveUrl : String) : Except Url.Fault Uid :=
  if url.isEmpty || serveUrl.isEmpty then .ok .zero
  else (Url.split url).map fun parts =>
    let start := serveUrl.toList
    match dropPrefix? start (parts.target (start.head? == some '/')) with
    | some name => .ofFileName name
    | none => .zero

end MediaDepot
