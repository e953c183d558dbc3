import MediaDepot.Mime.Table
import MediaDepot.Text.Case
import MediaDepot.Text.Pieces

/-!
# Media types and file names

* `suffixOf?` — the suffix for a media type: the first one in the table.
* `ofFileName?` — the media type that a file name suggests. The name may be a URL; one that holds
  its data itself names its type.
-/

namespace MediaDepot.Mime

open Text

/-- The suffix for a media type. -/
def suffixOf? (mimeType : String) : Option String :=
  (table.find? fun entry => entry.2 == lower mimeType).map Prod.fst

/-- The media type for a suffix. -/
def typeOf? (suffix : String) : Option String := table.lookup (lower suffix)

/-- A file name without its suffix, and the suffix with its point. Points at the beginning of the
last part of the name begin no suffix. -/
def splitSuffix (name : List Char) : List Char × List Char :=
  let (folder, file) := cutLast '/' name
  match cutLast '.' file with
  | (some stem, suffix) =>
    if stem.all (· == '.') then (name, [])
    else ((folder.map (· ++ ['/'])).getD [] ++ stem, '.' :: suffix)
  | (none, _) => (name, [])

/-- Suffixes that stand for two. -/
def shorthands : List (String × String) := [
  (".svgz", ".svg.gz"), (".tgz", ".tar.gz"), (".taz", ".tar.gz"), (".tz", ".tar.gz"),
  (".tbz2", ".tar.bz2"), (".txz", ".tar.xz")]

/-- Suffixes of compressed files, in exactly this spelling. -/
def compressed : List String := [".gz", ".Z", ".bz2", ".xz", ".br"]

/-- A file name with the suffix written out, split at its last suffix. -/
def splitWhole (name : List Char) : List Char × String :=
  let (stem, suffix) := splitSuffix name
  match shorthands.lookup (lower (String.ofList suffix)) with
  | some whole =>
    let (stem, suffix) := splitSuffix (stem ++ whole.toList)
    (stem, String.ofList suffix)
  | none => (stem, String.ofList suffix)

/-- The media type that a path suggests: a suffix of compression does not count. -/
def ofPath? (path : List Char) : Option String :=
  let (stem, suffix) := splitWhole path
  let suffix := if compressed.contains suffix then String.ofList (splitSuffix stem).2 else suffix
  typeOf? suffix

/-- The media type that data within a URL name, text if they name none; `none` if there are no
data. -/
def ofData? (path : List Char) : Option String :=
  match cut ',' path with
  | (_, none) => none
  | (head, some _) =>
    let named := (cut ';' head).1
    some (if named.contains '=' || !named.contains '/' then "text/plain" else String.ofList named)

/-- The scheme of a name in small letters, and what follows it: what stands before a colon, unless a
slash comes first or nothing does. -/
def splitScheme (name : List Char) : Option (List Char) × List Char :=
  match cut ':' name with
  | (c :: scheme, some rest) =>
    if (c :: scheme).contains '/' then (none, name)
      else (some ((c :: scheme).map Char.toLower), rest)
  | _ => (none, name)

/-- The media type that a file name suggests. -/
def ofFileName? (name : String) : Option String :=
  match splitScheme name.toList with
  | (some ['d', 'a', 't', 'a'], rest) => ofData? rest
  | (_, rest) => ofPath? rest

end MediaDepot.Mime
