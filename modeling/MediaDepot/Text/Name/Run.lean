import MediaDepot.Text.Pieces

/-!
# Runs of names

Every character has a name of a few words. Characters that follow one another often have names that
differ in a word only, so a run of names gives each of them by its difference from the one before.

* `NameRun.next` — the name after a name.
* `NameRun.find?` — the character of a name in a run.
-/

namespace MediaDepot.Text

/-- Names of characters that follow one another from the first on. The entries of a row stand
between commas. An entry holds the number of words that its name has in common with the beginning of
the name before, the other words, and behind a slash the number of words in common at the end, if
any. -/
structure NameRun where
  first : Nat
  rows : List String

namespace NameRun

/-- Does it stand between words? -/
def isBetween (c : Char) : Bool := c == ' ' || c == '-'

/-- The words of a name, each together with what separates it from the word before. -/
def words : List Char → List (List Char)
  | [] => []
  | c :: rest =>
    match words rest with
    | [] => [[c]]
    | word :: more =>
      if (word.head?.map isBetween).getD false then [c] :: word :: more else (c :: word) :: more

/-- No character of a name is lost between its words. -/
theorem flatten_words (cs : List Char) : (words cs).flatten = cs := by
  induction cs with
  | nil => rfl
  | cons c rest ih =>
    unfold words
    split
    · next h =>
      rw [h] at ih
      simp [← ih]
    · next word more h =>
      rw [h] at ih
      split <;> simp [← ih]

/-- The number that a digit stands for. -/
def digit (c : Char) : Nat := c.toNat - 48

/-- The words after a common beginning; a space that is left out separates them from it. -/
def wordsAfter (common : Nat) (cs : List Char) : List (List Char) :=
  match cs with
  | [] => []
  | c :: _ => words (if common = 0 || isBetween c then cs else ' ' :: cs)

/-- The words of the name that an entry stands for, after the name with the given words. -/
def next (previous : List (List Char)) (entry : List Char) : List (List Char) :=
  let (text, ending) := cut '/' entry
  match text with
  | [] => []
  | d :: text =>
    let common := digit d
    let kept := match ending with
      | some (e :: _) => digit e
      | _ => 0
    previous.take common ++ wordsAfter common text ++ previous.drop (previous.length - kept)

/-- The place of a name among entries, counted from `place` on. -/
def placeFrom? (name : List Char) (previous : List (List Char)) (place : Nat) :
    List (List Char) → Option Nat
  | [] => none
  | entry :: rest =>
    let current := next previous entry
    if current.flatten = name then some place else placeFrom? name current (place + 1) rest

/-- The code point of a name in a run. -/
def find? (run : NameRun) (name : List Char) : Option Nat :=
  placeFrom? name [] run.first (run.rows.flatMap fun row => pieces ',' row.toList)

end NameRun

end MediaDepot.Text
