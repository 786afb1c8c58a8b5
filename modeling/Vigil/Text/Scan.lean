/-!
# Reading text from the front

A `Scan` takes some characters off the front of a text and gives a value, or fails.  Failure
leaves no trace, so `p <|> q` tries `q` where `p` began.

* `Scan.next`, `Scan.peek?`, `Scan.char`, `Scan.chars`, `Scan.takeWhile`: single steps;
* `Scan.many`, `Scan.sepBy₁`: repetition;
* `Scan.whole?`: run on a text and demand all of it.
-/

namespace Vigil.Text

/-- A reader of the front of a text. -/
abbrev Scan (α : Type) := StateT (List Char) Option α

namespace Scan

variable {α β : Type}

/-- The characters that are left. -/
def rest : Scan (List Char) := get

/-- The next character, which stays. -/
def peek? : Scan (Option Char) := do return (← rest).head?

/-- Take the next character. -/
def next : Scan Char := do
  match ← rest with
  | [] => failure
  | c :: cs => set cs; return c

/-- Take the next character if it belongs to a class. -/
def satisfy (p : Char → Bool) : Scan Char := do
  let c ← next
  if p c then return c else failure

/-- Take one given character. -/
def char (c : Char) : Scan Unit := do
  let _ ← satisfy (· == c)

/-- Take the given characters, one after the other. -/
def chars : List Char → Scan Unit
  | [] => pure ()
  | c :: cs => do char c; chars cs

/-- Take characters as long as they belong to a class. -/
def takeWhile (p : Char → Bool) : Scan (List Char) := do
  let cs ← rest
  set (cs.dropWhile p)
  return cs.takeWhile p

/-- Take at least one character of a class, and all that follow it. -/
def takeWhile₁ (p : Char → Bool) : Scan (List Char) := do
  let c ← satisfy p
  return c :: (← takeWhile p)

/-- Take what `p` reads, or nothing. -/
def optional (p : Scan α) : Scan (Option α) :=
  (some <$> p) <|> pure none

/-- Whether `p` could read here; nothing is taken. -/
def looksAt (p : Scan α) : Scan Bool := do
  return (p.run (← rest)).isSome

/-- Succeed at the end of the text only. -/
def atEnd : Scan Unit := do
  match ← rest with
  | [] => pure ()
  | _ :: _ => failure

/-- Repeat `p` while it succeeds and takes something, at most `fuel` times. -/
def manyUpTo (p : Scan α) : Nat → Scan (List α)
  | 0 => pure []
  | fuel + 1 => do
    let before ← rest
    match p.run before with
    | none => pure []
    | some (a, after) =>
      if after.length < before.length then
        set after
        return a :: (← manyUpTo p fuel)
      else pure []

/-- Repeat `p` while it succeeds and takes something. -/
def many (p : Scan α) : Scan (List α) := do manyUpTo p (← rest).length

/-- One `p`, then as many more as have a `sep` before them. -/
def sepBy₁ (p : Scan α) (sep : Scan β) : Scan (List α) := do
  let a ← p
  return a :: (← many (do let _ ← sep; p))

/-- Run a reader and demand that it takes the whole text. -/
def whole? (p : Scan α) (text : List Char) : Option α :=
  (do let a ← p; atEnd; return a : Scan α).run' text

end Scan

end Vigil.Text
