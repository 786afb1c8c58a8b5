import Vigil.Pattern.Expression

/-!
# Which regular expressions can be matched

An expression is matched against text, by characters or, where a flag asks for it, by bytes.  What
is known of characters is ASCII only.  So both cases of a character, and digits, spaces and words,
can be asked for where bytes are matched and not where characters are; and a byte beyond ASCII,
which is no text by itself, may not be matched.

* `Mode`: how an expression is matched, and `Mode.change`, what flags make of it;
* `Class.isMatched`, `Expression.mode?`: the classes and expressions that can be matched;
* `Expression.isMatched`: those that can be from the beginning on.
-/

namespace Vigil.Pattern

/-- How an expression is matched: whether letters stand for both their cases, and whether
characters, and not bytes, are matched. -/
structure Mode where
  caseless : Bool := false
  unicode : Bool := true
  deriving DecidableEq, Repr

namespace Mode

/-- The mode after a change of flags. -/
def change (m : Mode) (flags : Flags) : Mode :=
  ⟨flags.valueOf 'i' m.caseless, flags.valueOf 'u' m.unicode⟩

/-- Whether single characters can be matched: both cases of one cannot. -/
def reads (m : Mode) : Bool := !(m.unicode && m.caseless)

/-- Whether all characters but some can be matched: all bytes but some cannot. -/
def readsComplements (m : Mode) : Bool := m.unicode

/-- Whether what is known of ASCII only can be matched. -/
def readsWords (m : Mode) : Bool := !m.unicode

/-- Whether a literal can be matched by itself: a byte must be one of ASCII. -/
def readsLiteral (m : Mode) (l : Literal) : Bool :=
  m.reads && (m.unicode || !(l.byte && l.isWide))

/-- Whether a literal can be a member of a class: where bytes are matched it must be one. -/
def readsMember (m : Mode) (l : Literal) : Bool := m.reads && (m.unicode || !l.isWide)

end Mode

/-! ## Classes -/

mutual

/-- Whether a class can be matched. -/
def Class.isMatched (m : Mode) : Class → Bool
  | .literal l => m.readsMember l
  | .range low high => m.readsMember low && m.readsMember high
  | .named negated => m.reads && (!negated || m.readsComplements)
  | .shorthand negated => m.readsWords && (!negated || m.readsComplements)
  | .property => false
  | .bracketed negated body => body.isMatched m && (!negated || m.readsComplements)
  | .union parts => Class.areMatched m parts
  | .combined _ left right => left.isMatched m && right.isMatched m

/-- Whether all of some classes can be matched. -/
def Class.areMatched (m : Mode) : List Class → Bool
  | [] => true
  | c :: cs => c.isMatched m && Class.areMatched m cs

end

/-! ## Expressions -/

mutual

/-- The mode behind an expression, if it can be matched.  A change of flags holds up to the end of
the group, through all branches that follow. -/
def Expression.mode? (m : Mode) : Expression → Option Mode
  | .literal l => if m.readsLiteral l then some m else none
  | .any => if m.readsComplements then some m else none
  | .place word => if !word || m.readsWords then some m else none
  | .oneOf c => if c.isMatched m then some m else none
  | .setting flags => some (m.change flags)
  | .repeated e => e.mode? m
  | .group _ flags e => (e.mode? (m.change flags)).map fun _ => m
  | .sequence es => Expression.modeAfter? m es
  | .choice es => Expression.modeAfter? m es

/-- The mode behind expressions, if all can be matched. -/
def Expression.modeAfter? (m : Mode) : List Expression → Option Mode
  | [] => some m
  | e :: es => (e.mode? m).bind fun m => Expression.modeAfter? m es

end

/-- Whether an expression can be matched if no flags come before it. -/
def Expression.isMatched (e : Expression) : Bool := (e.mode? {}).isSome

end Vigil.Pattern
