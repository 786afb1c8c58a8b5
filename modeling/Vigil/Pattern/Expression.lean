/-!
# Regular expressions

Expressions as they are written, and two bounds that they have to keep.

* `Flags`: changes of how an expression is read and matched;
* `Literal`, `ClassOperator`, `Class`: single characters and classes of them;
* `Expression`: an expression;
* `Expression.nesting`: how deep its parts lie in each other;
* `Expression.names`: the names of its groups.
-/

namespace Vigil.Pattern

/-- Flags in the order in which they are written, each with its new value. -/
abbrev Flags := List (Char × Bool)

/-- The value of a flag after a change. -/
def Flags.valueOf (flags : Flags) (flag : Char) (before : Bool) : Bool :=
  (flags.lookup flag).getD before

/-- A character that stands for itself.  If written by two hexadecimal digits, it can stand for a
byte. -/
structure Literal where
  char : Char
  byte : Bool := false
  deriving DecidableEq, Repr

/-- Whether a literal lies beyond ASCII. -/
def Literal.isWide (l : Literal) : Bool := 0x80 ≤ l.char.toNat

/-- How two classes are combined. -/
inductive ClassOperator where
  | intersection
  | difference
  | symmetricDifference
  deriving DecidableEq, Repr

/-- A class of characters, or a part of one.  Among those with a name, the named ones are of ASCII,
a shorthand names digits, spaces or word characters by a letter, and a property is one of Unicode;
many can stand for their complement. -/
inductive Class where
  | literal (l : Literal)
  | range (low high : Literal)
  | named (negated : Bool)
  | shorthand (negated : Bool)
  | property
  | bracketed (negated : Bool) (body : Class)
  | union (parts : List Class)
  | combined (operator : ClassOperator) (left right : Class)

/-- A regular expression.  A place is one between characters; `word` says whether it is where a word
begins or ends.  A setting changes flags up to the end of its group, and those of a group hold in
the group.  `oneOf` is not given a union. -/
inductive Expression where
  | literal (l : Literal)
  | any
  | place (word : Bool)
  | oneOf (c : Class)
  | setting (flags : Flags)
  | repeated (e : Expression)
  | group (name : Option String) (flags : Flags) (e : Expression)
  | sequence (es : List Expression)
  | choice (es : List Expression)

/-! ## Smart constructors -/

/-- The union of parts; a single part is not wrapped. -/
def Class.ofParts : List Class → Class
  | [c] => c
  | parts => .union parts

/-- Expressions one after the other; a single one is not wrapped. -/
def Expression.ofSequence : List Expression → Expression
  | [e] => e
  | es => .sequence es

/-- A choice between expressions; a single one is not wrapped. -/
def Expression.ofChoice : List Expression → Expression
  | [e] => e
  | es => .choice es

/-- Whether an expression can be repeated: a change of flags cannot. -/
def Expression.isRepeatable : Expression → Bool
  | .setting _ => false
  | _ => true

/-! ## Nesting -/

mutual

/-- How deep the parts of a class lie in each other.  Nothing that has no parts counts. -/
def Class.nesting : Class → Nat
  | .bracketed _ body => body.nesting + 1
  | .union [] => 0
  | .union (c :: cs) => Class.nestings (c :: cs) + 1
  | .combined _ left right => max left.nesting right.nesting + 1
  | _ => 0

/-- The greatest nesting of some classes. -/
def Class.nestings : List Class → Nat
  | [] => 0
  | c :: cs => max c.nesting (Class.nestings cs)

end

mutual

/-- How deep the parts of an expression lie in each other.  Nothing that has no parts counts. -/
def Expression.nesting : Expression → Nat
  | .oneOf c => c.nesting
  | .repeated e => e.nesting + 1
  | .group _ _ e => e.nesting + 1
  | .sequence [] => 0
  | .sequence (e :: es) => Expression.nestings (e :: es) + 1
  | .choice es => Expression.nestings es + 1
  | _ => 0

/-- The greatest nesting of some expressions. -/
def Expression.nestings : List Expression → Nat
  | [] => 0
  | e :: es => max e.nesting (Expression.nestings es)

end

/-- How deep the parts of an expression may lie in each other. -/
def maxNesting : Nat := 250

/-! ## Names -/

mutual

/-- The names of the groups of an expression. -/
def Expression.names : Expression → List String
  | .repeated e => e.names
  | .group name _ e => name.toList ++ e.names
  | .sequence es => Expression.namesOf es
  | .choice es => Expression.namesOf es
  | _ => []

/-- The names of the groups of some expressions. -/
def Expression.namesOf : List Expression → List String
  | [] => []
  | e :: es => e.names ++ Expression.namesOf es

end

/-- Whether an expression keeps the bounds: its nesting, and no two groups of one name. -/
def Expression.isBounded (e : Expression) : Bool := e.nesting ≤ maxNesting && e.names.Nodup

end Vigil.Pattern
