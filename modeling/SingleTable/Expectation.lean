import SingleTable.Pattern.Glob
import SingleTable.Value.Basic

/-!
# Expectations

An expectation is a constraint on one value of a row that may be missing: a value
that it equals, a glob or an expression that it matches, bounds for an instant.
Null counts as missing.  A failed check tells how the value falls short.
-/

namespace SingleTable

/-- Constraints on an instant. -/
structure InstantBounds where
  earliest : Option Instant := none
  latest : Option Instant := none
  year : Option Int := none
  month : Option Int := none
  day : Option Int := none
  hour : Option Int := none
  minute : Option Int := none
  second : Option Int := none

/-- A constraint on a value that may be missing. -/
inductive Expectation where
  | anything
  | notNull
  | equals (expected : Value)
  | nullOr (expected : Value)
  | among (allowed : List Value)
  | notAmong (excluded : List Value)
  | kind (kinds : List String)
  | like (glob : String) (ignoreCase nullable : Bool)
  | regular (expression : String) (groups : List (String × String)) (nullable : Bool)
  | instant (bounds : InstantBounds) (nullable : Bool)

/-- How a value falls short of an expectation. -/
inductive Shortfall where
  | isNull
  | notEqual (expected : Value) (found : Option Value)
  | neitherNullNor (expected found : Value)
  | notAllowed (allowed : List Value) (found : Option Value)
  | excluded (all : List Value) (found : Value)
  | wrongKind (kinds : List String) (kind : String)
  | invalidGlob (glob : String)
  | unlike (glob : String) (found : Value)
  | invalidExpression
  | noMatch (expression : String)
  | wrongGroup (group expected : String) (found : Option String)
  | nullInstant
  | noInstant
  | tooEarly
  | tooLate
  | wrongField (field : String) (expected : Int)

namespace Shortfall

/-- The wording for the value of an attribute. -/
def message (name : String) : Shortfall → String
  | .isNull => ofValue ++ " not to be null."
  | .notEqual expected found =>
    "Expected the row value for \"" ++ name ++ "\" to be " ++ expected.describe ++
      ", but instead it was " ++ Value.describe? found ++ "."
  | .neitherNullNor expected found =>
    ofValue ++ " to match " ++ expected.describe ++ " instead of " ++ found.describe ++ "."
  | .notAllowed allowed found =>
    ofValue ++ " to be one of " ++ Value.describeAll allowed ++ ", found " ++
      Value.describe? found ++ "."
  | .excluded all found =>
    ofValue ++ " not to be any of " ++ Value.describeAll all ++ ", but it was " ++
      found.describe ++ "."
  | .wrongKind kinds kind =>
    ofValue ++ " to be one of the kinds " ++ Text.quoteAll kinds ++ ", but it was " ++
      kind ++ "."
  | .invalidGlob glob => "Invalid glob \"" ++ glob ++ "\""
  | .unlike glob found =>
    ofValue ++ " to match the specified comparison \"" ++ glob ++ "\" != " ++
      found.describe ++ "."
  | .invalidExpression => "Invalid regex"
  | .noMatch expression => ofValue ++ " to match the pattern \"" ++ expression ++ "\"."
  | .wrongGroup group expected found =>
    ofValue ++ " to have the matching group \"" ++ group ++ "\" with the value \"" ++
      expected ++ "\" and not " ++ Text.quoteOption found ++ "."
  | .nullInstant => ofInstant ++ " not to be null."
  | .noInstant => ofInstant ++ " to be an ISO datetime string."
  | .tooEarly => ofInstant ++ " to be a more recent value."
  | .tooLate => ofInstant ++ " to be a less recent value."
  | .wrongField field expected =>
    ofInstant ++ " to be the " ++ field ++ " " ++ Number.intText expected ++ "."
where
  /-- How most messages begin. -/
  ofValue : String := "Expected the value of \"" ++ name ++ "\""
  /-- How messages about instants begin. -/
  ofInstant : String := "Expected the ISO datetime value of the \"" ++ name ++ "\""

end Shortfall

namespace InstantBounds

/-- The constraints on single fields of an instant, with what the instant has there. -/
def fields (bounds : InstantBounds) (t : Instant) : List (String × Option Int × Int) :=
  [("year", bounds.year, t.year), ("month", bounds.month, t.month),
   ("day", bounds.day, t.day), ("hour", bounds.hour, t.hour),
   ("minute", bounds.minute, t.minute), ("second", bounds.second, t.second)]

/-- The first constraint that an instant falls short of. -/
def check (bounds : InstantBounds) (t : Instant) : Except Shortfall Unit :=
  if bounds.earliest.any t.before then .error .tooEarly
  else if bounds.latest.any (·.before t) then .error .tooLate
  else
    (bounds.fields t).forM fun (field, expected, actual) =>
      match expected with
      | some expected =>
        if expected = actual then .ok () else .error (.wrongField field expected)
      | none => .ok ()

end InstantBounds

namespace Expectation

/-- The check fails unless the condition holds. -/
def require (condition : Bool) (shortfall : Shortfall) : Except Shortfall Unit :=
  if condition then .ok () else .error shortfall

/-- A text matches a glob. -/
def checkLike (glob : String) (ignoreCase : Bool) (value : Value) : Except Shortfall Unit :=
  match Glob.compile? glob ignoreCase with
  | none => .error (.invalidGlob glob)
  | some pattern =>
    require (pattern.isMatch (value.string?.getD "").toList) (.unlike glob value)

/-- An expression matches a text from its start, with the given texts in its groups. -/
def checkPattern (expression : String) (groups : List (String × String)) (value : Value) :
    Except Shortfall Unit :=
  match Pattern.Expression.compile? ("^(?:" ++ expression ++ ")") with
  | none => .error .invalidExpression
  | some compiled =>
    match compiled.captures? (value.string?.getD "") with
    | none => .error (.noMatch expression)
    | some captures =>
      groups.forM fun (group, expected) =>
        let found := captures.named? group
        require (found == some expected) (.wrongGroup group expected found)

/-- The instant that a value is, or that its text denotes. -/
def instantOf? : Value → Option Instant
  | .instant t => some t
  | .string text => Instant.ofText? text
  | _ => none

/-- Check a value that is not null, or a missing one. -/
def checkPresent (expectation : Expectation) (value : Option Value) :
    Except Shortfall Unit :=
  match expectation, value with
  | .anything, _ => .ok ()
  | .notNull, value => require value.isSome .isNull
  | .equals expected, value => require (value.any (·.same expected)) (.notEqual expected value)
  | .nullOr _, none => .ok ()
  | .nullOr expected, some value =>
    require (value.same expected) (.neitherNullNor expected value)
  | .among allowed, value =>
    require (value.any fun value => allowed.any (·.same value)) (.notAllowed allowed value)
  | .notAmong _, none => .ok ()
  | .notAmong all, some value => require (!all.any (·.same value)) (.excluded all value)
  | .kind kinds, value =>
    let kind := (value.map Value.kind).getD Value.null.kind
    require (kinds.contains kind) (.wrongKind kinds kind)
  | .like _ _ nullable, none => require nullable .isNull
  | .like glob ignoreCase _, some value => checkLike glob ignoreCase value
  | .regular expression _ nullable, none => require nullable (.noMatch expression)
  | .regular expression groups _, some value => checkPattern expression groups value
  | .instant _ nullable, none => require nullable .nullInstant
  | .instant bounds _, some value =>
    match instantOf? value with
    | some t => bounds.check t
    | none => .error .noInstant

/-- Null counts as missing. -/
def present : Value → Option Value
  | .null => none
  | value => some value

/-- Check a value that may be missing. -/
def check (expectation : Expectation) (value : Option Value) : Except Shortfall Unit :=
  expectation.checkPresent (value.bind present)

@[simp]
theorem check_null (expectation : Expectation) :
    expectation.check (some .null) = expectation.check none := rfl

end Expectation

end SingleTable
