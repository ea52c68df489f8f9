/-!
# Reports on refused values

A value that is read against a schema is either accepted or refused with a report: the schema's
title and at least one violation, each with its place in the value and the rule that is broken.
Violations stand in the order of the schema's fields; those of a list in the order of its items.
-/

namespace LoadDispatch.Schema

/-- One step from a value to a value inside it. -/
inductive Step where
  /-- To a member of an object. -/
  | member (key : String)
  /-- To an item of an array. -/
  | item (index : Nat)
deriving DecidableEq, Repr

/-- A step as it is written in a line. -/
def Step.text : Step → String
  | .member key => key
  | .item index => toString index

/-- A rule that a value can break. -/
inductive Rule where
  /-- An object is expected. -/
  | object
  /-- An array is expected. -/
  | array
  /-- A member is required. -/
  | required
  /-- A string is expected. -/
  | text
  /-- A string has to be without lone surrogates. -/
  | wellFormed
  /-- An integer is expected. -/
  | whole
  /-- A text has to be an integer. -/
  | wholeText
  /-- A text has to be an integer of not too many digits. -/
  | wholeTextSize
  /-- A float has to be without fraction. -/
  | noFraction
  /-- A float has to be finite. -/
  | finite
  /-- A number has to reach a least value. -/
  | atLeast
  /-- A number has to stay below a greatest value. -/
  | atMost
  /-- A truth value is expected. -/
  | truth
  /-- A text or number has to be a truth value. -/
  | truthText
  /-- A float is expected. -/
  | real
  /-- A text has to be a float. -/
  | realText
  /-- The fields together have to keep a rule, given in words. -/
  | agreed (words : String)
deriving DecidableEq, Repr

/-- The label of a rule in a report. -/
def Rule.label : Rule → String
  | .object => "model_type"
  | .array => "list_type"
  | .required => "missing"
  | .text => "string_type"
  | .wellFormed => "string_unicode"
  | .whole => "int_type"
  | .wholeText => "int_parsing"
  | .wholeTextSize => "int_parsing_size"
  | .noFraction => "int_from_float"
  | .finite => "finite_number"
  | .atLeast => "greater_than_equal"
  | .atMost => "less_than_equal"
  | .truth => "bool_type"
  | .truthText => "bool_parsing"
  | .real => "float_type"
  | .realText => "float_parsing"
  | .agreed _ => "value_error"

/-- The words that go with a rule's label, where the label does not say it all. -/
def Rule.detail? : Rule → Option String
  | .agreed words => some ("Value error, " ++ words)
  | _ => none

/-- A broken rule and the place where it is broken. -/
structure Violation where
  /-- The way from the whole value to the place. -/
  location : List Step
  /-- The rule that is broken there. -/
  rule : Rule
deriving DecidableEq, Repr

/-- A violation seen from one step further outside. -/
def Violation.under (step : Step) (v : Violation) : Violation :=
  { v with location := step :: v.location }

/-- A violation as a line: its place, and what is wrong there. -/
def Violation.line (v : Violation) : String :=
  ".".intercalate (v.location.map Step.text) ++ ": " ++ v.rule.detail?.getD v.rule.label

/-- Why a value is refused. -/
structure Report where
  /-- The title of the schema. -/
  title : String
  /-- The violations, in the order of the schema. -/
  violations : List Violation
deriving DecidableEq, Repr

/-- What a message shows of a report.  The violations travel beside the message. -/
def Report.summary (_ : Report) : String :=
  "<validation>"

end LoadDispatch.Schema
