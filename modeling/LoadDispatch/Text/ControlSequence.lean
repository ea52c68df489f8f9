/-!
# Control sequences

A terminal takes an escape character with an opening bracket behind it as the beginning of a
control sequence: parameters (digits, semicolons and question marks) and one letter that says what
to do with them.  Written anywhere else than to a terminal a text is better without them.

What only begins like a control sequence is text and stays.
-/

namespace LoadDispatch.Text

/-- A character of the parameters of a control sequence. -/
def isControlParameter (c : Char) : Bool :=
  c.isDigit || c == ';' || c == '?'

/-- The number of characters behind an escape character that make a control sequence with it. -/
def controlLength? : List Char → Option Nat
  | '[' :: rest =>
    let parameters := rest.takeWhile isControlParameter
    match rest.drop parameters.length with
    | c :: _ => if c.isAlpha then some (parameters.length + 2) else none
    | [] => none
  | _ => none

/-- Leaves out `skip` characters and then every control sequence. -/
def withoutControlsFrom : Nat → List Char → List Char
  | _, [] => []
  | skip + 1, _ :: cs => withoutControlsFrom skip cs
  | 0, c :: cs =>
    match (if c = '\x1b' then controlLength? cs else none) with
    | some n => withoutControlsFrom n cs
    | none => c :: withoutControlsFrom 0 cs

/-- A text without its control sequences. -/
def withoutControls (s : String) : String :=
  String.ofList (withoutControlsFrom 0 s.toList)

end LoadDispatch.Text
