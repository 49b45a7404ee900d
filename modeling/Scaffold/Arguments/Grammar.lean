import Scaffold.Text.Quoted
import Scaffold.Text.Split

/-! # Argument grammars

What the arguments of a command may be: options, whose names start with a dash, and slots, which the
other arguments fill in their order. Whatever can be wrong with arguments is worded here.
-/

namespace Scaffold.Arguments

/-- What an option does. One that takes a word has a placeholder for it. -/
inductive Role
  | help
  | flag
  | value (placeholder : String)
  deriving DecidableEq, Repr

structure Opt where
  names : List String
  role : Role
  about : String
  deriving DecidableEq, Repr

/-- What a slot takes: one word, all that is left, or a word and all that is behind it. -/
inductive Span
  | one
  | rest
  | command
  deriving DecidableEq, Repr

structure Slot where
  name : String
  about : String := ""
  span : Span := .one
  /-- The words for the slot, and what each means; every word will do if there are none. -/
  choices : List (String × String) := []
  deriving DecidableEq, Repr

structure Grammar where
  program : String
  about : String := ""
  options : List Opt
  slots : List Slot
  /-- What the help explains at its end. -/
  topics : List (String × String) := []
  deriving DecidableEq, Repr

namespace Opt

/-- The name that an option goes by once it is read: the last one. -/
def key (o : Opt) : String := o.names.getLastD ""

def label (o : Opt) : String := String.intercalate "/" o.names

def takesWord (o : Opt) : Bool :=
  match o.role with
  | .value _ => true
  | .help | .flag => false

end Opt

def Grammar.option? (g : Grammar) (name : String) : Option Opt :=
  g.options.find? fun o => o.names.contains name

inductive Problem
  | ambiguous (argument : String) (names : List String)
  | wordMissing (o : Opt)
  | wordUnused (o : Opt) (word : String)
  | notAChoice (s : Slot) (word : String)
  | unfilled (slots : List String)
  | unrecognized (arguments : List String)
  deriving DecidableEq, Repr

def Problem.message (p : Problem) (code : Char → Nat := Char.toNat) : String :=
  match p with
  | ambiguous argument names =>
    s!"ambiguous option: {argument} could match {Text.commaList names}"
  | wordMissing o => s!"argument {o.label}: expected one argument"
  | wordUnused o word => s!"argument {o.label}: ignored explicit argument {Text.quote word code}"
  | notAChoice s word =>
    let choices := Text.commaList (s.choices.map fun c => Text.quote c.1)
    s!"argument {s.name}: invalid choice: {Text.quote word code} (choose from {choices})"
  | unfilled slots => s!"the following arguments are required: {Text.commaList slots}"
  | unrecognized arguments => "unrecognized arguments: " ++ String.intercalate " " arguments

end Scaffold.Arguments
