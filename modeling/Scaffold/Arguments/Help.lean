import Scaffold.Arguments.Grammar

/-! # Help on arguments

The help of a command shows how it is used, and then explains its slots and options in two columns.
Lines are filled with words up to a fixed width.
-/

namespace Scaffold.Arguments

/-- The width of a line of help. -/
def lineWidth : Nat := 78

/-- The column of the explanations, unless all that is explained is short. -/
def aboutColumn : Nat := 24

def blanks (n : Nat) : String := String.ofList (List.replicate n ' ')

def spaced (words : List String) : String := String.intercalate " " words

/-- Words filled into lines. A line ends where the next word would go beyond `width`; `line` is the
one that is being filled, up to the column `used`, and later lines start at `indent`. -/
def fill (width indent used : Nat) (line : List String) : List String → List (List String)
  | [] => [line]
  | w :: ws =>
    if line = [] then fill width indent (used + w.length) [w] ws
    else if used + 1 + w.length > width then
      line :: fill width indent (indent + w.length) [w] ws
    else fill width indent (used + 1 + w.length) (line ++ [w]) ws

/-- A text filled into lines. -/
def wrap (width : Nat) (text : String) : List String :=
  (fill width 0 0 [] ((Text.split ' ' text.toList).map String.ofList)).map spaced

/-- Words with an explanation each, padded to twelve. -/
def topicLines (topics : List (String × String)) : List String :=
  topics.map fun t => "  " ++ t.1 ++ blanks (12 - t.1.length) ++ " " ++ t.2

namespace Opt

def withPlaceholder (o : Opt) (name : String) : String :=
  match o.role with
  | .value placeholder => s!"{name} {placeholder}"
  | .help | .flag => name

/-- An option as it stands in the usage. -/
def usage (o : Opt) : String := s!"[{o.withPlaceholder (o.names.headD o.key)}]"

def heading (o : Opt) : String := Text.commaList (o.names.map o.withPlaceholder)

end Opt

namespace Slot

def heading (s : Slot) : String :=
  if s.choices = [] then s.name
  else "\x7b" ++ String.intercalate "," (s.choices.map Prod.fst) ++ "\x7d"

/-- A slot as it stands in the usage. -/
def usage (s : Slot) : List String :=
  match s.span with
  | .one => [s.heading]
  | .rest => ["..."]
  | .command => [s.heading, "..."]

end Slot

/-- A line of the help in two columns. -/
structure Entry where
  indent : Nat := 2
  heading : String
  about : String

namespace Entry

def ofOpt (o : Opt) : Entry where
  heading := o.heading
  about := o.about

/-- A slot, followed by its choices if they are commands. -/
def ofSlot (s : Slot) : List Entry :=
  let commands := if s.span = .command then s.choices else []
  { heading := s.heading, about := s.about } :: commands.map fun c => ⟨4, c.1, c.2⟩

/-- The column where the heading ends. -/
def headEnd (e : Entry) : Nat := e.indent + e.heading.length

/-- The explanation starts behind a heading that leaves room for it, or else on a line of its
own. -/
def lines (column : Nat) (e : Entry) : List String :=
  let head := blanks e.indent ++ e.heading
  let about := wrap (lineWidth - column) e.about
  match about with
  | first :: others =>
    if e.about = "" then [head]
    else if e.headEnd + 2 ≤ column then
      (head ++ blanks (column - e.headEnd) ++ first) :: others.map (blanks column ++ ·)
    else head :: about.map (blanks column ++ ·)
  | [] => [head]

end Entry

namespace Grammar

/-- How a command is used: on one line, or else with its slots on a line after the options. -/
def usage (g : Grammar) : List String :=
  let lead := "usage: "
  let options := g.program :: g.options.map Opt.usage
  let slots := g.slots.flatMap Slot.usage
  let whole := lead ++ spaced (options ++ slots)
  if whole.length ≤ lineWidth then [whole]
  else
    let indent := lead.length + g.program.length + 1
    let below := (fill lineWidth indent indent [] slots).map fun l => blanks indent ++ spaced l
    match fill lineWidth indent lead.length [] options with
    | first :: others =>
      (lead ++ spaced first) :: others.map (fun l => blanks indent ++ spaced l) ++ below
    | [] => below

/-- A titled part of the help; there is none without entries. -/
def part (column : Nat) (title : String) (entries : List Entry) : List String :=
  if entries.isEmpty then [] else "" :: title :: entries.flatMap (Entry.lines column)

def help (g : Grammar) : String :=
  let slots := g.slots.flatMap Entry.ofSlot
  let options := g.options.map Entry.ofOpt
  let widest := (slots ++ options).foldl (fun n e => max n e.headEnd) 0
  let column := min aboutColumn (widest + 2)
  let about := if g.about = "" then [] else ["", g.about]
  let topics := if g.topics = [] then [] else "" :: topicLines g.topics
  let lines := g.usage ++ about ++ part column "positional arguments:" slots ++
    part column "options:" options ++ topics
  String.join (lines.map (· ++ "\n"))

/-- What a user is told whose arguments are wrong. -/
def refusal (g : Grammar) (p : Problem) (code : Char → Nat := Char.toNat) : String :=
  String.join (g.usage.map (· ++ "\n")) ++ s!"{g.program}: error: {p.message code}\n"

end Grammar

end Scaffold.Arguments
